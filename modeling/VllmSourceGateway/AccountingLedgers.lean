import VllmSourceGateway.FailoverDiscipline
import VllmSourceGateway.LeaseLifecycle
import VllmSourceGateway.RequestEmissions
import VllmSourceGateway.RequestTotals

set_option autoImplicit false

/-! The two token-accounting counters, `gateway_token_accounting_total` and its
variant by department and model, as two ledgers of the same entries. -/
namespace VllmSourceGateway.AccountingLedgers
open PyText PyValues UsageExtractors Metrics Config AdmissionControl Routing GatewayEffects
open StreamBytes UpstreamHeaders ProxyEndpoint RequestSegments GatewaySystem LeaseLifecycle
open FailoverDiscipline RequestEmissions RequestTotals TransitionRuns

def isAccounting : MetricEvent → Bool
  | .tokenAccounting _ _ | .modelTokenAccounting _ _ _ _ => true
  | _ => false

/-- The labels that the variant has and `gateway_token_accounting_total` has not. -/
def departmentModel? : MetricEvent → Option (String × String)
  | .modelTokenAccounting department modelName _ _ => some (department, modelName)
  | _ => none

def tokenLedger (metrics : GatewayMetrics) (endpoint : Endpoint) (status : AccountingStatus) : ℕ :=
  metrics.count (.tokenAccounting endpoint status)

/-- The variant summed over all departments and models it has a child for. -/
def modelLedger (metrics : GatewayMetrics) (endpoint : Endpoint) (status : AccountingStatus) : ℕ :=
  ∑ labels ∈ (metrics.filterMap departmentModel?).toFinset,
    metrics.count (.modelTokenAccounting labels.1 labels.2 endpoint status)

def modelAccounts (endpoint : Endpoint) (status : AccountingStatus) : MetricEvent → Bool
  | .modelTokenAccounting _ _ e s => decide (e = endpoint ∧ s = status)
  | _ => false

theorem sum_count_labels (endpoint : Endpoint) (status : AccountingStatus)
    (labels : Finset (String × String)) {metrics : GatewayMetrics}
    (h : ∀ pair ∈ metrics.filterMap departmentModel?, pair ∈ labels) :
    ∑ pair ∈ labels, metrics.count (.modelTokenAccounting pair.1 pair.2 endpoint status) =
      metrics.countP (modelAccounts endpoint status) := by
  induction metrics with
  | nil => simp
  | cons event metrics ih =>
    have hrest := ih fun pair hpair => by
      refine h pair ?_
      rw [List.filterMap_cons]
      split
      · exact hpair
      · exact List.mem_cons_of_mem _ hpair
    simp only [List.count_cons, List.countP_cons, Finset.sum_add_distrib, hrest]
    congr 1
    cases event with
    | modelTokenAccounting department modelName e s =>
      have hmem : (department, modelName) ∈ labels := h _ (by simp [departmentModel?])
      by_cases hlabels : e = endpoint ∧ s = status
      · obtain ⟨rfl, rfl⟩ := hlabels
        have hhit (pair : String × String) :
            (MetricEvent.modelTokenAccounting department modelName e s ==
              .modelTokenAccounting pair.1 pair.2 e s) = decide ((department, modelName) = pair) := by
          rw [beq_eq_decide]
          simp [Prod.ext_iff]
        simp [hhit, hmem, modelAccounts]
      · have hmiss (pair : String × String) :
            (MetricEvent.modelTokenAccounting department modelName e s ==
              .modelTokenAccounting pair.1 pair.2 endpoint status) = false := by
          simpa [beq_eq_decide] using fun _ _ => not_and.mp hlabels
        simp [hmiss, modelAccounts, hlabels]
    | _ => simp [modelAccounts, beq_eq_decide]

theorem modelLedger_eq (metrics : GatewayMetrics) (endpoint : Endpoint)
    (status : AccountingStatus) :
    modelLedger metrics endpoint status = metrics.countP (modelAccounts endpoint status) :=
  sum_count_labels endpoint status _ fun _ => List.mem_toFinset.mpr

def accounting? : Effect → Option MetricEvent
  | .metric event => if isAccounting event then some event else none
  | _ => none

def accountingOf (trace : List Effect) : List MetricEvent := trace.filterMap accounting?

theorem accountingOf_append (xs ys : List Effect) :
    accountingOf (xs ++ ys) = accountingOf xs ++ accountingOf ys := List.filterMap_append

theorem traceTotal_accounting {p : MetricEvent → Bool}
    (hp : ∀ event, p event = true → isAccounting event = true) (trace : List Effect) :
    traceTotal (metricWeight fun event => if p event then 1 else 0) trace =
      (accountingOf trace).countP p := by
  induction trace with
  | nil => rfl
  | cons effect trace ih =>
    have hsum : traceTotal (metricWeight fun event => if p event then 1 else 0) (effect :: trace) =
        metricWeight (fun event => if p event then 1 else 0) effect +
          (accountingOf trace).countP p := by
      rw [← ih]
      exact List.sum_cons
    rw [hsum]
    simp only [accountingOf, List.filterMap_cons]
    cases effect with
    | metric event =>
      cases haccounting : isAccounting event with
      | true =>
        simp only [metricWeight, accounting?, haccounting, if_true, List.countP_cons]
        exact Nat.add_comm _ _
      | false =>
        have hnot : p event = false := by
          by_contra hother
          simp [hp event (by simpa using hother)] at haccounting
        simp [metricWeight, accounting?, haccounting, hnot]
    | _ => simp [metricWeight, accounting?]

/-- Each counter holds what the requests have added to it. -/
theorem metrics_accounting {P : Platform} {config : AppConfig} {s : System}
    (h : Reachable (step P config) (initial config) s) {p : MetricEvent → Bool}
    (hp : ∀ event, p event = true → isAccounting event = true) :
    s.gateway.metrics.countP p =
      (s.tasks.map fun task => (accountingOf task.trace).countP p).sum := by
  have hcount (metrics : GatewayMetrics) :
      (metrics.map fun event => if p event then 1 else 0).sum = metrics.countP p := by
    induction metrics with
    | nil => rfl
    | cons event metrics ih =>
      rw [List.map_cons, List.sum_cons, ih, List.countP_cons, Nat.add_comm]
  have hsilent (event : MetricEvent) (hadmission : fromAdmission event = true) :
      (if p event then 1 else 0) = 0 := by
    refine if_neg fun hevent => ?_
    have haccounting := hp event hevent
    cases event <;> simp [fromAdmission, isAccounting] at hadmission haccounting
  have htotal := metrics_total hsilent h
  rw [hcount] at htotal
  rw [htotal, taskTotal]
  simp only [traceTotal_accounting hp]

/-- One increment of each counter, with the same endpoint and status. -/
def AccountedOnce (trace : List Effect) : Prop :=
  ∃ department modelName endpoint status, accountingOf trace =
    [.tokenAccounting endpoint status, .modelTokenAccounting department modelName endpoint status]

def isContact : Effect → Bool
  | .contact _ _ _ _ => true
  | _ => false

def isReply : Effect → Bool
  | .attemptEnded _ _ (.ok _) => true
  | _ => false

def Dispatched (trace : List Effect) : Prop := trace.any isContact = true

/-- The handling ended without an exception of its own: with a response, without
any upstream having answered, or at the end of the body's `finally` block. -/
def FullyHandled (task : Task) : Prop :=
  match task.point with
  | .finished (.responded _) => True
  | .finished (.raised _) => task.trace.any isReply = false
  | .streaming _ (.finished _) => ∃ ctx exit,
    (Point.streaming ctx (.awaitClose exit), Input.stream .closed) ∈ task.steps ∧
      ∀ e, (finallyBlock ctx exit).2 ≠ .raises e
  | _ => False

/-- An exception at the await of a failover loop is an error of the connect stage,
and there is an upstream to fail over to. -/
def failsOver (registry : RoutingRegistry) : Point → Input → Bool
  | .awaitSend flight, .raised e | .awaitPost flight, .raised e =>
    match e with
    | .httpx error => isConnectStageRetryableError error &&
      (registry.pool flight.modelName).any (eligible registry flight.attemptedUpstreamNames)
    | _ => false
  | _, _ => true

def stepFailsOver (s : System) : Event → Bool
  | .resume i input _ =>
    match s.tasks[i]? with
    | some task => failsOver s.gateway.registry task.point input
    | none => true
  | _ => true

/-- The counters agree, hold what the requests have added to them, and each
dispatched request that was fully handled has added one to each. -/
structure LedgersAgree (s : System) : Prop where
  equal : ∀ endpoint status, tokenLedger s.gateway.metrics endpoint status =
    modelLedger s.gateway.metrics endpoint status
  entered : ∀ event, isAccounting event = true → s.gateway.metrics.count event =
    (s.tasks.map fun task => (accountingOf task.trace).count event).sum
  once : ∀ task ∈ s.tasks, Dispatched task.trace → FullyHandled task → ∃ modelName status,
    accountingOf task.trace = [.tokenAccounting task.request.endpoint status,
      .modelTokenAccounting task.request.department modelName task.request.endpoint status]

section
variable {P : Platform} {config : AppConfig} {request : ProxyRequest} {g : Gateway} {now : ℚ}

theorem failsOver_raised {registry : RoutingRegistry} {point : Point} {flight : Flight} {e : Exn}
    (hpoint : point = .awaitSend flight ∨ point = .awaitPost flight)
    (h : failsOver registry point (.raised e) = true) :
    (∃ error, e = .httpx error ∧ isConnectStageRetryableError error = true) ∧
      ∃ upstream ∈ registry.pool flight.modelName,
        eligible registry flight.attemptedUpstreamNames upstream = true := by
  cases e with
  | httpx error =>
    rcases hpoint with rfl | rfl <;>
    · simp only [failsOver, Bool.and_eq_true, List.any_eq_true] at h
      exact ⟨⟨error, rfl, h.1⟩, h.2⟩
  | _ => rcases hpoint with rfl | rfl <;> cases h

theorem accountingOf_increment {event : ℤ → MetricEvent}
    (hevent : ∀ amount, isAccounting (event amount) = false) (amount : ℤ) :
    accountingOf (increment event amount) = [] := by
  simp only [increment]
  split
  · simp [accountingOf, accounting?, hevent]
  · rfl

theorem accountingOf_noteUpstreamStatus (modelName : String) (statusCode : ℕ) :
    accountingOf (noteUpstreamStatus request modelName statusCode) = [] := by
  simp only [noteUpstreamStatus]
  split <;> split <;> rfl

theorem accountedOnce_pair (department modelName : String) (endpoint : Endpoint)
    (status : AccountingStatus) :
    AccountedOnce (recordTokenAccounting department modelName endpoint status) :=
  ⟨department, modelName, endpoint, status, rfl⟩

/-- Accounting enters one increment of each counter, or raises and enters nothing. -/
theorem accounted_entries {accepts : ℤ → Bool} {department modelName : String}
    {endpoint : Endpoint} {status : ℕ} {usage : Option Usage} {effects : List Effect}
    {raised : Option Exn}
    (h : Accounted accepts department modelName endpoint status usage effects raised) :
    raised = none ∧ AccountedOnce effects ∨ raised ≠ none ∧ accountingOf effects = [] := by
  cases h with
  | missing => exact .inl ⟨rfl, accountedOnce_pair _ _ _ _⟩
  | promptRefused => exact .inr ⟨by simp, rfl⟩
  | generationRefused => exact .inr ⟨by simp, accountingOf_increment (fun _ => rfl) _⟩
  | recorded =>
    refine .inl ⟨rfl, department, modelName, endpoint, .recorded, ?_⟩
    have hprompt (amount : ℤ) :
        accountingOf (increment (.promptTokens department modelName) amount) = [] :=
      accountingOf_increment (fun _ => rfl) amount
    have hgeneration (amount : ℤ) :
        accountingOf (increment (.generationTokens department modelName) amount) = [] :=
      accountingOf_increment (fun _ => rfl) amount
    simp only [accountingOf_append, hprompt, hgeneration, List.nil_append]
    rfl

theorem handleResponse_entries (modelName : String) (statusCode : ℕ)
    (headers : List (String × String)) (content : List UInt8) :
    let handled := handleResponse P request modelName statusCode headers content
    AccountedOnce handled.1 ∨ accountingOf handled.1 = [] ∧ ∃ e, handled.2 = .raised e := by
  simp only [handleResponse]
  split
  · split
    · exact .inl (accountedOnce_pair _ _ _ _)
    · exact .inr ⟨rfl, _, rfl⟩
  · split
    · exact .inr ⟨rfl, _, rfl⟩
    · rename_i usage _
      have hentries := accounted_entries (accountUsage_cases P.counterAccepts request.department
        modelName request.endpoint statusCode usage)
      rcases hentries with ⟨_, honce⟩ | ⟨hraised, hnone⟩
      · exact .inl honce
      · obtain ⟨e, he⟩ := Option.ne_none_iff_exists'.mp hraised
        exact .inr ⟨hnone, e, by rw [he]⟩

theorem finallyBlock_entries (ctx : StreamContext) (exit : Exit) :
    AccountedOnce (finallyBlock ctx exit).1 ∨
      accountingOf (finallyBlock ctx exit).1 = [] ∧ ∃ e, (finallyBlock ctx exit).2 = .raises e := by
  simp only [finallyBlock]
  split
  · exact .inl ⟨_, _, _, _, rfl⟩
  · split
    · exact .inl ⟨_, _, _, _, rfl⟩
    · split
      · exact .inl ⟨_, _, _, _, rfl⟩
      · have hentries := accounted_entries (accountUsage_cases ctx.counterAccepts ctx.department
          ctx.modelName ctx.endpoint ctx.statusCode exit.parse.latestUsage)
        rcases hentries with ⟨_, department, modelName, endpoint, status, honce⟩ | ⟨hraised, hnone⟩
        · exact .inl ⟨department, modelName, endpoint, status, honce⟩
        · obtain ⟨e, he⟩ := Option.ne_none_iff_exists'.mp hraised
          exact .inr ⟨hnone, e, by rw [he]⟩

theorem segment_live {point point' : Point} {input : Input} {effects : List Effect}
    (h : Segment P config request g now point input effects point') : isOver point = false := by
  cases h with
  | rejected | misshapen | refused | unroutable | started | cancelled | opened | unbuildable
  | answered => rfl
  | retried _ _ _ hpoint => rcases hpoint with ⟨rfl, _⟩ | ⟨rfl, _⟩ <;> rfl
  | exhausted _ _ hpoint | failed _ hpoint => rcases hpoint with rfl | rfl <;> rfl
  | broken _ hpoint => rcases hpoint with ⟨rfl, _⟩ | rfl <;> rfl
  | @streamed ctx point point' input effects hresume =>
    cases point with
    | finished outcome => cases input <;> cases hresume
    | _ => rfl

/-- What one resumption enters when it fails over or does not fail. -/
structure Enters (point : Point) (input : Input) (effects : List Effect) (point' : Point) :
    Prop where
  paired : accountingOf effects = [] ∨ AccountedOnce effects
  pending : isOver point' = false → accountingOf effects = []
  unsent : point' = .awaitBody → False
  responded : ∀ response, point' = .finished (.responded response) → AccountedOnce effects
  raised : ∀ e, point' = .finished (.raised e) →
    point = .awaitBody ∧ effects.any isContact = false ∨ effects.any isReply = true
  closed : ∀ ctx exit, point = .streaming ctx (.awaitClose exit) → input = .stream .closed →
    (∀ e, (finallyBlock ctx exit).2 ≠ .raises e) → AccountedOnce effects

/-- A resumption that enters nothing and after which the request goes on. -/
theorem enters_pending {point point' : Point} {input : Input} {effects : List Effect}
    (hnone : accountingOf effects = []) (hpoint : ∀ ctx exit, point ≠ .streaming ctx (.awaitClose exit))
    (hunsent : point' ≠ .awaitBody) (hfinished : ∀ outcome, point' ≠ .finished outcome) :
    Enters point input effects point' where
  paired := .inl hnone
  pending := fun _ => hnone
  unsent := hunsent
  responded := fun _ h => absurd h (hfinished _)
  raised := fun _ h => absurd h (hfinished _)
  closed := fun ctx exit h => absurd h (hpoint ctx exit)

/-- A resumption that raises without having entered anything. -/
theorem enters_raised {point : Point} {input : Input} {effects : List Effect} {e : Exn}
    (hnone : accountingOf effects = []) (hpoint : ∀ ctx exit, point ≠ .streaming ctx (.awaitClose exit))
    (hraised : point = .awaitBody ∧ effects.any isContact = false ∨ effects.any isReply = true) :
    Enters point input effects (.finished (.raised e)) where
  paired := .inl hnone
  pending := nofun
  unsent := nofun
  responded := nofun
  raised := fun _ _ => hraised
  closed := fun ctx exit h => absurd h (hpoint ctx exit)

theorem enters_answered {flight : Flight} {statusCode : ℕ} {headers : List (String × String)}
    {content : List UInt8} {effects : List Effect} {outcome : Outcome}
    (heffects : effects.any isReply = true)
    (hentries : AccountedOnce effects ∨ accountingOf effects = [] ∧ ∃ e, outcome = .raised e) :
    Enters (.awaitPost flight) (.response statusCode headers content) effects
      (.finished outcome) where
  paired := hentries.symm.imp_left And.left
  pending := nofun
  unsent := nofun
  responded := by
    intro response hresponse
    rcases hentries with honce | ⟨_, e, rfl⟩
    · exact honce
    · cases hresponse
  raised := fun _ _ => .inr heffects
  closed := fun _ _ h => absurd h (by simp)

theorem enters_finishes {ctx : StreamContext} {point : StreamPoint} {input : StreamInput}
    {effects : List Effect} {outcome : StreamOutcome} (h : Finishes ctx point input effects outcome) :
    Enters (.streaming ctx point) (.stream input) effects (.streaming ctx (.finished outcome)) := by
  have hpaired : accountingOf effects = [] ∨ AccountedOnce effects := by
    cases h with
    | unstarted | closeRaised => exact .inl rfl
    | completed exit => exact (finallyBlock_entries ctx exit).symm.imp_left And.left
  refine ⟨hpaired, nofun, nofun, nofun, nofun, ?_⟩
  rintro ctx' exit hpoint hinput hended
  cases hpoint
  cases hinput
  cases h with
  | completed exit =>
    rcases finallyBlock_entries ctx exit with honce | ⟨_, e, he⟩
    · exact honce
    · exact absurd he (hended e)

theorem segment_enters {point point' : Point} {input : Input} {effects : List Effect}
    (h : Segment P config request g now point input effects point')
    (hfails : failsOver g.registry point input = true) : Enters point input effects point' := by
  cases h with
  | rejected | misshapen | refused | unroutable =>
    exact enters_raised rfl (by simp) (.inl ⟨rfl, rfl⟩)
  | started hshape hacquire hselect hattempted hpoint =>
    rcases hpoint with rfl | rfl
    · exact enters_pending rfl (by simp) (by simp) (by simp)
    · exact enters_pending rfl (by simp) (by simp) (by simp)
  | retried hconnect hselect hflight hpoint =>
    rcases hpoint with ⟨rfl, rfl⟩ | ⟨rfl, rfl⟩
    · exact enters_pending rfl (by simp) (by simp) (by simp)
    · exact enters_pending rfl (by simp) (by simp) (by simp)
  | exhausted hconnect hselect hpoint =>
    -- there was an upstream to fail over to
    obtain ⟨_, upstream, hmem, heligible⟩ := failsOver_raised hpoint hfails
    simp only [eligible, Bool.and_eq_true, Bool.not_eq_true', decide_eq_false_iff_not] at heligible
    rcases (selectUpstream_error _ _ hselect).2 upstream hmem with hattempted | hunhealthy
    · exact absurd hattempted heligible.1
    · rw [heligible.2] at hunhealthy
      cases hunhealthy
  | failed hconnect hpoint =>
    obtain ⟨⟨error, herror, hretryable⟩, _⟩ := failsOver_raised hpoint hfails
    cases herror
    rw [hconnect] at hretryable
    cases hretryable
  | broken hhttpx hpoint =>
    obtain ⟨⟨error, rfl, _⟩, _⟩ := failsOver_raised (hpoint.imp_left And.left) hfails
    cases hhttpx
  | cancelled hhttpx =>
    obtain ⟨⟨error, rfl, _⟩, _⟩ := failsOver_raised (.inl rfl) hfails
    cases hhttpx
  | @opened flight statusCode =>
    refine enters_pending ?_ (by simp) (by simp) (by simp)
    exact accountingOf_noteUpstreamStatus flight.modelName statusCode
  | @unbuildable flight statusCode =>
    refine enters_raised ?_ (by simp) (.inr rfl)
    have hnoted : accountingOf (noteUpstreamStatus request flight.modelName statusCode) = [] :=
      accountingOf_noteUpstreamStatus flight.modelName statusCode
    rw [accountingOf_append]
    exact List.append_eq_nil_iff.mpr ⟨hnoted, rfl⟩
  | @answered flight statusCode headers content =>
    refine enters_answered rfl ?_
    have heffects : accountingOf (endAttempt request flight.modelName (.ok statusCode) ++
        [.metric (.upstreamRequestDuration flight.modelName flight.upstream.name
          request.endpoint)] ++ noteUpstreamStatus request flight.modelName statusCode ++
        (handleResponse P request flight.modelName statusCode headers content).1 ++
        [.release flight.lease]) =
        accountingOf (handleResponse P request flight.modelName statusCode headers content).1 := by
      simp only [accountingOf_append, accountingOf_noteUpstreamStatus]
      exact List.append_nil _
    rw [AccountedOnce, heffects]
    exact handleResponse_entries flight.modelName statusCode headers content
  | @streamed ctx point point' input effects hresume =>
    obtain hgoes | ⟨outcome, rfl, hfinishes⟩ := resume_cases _ _ _ _ hresume
    · have hpoint (ctx' : StreamContext) (exit : Exit) :
          Point.streaming ctx point ≠ .streaming ctx' (.awaitClose exit) := by
        intro heq
        cases heq
        exact hgoes.notClosing exit rfl
      refine enters_pending ?_ hpoint (by simp) (by simp)
      rcases hgoes.effects with rfl | rfl <;> rfl
    · exact enters_finishes hfinishes

/-- The entries of a request, in a run in which every failure failed over. -/
structure Entered (task : Task) : Prop where
  paired : accountingOf task.trace = [] ∨ AccountedOnce task.trace
  pending : isOver task.point = false → accountingOf task.trace = []
  unsent : task.point = .awaitBody → task.trace.any isContact = false
  responded : ∀ response, task.point = .finished (.responded response) → AccountedOnce task.trace
  raised : ∀ e, task.point = .finished (.raised e) →
    task.trace.any isContact = false ∨ task.trace.any isReply = true
  closed : ∀ ctx exit, (Point.streaming ctx (.awaitClose exit), Input.stream .closed) ∈ task.steps →
    (∀ e, (finallyBlock ctx exit).2 ≠ .raises e) → AccountedOnce task.trace

theorem start_entered (config : AppConfig) (request : ProxyRequest) :
    Entered (.start config request) := by
  have hnone : accountingOf (Task.start config request).trace = [] := by
    rw [Task.start, startRequest_effects]
    rfl
  have hunsent : (Task.start config request).trace.any isContact = false := by
    rw [Task.start, startRequest_effects]
    rfl
  refine ⟨.inl hnone, fun _ => hnone, fun _ => hunsent, ?_, fun _ _ => .inl hunsent,
    fun _ _ hmem => absurd hmem List.not_mem_nil⟩
  intro response hpoint
  rcases startRequest_point config request with h | ⟨e, h⟩
  · exact absurd (h.symm.trans hpoint) (by simp)
  · exact absurd (h.symm.trans hpoint) (by simp)

theorem not_accountedOnce {trace : List Effect} (hnone : accountingOf trace = []) :
    ¬ AccountedOnce trace := by
  rintro ⟨department, modelName, endpoint, status, honce⟩
  rw [hnone] at honce
  cases honce

theorem Entered.continue {task : Task} {input : Input} {effects : List Effect} {point : Point}
    (h : Entered task) (hlive : isOver task.point = false)
    (henters : Enters task.point input effects point) :
    Entered (task.continue input effects point) := by
  have hnone := h.pending hlive
  have htrace : accountingOf (task.continue input effects point).trace = accountingOf effects := by
    simp only [Task.continue, accountingOf_append, hnone, List.nil_append]
  have honce : AccountedOnce (task.continue input effects point).trace ↔ AccountedOnce effects := by
    simp only [AccountedOnce, htrace]
  refine ⟨?_, ?_, fun h => (henters.unsent h).elim, ?_, ?_, ?_⟩
  · rw [htrace, honce]
    exact henters.paired
  · rw [htrace]
    exact henters.pending
  · rw [honce]
    exact henters.responded
  · intro e hpoint
    simp only [Task.continue, List.any_append, Bool.or_eq_false_iff, Bool.or_eq_true]
    exact (henters.raised e hpoint).imp (fun hawait => ⟨h.unsent hawait.1, hawait.2⟩) .inr
  · intro ctx exit hmem hended
    rcases List.mem_append.mp hmem with hold | hnew
    · exact absurd (h.closed ctx exit hold hended) (not_accountedOnce hnone)
    · obtain ⟨hpoint, hinput⟩ := Prod.mk.inj (List.mem_singleton.mp hnew)
      exact honce.mpr (henters.closed ctx exit hpoint.symm hinput.symm hended)

theorem requests_entered {vs : List (System × Event)} {s : System}
    (run : Run (step P config) (initial config) vs s) (hsteps : ∀ v ∈ vs, stepFailsOver v.1 v.2 = true) :
    ∀ task ∈ s.tasks, Entered task := by
  refine run_task_invariant (fun s event => stepFailsOver s event = true) Entered
    (start_entered config) ?_ run hsteps
  intro s i task now input effects point _ htask hstep hinv hsegment
  simp only [stepFailsOver, htask] at hstep
  exact hinv.continue (segment_live hsegment) (segment_enters hsegment hstep)

/-- The entries of a request are labelled with its endpoint and department. -/
theorem once_labels {task : Task} (hemits : TaskEmits config task)
    (honce : AccountedOnce task.trace) : ∃ modelName status,
    accountingOf task.trace = [.tokenAccounting task.request.endpoint status,
      .modelTokenAccounting task.request.department modelName task.request.endpoint status] := by
  obtain ⟨effects, htrace, hemits⟩ := hemits
  have heffects : accountingOf task.trace = accountingOf effects := by
    rw [htrace, startRequest_effects]
    rfl
  obtain ⟨department, modelName, endpoint, status, honce⟩ := honce
  rw [heffects] at honce ⊢
  cases hemits with
  | arrived => cases honce
  | concerned modelName' _ hall _ =>
    have hentry {event : MetricEvent} (hmem : event ∈ accountingOf effects) :
        Emits config task.request modelName' (.metric event) := by
      obtain ⟨effect, heffect, haccounting⟩ := List.mem_filterMap.mp hmem
      cases effect with
      | metric other =>
        simp only [accounting?, Option.ite_none_right_eq_some, Option.some.injEq] at haccounting
        obtain ⟨_, rfl⟩ := haccounting
        exact hall _ heffect
      | _ => cases haccounting
    have hmodel : Emits config task.request modelName'
        (.metric (.modelTokenAccounting department modelName endpoint status)) :=
      hentry (by simp [honce])
    cases hmodel
    exact ⟨_, _, honce⟩

theorem paired_balanced {trace : List Effect}
    (h : accountingOf trace = [] ∨ AccountedOnce trace) (endpoint : Endpoint)
    (status : AccountingStatus) :
    (accountingOf trace).countP (fun event => event == .tokenAccounting endpoint status) =
      (accountingOf trace).countP (modelAccounts endpoint status) := by
  rcases h with hnone | ⟨department, modelName, e, s, honce⟩
  · rw [hnone]
    rfl
  · rw [honce]
    simp [List.countP_cons, modelAccounts]

/-- While every failure at an upstream fails over to another one, the ledgers
agree. A failure that ends a request is entered in one of them or in none. -/
theorem ledgers_agree {vs : List (System × Event)} {s : System}
    (run : Run (step P config) (initial config) vs s) (hsteps : ∀ v ∈ vs, stepFailsOver v.1 v.2 = true) :
    LedgersAgree s := by
  have hentered := requests_entered run hsteps
  have hcounter (event : MetricEvent) (hevent : isAccounting event = true) :
      s.gateway.metrics.count event =
        (s.tasks.map fun task => (accountingOf task.trace).count event).sum :=
    metrics_accounting run.reachable fun other hother => by rwa [beq_iff_eq.mp hother]
  refine ⟨fun endpoint status => ?_, hcounter, fun task htask hdispatched hhandled => ?_⟩
  · have hmodel := metrics_accounting run.reachable (p := modelAccounts endpoint status) (by
      intro event hevent
      cases event <;> first | rfl | cases hevent)
    rw [modelLedger_eq, hmodel, tokenLedger, hcounter _ rfl]
    congr 1
    refine List.map_congr_left fun task htask => ?_
    exact paired_balanced (hentered task htask).paired endpoint status
  · refine once_labels (task_emits run.reachable task htask) ?_
    have hinv := hentered task htask
    simp only [FullyHandled] at hhandled
    split at hhandled
    · rename_i response hpoint
      exact hinv.responded response hpoint
    · rename_i e hpoint
      rcases hinv.raised e hpoint with hunsent | hreply
      · rw [Dispatched, hunsent] at hdispatched
        cases hdispatched
      · rw [hhandled] at hreply
        cases hreply
    · obtain ⟨ctx, exit, hmem, hended⟩ := hhandled
      exact hinv.closed ctx exit hmem hended
    · cases hhandled

end

/-! The first upstream refuses the connection and the second one answers. -/

theorem failedOver_meets :
    (exec (guarded (step smallPlatform smallConfig) stepFailsOver) (initial smallConfig)
      failedOver).isSome = true := by
  decide +kernel

theorem ledgers_agree_failedOver :
    ∃ s, LedgersAgree s ∧ (s.tasks.map fun task => accountingOf task.trace) =
      [[.tokenAccounting .chatCompletions .recorded,
        .modelTokenAccounting "research" "llama" .chatCompletions .recorded]] := by
  obtain ⟨vs, run⟩ := exec_get_reachable failedOver_meets
  exact ⟨_, ledgers_agree run.of_guarded run.meets, by decide +kernel⟩

/-! The upstream times out: one counter counts it and the other does not. -/

def timedOut : List Event :=
  [.arrive smallRequest 0, .resume 0 (.body postBody) 1, .resume 0 (.raised (.httpx .timeout)) 2]

theorem timedOut_runs : (smallRun timedOut).isSome = true := by decide +kernel

def cancels : Event → Bool
  | .resume _ (.raised .cancelled) _ | .resume _ (.stream (.raised .cancelled)) _ => true
  | _ => false

theorem ledgers_not_always_equal :
    ¬ ∀ (P : Platform) (config : AppConfig) (vs : List (System × Event)) (s : System),
      Run (step P config) (initial config) vs s → (∀ v ∈ vs, cancels v.2 = false) →
        LedgersAgree s := by
  intro h
  obtain ⟨vs, run, hevents⟩ := exec_run .refl (Option.some_get timedOut_runs).symm
  have hcancels : ∀ event ∈ vs.map Prod.snd, cancels event = false := by
    rw [hevents]
    decide
  have hagree := h smallPlatform smallConfig _ _ run fun v hv =>
    hcancels v.2 (List.mem_map_of_mem hv)
  have hequal := hagree.equal .chatCompletions .missingUsage
  rw [modelLedger_eq] at hequal
  have hledger : tokenLedger ((smallRun timedOut).get timedOut_runs).gateway.metrics
      .chatCompletions .missingUsage = 1 := by decide +kernel
  have hmodel : ((smallRun timedOut).get timedOut_runs).gateway.metrics.countP
      (modelAccounts .chatCompletions .missingUsage) = 0 := by decide +kernel
  rw [hmodel] at hequal
  exact absurd (hledger.symm.trans hequal) (by decide)

end VllmSourceGateway.AccountingLedgers
