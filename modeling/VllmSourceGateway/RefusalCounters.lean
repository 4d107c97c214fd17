import VllmSourceGateway.AdmissionRetryGuard
import VllmSourceGateway.FailoverDiscipline
import VllmSourceGateway.LeaseAccounting
import VllmSourceGateway.RequestEmissions
import VllmSourceGateway.RequestTotals

set_option autoImplicit false

/-! The counters that admission control keeps of refusals and of its retry guards, against
the requests: who was refused, and whose failures have opened a guard. -/
namespace VllmSourceGateway.RefusalCounters
open PyValues UsageExtractors Metrics Config AdmissionControl Routing GatewayEffects
open StreamBytes ProxyEndpoint RequestSegments GatewaySystem RequestTotals TransitionRuns
open RequestTrail FailoverDiscipline LeaseAccounting RequestEmissions AdmissionRetryGuard

def refusal? : Effect → Option (String × String × Rejection)
  | .acquire department modelName _ (.error rejection)
  | .checkRequestShape department modelName _ _ _ (.error rejection) =>
    some (department, modelName, rejection)
  | _ => none

def isRefusal : MetricEvent → Bool
  | .admissionRejection _ _ _ | .tokenBudgetRejection _ _ => true
  | _ => false

/-- What a refusal is counted as; one for the token budget is counted twice. -/
def countedAs (department modelName : String) (reason : RejectionReason) : GatewayMetrics :=
  .admissionRejection department modelName reason ::
    if reason = .tokenBudget then [.tokenBudgetRejection department modelName] else []

def refusalEvents (effect : Effect) : GatewayMetrics :=
  match refusal? effect with
  | some (department, modelName, rejection) => countedAs department modelName rejection.reason
  | none => []

/-- A metric of admission control that no call of it has emitted. -/
def forged : Effect → Bool
  | .metric event => fromAdmission event
  | _ => false

section
variable {config : AdmissionControlConfig} {now : ℚ}

theorem acquire_refusals (department modelName : String) (endpoint : Endpoint)
    (c : AdmissionController) :
    (acquire config now department modelName endpoint c).2.2.filter isRefusal =
      refusalEvents (.acquire department modelName endpoint
        (acquire config now department modelName endpoint c).1) := by
  by_cases h : ReachesBudgetCheck config now (department, modelName) c
  · rw [acquire_of_reaches config now department modelName endpoint c h]
    split <;> rfl
  · obtain ⟨_, heq⟩ | ⟨reason, detail, after, hreason, heq⟩ :=
      acquire_of_not_reaches config now department modelName endpoint c h
    · rw [heq]
      rfl
    · rw [heq]
      simp [rejectAcquire, refusalEvents, refusal?, countedAs, hreason, isRefusal]

theorem checkRequestShape_refusals (department modelName : String) (endpoint : Endpoint)
    (bodySize : ℕ) (payload : JsonObject) :
    (checkRequestShape config department modelName endpoint bodySize payload).2.filter isRefusal =
      refusalEvents (.checkRequestShape department modelName endpoint bodySize payload
        (checkRequestShape config department modelName endpoint bodySize payload).1) := by
  unfold checkRequestShape
  dsimp only
  repeat' split
  all_goals rfl

theorem recordRetryEvent_refusals (department modelName : String) (c : AdmissionController) :
    (recordRetryEvent config now department modelName c).2.filter isRefusal = [] := by
  unfold recordRetryEvent
  dsimp only
  repeat' split
  all_goals rfl

/-- A call counts the refusal that it answers with, and no other. -/
theorem emitted_refusals (g : Gateway) {effect : Effect} (hgenuine : effect.Genuine config now g)
    (hforged : forged effect = false) :
    (emitted config now g effect).filter isRefusal = refusalEvents effect := by
  cases effect with
  | checkRequestShape department modelName endpoint bodySize payload result =>
    obtain rfl := hgenuine
    exact checkRequestShape_refusals department modelName endpoint bodySize payload
  | acquire department modelName endpoint result =>
    obtain rfl := hgenuine
    exact acquire_refusals department modelName endpoint g.admission
  | release lease => cases lease <;> rfl
  | recordRetryEvent department modelName =>
    exact recordRetryEvent_refusals department modelName g.admission
  | metric event => cases event <;> first | rfl | cases hforged
  | _ => rfl

end

def weightOf (event : MetricEvent) (effect : Effect) : ℕ := (refusalEvents effect).count event

section
variable {config : AdmissionControlConfig} {now : ℚ} {event : MetricEvent}

theorem performAll_refusals (hevent : isRefusal event = true) {g : Gateway}
    {effects : List Effect} (hgenuine : AllGenuine config now g effects)
    (hforged : ∀ effect ∈ effects, forged effect = false) :
    (performAll config now g effects).metrics.count event =
      g.metrics.count event + traceTotal (weightOf event) effects := by
  have hfilter (metrics : GatewayMetrics) :
      (metrics.filter isRefusal).count event = metrics.count event :=
    List.count_filter hevent
  induction effects generalizing g with
  | nil => rfl
  | cons effect effects ih =>
    obtain ⟨hfirst, hrest⟩ := List.forall_mem_cons.mp hforged
    have hone : (emitted config now g effect).count event = weightOf event effect := by
      rw [weightOf, ← emitted_refusals g hgenuine.1 hfirst, hfilter]
    change (performAll config now (perform config now g effect) effects).metrics.count event = _
    rw [ih hgenuine.2 hrest, perform_metrics, List.count_append, hone, traceTotal, traceTotal,
      List.map_cons, List.sum_cons, Nat.add_assoc]

end

/-- No call refuses but the last one, whose error the request ends with. -/
def RefusedLast (task : Task) : Prop :=
  (∀ effect ∈ task.trace, refusal? effect = none) ∨
    ∃ before effect modelName rejection, task.trace = before ++ [effect] ∧
      (∀ earlier ∈ before, refusal? earlier = none) ∧
      refusal? effect = some (task.request.department, modelName, rejection) ∧
      task.point = .finished (.raised (.http rejection.error))

section
variable {P : Platform} {config : AppConfig} {request : ProxyRequest} {g : Gateway} {now : ℚ}

theorem noteUpstreamStatus_unrefused (modelName : String) (statusCode : ℕ) :
    ∀ effect ∈ noteUpstreamStatus request modelName statusCode, refusal? effect = none := by
  unfold noteUpstreamStatus
  split <;> split <;> simp [refusal?]

theorem unrefused_of_bookkeeping {effects : List Effect} (h : effects.all bookkeeping = true) :
    ∀ effect ∈ effects, refusal? effect = none := by
  intro effect hmem
  have hbook := List.all_eq_true.mp h effect hmem
  cases effect <;> first | rfl | cases hbook

/-- A resumption refuses nothing, or it ends the request with the error of a refusal. -/
theorem segment_refusals {point point' : Point} {input : Input} {effects : List Effect}
    (h : Segment P config request g now point input effects point') :
    (∀ effect ∈ effects, refusal? effect = none) ∨
      ∃ before effect modelName rejection, effects = before ++ [effect] ∧
        (∀ earlier ∈ before, refusal? earlier = none) ∧
        refusal? effect = some (request.department, modelName, rejection) ∧
        point' = .finished (.raised (.http rejection.error)) := by
  cases h with
  | @misshapen _ modelName bodySize payload rejection =>
    exact .inr ⟨[_], _, modelName, rejection, rfl, by simp [refusal?], rfl, rfl⟩
  | @refused _ modelName bodySize payload shaped rejection =>
    exact .inr ⟨[_, _], _, modelName, rejection, rfl, by simp [refusal?], rfl, rfl⟩
  | rejected => exact .inl (List.forall_mem_nil _)
  | unroutable => exact .inl (by simp [admission, refusal?])
  | started => exact .inl (by simp [admission, selectAndContact, contactUpstream, refusal?])
  | retried => exact .inl (by simp [endAttempt, selectAndContact, contactUpstream, refusal?])
  | exhausted | failed => exact .inl (by simp [endAttempt, raiseUpstreamTransportError, refusal?])
  | broken | cancelled => exact .inl (by simp [endAttempt, refusal?])
  | opened =>
    refine .inl (List.forall_mem_cons.mpr ⟨rfl, noteUpstreamStatus_unrefused _ _⟩)
  | unbuildable =>
    refine .inl (List.forall_mem_append.mpr ⟨List.forall_mem_cons.mpr
      ⟨rfl, noteUpstreamStatus_unrefused _ _⟩, List.forall_mem_singleton.mpr rfl⟩)
  | answered =>
    refine .inl ?_
    simp only [List.forall_mem_append, List.forall_mem_singleton]
    exact ⟨⟨⟨⟨by simp [endAttempt, refusal?], rfl⟩, noteUpstreamStatus_unrefused _ _⟩,
      unrefused_of_bookkeeping (handleResponse_bookkeeping _ _ _ _)⟩, rfl⟩
  | @streamed ctx _ _ _ _ hresume =>
    left
    obtain hgoes | ⟨outcome, rfl, hfinishes⟩ := resume_cases _ _ _ _ hresume
    · rcases hgoes.effects with rfl | rfl <;> simp [refusal?]
    · cases hfinishes with
      | unstarted | closeRaised => exact List.forall_mem_nil _
      | completed exit =>
        obtain ⟨accounting, heffects, haccounting⟩ := finallyBlock_effects ctx exit
        rw [heffects]
        exact List.forall_mem_cons.mpr ⟨rfl, List.forall_mem_cons.mpr
          ⟨rfl, unrefused_of_bookkeeping haccounting⟩⟩

theorem requests_refusedLast {s : System} (h : Reachable (step P config) (initial config) s) :
    ∀ task ∈ s.tasks, RefusedLast task := by
  refine task_invariant RefusedLast (fun request => .inl ?_) ?_ h
  · rw [Task.start, startRequest_effects]
    simp [refusal?]
  · intro task g now input effects point _ hinv hsegment
    obtain hold | ⟨_, _, _, rejection, _, _, _, hended⟩ := hinv
    · obtain hnew | ⟨before, effect, modelName, rejection, rfl, hearlier, hrefusal, hpoint⟩ :=
        segment_refusals hsegment
      · exact .inl (List.forall_mem_append.mpr ⟨hold, hnew⟩)
      · exact .inr ⟨task.trace ++ before, effect, modelName, rejection,
          (List.append_assoc _ _ _).symm, List.forall_mem_append.mpr ⟨hold, hearlier⟩, hrefusal,
          hpoint⟩
    · rw [hended] at hsegment
      exact (RequestEmissions.finished_stuck hsegment).elim

def refusalOf (task : Task) : Option (String × String × Rejection) :=
  task.trace.getLast?.bind refusal?

theorem RefusedLast.total {task : Task} (h : RefusedLast task) (event : MetricEvent) :
    traceTotal (weightOf event) task.trace =
      ((refusalOf task).elim [] fun refused =>
        countedAs refused.1 refused.2.1 refused.2.2.reason).count event := by
  have hzero {effects : List Effect} (hnone : ∀ effect ∈ effects, refusal? effect = none) :
      traceTotal (weightOf event) effects = 0 := by
    refine List.sum_eq_zero fun weight hweight => ?_
    obtain ⟨effect, hmem, rfl⟩ := List.mem_map.mp hweight
    rw [weightOf, refusalEvents, hnone effect hmem]
    rfl
  obtain hnone | ⟨before, effect, modelName, rejection, htrace, hearlier, hrefusal, _⟩ := h
  · have hno : refusalOf task = none := by
      unfold refusalOf
      cases hlast : task.trace.getLast? with
      | none => rfl
      | some effect => exact hnone effect (List.mem_of_getLast? hlast)
    rw [hzero hnone, hno]
    rfl
  · have hyes : refusalOf task = some (task.request.department, modelName, rejection) := by
      rw [refusalOf, htrace, List.getLast?_concat]
      exact hrefusal
    rw [htrace, traceTotal_append, hzero hearlier, hyes, Nat.zero_add, traceTotal, List.map_singleton,
      List.sum_singleton, weightOf, refusalEvents, hrefusal]
    rfl

theorem RefusedLast.own {task : Task} (h : RefusedLast task) {department modelName : String}
    {rejection : Rejection} (hof : refusalOf task = some (department, modelName, rejection)) :
    department = task.request.department ∧
      task.point = .finished (.raised (.http rejection.error)) := by
  obtain ⟨effect, hlast, hrefusal⟩ := Option.bind_eq_some_iff.mp hof
  obtain hnone | ⟨before, last, _, _, htrace, _, hlastRefusal, hended⟩ := h
  · rw [hnone effect (List.mem_of_getLast? hlast)] at hrefusal
    cases hrefusal
  · rw [htrace, List.getLast?_concat] at hlast
    cases hlast
    rw [hlastRefusal] at hrefusal
    cases hrefusal
    exact ⟨rfl, hended⟩

theorem unforged {s : System} (h : Reachable (step P config) (initial config) s) {task : Task}
    (htask : task ∈ s.tasks) : ∀ effect ∈ task.trace, forged effect = false := by
  intro effect hmem
  obtain rfl | rfl | ⟨modelName, _, hemits⟩ :=
    (RequestEmissions.task_emits h task htask).cases hmem
  · rfl
  · rfl
  · cases hemits <;> rfl

/-- What the calls of requests add to the shared state keeps to what they add up to. -/
theorem total_related (weight : Effect → ℕ) (related : Gateway → ℕ → Prop)
    (hinit : related (.init config) 0)
    (hrun : ∀ now g effects total, AllGenuine config.admissionControl now g effects →
      (∀ effect ∈ effects, forged effect = false) → related g total →
      related (performAll config.admissionControl now g effects)
        (total + traceTotal weight effects))
    (hhealth : ∀ g registry total, related g total →
      related { g with registry := registry } total)
    {s : System} (h : Reachable (step P config) (initial config) s) :
    related s.gateway (taskTotal weight s) := by
  refine h.invariant (fun s => related s.gateway (taskTotal weight s)) hinit ?_
  intro s event s' hreach hinv hstep
  have hunforged {task : Task} (htask : task ∈ s'.tasks) := unforged (hreach.next hstep) htask
  cases step_cases hstep with
  | @arrive request now hclock =>
    have htotal : taskTotal weight (s.run config now (Task.start config request).trace
        (s.tasks ++ [Task.start config request])) =
          taskTotal weight s + traceTotal weight (Task.start config request).trace := by
      simp only [taskTotal, System.run, List.map_append, List.sum_append, List.map_cons,
        List.map_nil, List.sum_singleton]
    rw [htotal]
    apply hrun now s.gateway _ _ (genuine_of_plain (startRequest_plain request) _) _ hinv
    exact hunforged (List.mem_append_right _ (List.mem_singleton_self (Task.start config request)))
  | @resume i input now before after task effects point hclock htasks hindex hsegment =>
    have htotal : taskTotal weight (s.run config now effects
        (before ++ task.continue input effects point :: after)) =
          taskTotal weight s + traceTotal weight effects := by
      rw [taskTotal, taskTotal, htasks]
      exact total_continued weight _ _ _ _ _ _
    rw [htotal]
    apply hrun now s.gateway _ _ (segment_genuine hsegment) _ hinv
    intro effect hmem
    apply hunforged (List.mem_append_right _ List.mem_cons_self)
    exact List.mem_append_right _ hmem
  | setHealth => exact hhealth _ _ _ hinv

def refusedFor (department modelName : String) (reason : RejectionReason) (task : Task) : Bool :=
  match refusalOf task with
  | some (refusedDepartment, refusedModel, rejection) =>
    refusedDepartment = department ∧ refusedModel = modelName ∧ rejection.reason = reason
  | none => false

theorem countP_eq_sum {α : Type} (p : α → Bool) (xs : List α) :
    xs.countP p = (xs.map fun x => (p x).toNat).sum := by
  induction xs with
  | nil => rfl
  | cons x xs ih =>
    rw [List.countP_cons, List.map_cons, List.sum_cons, ih, Nat.add_comm]
    cases p x <;> rfl

theorem count_countedAs (department modelName refusedDepartment refusedModel : String)
    (reason refusedReason : RejectionReason) :
    (countedAs refusedDepartment refusedModel refusedReason).count
        (.admissionRejection department modelName reason) =
      (decide (refusedDepartment = department ∧ refusedModel = modelName ∧
        refusedReason = reason)).toNat := by
  unfold countedAs
  have htail : (if refusedReason = .tokenBudget then
      [MetricEvent.tokenBudgetRejection refusedDepartment refusedModel] else []).count
        (.admissionRejection department modelName reason) = 0 := by
    split <;> rfl
  rw [List.count_cons, htail, Nat.zero_add]
  simp only [beq_iff_eq, MetricEvent.admissionRejection.injEq]
  split
  · rw [decide_eq_true ‹_›, Bool.toNat_true]
  · rw [decide_eq_false ‹_›, Bool.toNat_false]

theorem count_countedAs_budget (department modelName refusedDepartment refusedModel : String)
    (refusedReason : RejectionReason) :
    (countedAs refusedDepartment refusedModel refusedReason).count
        (.tokenBudgetRejection department modelName) =
      (decide (refusedDepartment = department ∧ refusedModel = modelName ∧
        refusedReason = .tokenBudget)).toNat := by
  unfold countedAs
  by_cases hreason : refusedReason = .tokenBudget
  · simp only [hreason, if_true, and_true, List.count_cons, List.count_nil, beq_iff_eq,
      MetricEvent.tokenBudgetRejection.injEq, reduceCtorEq, if_false, Nat.add_zero, Nat.zero_add]
    split
    · rw [decide_eq_true ‹_›, Bool.toNat_true]
    · rw [decide_eq_false ‹_›, Bool.toNat_false]
  · simp [hreason]

/-- A counter of refusals counts the requests that have been refused so. -/
theorem counter_counts {s : System} (h : Reachable (step P config) (initial config) s)
    {event : MetricEvent} (hevent : isRefusal event = true) {department modelName : String}
    {reason : RejectionReason}
    (hcount : ∀ refusedDepartment refusedModel refusedReason,
      (countedAs refusedDepartment refusedModel refusedReason).count event =
        (decide (refusedDepartment = department ∧ refusedModel = modelName ∧
          refusedReason = reason)).toNat) :
    s.gateway.metrics.count event =
      s.tasks.countP (refusedFor department modelName reason) := by
  have htotal : s.gateway.metrics.count event = taskTotal (weightOf event) s := by
    apply total_related (weightOf event) (fun g total => g.metrics.count event = total) rfl _ _ h
    · intro now g effects total hgenuine hforged hrelated
      rw [performAll_refusals hevent hgenuine hforged, hrelated]
    · exact fun _ _ _ hrelated => hrelated
  rw [htotal, countP_eq_sum, taskTotal]
  congr 1
  apply List.map_congr_left
  intro task htask
  rw [(requests_refusedLast h task htask).total event, refusedFor]
  cases refusalOf task with
  | none => rfl
  | some refused => exact hcount _ _ _

/-- The refusals that are counted are those of the requests: each counter of a reason has
the number of requests refused for it, the counter of the token budgets that of the
requests refused for their budget, and a refused request, one of that department, ends with
the error of the refusal that it got. -/
theorem refusals_counted {s : System} (h : Reachable (step P config) (initial config) s) :
    (∀ department modelName reason,
      s.gateway.metrics.count (.admissionRejection department modelName reason) =
        s.tasks.countP (refusedFor department modelName reason)) ∧
    (∀ department modelName,
      s.gateway.metrics.count (.tokenBudgetRejection department modelName) =
        s.tasks.countP (refusedFor department modelName .tokenBudget)) ∧
    ∀ task ∈ s.tasks, ∀ department modelName reason,
      refusedFor department modelName reason task = true →
        department = task.request.department ∧ ∃ rejection : Rejection,
          refusalOf task = some (department, modelName, rejection) ∧ rejection.reason = reason ∧
          task.point = .finished (.raised (.http rejection.error)) := by
  refine ⟨?_, ?_, ?_⟩
  · intro department modelName reason
    exact counter_counts h rfl fun _ _ _ => count_countedAs _ _ _ _ _ _
  · intro department modelName
    exact counter_counts h rfl fun _ _ _ => count_countedAs_budget _ _ _ _ _
  · intro task htask department modelName reason hrefused
    unfold refusedFor at hrefused
    cases hof : refusalOf task with
    | none => simp [hof] at hrefused
    | some refused =>
      obtain ⟨refusedDepartment, refusedModel, rejection⟩ := refused
      simp only [hof, decide_eq_true_eq] at hrefused
      obtain ⟨rfl, rfl, hreason⟩ := hrefused
      obtain ⟨hown, hended⟩ := (requests_refusedLast h task htask).own hof
      exact ⟨hown, rejection, rfl, hreason, hended⟩

def attemptFailed (attempt : Attempt) : Bool :=
  match attempt.outcome with
  | some (.error (.httpx _)) => true
  | some (.ok statusCode) => 500 ≤ statusCode
  | _ => false

def failedFor (department modelName : String) (task : Task) : Bool :=
  match (trailOf task.trace).attempts.getLast? with
  | some attempt =>
    task.request.department = department ∧ attempt.modelName = modelName ∧
      attemptFailed attempt = true
  | none => false

/-- What has been counted against the guard is a failure of the last attempt. -/
def RetryPaid (trail : Trail) : Prop :=
  trail.retryEvents = 0 ∨
    ∃ attempt, trail.attempts.getLast? = some attempt ∧ attemptFailed attempt = true

theorem ended_paid {trail : Trail} {point : Point} {flight : Flight}
    (hpoint : point = .awaitSend flight ∨ point = .awaitPost flight)
    (h : TrailAt config trail point) {outcome : Except Exn ℕ} {retryEvents : ℕ}
    (hfailed : retryEvents = 0 ∨ attemptFailed ⟨flight.modelName, flight.upstream, some outcome⟩ = true) :
    RetryPaid ⟨trail.attempts.modifyLast (Attempt.ended outcome), trail.selections,
      retryEvents⟩ := by
  obtain ⟨_, _, _, failed, hattempts⟩ := flight_trail hpoint h
  refine hfailed.imp_right fun hlast => ⟨_, ?_, hlast⟩
  rw [hattempts, List.modifyLast_concat, List.getLast?_concat]
  rfl

theorem answered_paid {trail : Trail} {point : Point} {flight : Flight}
    (hpoint : point = .awaitSend flight ∨ point = .awaitPost flight)
    (h : TrailAt config trail point) (statusCode : ℕ) :
    RetryPaid ⟨trail.attempts.modifyLast (Attempt.ended (.ok statusCode)), trail.selections,
      trail.retryEvents + if 500 ≤ statusCode then 1 else 0⟩ := by
  have hzero := (flight_trail hpoint h).2.2.1
  apply ended_paid hpoint h
  by_cases hstatus : 500 ≤ statusCode
  · exact .inr (decide_eq_true hstatus)
  · left
    rw [hzero, if_neg hstatus]

theorem segment_paid {point point' : Point} {input : Input} {effects : List Effect} {trail : Trail}
    (h : Segment P config request g now point input effects point')
    (htrail : TrailAt config trail point) (hpaid : RetryPaid trail) :
    RetryPaid (trail.observeAll effects) := by
  cases h with
  | rejected | misshapen | refused | unroutable =>
    obtain rfl := htrail
    exact .inl rfl
  | started =>
    obtain rfl := htrail
    rw [trail_append, trail_admission, trail_selectAndContact]
    exact .inl rfl
  | retried hconnect hselect hflight hpoint =>
    rw [trail_append, trail_endAttempt, trail_selectAndContact]
    exact .inl (flight_trail (hpoint.imp And.left And.left) htrail).2.2.1
  | @exhausted point flight e error hconnect hselect hpoint =>
    exact ended_paid hpoint htrail (.inr rfl)
  | @failed point flight e hconnect hpoint =>
    exact ended_paid hpoint htrail (.inr rfl)
  | broken hhttpx hpoint =>
    have hloop := hpoint.imp And.left id
    exact ended_paid hloop htrail (.inl (flight_trail hloop htrail).2.2.1)
  | cancelled hhttpx hcancelled =>
    exact ended_paid (.inl rfl) htrail (.inl (flight_trail (.inl rfl) htrail).2.2.1)
  | @opened flight statusCode headers hinit =>
    rw [trail_cons, trail_noteUpstreamStatus]
    exact answered_paid (.inl rfl) htrail statusCode
  | @unbuildable flight statusCode headers hinit =>
    rw [List.cons_append, trail_cons, trail_append, trail_noteUpstreamStatus, trail_release]
    exact answered_paid (.inl rfl) htrail statusCode
  | @answered flight statusCode headers content =>
    rw [trail_append, trail_append, trail_append, trail_append, trail_endAttempt,
      trail_handleResponse, trail_noteUpstreamStatus, trail_release]
    exact answered_paid (.inr rfl) htrail statusCode
  | streamed hresume =>
    rw [trail_stream trail (resume_cases _ _ _ _ hresume)]
    exact hpaid

def retryWeight (key : Key) (effect : Effect) : ℕ :=
  effect.admissionOp?.elim 0 fun op => (isRetryEvent key op).toNat

theorem trail_retryEvents (key : Key) (trail : Trail) (effects : List Effect) :
    trail.retryEvents + traceTotal (retryWeight key) effects ≤
      (trail.observeAll effects).retryEvents := by
  induction effects generalizing trail with
  | nil => exact le_rfl
  | cons effect effects ih =>
    have hone : trail.retryEvents + retryWeight key effect ≤
        (trail.observe effect).retryEvents := by
      cases effect with
      | recordRetryEvent department modelName =>
        exact Nat.add_le_add_left (Bool.toNat_le _) _
      | metric event => cases event <;> exact le_rfl
      | _ => exact le_rfl
    have hrest := ih (trail.observe effect)
    rw [traceTotal, List.map_cons, List.sum_cons]
    unfold traceTotal at hrest
    rw [trail_cons]
    omega

/-- The attempts are for the model that is contacted. -/
theorem trail_models {modelName : String} {trail : Trail} {effects : List Effect}
    (hcontacts : ∀ effect ∈ effects, ∀ department contacted upstream request,
      effect = .contact department contacted upstream request → contacted = modelName)
    (h : ∀ attempt ∈ trail.attempts, attempt.modelName = modelName) :
    ∀ attempt ∈ (trail.observeAll effects).attempts, attempt.modelName = modelName := by
  induction effects generalizing trail with
  | nil => exact h
  | cons effect effects ih =>
    obtain ⟨hfirst, hrest⟩ := List.forall_mem_cons.mp hcontacts
    apply ih hrest
    cases effect with
    | contact department contacted upstream request =>
      exact List.forall_mem_append.mpr ⟨h, List.forall_mem_singleton.mpr (hfirst _ _ _ _ rfl)⟩
    | attemptEnded department ended outcome =>
      simp only [Trail.observe]
      rcases List.eq_nil_or_concat trail.attempts with hnil | ⟨failed, current, hattempts⟩
      · rw [hnil]
        exact List.forall_mem_nil _
      · rw [List.concat_eq_append] at hattempts
        rw [hattempts] at h ⊢
        rw [List.modifyLast_concat]
        obtain ⟨hfailed, hcurrent⟩ := List.forall_mem_append.mp h
        have hmodel : current.modelName = modelName := hcurrent current (List.mem_singleton_self _)
        exact List.forall_mem_append.mpr ⟨hfailed, List.forall_mem_singleton.mpr hmodel⟩
    | metric event => cases event <;> exact h
    | _ => exact h

theorem requests_paid {s : System} (h : Reachable (step P config) (initial config) s) :
    ∀ task ∈ s.tasks, TrailAt config (trailOf task.trace) task.point ∧
      RetryPaid (trailOf task.trace) := by
  refine task_invariant (fun task => TrailAt config (trailOf task.trace) task.point ∧
    RetryPaid (trailOf task.trace)) ?_ ?_ h
  · intro request
    refine ⟨(startRequest_trailing request).trail, .inl ?_⟩
    rw [Task.start, startRequest_effects]
    rfl
  · intro task g now input effects point hpools hinv hsegment
    have htrail : trailOf (task.continue input effects point).trace =
        (trailOf task.trace).observeAll effects := trail_append _ _ _
    rw [htrail]
    exact ⟨segment_trail hpools hsegment hinv.1, segment_paid hsegment hinv.1 hinv.2⟩

theorem retryWeight_key {key : Key} {effect : Effect} (h : retryWeight key effect ≠ 0) :
    effect = .recordRetryEvent key.1 key.2 := by
  cases effect with
  | recordRetryEvent department modelName =>
    have hkey : (department, modelName) = key := by
      by_contra hother
      apply h
      change (decide ((department, modelName) = key)).toNat = 0
      rw [decide_eq_false hother, Bool.toNat_false]
    rw [← hkey]
  | _ => exact absurd rfl h

/-- What is counted against the guard of a pair is of the pair's department, and all the
attempts of the request are on the pair's model. -/
theorem retries_own {s : System} (h : Reachable (step P config) (initial config) s) {task : Task}
    (htask : task ∈ s.tasks) {department modelName : String}
    (hmem : .recordRetryEvent department modelName ∈ task.trace) :
    task.request.department = department ∧
      ∀ attempt ∈ (trailOf task.trace).attempts, attempt.modelName = modelName := by
  obtain ⟨effects, htrace, hemits⟩ := task_emits h task htask
  rw [startRequest_effects] at htrace
  have hemitted : .recordRetryEvent department modelName ∈ effects := by
    rw [htrace] at hmem
    apply (List.mem_append.mp hmem).resolve_left
    simp
  cases hemits with
  | arrived => cases hemitted
  | concerned contacted hknown hemits =>
    have hcalled : department = task.request.department ∧ modelName = contacted := by
      generalize heffect : Effect.recordRetryEvent department modelName = effect at hemitted
      cases hemits effect hemitted with
      | recordRetryEvent =>
        cases heffect
        exact ⟨rfl, rfl⟩
      | _ => cases heffect
    refine ⟨hcalled.1.symm, ?_⟩
    rw [trailOf, htrace, hcalled.2]
    apply trail_models _ (List.forall_mem_nil _)
    intro effect hcontact department model upstream request heffect
    have hcontacted : effect ∈ effects := by
      apply (List.mem_append.mp hcontact).resolve_left
      rw [heffect]
      simp
    cases hemits effect hcontacted with
    | contact hmodel =>
      cases heffect
      exact hmodel
    | _ => cases heffect

/-- A request is counted against a guard at most once, and only that of its own pair, when
it has failed. -/
theorem task_retries {s : System} (h : Reachable (step P config) (initial config) s) {task : Task}
    (htask : task ∈ s.tasks) (department modelName : String) :
    traceTotal (retryWeight (department, modelName)) task.trace ≤
      (failedFor department modelName task).toNat := by
  obtain ⟨htrail, hpaid⟩ := requests_paid h task htask
  have hretries : 0 + traceTotal (retryWeight (department, modelName)) task.trace ≤
      (trailOf task.trace).retryEvents := trail_retryEvents _ emptyTrail task.trace
  have honce := (trailAt_over htrail).retryOnce
  by_cases hnone : ∀ effect ∈ task.trace, retryWeight (department, modelName) effect = 0
  · have hzero : traceTotal (retryWeight (department, modelName)) task.trace = 0 := by
      apply List.sum_eq_zero
      intro weight hmem
      obtain ⟨effect, heffect, rfl⟩ := List.mem_map.mp hmem
      exact hnone effect heffect
    omega
  · push Not at hnone
    obtain ⟨effect, hmem, hweight⟩ := hnone
    obtain rfl := retryWeight_key hweight
    dsimp only at hmem hweight
    obtain ⟨hown, hmodels⟩ := retries_own h htask hmem
    have hcounted : retryWeight (department, modelName) (.recordRetryEvent department modelName) ≤
        traceTotal (retryWeight (department, modelName)) task.trace :=
      List.single_le_sum (fun _ _ => Nat.zero_le _) _ (List.mem_map_of_mem hmem)
    obtain ⟨attempt, hlast, hfailed⟩ : ∃ attempt,
        (trailOf task.trace).attempts.getLast? = some attempt ∧ attemptFailed attempt = true := by
      apply hpaid.resolve_left
      omega
    have hfor : failedFor department modelName task = true := by
      rw [failedFor, hlast]
      exact decide_eq_true ⟨hown, hmodels attempt (List.mem_of_getLast? hlast), hfailed⟩
    rw [hfor, Bool.toNat_true]
    omega

/-- The guard's openings, each at the price of an opening, and the events it has kept. -/
def guardAccount (config : AdmissionControlConfig) (key : Key) (g : Gateway) : ℤ :=
  (g.metrics.count (.retryGuardOpen key.1 key.2) : ℤ) * config.retryGuard.maxEvents +
    (g.admission.retryEvents key).length

theorem shape_openings (config : AdmissionControlConfig) (department modelName : String)
    (endpoint : Endpoint) (bodySize : ℕ) (payload : JsonObject) (key : Key) :
    (checkRequestShape config department modelName endpoint bodySize payload).2.count
      (.retryGuardOpen key.1 key.2) = 0 := by
  unfold checkRequestShape
  dsimp only
  repeat' split
  all_goals rfl

theorem acquire_openings (config : AdmissionControlConfig) (now : ℚ) (department modelName : String)
    (endpoint : Endpoint) (c : AdmissionController) (key : Key) :
    (acquire config now department modelName endpoint c).2.2.count
      (.retryGuardOpen key.1 key.2) = 0 := by
  obtain ⟨_, heq⟩ | ⟨_, _, _, _, extra, _, hextra, heq⟩ | ⟨_, heq⟩ :=
    acquire_cases config now department modelName endpoint c
  · rw [heq]
    rfl
  · rw [heq]
    rcases hextra with rfl | rfl <;> rfl
  · rw [heq]
    rfl

/-- The events are kept until the guard opens, and are then its price. -/
theorem recordRetryEvent_account (config : AdmissionControlConfig) (now : ℚ)
    (department modelName : String) (c : AdmissionController) :
    ((recordRetryEvent config now department modelName c).2.count
        (.retryGuardOpen department modelName) : ℤ) * config.retryGuard.maxEvents +
      ((recordRetryEvent config now department modelName c).1.retryEvents
        (department, modelName)).length ≤
      (c.retryEvents (department, modelName)).length + 1 := by
  have hexpired := (List.dropWhile_sublist (l := c.retryEvents (department, modelName))
    (fun at_ => decide (config.retryGuard.windowSeconds < now - at_))).length_le
  unfold recordRetryEvent
  dsimp only
  split_ifs with hoff hcooling hopens
  · simp only [List.count_nil]
    omega
  · simp only [List.count_nil]
    omega
  · have hprice := hopens.1
    rw [List.length_append, List.length_singleton] at hprice
    simp only [Function.update_self, List.count_singleton_self, List.length_nil]
    omega
  · simp only [Function.update_self, List.count_nil, List.length_append, List.length_singleton]
    omega

theorem recordRetryEvent_openings (config : AdmissionControlConfig) (now : ℚ)
    {department modelName : String} (c : AdmissionController) {key : Key}
    (hother : (department, modelName) ≠ key) :
    (recordRetryEvent config now department modelName c).2.count
      (.retryGuardOpen key.1 key.2) = 0 := by
  apply List.count_eq_zero.mpr
  intro hmem
  cases recordRetryEvent_events config now department modelName .messages c _ hmem
  exact hother rfl

/-- No call adds more to the account of a guard than the event that it records. -/
theorem apply_account (config : AdmissionControlConfig) (now : ℚ) (c : AdmissionController)
    (op : AdmissionOp) (key : Key) :
    ((AdmissionControl.apply config now c op).2.count (.retryGuardOpen key.1 key.2) : ℤ) *
        config.retryGuard.maxEvents +
      ((AdmissionControl.apply config now c op).1.retryEvents key).length ≤
      (c.retryEvents key).length + (isRetryEvent key op).toNat := by
  by_cases hown : isRetryEvent key op = true
  · cases op with
    | recordRetryEvent department modelName =>
      obtain rfl : (department, modelName) = key := of_decide_eq_true hown
      rw [hown, Bool.toNat_true]
      exact recordRetryEvent_account config now department modelName c
    | _ => cases hown
  · have hoff : isRetryEvent key op = false := Bool.eq_false_iff.mpr hown
    have hopenings : (AdmissionControl.apply config now c op).2.count
        (.retryGuardOpen key.1 key.2) = 0 := by
      cases op with
      | checkRequestShape => exact shape_openings _ _ _ _ _ _ _
      | acquire => exact acquire_openings _ _ _ _ _ _ _
      | release lease => cases lease <;> rfl
      | recordTokens => rfl
      | recordRetryEvent department modelName =>
        exact recordRetryEvent_openings config now c (of_decide_eq_false hoff)
    have hkept : (AdmissionControl.apply config now c op).1.retryEvents key = c.retryEvents key :=
      (apply_guard_other now c op (by rw [hoff, Bool.false_and])).2
    rw [hopenings, hkept]
    omega

theorem perform_account (admission : AdmissionControlConfig) (now : ℚ) (g : Gateway) (key : Key)
    {effect : Effect} (hforged : forged effect = false) :
    guardAccount admission key (perform admission now g effect) ≤
      guardAccount admission key g + retryWeight key effect := by
  unfold guardAccount
  rw [perform_metrics, perform_admission, List.count_append, Nat.cast_add, add_mul]
  cases hop : effect.admissionOp? with
  | none =>
    have hsilent : (emitted admission now g effect).count (.retryGuardOpen key.1 key.2) = 0 := by
      cases effect with
      | metric event => cases event <;> first | rfl | cases hforged
      | _ => first | rfl | cases hop
    dsimp only
    rw [hsilent]
    omega
  | some op =>
    dsimp only
    have haccount := apply_account admission now g.admission op key
    have hemitted : emitted admission now g effect =
        (AdmissionControl.apply admission now g.admission op).2 := by
      unfold emitted
      rw [hop]
    have hweight : retryWeight key effect = (isRetryEvent key op).toNat := by
      rw [retryWeight, hop, Option.elim_some]
    rw [hemitted, hweight]
    linarith

theorem performAll_account (admission : AdmissionControlConfig) (now : ℚ) (g : Gateway) (key : Key)
    {effects : List Effect} (hforged : ∀ effect ∈ effects, forged effect = false) :
    guardAccount admission key (performAll admission now g effects) ≤
      guardAccount admission key g + traceTotal (retryWeight key) effects := by
  induction effects generalizing g with
  | nil => exact (add_zero _).ge
  | cons effect effects ih =>
    obtain ⟨hfirst, hrest⟩ := List.forall_mem_cons.mp hforged
    have hone := perform_account admission now g key hfirst
    have hothers := ih (perform admission now g effect) hrest
    have htotal : traceTotal (retryWeight key) (effect :: effects) =
        retryWeight key effect + traceTotal (retryWeight key) effects := List.sum_cons
    rw [htotal, Nat.cast_add]
    exact hothers.trans (by linarith)

/-- Openings are paid for: in every run the guard of a pair has opened at most once for
every `max_events` requests of that department whose last attempt, on that model, failed
or was answered with a server error; each of them is counted for one guard only. -/
theorem openings_paid {s : System} (h : Reachable (step P config) (initial config) s)
    (department modelName : String) :
    (s.gateway.metrics.count (.retryGuardOpen department modelName) : ℤ) *
        config.admissionControl.retryGuard.maxEvents ≤
      s.tasks.countP (failedFor department modelName) := by
  have hclosed : guardAccount config.admissionControl (department, modelName) (.init config) = 0 := by
    simp [guardAccount, Gateway.init, AdmissionControl.initial]
  have htotal : guardAccount config.admissionControl (department, modelName) s.gateway ≤
      taskTotal (retryWeight (department, modelName)) s := by
    apply total_related (retryWeight (department, modelName)) (fun g total =>
      guardAccount config.admissionControl (department, modelName) g ≤ total) hclosed.le _ _ h
    · intro now g effects total hgenuine hforged hrelated
      have hrun := performAll_account config.admissionControl now g (department, modelName) hforged
      rw [Nat.cast_add]
      exact hrun.trans (by linarith)
    · exact fun _ _ _ hrelated => hrelated
  have hfailures : taskTotal (retryWeight (department, modelName)) s ≤
      s.tasks.countP (failedFor department modelName) := by
    rw [countP_eq_sum]
    exact List.sum_le_sum fun task htask => task_retries h htask department modelName
  unfold guardAccount at htotal
  dsimp only at htotal
  omega

end

/-! Three requests time out, which opens the guard; the fourth is refused. -/

def refusedAfterThree : List Event :=
  [.arrive smallRequest 0, .resume 0 (.body postBody) 1, .resume 0 (.raised (.httpx .timeout)) 2,
    .arrive smallRequest 3, .resume 1 (.body postBody) 4, .resume 1 (.raised (.httpx .timeout)) 5,
    .arrive smallRequest 6, .resume 2 (.body postBody) 7, .resume 2 (.raised (.httpx .timeout)) 8,
    .arrive smallRequest 9, .resume 3 (.body postBody) 10]

theorem refusedAfterThree_runs : (smallRun refusedAfterThree).isSome = true := by decide +kernel

def guarded : System := (smallRun refusedAfterThree).get refusedAfterThree_runs

theorem guarded_reachable : Reachable (step smallPlatform smallConfig) (initial smallConfig) guarded :=
  exec_get_reachable refusedAfterThree_runs

theorem refusals_counted_guarded :
    guarded.gateway.metrics.count
      (.admissionRejection "research" "llama" .retryGuardOpen) = 1 := by
  rw [(refusals_counted guarded_reachable).1]
  decide +kernel

/-- Three failures are the price of the opening that there has been. -/
theorem openings_paid_guarded :
    (guarded.gateway.metrics.count (.retryGuardOpen "research" "llama") : ℤ) * 3 ≤ 3 ∧
      guarded.gateway.metrics.count (.retryGuardOpen "research" "llama") = 1 := by
  have hpaid := openings_paid guarded_reachable "research" "llama"
  have hfailures : guarded.tasks.countP (failedFor "research" "llama") = 3 := by decide +kernel
  have hprice : smallConfig.admissionControl.retryGuard.maxEvents = 3 := rfl
  rw [hfailures, hprice] at hpaid
  exact ⟨hpaid, by decide +kernel⟩

end VllmSourceGateway.RefusalCounters
