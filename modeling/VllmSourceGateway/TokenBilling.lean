import VllmSourceGateway.AccountingLedgers
import VllmSourceGateway.StreamBytesOutcomes
import VllmSourceGateway.TokenOversubscription

set_option autoImplicit false

/-! What is billed twice over: the token counters add the two numbers of a usage
one by one, and the budget is charged with their sum. -/
namespace VllmSourceGateway.TokenBilling
open PyText PyValues UsageExtractors Metrics Config AdmissionControl GatewayEffects
open AdmissionTokenWindow TokenOversubscription SseParser StreamBytes ProxyEndpoint
open RequestSegments GatewaySystem RequestTotals TransitionRuns
open StreamBytesOutcomes (FlagsAgree feedChunk_flags afterLoop_override)

def promptAmount (key : Key) : MetricEvent → ℤ
  | .promptTokens department modelName amount => if (department, modelName) = key then amount else 0
  | _ => 0

def generationAmount (key : Key) : MetricEvent → ℤ
  | .generationTokens department modelName amount =>
    if (department, modelName) = key then amount else 0
  | _ => 0

def promptTotal (key : Key) (metrics : GatewayMetrics) : ℤ := (metrics.map (promptAmount key)).sum

def generationTotal (key : Key) (metrics : GatewayMetrics) : ℤ :=
  (metrics.map (generationAmount key)).sum

def counted (key : Key) (effects : List Effect) : ℤ :=
  traceTotal (metricWeight (promptAmount key)) effects +
    traceTotal (metricWeight (generationAmount key)) effects

theorem counted_append (key : Key) (xs ys : List Effect) :
    counted key (xs ++ ys) = counted key xs + counted key ys := by
  simp only [counted, traceTotal_append]
  abel

theorem tokenSum_admissionCalls (key : Key) (history : List (ℚ × Effect)) :
    tokenSum (tokenRecords key (admissionCalls history)) =
      traceTotal (charge key) (history.map Prod.snd) := by
  induction history with
  | nil => rfl
  | cons entry history ih =>
    have hcalls : admissionCalls (entry :: history) =
        callsAt entry.1 [entry.2] ++ admissionCalls history :=
      admissionCalls_append [entry] history
    rw [hcalls, tokenRecords_append, tokenSum_append, ih, tokenSum_callsAt, charged_cons,
      charged_nil, add_zero]
    exact List.sum_cons.symm

/-- What a step hands to the token counters, with the amounts that they take: the
usage of a success, unless a status was noted before. -/
def billedUsage (P : Platform) (request : ProxyRequest) :
    Point → Input → Option ((ℤ → Bool) × Usage)
  | .awaitPost _, .response statusCode _ content =>
    if 200 ≤ statusCode ∧ statusCode < 300 then
      match P.loadsBytes content with
      | .error _ => none
      | .ok payload =>
        match request.endpoint.extractUsage payload with
        | .error _ => none
        | .ok usage => usage.map fun pair => (P.counterAccepts, pair)
    else none
  | .streaming ctx (.awaitClose exit), .stream .closed =>
    if exit.clientDisconnected || exit.streamFailed ||
        exit.parse.accountingStatusOverride.isSome then none
    else if 200 ≤ ctx.statusCode ∧ ctx.statusCode < 300 then
      exit.parse.latestUsage.map fun pair => (ctx.counterAccepts, pair)
    else none
  | _, _ => none

/-- An integer of at least zero that is not a `bool`. -/
def isCount : PyInt → Bool
  | .int n => decide (0 ≤ n)
  | .bool _ => false

/-- The counters take both numbers and these are counts, or the first number they
do not take comes with nothing added before it. -/
def sane (accepts : ℤ → Bool) (usage : Usage) : Bool :=
  if takes accepts usage.1.value then
    if takes accepts usage.2.value then isCount usage.1 && isCount usage.2
    else decide (usage.1.value ≤ 0)
  else true

def stepSane (P : Platform) (s : System) : Event → Bool
  | .resume i input _ =>
    match s.tasks[i]? with
    | some task => (billedUsage P task.request task.point input).all fun billed =>
      sane billed.1 billed.2
    | none => true
  | _ => true

def records (effects : List Effect) : Prop :=
  ∃ endpoint, .metric (.tokenAccounting endpoint .recorded) ∈ effects

/-- Whenever a request is recorded its numbers are counts; and the budgets have
been charged with what the counters show. -/
structure BudgetsAgree (P : Platform) (config : AppConfig) (vs : List (System × Event))
    (s : System) : Prop where
  counts : ∀ v ∈ vs, ∀ i input now task effects point, v.2 = .resume i input now →
    v.1.tasks[i]? = some task →
    advance P config task.request v.1.gateway now task.point input = some (effects, point) →
    records effects → ∃ accepts m n, 0 ≤ m ∧ 0 ≤ n ∧
      billedUsage P task.request task.point input = some (accepts, (.int m, .int n))
  totals : ∀ key : Key, config.admissionControl.enabled = true →
    (tokenBudget config.admissionControl key.1 key.2).isSome = true →
    tokenSum (tokenRecords key (admissionCalls s.history)) =
      promptTotal key s.gateway.metrics + generationTotal key s.gateway.metrics

def tokenFree : Effect → Bool
  | .metric (.promptTokens _ _ _) | .metric (.generationTokens _ _ _)
  | .metric (.tokenAccounting _ .recorded) | .recordTokens _ _ _ => false
  | _ => true

/-- What is known of the calls of a step that bills this usage, if any. -/
structure Bills (billed : Option ((ℤ → Bool) × Usage)) (effects : List Effect) : Prop where
  balanced : (billed.all fun billed => sane billed.1 billed.2) = true →
    ∀ key, counted key effects = charged key effects
  recorded : records effects → ∃ accepts usage, billed = some (accepts, usage) ∧
    takes accepts usage.1.value = true ∧ takes accepts usage.2.value = true

theorem tokenFree_balanced {effects : List Effect} (h : effects.all tokenFree = true) (key : Key) :
    counted key effects = 0 ∧ charged key effects = 0 := by
  induction effects with
  | nil => exact ⟨rfl, rfl⟩
  | cons effect effects ih =>
    simp only [List.all_cons, Bool.and_eq_true] at h
    obtain ⟨hcounted, hcharged⟩ := ih h.2
    have hsplit : counted key (effect :: effects) = counted key [effect] + counted key effects :=
      counted_append key [effect] effects
    rw [hsplit, hcounted, charged_cons, hcharged]
    cases effect with
    | metric event => cases event <;> first | exact ⟨rfl, rfl⟩ | cases h.1
    | recordTokens => cases h.1
    | _ => exact ⟨rfl, rfl⟩

theorem tokenFree_not_records {effects : List Effect} (h : effects.all tokenFree = true) :
    ¬ records effects := by
  rintro ⟨endpoint, hmem⟩
  cases List.all_eq_true.mp h _ hmem

theorem bills_tokenFree {billed : Option ((ℤ → Bool) × Usage)} {effects : List Effect}
    (h : effects.all tokenFree = true) : Bills billed effects where
  balanced := fun _ key => by
    obtain ⟨hcounted, hcharged⟩ := tokenFree_balanced h key
    rw [hcounted, hcharged]
  recorded := fun hrecords => absurd hrecords (tokenFree_not_records h)

/-- The calls around the accounting bill nothing. -/
theorem Bills.between {billed : Option ((ℤ → Bool) × Usage)} {before accounting after : List Effect}
    (h : Bills billed accounting) (hbefore : before.all tokenFree = true)
    (hafter : after.all tokenFree = true) : Bills billed (before ++ accounting ++ after) where
  balanced := fun hsane key => by
    obtain ⟨hcounted, hcharged⟩ := tokenFree_balanced hbefore key
    obtain ⟨hcounted', hcharged'⟩ := tokenFree_balanced hafter key
    rw [counted_append, counted_append, charged_append, charged_append, hcounted, hcharged,
      hcounted', hcharged', h.balanced hsane key]
  recorded := by
    rintro ⟨endpoint, hmem⟩
    rcases List.mem_append.mp hmem with hmem | hmem
    · rcases List.mem_append.mp hmem with hmem | hmem
      · exact absurd ⟨endpoint, hmem⟩ (tokenFree_not_records hbefore)
      · exact h.recorded ⟨endpoint, hmem⟩
    · exact absurd ⟨endpoint, hmem⟩ (tokenFree_not_records hafter)

/-- Only amounts above zero are added. -/
theorem counted_increment {event : ℤ → MetricEvent} {key : Key} {department modelName : String}
    (hevent : ∀ n, promptAmount key (event n) + generationAmount key (event n) =
      if (department, modelName) = key then n else 0) (amount : ℤ) :
    counted key (increment event amount) =
      if (department, modelName) = key then max amount 0 else 0 := by
  unfold increment
  split_ifs with hpos hkey hkey
  · rw [max_eq_left (le_of_lt hpos)]
    simpa [counted, traceTotal, metricWeight, hkey] using hevent amount
  · simpa [counted, traceTotal, metricWeight, hkey] using hevent amount
  · rw [max_eq_right (not_lt.mp hpos)]
    rfl
  · rfl

theorem counted_promptTokens (key : Key) (department modelName : String) (amount : ℤ) :
    counted key (increment (.promptTokens department modelName) amount) =
      if (department, modelName) = key then max amount 0 else 0 :=
  counted_increment (fun _ => add_zero _) amount

theorem counted_generationTokens (key : Key) (department modelName : String) (amount : ℤ) :
    counted key (increment (.generationTokens department modelName) amount) =
      if (department, modelName) = key then max amount 0 else 0 :=
  counted_increment (fun _ => zero_add _) amount

def billedOf (accepts : ℤ → Bool) (statusCode : ℕ) (usage : Option Usage) :
    Option ((ℤ → Bool) × Usage) :=
  if 200 ≤ statusCode ∧ statusCode < 300 then usage.map fun pair => (accepts, pair) else none

theorem isCount_iff (n : PyInt) : isCount n = true ↔ ∃ m, 0 ≤ m ∧ n = .int m := by
  cases n <;> simp [isCount]

/-- Sane numbers are counted and charged alike. -/
theorem accounted_balanced {accepts : ℤ → Bool} {department modelName : String}
    {endpoint : Endpoint} {status : ℕ} {usage : Option Usage} {effects : List Effect}
    {raised : Option Exn}
    (h : Accounted accepts department modelName endpoint status usage effects raised)
    (hsane : (billedOf accepts status usage).all (fun billed => sane billed.1 billed.2) = true)
    (key : Key) : counted key effects = charged key effects := by
  cases h with
  | missing | promptRefused => rfl
  | @generationRefused promptTokens generationTokens hsuccess hprompt hgeneration =>
    have hnone : promptTokens.value ≤ 0 := by
      simpa [billedOf, hsuccess, sane, hprompt, hgeneration] using hsane
    have hempty : increment (.promptTokens department modelName) promptTokens.value = [] :=
      if_neg (not_lt.mpr hnone)
    rw [hempty]
    rfl
  | @recorded promptTokens generationTokens hsuccess hprompt hgeneration =>
    have hcounts : isCount promptTokens = true ∧ isCount generationTokens = true := by
      simpa [billedOf, hsuccess, sane, hprompt, hgeneration] using hsane
    obtain ⟨m, hm, rfl⟩ := (isCount_iff _).mp hcounts.1
    obtain ⟨n, hn, rfl⟩ := (isCount_iff _).mp hcounts.2
    have hcharge (event : ℤ → MetricEvent) (amount : ℤ) :
        charged key (increment event amount) = 0 := by
      simp only [increment]
      split <;> rfl
    simp only [counted_append, charged_append, counted_promptTokens, counted_generationTokens,
      hcharge, PyInt.value]
    by_cases hkey : (department, modelName) = key
    · by_cases hpos : 0 < m + n
      · simp [counted, charged, traceTotal, metricWeight, recordTokenAccounting, promptAmount,
          generationAmount, charge, hkey, hpos, hm, hn]
      · have hzero : m = 0 ∧ n = 0 := by omega
        simp [counted, charged, traceTotal, metricWeight, recordTokenAccounting, promptAmount,
          generationAmount, charge, hkey, hzero]
    · simp [counted, charged, traceTotal, metricWeight, recordTokenAccounting, promptAmount,
        generationAmount, charge, hkey]

theorem accounted_bills {accepts : ℤ → Bool} {department modelName : String}
    {endpoint : Endpoint} {status : ℕ} {usage : Option Usage} {effects : List Effect}
    {raised : Option Exn}
    (h : Accounted accepts department modelName endpoint status usage effects raised) :
    Bills (billedOf accepts status usage) effects where
  balanced := fun hsane key => accounted_balanced h hsane key
  recorded := by
    rintro ⟨other, hmem⟩
    cases h with
    | missing | promptRefused => simp [recordTokenAccounting] at hmem
    | generationRefused =>
      simp only [increment] at hmem
      split at hmem <;> simp at hmem
    | @recorded promptTokens generationTokens hsuccess hprompt hgeneration =>
      exact ⟨accepts, (promptTokens, generationTokens), by simp [billedOf, hsuccess], hprompt,
        hgeneration⟩

section
variable {P : Platform} {config : AppConfig} {request : ProxyRequest} {g : Gateway} {now : ℚ}

theorem handleResponse_bills (flight : Flight) (modelName : String) (statusCode : ℕ)
    (headers : List (String × String)) (content : List UInt8) :
    Bills (billedUsage P request (.awaitPost flight) (.response statusCode headers content))
      (handleResponse P request modelName statusCode headers content).1 := by
  cases hloads : P.loadsBytes content with
  | error e =>
    refine bills_tokenFree ?_
    simp only [handleResponse, hloads]
    split <;> rfl
  | ok payload =>
    cases hextract : request.endpoint.extractUsage payload with
    | error e =>
      refine bills_tokenFree ?_
      simp only [handleResponse, hloads, hextract]
      rfl
    | ok usage =>
      simp only [handleResponse, billedUsage, hloads, hextract]
      exact accounted_bills (accountUsage_cases _ _ _ _ _ _)

def OverrideAt : StreamPoint → Prop
  | .created | .finished _ => True
  | .awaitChunk locals | .awaitDisconnect locals _ | .yielded locals _ => FlagsAgree locals.parse
  | .awaitClose exit => exit.parse.accountingStatusOverride = none ∨
    exit.parse.accountingStatusOverride = some .parseError

theorem resume_override {loads : Text → Except LoadsError Json} {extract : UsageExtractor}
    {limit : ℕ} {ctx : StreamContext} {point point' : StreamPoint} {input : StreamInput}
    {effects : List Effect} (hat : OverrideAt point)
    (h : resume loads extract limit ctx point input = some (effects, point')) :
    OverrideAt point' := by
  cases point with
  | created =>
    cases input <;> cases h
    · exact (rfl : FlagsAgree .initial)
    · trivial
  | awaitChunk locals =>
    cases input <;> cases h
    · exact hat
    · exact afterLoop_override hat
    · exact hat.override
  | awaitDisconnect locals chunk =>
    cases input with
    | disconnected isDisconnected =>
      cases isDisconnected with
      | true =>
        cases h
        exact hat.override
      | false =>
        simp only [resume, Option.some.injEq, handleChunk] at h
        cases hfeed : feedChunk loads extract limit locals.parse chunk with
        | error e =>
          simp only [hfeed] at h
          cases h
          exact hat.override
        | ok parse =>
          simp only [hfeed] at h
          cases h
          exact feedChunk_flags hfeed hat
    | raised e =>
      cases h
      exact hat.override
    | next | close | chunk | streamEnd | closed => cases h
  | yielded locals chunk =>
    cases input <;> cases h
    · exact hat
    · exact hat.override
  | awaitClose exit =>
    cases input <;> cases h <;> trivial
  | finished outcome => cases input <;> cases h

theorem finallyBlock_bills {ctx : StreamContext} {exit : Exit}
    (hat : OverrideAt (.awaitClose exit)) :
    Bills (billedUsage P request (.streaming ctx (.awaitClose exit)) (.stream .closed))
      (finallyBlock ctx exit).1 := by
  simp only [finallyBlock]
  split
  · exact bills_tokenFree rfl
  · split
    · exact bills_tokenFree rfl
    · rename_i hdisconnected hfailed
      rcases hat with hnone | hparse
      · have hbilled : billedUsage P request (.streaming ctx (.awaitClose exit)) (.stream .closed) =
            billedOf ctx.counterAccepts ctx.statusCode exit.parse.latestUsage := by
          simp [billedUsage, billedOf, hdisconnected, hfailed, hnone]
        have haccounted := accounted_bills (accountUsage_cases ctx.counterAccepts ctx.department
          ctx.modelName ctx.endpoint ctx.statusCode exit.parse.latestUsage)
        have hbefore : [Effect.exchangeClosed ctx.department ctx.modelName,
          .release ctx.lease].all tokenFree = true := rfl
        have hbetween := haccounted.between hbefore (rfl : ([] : List Effect).all tokenFree = true)
        rw [List.append_nil] at hbetween
        simp only [hnone]
        rw [hbilled]
        exact hbetween
      · simp only [hparse]
        exact bills_tokenFree rfl

theorem noteUpstreamStatus_tokenFree (modelName : String) (statusCode : ℕ) :
    (noteUpstreamStatus request modelName statusCode).all tokenFree = true := by
  simp only [noteUpstreamStatus]
  split <;> split <;> rfl

/-- The statuses noted by the parser of a streamed body. -/
def OverrideNoted : Point → Prop
  | .streaming _ point => OverrideAt point
  | _ => True

theorem segment_override {point point' : Point} {input : Input} {effects : List Effect}
    (h : Segment P config request g now point input effects point') (hat : OverrideNoted point) :
    OverrideNoted point' := by
  cases h with
  | rejected | misshapen | refused | unroutable | exhausted | failed | broken | cancelled
  | unbuildable | answered | opened => trivial
  | started _ _ _ _ hpoint => rcases hpoint with rfl | rfl <;> trivial
  | retried _ _ _ hpoint => rcases hpoint with ⟨_, rfl⟩ | ⟨_, rfl⟩ <;> trivial
  | streamed hresume => exact resume_override hat hresume

theorem segment_bills {point point' : Point} {input : Input} {effects : List Effect}
    (h : Segment P config request g now point input effects point') (hat : OverrideNoted point) :
    Bills (billedUsage P request point input) effects := by
  cases h with
  | rejected | misshapen | refused | unroutable | started | retried | exhausted | failed | broken
  | cancelled => exact bills_tokenFree rfl
  | @opened flight statusCode =>
    refine bills_tokenFree ?_
    rw [List.all_cons, noteUpstreamStatus_tokenFree]
    rfl
  | @unbuildable flight statusCode =>
    refine bills_tokenFree ?_
    rw [List.cons_append, List.all_cons, List.all_append, noteUpstreamStatus_tokenFree]
    rfl
  | @answered flight statusCode headers content =>
    refine (handleResponse_bills flight flight.modelName statusCode headers content).between ?_ rfl
    rw [List.all_append, noteUpstreamStatus_tokenFree]
    rfl
  | @streamed ctx point point' input effects hresume =>
    obtain hgoes | ⟨outcome, rfl, hfinishes⟩ := resume_cases _ _ _ _ hresume
    · refine bills_tokenFree ?_
      rcases hgoes.effects with heffects | heffects <;> rw [heffects] <;> rfl
    · cases hfinishes with
      | unstarted | closeRaised => exact bills_tokenFree rfl
      | completed exit => exact finallyBlock_bills hat

/-- Each request has been counted what its department and model were charged. -/
theorem requests_balanced {vs : List (System × Event)} {s : System}
    (run : Run (step P config) (initial config) vs s) (hsteps : ∀ v ∈ vs, stepSane P v.1 v.2 = true) :
    ∀ task ∈ s.tasks, OverrideNoted task.point ∧
      ∀ key, counted key task.trace = charged key task.trace := by
  refine run_task_invariant (fun s event => stepSane P s event = true) (fun task =>
    OverrideNoted task.point ∧ ∀ key, counted key task.trace = charged key task.trace) ?_ ?_ run
    hsteps
  · intro request
    have hat : OverrideNoted (Task.start config request).point := by
      rcases RequestEmissions.startRequest_point config request with h | ⟨e, h⟩ <;>
        rw [Task.start, h] <;> trivial
    refine ⟨hat, fun key => ?_⟩
    rw [Task.start, startRequest_effects]
    rfl
  · intro s i task now input effects point _ htask hsane hinv hsegment
    obtain ⟨hat, hbalanced⟩ := hinv
    refine ⟨segment_override hsegment hat, fun key => ?_⟩
    simp only [stepSane, htask] at hsane
    rw [Task.continue, counted_append, charged_append, hbalanced key,
      (segment_bills hsegment hat).balanced hsane key]

theorem prompt_generation_total {s : System} (h : Reachable (step P config) (initial config) s)
    (key : Key) : promptTotal key s.gateway.metrics + generationTotal key s.gateway.metrics =
      (s.tasks.map fun task => counted key task.trace).sum := by
  have hprompt (event : MetricEvent) (hadmission : fromAdmission event = true) :
      promptAmount key event = 0 := by
    cases event <;> first | rfl | cases hadmission
  have hgeneration (event : MetricEvent) (hadmission : fromAdmission event = true) :
      generationAmount key event = 0 := by
    cases event <;> first | rfl | cases hadmission
  simp only [promptTotal, generationTotal, metrics_total hprompt h, metrics_total hgeneration h,
    taskTotal, counted, List.sum_map_add]

/-- While every usage that reaches the counters is a pair of counts that they
take, what is recorded is sane and the budgets agree with the counters. -/
theorem budgets_agree {vs : List (System × Event)} {s : System}
    (run : Run (step P config) (initial config) vs s) (hsteps : ∀ v ∈ vs, stepSane P v.1 v.2 = true) :
    BudgetsAgree P config vs s where
  counts := by
    intro v hv i input now task effects point hevent htask hadvance hrecords
    obtain ⟨ws, hrun, hws⟩ := run.before hv
    have hat := (requests_balanced hrun (fun w hw => hsteps w (hws w hw)) task
      (List.mem_of_getElem? htask)).1
    have hsane := hsteps v hv
    obtain ⟨accepts, ⟨prompt, generation⟩, hbilled, hprompt, hgeneration⟩ :=
      (segment_bills (advance_segment hadvance) hat).recorded hrecords
    have hcounts : isCount prompt = true ∧ isCount generation = true := by
      simpa [hevent, stepSane, htask, hbilled, sane, hprompt, hgeneration] using hsane
    obtain ⟨m, hm, rfl⟩ := (isCount_iff _).mp hcounts.1
    obtain ⟨n, hn, rfl⟩ := (isCount_iff _).mp hcounts.2
    exact ⟨accepts, m, n, hm, hn, hbilled⟩
  totals := by
    intro key _ _
    rw [tokenSum_admissionCalls, history_total (charge key) run.reachable,
      prompt_generation_total run.reachable, taskTotal]
    refine congrArg List.sum (List.map_congr_left fun task htask => ?_)
    exact ((requests_balanced run hsteps task htask).2 key).symm

end

/-! The answer's usage is billed as it stands. -/

def answered : List Event :=
  [.arrive smallRequest 0, .resume 0 (.body postBody) 1, .resume 0 (.response 200 [] usageBody) 2]

theorem answered_meets :
    (exec (guarded (step smallPlatform smallConfig) (stepSane smallPlatform)) (initial smallConfig)
      answered).isSome = true := by
  decide +kernel

theorem budgets_agree_answered :
    ∃ vs s, BudgetsAgree smallPlatform smallConfig vs s ∧
      promptTotal ("research", "llama") s.gateway.metrics = 3 ∧
      generationTotal ("research", "llama") s.gateway.metrics = 5 := by
  obtain ⟨vs, run⟩ := exec_get_reachable answered_meets
  exact ⟨_, _, budgets_agree run.of_guarded run.meets, by decide +kernel, by decide +kernel⟩

/-! The upstream reports a negative number of prompt tokens. -/

def skewedBody : List UInt8 :=
  asciiBytes "\x7b\"usage\":\x7b\"prompt_tokens\":-3,\"completion_tokens\":5\x7d\x7d".toList

def skewedPlatform : Platform where
  loads := smallPlatform.loads
  loadsBytes content :=
    if content = skewedBody then
      .ok (.obj [("usage", .obj [("prompt_tokens", .int (-3)), ("completion_tokens", .int 5)])])
    else smallLoads content
  responseInit := smallPlatform.responseInit
  streamingResponseInit := smallPlatform.streamingResponseInit
  counterAccepts := fitsDouble

def skewed : List Event :=
  [.arrive smallRequest 0, .resume 0 (.body postBody) 1, .resume 0 (.response 200 [] skewedBody) 2]

def skewedRun : Option System :=
  exec (step skewedPlatform smallConfig) (initial smallConfig) skewed

theorem skewed_runs : skewedRun.isSome = true := by decide +kernel

theorem budgets_not_always_equal :
    ¬ ∀ (P : Platform) (config : AppConfig) (vs : List (System × Event)) (s : System),
      Run (step P config) (initial config) vs s → BudgetsAgree P config vs s := by
  intro h
  obtain ⟨vs, run, _⟩ := exec_run .refl (Option.some_get skewed_runs).symm
  have htotals := (h _ _ _ _ run).totals ("research", "llama") rfl (by decide)
  have hcharged : tokenSum (tokenRecords ("research", "llama")
      (admissionCalls (skewedRun.get skewed_runs).history)) = 2 := by decide +kernel
  have hcounted : promptTotal ("research", "llama") (skewedRun.get skewed_runs).gateway.metrics +
      generationTotal ("research", "llama") (skewedRun.get skewed_runs).gateway.metrics = 5 := by
    decide +kernel
  exact absurd (hcharged.symm.trans (htotals.trans hcounted)) (by decide)

end VllmSourceGateway.TokenBilling
