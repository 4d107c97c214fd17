import VllmSourceGateway.FailureCounters
import VllmSourceGateway.TransitionRuns

set_option autoImplicit false

/-! `request_metrics_middleware` as a step function. It awaits `call_next`, and
wraps the body of a streaming response in a generator that its consumer drives;
each of its three finalization sites ends it. -/
namespace VllmSourceGateway.MetricsMiddleware
open PyValues UsageExtractors Metrics GatewayEffects RequestMetrics FailureCounters TransitionRuns

/-- Where the middleware is suspended; the status is that of the response whose
body it wraps. -/
inductive Phase where
  | awaitResponse
  | bodyCreated (statusCode : ℕ)
  | awaitChunk (statusCode : ℕ)
  | yielded (statusCode : ℕ)
  | finished
  deriving DecidableEq

/-- `note` is the handler or the body writing to `request.state`; `response`,
`streamingResponse` and `raised` end the await of `call_next`, `chunk`,
`bodyEnd` and `raised` one of the body; `next` and `close` come from the consumer
of the wrapper. -/
inductive Signal where
  | note (update : RequestMetricsUpdate)
  | response (statusCode : ℕ)
  | streamingResponse (statusCode : ℕ)
  | raised (e : Exn)
  | next
  | chunk
  | bodyEnd
  | close

structure Middleware where
  phase : Phase
  state : RequestState
  finalizations : List Finalization

/-- After `initialize_request_metrics_state`. -/
def Middleware.start : Middleware := ⟨.awaitResponse, .initial, []⟩

def Middleware.note (m : Middleware) (update : RequestMetricsUpdate) : Middleware :=
  { m with state := m.state.update update }

/-- A handler may note several things between two of its awaits. -/
def Middleware.noteAll (m : Middleware) (updates : List RequestMetricsUpdate) : Middleware :=
  { m with state := updates.foldl .update m.state }

@[simp] theorem Middleware.noteAll_nil (m : Middleware) : m.noteAll [] = m := rfl

def Middleware.finalize (m : Middleware) (method : String) (defaultStatusCode : ℕ) : Middleware :=
  ⟨.finished, (finalizeRequestMetrics m.state method defaultStatusCode).2,
    m.finalizations ++ [⟨m.state, method, defaultStatusCode⟩]⟩

def Middleware.events (m : Middleware) : List RequestMetricEvent := emittedEvents m.finalizations

/-- One signal; what is noted after the middleware has finished is read by nobody. -/
def step (method : String) (m : Middleware) (signal : Signal) : Option Middleware :=
  match m.phase, signal with
  | .finished, _ => none
  | _, .note update => some (m.note update)
  | .awaitResponse, .response statusCode => some (m.finalize method statusCode)
  | .awaitResponse, .streamingResponse statusCode =>
    some { m with phase := .bodyCreated statusCode }
  | .awaitResponse, .raised e =>
    -- `except Exception` lets a cancellation through
    some (if e.isException then m.finalize method 500 else { m with phase := .finished })
  | .bodyCreated statusCode, .next => some { m with phase := .awaitChunk statusCode }
  | .bodyCreated _, .close => some { m with phase := .finished }
  | .awaitChunk statusCode, .chunk => some { m with phase := .yielded statusCode }
  | .awaitChunk statusCode, .bodyEnd => some (m.finalize method statusCode)
  | .awaitChunk statusCode, .raised e =>
    some ((if e.isException then m.note (.statusOverride 500) else m).finalize method statusCode)
  | .yielded statusCode, .next => some { m with phase := .awaitChunk statusCode }
  | .yielded statusCode, .close => some (m.finalize method statusCode)
  | _, _ => none

/-- Until it has finished the middleware takes every note. -/
theorem exec_notes (method : String) {m : Middleware} (h : m.phase ≠ .finished)
    (updates : List RequestMetricsUpdate) (rest : List Signal) :
    exec (step method) m (updates.map Signal.note ++ rest) =
      exec (step method) (m.noteAll updates) rest := by
  induction updates generalizing m with
  | nil => rfl
  | cons update updates ih =>
    have hnote : step method m (.note update) = some (m.note update) := by
      obtain ⟨phase, state, finalizations⟩ := m
      cases phase <;> first | rfl | exact absurd rfl h
    have hrest := @ih (m.note update) h
    rw [List.map_cons, List.cons_append, exec, hnote, Option.bind_some, hrest]
    rfl

/-- Steps that end the middleware past its finalization sites: `call_next` raised
what is no `Exception`, or the wrapper was closed before its first statement. -/
def Unfinalized (v : Middleware × Signal) : Prop :=
  match v.1.phase, v.2 with
  | .awaitResponse, .raised e => e.isException = false
  | .bodyCreated _, .close => True
  | _, _ => False

def Signal.status? : Signal → Option ℕ
  | .response statusCode | .streamingResponse statusCode => some statusCode
  | _ => none

/-- The default status of the finalization: of the response, or 500 where none came. -/
def responseStatus (vs : List (Middleware × Signal)) : ℕ :=
  (vs.findSome? fun v => v.2.status?).getD 500

def requestsOf (events : List RequestMetricEvent) : List RequestLabels :=
  events.filterMap fun event =>
    match event with
    | .httpRequest department endpoint method status => some ⟨department, endpoint, method, status⟩
    | _ => none

def durationsOf (events : List RequestMetricEvent) : List (String × Endpoint × String) :=
  events.filterMap fun event =>
    match event with
    | .requestDuration department endpoint method => some (department, endpoint, method)
    | _ => none

structure CountedOnce (events : List RequestMetricEvent) (labels : RequestLabels) : Prop where
  requests : requestsOf events = [labels]
  durations : durationsOf events = [(labels.department, labels.endpoint, labels.method)]

/-- What is read off the request's own events, whatever its model and failure. -/
theorem filterMap_events {α : Type} (f : RequestMetricEvent → Option α)
    (hmodel : ∀ department modelName endpoint method status,
      f (.modelHttpRequest department modelName endpoint method status) = none)
    (hduration : ∀ department modelName endpoint method,
      f (.modelRequestDuration department modelName endpoint method) = none)
    (hfailure : ∀ department endpoint method status origin,
      f (.httpRequestFailure department endpoint method status origin) = none)
    (call : Finalization) : call.events.filterMap f = call.labels.toList.flatMap fun labels =>
      [RequestMetricEvent.httpRequest labels.department labels.endpoint labels.method labels.status,
        .requestDuration labels.department labels.endpoint labels.method].filterMap f := by
  obtain ⟨hlabels, hevents⟩ | ⟨labels, model, failure, hlabels, hevents, hmethod, hstatus, hof,
    hfailed⟩ := call.events_cases
  · rw [hlabels, hevents]
    rfl
  · have hnone : model.filterMap f = [] := by
      rcases hof with rfl | ⟨modelName, rfl⟩
      · rfl
      · simp only [observeModelRequest, List.filterMap_cons, hmodel, hduration, List.filterMap_nil]
    have hnone' : failure.filterMap f = [] := by
      rcases hfailed with ⟨_, rfl⟩ | ⟨_, origin, rfl⟩
      · rfl
      · simp only [List.filterMap_cons, hfailure, List.filterMap_nil]
    rw [hevents, List.filterMap_append, List.filterMap_append, hnone, hnone', hlabels,
      List.append_nil, List.append_nil, observeRequest, ← hmethod, ← hstatus, Option.toList_some,
      List.flatMap_singleton]

theorem requestsOf_events (call : Finalization) : requestsOf call.events = call.labels.toList := by
  rw [requestsOf, filterMap_events _ (by simp) (by simp) (by simp)]
  cases call.labels <;> rfl

theorem durationsOf_events (call : Finalization) : durationsOf call.events =
    call.labels.toList.map fun labels => (labels.department, labels.endpoint, labels.method) := by
  rw [durationsOf, filterMap_events _ (by simp) (by simp) (by simp)]
  cases call.labels <;> rfl

theorem emittedEvents_singleton (call : Finalization) : emittedEvents [call] = call.events := by
  rw [emittedEvents, List.flatMap_singleton]

theorem countedOnce_of_labels {call : Finalization} {labels : RequestLabels}
    (h : call.labels = some labels) : CountedOnce (emittedEvents [call]) labels := by
  rw [emittedEvents_singleton]
  refine ⟨?_, ?_⟩
  · rw [requestsOf_events, h, Option.toList_some]
  · rw [durationsOf_events, h, Option.toList_some, List.map_singleton]

/-! ## The finalization sites in any order -/

/-- A write to `request.state` or a call of `finalize_request_metrics`. -/
inductive Call where
  | note (update : RequestMetricsUpdate)
  | finalize (defaultStatusCode : ℕ)

def callEvents (method : String) : RequestState → List Call → List RequestMetricEvent
  | _, [] => []
  | state, .note update :: calls => callEvents method (state.update update) calls
  | state, .finalize defaultStatusCode :: calls =>
    let (events, state) := finalizeRequestMetrics state method defaultStatusCode
    events ++ callEvents method state calls

@[simp] theorem update_recorded (state : RequestState) (update : RequestMetricsUpdate) :
    (state.update update).recorded = state.recorded := by
  cases update <;> rfl

theorem finalizeRequestMetrics_recorded (state : RequestState) (method : String)
    (defaultStatusCode : ℕ) : (finalizeRequestMetrics state method defaultStatusCode).2 =
      { state with recorded := true } := by
  obtain ⟨recorded, _, _, _, _, _⟩ := state
  cases recorded <;> rfl

/-- The flag blocks every later finalization. -/
theorem callEvents_recorded (method : String) {state : RequestState} (h : state.recorded = true)
    (calls : List Call) : callEvents method state calls = [] := by
  induction calls generalizing state with
  | nil => rfl
  | cons call calls ih =>
    cases call with
    | note update => exact ih ((update_recorded state update).trans h)
    | finalize defaultStatusCode =>
      have hnothing : finalizeRequestMetrics state method defaultStatusCode = ([], state) := by
        rw [finalizeRequestMetrics, if_pos h]
      simp only [callEvents, hnothing, ih h, List.append_nil]

/-- All the calls together emit what one of them does, or nothing. -/
theorem callEvents_once (method : String) (state : RequestState) (calls : List Call) :
    callEvents method state calls = [] ∨
      ∃ call : Finalization, callEvents method state calls = call.events := by
  induction calls generalizing state with
  | nil => exact .inl rfl
  | cons call calls ih =>
    cases call with
    | note update => exact ih (state.update update)
    | finalize defaultStatusCode =>
      have hrecorded :
          (finalizeRequestMetrics state method defaultStatusCode).2.recorded = true := by
        rw [finalizeRequestMetrics_recorded]
      refine .inr ⟨⟨state, method, defaultStatusCode⟩, ?_⟩
      simp only [callEvents, callEvents_recorded method hrecorded, List.append_nil]
      rfl

theorem callEvents_at_most_once (method : String) (state : RequestState) (calls : List Call) :
    (requestsOf (callEvents method state calls)).length ≤ 1 ∧
      (durationsOf (callEvents method state calls)).length ≤ 1 := by
  obtain hnone | ⟨call, hcall⟩ := callEvents_once method state calls
  · rw [hnone]
    exact ⟨Nat.zero_le 1, Nat.zero_le 1⟩
  · rw [hcall, requestsOf_events, durationsOf_events, List.length_map]
    cases call.labels <;> simp

def Phase.status? : Phase → Option ℕ
  | .bodyCreated statusCode | .awaitChunk statusCode | .yielded statusCode => some statusCode
  | .awaitResponse | .finished => none

inductive Step (method : String) (m : Middleware) : Signal → Middleware → Prop where
  | noted {update : RequestMetricsUpdate} (hopen : m.phase ≠ .finished) :
      Step method m (.note update) (m.note update)
  | streaming {statusCode : ℕ} (hphase : m.phase = .awaitResponse) :
      Step method m (.streamingResponse statusCode) { m with phase := .bodyCreated statusCode }
  | turned {signal : Signal} {phase : Phase} (hopen : m.phase ≠ .finished)
      (hopen' : phase ≠ .finished) (hstatus : phase.status? = m.phase.status?)
      (hsignal : signal.status? = none) (hkept : ¬ Unfinalized (m, signal)) :
      Step method m signal { m with phase := phase }
  | finalized {signal : Signal} {noted : Middleware} {defaultStatusCode : ℕ}
      (hopen : m.phase ≠ .finished) (hnoted : noted = m ∨ noted = m.note (.statusOverride 500))
      (hstatus : (m.phase.status?.or signal.status?).getD 500 = defaultStatusCode)
      (hkept : ¬ Unfinalized (m, signal)) :
      Step method m signal (noted.finalize method defaultStatusCode)
  | lost {signal : Signal} (hlost : Unfinalized (m, signal)) :
      Step method m signal { m with phase := .finished }

theorem step_cases {method : String} {m m' : Middleware} {signal : Signal}
    (h : step method m signal = some m') : Step method m signal m' := by
  obtain ⟨phase, state, finalizations⟩ := m
  cases phase with
  | awaitResponse =>
    cases signal with
    | note => cases h; exact .noted (by simp)
    | response => cases h; exact .finalized (by simp) (.inl rfl) rfl (by simp [Unfinalized])
    | streamingResponse => cases h; exact .streaming rfl
    | raised e =>
      simp only [step, Option.some.injEq] at h
      subst h
      split
      · rename_i hexception
        exact .finalized (by simp) (.inl rfl) rfl (by simp [Unfinalized, hexception])
      · rename_i hbase
        exact .lost (by simpa [Unfinalized] using hbase)
    | next | chunk | bodyEnd | close => cases h
  | bodyCreated statusCode =>
    cases signal with
    | note => cases h; exact .noted (by simp)
    | next => cases h; exact .turned (by simp) (by simp) rfl rfl (by simp [Unfinalized])
    | close => cases h; exact .lost trivial
    | response | streamingResponse | raised | chunk | bodyEnd => cases h
  | awaitChunk statusCode =>
    cases signal with
    | note => cases h; exact .noted (by simp)
    | chunk => cases h; exact .turned (by simp) (by simp) rfl rfl (by simp [Unfinalized])
    | bodyEnd => cases h; exact .finalized (by simp) (.inl rfl) rfl (by simp [Unfinalized])
    | raised e =>
      simp only [step, Option.some.injEq] at h
      subst h
      refine .finalized (by simp) ?_ rfl (by simp [Unfinalized])
      split
      · exact .inr rfl
      · exact .inl rfl
    | response | streamingResponse | next | close => cases h
  | yielded statusCode =>
    cases signal with
    | note => cases h; exact .noted (by simp)
    | next => cases h; exact .turned (by simp) (by simp) rfl rfl (by simp [Unfinalized])
    | close => cases h; exact .finalized (by simp) (.inl rfl) rfl (by simp [Unfinalized])
    | response | streamingResponse | raised | chunk | bodyEnd => cases h
  | finished => cases h

/-- Not finished: nothing is finalized, and no step has lost the request. -/
structure Open (vs : List (Middleware × Signal)) (m : Middleware) : Prop where
  finalizations : m.finalizations = []
  recorded : m.state.recorded = false
  kept : ∀ v ∈ vs, ¬ Unfinalized v
  status : (vs.findSome? fun v => v.2.status?) = m.phase.status?

/-- Finished: finalized once, with what was noted until then, or lost. -/
inductive Finished (method : String) (vs : List (Middleware × Signal)) (m : Middleware) : Prop where
  | finalized (state : RequestState) (hrecorded : state.recorded = false)
      (hstate : m.state = { state with recorded := true })
      (hfinalizations : m.finalizations = [⟨state, method, responseStatus vs⟩])
      (hkept : ∀ v ∈ vs, ¬ Unfinalized v)
  | lost (hfinalizations : m.finalizations = []) (hlost : ∃ v ∈ vs, Unfinalized v)

def RunInv (method : String) (vs : List (Middleware × Signal)) (m : Middleware) : Prop :=
  (m.phase ≠ .finished → Open vs m) ∧ (m.phase = .finished → Finished method vs m)

theorem Open.kept_snoc {vs : List (Middleware × Signal)} {m : Middleware} {signal : Signal}
    (h : Open vs m) (hkept : ¬ Unfinalized (m, signal)) :
    ∀ v ∈ vs ++ [(m, signal)], ¬ Unfinalized v := by
  rw [List.forall_mem_append, List.forall_mem_singleton]
  exact ⟨h.kept, hkept⟩

theorem Open.status_snoc {vs : List (Middleware × Signal)} {m : Middleware} (h : Open vs m)
    (signal : Signal) : ((vs ++ [(m, signal)]).findSome? fun v => v.2.status?) =
      m.phase.status?.or signal.status? := by
  rw [List.findSome?_append, h.status]
  cases hsignal : signal.status? <;> simp [hsignal]

theorem RunInv.step {method : String} {vs : List (Middleware × Signal)} {m m' : Middleware}
    {signal : Signal} (h : RunInv method vs m) (hstep : Step method m signal m') :
    RunInv method (vs ++ [(m, signal)]) m' := by
  cases hstep with
  | noted hopen =>
    have hm := h.1 hopen
    refine ⟨fun _ => ⟨hm.finalizations, ?_, hm.kept_snoc ?_, ?_⟩, fun hend => absurd hend hopen⟩
    · exact (update_recorded m.state _).trans hm.recorded
    · cases hphase : m.phase <;> simp [Unfinalized, hphase]
    · rw [hm.status_snoc]
      exact Option.or_none
  | streaming hphase =>
    have hm := h.1 (by simp [hphase])
    refine ⟨fun _ => ⟨hm.finalizations, hm.recorded, hm.kept_snoc ?_, ?_⟩, nofun⟩
    · simp [Unfinalized, hphase]
    · rw [hm.status_snoc, hphase]
      rfl
  | turned hopen hopen' hstatus hsignal hkept =>
    have hm := h.1 hopen
    refine ⟨fun _ => ⟨hm.finalizations, hm.recorded, hm.kept_snoc hkept, ?_⟩,
      fun hend => absurd hend hopen'⟩
    rw [hm.status_snoc, hsignal, Option.or_none]
    exact hstatus.symm
  | @finalized signal noted defaultStatusCode hopen hnoted hstatus hkept =>
    have hm := h.1 hopen
    have hrecorded : noted.state.recorded = false := by
      rcases hnoted with rfl | rfl
      · exact hm.recorded
      · exact hm.recorded
    have hnone : noted.finalizations = [] := by
      rcases hnoted with rfl | rfl
      · exact hm.finalizations
      · exact hm.finalizations
    have hdefault : responseStatus (vs ++ [(m, signal)]) = defaultStatusCode := by
      rw [responseStatus, hm.status_snoc, hstatus]
    refine ⟨fun hlive => absurd rfl hlive, fun _ => ?_⟩
    refine .finalized noted.state hrecorded ?_ ?_ (hm.kept_snoc hkept)
    · exact finalizeRequestMetrics_recorded noted.state method defaultStatusCode
    · rw [hdefault]
      simp only [Middleware.finalize, hnone, List.nil_append]
  | lost hlost =>
    refine ⟨fun hlive => absurd rfl hlive, fun _ => ?_⟩
    have hopen : m.phase ≠ .finished := by
      intro hend
      simp [Unfinalized, hend] at hlost
    exact .lost (h.1 hopen).finalizations ⟨_, List.mem_append_right _ List.mem_cons_self, hlost⟩

theorem run_inv {method : String} {vs : List (Middleware × Signal)} {m : Middleware}
    (run : Run (step method) .start vs m) : RunInv method vs m := by
  refine run.invariant (RunInv method) ?_ ?_
  · exact ⟨fun _ => ⟨rfl, rfl, List.forall_mem_nil _, rfl⟩, fun hend => by cases hend⟩
  · exact fun _ _ _ _ _ hinv hstep => hinv.step (step_cases hstep)

/-- A request that is over was counted, exactly once, unless a step lost it; no order
of the finalization sites counts it twice. -/
theorem requests_counted_once_iff (method : String) :
    (∀ vs m department endpoint, Run (step method) .start vs m → m.phase = .finished →
      m.state.department = some department → m.state.endpoint = some endpoint →
      (CountedOnce m.events ⟨department, endpoint, method.toUpper,
          statusClass (m.state.statusCodeOverride.getD (responseStatus vs))⟩ ↔
        ∀ v ∈ vs, ¬ Unfinalized v)) ∧
    ∀ calls, (requestsOf (callEvents method .initial calls)).length ≤ 1 ∧
      (durationsOf (callEvents method .initial calls)).length ≤ 1 := by
  refine ⟨?_, fun calls => callEvents_at_most_once method .initial calls⟩
  intro vs m department endpoint run hend hdepartment hendpoint
  cases (run_inv run).2 hend with
  | finalized state hrecorded hstate hfinalizations hkept =>
    refine iff_of_true ?_ hkept
    rw [hstate] at hdepartment hendpoint
    dsimp only at hdepartment hendpoint
    rw [Middleware.events, hfinalizations]
    refine countedOnce_of_labels ?_
    simp only [Finalization.labels, Finalization.statusCode, hrecorded, hdepartment, hendpoint,
      hstate, Bool.false_eq_true, if_false]
  | lost hfinalizations hlost =>
    refine iff_of_false ?_ ?_
    · intro hcounted
      have hrequests := hcounted.requests
      rw [Middleware.events, hfinalizations] at hrequests
      cases hrequests
    · obtain ⟨v, hv, hlost⟩ := hlost
      exact fun hkept => hkept v hv hlost

/-- The client goes away while the upstream has not answered. -/
theorem cancelled_uncounted :
    ¬ ∀ vs m department endpoint, Run (step "POST") .start vs m → m.phase = .finished →
      m.state.department = some department → m.state.endpoint = some endpoint →
      ∃ labels, CountedOnce m.events labels := by
  intro hclaim
  obtain ⟨vs, run, -⟩ := @exec_run _ _ (step "POST") .start [] .start _
    [.note (.context "research" .chatCompletions), .raised .cancelled] .refl rfl
  obtain ⟨labels, hcounted⟩ := hclaim _ _ "research" .chatCompletions run rfl rfl rfl
  cases hcounted.requests

end VllmSourceGateway.MetricsMiddleware
