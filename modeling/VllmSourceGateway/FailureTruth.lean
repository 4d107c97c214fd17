import VllmSourceGateway.MeteredRequests

set_option autoImplicit false

/-! Who is to be blamed for a failure, and what one finalization of a request says of it. -/
namespace VllmSourceGateway.FailureTruth
open PyText PyValues UsageExtractors Metrics Config AdmissionControl Routing GatewayEffects SseParser
open StreamBytes StreamBytesOutcomes UpstreamHeaders ProxyEndpoint RequestSegments
open ResponsePassThrough RequestMetrics FailureCounters TransitionRuns MeteredRequests
open MetricsMiddleware (Middleware Phase Signal)

def upstreamStatus? : Input → Option ℕ
  | .opened statusCode _ | .response statusCode _ _ => some statusCode
  | _ => none

/-- The gateway made the failure up: the handler raised; or its body, which the
client had not left, let an exception through to the middleware, or was broken
off and ended all the same. -/
def Synthesized (inputs : List Input) : Option Point → Prop
  | some (.finished (.raised _)) => True
  | some (.streaming _ (.finished (.raised e))) =>
    .stream .close ∉ inputs ∧ e.isException = true
  | some (.streaming _ (.finished .exhausted)) =>
    .stream .close ∉ inputs ∧ ∃ input ∈ inputs, breaksOff input = true
  | _ => False

/-- The client got the upstream's response, and this status is that response's. -/
def PassedThrough (inputs : List Input) (point : Option Point) (statusCode : ℕ) : Prop :=
  (∃ input ∈ inputs, upstreamStatus? input = some statusCode) ∧ ¬ Synthesized inputs point

def failureOrigins (events : List RequestMetricEvent) : List FailureOrigin :=
  events.filterMap fun event =>
    match event with
    | .httpRequestFailure _ _ _ _ origin => some origin
    | _ => none

/-- Every failure is counted once, under the origin that it has. -/
def Truthful (inputs : List Input) (s : Metered) : Prop :=
  ∀ call ∈ s.middleware.finalizations, 400 ≤ call.statusCode →
    (failureOrigins call.events = [.upstream] ↔ PassedThrough inputs s.point call.statusCode) ∧
      (failureOrigins call.events = [.gateway] ↔ Synthesized inputs s.point)

/-- No flag and no accounting status is set when the body ends with an exception in flight. -/
def reraises (exit : Exit) : Bool :=
  exit.inFlight.isSome && !exit.clientDisconnected && !exit.streamFailed &&
    exit.parse.accountingStatusOverride.isNone

/-- What goes wrong after an upstream has answered with an error status, and is not told:
an exception that gets through to the middleware, or an end of the body that the gateway
makes up when the request has been finalized already. A body that has run ahead of
`call_next` is not judged before its response is returned. -/
def Escapes (P : Platform) (request : ProxyRequest) (phase : Phase) (point : Point)
    (input : Input) : Prop :=
  match point, input with
  | .awaitPost _, .response statusCode headers content =>
    400 ≤ statusCode ∧ ¬ Presentable P request.endpoint statusCode headers content
  | .awaitSend _, .opened statusCode headers =>
    400 ≤ statusCode ∧ P.streamingResponseInit statusCode (buildDownstreamHeaders headers) = false
  | .streaming ctx (.awaitClose exit), .stream .closed =>
    400 ≤ ctx.statusCode ∧ exit.closing = false ∧ phase ≠ .awaitResponse ∧
      (reraises exit = true ∨
        phase = .finished ∧ (exit.clientDisconnected || exit.streamFailed) = true)
  | .streaming ctx (.awaitClose exit), .stream (.raised e) =>
    400 ≤ ctx.statusCode ∧ exit.closing = false ∧ phase ≠ .awaitResponse ∧ e.isException = true
  | _, _ => False

def EscapeStep (P : Platform) (request : ProxyRequest) (v : Metered × Turn) : Prop :=
  match v.1.point, v.2 with
  | some point, .resume _ _ input => Escapes P request v.1.middleware.phase point input
  | some (.streaming ctx (.finished (.raised e))), .returned =>
    400 ≤ ctx.statusCode ∧ e.isException = true
  | some (.streaming ctx .created), .unsent => 400 ≤ ctx.statusCode
  | _, _ => False

/-- What is in `request.state` while nothing overrides the status. -/
structure Noted (request : ProxyRequest) (origin : Option FailureOrigin) (state : RequestState) :
    Prop where
  recorded : state.recorded = false
  department : state.department = some request.department
  endpoint : state.endpoint = some request.endpoint
  failureOrigin : state.failureOrigin = origin
  statusCodeOverride : state.statusCodeOverride = none

def originOf (statusCode : ℕ) : Option FailureOrigin :=
  if 400 ≤ statusCode then some .upstream else none

theorem failureOrigins_events {call : Finalization} {department : String} {endpoint : Endpoint}
    (hrecorded : call.state.recorded = false) (hdepartment : call.state.department = some department)
    (hendpoint : call.state.endpoint = some endpoint) (hfailed : 400 ≤ call.statusCode) :
    failureOrigins call.events = [call.state.failureOrigin.getD .gateway] := by
  have hnot : ¬ call.statusCode < 400 := by omega
  simp only [Finalization.statusCode] at hfailed hnot
  have happend (xs ys : List RequestMetricEvent) :
      failureOrigins (xs ++ ys) = failureOrigins xs ++ failureOrigins ys := List.filterMap_append
  simp only [Finalization.events, finalizeRequestMetrics, buildRequestMetricsSnapshot, hrecorded,
    hdepartment, hendpoint, hfailed, Bool.false_eq_true, if_false, happend, decide_true,
    Bool.and_true]
  cases call.state.modelName <;> cases call.state.failureOrigin <;>
    simp [recordRequestFailure, hnot, failureOrigins, observeRequest, observeModelRequest]

section
variable {inputs : List Input} {point : Option Point}

/-- A request finalized once is told truly where the origin that was noted is. -/
theorem truthful_iff_call {middleware : Middleware} {call : Finalization} {department : String}
    {endpoint : Endpoint} (hcalls : middleware.finalizations = [call])
    (hrecorded : call.state.recorded = false) (hdepartment : call.state.department = some department)
    (hendpoint : call.state.endpoint = some endpoint) :
    Truthful inputs ⟨point, middleware⟩ ↔ (400 ≤ call.statusCode →
      (call.state.failureOrigin.getD .gateway = .upstream ↔
        PassedThrough inputs point call.statusCode) ∧
      (call.state.failureOrigin.getD .gateway = .gateway ↔ Synthesized inputs point)) := by
  rw [Truthful, hcalls, List.forall_mem_singleton]
  refine forall_congr' fun hfailed => ?_
  rw [failureOrigins_events hrecorded hdepartment hendpoint hfailed, List.singleton_inj,
    List.singleton_inj]

/-- The status is the upstream's and nothing was made up. -/
theorem truthful_passed {middleware : Middleware} {request : ProxyRequest} {state : RequestState}
    {method : String} {statusCode : ℕ}
    (hcalls : middleware.finalizations = [⟨state, method, statusCode⟩])
    (hstate : Noted request (originOf statusCode) state)
    (hanswered : ∃ input ∈ inputs, upstreamStatus? input = some statusCode)
    (hgenuine : ¬ Synthesized inputs point) : Truthful inputs ⟨point, middleware⟩ := by
  rw [truthful_iff_call hcalls hstate.recorded hstate.department hstate.endpoint]
  simp only [Finalization.statusCode, hstate.statusCodeOverride, Option.getD_none]
  intro hfailed
  rw [hstate.failureOrigin, originOf, if_pos hfailed]
  exact ⟨iff_of_true rfl ⟨hanswered, hgenuine⟩, iff_of_false (by decide) hgenuine⟩

/-- The failure is made up; it is told so unless an origin was noted before. -/
theorem truthful_synthesized_iff {middleware : Middleware} {call : Finalization}
    {department : String} {endpoint : Endpoint} (hcalls : middleware.finalizations = [call])
    (hrecorded : call.state.recorded = false) (hdepartment : call.state.department = some department)
    (hendpoint : call.state.endpoint = some endpoint) (hmade : Synthesized inputs point) :
    Truthful inputs ⟨point, middleware⟩ ↔
      (400 ≤ call.statusCode → call.state.failureOrigin ≠ some .upstream) := by
  rw [truthful_iff_call hcalls hrecorded hdepartment hendpoint]
  have hnot : ¬ PassedThrough inputs point call.statusCode := fun h => h.2 hmade
  simp only [hmade, hnot, iff_false, iff_true]
  cases horigin : call.state.failureOrigin with
  | none => simp
  | some origin => cases origin <;> simp

/-- Blame for an upstream's status goes to the upstream, rightly so unless it was made up. -/
theorem truthful_noted_iff {middleware : Middleware} {request : ProxyRequest} {state : RequestState}
    {method : String} {statusCode : ℕ}
    (hcalls : middleware.finalizations = [⟨state, method, statusCode⟩])
    (hstate : Noted request (originOf statusCode) state)
    (hanswered : ∃ input ∈ inputs, upstreamStatus? input = some statusCode) :
    Truthful inputs ⟨point, middleware⟩ ↔ ¬ (400 ≤ statusCode ∧ Synthesized inputs point) := by
  by_cases hmade : Synthesized inputs point
  · rw [truthful_synthesized_iff hcalls hstate.recorded hstate.department hstate.endpoint hmade]
    simp only [Finalization.statusCode, hstate.statusCodeOverride, Option.getD_none,
      hstate.failureOrigin, originOf]
    split <;> simp_all
  · exact iff_of_true (truthful_passed hcalls hstate hanswered hmade) fun h => hmade h.2

theorem truthful_of_unfinalized {middleware : Middleware} (h : middleware.finalizations = []) :
    Truthful inputs ⟨point, middleware⟩ := by
  rw [Truthful, h]
  exact List.forall_mem_nil _

end

section
variable {m : Middleware}

/-- The handler raises and no origin was noted before. -/
theorem exec_raised (method : String) {request : ProxyRequest} (inputs : List Input) (e : Exn)
    (hphase : m.phase = .awaitResponse) (hcalls : m.finalizations = [])
    (hstate : Noted request none m.state) :
    ∃ m', exec (MetricsMiddleware.step method) m (outcomeSignals (.raised e)) = some m' ∧
      Truthful inputs ⟨some (.finished (.raised e)), m'⟩ := by
  obtain ⟨phase, state, finalizations⟩ := m
  dsimp only at hphase hcalls hstate
  subst hphase hcalls
  have hfinalized (statusCode : ℕ) : Truthful inputs ⟨some (.finished (.raised e)),
      Middleware.finalize ⟨.awaitResponse, state, []⟩ method statusCode⟩ := by
    have hmade : Synthesized inputs (some (.finished (.raised e))) := trivial
    refine (truthful_synthesized_iff rfl hstate.recorded hstate.department hstate.endpoint
      hmade).mpr fun _ => ?_
    rw [hstate.failureOrigin]
    simp
  cases e with
  | http error => exact ⟨_, rfl, hfinalized error.statusCode⟩
  | cancelled => exact ⟨_, rfl, truthful_of_unfinalized rfl⟩
  | _ => exact ⟨_, rfl, hfinalized 500⟩

/-- The handler raises after an upstream has answered with this status. -/
theorem exec_raised_late (method : String) {request : ProxyRequest} (inputs : List Input) {e : Exn}
    {statusCode : ℕ} (he : fromParsing e) (hphase : m.phase = .awaitResponse)
    (hcalls : m.finalizations = [])
    (hstate : Noted request (originOf statusCode) m.state) :
    ∃ m', exec (MetricsMiddleware.step method) m (outcomeSignals (.raised e)) = some m' ∧
      (Truthful inputs ⟨some (.finished (.raised e)), m'⟩ ↔ ¬ 400 ≤ statusCode) := by
  obtain ⟨phase, state, finalizations⟩ := m
  dsimp only at hphase hcalls hstate
  subst hphase hcalls
  have hmade : Synthesized inputs (some (.finished (.raised e))) := trivial
  have htold : Truthful inputs ⟨some (.finished (.raised e)),
      Middleware.finalize ⟨.awaitResponse, state, []⟩ method 500⟩ ↔ ¬ 400 ≤ statusCode := by
    rw [truthful_synthesized_iff rfl hstate.recorded hstate.department hstate.endpoint hmade]
    simp only [Finalization.statusCode, hstate.statusCodeOverride, hstate.failureOrigin, originOf]
    split <;> simp_all
  rcases he with rfl | rfl | rfl <;> exact ⟨_, rfl, htold⟩

end

/-! ## What is known of a request -/

/-- While the request is under way its status may still come to be any, and nothing
has gone wrong with it. -/
structure Underway (P : Platform) (request : ProxyRequest) (vs : List (Metered × Turn))
    (m : Middleware) (phase : Phase) (origin : Option FailureOrigin) : Prop where
  kept : ∀ v ∈ vs, ¬ EscapeStep P request v
  phase : m.phase = phase
  unfinalized : m.finalizations = []
  noted : Noted request origin m.state
  notLeft : .stream .close ∉ inputsOf vs

def Answered (vs : List (Metered × Turn)) (statusCode : ℕ) : Prop :=
  ∃ input ∈ inputsOf vs, upstreamStatus? input = some statusCode

def Unbroken (vs : List (Metered × Turn)) : Prop :=
  ∀ input ∈ inputsOf vs, breaksOff input = false

/-- The `finally` block is ahead. The flags say whether the stream was broken off. -/
structure Broken (vs : List (Metered × Turn)) (exit : Exit) : Prop where
  notClosing : exit.closing = false
  flags : (exit.clientDisconnected || exit.streamFailed) = true ↔
    ∃ input ∈ inputsOf vs, breaksOff input = true
  inFlight : ∀ e ∈ exit.inFlight, exit.clientDisconnected = false → e.isException = true

/-- The client has left and the request has been finalized. -/
structure Abandoned (P : Platform) (request : ProxyRequest) (method : String)
    (vs : List (Metered × Turn)) (m : Middleware) (statusCode : ℕ) (exit : Exit) : Prop where
  kept : ∀ v ∈ vs, ¬ EscapeStep P request v
  phase : m.phase = .finished
  finalized : ∃ state, m.finalizations = [⟨state, method, statusCode⟩] ∧
    Noted request (originOf statusCode) state
  left : .stream .close ∈ inputsOf vs
  closing : exit.closing = true
  unflagged : exit.clientDisconnected = false ∧ exit.streamFailed = false

/-- At the end the truth is told unless an exception has escaped. -/
def Told (P : Platform) (request : ProxyRequest) (vs : List (Metered × Turn)) (s : Metered) : Prop :=
  Truthful (inputsOf vs) s ↔ ∀ v ∈ vs, ¬ EscapeStep P request v

section
variable {P : Platform} {request : ProxyRequest} {vs : List (Metered × Turn)} {s : Metered}
  {ctx : StreamContext} {g : Gateway} {now : ℚ} {input : Input} {point : Point} {phase : Phase}
  {origin : Option FailureOrigin}

@[simp] theorem inputsOf_snoc :
    inputsOf (vs ++ [(s, .resume g now input)]) = inputsOf vs ++ [input] := by
  simp [inputsOf]

theorem noted_upstreamStatus {state : RequestState} (h : Noted request none state)
    (modelName : String) (statusCode : ℕ) :
    Noted request (originOf statusCode)
      ((updatesOf (noteUpstreamStatus request modelName statusCode)).foldl .update state) := by
  rw [updatesOf_noteUpstreamStatus, originOf]
  split
  · exact ⟨h.recorded, h.department, h.endpoint, rfl, h.statusCodeOverride⟩
  · exact h

theorem noted_models {state : RequestState} (h : Noted request origin state)
    {updates : List RequestMetricsUpdate}
    (hmodels : ∀ update ∈ updates, ∃ modelName, update = .model modelName) :
    Noted request origin (updates.foldl .update state) := by
  induction updates generalizing state with
  | nil => exact h
  | cons update updates ih =>
    obtain ⟨⟨modelName, rfl⟩, hrest⟩ := List.forall_mem_cons.mp hmodels
    exact ih ⟨h.recorded, h.department, h.endpoint, h.failureOrigin, h.statusCodeOverride⟩ hrest

theorem Underway.middleware_eq {m : Middleware} (h : Underway P request vs m phase origin) :
    m = ⟨phase, m.state, []⟩ := by
  obtain ⟨_, hphase, hcalls, _, _⟩ := h
  rw [← hphase, ← hcalls]

theorem Underway.kept_snoc {m : Middleware} (h : Underway P request vs m phase origin)
    (hpoint : s.point = some point) (hescapes : ¬ Escapes P request s.middleware.phase point input) :
    ∀ v ∈ vs ++ [(s, .resume g now input)], ¬ EscapeStep P request v := by
  rw [List.forall_mem_append, List.forall_mem_singleton]
  refine ⟨h.kept, ?_⟩
  rw [EscapeStep, hpoint]
  exact hescapes

theorem Underway.next {m m' : Middleware} {phase' : Phase} {origin' : Option FailureOrigin}
    (h : Underway P request vs m phase origin) (hpoint : s.point = some point)
    (hescapes : ¬ Escapes P request s.middleware.phase point input) (hinput : input ≠ .stream .close)
    (hphase : m'.phase = phase') (hcalls : m'.finalizations = [])
    (hnoted : Noted request origin' m'.state) :
    Underway P request (vs ++ [(s, .resume g now input)]) m' phase' origin' := by
  refine ⟨h.kept_snoc hpoint hescapes, hphase, hcalls, hnoted, ?_⟩
  rw [inputsOf_snoc, List.mem_append, List.mem_singleton, not_or]
  exact ⟨h.notLeft, hinput.symm⟩

theorem Unbroken.next (h : Unbroken vs) (hinput : breaksOff input = false) :
    Unbroken (vs ++ [(s, .resume g now input)]) := by
  rw [Unbroken, inputsOf_snoc, List.forall_mem_append, List.forall_mem_singleton]
  exact ⟨h, hinput⟩

theorem Answered.next (h : Answered vs ctx.statusCode) (input : Input) :
    Answered (vs ++ [(s, .resume g now input)]) ctx.statusCode := by
  obtain ⟨seen, hseen, hstatus⟩ := h
  exact ⟨seen, by simp [hseen], hstatus⟩

theorem escapes_closed_iff (P : Platform) (request : ProxyRequest) (ctx : StreamContext) {exit : Exit}
    {phase : Phase} (hphase : phase ≠ .awaitResponse)
    (hclosing : exit.closing = false)
    (hunflagged : exit.clientDisconnected = false ∧ exit.streamFailed = false)
    (hinFlight : ∀ e ∈ exit.inFlight, exit.clientDisconnected = false → e.isException = true) :
    Escapes P request phase (.streaming ctx (.awaitClose exit)) (.stream .closed) ↔
      400 ≤ ctx.statusCode ∧
        ∃ e, outcomeAfter exit (finallyBlock ctx exit).2 = .raised e ∧ e.isException = true := by
  simp only [Escapes, reraises, hclosing, hphase, hunflagged.1, hunflagged.2, true_and, ne_eq,
    not_false_eq_true, Bool.or_self, Bool.false_eq_true, and_false, or_false, Bool.not_false,
    Bool.and_true, Bool.and_eq_true, Option.isNone_iff_eq_none]
  refine and_congr_right fun hfailed => ?_
  obtain ⟨_, ⟨hoverride, hreturns⟩ | ⟨hoverride, hcompletes | ⟨hsuccess, _⟩⟩⟩ :=
    finallyBlock_unnoted ctx hunflagged.1 hunflagged.2
  · rw [hreturns]
    obtain ⟨status, hstatus⟩ := Option.isSome_iff_exists.mp hoverride
    simp [outcomeAfter, hclosing, hstatus]
  · rw [hcompletes]
    cases hraised : exit.inFlight with
    | none => simp [outcomeAfter, hclosing, hraised]
    | some e => simp [outcomeAfter, hclosing, hraised, hoverride, hinFlight e hraised hunflagged.1]
  · omega

theorem not_escapes_inLoop {streamPoint : StreamPoint}
    (h : (∃ locals, streamPoint = .awaitChunk locals) ∨
      ∃ locals chunk, streamPoint = .awaitDisconnect locals chunk) :
    ¬ Escapes P request phase (.streaming ctx streamPoint) input := by
  rcases h with ⟨locals, rfl⟩ | ⟨locals, chunk, rfl⟩
  · exact id
  · exact id

theorem outcomeAfter_open {exit : Exit} (hclosing : exit.closing = false) (ended : FinallyEnd) :
    outcomeAfter exit ended ≠ .closed := by
  cases ended with
  | returns => simp [outcomeAfter, hclosing]
  | completes => cases hraised : exit.inFlight <;> simp [outcomeAfter, hclosing, hraised]
  | raises e => simp [outcomeAfter]

/-- The body stops at an await, with its flags as the last input has it. -/
theorem Unbroken.stopped {input : StreamInput} {exit : Exit} (h : Unbroken vs)
    (hclosing : exit.closing = false)
    (hflags : (exit.clientDisconnected || exit.streamFailed) = breaksOff (.stream input))
    (hinFlight : ∀ e ∈ exit.inFlight, exit.clientDisconnected = false → e.isException = true) :
    Broken (vs ++ [(s, .resume g now (.stream input))]) exit := by
  refine ⟨hclosing, ?_, hinFlight⟩
  rw [hflags, inputsOf_snoc]
  constructor
  · exact fun hbreaks => ⟨.stream input, by simp, hbreaks⟩
  · rintro ⟨seen, hseen, hbreaks⟩
    rcases List.mem_append.mp hseen with hold | hlast
    · rw [h seen hold] at hbreaks
      cases hbreaks
    · rwa [List.mem_singleton.mp hlast] at hbreaks

/-- A body that was broken off and has no exception to let through ends as if by itself. -/
theorem Broken.flagged (ctx : StreamContext) {exit : Exit} (h : Broken vs exit)
    (hnotLeft : .stream .close ∉ inputsOf vs)
    (hflagged : (exit.clientDisconnected || exit.streamFailed) = true) :
    outcomeAfter exit (finallyBlock ctx exit).2 = .exhausted ∧
      Synthesized (inputsOf vs ++ [.stream .closed])
        (some (.streaming ctx (.finished .exhausted))) := by
  obtain ⟨statusCode, -, hreturns⟩ := finallyBlock_noted ctx hflagged
  obtain ⟨input, hinput, hbreaks⟩ := h.flags.mp hflagged
  refine ⟨by simp [hreturns, outcomeAfter, h.notClosing], by simp [hnotLeft], input, ?_, hbreaks⟩
  exact List.mem_append_left _ hinput

/-- A failure in any other body is what gets out of it. -/
theorem Broken.unflagged {exit : Exit} (h : Broken vs exit)
    (hnotLeft : .stream .close ∉ inputsOf vs)
    (hunflagged : ¬ (exit.clientDisconnected || exit.streamFailed) = true) {outcome : StreamOutcome} :
    Synthesized (inputsOf vs ++ [.stream .closed]) (some (.streaming ctx (.finished outcome))) ↔
      ∃ e, outcome = .raised e ∧ e.isException = true := by
  have hunbroken : ¬ ∃ input ∈ inputsOf vs ++ [.stream .closed], breaksOff input = true := by
    rw [h.flags] at hunflagged
    simpa [or_and_right, exists_or, breaksOff] using hunflagged
  cases outcome with
  | exhausted => simp only [Synthesized, hunbroken, and_false, reduceCtorEq, false_and, exists_false]
  | raised e => simp [Synthesized, hnotLeft]
  | closed => simp [Synthesized]

/-- The body after its consumer has left is of no account any more. -/
theorem Abandoned.told {method : String} {m : Middleware} {exit : Exit} {input : StreamInput}
    {outcome : StreamOutcome} (h : Abandoned P request method vs m ctx.statusCode exit)
    (hanswered : Answered vs ctx.statusCode)
    (hpoint : s.point = some (.streaming ctx (.awaitClose exit))) :
    Told P request (vs ++ [(s, .resume g now (.stream input))])
      ⟨some (.streaming ctx (.finished outcome)), m⟩ := by
  obtain ⟨state, hcalls, hnoted⟩ := h.finalized
  have hleft : Input.stream .close ∈ inputsOf (vs ++ [(s, .resume g now (.stream input))]) := by
    simp [h.left]
  have hgenuine : ¬ Synthesized (inputsOf (vs ++ [(s, .resume g now (.stream input))]))
      (some (.streaming ctx (.finished outcome))) := by
    cases outcome <;> simp only [Synthesized, not_and] <;> first
      | exact fun hnot => absurd hleft hnot
      | exact not_false
  refine iff_of_true (truthful_passed hcalls hnoted (hanswered.next _) hgenuine) ?_
  rw [List.forall_mem_append, List.forall_mem_singleton, EscapeStep, hpoint]
  refine ⟨h.kept, ?_⟩
  cases input <;> simp [Escapes, h.closing]

end

end VllmSourceGateway.FailureTruth
