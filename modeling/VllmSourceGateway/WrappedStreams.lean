import VllmSourceGateway.FailureTruth

set_option autoImplicit false

/-! A body inside the middleware's wrapper. The request is finalized where the wrapper
ends, with the body's own end at hand. -/
namespace VllmSourceGateway.WrappedStreams
open PyText PyValues UsageExtractors Metrics Config AdmissionControl Routing GatewayEffects SseParser
open StreamBytes ProxyEndpoint RequestMetrics FailureCounters TransitionRuns
open StreamBytesOutcomes hiding Truthful
open MeteredRequests FailureTruth
open MetricsMiddleware (Middleware Phase Signal)

def StreamInv (P : Platform) (request : ProxyRequest) (method : String)
    (vs : List (Metered × Turn)) (m : Middleware) (ctx : StreamContext) : StreamPoint → Prop
  | .created => Underway P request vs m (.bodyCreated ctx.statusCode) (originOf ctx.statusCode) ∧
      Unbroken vs
  | .awaitChunk _ | .awaitDisconnect _ _ =>
    Underway P request vs m (.awaitChunk ctx.statusCode) (originOf ctx.statusCode) ∧ Unbroken vs
  | .yielded _ _ =>
    Underway P request vs m (.yielded ctx.statusCode) (originOf ctx.statusCode) ∧ Unbroken vs
  | .awaitClose exit =>
    Underway P request vs m (.awaitChunk ctx.statusCode) (originOf ctx.statusCode) ∧
        Broken vs exit ∨
      Abandoned P request method vs m ctx.statusCode exit
  | .finished outcome => Told P request vs ⟨some (.streaming ctx (.finished outcome)), m⟩

section
variable {P : Platform} {request : ProxyRequest} {method : String} {vs : List (Metered × Turn)}
  {m : Middleware} {ctx : StreamContext} {inputs : List Input} {outcome : StreamOutcome}

/-- The failure of the gateway that was noted at the end is told. -/
theorem exec_bodyEnd_noted (method : String) (statusCode : ℕ)
    (hphase : m.phase = .awaitChunk ctx.statusCode) (hcalls : m.finalizations = [])
    {state : RequestState} (hstate : Noted request (originOf ctx.statusCode) state)
    (hnoted : m.state =
      (state.update (.statusOverride statusCode)).update (.failureOrigin .gateway))
    (hmade : Synthesized inputs (some (.streaming ctx (.finished .exhausted)))) :
    ∃ m', exec (MetricsMiddleware.step method) m (endSignals .exhausted) = some m' ∧
      Truthful inputs ⟨some (.streaming ctx (.finished .exhausted)), m'⟩ := by
  obtain ⟨phase, state', finalizations⟩ := m
  dsimp only at hphase hcalls hnoted
  subst hphase hcalls hnoted
  refine ⟨_, rfl, ?_⟩
  refine (truthful_synthesized_iff rfl hstate.recorded hstate.department hstate.endpoint hmade).mpr ?_
  intro _
  simp [RequestState.update]

/-- The body ends with nothing noted: the status passes through, or the exception
that comes out of it is blamed on whoever was noted for the status. -/
theorem exec_end (method : String) (hphase : m.phase = .awaitChunk ctx.statusCode)
    (hcalls : m.finalizations = []) (hnoted : Noted request (originOf ctx.statusCode) m.state)
    (hanswered : ∃ input ∈ inputs, upstreamStatus? input = some ctx.statusCode)
    (hopen : outcome ≠ .closed)
    (hmade : Synthesized inputs (some (.streaming ctx (.finished outcome))) ↔
      ∃ e, outcome = .raised e ∧ e.isException = true) :
    ∃ m', exec (MetricsMiddleware.step method) m (endSignals outcome) = some m' ∧
      (Truthful inputs ⟨some (.streaming ctx (.finished outcome)), m'⟩ ↔
        ¬ (400 ≤ ctx.statusCode ∧ ∃ e, outcome = .raised e ∧ e.isException = true)) := by
  obtain ⟨phase, state, finalizations⟩ := m
  dsimp only at hphase hcalls hnoted
  subst hphase hcalls
  by_cases hraised : ∃ e, outcome = .raised e ∧ e.isException = true
  · have hsynthesized := hmade.mpr hraised
    obtain ⟨e, rfl, he⟩ := hraised
    refine ⟨(Middleware.note ⟨.awaitChunk ctx.statusCode, state, []⟩
      (.statusOverride 500)).finalize method ctx.statusCode, ?_, ?_⟩
    · simp only [endSignals, exec, MetricsMiddleware.step, he, if_true, Option.bind_some]
    · rw [truthful_synthesized_iff rfl hnoted.recorded hnoted.department hnoted.endpoint
        hsynthesized]
      simp only [Finalization.statusCode, Middleware.note, RequestState.update, Option.getD_some,
        hnoted.failureOrigin, originOf]
      split <;> simp_all
  · rw [← hmade]
    refine ⟨Middleware.finalize ⟨.awaitChunk ctx.statusCode, state, []⟩ method ctx.statusCode, ?_,
      truthful_noted_iff rfl hnoted hanswered⟩
    cases outcome with
    | exhausted => rfl
    | closed => exact absurd rfl hopen
    | raised e =>
      have hbase : e.isException = false := by simpa using hraised
      simp only [endSignals, exec, MetricsMiddleware.step, hbase, Bool.false_eq_true, if_false,
        Option.bind_some]

variable {s : Metered} {g : Gateway} {now : ℚ}

/-- The `finally` block of a body whose consumer has not left. -/
theorem StreamInv.ended {exit : Exit} (hunderway : Underway P request vs s.middleware
      (.awaitChunk ctx.statusCode) (originOf ctx.statusCode)) (hbroken : Broken vs exit)
    (hanswered : Answered vs ctx.statusCode)
    (hpoint : s.point = some (.streaming ctx (.awaitClose exit))) {effects : List Effect}
    (heffects : updatesOf effects = updatesOf (finallyBlock ctx exit).1) :
    ∃ s', s.follow method effects
        (.streaming ctx (.finished (outcomeAfter exit (finallyBlock ctx exit).2)))
        (endSignals (outcomeAfter exit (finallyBlock ctx exit).2)) = some s' ∧
      s'.point = some (.streaming ctx (.finished (outcomeAfter exit (finallyBlock ctx exit).2))) ∧
      StreamInv P request method (vs ++ [(s, .resume g now (.stream .closed))]) s'.middleware ctx
        (.finished (outcomeAfter exit (finallyBlock ctx exit).2)) := by
  have hopen : s.middleware.phase ≠ .finished := by simp [hunderway.phase]
  rw [Metered.follow_open method _ hopen, heffects]
  by_cases hflagged : (exit.clientDisconnected || exit.streamFailed) = true
  · obtain ⟨statusCode, hupdates, -⟩ := finallyBlock_noted ctx hflagged
    obtain ⟨houtcome, hmade⟩ := hbroken.flagged ctx hunderway.notLeft hflagged
    rw [hupdates, houtcome]
    obtain ⟨m', hexec, htold⟩ := exec_bodyEnd_noted method statusCode
      (m := s.middleware.noteAll [.statusOverride statusCode, .failureOrigin .gateway])
      hunderway.phase hunderway.unfinalized hunderway.noted rfl hmade
    refine ⟨⟨some (.streaming ctx (.finished .exhausted)), m'⟩, ?_, rfl, ?_⟩
    · rw [hexec, Option.map_some]
    refine iff_of_true (by rwa [inputsOf_snoc]) (hunderway.kept_snoc hpoint ?_)
    simp only [Escapes, reraises, hunderway.phase]
    rintro ⟨-, -, -, hreraises | ⟨hfinished, -⟩⟩
    · simp only [Bool.or_eq_true] at hflagged
      rcases hflagged with hdisconnected | hfailed
      · simp [hdisconnected] at hreraises
      · simp [hfailed] at hreraises
    · cases hfinished
  · have hunflagged : exit.clientDisconnected = false ∧ exit.streamFailed = false := by
      simpa using hflagged
    have hwrapped : Phase.awaitChunk ctx.statusCode ≠ .awaitResponse := by simp
    have hescapes := escapes_closed_iff P request ctx hwrapped hbroken.notClosing hunflagged
      hbroken.inFlight
    have hlive := outcomeAfter_open hbroken.notClosing (finallyBlock ctx exit).2
    rw [(finallyBlock_unnoted ctx hunflagged.1 hunflagged.2).1]
    generalize outcomeAfter exit (finallyBlock ctx exit).2 = outcome at hescapes hlive ⊢
    have hmade : Synthesized (inputsOf (vs ++ [(s, .resume g now (.stream .closed))]))
        (some (.streaming ctx (.finished outcome))) ↔
          ∃ e, outcome = .raised e ∧ e.isException = true := by
      rw [inputsOf_snoc]
      exact hbroken.unflagged hunderway.notLeft hflagged
    obtain ⟨m', hexec, htold⟩ := exec_end method (m := s.middleware) hunderway.phase
      hunderway.unfinalized hunderway.noted (hanswered.next _) hlive hmade
    refine ⟨⟨some (.streaming ctx (.finished outcome)), m'⟩, ?_, rfl, ?_⟩
    · rw [Middleware.noteAll_nil, hexec, Option.map_some]
    rw [StreamInv, Told, htold, ← hescapes, List.forall_mem_append, List.forall_mem_singleton,
      EscapeStep, hpoint, and_iff_right hunderway.kept]
    dsimp only
    rw [hunderway.phase]

/-- `aclose()` raises, and the consumer has not left. -/
theorem StreamInv.closeRaised {exit : Exit} {e : Exn} {effects : List Effect}
    (hunderway : Underway P request vs s.middleware (.awaitChunk ctx.statusCode)
      (originOf ctx.statusCode)) (hclosing : exit.closing = false)
    (hanswered : Answered vs ctx.statusCode)
    (hpoint : s.point = some (.streaming ctx (.awaitClose exit))) (heffects : updatesOf effects = []) :
    ∃ s', s.follow method effects (.streaming ctx (.finished (.raised e))) [.raised e] = some s' ∧
      s'.point = some (.streaming ctx (.finished (.raised e))) ∧
      StreamInv P request method (vs ++ [(s, .resume g now (.stream (.raised e)))]) s'.middleware ctx
        (.finished (.raised e)) := by
  have hopen : s.middleware.phase ≠ .finished := by simp [hunderway.phase]
  have hmade : Synthesized (inputsOf (vs ++ [(s, .resume g now (.stream (.raised e)))]))
      (some (.streaming ctx (.finished (.raised e)))) ↔
        ∃ e', StreamOutcome.raised e = .raised e' ∧ e'.isException = true := by
    simp [Synthesized, hunderway.notLeft]
  obtain ⟨m', hexec, htold⟩ := exec_end method (m := s.middleware) hunderway.phase
    hunderway.unfinalized hunderway.noted (hanswered.next _) (by simp) hmade
  refine ⟨⟨some (.streaming ctx (.finished (.raised e))), m'⟩, ?_, rfl, ?_⟩
  · simp only [endSignals] at hexec
    rw [Metered.follow_open method _ hopen, heffects, Middleware.noteAll_nil, hexec,
      Option.map_some]
  · rw [StreamInv, Told, htold, List.forall_mem_append, List.forall_mem_singleton, EscapeStep,
      hpoint, and_iff_right hunderway.kept]
    simp [Escapes, hclosing, hunderway.phase]

/-- The body's consumer and its upstream go on, and nothing is noted. -/
theorem StreamInv.turned {phase phase' : Phase} {point point' : StreamPoint} {input : StreamInput}
    {effects : List Effect}
    (hinv : Underway P request vs s.middleware phase (originOf ctx.statusCode) ∧ Unbroken vs)
    (hpoint : s.point = some (.streaming ctx point))
    (hescapes : ¬ Escapes P request s.middleware.phase (.streaming ctx point) (.stream input))
    (hinput : breaksOff (.stream input) = false) (hstays : input ≠ .close)
    (hupdates : updatesOf effects = [])
    (hexec : exec (MetricsMiddleware.step method) ⟨phase, s.middleware.state, []⟩
        (bodySignals point input point') = some ⟨phase', s.middleware.state, []⟩)
    (hnext : ∀ vs m, Underway P request vs m phase' (originOf ctx.statusCode) ∧ Unbroken vs →
      StreamInv P request method vs m ctx point') :
    ∃ s', s.follow method effects (.streaming ctx point') (bodySignals point input point') = some s' ∧
      s'.point = some (.streaming ctx point') ∧
      StreamInv P request method (vs ++ [(s, .resume g now (.stream input))]) s'.middleware ctx
        point' := by
  obtain ⟨hunderway, hbroken⟩ := hinv
  refine ⟨⟨some (.streaming ctx point'), ⟨phase', s.middleware.state, []⟩⟩, ?_, rfl,
    hnext _ _ ⟨?_, hbroken.next hinput⟩⟩
  · rw [Metered.follow_quiet method _ hupdates, hunderway.middleware_eq, hexec, Option.map_some]
  · exact hunderway.next hpoint hescapes (by simpa using hstays) rfl rfl hunderway.noted

/-- The body is closed before its first step. -/
theorem StreamInv.dropped {effects : List Effect}
    (hunderway : Underway P request vs s.middleware (.bodyCreated ctx.statusCode)
      (originOf ctx.statusCode))
    (hpoint : s.point = some (.streaming ctx .created)) (hupdates : updatesOf effects = []) :
    ∃ s', s.follow method effects (.streaming ctx (.finished .closed))
        (bodySignals .created .close (.finished .closed)) = some s' ∧
      s'.point = some (.streaming ctx (.finished .closed)) ∧
      StreamInv P request method (vs ++ [(s, .resume g now (.stream .close))]) s'.middleware ctx
        (.finished .closed) := by
  refine ⟨⟨some (.streaming ctx (.finished .closed)), ⟨.finished, s.middleware.state, []⟩⟩, ?_, rfl,
    ?_⟩
  · rw [Metered.follow_quiet method _ hupdates, hunderway.middleware_eq]
    rfl
  · exact iff_of_true (truthful_of_unfinalized rfl) (hunderway.kept_snoc hpoint id)

/-- The consumer leaves after a chunk: the wrapper finalizes at once. -/
theorem StreamInv.left {locals : StreamLocals} {chunk : Chunk} {exit : Exit} {effects : List Effect}
    (hclosing : exit.closing = true)
    (hunflagged : exit.clientDisconnected = false ∧ exit.streamFailed = false)
    (hunderway : Underway P request vs s.middleware (.yielded ctx.statusCode)
      (originOf ctx.statusCode))
    (hpoint : s.point = some (.streaming ctx (.yielded locals chunk)))
    (hupdates : updatesOf effects = []) :
    ∃ s', s.follow method effects (.streaming ctx (.awaitClose exit))
        (bodySignals (.yielded locals chunk) .close (.awaitClose exit)) = some s' ∧
      s'.point = some (.streaming ctx (.awaitClose exit)) ∧
      StreamInv P request method (vs ++ [(s, .resume g now (.stream .close))]) s'.middleware ctx
        (.awaitClose exit) := by
  refine ⟨⟨some (.streaming ctx (.awaitClose exit)), s.middleware.finalize method ctx.statusCode⟩,
    ?_, rfl, .inr ⟨?_, rfl, ?_, ?_, hclosing, hunflagged⟩⟩
  · rw [Metered.follow_quiet method _ hupdates, hunderway.middleware_eq]
    rfl
  · exact hunderway.kept_snoc hpoint id
  · refine ⟨s.middleware.state, ?_, hunderway.noted⟩
    simp only [Middleware.finalize, hunderway.unfinalized, List.nil_append]
  · simp

/-- The body stops at an await. -/
theorem StreamInv.stopped {point : StreamPoint} {input : StreamInput} {exit : Exit}
    {effects : List Effect}
    (hstopped : (∃ locals, point = .awaitChunk locals) ∨
      ∃ locals chunk, point = .awaitDisconnect locals chunk)
    (hinput : input ≠ .close) (hbroken : Broken (vs ++ [(s, .resume g now (.stream input))]) exit)
    (hunderway : Underway P request vs s.middleware (.awaitChunk ctx.statusCode)
      (originOf ctx.statusCode))
    (hpoint : s.point = some (.streaming ctx point)) (hupdates : updatesOf effects = []) :
    ∃ s', s.follow method effects (.streaming ctx (.awaitClose exit))
        (bodySignals point input (.awaitClose exit)) = some s' ∧
      s'.point = some (.streaming ctx (.awaitClose exit)) ∧
      StreamInv P request method (vs ++ [(s, .resume g now (.stream input))]) s'.middleware ctx
        (.awaitClose exit) := by
  have hsignals : bodySignals point input (.awaitClose exit) = [] := by
    rcases hstopped with ⟨locals, rfl⟩ | ⟨locals, chunk, rfl⟩
    · rfl
    · rfl
  refine ⟨⟨some (.streaming ctx (.awaitClose exit)), s.middleware⟩, ?_, rfl, .inl ⟨?_, hbroken⟩⟩
  · rw [hsignals, Metered.follow_quiet method _ hupdates]
    rfl
  · exact hunderway.next hpoint (not_escapes_inLoop hstopped) (by simpa using hinput)
      hunderway.phase hunderway.unfinalized hunderway.noted

theorem StreamInv.body {point point' : StreamPoint} {input : StreamInput} {effects : List Effect}
    (h : StreamInv P request method vs s.middleware ctx point) (hanswered : Answered vs ctx.statusCode)
    (hpoint : s.point = some (.streaming ctx point))
    (hturn : BodyTurn ctx point input (updatesOf effects) point') :
    ∃ s', s.follow method effects (.streaming ctx point') (bodySignals point input point') = some s' ∧
      s'.point = some (.streaming ctx point') ∧
      StreamInv P request method (vs ++ [(s, .resume g now (.stream input))]) s'.middleware ctx
        point' := by
  generalize hupdates : updatesOf effects = updates at hturn
  cases hturn with
  | started | received | delivered | resumed =>
    exact StreamInv.turned h hpoint id rfl (by simp) hupdates rfl fun _ _ hnext => hnext
  | dropped => exact StreamInv.dropped h.1 hpoint hupdates
  | left locals chunk hclosing hunflagged =>
    exact StreamInv.left hclosing hunflagged h.1 hpoint hupdates
  | stopped hstopped hinput hclosing hflags hinFlight =>
    have hlive : Underway P request vs s.middleware (.awaitChunk ctx.statusCode)
        (originOf ctx.statusCode) ∧ Unbroken vs := by
      rcases hstopped with ⟨locals, rfl⟩ | ⟨locals, chunk, rfl⟩
      · exact h
      · exact h
    exact StreamInv.stopped hstopped hinput (hlive.2.stopped hclosing hflags hinFlight) hlive.1
      hpoint hupdates
  | ended exit =>
    rcases h with ⟨hunderway, hbroken⟩ | habandoned
    · have hsignals : bodySignals (.awaitClose exit) .closed
          (.finished (outcomeAfter exit (finallyBlock ctx exit).2)) =
            endSignals (outcomeAfter exit (finallyBlock ctx exit).2) := by
        simp [bodySignals, hbroken.notClosing]
      rw [hsignals]
      exact StreamInv.ended hunderway hbroken hanswered hpoint hupdates
    · have hsignals : bodySignals (.awaitClose exit) .closed
          (.finished (outcomeAfter exit (finallyBlock ctx exit).2)) = [] := by
        simp [bodySignals, habandoned.closing]
      rw [hsignals]
      exact ⟨_, Metered.follow_finished method habandoned.phase, rfl,
        habandoned.told hanswered hpoint⟩
  | closeRaised exit e =>
    rcases h with ⟨hunderway, hbroken⟩ | habandoned
    · have hsignals : bodySignals (.awaitClose exit) (.raised e) (.finished (.raised e)) =
          [.raised e] := by
        simp [bodySignals, hbroken.notClosing, endSignals]
      rw [hsignals]
      exact StreamInv.closeRaised hunderway hbroken.notClosing hanswered hpoint hupdates
    · have hsignals : bodySignals (.awaitClose exit) (.raised e) (.finished (.raised e)) = [] := by
        simp [bodySignals, habandoned.closing]
      rw [hsignals]
      exact ⟨_, Metered.follow_finished method habandoned.phase, rfl,
        habandoned.told hanswered hpoint⟩

end

end VllmSourceGateway.WrappedStreams
