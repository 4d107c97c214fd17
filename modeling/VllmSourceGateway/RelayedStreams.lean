import VllmSourceGateway.FailureTruth

set_option autoImplicit false

/-! A body that is relayed past the middleware. The request is finalized when `call_next`
returns, with what has been noted by then, and nobody hears of what the body does later. -/
namespace VllmSourceGateway.RelayedStreams
open PyText PyValues UsageExtractors Metrics Config AdmissionControl Routing GatewayEffects SseParser
open StreamBytes ProxyEndpoint RequestMetrics FailureCounters TransitionRuns
open StreamBytesOutcomes hiding Truthful
open MeteredRequests FailureTruth
open MetricsMiddleware (Middleware Phase Signal)

/-- The response has been returned, and with it the request was finalized. -/
structure Relayed (P : Platform) (request : ProxyRequest) (method : String)
    (vs : List (Metered × Turn)) (m : Middleware) (statusCode : ℕ) : Prop where
  kept : ∀ v ∈ vs, ¬ EscapeStep P request v
  phase : m.phase = .finished
  finalized : ∃ state, m.finalizations = [⟨state, method, statusCode⟩] ∧
    Noted request (originOf statusCode) state
  notLeft : .stream .close ∉ inputsOf vs

def Running (P : Platform) (request : ProxyRequest) (method : String) (vs : List (Metered × Turn))
    (m : Middleware) (statusCode : ℕ) : Prop :=
  Underway P request vs m .awaitResponse (originOf statusCode) ∨
    Relayed P request method vs m statusCode

/-- The body has ended and its response is still to be returned. Only a body that was
broken off has noted anything. -/
structure Overrun (P : Platform) (request : ProxyRequest) (vs : List (Metered × Turn))
    (m : Middleware) (ctx : StreamContext) (outcome : StreamOutcome) : Prop where
  kept : ∀ v ∈ vs, ¬ EscapeStep P request v
  phase : m.phase = .awaitResponse
  unfinalized : m.finalizations = []
  noted : (outcome = .exhausted ∧
      Synthesized (inputsOf vs) (some (.streaming ctx (.finished .exhausted))) ∧
      ∃ statusCode state, Noted request (originOf ctx.statusCode) state ∧
        m.state = (state.update (.statusOverride statusCode)).update (.failureOrigin .gateway)) ∨
    Noted request (originOf ctx.statusCode) m.state ∧
      (Synthesized (inputsOf vs) (some (.streaming ctx (.finished outcome))) ↔
        ∃ e, outcome = .raised e ∧ e.isException = true)

def RelayInv (P : Platform) (request : ProxyRequest) (method : String)
    (vs : List (Metered × Turn)) (m : Middleware) (ctx : StreamContext) : StreamPoint → Prop
  | .created | .awaitChunk _ | .awaitDisconnect _ _ | .yielded _ _ =>
    Running P request method vs m ctx.statusCode ∧ Unbroken vs
  | .awaitClose exit => Running P request method vs m ctx.statusCode ∧ Broken vs exit ∨
      Abandoned P request method vs m ctx.statusCode exit
  | .finished outcome => Overrun P request vs m ctx outcome ∨
      m.phase = .finished ∧ Told P request vs ⟨some (.streaming ctx (.finished outcome)), m⟩

section
variable {P : Platform} {request : ProxyRequest} {method : String} {vs : List (Metered × Turn)}
  {s : Metered} {ctx : StreamContext} {g : Gateway} {now : ℚ} {outcome : StreamOutcome}

theorem Running.next {point : Point} {input : Input}
    (h : Running P request method vs s.middleware ctx.statusCode) (hpoint : s.point = some point)
    (hescapes : ¬ Escapes P request s.middleware.phase point input) (hinput : input ≠ .stream .close) :
    Running P request method (vs ++ [(s, .resume g now input)]) s.middleware ctx.statusCode := by
  rcases h with hunderway | hrelayed
  · exact .inl (hunderway.next hpoint hescapes hinput hunderway.phase hunderway.unfinalized
      hunderway.noted)
  · refine .inr ⟨?_, hrelayed.phase, hrelayed.finalized, by simp [hrelayed.notLeft, hinput.symm]⟩
    rw [List.forall_mem_append, List.forall_mem_singleton, EscapeStep, hpoint]
    exact ⟨hrelayed.kept, hescapes⟩

/-- After the request has been finalized the body may only fail on a success. -/
theorem Relayed.told {point : StreamPoint} {input : StreamInput}
    (h : Relayed P request method vs s.middleware ctx.statusCode)
    (hanswered : Answered vs ctx.statusCode) (hpoint : s.point = some (.streaming ctx point))
    (hescapes : Escapes P request .finished (.streaming ctx point) (.stream input) ↔
      400 ≤ ctx.statusCode ∧ Synthesized (inputsOf vs ++ [.stream input])
        (some (.streaming ctx (.finished outcome)))) :
    Told P request (vs ++ [(s, .resume g now (.stream input))])
      ⟨some (.streaming ctx (.finished outcome)), s.middleware⟩ := by
  obtain ⟨state, hcalls, hnoted⟩ := h.finalized
  rw [Told, truthful_noted_iff hcalls hnoted (hanswered.next _), inputsOf_snoc,
    List.forall_mem_append, List.forall_mem_singleton, EscapeStep, hpoint, and_iff_right h.kept]
  dsimp only
  rw [h.phase, hescapes]

/-- The body is dropped before its first step, by a consumer that never took a chunk. -/
theorem Running.dropped (h : Running P request method vs s.middleware ctx.statusCode)
    (hanswered : Answered vs ctx.statusCode) (hpoint : s.point = some (.streaming ctx .created)) :
    RelayInv P request method (vs ++ [(s, .resume g now (.stream .close))]) s.middleware ctx
      (.finished .closed) := by
  rcases h with hunderway | hrelayed
  · refine .inl ⟨hunderway.kept_snoc hpoint id, hunderway.phase, hunderway.unfinalized, .inr ?_⟩
    exact ⟨hunderway.noted, by simp [Synthesized]⟩
  · refine .inr ⟨hrelayed.phase, hrelayed.told hanswered hpoint ?_⟩
    simp [Escapes, Synthesized]

theorem Running.stopped {point : StreamPoint} {input : StreamInput} {exit : Exit}
    (h : Running P request method vs s.middleware ctx.statusCode) (hbroken : Unbroken vs)
    (hstopped : (∃ locals, point = .awaitChunk locals) ∨
      ∃ locals chunk, point = .awaitDisconnect locals chunk)
    (hinput : input ≠ .close) (hclosing : exit.closing = false)
    (hflags : (exit.clientDisconnected || exit.streamFailed) = breaksOff (.stream input))
    (hinFlight : ∀ e ∈ exit.inFlight, exit.clientDisconnected = false → e.isException = true)
    (hpoint : s.point = some (.streaming ctx point)) :
    RelayInv P request method (vs ++ [(s, .resume g now (.stream input))]) s.middleware ctx
      (.awaitClose exit) := by
  exact .inl ⟨h.next hpoint (not_escapes_inLoop hstopped) (by simpa using hinput),
    hbroken.stopped hclosing hflags hinFlight⟩

/-- The consumer leaves after a chunk, which only a returned response brings. -/
theorem Running.left {locals : StreamLocals} {chunk : Chunk} {exit : Exit}
    (h : Running P request method vs s.middleware ctx.statusCode)
    (hheld : s.heldUp .relayedResponse = false)
    (hpoint : s.point = some (.streaming ctx (.yielded locals chunk)))
    (hclosing : exit.closing = true)
    (hunflagged : exit.clientDisconnected = false ∧ exit.streamFailed = false) :
    RelayInv P request method (vs ++ [(s, .resume g now (.stream .close))]) s.middleware ctx
      (.awaitClose exit) := by
  have hreturned : s.middleware.phase ≠ .awaitResponse := by
    simpa [Metered.heldUp, hpoint] using hheld
  rcases h with hunderway | hrelayed
  · exact absurd hunderway.phase hreturned
  · refine .inr ⟨?_, hrelayed.phase, hrelayed.finalized, by simp, hclosing, hunflagged⟩
    rw [List.forall_mem_append, List.forall_mem_singleton, EscapeStep, hpoint]
    exact ⟨hrelayed.kept, id⟩

/-- The `finally` block of a body whose consumer has not left. -/
theorem Running.ended {exit : Exit} (h : Running P request method vs s.middleware ctx.statusCode)
    (hbroken : Broken vs exit) (hanswered : Answered vs ctx.statusCode)
    (hpoint : s.point = some (.streaming ctx (.awaitClose exit))) {effects : List Effect}
    (heffects : updatesOf effects = updatesOf (finallyBlock ctx exit).1) :
    ∃ s', s.follow method effects
        (.streaming ctx (.finished (outcomeAfter exit (finallyBlock ctx exit).2))) [] = some s' ∧
      s'.point = some (.streaming ctx (.finished (outcomeAfter exit (finallyBlock ctx exit).2))) ∧
      RelayInv P request method (vs ++ [(s, .resume g now (.stream .closed))]) s'.middleware ctx
        (.finished (outcomeAfter exit (finallyBlock ctx exit).2)) := by
  rcases h with hunderway | hrelayed
  · have hopen : s.middleware.phase ≠ .finished := by simp [hunderway.phase]
    have hnotJudged : ¬ Escapes P request s.middleware.phase
        (.streaming ctx (.awaitClose exit)) (.stream .closed) := by
      simp [Escapes, hunderway.phase]
    refine ⟨⟨_, s.middleware.noteAll (updatesOf effects)⟩, ?_, rfl,
      .inl ⟨hunderway.kept_snoc hpoint hnotJudged, hunderway.phase, hunderway.unfinalized, ?_⟩⟩
    · rw [Metered.follow_open method _ hopen, exec, Option.map_some]
    rw [inputsOf_snoc, heffects]
    by_cases hflagged : (exit.clientDisconnected || exit.streamFailed) = true
    · obtain ⟨statusCode, hupdates, -⟩ := finallyBlock_noted ctx hflagged
      obtain ⟨houtcome, hmade⟩ := hbroken.flagged ctx hunderway.notLeft hflagged
      rw [hupdates]
      exact .inl ⟨houtcome, hmade, statusCode, s.middleware.state, hunderway.noted, rfl⟩
    · have hunflagged : exit.clientDisconnected = false ∧ exit.streamFailed = false := by
        simpa using hflagged
      rw [(finallyBlock_unnoted ctx hunflagged.1 hunflagged.2).1]
      exact .inr ⟨hunderway.noted, hbroken.unflagged hunderway.notLeft hflagged⟩
  · refine ⟨⟨_, s.middleware⟩, Metered.follow_finished method hrelayed.phase, rfl,
      .inr ⟨hrelayed.phase, hrelayed.told hanswered hpoint ?_⟩⟩
    by_cases hflagged : (exit.clientDisconnected || exit.streamFailed) = true
    · obtain ⟨houtcome, hmade⟩ := hbroken.flagged ctx hrelayed.notLeft hflagged
      rw [houtcome]
      simp [Escapes, hbroken.notClosing, hflagged, hmade]
    · have hunflagged : exit.clientDisconnected = false ∧ exit.streamFailed = false := by
        simpa using hflagged
      rw [hbroken.unflagged hrelayed.notLeft hflagged,
        escapes_closed_iff P request ctx (by simp) hbroken.notClosing hunflagged hbroken.inFlight]

/-- `aclose()` raises, and the consumer has not left. -/
theorem Running.closeRaised {exit : Exit} {e : Exn}
    (h : Running P request method vs s.middleware ctx.statusCode) (hclosing : exit.closing = false)
    (hanswered : Answered vs ctx.statusCode)
    (hpoint : s.point = some (.streaming ctx (.awaitClose exit))) :
    RelayInv P request method (vs ++ [(s, .resume g now (.stream (.raised e)))]) s.middleware ctx
      (.finished (.raised e)) := by
  rcases h with hunderway | hrelayed
  · refine .inl ⟨hunderway.kept_snoc hpoint ?_, hunderway.phase, hunderway.unfinalized, .inr ?_⟩
    · simp [Escapes, hunderway.phase]
    · exact ⟨hunderway.noted, by simp [Synthesized, hunderway.notLeft]⟩
  · refine .inr ⟨hrelayed.phase, hrelayed.told hanswered hpoint ?_⟩
    simp [Escapes, Synthesized, hclosing, hrelayed.notLeft]

theorem RelayInv.body {point point' : StreamPoint} {input : StreamInput} {effects : List Effect}
    (h : RelayInv P request method vs s.middleware ctx point) (hanswered : Answered vs ctx.statusCode)
    (hheld : s.heldUp .relayedResponse = false) (hpoint : s.point = some (.streaming ctx point))
    (hturn : BodyTurn ctx point input (updatesOf effects) point') :
    ∃ s', s.follow method effects (.streaming ctx point') [] = some s' ∧
      s'.point = some (.streaming ctx point') ∧
      RelayInv P request method (vs ++ [(s, .resume g now (.stream input))]) s'.middleware ctx
        point' := by
  have hquiet {next : StreamPoint} (hupdates : updatesOf effects = [])
      (hnext : RelayInv P request method (vs ++ [(s, .resume g now (.stream input))]) s.middleware
        ctx next) : ∃ s', s.follow method effects (.streaming ctx next) [] = some s' ∧
      s'.point = some (.streaming ctx next) ∧
      RelayInv P request method (vs ++ [(s, .resume g now (.stream input))]) s'.middleware ctx next :=
    ⟨_, Metered.follow_quiet method [] hupdates, rfl, hnext⟩
  generalize hupdates : updatesOf effects = updates at hturn
  cases hturn with
  | started | received | delivered | resumed =>
    exact hquiet hupdates ⟨h.1.next hpoint id (by simp), h.2.next rfl⟩
  | dropped => exact hquiet hupdates (h.1.dropped hanswered hpoint)
  | left locals chunk hclosing hunflagged =>
    exact hquiet hupdates (h.1.left hheld hpoint hclosing hunflagged)
  | stopped hstopped hinput hclosing hflags hinFlight =>
    have hlive : Running P request method vs s.middleware ctx.statusCode ∧ Unbroken vs := by
      rcases hstopped with ⟨locals, rfl⟩ | ⟨locals, chunk, rfl⟩
      · exact h
      · exact h
    exact hquiet hupdates
      (hlive.1.stopped hlive.2 hstopped hinput hclosing hflags hinFlight hpoint)
  | ended exit =>
    rcases h with ⟨hrunning, hbroken⟩ | habandoned
    · exact hrunning.ended hbroken hanswered hpoint hupdates
    · obtain ⟨hdisconnected, hfailed⟩ := habandoned.unflagged
      rw [(finallyBlock_unnoted ctx hdisconnected hfailed).1] at hupdates
      exact hquiet hupdates (.inr ⟨habandoned.phase, habandoned.told hanswered hpoint⟩)
  | closeRaised exit e =>
    rcases h with ⟨hrunning, hbroken⟩ | habandoned
    · exact hquiet hupdates (hrunning.closeRaised hbroken.notClosing hanswered hpoint)
    · exact hquiet hupdates (.inr ⟨habandoned.phase, habandoned.told hanswered hpoint⟩)

@[simp] theorem inputsOf_returned : inputsOf (vs ++ [(s, .returned)]) = inputsOf vs := by
  simp [inputsOf]

theorem Running.returned {point : StreamPoint}
    (h : Running P request method vs s.middleware ctx.statusCode)
    (hphase : s.middleware.phase = .awaitResponse) (hpoint : s.point = some (.streaming ctx point))
    (hgoesOn : ∀ outcome, point ≠ .finished outcome) :
    Running P request method (vs ++ [(s, .returned)])
      (s.middleware.finalize method ctx.statusCode) ctx.statusCode := by
  rcases h with hunderway | hrelayed
  · refine .inr ⟨?_, rfl, ⟨s.middleware.state, ?_, hunderway.noted⟩, by simp [hunderway.notLeft]⟩
    · rw [List.forall_mem_append, List.forall_mem_singleton, EscapeStep, hpoint]
      refine ⟨hunderway.kept, ?_⟩
      cases point with
      | finished outcome => exact absurd rfl (hgoesOn outcome)
      | _ => exact id
    · simp only [Middleware.finalize, hunderway.unfinalized, List.nil_append]
  · exact absurd (hphase.symm.trans hrelayed.phase) (by simp)

theorem Overrun.returned (h : Overrun P request vs s.middleware ctx outcome)
    (hanswered : Answered vs ctx.statusCode)
    (hpoint : s.point = some (.streaming ctx (.finished outcome))) :
    Told P request (vs ++ [(s, .returned)]) ⟨some (.streaming ctx (.finished outcome)),
      s.middleware.finalize method ctx.statusCode⟩ := by
  have hcalls : (s.middleware.finalize method ctx.statusCode).finalizations =
      [⟨s.middleware.state, method, ctx.statusCode⟩] := by
    simp only [Middleware.finalize, h.unfinalized, List.nil_append]
  have hescapes : EscapeStep P request (s, .returned) ↔
      400 ≤ ctx.statusCode ∧ ∃ e, outcome = .raised e ∧ e.isException = true := by
    rw [EscapeStep, hpoint]
    cases outcome <;> simp
  rw [Told, inputsOf_returned, List.forall_mem_append, List.forall_mem_singleton, hescapes,
    and_iff_right h.kept]
  rcases h.noted with ⟨rfl, hmade, statusCode, state, hnoted, hstate⟩ | ⟨hnoted, hmade⟩
  · refine iff_of_true ?_ (by simp)
    rw [hstate] at hcalls
    refine (truthful_synthesized_iff hcalls hnoted.recorded hnoted.department hnoted.endpoint
      hmade).mpr ?_
    simp [RequestState.update]
  · rw [truthful_noted_iff hcalls hnoted hanswered, hmade]

theorem RelayInv.returned {point : StreamPoint}
    (h : RelayInv P request method vs s.middleware ctx point) (hanswered : Answered vs ctx.statusCode)
    (hphase : s.middleware.phase = .awaitResponse) (hpoint : s.point = some (.streaming ctx point)) :
    RelayInv P request method (vs ++ [(s, .returned)])
      (s.middleware.finalize method ctx.statusCode) ctx point := by
  have hinputs : inputsOf (vs ++ [(s, .returned)]) = inputsOf vs := inputsOf_returned
  cases point with
  | created | awaitChunk | awaitDisconnect | yielded =>
    refine ⟨h.1.returned hphase hpoint (by simp), ?_⟩
    rw [Unbroken, hinputs]
    exact h.2
  | awaitClose exit =>
    rcases h with ⟨hrunning, hbroken⟩ | habandoned
    · refine .inl ⟨hrunning.returned hphase hpoint (by simp), hbroken.notClosing, ?_, hbroken.inFlight⟩
      rw [hinputs]
      exact hbroken.flags
    · exact absurd (hphase.symm.trans habandoned.phase) (by simp)
  | finished outcome =>
    rcases h with hoverrun | ⟨hfinished, -⟩
    · exact .inr ⟨rfl, hoverrun.returned hanswered hpoint⟩
    · exact absurd (hphase.symm.trans hfinished) (by simp)

end

end VllmSourceGateway.RelayedStreams
