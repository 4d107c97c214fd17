import VllmSourceGateway.RelayedStreams
import VllmSourceGateway.WrappedStreams

set_option autoImplicit false

/-! Whether the failures that are counted have the origin that they have. It is noted when
the upstream's status is known, and what fails later does not always take it back. -/
namespace VllmSourceGateway.FailureOrigin
open PyText PyValues UsageExtractors Metrics Config AdmissionControl Routing GatewayEffects SseParser
open StreamBytes UpstreamHeaders ProxyEndpoint RequestSegments
open StreamBytesOutcomes hiding Truthful
open GatewaySystem hiding step
open ResponsePassThrough RequestMetrics FailureCounters TransitionRuns MeteredRequests
open FailureTruth WrappedStreams RelayedStreams
open MetricsMiddleware (Middleware Phase Signal)

/-! ## What is known of a request -/

def RunInv (callNext : CallNext) (P : Platform) (request : ProxyRequest) (method : String)
    (vs : List (Metered × Turn)) (s : Metered) : Prop :=
  match s.point with
  | none => vs = [] ∧ s = .start
  | some .awaitBody | some (.awaitSend _) | some (.awaitPost _) =>
    Underway P request vs s.middleware .awaitResponse none ∧ Unbroken vs
  | some (.streaming ctx point) => Answered vs ctx.statusCode ∧
    match callNext with
    | .handlersResponse => StreamInv P request method vs s.middleware ctx point
    | .relayedResponse => RelayInv P request method vs s.middleware ctx point
  | some (.finished outcome) => Told P request vs ⟨some (.finished outcome), s.middleware⟩

section
variable {callNext : CallNext} {P : Platform} {config : AppConfig} {request : ProxyRequest}
  {method : String} {vs : List (Metered × Turn)} {s : Metered} {g : Gateway} {now : ℚ} {input : Input}
  {point : Point}

/-- An exception ends the handler before any upstream has answered. -/
theorem RunInv.raises {effects : List Effect} {e : Exn}
    (h : Underway P request vs s.middleware .awaitResponse none) (hpoint : s.point = some point)
    (hescapes : ¬ Escapes P request s.middleware.phase point input)
    (hmodels : ∀ update ∈ updatesOf effects, ∃ modelName, update = .model modelName) :
    ∃ s', s.follow method effects (.finished (.raised e)) (outcomeSignals (.raised e)) = some s' ∧
      RunInv callNext P request method (vs ++ [(s, .resume g now input)]) s' := by
  have hopen : s.middleware.phase ≠ .finished := by simp [h.phase]
  obtain ⟨m', hexec, htold⟩ := exec_raised method (inputsOf vs ++ [input]) e
    (m := s.middleware.noteAll (updatesOf effects)) h.phase h.unfinalized
    (noted_models h.noted hmodels)
  refine ⟨⟨some (.finished (.raised e)), m'⟩, ?_, ?_⟩
  · rw [Metered.follow_open method _ hopen, hexec, Option.map_some]
  · refine iff_of_true ?_ (h.kept_snoc hpoint hescapes)
    rw [inputsOf_snoc]
    exact htold

/-- The handler waits again. -/
theorem RunInv.waits {effects : List Effect} {point' : Point}
    (h : Underway P request vs s.middleware .awaitResponse none) (hbroken : Unbroken vs)
    (hpoint : s.point = some point) (hescapes : ¬ Escapes P request s.middleware.phase point input)
    (hinput : input ≠ .stream .close ∧ breaksOff input = false)
    (hmodels : ∀ update ∈ updatesOf effects, ∃ modelName, update = .model modelName)
    (hpoint' : (∃ flight, point' = .awaitSend flight) ∨ ∃ flight, point' = .awaitPost flight) :
    ∃ s', s.follow method effects point' [] = some s' ∧
      RunInv callNext P request method (vs ++ [(s, .resume g now input)]) s' := by
  have hopen : s.middleware.phase ≠ .finished := by simp [h.phase]
  refine ⟨⟨some point', s.middleware.noteAll (updatesOf effects)⟩, ?_, ?_⟩
  · rw [Metered.follow_open method _ hopen, exec, Option.map_some]
  · have hnext : Underway P request (vs ++ [(s, .resume g now input)])
        (s.middleware.noteAll (updatesOf effects)) .awaitResponse none :=
      h.next hpoint hescapes hinput.1 h.phase h.unfinalized (noted_models h.noted hmodels)
    rcases hpoint' with ⟨flight, rfl⟩ | ⟨flight, rfl⟩
    · exact ⟨hnext, hbroken.next hinput.2⟩
    · exact ⟨hnext, hbroken.next hinput.2⟩

end

section
variable {callNext : CallNext} {P : Platform} {request : ProxyRequest} {method : String}
  {vs : List (Metered × Turn)} {s : Metered} {ctx : StreamContext} {g : Gateway} {now : ℚ}

/-- The handler raises after an upstream's answer, whose status it has noted. -/
theorem RunInv.late (modelName : String) (statusCode : ℕ) {e : Exn} {point : Point} {input : Input}
    {effects : List Effect} (hunderway : Underway P request vs s.middleware .awaitResponse none)
    (hpoint : s.point = some point) (he : fromParsing e)
    (hupdates : updatesOf effects = updatesOf (noteUpstreamStatus request modelName statusCode))
    (hescapes : Escapes P request s.middleware.phase point input ↔ 400 ≤ statusCode) :
    ∃ s', s.follow method effects (.finished (.raised e)) (outcomeSignals (.raised e)) = some s' ∧
      RunInv callNext P request method (vs ++ [(s, .resume g now input)]) s' := by
  have hopen : s.middleware.phase ≠ .finished := by simp [hunderway.phase]
  obtain ⟨m', hexec, htold⟩ := exec_raised_late method
    (inputsOf (vs ++ [(s, .resume g now input)])) he
    (m := s.middleware.noteAll (updatesOf effects)) hunderway.phase hunderway.unfinalized
    (hupdates ▸ noted_upstreamStatus hunderway.noted modelName statusCode)
  refine ⟨⟨some (.finished (.raised e)), m'⟩, ?_, ?_⟩
  · rw [Metered.follow_open method _ hopen, hexec, Option.map_some]
  · simp only [RunInv]
    rw [Told, htold, List.forall_mem_append, List.forall_mem_singleton, EscapeStep, hpoint,
      and_iff_right hunderway.kept]
    exact not_congr hescapes.symm

theorem RunInv.answered {flight : Flight} {statusCode : ℕ} {headers : List (String × String)}
    {content : List UInt8} {effects : List Effect}
    (hunderway : Underway P request vs s.middleware .awaitResponse none)
    (hpoint : s.point = some (.awaitPost flight))
    (hupdates : updatesOf effects =
      updatesOf (noteUpstreamStatus request flight.modelName statusCode)) :
    ∃ s', s.follow method effects
        (.finished (handleResponse P request flight.modelName statusCode headers content).2)
        (outcomeSignals (handleResponse P request flight.modelName statusCode headers content).2) =
          some s' ∧
      RunInv callNext P request method
        (vs ++ [(s, .resume g now (.response statusCode headers content))]) s' := by
  have hpresentable : carries
      (handleResponse P request flight.modelName statusCode headers content).2 statusCode content ↔
        Presentable P request.endpoint statusCode headers content :=
    handleResponse_carries flight.modelName statusCode headers content
  obtain ⟨-, ⟨mediaType, hresponded⟩ | ⟨e, hraised, he⟩⟩ :=
    handleResponse_cases P request flight.modelName statusCode headers content
  · rw [hresponded] at hpresentable ⊢
    have hcarried : Presentable P request.endpoint statusCode headers content :=
      hpresentable.mp ⟨mediaType, rfl⟩
    have hopen : s.middleware.phase ≠ .finished := by simp [hunderway.phase]
    refine ⟨⟨some (.finished (.responded ⟨statusCode, content, mediaType⟩)),
      (s.middleware.noteAll (updatesOf effects)).finalize method statusCode⟩, ?_, ?_⟩
    · have hphase : (s.middleware.noteAll (updatesOf effects)).phase = .awaitResponse :=
        hunderway.phase
      rw [Metered.follow_open method _ hopen]
      simp only [outcomeSignals, exec, MetricsMiddleware.step, hphase, Option.bind_some,
        Option.map_some]
    · have hcalls : ((s.middleware.noteAll (updatesOf effects)).finalize method
          statusCode).finalizations =
            [⟨(s.middleware.noteAll (updatesOf effects)).state, method, statusCode⟩] := by
        simp only [Middleware.finalize, Middleware.noteAll, hunderway.unfinalized, List.nil_append]
      have hnoted : Noted request (originOf statusCode)
          (s.middleware.noteAll (updatesOf effects)).state := by
        rw [hupdates]
        exact noted_upstreamStatus hunderway.noted flight.modelName statusCode
      have hanswered : Answered
          (vs ++ [(s, .resume g now (.response statusCode headers content))]) statusCode :=
        ⟨.response statusCode headers content, by simp, rfl⟩
      exact iff_of_true (truthful_passed hcalls hnoted hanswered id)
        (hunderway.kept_snoc hpoint fun h => h.2 hcarried)
  · rw [hraised] at hpresentable ⊢
    refine RunInv.late flight.modelName statusCode hunderway hpoint he hupdates ?_
    have hnot : ¬ Presentable P request.endpoint statusCode headers content := by
      rw [← hpresentable]
      exact raised_carries
    simp [Escapes, hnot]

/-- The handler returns a response that streams, to the wrapper or to be relayed. -/
theorem RunInv.opened {flight : Flight} {statusCode : ℕ} {headers : List (String × String)}
    {effects : List Effect}
    (hunderway : Underway P request vs s.middleware .awaitResponse none) (hbroken : Unbroken vs)
    (hpoint : s.point = some (.awaitSend flight)) (hctx : ctx.statusCode = statusCode)
    (hinit : P.streamingResponseInit statusCode (buildDownstreamHeaders headers) = true)
    (hupdates : updatesOf effects =
      updatesOf (noteUpstreamStatus request flight.modelName statusCode)) :
    ∃ s', s.follow method effects (.streaming ctx .created)
        (handlerSignals callNext (.streaming ctx .created)) = some s' ∧
      RunInv callNext P request method
        (vs ++ [(s, .resume g now (.opened statusCode headers))]) s' := by
  have hopen : s.middleware.phase ≠ .finished := by simp [hunderway.phase]
  have hphase : (s.middleware.noteAll (updatesOf effects)).phase = .awaitResponse := hunderway.phase
  have hanswered : Answered (vs ++ [(s, .resume g now (.opened statusCode headers))])
      ctx.statusCode := ⟨.opened statusCode headers, by simp, by rw [hctx]; rfl⟩
  have hescapes : ¬ Escapes P request s.middleware.phase (.awaitSend flight)
      (.opened statusCode headers) := by simp [Escapes, hinit]
  have hnoted : Noted request (originOf ctx.statusCode)
      (s.middleware.noteAll (updatesOf effects)).state := by
    rw [hctx, hupdates]
    exact noted_upstreamStatus hunderway.noted flight.modelName statusCode
  rw [Metered.follow_open method _ hopen]
  cases callNext with
  | handlersResponse =>
    refine ⟨⟨some (.streaming ctx .created), { s.middleware.noteAll (updatesOf effects) with
      phase := .bodyCreated ctx.statusCode }⟩, ?_, hanswered, ?_, hbroken.next rfl⟩
    · simp only [handlerSignals, exec, MetricsMiddleware.step, hphase, Option.bind_some,
        Option.map_some]
    · exact hunderway.next hpoint hescapes (by simp) rfl hunderway.unfinalized hnoted
  | relayedResponse =>
    refine ⟨⟨some (.streaming ctx .created), s.middleware.noteAll (updatesOf effects)⟩, rfl,
      hanswered, .inl ?_, hbroken.next rfl⟩
    exact hunderway.next hpoint hescapes (by simp) hphase hunderway.unfinalized hnoted

variable {config : AppConfig}

theorem RunInv.awaiting {flight : Flight} {point : Point} (h : RunInv callNext P request method vs s)
    (hpoint : s.point = some point) (hat : point = .awaitSend flight ∨ point = .awaitPost flight) :
    Underway P request vs s.middleware .awaitResponse none ∧ Unbroken vs := by
  simp only [RunInv, hpoint] at h
  rcases hat with rfl | rfl
  · exact h
  · exact h

/-- No upstream has answered, and none will be asked any more. -/
theorem RunInv.unanswered {flight : Flight} {point : Point} {e e' : Exn} {effects : List Effect}
    (h : RunInv callNext P request method vs s) (hpoint : s.point = some point)
    (hat : point = .awaitSend flight ∨ point = .awaitPost flight) (hquiet : updatesOf effects = []) :
    ∃ s', s.follow method effects (.finished (.raised e'))
        (signals callNext point (.raised e) (.finished (.raised e'))) = some s' ∧
      RunInv callNext P request method (vs ++ [(s, .resume g now (.raised e))]) s' := by
  obtain ⟨hunderway, -⟩ := h.awaiting hpoint hat
  have hmodels : ∀ update ∈ updatesOf effects, ∃ modelName, update = .model modelName := by
    rw [hquiet]
    exact List.forall_mem_nil _
  rcases hat with rfl | rfl
  · exact RunInv.raises hunderway hpoint id hmodels
  · exact RunInv.raises hunderway hpoint id hmodels

theorem updatesOf_models {modelName : String} {rest : List Effect} (h : updatesOf rest = []) :
    ∀ update ∈ updatesOf (.requestMetrics (.model modelName) :: rest),
      ∃ modelName, update = .model modelName := by
  have hone : updatesOf (.requestMetrics (.model modelName) :: rest) =
      .model modelName :: updatesOf rest := rfl
  rw [hone, h, List.forall_mem_singleton]
  exact ⟨modelName, rfl⟩

theorem RunInv.resumes {point point' : Point} {input : Input} {effects : List Effect}
    (h : RunInv callNext P request method vs s) (hpoint : s.point = some point)
    (hheld : s.heldUp callNext = false)
    (hbody : point = .awaitBody → input ≠ .stream .close ∧ breaksOff input = false)
    (hsegment : Segment P config request g now point input effects point') :
    ∃ s', s.follow method effects point' (signals callNext point input point') = some s' ∧
      RunInv callNext P request method (vs ++ [(s, .resume g now input)]) s' := by
  cases hsegment with
  | rejected =>
    simp only [RunInv, hpoint] at h
    exact RunInv.raises h.1 hpoint id (List.forall_mem_nil _)
  | misshapen | refused | unroutable =>
    simp only [RunInv, hpoint] at h
    exact RunInv.raises h.1 hpoint id (updatesOf_models rfl)
  | started _ _ _ _ hstarted =>
    simp only [RunInv, hpoint] at h
    rcases hstarted with rfl | rfl
    · exact RunInv.waits h.1 h.2 hpoint id (hbody rfl) (updatesOf_models rfl) (.inl ⟨_, rfl⟩)
    · exact RunInv.waits h.1 h.2 hpoint id (hbody rfl) (updatesOf_models rfl) (.inr ⟨_, rfl⟩)
  | retried _ _ _ hretried =>
    rcases hretried with ⟨rfl, rfl⟩ | ⟨rfl, rfl⟩
    · obtain ⟨hunderway, hbroken⟩ := h.awaiting hpoint (.inl rfl)
      exact RunInv.waits hunderway hbroken hpoint id ⟨by simp, rfl⟩ (List.forall_mem_nil _)
        (.inl ⟨_, rfl⟩)
    · obtain ⟨hunderway, hbroken⟩ := h.awaiting hpoint (.inr rfl)
      exact RunInv.waits hunderway hbroken hpoint id ⟨by simp, rfl⟩ (List.forall_mem_nil _)
        (.inr ⟨_, rfl⟩)
  | exhausted _ _ hat => exact h.unanswered hpoint hat rfl
  | failed _ hat => exact h.unanswered hpoint hat rfl
  | broken _ hat => exact h.unanswered hpoint (hat.imp_left And.left) rfl
  | cancelled => exact h.unanswered hpoint (.inl rfl) rfl
  | opened hinit =>
    obtain ⟨hunderway, hbroken⟩ := h.awaiting hpoint (.inl rfl)
    exact RunInv.opened hunderway hbroken hpoint rfl hinit rfl
  | @unbuildable flight statusCode headers hinit =>
    obtain ⟨hunderway, -⟩ := h.awaiting hpoint (.inl rfl)
    refine RunInv.late flight.modelName statusCode hunderway hpoint (.inl rfl) ?_ ?_
    · rw [updatesOf_append]
      exact List.append_nil _
    · simp [Escapes, hinit]
  | @answered flight statusCode headers content =>
    obtain ⟨hunderway, -⟩ := h.awaiting hpoint (.inr rfl)
    refine RunInv.answered hunderway hpoint ?_
    rw [updatesOf_append, updatesOf_append, updatesOf_append,
      (handleResponse_cases P request flight.modelName statusCode headers content).1]
    exact (List.append_nil _).trans (List.append_nil _)
  | streamed hresume =>
    simp only [RunInv, hpoint] at h
    obtain ⟨hanswered, hinv⟩ := h
    cases callNext with
    | handlersResponse =>
      obtain ⟨s', hfollow, hpoint', hnext⟩ := hinv.body hanswered hpoint (resume_turn hresume)
      refine ⟨s', hfollow, ?_⟩
      rw [RunInv, hpoint']
      exact ⟨hanswered.next _, hnext⟩
    | relayedResponse =>
      obtain ⟨s', hfollow, hpoint', hnext⟩ := hinv.body hanswered hheld hpoint (resume_turn hresume)
      refine ⟨s', hfollow, ?_⟩
      rw [RunInv, hpoint']
      exact ⟨hanswered.next _, hnext⟩

/-- The middleware takes every signal that a resumption gives. -/
theorem RunInv.advances {point point' : Point} {input : Input} {effects : List Effect}
    (h : RunInv callNext P request method vs s) (hpoint : s.point = some point)
    (hheld : s.heldUp callNext = false)
    (hadvance : advance P config request g now point input = some (effects, point')) :
    ∃ s', step callNext P config request method s (.resume g now input) = some s' ∧
      s'.point = some point' ∧
      RunInv callNext P request method (vs ++ [(s, .resume g now input)]) s' := by
  have hbody : point = .awaitBody → input ≠ .stream .close ∧ breaksOff input = false := by
    rintro rfl
    exact awaitBody_input hadvance
  obtain ⟨s', hfollow, hinv⟩ := h.resumes hpoint hheld hbody (advance_segment hadvance)
  refine ⟨s', ?_, ?_, hinv⟩
  · simp only [step, hpoint, hheld, hadvance, hfollow, Bool.false_eq_true, if_false]
  · rw [Metered.follow, Option.map_eq_some_iff] at hfollow
    obtain ⟨middleware, -, rfl⟩ := hfollow
    rfl

/-- A response that is relayed is returned, at whatever point of its body. -/
theorem RunInv.released {ctx : StreamContext} {point : StreamPoint}
    (h : RunInv .relayedResponse P request method vs s)
    (hpoint : s.point = some (.streaming ctx point)) (hphase : s.middleware.phase = .awaitResponse) :
    ∃ s', step .relayedResponse P config request method s .returned = some s' ∧
      s'.point = s.point ∧ s'.middleware.phase = .finished ∧
      RunInv .relayedResponse P request method (vs ++ [(s, .returned)]) s' := by
  simp only [RunInv, hpoint] at h
  obtain ⟨hanswered, hinv⟩ := h
  refine ⟨⟨s.point, s.middleware.finalize method ctx.statusCode⟩, ?_, rfl, rfl, ?_⟩
  · simp only [step, hpoint, hphase, and_self, if_true]
    rw [Metered.follow_quiet method _ rfl]
    simp only [exec, MetricsMiddleware.step, hphase, Option.bind_some, Option.map_some]
  · simp only [RunInv, hpoint]
    refine ⟨?_, hinv.returned hanswered hphase hpoint⟩
    rw [Answered, inputsOf_returned]
    exact hanswered

/-- The response is dropped before it has started. -/
theorem RunInv.unsent {ctx : StreamContext} (h : RunInv .relayedResponse P request method vs s)
    (hpoint : s.point = some (.streaming ctx .created))
    (hphase : s.middleware.phase = .awaitResponse) :
    ∃ s', step .relayedResponse P config request method s .unsent = some s' ∧
      RunInv .relayedResponse P request method (vs ++ [(s, .unsent)]) s' := by
  simp only [RunInv, hpoint] at h
  obtain ⟨-, hunderway | hrelayed, -⟩ := h
  · obtain ⟨m', hexec, htold⟩ := exec_raised_late method (inputsOf (vs ++ [(s, .unsent)]))
      (.inr (.inl rfl)) hphase hunderway.unfinalized hunderway.noted
    refine ⟨⟨some (.finished (.raised .other)), m'⟩, ?_, ?_⟩
    · simp only [step, hpoint, hphase, and_self, if_true]
      rw [Metered.follow_quiet method _ rfl, hexec, Option.map_some]
    · simp only [RunInv]
      rw [Told, htold, List.forall_mem_append, List.forall_mem_singleton, EscapeStep, hpoint,
        and_iff_right hunderway.kept]
  · exact absurd (hphase.symm.trans hrelayed.phase) (by simp)

/-- The handler is called: it notes the context before anything else. -/
theorem call_inv (P : Platform) (config : AppConfig) (request : ProxyRequest) (method : String) :
    ∃ s', step callNext P config request method .start .call = some s' ∧
    s'.point = some (startRequest config request).2 ∧
    RunInv callNext P request method [(.start, .call)] s' := by
  have hnoted : Noted request none (Middleware.start.noteAll
      [.context request.department request.endpoint]).state := ⟨rfl, rfl, rfl, rfl, rfl⟩
  have hopen : Middleware.start.phase ≠ .finished := by simp [Middleware.start]
  have hkept : ∀ v ∈ [(Metered.start, Turn.call)], ¬ EscapeStep P request v := by
    rw [List.forall_mem_singleton]
    exact id
  have hraised (error : HttpException) : ∃ s', Metered.start.follow method
        [.requestMetrics (.context request.department request.endpoint),
          .metric (.sourceResolution request.department request.sourceResolution.resolutionSource)]
        (.finished (.raised (.http error))) (outcomeSignals (.raised (.http error))) = some s' ∧
      s'.point = some (.finished (.raised (.http error))) ∧
      RunInv callNext P request method [(.start, .call)] s' := by
    obtain ⟨m', hexec, htold⟩ := exec_raised method [] (.http error) rfl rfl hnoted
    refine ⟨⟨some (.finished (.raised (.http error))), m'⟩, ?_, rfl, iff_of_true htold hkept⟩
    have hupdates : updatesOf [.requestMetrics (.context request.department request.endpoint),
        .metric (.sourceResolution request.department request.sourceResolution.resolutionSource)] =
          [.context request.department request.endpoint] := rfl
    rw [Metered.follow_open method _ hopen, hupdates]
    exact congrArg _ hexec
  simp only [step, Metered.start, startRequest]
  split
  · exact hraised _
  · split
    · exact hraised _
    · exact ⟨_, rfl, rfl, ⟨hkept, rfl, rfl, hnoted, List.not_mem_nil⟩, List.forall_mem_nil _⟩

theorem run_inv (run : Run (step callNext P config request method) .start vs s) :
    RunInv callNext P request method vs s := by
  have hstart : RunInv callNext P request method [] .start := ⟨rfl, rfl⟩
  refine run.invariant (RunInv callNext P request method) hstart ?_
  intro vs s turn s' _ hinv hstep
  cases hpoint : s.point with
  | none =>
    have hstart := hinv
    simp only [RunInv, hpoint] at hstart
    obtain ⟨rfl, rfl⟩ := hstart
    cases turn with
    | call =>
      obtain ⟨called, hcall, -, hcalled⟩ := call_inv P config request method
      rw [hcall] at hstep
      cases hstep
      exact hcalled
    | resume | returned | unsent => cases hstep
  | some point =>
    cases turn with
    | call =>
      simp only [step, hpoint] at hstep
      cases hstep
    | resume g now input =>
      cases hheld : s.heldUp callNext with
      | true =>
        simp only [step, hpoint, hheld, if_true] at hstep
        cases hstep
      | false =>
        cases hadvance : advance P config request g now point input with
        | none =>
          simp only [step, hpoint, hheld, hadvance, Bool.false_eq_true, if_false] at hstep
          cases hstep
        | some result =>
          obtain ⟨advanced, hsome, -, hnext⟩ := hinv.advances hpoint hheld hadvance
          rw [hsome] at hstep
          cases hstep
          exact hnext
    | returned =>
      cases point with
      | streaming ctx point =>
        by_cases hawaited : callNext = .relayedResponse ∧ s.middleware.phase = .awaitResponse
        · obtain ⟨rfl, hphase⟩ := hawaited
          obtain ⟨released, hsome, -, -, hnext⟩ := hinv.released hpoint hphase
          rw [hsome] at hstep
          cases hstep
          exact hnext
        · simp only [step, hpoint, hawaited, if_false] at hstep
          cases hstep
      | awaitBody | awaitSend | awaitPost | finished =>
        simp only [step, hpoint] at hstep
        cases hstep
    | unsent =>
      cases point with
      | streaming ctx point =>
        cases point with
        | created =>
          by_cases hawaited : callNext = .relayedResponse ∧ s.middleware.phase = .awaitResponse
          · obtain ⟨rfl, hphase⟩ := hawaited
            obtain ⟨dropped, hsome, hnext⟩ := hinv.unsent hpoint hphase
            rw [hsome] at hstep
            cases hstep
            exact hnext
          · simp only [step, hpoint, hawaited, if_false] at hstep
            cases hstep
        | awaitChunk | awaitDisconnect | yielded | awaitClose | finished =>
          simp only [step, hpoint] at hstep
          cases hstep
      | awaitBody | awaitSend | awaitPost | finished =>
        simp only [step, hpoint] at hstep
        cases hstep

/-- In every run of a request, whatever `call_next` returns, the failure that is counted has
its true origin, if and only if nothing goes wrong untold after an upstream's error. -/
theorem failure_origin_truthful_iff (run : Run (step callNext P config request method) .start vs s) :
    Truthful (inputsOf vs) s ↔ ∀ v ∈ vs, ¬ EscapeStep P request v := by
  have hinv := run_inv run
  have hunderway {phase : Phase} {origin : Option FailureOrigin}
      (h : Underway P request vs s.middleware phase origin) :
      Truthful (inputsOf vs) s ↔ ∀ v ∈ vs, ¬ EscapeStep P request v :=
    iff_of_true (truthful_of_unfinalized h.unfinalized) h.kept
  obtain ⟨point, middleware⟩ := s
  cases point with
  | none =>
    obtain ⟨rfl, hstart⟩ := hinv
    cases hstart
    exact iff_of_true (truthful_of_unfinalized rfl) (List.forall_mem_nil _)
  | some point =>
    cases point with
    | awaitBody | awaitSend | awaitPost => exact hunderway hinv.1
    | finished outcome => exact hinv
    | streaming ctx point =>
      obtain ⟨hanswered, hbody⟩ := hinv
      have habandonment {exit : Exit}
          (h : Abandoned P request method vs middleware ctx.statusCode exit) :
          Truthful (inputsOf vs) ⟨some (.streaming ctx (.awaitClose exit)), middleware⟩ ↔
            ∀ v ∈ vs, ¬ EscapeStep P request v := by
        obtain ⟨state, hcalls, hnoted⟩ := h.finalized
        exact iff_of_true (truthful_passed hcalls hnoted hanswered id) h.kept
      cases callNext with
      | handlersResponse =>
        cases point with
        | created | awaitChunk | awaitDisconnect | yielded => exact hunderway hbody.1
        | finished outcome => exact hbody
        | awaitClose exit =>
          rcases hbody with ⟨h, -⟩ | habandoned
          · exact hunderway h
          · exact habandonment habandoned
      | relayedResponse =>
        have hrunning (h : Running P request method vs middleware ctx.statusCode)
            (hmade : ¬ Synthesized (inputsOf vs) (some (.streaming ctx point))) :
            Truthful (inputsOf vs) ⟨some (.streaming ctx point), middleware⟩ ↔
              ∀ v ∈ vs, ¬ EscapeStep P request v := by
          rcases h with h | h
          · exact hunderway h
          · obtain ⟨state, hcalls, hnoted⟩ := h.finalized
            exact iff_of_true (truthful_passed hcalls hnoted hanswered hmade) h.kept
        cases point with
        | created | awaitChunk | awaitDisconnect | yielded => exact hrunning hbody.1 id
        | finished outcome =>
          rcases hbody with hoverrun | ⟨-, htold⟩
          · exact iff_of_true (truthful_of_unfinalized hoverrun.unfinalized) hoverrun.kept
          · exact htold
        | awaitClose exit =>
          rcases hbody with ⟨h, -⟩ | habandoned
          · exact hrunning h id
          · exact habandonment habandoned

end

def answeredTurns (statusCode : ℕ) (content : List UInt8) : List Turn :=
  [.call, .resume (.init smallConfig) 0 (.body postBody),
    .resume (.init smallConfig) 0 (.response statusCode [] content)]

def answeredRequest (callNext : CallNext) (statusCode : ℕ) (content : List UInt8) : Option Metered :=
  exec (step callNext smallPlatform smallConfig smallRequest "POST") .start
    (answeredTurns statusCode content)

def countedFailures (s : Metered) : List (ℕ × List FailureOrigin) :=
  s.middleware.finalizations.map fun call => (call.statusCode, failureOrigins call.events)

/-- An upstream's 404 whose body is no JSON. -/
theorem failure_origin_truthful_not_found : ∃ vs s,
    Run (step .relayedResponse smallPlatform smallConfig smallRequest "POST") .start vs s ∧
      countedFailures s = [(404, [.upstream])] ∧
      (Truthful (inputsOf vs) s ↔ ∀ v ∈ vs, ¬ EscapeStep smallPlatform smallRequest v) := by
  have hcounted : (answeredRequest .relayedResponse 404 []).map countedFailures =
      some [(404, [.upstream])] := by decide +kernel
  obtain ⟨s, hexec, hfailures⟩ := Option.map_eq_some_iff.mp hcounted
  obtain ⟨vs, run, -⟩ := exec_run .refl hexec
  exact ⟨vs, s, run, hfailures, failure_origin_truthful_iff run⟩

def handlerRaised (s : Metered) : Bool :=
  match s.point with
  | some (.finished (.raised _)) => true
  | _ => false

/-- An upstream answers 500 with a JSON array, on which the usage extractor raises. The
500 that the client gets is the gateway's. -/
theorem failure_origin_not_truthful :
    ¬ ∃ callNext, ∀ vs s,
      Run (step callNext smallPlatform smallConfig smallRequest "POST") .start vs s →
        Truthful (inputsOf vs) s := by
  rintro ⟨callNext, hclaim⟩
  have hrun : (answeredRequest callNext 500 (asciiBytes "[]".toList)).map
      (fun s => (handlerRaised s, countedFailures s)) = some (true, [(500, [.upstream])]) := by
    cases callNext with
    | handlersResponse => decide +kernel
    | relayedResponse => decide +kernel
  obtain ⟨s, hexec, hs⟩ := Option.map_eq_some_iff.mp hrun
  obtain ⟨hraised, hfailures⟩ := Prod.mk.inj hs
  obtain ⟨vs, run, -⟩ := exec_run .refl hexec
  have hmade : Synthesized (inputsOf vs) s.point := by
    simp only [handlerRaised] at hraised
    split at hraised
    · rename_i hpoint
      rw [hpoint]
      trivial
    · cases hraised
  obtain ⟨call, hcall, hcounted⟩ := List.map_eq_singleton_iff.mp hfailures
  obtain ⟨hstatus, horigin⟩ := Prod.mk.inj hcounted
  have htold := hclaim _ _ run call (by rw [hcall]; exact List.mem_cons_self) (by omega)
  exact absurd (horigin.symm.trans (htold.2.mpr hmade)) (by decide)

section
variable {callNext : CallNext} {P : Platform} {config : AppConfig} {request : ProxyRequest}
  {method : String} {vs : List (Metered × Turn)} {s : Metered}

/-! ## The gateway's requests are such runs -/

/-- A chunk that is held up goes on when the response is returned. -/
theorem freed (run : Run (step callNext P config request method) .start vs s) :
    ∃ vs' s', Run (step callNext P config request method) .start vs' s' ∧ s'.point = s.point ∧
      inputsOf vs' = inputsOf vs ∧ s'.heldUp callNext = false := by
  cases hheld : s.heldUp callNext with
  | false => exact ⟨vs, s, run, rfl, rfl, hheld⟩
  | true =>
    simp only [Metered.heldUp] at hheld
    split at hheld
    · rename_i ctx locals chunk hpoint
      obtain ⟨s', hstep, hpoint', hphase, -⟩ :=
        (run_inv run).released hpoint (of_decide_eq_true hheld)
      refine ⟨_, s', run.snoc hstep, hpoint', inputsOf_returned, ?_⟩
      simp [Metered.heldUp, hpoint', hpoint, hphase]
    · cases hheld

/-- A request of the gateway, whatever the others do meanwhile. -/
theorem task_metered {system : System}
    (h : Reachable (GatewaySystem.step P config) (initial config) system) :
    ∀ task ∈ system.tasks, ∃ vs s, Run (step callNext P config task.request method) .start vs s ∧
      s.point = some task.point ∧ inputsOf vs = task.steps.map Prod.snd := by
  obtain ⟨ws, run⟩ := h
  refine run_task_advance (fun _ _ => True) (fun task => ∃ vs s,
    Run (step callNext P config task.request method) .start vs s ∧ s.point = some task.point ∧
      inputsOf vs = task.steps.map Prod.snd) ?_ ?_ run fun _ _ => trivial
  · intro request
    obtain ⟨s', hcall, hpoint, -⟩ := call_inv P config request method
    exact ⟨[(.start, .call)], s', .snoc .refl hcall, hpoint, rfl⟩
  · rintro system i task now input effects point - - - ⟨vs, s, hrun, hpoint, hinputs⟩ hadvance
    obtain ⟨vs', s₁, hrun₁, hpoint₁, hinputs₁, hfree⟩ := freed hrun
    obtain ⟨s', hstep, hpoint', -⟩ := (run_inv hrun₁).advances (hpoint₁.trans hpoint) hfree hadvance
    refine ⟨_, s', hrun₁.snoc hstep, hpoint', ?_⟩
    rw [inputsOf_snoc, hinputs₁, hinputs]
    simp [Task.continue]

/-- What is proved about the middleware holds around every request. -/
theorem middleware_run (run : Run (step callNext P config request method) .start vs s) :
    ∃ ws, Run (MetricsMiddleware.step method) .start ws s.middleware := by
  refine run.invariant (fun _ s => ∃ ws, Run (MetricsMiddleware.step method) .start ws s.middleware)
    ⟨[], .refl⟩ ?_
  rintro vs s turn s' - ⟨ws, hrun⟩ hstep
  have hfollow {effects : List Effect} {point : Point} {reported : List Signal}
      (h : s.follow method effects point reported = some s') :
      ∃ ws, Run (MetricsMiddleware.step method) .start ws s'.middleware := by
    rw [Metered.follow, Option.map_eq_some_iff] at h
    obtain ⟨middleware, hexec, rfl⟩ := h
    obtain ⟨later, hlater, -⟩ := exec_run hrun hexec
    exact ⟨_, hlater⟩
  simp only [step] at hstep
  split at hstep
  · exact hfollow hstep
  · split at hstep
    · cases hstep
    · split at hstep
      · cases hstep
      · exact hfollow hstep
  · split at hstep
    · exact hfollow hstep
    · cases hstep
  · split at hstep
    · exact hfollow hstep
    · cases hstep
  · cases hstep

end

end VllmSourceGateway.FailureOrigin
