import VllmSourceGateway.MetricsMiddleware
import VllmSourceGateway.ResponsePassThrough
import VllmSourceGateway.StreamBytesOutcomes

set_option autoImplicit false

/-! A proxy request inside the middleware. What its handler and its body note, and
how they end, are the middleware's signals. -/
namespace VllmSourceGateway.MeteredRequests
open PyText PyValues UsageExtractors Metrics Config AdmissionControl Routing GatewayEffects SseParser
open StreamBytes StreamBytesOutcomes UpstreamHeaders ProxyEndpoint RequestSegments RequestMetrics
open FailureCounters TransitionRuns
open MetricsMiddleware (Middleware Phase Signal exec_notes)

def updatesOf (effects : List Effect) : List RequestMetricsUpdate :=
  effects.filterMap fun effect =>
    match effect with
    | .requestMetrics update => some update
    | _ => none

/-- An `HTTPException` has become a response before the middleware sees it. -/
def outcomeSignals : Outcome → List Signal
  | .responded response => [.response response.statusCode]
  | .raised (.http error) => [.response error.statusCode]
  | .raised e => [.raised e]

/-- What `call_next` returns for a stream: the response that the handler returned, or a
response of its own to which the handler's is relayed, and which is no `StreamingResponse`. -/
inductive CallNext where
  | handlersResponse
  | relayedResponse
  deriving DecidableEq

def handlerSignals (callNext : CallNext) : Point → List Signal
  | .finished outcome => outcomeSignals outcome
  | .streaming ctx .created =>
    match callNext with
    | .handlersResponse => [.streamingResponse ctx.statusCode]
    | .relayedResponse => []
  | _ => []

def endSignals : StreamOutcome → List Signal
  | .exhausted => [.bodyEnd]
  | .raised e => [.raised e]
  | .closed => []

/-- The wrapper drives the body: its consumer's requests go through it, and the
chunks and the end come back. A closed wrapper has finished before the body has. -/
def bodySignals : StreamPoint → StreamInput → StreamPoint → List Signal
  | .created, .next, _ | .yielded _ _, .next, _ => [.next]
  | .created, .close, _ | .yielded _ _, .close, _ => [.close]
  | _, _, .yielded _ _ => [.chunk]
  | .awaitClose exit, _, .finished outcome => if exit.closing then [] else endSignals outcome
  | _, _, _ => []

/-- A body that is relayed goes past the middleware. -/
def signals (callNext : CallNext) : Point → Input → Point → List Signal
  | .streaming _ point, .stream input, .streaming _ point' =>
    match callNext with
    | .handlersResponse => bodySignals point input point'
    | .relayedResponse => []
  | _, _, point' => handlerSignals callNext point'

structure Metered where
  point : Option Point
  middleware : Middleware

def Metered.start : Metered := ⟨none, .start⟩

/-- The shared state that a resumption finds is any. `returned` ends the await of
`call_next` with a response that is relayed; the handler's body may have gone on by then.
`unsent` ends it with a `RuntimeError`: the client was gone before the response started,
and its body is dropped. -/
inductive Turn where
  | call
  | resume (g : Gateway) (now : ℚ) (input : Input)
  | returned
  | unsent

/-- A chunk that is relayed waits for the response it is a part of to be returned. -/
def Metered.heldUp (callNext : CallNext) (s : Metered) : Bool :=
  match callNext, s.point with
  | .relayedResponse, some (.streaming _ (.yielded _ _)) => decide (s.middleware.phase = .awaitResponse)
  | _, _ => false

section
variable (callNext : CallNext) (P : Platform) (config : AppConfig) (request : ProxyRequest)
  (method : String)

/-- What is noted after the middleware has finished is read by nobody. -/
def Metered.follow (s : Metered) (effects : List Effect) (point : Point) (reported : List Signal) :
    Option Metered :=
  let notes := if s.middleware.phase = .finished then [] else (updatesOf effects).map Signal.note
  (exec (MetricsMiddleware.step method) s.middleware (notes ++ reported)).map
    fun middleware => ⟨some point, middleware⟩

def step (s : Metered) (turn : Turn) : Option Metered :=
  match s.point, turn with
  | none, .call =>
    let (effects, point) := startRequest config request
    s.follow method effects point (handlerSignals callNext point)
  | some point, .resume g now input =>
    if s.heldUp callNext then none
    else
      match advance P config request g now point input with
      | none => none
      | some (effects, point') => s.follow method effects point' (signals callNext point input point')
  | some (.streaming ctx point), .returned =>
    if callNext = .relayedResponse ∧ s.middleware.phase = .awaitResponse then
      s.follow method [] (.streaming ctx point) [.response ctx.statusCode]
    else none
  | some (.streaming _ .created), .unsent =>
    if callNext = .relayedResponse ∧ s.middleware.phase = .awaitResponse then
      s.follow method [] (.finished (.raised .other)) (outcomeSignals (.raised .other))
    else none
  | _, _ => none

end

section
variable {s : Metered} {effects : List Effect} {point : Point}

theorem Metered.follow_open (method : String) (reported : List Signal)
    (h : s.middleware.phase ≠ .finished) : s.follow method effects point reported =
      (exec (MetricsMiddleware.step method) (s.middleware.noteAll (updatesOf effects)) reported).map
        fun middleware => ⟨some point, middleware⟩ := by
  rw [Metered.follow, if_neg h, exec_notes method h]

theorem Metered.follow_quiet (method : String) (reported : List Signal)
    (hupdates : updatesOf effects = []) : s.follow method effects point reported =
      (exec (MetricsMiddleware.step method) s.middleware reported).map
        fun middleware => ⟨some point, middleware⟩ := by
  rw [Metered.follow, hupdates, List.map_nil, ite_self, List.nil_append]

theorem Metered.follow_finished (method : String) (h : s.middleware.phase = .finished) :
    s.follow method effects point [] = some ⟨some point, s.middleware⟩ := by
  rw [Metered.follow, if_pos h]
  rfl

end

def inputsOf (vs : List (Metered × Turn)) : List Input :=
  vs.filterMap fun v =>
    match v.2 with
    | .call | .returned | .unsent => none
    | .resume _ _ input => some input

def breaksOff : Input → Bool
  | .stream (.disconnected isDisconnected) => isDisconnected
  | .stream (.raised e) => decide (e = .cancelled) || e.isHttpxError
  | _ => false

section
variable {P : Platform} {config : AppConfig} {request : ProxyRequest} {g : Gateway} {now : ℚ}

theorem updatesOf_append (xs ys : List Effect) :
    updatesOf (xs ++ ys) = updatesOf xs ++ updatesOf ys := List.filterMap_append

theorem updatesOf_noteUpstreamStatus (modelName : String) (statusCode : ℕ) :
    updatesOf (noteUpstreamStatus request modelName statusCode) =
      if 400 ≤ statusCode then [.failureOrigin .upstream] else [] := by
  simp only [noteUpstreamStatus]
  split <;> split <;> rfl

theorem updatesOf_accounting {department modelName : String} {endpoint : Endpoint}
    {effects : List Effect} (h : ∀ effect ∈ effects, AccountingCall department modelName endpoint effect) :
    updatesOf effects = [] := by
  rw [updatesOf, List.filterMap_eq_nil_iff]
  intro effect heffect
  cases h effect heffect <;> rfl

theorem handleResponse_cases (P : Platform) (request : ProxyRequest) (modelName : String)
    (statusCode : ℕ) (headers : List (String × String)) (content : List UInt8) :
    updatesOf (handleResponse P request modelName statusCode headers content).1 = [] ∧
      ((∃ mediaType, (handleResponse P request modelName statusCode headers content).2 =
          .responded ⟨statusCode, content, mediaType⟩) ∨
        ∃ e, (handleResponse P request modelName statusCode headers content).2 = .raised e ∧
          fromParsing e) := by
  have hmade (mediaType : Option String) :
      (∃ mediaType', makeResponse P statusCode content mediaType =
          .responded ⟨statusCode, content, mediaType'⟩) ∨
        ∃ e, makeResponse P statusCode content mediaType = .raised e ∧ fromParsing e := by
    simp only [makeResponse]
    split
    · exact .inl ⟨mediaType, rfl⟩
    · exact .inr ⟨.value, rfl, .inl rfl⟩
  simp only [handleResponse]
  cases P.loadsBytes content with
  | error e =>
    dsimp only
    split
    · exact ⟨rfl, hmade _⟩
    · rename_i hvalue
      cases e with
      | other => exact ⟨rfl, .inr ⟨.other, rfl, .inr (.inl rfl)⟩⟩
      | jsonDecode | value => exact absurd rfl hvalue
  | ok payload =>
    dsimp only
    cases hextract : request.endpoint.extractUsage payload with
    | error e => exact ⟨rfl, .inr ⟨e, rfl, .inr (.inr (extractUsage_error hextract))⟩⟩
    | ok usage =>
      have haccounted := accountUsage_cases P.counterAccepts request.department modelName
        request.endpoint statusCode usage
      dsimp only at haccounted ⊢
      refine ⟨updatesOf_accounting haccounted.calls, ?_⟩
      cases hraised : (accountUsage P.counterAccepts request.department modelName request.endpoint
          statusCode usage).2 with
      | none => exact hmade _
      | some e =>
        rw [hraised] at haccounted
        exact .inr ⟨e, rfl, .inr (.inl haccounted.raised)⟩

theorem awaitBody_input {input : Input} {effects : List Effect} {point' : Point}
    (h : advance P config request g now .awaitBody input = some (effects, point')) :
    input ≠ .stream .close ∧ breaksOff input = false := by
  cases input with
  | body | raised => exact ⟨by simp, rfl⟩
  | opened | response | stream => cases h

end

section
variable (ctx : StreamContext)

/-- Everything a resumption of the body can do, as far as the middleware is concerned. -/
inductive BodyTurn : StreamPoint → StreamInput → List RequestMetricsUpdate → StreamPoint → Prop where
  | started (locals : StreamLocals) : BodyTurn .created .next [] (.awaitChunk locals)
  | dropped : BodyTurn .created .close [] (.finished .closed)
  | received (locals : StreamLocals) (chunk : Chunk) :
      BodyTurn (.awaitChunk locals) (.chunk chunk) [] (.awaitDisconnect locals chunk)
  | delivered (locals locals' : StreamLocals) (chunk : Chunk) :
      BodyTurn (.awaitDisconnect locals chunk) (.disconnected false) [] (.yielded locals' chunk)
  | resumed (locals : StreamLocals) (chunk : Chunk) :
      BodyTurn (.yielded locals chunk) .next [] (.awaitChunk locals)
  | left (locals : StreamLocals) (chunk : Chunk) {exit : Exit} (hclosing : exit.closing = true)
      (hunflagged : exit.clientDisconnected = false ∧ exit.streamFailed = false) :
      BodyTurn (.yielded locals chunk) .close [] (.awaitClose exit)
  | stopped {point : StreamPoint} {input : StreamInput} {exit : Exit}
      (hpoint : (∃ locals, point = .awaitChunk locals) ∨
        ∃ locals chunk, point = .awaitDisconnect locals chunk)
      (hinput : input ≠ .close) (hclosing : exit.closing = false)
      (hflags : (exit.clientDisconnected || exit.streamFailed) = breaksOff (.stream input))
      (hinFlight : ∀ e ∈ exit.inFlight, exit.clientDisconnected = false → e.isException = true) :
      BodyTurn point input [] (.awaitClose exit)
  | ended (exit : Exit) : BodyTurn (.awaitClose exit) .closed (updatesOf (finallyBlock ctx exit).1)
      (.finished (outcomeAfter exit (finallyBlock ctx exit).2))
  | closeRaised (exit : Exit) (e : Exn) :
      BodyTurn (.awaitClose exit) (.raised e) [] (.finished (.raised e))

variable {ctx}

theorem isException_of_ne {e : Exn} (h : e ≠ .cancelled) : e.isException = true := by
  cases e <;> first | rfl | exact absurd rfl h

theorem onException_inFlight {e : Exn} {parse : ParseState} :
    ∀ e' ∈ (onException e parse).inFlight, (onException e parse).clientDisconnected = false →
      e'.isException = true := by
  intro e' he' hconnected
  obtain rfl := Option.some.inj he'
  exact isException_of_ne (of_decide_eq_false hconnected)

theorem flush_error {loads : Text → Except LoadsError Json} {endpoint : Endpoint} {limit : ℕ}
    {parse : ParseState} {e : Exn} (h : flush loads endpoint.extractUsage limit parse = .error e) :
    fromParsing e := by
  have hscan := flush_scan loads endpoint.extractUsage limit parse
  rw [h] at hscan
  cases hscan with
  | raised hconsume => exact consumePayloads_error hconsume

theorem onException_fromParsing {e : Exn} (h : fromParsing e) (parse : ParseState) :
    ((onException e parse).clientDisconnected || (onException e parse).streamFailed) = false := by
  obtain ⟨hcancelled, hhttpx⟩ := h.flags
  simp only [onException, hcancelled, hhttpx, decide_false, Bool.or_self]

/-- The bytes end: the flush may raise, which no flag records. -/
theorem afterLoop_turn {loads : Text → Except LoadsError Json} {limit : ℕ} (locals : StreamLocals) :
    BodyTurn ctx (.awaitChunk locals) .streamEnd []
      (.awaitClose (afterLoop loads ctx.endpoint.extractUsage limit locals.parse)) := by
  refine .stopped (.inl ⟨locals, rfl⟩) (by simp) ?_ ?_ ?_
  · simp only [afterLoop]
    split <;> rfl
  · simp only [afterLoop]
    split
    · rename_i hflush
      exact onException_fromParsing (flush_error hflush) _
    · rfl
  · simp only [afterLoop]
    split
    · exact onException_inFlight
    · exact fun _ hnone => by cases hnone

/-- A chunk from a connected client: it is delivered, unless scanning it raises. -/
theorem handleChunk_turn (loads : Text → Except LoadsError Json) (limit : ℕ) (ctx : StreamContext)
    (locals : StreamLocals) (chunk : Chunk) :
    BodyTurn ctx (.awaitDisconnect locals chunk) (.disconnected false)
      (updatesOf (handleChunk loads ctx.endpoint.extractUsage limit ctx locals chunk).1)
      (handleChunk loads ctx.endpoint.extractUsage limit ctx locals chunk).2 := by
  have hquiet : updatesOf (handleChunk loads ctx.endpoint.extractUsage limit ctx locals
      chunk).1 = [] := by
    rcases (handleChunk_cases loads ctx.endpoint.extractUsage limit ctx locals chunk).1 with
      hnone | hfirst
    · rw [hnone]
      rfl
    · rw [hfirst]
      rfl
  rw [hquiet]
  simp only [handleChunk]
  split
  · rename_i hfeed
    refine .stopped (.inr ⟨locals, chunk, rfl⟩) (by simp) rfl ?_ onException_inFlight
    exact onException_fromParsing (feedChunk_error hfeed).1 _
  · exact .delivered locals _ chunk

theorem resume_turn {loads : Text → Except LoadsError Json} {limit : ℕ} {point point' : StreamPoint}
    {input : StreamInput} {effects : List Effect}
    (h : resume loads ctx.endpoint.extractUsage limit ctx point input = some (effects, point')) :
    BodyTurn ctx point input (updatesOf effects) point' := by
  cases point with
  | created =>
    cases input <;> cases h
    · exact .started _
    · exact .dropped
  | awaitChunk locals =>
    cases input with
    | chunk chunk =>
      cases h
      exact .received locals chunk
    | streamEnd =>
      cases h
      exact afterLoop_turn locals
    | raised e =>
      cases h
      exact .stopped (.inl ⟨locals, rfl⟩) (by simp) rfl rfl onException_inFlight
    | next | close | disconnected | closed => cases h
  | awaitDisconnect locals chunk =>
    cases input with
    | disconnected isDisconnected =>
      cases isDisconnected with
      | true =>
        cases h
        exact .stopped (.inr ⟨locals, chunk, rfl⟩) (by simp) rfl rfl fun _ hnone => by cases hnone
      | false =>
        have hturn := handleChunk_turn loads limit ctx locals chunk
        simp only [resume, Option.some.injEq] at h
        rwa [h] at hturn
    | raised e =>
      cases h
      exact .stopped (.inr ⟨locals, chunk, rfl⟩) (by simp) rfl rfl onException_inFlight
    | next | close | chunk | streamEnd | closed => cases h
  | yielded locals chunk =>
    cases input <;> cases h
    · exact .resumed locals chunk
    · exact .left locals chunk rfl ⟨rfl, rfl⟩
  | awaitClose exit =>
    cases input <;> cases h
    · exact .ended exit
    · exact .closeRaised exit _
  | finished outcome => cases input <;> cases h

/-- A flag makes the `finally` block note a failure of the gateway and return. -/
theorem finallyBlock_noted (ctx : StreamContext) {exit : Exit}
    (h : (exit.clientDisconnected || exit.streamFailed) = true) :
    ∃ statusCode, updatesOf (finallyBlock ctx exit).1 =
        [.statusOverride statusCode, .failureOrigin .gateway] ∧
      (finallyBlock ctx exit).2 = .returns := by
  simp only [finallyBlock]
  by_cases hdisconnected : exit.clientDisconnected = true
  · rw [if_pos hdisconnected]
    exact ⟨499, rfl, rfl⟩
  · have hfailed : exit.streamFailed = true := by simpa [hdisconnected] using h
    rw [if_neg hdisconnected, if_pos hfailed]
    exact ⟨502, rfl, rfl⟩

/-- Without one it notes nothing; a counter can make it raise on a success only. -/
theorem finallyBlock_unnoted (ctx : StreamContext) {exit : Exit}
    (hdisconnected : exit.clientDisconnected = false) (hfailed : exit.streamFailed = false) :
    updatesOf (finallyBlock ctx exit).1 = [] ∧
      (exit.parse.accountingStatusOverride.isSome = true ∧ (finallyBlock ctx exit).2 = .returns ∨
        exit.parse.accountingStatusOverride = none ∧ ((finallyBlock ctx exit).2 = .completes ∨
          ctx.statusCode < 400 ∧ (finallyBlock ctx exit).2 = .raises .other)) := by
  simp only [finallyBlock, hdisconnected, hfailed, Bool.false_eq_true, if_false]
  cases exit.parse.accountingStatusOverride with
  | some status => exact ⟨rfl, .inl ⟨rfl, rfl⟩⟩
  | none =>
    have haccounted := accountUsage_cases ctx.counterAccepts ctx.department ctx.modelName
      ctx.endpoint ctx.statusCode exit.parse.latestUsage
    dsimp only at haccounted ⊢
    generalize exit.parse.latestUsage = usage at haccounted ⊢
    generalize accountUsage ctx.counterAccepts ctx.department ctx.modelName ctx.endpoint
      ctx.statusCode usage = accounted at haccounted ⊢
    obtain ⟨recording, raised⟩ := accounted
    rw [updatesOf_append, updatesOf_accounting haccounted.calls]
    refine ⟨rfl, .inr ⟨rfl, ?_⟩⟩
    cases haccounted with
    | missing | recorded => exact .inl rfl
    | promptRefused hsuccess | generationRefused hsuccess => exact .inr ⟨by omega, rfl⟩

end

end VllmSourceGateway.MeteredRequests
