import VllmSourceGateway.RequestMetrics
import VllmSourceGateway.GatewaySystem

set_option autoImplicit false

/-! The two failover loops are one. Each is written out in a path of its own, for
streaming and for posting; both are shown to take the turns of one loop, which
looks at the payload only to pass it on. -/
namespace VllmSourceGateway.FailoverLoops
open PyText PyValues UsageExtractors Metrics Config AdmissionControl Routing GatewayEffects
open StreamBytes UpstreamHeaders ProxyEndpoint RequestSegments GatewaySystem RequestMetrics

inductive TurnEnd where
  | attempt (flight : Flight)
  | raised (e : Exn)

def TurnEnd.point (await : Flight → Point) : TurnEnd → Point
  | .attempt flight => await flight
  | .raised e => .finished (.raised e)

section
variable (request : ProxyRequest) (g : Gateway)

def firstTurn (modelName : String) (payload : JsonObject) (lease : Option AdmissionLease) :
    List Effect × TurnEnd :=
  match selectUpstreamFor g modelName [] with
  | (selecting, .error error) => (selecting ++ [.release lease], .raised (.http error))
  | (selecting, .ok upstream) =>
    let flight : Flight := ⟨modelName, payload, lease, upstream, [upstream.name]⟩
    (selecting ++ [contactUpstream request flight], .attempt flight)

def failedTurn (flight : Flight) (e : Exn) : List Effect × TurnEnd :=
  let ended := endAttempt request flight.modelName (.error e)
  match e with
  | .httpx error =>
    let (failing, raised) := raiseUpstreamTransportError request flight.modelName error
    if isConnectStageRetryableError error then
      match selectUpstreamFor g flight.modelName flight.attemptedUpstreamNames with
      | (selecting, .error _) =>
        (ended ++ selecting ++ failing ++ [.release flight.lease], .raised raised)
      | (selecting, .ok upstream) =>
        (ended ++ selecting ++ [contactUpstream request (nextFlight flight upstream)],
          .attempt (nextFlight flight upstream))
    else (ended ++ failing ++ [.release flight.lease], .raised raised)
  | e => (ended ++ [.release flight.lease], .raised e)

end

section
variable (P : Platform) (request : ProxyRequest) (g : Gateway)

theorem startStreaming_turn (modelName : String) (payload : JsonObject)
    (lease : Option AdmissionLease) :
    startStreaming request g modelName payload lease =
      ((firstTurn request g modelName payload lease).1,
        (firstTurn request g modelName payload lease).2.point .awaitSend) := by
  obtain ⟨error, _, hfor⟩ | ⟨upstream, _, hfor⟩ := selectUpstreamFor_cases g modelName [] <;>
    simp only [startStreaming, firstTurn, hfor, TurnEnd.point]

theorem startPosting_turn (modelName : String) (payload : JsonObject)
    (lease : Option AdmissionLease) :
    startPosting request g modelName payload lease =
      ((firstTurn request g modelName payload lease).1,
        (firstTurn request g modelName payload lease).2.point .awaitPost) := by
  obtain ⟨error, _, hfor⟩ | ⟨upstream, _, hfor⟩ := selectUpstreamFor_cases g modelName [] <;>
    simp only [startPosting, firstTurn, hfor, TurnEnd.point]

/-- Only a cancellation is treated differently by the two paths. -/
theorem afterSend_turn (flight : Flight) {e : Exn} (he : e.isException = true) :
    afterSend P request g flight (.raised e) =
      some ((failedTurn request g flight e).1,
        (failedTurn request g flight e).2.point .awaitSend) := by
  cases e with
  | httpx error =>
    simp only [afterSend, failedTurn]
    obtain hconnect | ⟨_, hconnect, _, hfor⟩ | ⟨_, hconnect, _, hfor⟩ :=
      transportError_cases g flight error
    · simp only [hconnect]
      rfl
    · simp only [hconnect, hfor]
      rfl
    · simp only [hconnect, hfor]
      rfl
  | cancelled => cases he
  | _ => rfl

theorem afterPost_turn (flight : Flight) (e : Exn) :
    afterPost P request g flight (.raised e) =
      some ((failedTurn request g flight e).1,
        (failedTurn request g flight e).2.point .awaitPost) := by
  cases e with
  | httpx error =>
    simp only [afterPost, failedTurn]
    obtain hconnect | ⟨_, hconnect, _, hfor⟩ | ⟨_, hconnect, _, hfor⟩ :=
      transportError_cases g flight error
    · simp only [hconnect]
      rfl
    · simp only [hconnect, hfor]
      rfl
    · simp only [hconnect, hfor]
      rfl
  | _ => rfl

end

def flagless (payload : JsonObject) : JsonObject := payload.filter fun item => item.1 ≠ "stream"

def flaglessFlight (flight : Flight) : Flight := { flight with payload := flagless flight.payload }

def flaglessEffect : Effect → Effect
  | .contact department modelName upstream sent =>
    .contact department modelName upstream { sent with payload := flagless sent.payload }
  | effect => effect

def flaglessEnd : TurnEnd → TurnEnd
  | .attempt flight => .attempt (flaglessFlight flight)
  | .raised e => .raised e

section
variable (request : ProxyRequest) (g : Gateway)

theorem firstTurn_flagless (modelName : String) (payload : JsonObject)
    (lease : Option AdmissionLease) :
    firstTurn request g modelName (flagless payload) lease =
      ((firstTurn request g modelName payload lease).1.map flaglessEffect,
        flaglessEnd (firstTurn request g modelName payload lease).2) := by
  obtain ⟨_, _, hfor⟩ | ⟨_, _, hfor⟩ := selectUpstreamFor_cases g modelName [] <;>
  · simp only [firstTurn, hfor]
    rfl

theorem failedTurn_flagless (flight : Flight) (e : Exn) :
    failedTurn request g (flaglessFlight flight) e =
      ((failedTurn request g flight e).1.map flaglessEffect,
        flaglessEnd (failedTurn request g flight e).2) := by
  cases e with
  | httpx error =>
    simp only [failedTurn, flaglessFlight]
    obtain hconnect | ⟨_, hconnect, _, hfor⟩ | ⟨_, hconnect, _, hfor⟩ :=
      transportError_cases g flight error
    · simp only [hconnect]
      rfl
    · simp only [hconnect, hfor]
      rfl
    · simp only [hconnect, hfor]
      rfl
  | _ => rfl

end

structure HealthChange where
  upstreamName : String
  healthy : Bool
  lastProbeAt : Option String
  lastSuccessAt : Option String
  lastStatusCode : Option ℕ
  lastError : Option String

/-- An unknown upstream is not changed. -/
def changeHealth (registry : RoutingRegistry) (change : HealthChange) : RoutingRegistry :=
  match setUpstreamHealth registry change.upstreamName change.healthy change.lastProbeAt
      change.lastSuccessAt change.lastStatusCode change.lastError with
  | .ok registry => registry
  | .error _ => registry

def changeAll (g : Gateway) (changes : List HealthChange) : Gateway :=
  { g with registry := changes.foldl changeHealth g.registry }

structure FailedAttempt where
  changes : List HealthChange
  now : ℚ
  error : Exn

structure LoopRun where
  gateway : Gateway
  point : Point
  effects : List Effect

section
variable (P : Platform) (config : AppConfig) (request : ProxyRequest)

def beginRun (now : ℚ) (g : Gateway) (started : List Effect × Point) : LoopRun :=
  ⟨performAll config.admissionControl now g started.1, started.2, started.1⟩

/-- The next attempt fails; nothing happens when the path has ended. -/
def LoopRun.fail (run : LoopRun) (failed : FailedAttempt) : LoopRun :=
  let g := changeAll run.gateway failed.changes
  match advance P config request g failed.now run.point (.raised failed.error) with
  | none => { run with gateway := g }
  | some (effects, point) =>
    ⟨performAll config.admissionControl failed.now g effects, point, run.effects ++ effects⟩

def LoopRun.failAll (run : LoopRun) (attempts : List FailedAttempt) : LoopRun :=
  attempts.foldl (LoopRun.fail P config request) run

end

/-- Attempts of the two paths that differ in the flag only, or the same failure. -/
inductive SamePoint : Point → Point → Prop where
  | attempt {flight flight' : Flight} (h : flaglessFlight flight = flaglessFlight flight') :
      SamePoint (.awaitSend flight) (.awaitPost flight')
  | failed (e : Exn) : SamePoint (.finished (.raised e)) (.finished (.raised e))

/-- The calls, the state they leave and what the middleware will make of them. -/
structure PathsAgree (sent posted : LoopRun) : Prop where
  effects : sent.effects.map flaglessEffect = posted.effects.map flaglessEffect
  gateway : sent.gateway = posted.gateway
  state : stateOf sent.effects = stateOf posted.effects
  point : SamePoint sent.point posted.point

/-- The calls of a response's segment that are made before its body is looked at:
all of its contacts, selections, retry events and notes for the middleware. -/
def beforeBody : Effect → Bool
  | .contact _ _ _ _ | .selectUpstream _ _ _ | .recordRetryEvent _ _ | .requestMetrics _ => true
  | .metric (.upstreamSelection _ _) => true
  | _ => false

section
variable {P : Platform} {config : AppConfig} {request : ProxyRequest}

theorem perform_flagless (config : AdmissionControlConfig) (now : ℚ) (g : Gateway)
    (effect : Effect) : perform config now g (flaglessEffect effect) = perform config now g effect := by
  cases effect <;> rfl

theorem performAll_flagless (config : AdmissionControlConfig) (now : ℚ) (g : Gateway)
    (effects : List Effect) :
    performAll config now g (effects.map flaglessEffect) = performAll config now g effects := by
  simp only [performAll, List.foldl_map, perform_flagless]

theorem stateOf_flagless (effects : List Effect) :
    stateOf (effects.map flaglessEffect) = stateOf effects := by
  have hobserve (state : RequestState) (effect : Effect) :
      state.observe (flaglessEffect effect) = state.observe effect := by
    cases effect <;> rfl
  simp only [stateOf, List.foldl_map, hobserve]

theorem samePoint_turn {turn turn' : TurnEnd} (h : flaglessEnd turn = flaglessEnd turn') :
    SamePoint (turn.point .awaitSend) (turn'.point .awaitPost) := by
  cases turn with
  | attempt flight =>
    cases turn' with
    | attempt flight' => exact .attempt (TurnEnd.attempt.inj h)
    | raised => cases h
  | raised e =>
    cases turn' with
    | attempt => cases h
    | raised e' =>
      cases h
      exact .failed e

theorem begin_agree (now : ℚ) (g : Gateway) (modelName : String) {payload payload' : JsonObject}
    (lease : Option AdmissionLease) (hpayload : flagless payload = flagless payload') :
    PathsAgree (beginRun config now g (startStreaming request g modelName payload lease))
      (beginRun config now g (startPosting request g modelName payload' lease)) := by
  have hturn := firstTurn_flagless request g modelName payload lease
  rw [hpayload, firstTurn_flagless] at hturn
  obtain ⟨heffects, hend⟩ := Prod.mk.inj hturn
  rw [startStreaming_turn, startPosting_turn]
  refine ⟨heffects.symm, ?_, ?_, samePoint_turn hend.symm⟩
  · rw [beginRun, beginRun, ← performAll_flagless, ← heffects, performAll_flagless]
  · rw [beginRun, beginRun, ← stateOf_flagless, ← heffects, stateOf_flagless]

/-- One failed attempt: both paths take the same turn. -/
theorem fail_agree {sent posted : LoopRun} (h : PathsAgree sent posted) (failed : FailedAttempt)
    (hexception : failed.error.isException = true) :
    PathsAgree (sent.fail P config request failed) (posted.fail P config request failed) := by
  obtain ⟨g, point, effects⟩ := sent
  obtain ⟨g', point', effects'⟩ := posted
  obtain ⟨heffects, rfl, hstate, hpoint⟩ := h
  cases hpoint with
  | @attempt flight flight' hflight =>
    have hturn := failedTurn_flagless request (changeAll g failed.changes) flight failed.error
    rw [hflight, failedTurn_flagless] at hturn
    obtain ⟨hmore, hend⟩ := Prod.mk.inj hturn
    have hall : (effects ++ (failedTurn request (changeAll g failed.changes) flight
          failed.error).1).map flaglessEffect =
        (effects' ++ (failedTurn request (changeAll g failed.changes) flight'
          failed.error).1).map flaglessEffect := by
      rw [List.map_append, List.map_append, heffects, hmore]
    simp only [LoopRun.fail, advance, afterSend_turn _ _ _ _ hexception, afterPost_turn]
    refine ⟨hall, ?_, ?_, samePoint_turn hend.symm⟩
    · rw [← performAll_flagless, ← hmore, performAll_flagless]
    · rw [← stateOf_flagless, hall, stateOf_flagless]
  | failed e => exact ⟨heffects, rfl, hstate, .failed e⟩

theorem failAll_agree {sent posted : LoopRun} (h : PathsAgree sent posted)
    {attempts : List FailedAttempt}
    (hexceptions : ∀ failed ∈ attempts, failed.error.isException = true) :
    PathsAgree (sent.failAll P config request attempts)
      (posted.failAll P config request attempts) := by
  induction attempts generalizing sent posted with
  | nil => exact h
  | cons failed attempts ih =>
    obtain ⟨hfirst, hrest⟩ := List.forall_mem_cons.mp hexceptions
    exact ih (fail_agree h failed hfirst) hrest

theorem handleResponse_afterBody (modelName : String) (statusCode : ℕ)
    (headers : List (String × String)) (content : List UInt8) :
    (handleResponse P request modelName statusCode headers content).1.filter beforeBody = [] := by
  refine List.filter_eq_nil_iff.mpr fun effect hmem => ?_
  cases handleResponse_calls modelName statusCode headers content effect hmem <;>
    simp [beforeBody]

theorem noteUpstreamStatus_beforeBody (modelName : String) (statusCode : ℕ) :
    (noteUpstreamStatus request modelName statusCode).filter beforeBody =
      noteUpstreamStatus request modelName statusCode := by
  simp only [noteUpstreamStatus]
  split <;> split <;> rfl

/-- The calls of a resumption that a response's body does not bear on. -/
def notedCalls (resumption : Option (List Effect × Point)) : Option (List Effect) :=
  resumption.map fun result => result.1.filter beforeBody

theorem afterSend_noted (g : Gateway) (flight : Flight) (statusCode : ℕ)
    (headers : List (String × String)) :
    notedCalls (afterSend P request g flight (.opened statusCode headers)) =
      some (noteUpstreamStatus request flight.modelName statusCode) := by
  simp only [afterSend, notedCalls]
  split
  · simp [beforeBody, noteUpstreamStatus_beforeBody]
  · simp [beforeBody, noteUpstreamStatus_beforeBody]

theorem afterPost_noted (g : Gateway) (flight : Flight) (statusCode : ℕ)
    (headers : List (String × String)) (content : List UInt8) :
    notedCalls (afterPost P request g flight (.response statusCode headers content)) =
      some (noteUpstreamStatus request flight.modelName statusCode) := by
  simp [afterPost, notedCalls, endAttempt, beforeBody, noteUpstreamStatus_beforeBody,
    handleResponse_afterBody]

theorem answer_agree {sent posted : Point} (h : SamePoint sent posted) (g : Gateway) (now : ℚ)
    (statusCode : ℕ) (headers headers' : List (String × String)) (content : List UInt8) :
    notedCalls (advance P config request g now sent (.opened statusCode headers)) =
      notedCalls (advance P config request g now posted
        (.response statusCode headers' content)) := by
  cases h with
  | @attempt flight flight' hflight =>
    obtain ⟨hmodel, _⟩ := Flight.mk.inj hflight
    simp only [advance]
    rw [afterSend_noted, afterPost_noted, hmodel]
  | failed e => rfl

/-- Over all sequences of failing attempts and health changes, the two paths make
the same calls and leave the same state, both failed with the same exception or
with attempts under way that differ in the flag only; and a response is met with
the same retry events and notes. -/
theorem failover_loops_agree (P : Platform) (config : AppConfig) (request : ProxyRequest)
    (g : Gateway) (now : ℚ) (modelName : String) (payload payload' : JsonObject)
    (lease : Option AdmissionLease) (attempts : List FailedAttempt)
    (hpayload : flagless payload = flagless payload')
    (hexceptions : ∀ failed ∈ attempts, failed.error.isException = true) :
    let sent := (beginRun config now g (startStreaming request g modelName payload lease)).failAll
      P config request attempts
    let posted := (beginRun config now g (startPosting request g modelName payload' lease)).failAll
      P config request attempts
    PathsAgree sent posted ∧
      ∀ changes later statusCode headers headers' content,
        notedCalls (advance P config request (changeAll sent.gateway changes) later sent.point
            (.opened statusCode headers)) =
          notedCalls (advance P config request (changeAll posted.gateway changes) later posted.point
            (.response statusCode headers' content)) := by
  intro sent posted
  have hagree : PathsAgree sent posted :=
    failAll_agree (begin_agree now g modelName lease hpayload) hexceptions
  refine ⟨hagree, fun changes later statusCode headers headers' content => ?_⟩
  rw [hagree.gateway]
  exact answer_agree hagree.point _ later statusCode headers headers' content

end

/-! The first upstream refuses the connection, and the second one times out. -/

def streamPayload : JsonObject := [("model", .str "llama"), ("stream", .bool true)]

def postPayload : JsonObject := [("model", .str "llama")]

def refusedThenLate : List FailedAttempt :=
  [⟨[], 1, .httpx .connectError⟩, ⟨[], 2, .httpx .timeout⟩]

theorem failover_loops_agree_refusedThenLate :
    PathsAgree
      ((beginRun smallConfig 0 (.init smallConfig) (startStreaming smallRequest (.init smallConfig)
        "llama" streamPayload none)).failAll smallPlatform smallConfig smallRequest refusedThenLate)
      ((beginRun smallConfig 0 (.init smallConfig) (startPosting smallRequest (.init smallConfig)
        "llama" postPayload none)).failAll smallPlatform smallConfig smallRequest
          refusedThenLate) := by
  have hpayload : flagless streamPayload = flagless postPayload := by
    simp [flagless, streamPayload, postPayload]
  exact (failover_loops_agree smallPlatform smallConfig smallRequest (.init smallConfig) 0 "llama"
    streamPayload postPayload none refusedThenLate hpayload (by decide)).1

end VllmSourceGateway.FailoverLoops
