import VllmSourceGateway.RequestedModel

set_option autoImplicit false

/-! The two failover loops, over every run of the gateway: the registry may change
between the attempts of a request in any way. -/
namespace VllmSourceGateway.FailoverDiscipline
open PyValues UsageExtractors Metrics Config AdmissionControl Routing GatewayEffects
open StreamBytes ProxyEndpoint RequestSegments GatewaySystem RequestTrail RequestedModel
open TransitionRuns

def loopTurns (task : Task) : ℕ := task.steps.countP fun taken => inLoop taken.1

def poolNames (config : AppConfig) (modelName : String) : List String :=
  (((RoutingRegistry.fromConfig config).pool modelName).map (·.name)).dedup

def responseStatus? : Point → Option ℕ
  | .finished (.responded response) => some response.statusCode
  | .streaming ctx _ => some ctx.statusCode
  | _ => none

def Answered (trail : Trail) (status : ℕ) : Prop :=
  ∃ attempt, trail.attempts.getLast? = some attempt ∧ attempt.outcome = some (.ok status)

/-- What is known of a request's attempts while it runs. -/
structure Trailing (config : AppConfig) (task : Task) : Prop where
  trail : TrailAt config (trailOf task.trace) task.point
  turns : loopTurns task + (inLoop task.point).toNat = (trailOf task.trace).attempts.length
  relayed : ∀ status, responseStatus? task.point = some status →
    Answered (trailOf task.trace) status

section
variable {P : Platform} {config : AppConfig} {request : ProxyRequest} {g : Gateway} {now : ℚ}
  {trail : Trail} {s : System}

/-! ## The status of a response is that of the last attempt -/

theorem answered_ended {point : Point} {flight : Flight}
    (hpoint : point = .awaitSend flight ∨ point = .awaitPost flight)
    (htrail : TrailAt config trail point) (statusCode retryEvents : ℕ) :
    Answered ⟨trail.attempts.modifyLast (Attempt.ended (.ok statusCode)), trail.selections,
      retryEvents⟩ statusCode := by
  obtain ⟨_, _, _, failed, hattempts⟩ := flight_trail hpoint htrail
  rw [hattempts, List.modifyLast_concat]
  exact ⟨_, List.getLast?_concat, rfl⟩

/-- What becomes of a response: it is handed on with its status, or something is
raised that is no HTTP error. -/
theorem handleResponse_outcome (P : Platform) (request : ProxyRequest) (modelName : String) (statusCode : ℕ)
    (headers : List (String × String)) (content : List UInt8) :
    let outcome := (handleResponse P request modelName statusCode headers content).2
    (∃ mediaType, outcome = .responded ⟨statusCode, content, mediaType⟩) ∨
      ∃ e, outcome = .raised e ∧ ∀ error, e ≠ .http error := by
  have hmake (mediaType : Option String) :
      (∃ mediaType', makeResponse P statusCode content mediaType =
        .responded ⟨statusCode, content, mediaType'⟩) ∨
        ∃ e, makeResponse P statusCode content mediaType = .raised e ∧ ∀ error, e ≠ .http error := by
    simp only [makeResponse]
    split
    · exact .inl ⟨mediaType, rfl⟩
    · exact .inr ⟨.value, rfl, by simp⟩
  simp only [handleResponse]
  split
  · rename_i loadsError _
    split
    · exact hmake _
    · refine .inr ⟨_, rfl, fun error => ?_⟩
      cases loadsError <;> simp [LoadsError.exn]
  · split
    · rename_i hextract
      rw [extractUsage_error hextract]
      exact .inr ⟨.attribute, rfl, by simp⟩
    · rename_i usage _
      have haccounted := accountUsage_cases P.counterAccepts request.department modelName
        request.endpoint statusCode usage
      split
      · exact hmake _
      · rename_i heq
        dsimp only at haccounted
        rw [heq] at haccounted
        rw [haccounted.raised]
        exact .inr ⟨.other, rfl, by simp⟩

/-- A resumption that leaves the client with a response has just been answered by
an upstream, or goes on with the stream of one that had answered. -/
theorem segment_relayed {point point' : Point} {input : Input} {effects : List Effect}
    (h : Segment P config request g now point input effects point')
    (htrail : TrailAt config trail point)
    (hrelayed : ∀ status, responseStatus? point = some status → Answered trail status) {status : ℕ}
    (hstatus : responseStatus? point' = some status) : Answered (trail.observeAll effects) status := by
  cases h with
  | rejected | misshapen | refused | unroutable | exhausted | failed | broken | cancelled
  | unbuildable => cases hstatus
  | started hshape hacquire hselect hattempted hpoint =>
    rcases hpoint with rfl | rfl <;> cases hstatus
  | retried hconnect hselect hflight hpoint =>
    rcases hpoint with ⟨_, rfl⟩ | ⟨_, rfl⟩ <;> cases hstatus
  | opened =>
    cases hstatus
    rw [trail_cons, trail_noteUpstreamStatus]
    exact answered_ended (.inl rfl) htrail _ _
  | @answered flight statusCode headers content =>
    rw [trail_append, trail_append, trail_append, trail_append, trail_endAttempt,
      trail_handleResponse, trail_noteUpstreamStatus, trail_release]
    obtain ⟨mediaType, houtcome⟩ | ⟨e, houtcome, _⟩ := handleResponse_outcome P request
      flight.modelName statusCode headers content
    · rw [houtcome] at hstatus
      cases hstatus
      exact answered_ended (.inr rfl) htrail _ _
    · rw [houtcome] at hstatus
      cases hstatus
  | streamed hresume =>
    rw [trail_stream trail (resume_cases _ _ _ _ hresume)]
    exact hrelayed status hstatus

theorem startRequest_trailing (request : ProxyRequest) :
    Trailing config (.start config request) := by
  have htrail : trailOf (Task.start config request).trace = emptyTrail := by
    simp only [Task.start, startRequest_effects]
    rfl
  refine ⟨?_, ?_, ?_⟩
  · rw [htrail]
    simp only [Task.start, startRequest]
    split
    · exact over_empty config
    · split
      · exact over_empty config
      · exact (rfl : emptyTrail = emptyTrail)
  · rw [htrail]
    simp only [Task.start, startRequest]
    split
    · rfl
    · split <;> rfl
  · intro status hstatus
    simp only [Task.start, startRequest] at hstatus
    split at hstatus
    · cases hstatus
    · split at hstatus <;> cases hstatus

theorem requests_trailing (h : Reachable (step P config) (initial config) s) :
    ∀ task ∈ s.tasks, Trailing config task := by
  refine task_invariant (Trailing config) startRequest_trailing ?_ h
  intro task g now input effects point hpools hinv hsegment
  have htrail : trailOf (task.continue input effects point).trace =
      (trailOf task.trace).observeAll effects := trail_append _ _ _
  refine ⟨?_, ?_, ?_⟩
  · rw [htrail]
    exact segment_trail hpools hsegment hinv.trail
  · have hturns : loopTurns (task.continue input effects point) =
        loopTurns task + (inLoop task.point).toNat := by
      simp only [loopTurns, Task.continue, List.countP_append, List.countP_singleton]
      cases inLoop task.point <;> rfl
    rw [htrail, segment_attempts hsegment, hturns, hinv.turns]
    rfl
  · rw [htrail]
    exact fun status => segment_relayed hsegment hinv.trail hinv.relayed

/-- The attempts of a request, whatever happened so far. -/
theorem trailAt_over {trail : Trail} {point : Point} (h : TrailAt config trail point) :
    OverTrail config trail := by
  have hloop {flight : Flight} (hflight : Orderly config flight.modelName trail ∧
      trail.names = flight.attemptedUpstreamNames ∧ trail.retryEvents = 0 ∧
      ∃ failed, trail.attempts = failed ++ [⟨flight.modelName, flight.upstream, none⟩]) :
      OverTrail config trail := by
    obtain ⟨horderly, _, hzero, _⟩ := hflight
    exact ⟨⟨_, horderly⟩, by omega, fun _ _ _ _ _ => hzero⟩
  cases point with
  | awaitBody =>
    obtain rfl := h
    exact over_empty config
  | awaitSend flight | awaitPost flight => exact hloop h
  | finished | streaming => exact h

/-- The attempt that was under way failed in transport: after the connect stage,
or at it with every upstream of the pool attempted or unhealthy. -/
def TransportFailure (g : Gateway) (trail : Trail) : Prop :=
  ∃ attempt e, trail.attempts.getLast? = some attempt ∧
    attempt.outcome = some (.error (.httpx e)) ∧
    (isConnectStageRetryableError e = false ∨
      ∀ upstream ∈ g.registry.pool attempt.modelName,
        upstream.name ∈ trail.names ∨ g.registry.isHealthy upstream.name = false)

/-- An upstream is contacted only when it is marked healthy. -/
theorem segment_healthy {point point' : Point} {input : Input} {effects : List Effect}
    (h : Segment P config request g now point input effects point') {department modelName : String}
    {upstream : UpstreamTarget} {sent : UpstreamRequest}
    (hmem : .contact department modelName upstream sent ∈ effects) :
    g.registry.isHealthy upstream.name = true := by
  have hno {accounting : List Effect} (hall : accounting.all bookkeeping = true) :
      .contact department modelName upstream sent ∉ accounting := by
    intro hcontact
    cases List.all_eq_true.mp hall _ hcontact
  have hnote (status : ℕ) (modelName' : String) : .contact department modelName upstream sent ∉
      noteUpstreamStatus request modelName' status := by
    simp only [noteUpstreamStatus]
    split <;> split <;> simp
  cases h with
  | rejected | misshapen | refused | unroutable | exhausted | failed | broken | cancelled =>
    simp [admission, endAttempt, raiseUpstreamTransportError] at hmem
  | started hshape hacquire hselect =>
    simp only [admission, selectAndContact, contactUpstream, List.mem_append, List.mem_cons,
      reduceCtorEq, List.not_mem_nil, false_or, or_false, Effect.contact.injEq] at hmem
    obtain ⟨_, _, rfl, _⟩ := hmem
    exact (selectUpstream_ok _ _ hselect).2.2
  | retried hconnect hselect =>
    simp only [endAttempt, selectAndContact, contactUpstream, List.mem_append, List.mem_cons,
      reduceCtorEq, List.not_mem_nil, false_or, or_false, Effect.contact.injEq] at hmem
    obtain ⟨_, _, rfl, _⟩ := hmem
    exact (selectUpstream_ok _ _ hselect).2.2
  | opened => simp [hnote] at hmem
  | unbuildable => simp [hnote] at hmem
  | answered => simp [endAttempt, hnote, hno (handleResponse_bookkeeping _ _ _ _)] at hmem
  | @streamed ctx point point' input effects hresume =>
    obtain hgoes | ⟨outcome, rfl, hfinishes⟩ := resume_cases _ _ _ _ hresume
    · rcases hgoes.effects with heffects | heffects <;> simp [heffects] at hmem
    · cases hfinishes with
      | unstarted | closeRaised => cases hmem
      | completed exit =>
        obtain ⟨accounting, heffects, haccounting⟩ := finallyBlock_effects ctx exit
        simp [heffects, hno haccounting] at hmem

/-- A resumption contacts somebody only as the last thing it does, right after the
selection. -/
theorem segment_contact {point point' : Point} {input : Input} {effects : List Effect}
    (h : Segment P config request g now point input effects point') {department modelName : String}
    {upstream : UpstreamTarget} {sent : UpstreamRequest}
    (hmem : .contact department modelName upstream sent ∈ effects) :
    ∃ before excluded flight, effects = before ++ selectAndContact request excluded flight ∧
      (point' = .awaitSend flight ∨ point' = .awaitPost flight) ∧
      .contact department modelName upstream sent = contactUpstream request flight ∧
      .contact department modelName upstream sent ∉ before := by
  have hno {accounting : List Effect} (hall : accounting.all bookkeeping = true) :
      .contact department modelName upstream sent ∉ accounting := by
    intro hcontact
    cases List.all_eq_true.mp hall _ hcontact
  have hnote (status : ℕ) (modelName' : String) : .contact department modelName upstream sent ∉
      noteUpstreamStatus request modelName' status := by
    simp only [noteUpstreamStatus]
    split <;> split <;> simp
  cases h with
  | rejected | misshapen | refused | unroutable | exhausted | failed | broken | cancelled =>
    simp [admission, endAttempt, raiseUpstreamTransportError] at hmem
  | @started _ _ _ flight _ hshape hacquire hselect hattempted hpoint =>
    refine ⟨_, _, flight, rfl, hpoint, ?_, by simp [admission]⟩
    simpa [admission, selectAndContact, contactUpstream] using hmem
  | @retried _ _ _ flight' _ hconnect hselect hflight hpoint =>
    refine ⟨_, _, flight', rfl, hpoint.imp And.right And.right, ?_, by simp [endAttempt]⟩
    simpa [endAttempt, selectAndContact, contactUpstream] using hmem
  | opened => simp [hnote] at hmem
  | unbuildable => simp [hnote] at hmem
  | answered => simp [endAttempt, hnote, hno (handleResponse_bookkeeping _ _ _ _)] at hmem
  | @streamed ctx point point' input effects hresume =>
    obtain hgoes | ⟨outcome, rfl, hfinishes⟩ := resume_cases _ _ _ _ hresume
    · rcases hgoes.effects with heffects | heffects <;> simp [heffects] at hmem
    · cases hfinishes with
      | unstarted | closeRaised => cases hmem
      | completed exit =>
        obtain ⟨accounting, heffects, haccounting⟩ := finallyBlock_effects ctx exit
        simp [heffects, hno haccounting] at hmem

theorem transport_of_last {point : Point} {flight : Flight}
    (hpoint : point = .awaitSend flight ∨ point = .awaitPost flight)
    (htrail : TrailAt config trail point) {e : HttpxError} {retryEvents : ℕ}
    (hfailure : isConnectStageRetryableError e = false ∨
      ∀ upstream ∈ g.registry.pool flight.modelName,
        upstream.name ∈ flight.attemptedUpstreamNames ∨
          g.registry.isHealthy upstream.name = false) :
    TransportFailure g
      ⟨trail.attempts.modifyLast (Attempt.ended (.error (.httpx e))), trail.selections,
        retryEvents⟩ := by
  obtain ⟨_, hnames, _, failed, hattempts⟩ := flight_trail hpoint htrail
  rw [hattempts, List.modifyLast_concat]
  refine ⟨_, e, List.getLast?_concat, rfl, hfailure.imp id fun hall upstream hmem => ?_⟩
  rcases hall upstream hmem with hattempted | hunhealthy
  · left
    rw [← hnames, Trail.names, hattempts] at hattempted
    simpa [Trail.names, Attempt.ended] using hattempted
  · exact .inr hunhealthy

/-- A resumption that ends in 502 or 504 ends the last attempt with a transport
failure, unless the await raised the HTTP error itself. -/
theorem segment_gateway_error {point point' : Point} {input : Input} {effects : List Effect}
    {e : Exn} (h : Segment P config request g now point input effects point')
    (htrail : TrailAt config trail point) (hpoint' : point' = .finished (.raised e))
    (herror : gatewayError e) (hinput : input ≠ .raised e) :
    TransportFailure g (trail.observeAll effects) := by
  cases h with
  | rejected hother | misshapen _ hother | refused _ _ hother | unroutable _ _ _ hother =>
    cases hpoint'
    exact absurd herror hother
  | started hshape hacquire hselect hattempted hpoint =>
    rcases hpoint with rfl | rfl <;> cases hpoint'
  | retried hconnect hselect hflight hpoint =>
    rcases hpoint with ⟨_, rfl⟩ | ⟨_, rfl⟩ <;> cases hpoint'
  | exhausted hconnect hselect hpoint =>
    exact transport_of_last hpoint htrail (.inr (selectUpstream_error _ _ hselect).2)
  | failed hconnect hpoint => exact transport_of_last hpoint htrail (.inl hconnect)
  | broken | cancelled =>
    cases hpoint'
    exact absurd rfl hinput
  | opened => cases hpoint'
  | unbuildable =>
    cases hpoint'
    obtain ⟨error, herror, _⟩ := herror
    cases herror
  | @answered flight statusCode headers content =>
    have hraised := Point.finished.inj hpoint'
    obtain ⟨mediaType, houtcome⟩ | ⟨e', houtcome, hother⟩ := handleResponse_outcome P request
      flight.modelName statusCode headers content
    · rw [houtcome] at hraised
      cases hraised
    · rw [houtcome] at hraised
      cases hraised
      obtain ⟨error, heq, _⟩ := herror
      exact absurd heq (hother error)
  | streamed => cases hpoint'

theorem startRequest_gateway_error {e : Exn}
    (h : (startRequest config request).2 = .finished (.raised e)) : ¬ gatewayError e := by
  simp only [startRequest] at h
  split at h
  · rename_i error hpolicy
    cases h
    simp only [enforceSourceResolutionPolicy] at hpolicy
    split_ifs at hpolicy <;> cases hpolicy <;> exact not_gatewayError (by simp) (by simp)
  · split at h
    · cases h
      exact not_gatewayError (by simp [requestBodyTooLargeError]) (by simp [requestBodyTooLargeError])
    · cases h

structure Disciplined (P : Platform) (config : AppConfig) (task : Task) : Prop where
  bounded : ((trailOf task.trace).attempts = [] ∧ loopTurns task = 0) ∨
    ∃ modelName, Requests P config task modelName ∧
      (trailOf task.trace).attempts.length ≤ (poolNames config modelName).length ∧
      loopTurns task ≤ (poolNames config modelName).length ∧
      ∀ attempt ∈ (trailOf task.trace).attempts, attempt.modelName = modelName ∧
        attempt.upstream ∈ (RoutingRegistry.fromConfig config).pool modelName ∧
        modelName ∈ attempt.upstream.models
  once : (trailOf task.trace).names.Nodup
  connectStage : ∀ attempt ∈ (trailOf task.trace).attempts.dropLast, attempt.connectFailed = true
  receivedOnce : (trailOf task.trace).attempts.countP (fun attempt => !attempt.connectFailed) ≤ 1
  selections : (trailOf task.trace).selections =
    (trailOf task.trace).attempts.map fun attempt => (attempt.modelName, attempt.upstream.name)
  retryOnce : (trailOf task.trace).retryEvents ≤ 1
  retryNone : ∀ attempt status, (trailOf task.trace).attempts.getLast? = some attempt →
    attempt.outcome = some (.ok status) → status < 500 → (trailOf task.trace).retryEvents = 0
  relayed : ∀ status, responseStatus? task.point = some status →
    Answered (trailOf task.trace) status

/-- The discipline of all requests in a state, and of the resumptions possible in it. -/
structure FailoverDisciplined (P : Platform) (config : AppConfig) (s : System) : Prop where
  requests : ∀ task ∈ s.tasks, Disciplined P config task
  healthy : ∀ task ∈ s.tasks, ∀ now input effects point,
    advance P config task.request s.gateway now task.point input = some (effects, point) →
    ∀ department modelName upstream sent, .contact department modelName upstream sent ∈ effects →
      s.gateway.registry.isHealthy upstream.name = true
  gatewayErrors : ∀ task ∈ s.tasks, ∀ now input effects e,
    advance P config task.request s.gateway now task.point input =
      some (effects, .finished (.raised e)) →
    gatewayError e → input ≠ .raised e →
      TransportFailure s.gateway (trailOf (task.trace ++ effects))
  arrivals : ∀ request e, (startRequest config request).2 = .finished (.raised e) →
    ¬ gatewayError e

theorem received_once {attempts : List Attempt}
    (h : ∀ attempt ∈ attempts.dropLast, attempt.connectFailed = true) :
    attempts.countP (fun attempt => !attempt.connectFailed) ≤ 1 := by
  rcases List.eq_nil_or_concat attempts with rfl | ⟨failed, last, rfl⟩
  · exact Nat.zero_le 1
  · rw [List.concat_eq_append, List.dropLast_concat] at h
    have hnone : failed.countP (fun attempt => !attempt.connectFailed) = 0 := by
      refine List.countP_eq_zero.mpr fun attempt hmem => ?_
      simp [h attempt hmem]
    rw [List.concat_eq_append, List.countP_append, hnone, Nat.zero_add]
    exact List.countP_le_length

theorem trailing_disciplined {task : Task} (h : Trailing config task)
    (habout : About P config task) : Disciplined P config task := by
  obtain ⟨⟨modelName, horderly⟩, honce, hnone⟩ := trailAt_over h.trail
  have hbounded : (trailOf task.trace).attempts.length ≤ (poolNames config modelName).length :=
    horderly.bounded
  have hturns := h.turns
  refine {
    bounded := ?_
    once := horderly.once
    connectStage := horderly.connectStage
    receivedOnce := received_once horderly.connectStage
    selections := horderly.selections
    retryOnce := honce
    retryNone := hnone
    relayed := h.relayed }
  rcases List.eq_nil_or_concat (trailOf task.trace).attempts with hempty | ⟨_, last, hlast⟩
  · rw [hempty, List.length_nil] at hturns
    exact .inl ⟨hempty, by omega⟩
  · have hmem : last ∈ (trailOf task.trace).attempts := by simp [hlast]
    have hrequests : Requests P config task modelName :=
      (horderly.model last hmem).1 ▸ habout.attempt last hmem
    refine .inr ⟨modelName, hrequests, hbounded, by omega, fun attempt hattempt => ?_⟩
    obtain ⟨rfl, hpool⟩ := horderly.model attempt hattempt
    exact ⟨rfl, hpool, fromConfig_pool_serves config _ _ hpool⟩

/-- Every reachable state of the gateway keeps the failover discipline. -/
theorem failover_disciplined (h : Reachable (step P config) (initial config) s) :
    FailoverDisciplined P config s where
  requests := fun task htask =>
    trailing_disciplined (requests_trailing h task htask) (requests_about h task htask)
  healthy := fun task _ now input effects point hadvance department modelName upstream sent hmem =>
    segment_healthy (advance_segment hadvance) hmem
  gatewayErrors := fun task htask now input effects e hadvance herror hinput => by
    rw [show trailOf (task.trace ++ effects) = (trailOf task.trace).observeAll effects from
      trail_append _ _ _]
    exact segment_gateway_error (advance_segment hadvance) (requests_trailing h task htask).trail
      rfl herror hinput
  arrivals := fun request e => startRequest_gateway_error

end

/-! The first upstream refuses the connection, the second one answers. -/

def failedOver : List Event :=
  [.arrive smallRequest 0, .resume 0 (.body postBody) 1,
    .resume 0 (.raised (.httpx .connectError)) 2, .resume 0 (.response 200 [] usageBody) 3]

theorem failedOver_runs : (smallRun failedOver).isSome = true := by decide +kernel

theorem failover_disciplined_failedOver :
    FailoverDisciplined smallPlatform smallConfig ((smallRun failedOver).get failedOver_runs) ∧
      (((smallRun failedOver).get failedOver_runs).tasks.map fun task =>
        (trailOf task.trace).names) = [["a", "b"]] :=
  ⟨failover_disciplined (exec_get_reachable failedOver_runs), by decide +kernel⟩

/-! The upstream itself answers 502, which is passed on. -/

def answeredBadGateway : List Event :=
  [.arrive smallRequest 0, .resume 0 (.body postBody) 1, .resume 0 (.response 502 [] usageBody) 2]

theorem answeredBadGateway_runs : (smallRun answeredBadGateway).isSome = true := by decide +kernel

def endStatus? : Point → Option ℕ
  | .finished (.raised (.http error)) => some error.statusCode
  | point => responseStatus? point

/-- A request can end in 502 although its last attempt was answered. -/
theorem bad_gateway_not_always_failed :
    ¬ ∀ (P : Platform) (config : AppConfig) (s : System),
      Reachable (step P config) (initial config) s →
      ∀ task ∈ s.tasks, endStatus? task.point = some 502 ∨ endStatus? task.point = some 504 →
        ∃ attempt e, (trailOf task.trace).attempts.getLast? = some attempt ∧
          attempt.outcome = some (.error e) := by
  intro h
  have hends : ∃ task ∈ ((smallRun answeredBadGateway).get answeredBadGateway_runs).tasks,
      endStatus? task.point = some 502 ∧
        ∀ attempt ∈ (trailOf task.trace).attempts,
          attempt.outcome.bind Except.toOption = some 502 := by
    decide +kernel
  obtain ⟨task, htask, hstatus, hanswered⟩ := hends
  obtain ⟨attempt, e, hlast, houtcome⟩ := h smallPlatform smallConfig _
    (exec_get_reachable answeredBadGateway_runs) task htask (.inl hstatus)
  have hattempt := hanswered attempt (List.mem_of_getLast? hlast)
  rw [houtcome] at hattempt
  cases hattempt

end VllmSourceGateway.FailoverDiscipline
