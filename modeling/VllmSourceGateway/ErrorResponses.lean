import VllmSourceGateway.AccountingLedgers
import VllmSourceGateway.CompleteMediation
import VllmSourceGateway.RejectedRequests

set_option autoImplicit false

/-! Every error that the gateway makes up for a client has one of a fixed set of causes,
and its status tells which side of the first contact with an upstream it lies on. -/
namespace VllmSourceGateway.ErrorResponses
open PyText PyValues UsageExtractors Metrics Config AdmissionControl Routing GatewayEffects
open StreamBytes ProxyEndpoint RequestSegments GatewaySystem TransitionRuns RequestedModel
open AdmissionOutputCap
open FailoverDiscipline (handleResponse_outcome)
open AccountingLedgers (isReply)
open CompleteMediation (Entered startRequest_entered)
open RejectedRequests (contacts Uncontacted)
open PayloadFidelity (segment_leaves_body)

/-- The request was let in, and its body came in full. -/
structure Received (config : AppConfig) (task : Task) (content : List UInt8) : Prop where
  entered : Entered config task.request
  steps : task.steps = [(.awaitBody, .body content)]
  size : content.length ≤ config.server.maxRequestBodyBytes

/-- Its body names a model that somebody is configured to serve. -/
structure Recognized (P : Platform) (config : AppConfig) (task : Task) (content : List UInt8)
    (fields : JsonObject) (modelName : String) : Prop extends Received config task content where
  reads : ReadsAs P config content fields modelName
  known : unknownModelError (.fromConfig config) modelName = none

/-- What the shape check says to a body. -/
def shapeOf (config : AppConfig) (task : Task) (content : List UInt8) (fields : JsonObject)
    (modelName : String) : Except Rejection JsonObject :=
  (checkRequestShape config.admissionControl task.request.department modelName
    task.request.endpoint content.length fields).1

/-- Errors before any upstream is contacted, in the order of the checks; each is that of a
check that failed after all the earlier ones had passed. -/
inductive TurnedAway (P : Platform) (config : AppConfig) (task : Task) : HttpException → Prop where
  | policy (hsteps : task.steps = []) (hrejects : config.security.rejectUnknownApiKeys = true)
      (hunknown : task.request.sourceResolution.resolutionSource = .unknown) :
      TurnedAway P config task ⟨401, if task.request.sourceResolution.apiKey.isNone then
        "missing api key" else "unknown api key", none⟩
  | contentLength (hsteps : task.steps = [])
      (hpolicy : enforceSourceResolutionPolicy config task.request.sourceResolution = none)
      (hlong : contentLengthExceedsLimit task.request config.server.maxRequestBodyBytes = true) :
      TurnedAway P config task (requestBodyTooLargeError config.server.maxRequestBodyBytes)
  | unreadable {e : Exn} (hentered : Entered config task.request)
      (hsteps : task.steps = [(.awaitBody, .raised e)]) (hexception : e.isException = true) :
      TurnedAway P config task ⟨400, "invalid request body", none⟩
  | oversized {content : List UInt8} (hentered : Entered config task.request)
      (hsteps : task.steps = [(.awaitBody, .body content)])
      (hlong : config.server.maxRequestBodyBytes < content.length) :
      TurnedAway P config task (requestBodyTooLargeError config.server.maxRequestBodyBytes)
  | malformed {content : List UInt8} {e : LoadsError} (hreceived : Received config task content)
      (hloads : P.loadsBytes content = .error e) (hvalue : e.isValueError = true) :
      TurnedAway P config task ⟨400, "invalid json body", none⟩
  | notAnObject {content : List UInt8} {json : Json} (hreceived : Received config task content)
      (hloads : P.loadsBytes content = .ok json) (hkind : ∀ fields, json ≠ .obj fields) :
      TurnedAway P config task ⟨400, "request body must be a json object", none⟩
  | missingModel {content : List UInt8} {fields : JsonObject}
      (hreceived : Received config task content) (hloads : P.loadsBytes content = .ok (.obj fields))
      (hmodel : ∀ modelName, PyDict.get? fields "model" = some (.str modelName) →
        strip modelName.toList = []) :
      TurnedAway P config task ⟨422, "missing model", none⟩
  | unknownModel {content : List UInt8} {fields : JsonObject} {modelName : String}
      (hreceived : Received config task content)
      (hreads : ReadsAs P config content fields modelName)
      (hunknown : getModelUpstreams (.fromConfig config) modelName =
        .error (.unknownModel modelName)) :
      TurnedAway P config task ⟨404, (RoutingError.unknownModel modelName).text, none⟩
  | misshapen {content : List UInt8} {fields : JsonObject} {modelName : String}
      {rejection : Rejection} (hrecognized : Recognized P config task content fields modelName)
      (hshape : shapeOf config task content fields modelName = .error rejection) :
      TurnedAway P config task rejection.error
  | refused {content : List UInt8} {fields payload : JsonObject} {modelName : String}
      {rejection : Rejection} (hrecognized : Recognized P config task content fields modelName)
      (hshape : shapeOf config task content fields modelName = .ok payload)
      (hlast : task.trace.getLast? = some (.acquire task.request.department modelName
        task.request.endpoint (.error rejection)))
      {detail : String} {retryAfter : ℤ} (hpositive : 1 ≤ retryAfter)
      (herror : rejection.error = tooManyRequests detail retryAfter) :
      TurnedAway P config task rejection.error
  | unavailable {content : List UInt8} {fields payload : JsonObject} {modelName : String}
      {lease : Option AdmissionLease}
      (hrecognized : Recognized P config task content fields modelName)
      (hshape : shapeOf config task content fields modelName = .ok payload)
      (hlast : [.acquire task.request.department modelName task.request.endpoint (.ok lease),
        .selectUpstream modelName [] (.error (.noHealthyUpstream modelName)),
        .release lease] <:+ task.trace) :
      TurnedAway P config task ⟨503, (RoutingError.noHealthyUpstream modelName).text, none⟩

/-- Errors after a contact: the last attempt failed in transport, and no earlier one was
answered. -/
structure Unreached (task : Task) (error : HttpException) : Prop where
  contacted : ∃ effect ∈ task.trace, contacts effect = true
  unanswered : ∀ effect ∈ task.trace, isReply effect = false
  last : ∃ point e, task.steps.getLast? = some (point, .raised (.httpx e)) ∧
    error = if e.isTimeout then ⟨504, "upstream request timed out", none⟩
      else ⟨502, "upstream request failed", none⟩

section
variable {P : Platform} {config : AppConfig}

theorem acquire_error {config : AdmissionControlConfig} {now : ℚ} {department modelName : String}
    {endpoint : Endpoint} {c : AdmissionController} {rejection : Rejection}
    (h : (acquire config now department modelName endpoint c).1 = .error rejection) :
    ∃ detail retryAfter, 1 ≤ retryAfter ∧ rejection.error = tooManyRequests detail retryAfter := by
  have hdefault : 1 ≤ config.defaultRetryAfterSeconds := config.defaultRetryAfterSeconds_pos
  unfold acquire at h
  simp only at h
  repeat' split at h
  all_goals first
    | cases h; exact ⟨_, _, hdefault, rfl⟩
    | cases h; exact ⟨_, _, le_max_left _ _, rfl⟩
    | cases h

theorem checkRequestShape_error {config : AdmissionControlConfig} {department modelName : String}
    {endpoint : Endpoint} {bodySize : ℕ} {payload : JsonObject} {rejection : Rejection}
    (h : (checkRequestShape config department modelName endpoint bodySize payload).1 =
      .error rejection) :
    (rejection.error.statusCode = 413 ∨ rejection.error.statusCode = 422) ∧
      rejection.error.retryAfter = none := by
  refine ⟨checkRequestShape_status h, ?_⟩
  unfold checkRequestShape at h
  simp only at h
  repeat' split at h
  all_goals first
    | cases h; rfl
    | cases h

theorem select_known {registry : RoutingRegistry} {modelName : String} {excluded : List String}
    {error : RoutingError} (hknown : unknownModelError registry modelName = none)
    (h : (selectUpstream registry modelName excluded).1 = .error error) :
    error = .noHealthyUpstream modelName := by
  unfold unknownModelError getModelUpstreams at hknown
  unfold selectUpstream at h
  cases hpool : PyDict.get? registry.modelToUpstreams modelName with
  | none =>
    rw [hpool] at hknown
    cases hknown
  | some pool =>
    simp only [hpool] at h
    split at h
    · cases h
      rfl
    · cases h

theorem started_error {request : ProxyRequest} {g : Gateway} {modelName : String}
    {payload : JsonObject} {lease : Option AdmissionLease} {error : HttpException}
    {started : List Effect × Point}
    (hstarted : started = startStreaming request g modelName payload lease ∨
      started = startPosting request g modelName payload lease)
    (hknown : unknownModelError g.registry modelName = none)
    (h : started.2 = .finished (.raised (.http error))) :
    started.1 = [.selectUpstream modelName [] (.error (.noHealthyUpstream modelName)),
        .release lease] ∧
      error = ⟨503, (RoutingError.noHealthyUpstream modelName).text, none⟩ := by
  obtain ⟨routing, hselect, hfor⟩ | ⟨upstream, _, hfor⟩ :=
    selectUpstreamFor_cases g modelName []
  · obtain rfl := select_known hknown hselect
    rcases hstarted with rfl | rfl
    all_goals
      simp only [startStreaming, startPosting, hfor, Point.finished.injEq, Outcome.raised.injEq,
        Exn.http.injEq] at h ⊢
      exact ⟨rfl, h.symm⟩
  · rcases hstarted with rfl | rfl
    all_goals
      simp only [startStreaming, startPosting, hfor] at h
      cases h

/-- A body that leads to an error leads to one of the causes. -/
theorem handleBody_error {task : Task} (hpoint : task.point = .awaitBody) (hfresh : task.steps = [])
    (hentered : Entered config task.request) {g : Gateway} (hpools : PoolsKept config g) {now : ℚ}
    {content : List UInt8} {error : HttpException}
    (h : (handleBody P config task.request g now content).2 = .finished (.raised (.http error))) :
    TurnedAway P config (task.continue (.body content)
      (handleBody P config task.request g now content).1 (.finished (.raised (.http error))))
      error := by
  have hsteps (effects : List Effect) (point : Point) :
      (task.continue (.body content) effects point).steps = [(.awaitBody, .body content)] := by
    simp only [Task.continue, hfresh, hpoint, List.nil_append]
  unfold handleBody at h ⊢
  cases hread : readJsonRequestBody P config content with
  | error e =>
    simp only [hread, Point.finished.injEq, Outcome.raised.injEq] at h ⊢
    subst h
    unfold readJsonRequestBody at hread
    split at hread
    · rename_i hlong
      cases hread
      exact .oversized hentered (hsteps _ _) hlong
    · rename_i hsize
      split at hread
      · cases hread
      · rename_i loadsError hloads
        split at hread
        · rename_i hvalue
          cases hread
          exact .malformed ⟨hentered, hsteps _ _, not_lt.mp hsize⟩ hloads hvalue
        · cases loadsError <;> cases hread
  | ok json =>
    obtain ⟨hsize, hloads⟩ := readJsonRequestBody_ok hread
    have hreceived (effects : List Effect) (point : Point) :
        Received config (task.continue (.body content) effects point) content :=
      ⟨hentered, hsteps effects point, hsize⟩
    simp only [hread] at h ⊢
    cases hparse : parseJsonPayload json with
    | error parseError =>
      simp only [hparse, Point.finished.injEq, Outcome.raised.injEq, Exn.http.injEq] at h ⊢
      subst h
      unfold parseJsonPayload at hparse
      split at hparse
      · rename_i fields
        split at hparse
        · rename_i modelName hmodel
          split at hparse
          · rename_i hblank
            cases hparse
            refine .missingModel (hreceived _ _) hloads fun other hother => ?_
            cases hmodel.symm.trans hother
            exact hblank
          · cases hparse
        · rename_i hnone
          cases hparse
          exact .missingModel (hreceived _ _) hloads fun other hother => absurd hother (hnone other)
      · rename_i hkind
        cases hparse
        exact .notAnObject (hreceived _ _) hloads hkind
    | ok parsed =>
      obtain ⟨fields, modelName⟩ := parsed
      have hreads : ReadsAs P config content fields modelName := readsAs_iff.mp ⟨json, hread, hparse⟩
      simp only [hparse] at h ⊢
      cases hknown : unknownModelError g.registry modelName with
      | some unknown =>
        simp only [hknown, Point.finished.injEq, Outcome.raised.injEq, Exn.http.injEq] at h ⊢
        subst h
        unfold unknownModelError getModelUpstreams at hknown
        split at hknown
        · cases hknown
        · rename_i routing hget
          split at hget
          · rename_i hunserved
            cases hget
            cases hknown
            refine .unknownModel (hreceived _ _) hreads ?_
            rw [hpools] at hunserved
            unfold getModelUpstreams
            rw [hunserved]
          · cases hget
      | none =>
        have hrecognized (effects : List Effect) (point : Point) : Recognized P config
            (task.continue (.body content) effects point) content fields modelName :=
          ⟨hreceived effects point, hreads,
            (RequestEmissions.known_kept hpools modelName).symm.trans hknown⟩
        simp only [hknown] at h ⊢
        unfold admitRequest at h ⊢
        simp only at h ⊢
        split at h
        · rename_i rejection hshape
          cases h
          exact .misshapen (hrecognized _ _) hshape
        · rename_i payload hshape
          simp only [hshape] at h ⊢
          split at h
          · rename_i rejection hacquire
            cases h
            obtain ⟨detail, retryAfter, hpositive, herror⟩ := acquire_error hacquire
            refine .refused (hrecognized _ _) hshape ?_ hpositive herror
            simp [Task.continue, hacquire]
          · rename_i lease hacquire
            simp only [hacquire] at h ⊢
            have hstarted : ∀ started, started = (if streamRequested payload
                  then startStreaming task.request g modelName payload lease
                  else startPosting task.request g modelName payload lease) →
                started = startStreaming task.request g modelName payload lease ∨
                  started = startPosting task.request g modelName payload lease := by
              rintro started rfl
              split
              · exact .inl rfl
              · exact .inr rfl
            obtain ⟨hcalls, rfl⟩ := started_error (hstarted _ rfl) hknown h
            refine .unavailable (hrecognized _ _) hshape (?_ : [_, _, Effect.release lease] <:+ _)
            simp only [Task.continue, hcalls]
            exact ⟨task.trace ++ [.requestMetrics (.model modelName),
              .checkRequestShape task.request.department modelName task.request.endpoint
                content.length fields (.ok payload)], by simp⟩

def quiet (effect : Effect) : Bool := !contacts effect && !isReply effect

structure Tracked (P : Platform) (config : AppConfig) (task : Task) : Prop where
  fresh : task.point = .awaitBody →
    Entered config task.request ∧ task.steps = [] ∧ task.trace.all quiet = true
  flying : (flightOf? task.point).isSome = true →
    (∃ effect ∈ task.trace, contacts effect = true) ∧
      ∀ effect ∈ task.trace, isReply effect = false
  ended : ∀ error, task.point = .finished (.raised (.http error)) →
    task.trace.all quiet = true ∧ TurnedAway P config task error ∨ Unreached task error

/-- No await of the request has raised an `HTTPException`. -/
def NoAwaitRaisedHttp (task : Task) : Prop :=
  ∀ taken ∈ task.steps, ∀ error, taken.2 ≠ .raised (.http error)

section
variable {request : ProxyRequest} {g : Gateway} {now : ℚ}

theorem ended_quiet {input : Input} {effects : List Effect} {outcome : Outcome}
    (h : Segment P config request g now .awaitBody input effects (.finished outcome)) :
    effects.all quiet = true := by
  generalize hpoint : Point.finished outcome = point at h
  cases h with
  | rejected | misshapen | refused | unroutable => rfl
  | started _ _ _ _ hstarted => rcases hstarted with rfl | rfl <;> cases hpoint
  | retried _ _ _ hturn => rcases hturn with ⟨hturn, _⟩ | ⟨hturn, _⟩ <;> cases hturn
  | exhausted _ _ hflight | failed _ hflight => rcases hflight with hflight | hflight <;> cases hflight
  | broken _ hflight =>
    rcases hflight with ⟨hflight, _⟩ | hflight <;> cases hflight

/-- A segment into an attempt contacts somebody and has seen no answer. -/
theorem flying_segment {point point' : Point} {input : Input} {effects : List Effect}
    (h : Segment P config request g now point input effects point')
    (hflying : (flightOf? point').isSome = true) :
    (point = .awaitBody ∨ (flightOf? point).isSome = true) ∧
      (∃ effect ∈ effects, contacts effect = true) ∧ ∀ effect ∈ effects, isReply effect = false := by
  have hcontact (excluded : List String) (flight : Flight) :
      ∃ effect ∈ selectAndContact request excluded flight, contacts effect = true :=
    RejectedRequests.selectAndContact_contacts request excluded flight
  cases h with
  | rejected | misshapen | refused | unroutable => cases hflying
  | exhausted | failed | broken | cancelled => cases hflying
  | opened | unbuildable | answered | streamed => cases hflying
  | started =>
    obtain ⟨effect, hmem, hyes⟩ := hcontact [] _
    refine ⟨.inl rfl, ⟨effect, List.mem_append_right _ hmem, hyes⟩, ?_⟩
    simp [admission, selectAndContact, contactUpstream, isReply]
  | retried _ _ _ hpoint =>
    obtain ⟨effect, hmem, hyes⟩ := hcontact _ _
    refine ⟨.inr ?_, ⟨effect, List.mem_append_right _ hmem, hyes⟩, ?_⟩
    · rcases hpoint with ⟨rfl, _⟩ | ⟨rfl, _⟩ <;> rfl
    · simp [endAttempt, selectAndContact, contactUpstream, isReply]

/-- An error after a contact is that of the attempt that has failed last. -/
theorem unreached_segment {point : Point} {input : Input} {effects : List Effect}
    {error : HttpException} (h : Segment P config request g now point input effects
      (.finished (.raised (.http error)))) (hbody : point ≠ .awaitBody)
    (hawaits : input ≠ .raised (.http error)) :
    (flightOf? point).isSome = true ∧ (∀ effect ∈ effects, isReply effect = false) ∧
      ∃ e, input = .raised (.httpx e) ∧
        error = if e.isTimeout then ⟨504, "upstream request timed out", none⟩
          else ⟨502, "upstream request failed", none⟩ := by
  generalize hpoint : Point.finished (.raised (.http error)) = point' at h
  cases h with
  | rejected | misshapen | refused | unroutable => exact absurd rfl hbody
  | started _ _ _ _ hstarted => exact absurd rfl hbody
  | retried _ _ _ hturn => rcases hturn with ⟨_, rfl⟩ | ⟨_, rfl⟩ <;> cases hpoint
  | exhausted _ _ hflight | failed _ hflight =>
    cases hpoint
    refine ⟨by rcases hflight with rfl | rfl <;> rfl, ?_, _, rfl, rfl⟩
    simp [endAttempt, raiseUpstreamTransportError, isReply]
  | broken _ hflight =>
    cases hpoint
    exact absurd rfl hawaits
  | cancelled =>
    cases hpoint
    exact absurd rfl hawaits
  | opened => cases hpoint
  | unbuildable => cases hpoint
  | @answered flight statusCode headers content =>
    obtain ⟨mediaType, houtcome⟩ | ⟨e, houtcome, hother⟩ := handleResponse_outcome P request
      flight.modelName statusCode headers content
    · rw [houtcome] at hpoint
      cases hpoint
    · rw [houtcome] at hpoint
      cases hpoint
      exact absurd rfl (hother error)
  | streamed => cases hpoint

end

theorem start_tracked (request : ProxyRequest) : Tracked P config (.start config request) := by
  have hquiet : (Task.start config request).trace.all quiet = true := by
    rw [Task.start, startRequest_effects]
    rfl
  have hpoint : (Task.start config request).point = (startRequest config request).2 := rfl
  refine ⟨fun hbody => ⟨startRequest_entered hbody, rfl, hquiet⟩, fun hflying => ?_,
    fun error herror => .inl ⟨hquiet, ?_⟩⟩
  · rw [hpoint] at hflying
    unfold startRequest at hflying
    split at hflying
    · cases hflying
    · split at hflying <;> cases hflying
  · rw [hpoint] at herror
    unfold startRequest at herror
    split at herror
    · rename_i policyError hpolicy
      cases herror
      unfold enforceSourceResolutionPolicy at hpolicy
      split at hpolicy
      · cases hpolicy
      · rename_i hrejects
        split at hpolicy
        · cases hpolicy
        · rename_i hunknown
          cases hpolicy
          have hsource : request.sourceResolution.resolutionSource = .unknown := by
            simpa using hunknown
          exact .policy rfl (by simpa using hrejects) hsource
    · rename_i hpolicy
      split at herror
      · rename_i hlong
        cases herror
        exact .contentLength rfl hpolicy hlong
      · cases herror

theorem Tracked.advance {task : Task} (h : Tracked P config task) {g : Gateway}
    (hpools : PoolsKept config g) {now : ℚ} {input : Input} {effects : List Effect} {point : Point}
    (hawaits : ∀ error, input ≠ .raised (.http error))
    (hadvance : advance P config task.request g now task.point input = some (effects, point)) :
    Tracked P config (task.continue input effects point) := by
  have hsegment := advance_segment hadvance
  refine ⟨fun hbody => ?_, fun hflying => ?_, fun error herror => ?_⟩
  · exact absurd hbody (segment_leaves_body hsegment)
  · obtain ⟨hfrom, ⟨effect, hmem, hyes⟩, hsilent⟩ := flying_segment hsegment hflying
    refine ⟨⟨effect, List.mem_append_right _ hmem, hyes⟩, fun effect hmem => ?_⟩
    rcases List.mem_append.mp hmem with hold | hnew
    · rcases hfrom with hbody | hflight
      · have hquiet := List.all_eq_true.mp (h.fresh hbody).2.2 effect hold
        simp only [quiet, Bool.and_eq_true, Bool.not_eq_true'] at hquiet
        exact hquiet.2
      · exact (h.flying hflight).2 effect hold
    · exact hsilent effect hnew
  · obtain rfl : point = .finished (.raised (.http error)) := herror
    by_cases hbody : task.point = .awaitBody
    · obtain ⟨hentered, hsteps, hquiet⟩ := h.fresh hbody
      rw [hbody] at hsegment hadvance
      refine .inl ⟨?_, ?_⟩
      · simp only [Task.continue, List.all_append, hquiet, ended_quiet hsegment, Bool.and_self]
      · cases input with
        | body content =>
          simp only [ProxyEndpoint.advance, afterBody, Option.some.injEq] at hadvance
          have hends : (handleBody P config task.request g now content).2 =
              .finished (.raised (.http error)) := congrArg Prod.snd hadvance
          have hcalls : (handleBody P config task.request g now content).1 = effects :=
            congrArg Prod.fst hadvance
          rw [← hcalls]
          exact handleBody_error hbody hsteps hentered hpools hends
        | raised e =>
          simp only [ProxyEndpoint.advance, afterBody, Option.some.injEq, Prod.mk.injEq,
            Point.finished.injEq, Outcome.raised.injEq] at hadvance
          obtain ⟨_, hraised⟩ := hadvance
          split at hraised
          · rename_i hexception
            cases hraised
            refine .unreadable hentered ?_ hexception
            simp only [Task.continue, hsteps, hbody, List.nil_append]
          · exact absurd (congrArg Input.raised hraised) (hawaits error)
        | opened | response | stream => cases hadvance
    · right
      obtain ⟨hflight, hsilent, e, rfl, herror⟩ :=
        unreached_segment hsegment hbody (hawaits error)
      obtain ⟨⟨effect, hmem, hyes⟩, hpast⟩ := h.flying hflight
      refine ⟨⟨effect, List.mem_append_left _ hmem, hyes⟩, fun effect hmem => ?_,
        task.point, e, by simp [Task.continue], herror⟩
      rcases List.mem_append.mp hmem with hold | hnew
      · exact hpast effect hold
      · exact hsilent effect hnew

theorem requests_tracked {s : System} (h : Reachable (step P config) (initial config) s) :
    ∀ task ∈ s.tasks, NoAwaitRaisedHttp task → Tracked P config task := by
  obtain ⟨vs, run⟩ := h
  refine run_task_advance (fun _ _ => True) (fun task => NoAwaitRaisedHttp task → Tracked P config task)
    (fun request _ => start_tracked request) ?_ run fun _ _ => trivial
  intro s i task now input effects point hreach _ _ hinv hadvance hawaits
  have hpast : NoAwaitRaisedHttp task := fun taken hmem => hawaits taken (List.mem_append_left _ hmem)
  have hlast (error : HttpException) : input ≠ .raised (.http error) :=
    hawaits (task.point, input) (List.mem_append_right _ List.mem_cons_self) error
  exact (hinv hpast).advance (pools_kept hreach) hlast hadvance

theorem TurnedAway.status {task : Task} {error : HttpException}
    (h : TurnedAway P config task error) :
    error.statusCode ∈ [400, 401, 404, 413, 422, 429, 503] ∧
      (error.statusCode = 429 ↔ ∃ retryAfter, error.retryAfter = some retryAfter) ∧
      ∀ retryAfter, error.retryAfter = some retryAfter → 1 ≤ retryAfter := by
  cases h with
  | misshapen _ hshape =>
    obtain ⟨hstatus, hnone⟩ := checkRequestShape_error hshape
    rw [hnone]
    rcases hstatus with hstatus | hstatus <;> simp [hstatus]
  | refused _ _ _ hpositive herror =>
    simp [herror, tooManyRequests, hpositive]
  | _ => simp [requestBodyTooLargeError]

theorem Unreached.status {task : Task} {error : HttpException} (h : Unreached task error) :
    error.statusCode ∈ [502, 504] ∧ error.retryAfter = none := by
  obtain ⟨_, e, _, rfl⟩ := h.last
  split <;> simp

/-- In every run, an error that the gateway makes up for a client before it has contacted
an upstream is the one of the first check that the request failed; one that it makes up
afterwards says that the last attempt failed in transport, and no attempt was answered.
The status tells the two apart, and whoever is told to come back is told when. -/
theorem errors_explained {s : System} (h : Reachable (step P config) (initial config) s)
    {task : Task} (htask : task ∈ s.tasks) (hawaits : NoAwaitRaisedHttp task)
    {error : HttpException} (herror : task.point = .finished (.raised (.http error))) :
    (Uncontacted task ∧ TurnedAway P config task error ∧
        error.statusCode ∈ [400, 401, 404, 413, 422, 429, 503] ∨
      Unreached task error ∧ error.statusCode ∈ [502, 504]) ∧
    (error.statusCode = 429 ↔ ∃ retryAfter, error.retryAfter = some retryAfter) ∧
    ∀ retryAfter, error.retryAfter = some retryAfter → 1 ≤ retryAfter := by
  rcases (requests_tracked h task htask hawaits).ended error herror with ⟨hquiet, haway⟩ | hfailed
  · obtain ⟨hstatus, hretry⟩ := haway.status
    refine ⟨.inl ⟨fun effect hmem => ?_, haway, hstatus⟩, hretry⟩
    have hno := List.all_eq_true.mp hquiet effect hmem
    simp only [quiet, Bool.and_eq_true, Bool.not_eq_true'] at hno
    exact hno.1
  · obtain ⟨hstatus, hnone⟩ := hfailed.status
    refine ⟨.inr ⟨hfailed, hstatus⟩, ?_, fun retryAfter hsome => ?_⟩
    · rw [hnone]
      refine iff_of_false (fun heq => ?_) (by simp)
      rw [heq] at hstatus
      simp at hstatus
    · cases hnone.symm.trans hsome

end

/-! The first upstream refuses the connection, and the second one times out. -/

def timedOut : List Event :=
  [.arrive smallRequest 0, .resume 0 (.body postBody) 1,
    .resume 0 (.raised (.httpx .connectError)) 2, .resume 0 (.raised (.httpx .timeout)) 3]

theorem timedOut_runs : (smallRun timedOut).isSome = true := by decide +kernel

def error? : Point → Option HttpException
  | .finished (.raised (.http error)) => some error
  | _ => none

theorem timedOut_ended :
    ((smallRun timedOut).get timedOut_runs).tasks.map
      (fun task => (error? task.point, task.steps.map Prod.snd)) =
      [(some ⟨504, "upstream request timed out", none⟩,
        [.body postBody, .raised (.httpx .connectError), .raised (.httpx .timeout)])] := by
  decide +kernel

theorem errors_explained_timedOut :
    ∃ task ∈ ((smallRun timedOut).get timedOut_runs).tasks,
      Unreached task ⟨504, "upstream request timed out", none⟩ := by
  obtain ⟨task, htasks, hends⟩ := List.map_eq_singleton_iff.mp timedOut_ended
  have htask : task ∈ ((smallRun timedOut).get timedOut_runs).tasks :=
    htasks ▸ List.mem_singleton_self task
  obtain ⟨herror, hinputs⟩ := Prod.mk.inj hends
  have hfinished : task.point =
      .finished (.raised (.http ⟨504, "upstream request timed out", none⟩)) := by
    unfold error? at herror
    split at herror
    · rename_i error hpoint
      cases herror
      exact hpoint
    · cases herror
  have hawaits : NoAwaitRaisedHttp task := by
    intro taken hmem error heq
    have hinput : Input.raised (.http error) ∈ task.steps.map Prod.snd :=
      heq ▸ List.mem_map_of_mem hmem
    rw [hinputs] at hinput
    simp at hinput
  obtain ⟨⟨_, _, hstatus⟩ | ⟨hunreached, _⟩, _⟩ :=
    errors_explained (exec_get_reachable timedOut_runs) htask hawaits hfinished
  · simp at hstatus
  · exact ⟨task, htask, hunreached⟩

end VllmSourceGateway.ErrorResponses
