import VllmSourceGateway.ProxyEndpoint

set_option autoImplicit false

/-! Everything a request can do in one resumption, said once: each constructor
of `Segment` is one way through the handler code between two awaits, with the
calls made on the way and what is known about their results. -/
namespace VllmSourceGateway.RequestSegments
open PyText PyValues UsageExtractors Metrics Config AdmissionControl Routing GatewayEffects
open StreamBytes UpstreamHeaders ProxyEndpoint

def gatewayError (e : Exn) : Prop :=
  ∃ error, e = .http error ∧ (error.statusCode = 502 ∨ error.statusCode = 504)

def selectAndContact (request : ProxyRequest) (excluded : List String) (flight : Flight) :
    List Effect :=
  [.selectUpstream flight.modelName excluded (.ok flight.upstream),
    .metric (.upstreamSelection flight.modelName flight.upstream.name),
    contactUpstream request flight]

section
variable (P : Platform) (config : AppConfig) (request : ProxyRequest) (g : Gateway) (now : ℚ)

def admission (modelName : String) (bodySize : ℕ) (payload shaped : JsonObject)
    (result : Except Rejection (Option AdmissionLease)) : List Effect :=
  [.requestMetrics (.model modelName),
    .checkRequestShape request.department modelName request.endpoint bodySize payload (.ok shaped),
    .acquire request.department modelName request.endpoint result]

inductive Segment : Point → Input → List Effect → Point → Prop where
  | rejected {input : Input} {e : Exn} (herror : ¬ gatewayError e) :
      Segment .awaitBody input [] (.finished (.raised e))
  | misshapen {input : Input} {modelName : String} {bodySize : ℕ} {payload : JsonObject}
      {rejection : Rejection}
      (hshape : (checkRequestShape config.admissionControl request.department modelName
        request.endpoint bodySize payload).1 = .error rejection)
      (herror : ¬ gatewayError (.http rejection.error))
      (hknown : unknownModelError g.registry modelName = none) :
      Segment .awaitBody input
        [.requestMetrics (.model modelName), .checkRequestShape request.department modelName
          request.endpoint bodySize payload (.error rejection)]
        (.finished (.raised (.http rejection.error)))
  | refused {input : Input} {modelName : String} {bodySize : ℕ} {payload shaped : JsonObject}
      {rejection : Rejection}
      (hshape : (checkRequestShape config.admissionControl request.department modelName
        request.endpoint bodySize payload).1 = .ok shaped)
      (hacquire : (acquire config.admissionControl now request.department modelName
        request.endpoint g.admission).1 = .error rejection)
      (herror : ¬ gatewayError (.http rejection.error))
      (hknown : unknownModelError g.registry modelName = none) :
      Segment .awaitBody input
        (admission request modelName bodySize payload shaped (.error rejection))
        (.finished (.raised (.http rejection.error)))
  | unroutable {input : Input} {modelName : String} {bodySize : ℕ} {payload shaped : JsonObject}
      {lease : Option AdmissionLease} {error : RoutingError} {e : Exn}
      (hshape : (checkRequestShape config.admissionControl request.department modelName
        request.endpoint bodySize payload).1 = .ok shaped)
      (hacquire : (acquire config.admissionControl now request.department modelName
        request.endpoint g.admission).1 = .ok lease)
      (hselect : (selectUpstream g.registry modelName []).1 = .error error)
      (herror : ¬ gatewayError e) (hknown : unknownModelError g.registry modelName = none) :
      Segment .awaitBody input
        (admission request modelName bodySize payload shaped (.ok lease) ++
          [.selectUpstream modelName [] (.error error), .release lease])
        (.finished (.raised e))
  | started {input : Input} {bodySize : ℕ} {payload : JsonObject} {flight : Flight} {point : Point}
      (hshape : (checkRequestShape config.admissionControl request.department flight.modelName
        request.endpoint bodySize payload).1 = .ok flight.payload)
      (hacquire : (acquire config.admissionControl now request.department flight.modelName
        request.endpoint g.admission).1 = .ok flight.lease)
      (hselect : (selectUpstream g.registry flight.modelName []).1 = .ok flight.upstream)
      (hattempted : flight.attemptedUpstreamNames = [flight.upstream.name])
      (hpoint : point = .awaitSend flight ∨ point = .awaitPost flight)
      (hknown : unknownModelError g.registry flight.modelName = none) :
      Segment .awaitBody input
        (admission request flight.modelName bodySize payload flight.payload (.ok flight.lease) ++
          selectAndContact request [] flight)
        point
  | retried {point point' : Point} {flight flight' : Flight} {e : HttpxError}
      (hconnect : isConnectStageRetryableError e = true)
      (hselect : (selectUpstream g.registry flight.modelName flight.attemptedUpstreamNames).1 =
        .ok flight'.upstream)
      (hflight : flight' = { flight with
        upstream := flight'.upstream
        attemptedUpstreamNames := flight.attemptedUpstreamNames ++ [flight'.upstream.name] })
      (hpoint : point = .awaitSend flight ∧ point' = .awaitSend flight' ∨
        point = .awaitPost flight ∧ point' = .awaitPost flight') :
      Segment point (.raised (.httpx e))
        (endAttempt request flight.modelName (.error (.httpx e)) ++
          selectAndContact request flight.attemptedUpstreamNames flight')
        point'
  | exhausted {point : Point} {flight : Flight} {e : HttpxError} {error : RoutingError}
      (hconnect : isConnectStageRetryableError e = true)
      (hselect : (selectUpstream g.registry flight.modelName flight.attemptedUpstreamNames).1 =
        .error error)
      (hpoint : point = .awaitSend flight ∨ point = .awaitPost flight) :
      Segment point (.raised (.httpx e))
        (endAttempt request flight.modelName (.error (.httpx e)) ++
          [.selectUpstream flight.modelName flight.attemptedUpstreamNames (.error error)] ++
          (raiseUpstreamTransportError request flight.modelName e).1 ++ [.release flight.lease])
        (.finished (.raised (raiseUpstreamTransportError request flight.modelName e).2))
  | failed {point : Point} {flight : Flight} {e : HttpxError}
      (hconnect : isConnectStageRetryableError e = false)
      (hpoint : point = .awaitSend flight ∨ point = .awaitPost flight) :
      Segment point (.raised (.httpx e))
        (endAttempt request flight.modelName (.error (.httpx e)) ++
          (raiseUpstreamTransportError request flight.modelName e).1 ++ [.release flight.lease])
        (.finished (.raised (raiseUpstreamTransportError request flight.modelName e).2))
  | broken {point : Point} {flight : Flight} {e : Exn} (hhttpx : e.isHttpxError = false)
      (hpoint : point = .awaitSend flight ∧ e.isException = true ∨ point = .awaitPost flight) :
      Segment point (.raised e)
        (endAttempt request flight.modelName (.error e) ++ [.release flight.lease])
        (.finished (.raised e))
  | cancelled {flight : Flight} {e : Exn} (hhttpx : e.isHttpxError = false)
      (hcancelled : e.isException = false) :
      Segment (.awaitSend flight) (.raised e) (endAttempt request flight.modelName (.error e))
        (.finished (.raised e))
  | opened {flight : Flight} {statusCode : ℕ} {headers : List (String × String)}
      (hinit : P.streamingResponseInit statusCode (buildDownstreamHeaders headers) = true) :
      Segment (.awaitSend flight) (.opened statusCode headers)
        (.attemptEnded request.department flight.modelName (.ok statusCode) ::
          noteUpstreamStatus request flight.modelName statusCode)
        (.streaming ⟨request.department, flight.modelName, request.endpoint, flight.lease,
          statusCode, P.counterAccepts⟩ .created)
  | unbuildable {flight : Flight} {statusCode : ℕ} {headers : List (String × String)}
      (hinit : P.streamingResponseInit statusCode (buildDownstreamHeaders headers) = false) :
      Segment (.awaitSend flight) (.opened statusCode headers)
        (.attemptEnded request.department flight.modelName (.ok statusCode) ::
          noteUpstreamStatus request flight.modelName statusCode ++ [.release flight.lease])
        (.finished (.raised .value))
  | answered {flight : Flight} {statusCode : ℕ} {headers : List (String × String)}
      {content : List UInt8} :
      Segment (.awaitPost flight) (.response statusCode headers content)
        (endAttempt request flight.modelName (.ok statusCode) ++
          [.metric (.upstreamRequestDuration flight.modelName flight.upstream.name
            request.endpoint)] ++
          noteUpstreamStatus request flight.modelName statusCode ++
          (handleResponse P request flight.modelName statusCode headers content).1 ++
          [.release flight.lease])
        (.finished (handleResponse P request flight.modelName statusCode headers content).2)
  | streamed {ctx : StreamContext} {point point' : StreamPoint} {input : StreamInput}
      {effects : List Effect}
      (hresume : resume P.loads ctx.endpoint.extractUsage config.server.maxSseDecodeBufferBytes ctx
        point input = some (effects, point')) :
      Segment (.streaming ctx point) (.stream input) effects (.streaming ctx point')

end

/-! ## Every resumption is one of them -/

theorem rejectShape_status {department modelName : String} {reason : RejectionReason}
    {rejection : Rejection}
    (h : (rejectShape department modelName reason).1 = .error rejection) :
    rejection.error.statusCode = 413 ∨ rejection.error.statusCode = 422 := by
  simp only [rejectShape, Except.error.injEq] at h
  subst h
  cases reason <;> simp [shapeErrorStatus]

theorem checkRequestShape_status {config : AdmissionControlConfig} {department modelName : String}
    {endpoint : Endpoint} {bodySize : ℕ} {payload : JsonObject} {rejection : Rejection}
    (h : (checkRequestShape config department modelName endpoint bodySize payload).1 =
      .error rejection) :
    rejection.error.statusCode = 413 ∨ rejection.error.statusCode = 422 := by
  simp only [checkRequestShape] at h
  repeat' split at h
  all_goals first | exact rejectShape_status h | cases h

theorem acquire_status {config : AdmissionControlConfig} {now : ℚ} {department modelName : String}
    {endpoint : Endpoint} {c : AdmissionController} {rejection : Rejection}
    (h : (acquire config now department modelName endpoint c).1 = .error rejection) :
    rejection.error.statusCode = 429 := by
  obtain ⟨_, heq⟩ | ⟨_, _, _, _, _, _, _, heq⟩ | ⟨_, heq⟩ :=
    acquire_cases config now department modelName endpoint c
  · rw [heq] at h
    cases h
  · rw [heq] at h
    cases h
    rfl
  · rw [heq] at h
    cases h

theorem not_gatewayError {error : HttpException} (h502 : error.statusCode ≠ 502)
    (h504 : error.statusCode ≠ 504) : ¬ gatewayError (.http error) := by
  rintro ⟨other, hother, hstatus⟩
  cases hother
  exact hstatus.elim h502 h504

section
variable {P : Platform} {config : AppConfig} {request : ProxyRequest} {g : Gateway} {now : ℚ}

theorem selectUpstreamFor_cases (g : Gateway) (modelName : String) (excluded : List String) :
    (∃ error, (selectUpstream g.registry modelName excluded).1 = .error error ∧
      selectUpstreamFor g modelName excluded =
        ([.selectUpstream modelName excluded (.error error)],
          .error ⟨routingErrorStatus error, error.text, none⟩)) ∨
    ∃ upstream, (selectUpstream g.registry modelName excluded).1 = .ok upstream ∧
      selectUpstreamFor g modelName excluded =
        ([.selectUpstream modelName excluded (.ok upstream),
          .metric (.upstreamSelection modelName upstream.name)], .ok upstream) := by
  cases hresult : (selectUpstream g.registry modelName excluded).1 with
  | error error => exact .inl ⟨error, rfl, by simp only [selectUpstreamFor, hresult]⟩
  | ok upstream => exact .inr ⟨upstream, rfl, by simp only [selectUpstreamFor, hresult]⟩

/-- A loop goes round again only after a connect-stage error and a selection. -/
theorem transportError_cases (g : Gateway) (flight : Flight) (e : HttpxError) :
    isConnectStageRetryableError e = false ∨
    (∃ error, isConnectStageRetryableError e = true ∧
      (selectUpstream g.registry flight.modelName flight.attemptedUpstreamNames).1 =
        .error error ∧
      selectUpstreamFor g flight.modelName flight.attemptedUpstreamNames =
        ([.selectUpstream flight.modelName flight.attemptedUpstreamNames (.error error)],
          .error ⟨routingErrorStatus error, error.text, none⟩)) ∨
    ∃ upstream, isConnectStageRetryableError e = true ∧
      (selectUpstream g.registry flight.modelName flight.attemptedUpstreamNames).1 =
        .ok upstream ∧
      selectUpstreamFor g flight.modelName flight.attemptedUpstreamNames =
        ([.selectUpstream flight.modelName flight.attemptedUpstreamNames (.ok upstream),
          .metric (.upstreamSelection flight.modelName upstream.name)], .ok upstream) := by
  cases hconnect : isConnectStageRetryableError e with
  | false => exact .inl rfl
  | true =>
    obtain ⟨error, hselect, hfor⟩ | ⟨upstream, hselect, hfor⟩ :=
      selectUpstreamFor_cases g flight.modelName flight.attemptedUpstreamNames
    · exact .inr (.inl ⟨error, rfl, hselect, hfor⟩)
    · exact .inr (.inr ⟨upstream, rfl, hselect, hfor⟩)

theorem routingErrorStatus_not_gateway (error : RoutingError) :
    ¬ gatewayError (.http ⟨routingErrorStatus error, error.text, none⟩) := by
  cases error <;> exact not_gatewayError (by simp [routingErrorStatus]) (by simp [routingErrorStatus])

theorem admitRequest_segment (input : Input) {modelName : String} (bodySize : ℕ)
    (payload : JsonObject) (hknown : unknownModelError g.registry modelName = none) :
    Segment P config request g now .awaitBody input
      (admitRequest config request g now modelName bodySize payload).1
      (admitRequest config request g now modelName bodySize payload).2 := by
  simp only [admitRequest]
  cases hshape : (checkRequestShape config.admissionControl request.department modelName
      request.endpoint bodySize payload).1 with
  | error rejection =>
    have herror : ¬ gatewayError (.http rejection.error) := by
      obtain hstatus | hstatus := checkRequestShape_status hshape <;>
        exact not_gatewayError (by omega) (by omega)
    exact .misshapen hshape herror hknown
  | ok shaped =>
    dsimp only
    cases hacquire : (acquire config.admissionControl now request.department modelName
        request.endpoint g.admission).1 with
    | error rejection =>
      have hstatus := acquire_status hacquire
      exact .refused hshape hacquire (not_gatewayError (by omega) (by omega)) hknown
    | ok lease =>
      dsimp only
      obtain ⟨error, hselect, hfor⟩ | ⟨upstream, hselect, hfor⟩ :=
        selectUpstreamFor_cases g modelName []
      · have hsegment : Segment P config request g now .awaitBody input _ _ :=
          .unroutable hshape hacquire hselect (routingErrorStatus_not_gateway error) hknown
        split
        · simp only [startStreaming, hfor]
          exact hsegment
        · simp only [startPosting, hfor]
          exact hsegment
      · let flight : Flight := ⟨modelName, shaped, lease, upstream, [upstream.name]⟩
        have hsegment {point : Point} (hpoint : point = .awaitSend flight ∨ point = .awaitPost flight) :
            Segment P config request g now .awaitBody input
              (admission request flight.modelName bodySize payload flight.payload
                (.ok flight.lease) ++ selectAndContact request [] flight) point :=
          .started hshape hacquire hselect rfl hpoint hknown
        split
        · simp only [startStreaming, hfor]
          exact hsegment (.inl rfl)
        · simp only [startPosting, hfor]
          exact hsegment (.inr rfl)

theorem readJsonRequestBody_error {requestBody : List UInt8} {e : Exn}
    (h : readJsonRequestBody P config requestBody = .error e) : ¬ gatewayError e := by
  simp only [readJsonRequestBody] at h
  split at h
  · cases h
    exact not_gatewayError (by simp [requestBodyTooLargeError]) (by simp [requestBodyTooLargeError])
  · split at h
    · cases h
    · rename_i loadsError _
      split at h
      · cases h
        exact not_gatewayError (by simp) (by simp)
      · cases h
        rintro ⟨error, herror, _⟩
        cases loadsError <;> cases herror

theorem parseJsonPayload_error {payload : Json} {error : HttpException}
    (h : parseJsonPayload payload = .error error) : ¬ gatewayError (.http error) := by
  simp only [parseJsonPayload] at h
  repeat' split at h
  all_goals cases h
  all_goals exact not_gatewayError (by simp) (by simp)

theorem handleBody_segment (input : Input) (requestBody : List UInt8) :
    Segment P config request g now .awaitBody input
      (handleBody P config request g now requestBody).1
      (handleBody P config request g now requestBody).2 := by
  simp only [handleBody]
  split
  · rename_i hread
    exact .rejected (readJsonRequestBody_error hread)
  · split
    · rename_i hparse
      exact .rejected (parseJsonPayload_error hparse)
    · split
      · rename_i error hunknown
        simp only [unknownModelError] at hunknown
        split at hunknown
        · cases hunknown
        · cases hunknown
          exact .rejected (not_gatewayError (by simp) (by simp))
      · rename_i hknown
        exact admitRequest_segment _ _ _ hknown

theorem afterBody_segment {input : Input} {effects : List Effect} {point : Point}
    (h : afterBody P config request g now input = some (effects, point)) :
    Segment P config request g now .awaitBody input effects point := by
  cases input <;> simp only [afterBody, Option.some.injEq, Prod.mk.injEq, reduceCtorEq] at h
  case body requestBody =>
    have hsegment : Segment P config request g now .awaitBody (.body requestBody)
        (handleBody P config request g now requestBody).1
        (handleBody P config request g now requestBody).2 := handleBody_segment _ requestBody
    rwa [h] at hsegment
  case raised e =>
    obtain ⟨rfl, rfl⟩ := h
    refine .rejected ?_
    split
    · exact not_gatewayError (by simp) (by simp)
    · rintro ⟨error, rfl, _⟩
      simp [Exn.isException] at *

def nextFlight (flight : Flight) (upstream : UpstreamTarget) : Flight :=
  { flight with
    upstream := upstream
    attemptedUpstreamNames := flight.attemptedUpstreamNames ++ [upstream.name] }

theorem retried_segment {point point' : Point} {flight : Flight} {upstream : UpstreamTarget}
    {e : HttpxError} (hconnect : isConnectStageRetryableError e = true)
    (hselect : (selectUpstream g.registry flight.modelName flight.attemptedUpstreamNames).1 =
      .ok upstream)
    (hpoint : point = .awaitSend flight ∧ point' = .awaitSend (nextFlight flight upstream) ∨
      point = .awaitPost flight ∧ point' = .awaitPost (nextFlight flight upstream)) :
    Segment P config request g now point (.raised (.httpx e))
      (endAttempt request flight.modelName (.error (.httpx e)) ++
        selectAndContact request flight.attemptedUpstreamNames (nextFlight flight upstream))
      point' :=
  .retried hconnect hselect rfl hpoint

theorem afterSend_segment {flight : Flight} {input : Input} {effects : List Effect} {point : Point}
    (h : afterSend P request g flight input = some (effects, point)) :
    Segment P config request g now (.awaitSend flight) input effects point := by
  cases input with
  | body | response | stream => cases h
  | opened statusCode headers =>
    simp only [afterSend] at h
    split at h
    · rename_i hinit
      cases h
      exact .opened hinit
    · rename_i hinit
      cases h
      exact .unbuildable (by simpa using hinit)
  | raised e =>
    by_cases hhttpx : e.isHttpxError = true
    · obtain ⟨e, rfl⟩ : ∃ x, e = .httpx x := by cases e <;> simp_all [Exn.isHttpxError]
      simp only [afterSend] at h
      obtain hconnect | ⟨error, hconnect, hselect, hfor⟩ | ⟨upstream, hconnect, hselect, hfor⟩ :=
        transportError_cases g flight e
      · simp only [hconnect, Bool.false_eq_true, if_false] at h
        cases h
        exact .failed hconnect (.inl rfl)
      · simp only [hconnect, if_true, hfor] at h
        cases h
        exact .exhausted hconnect hselect (.inl rfl)
      · simp only [hconnect, if_true, hfor] at h
        cases h
        exact retried_segment hconnect hselect (.inl ⟨rfl, rfl⟩)
    · have hother : effects = endAttempt request flight.modelName (.error e) ++
          (if e.isException then [.release flight.lease] else []) ∧
          point = .finished (.raised e) := by
        cases e <;> first | exact absurd rfl hhttpx | (cases h; exact ⟨rfl, rfl⟩)
      obtain ⟨rfl, rfl⟩ := hother
      rw [Bool.not_eq_true] at hhttpx
      by_cases hexception : e.isException = true
      · rw [if_pos hexception]
        exact .broken hhttpx (.inl ⟨rfl, hexception⟩)
      · rw [if_neg hexception, List.append_nil]
        exact .cancelled hhttpx (by simpa using hexception)

theorem afterPost_segment {flight : Flight} {input : Input} {effects : List Effect} {point : Point}
    (h : afterPost P request g flight input = some (effects, point)) :
    Segment P config request g now (.awaitPost flight) input effects point := by
  cases input with
  | body | opened | stream => cases h
  | response statusCode headers content =>
    simp only [afterPost] at h
    cases h
    exact .answered
  | raised e =>
    by_cases hhttpx : e.isHttpxError = true
    · obtain ⟨e, rfl⟩ : ∃ x, e = .httpx x := by cases e <;> simp_all [Exn.isHttpxError]
      simp only [afterPost] at h
      obtain hconnect | ⟨error, hconnect, hselect, hfor⟩ | ⟨upstream, hconnect, hselect, hfor⟩ :=
        transportError_cases g flight e
      · simp only [hconnect, Bool.false_eq_true, if_false] at h
        cases h
        exact .failed hconnect (.inr rfl)
      · simp only [hconnect, if_true, hfor] at h
        cases h
        exact .exhausted hconnect hselect (.inr rfl)
      · simp only [hconnect, if_true, hfor] at h
        cases h
        exact retried_segment hconnect hselect (.inr ⟨rfl, rfl⟩)
    · have hother : effects = endAttempt request flight.modelName (.error e) ++
          [.release flight.lease] ∧ point = .finished (.raised e) := by
        cases e <;> first | exact absurd rfl hhttpx | (cases h; exact ⟨rfl, rfl⟩)
      obtain ⟨rfl, rfl⟩ := hother
      exact .broken (by simpa using hhttpx) (.inr rfl)

theorem advance_segment {point point' : Point} {input : Input} {effects : List Effect}
    (h : advance P config request g now point input = some (effects, point')) :
    Segment P config request g now point input effects point' := by
  cases point with
  | awaitBody => exact afterBody_segment h
  | awaitSend flight => exact afterSend_segment h
  | awaitPost flight => exact afterPost_segment h
  | finished outcome => cases h
  | streaming ctx point =>
    cases input with
    | stream input =>
      simp only [advance] at h
      split at h
      · cases h
      · rename_i hresume
        cases h
        exact .streamed hresume
    | body | opened | response | raised => cases h

/-- The calls a request makes before its first await are always the same. -/
theorem startRequest_effects (config : AppConfig) (request : ProxyRequest) :
    (startRequest config request).1 =
      [.requestMetrics (.context request.department request.endpoint),
        .metric (.sourceResolution request.department request.sourceResolution.resolutionSource)] := by
  simp only [startRequest]
  split
  · rfl
  · split <;> rfl

def plain : Effect → Bool
  | .checkRequestShape _ _ _ _ _ _ | .acquire _ _ _ _ | .selectUpstream _ _ _ => false
  | _ => true

theorem genuine_of_plain {config : AdmissionControlConfig} {effects : List Effect}
    (h : effects.all plain = true) (g : Gateway) : AllGenuine config now g effects := by
  induction effects generalizing g with
  | nil => trivial
  | cons effect effects ih =>
    simp only [List.all_cons, Bool.and_eq_true] at h
    refine ⟨?_, ih h.2 _⟩
    cases effect <;> first | trivial | cases h.1

theorem genuine_append {config : AdmissionControlConfig} {xs ys : List Effect} :
    AllGenuine config now g (xs ++ ys) ↔
      AllGenuine config now g xs ∧ AllGenuine config now (performAll config now g xs) ys := by
  induction xs generalizing g with
  | nil => exact (iff_of_eq (true_and _)).symm
  | cons effect xs ih => exact (and_congr_right fun _ => ih).trans and_assoc.symm

theorem noteUpstreamStatus_plain (modelName : String) (status : ℕ) :
    (noteUpstreamStatus request modelName status).all plain = true := by
  simp only [noteUpstreamStatus]
  split <;> split <;> rfl

/-- Accounting: the metrics but for the in-flight gauge and the selection counter,
the metric fields of the request, and charges. -/
def bookkeeping : Effect → Bool
  | .requestMetrics _ | .recordTokens _ _ _ => true
  | .metric (.inflightInc _ _ _) | .metric (.inflightDec _ _ _)
  | .metric (.upstreamSelection _ _) => false
  | .metric _ => true
  | _ => false

theorem plain_of_bookkeeping {effects : List Effect} (h : effects.all bookkeeping = true) :
    effects.all plain = true := by
  rw [List.all_eq_true] at h ⊢
  intro effect hmem
  have hkept := h effect hmem
  cases effect <;> first | rfl | cases hkept

theorem handleResponse_calls (modelName : String) (status : ℕ)
    (headers : List (String × String)) (content : List UInt8) :
    ∀ effect ∈ (handleResponse P request modelName status headers content).1,
      AccountingCall request.department modelName request.endpoint effect := by
  simp only [handleResponse]
  split
  · split
    · exact recordTokenAccounting_calls .parseError
    · exact List.forall_mem_nil _
  · split
    · exact List.forall_mem_nil _
    · exact (accountUsage_cases _ _ _ _ _ _).calls

theorem bookkeeping_of_calls {department modelName : String} {endpoint : Endpoint}
    {effects : List Effect}
    (h : ∀ effect ∈ effects, AccountingCall department modelName endpoint effect) :
    effects.all bookkeeping = true := by
  refine List.all_eq_true.mpr fun effect hmem => ?_
  cases h effect hmem <;> rfl

theorem handleResponse_bookkeeping (modelName : String) (status : ℕ)
    (headers : List (String × String)) (content : List UInt8) :
    (handleResponse P request modelName status headers content).1.all bookkeeping = true :=
  bookkeeping_of_calls (handleResponse_calls modelName status headers content)

/-- The `finally` block closes the exchange, releases the lease and then only
does accounting. -/
theorem finallyBlock_effects (ctx : StreamContext) (exit : Exit) :
    ∃ accounting, (finallyBlock ctx exit).1 = .exchangeClosed ctx.department ctx.modelName ::
      .release ctx.lease :: accounting ∧ accounting.all bookkeeping = true := by
  simp only [finallyBlock]
  split
  · exact ⟨_, rfl, rfl⟩
  · split
    · exact ⟨_, rfl, rfl⟩
    · split
      · exact ⟨_, rfl, rfl⟩
      · exact ⟨_, rfl, bookkeeping_of_calls (accountUsage_cases _ _ _ _ _ _).calls⟩

theorem finallyBlock_plain (ctx : StreamContext) (exit : Exit) :
    (finallyBlock ctx exit).1.all plain = true := by
  obtain ⟨accounting, heffects, haccounting⟩ := finallyBlock_effects ctx exit
  rw [heffects]
  simpa only [List.all_cons, plain, Bool.true_and] using plain_of_bookkeeping haccounting

/-- The results recorded in a segment are those its calls give, in turn. -/
theorem segment_genuine {point point' : Point} {input : Input} {effects : List Effect}
    (h : Segment P config request g now point input effects point') :
    AllGenuine config.admissionControl now g effects := by
  cases h with
  | rejected => trivial
  | misshapen hshape => exact ⟨trivial, hshape, trivial⟩
  | refused hshape hacquire => exact ⟨trivial, hshape, hacquire, trivial⟩
  | unroutable hshape hacquire hselect =>
    exact ⟨trivial, hshape, hacquire, hselect, trivial, trivial⟩
  | started hshape hacquire hselect =>
    exact ⟨trivial, hshape, hacquire, hselect, trivial, trivial, trivial⟩
  | retried hconnect hselect hflight =>
    rw [hflight]
    exact ⟨trivial, trivial, hselect, trivial, trivial, trivial⟩
  | exhausted hconnect hselect =>
    exact ⟨trivial, trivial, hselect, trivial, trivial, trivial, trivial⟩
  | failed => exact ⟨trivial, trivial, trivial, trivial, trivial, trivial⟩
  | broken => exact ⟨trivial, trivial, trivial, trivial⟩
  | cancelled => exact ⟨trivial, trivial, trivial⟩
  | opened => exact ⟨trivial, genuine_of_plain (noteUpstreamStatus_plain _ _) _⟩
  | unbuildable =>
    refine ⟨trivial, genuine_append.mpr ⟨genuine_of_plain (noteUpstreamStatus_plain _ _) _, ?_⟩⟩
    exact ⟨trivial, trivial⟩
  | answered =>
    refine genuine_of_plain ?_ g
    simp only [List.all_append, noteUpstreamStatus_plain,
      plain_of_bookkeeping (handleResponse_bookkeeping _ _ _ _)]
    rfl
  | streamed hresume =>
    obtain hgoes | ⟨outcome, rfl, hfinishes⟩ := resume_cases _ _ _ _ hresume
    · refine genuine_of_plain ?_ g
      rcases hgoes.effects with heffects | heffects <;> rw [heffects] <;> rfl
    · cases hfinishes with
      | unstarted | closeRaised => trivial
      | completed exit => exact genuine_of_plain (finallyBlock_plain _ exit) g

end

end VllmSourceGateway.RequestSegments
