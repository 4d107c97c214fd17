import VllmSourceGateway.StreamBytes
import VllmSourceGateway.UpstreamHeaders

set_option autoImplicit false

/-! `proxy_json_endpoint` as a step function. The handler is suspended where it
awaits the request body or an upstream, or where the streaming response it
returned is being iterated; an input takes it to its next suspension. -/
namespace VllmSourceGateway.ProxyEndpoint
open PyText PyValues UsageExtractors Metrics Config AdmissionControl Routing GatewayEffects
open StreamBytes UpstreamHeaders

structure SourceResolutionResult where
  department : String
  apiKey : Option String
  resolutionSource : ResolutionSource
  deriving DecidableEq

/-- `headers` are the items of Starlette's `Headers`, with lower-case names. -/
structure ProxyRequest where
  headers : List (String × String)
  sourceResolution : SourceResolutionResult
  endpoint : Endpoint
  deriving DecidableEq

def ProxyRequest.department (request : ProxyRequest) : String := request.sourceResolution.department

structure GatewayResponse where
  statusCode : ℕ
  content : List UInt8
  mediaType : Option String
  deriving DecidableEq

inductive Outcome where
  | responded (response : GatewayResponse)
  | raised (e : Exn)
  deriving DecidableEq

/-- The local variables of a failover loop at its await. -/
structure Flight where
  modelName : String
  payload : JsonObject
  lease : Option AdmissionLease
  upstream : UpstreamTarget
  attemptedUpstreamNames : List String

inductive Point where
  | awaitBody
  | awaitSend (flight : Flight)
  | awaitPost (flight : Flight)
  | streaming (ctx : StreamContext) (point : StreamPoint)
  | finished (outcome : Outcome)

/-- `opened` is the answer to a streaming `send`, `response` to a `post`, whose
body has been read; their headers are the items of httpx's `Headers`. -/
inductive Input where
  | body (content : List UInt8)
  | opened (statusCode : ℕ) (headers : List (String × String))
  | response (statusCode : ℕ) (headers : List (String × String)) (content : List UInt8)
  | raised (e : Exn)
  | stream (input : StreamInput)
  deriving DecidableEq

def requestBodyTooLargeError (maxRequestBodyBytes : ℕ) : HttpException :=
  ⟨413, "request body too large; max_request_body_bytes=" ++ toString maxRequestBodyBytes, none⟩

def contentLengthExceedsLimit (request : ProxyRequest) (maxRequestBodyBytes : ℕ) : Bool :=
  match PyDict.get? request.headers "content-length" with
  | none => false
  | some contentLength =>
    -- Header values are decoded as Latin-1, whose decimal digits are the ASCII ones.
    match int asciiDecimal contentLength.toList with
    | none => false
    | some parsedContentLength => decide ((maxRequestBodyBytes : ℤ) < parsedContentLength)

def enforceSourceResolutionPolicy (config : AppConfig) (resolution : SourceResolutionResult) :
    Option HttpException :=
  if !config.security.rejectUnknownApiKeys then none
  else if resolution.resolutionSource ≠ .unknown then none
  else
    some ⟨401, if resolution.apiKey.isNone then "missing api key" else "unknown api key", none⟩

/-- `_read_json_request_body` after its await. -/
def readJsonRequestBody (P : Platform) (config : AppConfig) (requestBody : List UInt8) :
    Except Exn Json :=
  if config.server.maxRequestBodyBytes < requestBody.length then
    .error (.http (requestBodyTooLargeError config.server.maxRequestBodyBytes))
  else
    match P.loadsBytes requestBody with
    | .ok payload => .ok payload
    | .error e =>
      if e.isValueError then .error (.http ⟨400, "invalid json body", none⟩) else .error e.exn

def parseJsonPayload (payload : Json) : Except HttpException (JsonObject × String) :=
  match payload with
  | .obj fields =>
    match PyDict.get? fields "model" with
    | some (.str modelName) =>
      if strip modelName.toList = [] then .error ⟨422, "missing model", none⟩
      else .ok (fields, modelName)
    | _ => .error ⟨422, "missing model", none⟩
  | _ => .error ⟨400, "request body must be a json object", none⟩

/-- `_ensure_known_model`: what it raises, if anything. -/
def unknownModelError (registry : RoutingRegistry) (modelName : String) : Option HttpException :=
  match getModelUpstreams registry modelName with
  | .ok _ => none
  | .error e => some ⟨404, e.text, none⟩

/-- The handler up to its first await. -/
def startRequest (config : AppConfig) (request : ProxyRequest) : List Effect × Point :=
  let effects : List Effect :=
    [.requestMetrics (.context request.department request.endpoint),
      .metric (.sourceResolution request.department request.sourceResolution.resolutionSource)]
  match enforceSourceResolutionPolicy config request.sourceResolution with
  | some error => (effects, .finished (.raised (.http error)))
  | none =>
    if contentLengthExceedsLimit request config.server.maxRequestBodyBytes then
      (effects, .finished (.raised (.http
        (requestBodyTooLargeError config.server.maxRequestBodyBytes))))
    else (effects, .awaitBody)

def routingErrorStatus : RoutingError → ℕ
  | .unknownModel _ => 404
  | _ => 503

def selectUpstreamFor (g : Gateway) (modelName : String) (excludedUpstreamNames : List String) :
    List Effect × Except HttpException UpstreamTarget :=
  let result := (selectUpstream g.registry modelName excludedUpstreamNames).1
  match result with
  | .error e =>
    ([.selectUpstream modelName excludedUpstreamNames result],
      .error ⟨routingErrorStatus e, e.text, none⟩)
  | .ok upstream =>
    ([.selectUpstream modelName excludedUpstreamNames result,
        .metric (.upstreamSelection modelName upstream.name)],
      .ok upstream)

def contactUpstream (request : ProxyRequest) (flight : Flight) : Effect :=
  .contact request.department flight.modelName flight.upstream
    ⟨flight.upstream.name, flight.upstream.baseUrl ++ request.endpoint.upstreamPath,
      buildUpstreamHeaders request.headers flight.upstream.authorizationToken, flight.payload⟩

def isConnectStageRetryableError : HttpxError → Bool
  | .connectError | .connectTimeout => true
  | _ => false

def raiseUpstreamTransportError (request : ProxyRequest) (modelName : String) (e : HttpxError) :
    List Effect × Exn :=
  ([.recordRetryEvent request.department modelName,
      .metric (.tokenAccounting request.endpoint .missingUsage)],
    .http (if e.isTimeout then ⟨504, "upstream request timed out", none⟩
      else ⟨502, "upstream request failed", none⟩))

def noteUpstreamStatus (request : ProxyRequest) (modelName : String) (statusCode : ℕ) :
    List Effect :=
  (if 400 ≤ statusCode then [.requestMetrics (.failureOrigin .upstream)] else []) ++
    (if 500 ≤ statusCode then [.recordRetryEvent request.department modelName] else [])

/-- A failed or read exchange: how the attempt ended, and that it is closed. -/
def endAttempt (request : ProxyRequest) (modelName : String) (outcome : Except Exn ℕ) :
    List Effect :=
  [.attemptEnded request.department modelName outcome,
    .exchangeClosed request.department modelName]

section
variable (P : Platform) (config : AppConfig) (request : ProxyRequest) (g : Gateway) (now : ℚ)

def startStreaming (modelName : String) (payload : JsonObject) (lease : Option AdmissionLease) :
    List Effect × Point :=
  match selectUpstreamFor g modelName [] with
  | (selecting, .error error) =>
    (selecting ++ [.release lease], .finished (.raised (.http error)))
  | (selecting, .ok upstream) =>
    let flight : Flight := ⟨modelName, payload, lease, upstream, [upstream.name]⟩
    (selecting ++ [contactUpstream request flight], .awaitSend flight)

/-- After `send`: the loop of `_proxy_streaming_response` inside the handler's
`except Exception`. An exception of `build_request` is one of `send`. -/
def afterSend (flight : Flight) : Input → Option (List Effect × Point)
  | .opened statusCode headers =>
    let noted := .attemptEnded request.department flight.modelName (.ok statusCode) ::
      noteUpstreamStatus request flight.modelName statusCode
    if P.streamingResponseInit statusCode (buildDownstreamHeaders headers) then
      some (noted, .streaming ⟨request.department, flight.modelName, request.endpoint,
        flight.lease, statusCode, P.counterAccepts⟩ .created)
    else some (noted ++ [.release flight.lease], .finished (.raised .value))
  | .raised (.httpx e) =>
    let ended := endAttempt request flight.modelName (.error (.httpx e))
    let (failing, error) := raiseUpstreamTransportError request flight.modelName e
    if isConnectStageRetryableError e then
      match selectUpstreamFor g flight.modelName flight.attemptedUpstreamNames with
      | (selecting, .error _) =>
        some (ended ++ selecting ++ failing ++ [.release flight.lease], .finished (.raised error))
      | (selecting, .ok upstream) =>
        let flight := { flight with
          upstream := upstream
          attemptedUpstreamNames := flight.attemptedUpstreamNames ++ [upstream.name] }
        some (ended ++ selecting ++ [contactUpstream request flight], .awaitSend flight)
    else some (ended ++ failing ++ [.release flight.lease], .finished (.raised error))
  | .raised e =>
    let released := if e.isException then [.release flight.lease] else []
    some (endAttempt request flight.modelName (.error e) ++ released, .finished (.raised e))
  | _ => none

def startPosting (modelName : String) (payload : JsonObject) (lease : Option AdmissionLease) :
    List Effect × Point :=
  match selectUpstreamFor g modelName [] with
  | (selecting, .error error) =>
    (selecting ++ [.release lease], .finished (.raised (.http error)))
  | (selecting, .ok upstream) =>
    let flight : Flight := ⟨modelName, payload, lease, upstream, [upstream.name]⟩
    (selecting ++ [contactUpstream request flight], .awaitPost flight)

def makeResponse (statusCode : ℕ) (content : List UInt8) (mediaType : Option String) : Outcome :=
  if P.responseInit statusCode mediaType then .responded ⟨statusCode, content, mediaType⟩
  else .raised .value

/-- From `upstream_response.json()` to the `return`. -/
def handleResponse (modelName : String) (statusCode : ℕ) (headers : List (String × String))
    (content : List UInt8) : List Effect × Outcome :=
  let contentType := PyDict.get? headers "content-type"
  match P.loadsBytes content with
  | .error e =>
    if e.isValueError then
      (recordTokenAccounting request.department modelName request.endpoint .parseError,
        makeResponse P statusCode content contentType)
    else ([], .raised e.exn)
  | .ok responsePayload =>
    match request.endpoint.extractUsage responsePayload with
    | .error e => ([], .raised e)
    | .ok usage =>
      let (recording, raised) := accountUsage P.counterAccepts request.department modelName
        request.endpoint statusCode usage
      (recording,
        match raised with
        | none => makeResponse P statusCode content (some (contentType.getD "application/json"))
        | some e => .raised e)

/-- After `post`: the handler's own loop, inside its `try … finally: release`. -/
def afterPost (flight : Flight) : Input → Option (List Effect × Point)
  | .response statusCode headers content =>
    let noted := endAttempt request flight.modelName (.ok statusCode) ++
      [.metric (.upstreamRequestDuration flight.modelName flight.upstream.name request.endpoint)] ++
      noteUpstreamStatus request flight.modelName statusCode
    let (handling, outcome) :=
      handleResponse P request flight.modelName statusCode headers content
    some (noted ++ handling ++ [.release flight.lease], .finished outcome)
  | .raised (.httpx e) =>
    let ended := endAttempt request flight.modelName (.error (.httpx e))
    let (failing, error) := raiseUpstreamTransportError request flight.modelName e
    if isConnectStageRetryableError e then
      match selectUpstreamFor g flight.modelName flight.attemptedUpstreamNames with
      | (selecting, .error _) =>
        some (ended ++ selecting ++ failing ++ [.release flight.lease], .finished (.raised error))
      | (selecting, .ok upstream) =>
        let flight := { flight with
          upstream := upstream
          attemptedUpstreamNames := flight.attemptedUpstreamNames ++ [upstream.name] }
        some (ended ++ selecting ++ [contactUpstream request flight], .awaitPost flight)
    else some (ended ++ failing ++ [.release flight.lease], .finished (.raised error))
  | .raised e =>
    some (endAttempt request flight.modelName (.error e) ++ [.release flight.lease],
      .finished (.raised e))
  | _ => none

def streamRequested (payload : JsonObject) : Bool :=
  match PyDict.get? payload "stream" with
  | some (.bool true) => true
  | _ => false

def admitRequest (modelName : String) (bodySize : ℕ) (payload : JsonObject) :
    List Effect × Point :=
  let shape := (checkRequestShape config.admissionControl request.department modelName
    request.endpoint bodySize payload).1
  let checked : List Effect := [.requestMetrics (.model modelName),
    .checkRequestShape request.department modelName request.endpoint bodySize payload shape]
  match shape with
  | .error rejection => (checked, .finished (.raised (.http rejection.error)))
  | .ok payload =>
    let admission := (acquire config.admissionControl now request.department modelName
      request.endpoint g.admission).1
    let acquired := checked ++ [.acquire request.department modelName request.endpoint admission]
    match admission with
    | .error rejection => (acquired, .finished (.raised (.http rejection.error)))
    | .ok lease =>
      let (starting, point) :=
        if streamRequested payload then startStreaming request g modelName payload lease
        else startPosting request g modelName payload lease
      (acquired ++ starting, point)

def handleBody (requestBody : List UInt8) : List Effect × Point :=
  match readJsonRequestBody P config requestBody with
  | .error e => ([], .finished (.raised e))
  | .ok json =>
    match parseJsonPayload json with
    | .error error => ([], .finished (.raised (.http error)))
    | .ok (payload, modelName) =>
      match unknownModelError g.registry modelName with
      | some error => ([], .finished (.raised (.http error)))
      | none => admitRequest config request g now modelName requestBody.length payload

def afterBody : Input → Option (List Effect × Point)
  | .body requestBody => some (handleBody P config request g now requestBody)
  | .raised e =>
    some ([], .finished (.raised
      (if e.isException then .http ⟨400, "invalid request body", none⟩ else e)))
  | _ => none

/-- One resumption of the request; none where it does not wait for the input. -/
def advance : Point → Input → Option (List Effect × Point)
  | .awaitBody, input => afterBody P config request g now input
  | .awaitSend flight, input => afterSend P request g flight input
  | .awaitPost flight, input => afterPost P request g flight input
  | .streaming ctx point, .stream input =>
    match resume P.loads ctx.endpoint.extractUsage config.server.maxSseDecodeBufferBytes ctx
        point input with
    | none => none
    | some (effects, point) => some (effects, .streaming ctx point)
  | _, _ => none

end

end VllmSourceGateway.ProxyEndpoint
