import VllmSourceGateway.SourceResolution

set_option autoImplicit false

/-! The metrics of whole requests: what the handlers note in `request.state`, and
what the middleware emits from it when a request is over. -/
namespace VllmSourceGateway.RequestMetrics
open UsageExtractors Metrics GatewayEffects

structure RequestState where
  recorded : Bool
  endpoint : Option Endpoint
  department : Option String
  modelName : Option String
  statusCodeOverride : Option ℕ
  failureOrigin : Option FailureOrigin

/-- `initialize_request_metrics_state`. -/
def RequestState.initial : RequestState := ⟨false, none, none, none, none, none⟩

def RequestState.update (state : RequestState) : RequestMetricsUpdate → RequestState
  | .context department endpoint =>
    { state with department := some department, endpoint := some endpoint }
  | .model modelName => { state with modelName := some modelName }
  | .statusOverride statusCode => { state with statusCodeOverride := some statusCode }
  | .failureOrigin origin => { state with failureOrigin := some origin }

def RequestState.observe (state : RequestState) : Effect → RequestState
  | .requestMetrics update => state.update update
  | _ => state

def stateOf (trace : List Effect) : RequestState := trace.foldl RequestState.observe .initial

structure RequestMetricsSnapshot where
  department : Option String
  endpoint : Option Endpoint
  modelName : Option String
  method : String
  statusCode : ℕ
  failureOrigin : Option FailureOrigin

def buildRequestMetricsSnapshot (state : RequestState) (method : String) (defaultStatusCode : ℕ) :
    RequestMetricsSnapshot :=
  let statusCode := state.statusCodeOverride.getD defaultStatusCode
  ⟨state.department, state.endpoint, state.modelName, method, statusCode,
    if state.failureOrigin.isNone && decide (400 ≤ statusCode) then some .gateway
    else state.failureOrigin⟩

inductive StatusClass where
  | success
  | clientError
  | serverError

/-- `_status_class`: whatever is neither 2xx nor 4xx counts as 5xx. -/
def statusClass (statusCode : ℕ) : StatusClass :=
  if 200 ≤ statusCode ∧ statusCode < 300 then .success
  else if 400 ≤ statusCode ∧ statusCode < 500 then .clientError
  else .serverError

inductive RequestMetricEvent where
  | httpRequest (department : String) (endpoint : Endpoint) (method : String)
      (status : StatusClass)
  | requestDuration (department : String) (endpoint : Endpoint) (method : String)
  | modelHttpRequest (department modelName : String) (endpoint : Endpoint) (method : String)
      (status : StatusClass)
  | modelRequestDuration (department modelName : String) (endpoint : Endpoint) (method : String)
  | httpRequestFailure (department : String) (endpoint : Endpoint) (method : String)
      (status : StatusClass) (origin : FailureOrigin)

def observeRequest (department : String) (endpoint : Endpoint) (method : String)
    (statusCode : ℕ) : List RequestMetricEvent :=
  [.httpRequest department endpoint method.toUpper (statusClass statusCode),
    .requestDuration department endpoint method.toUpper]

def observeModelRequest (department modelName : String) (endpoint : Endpoint) (method : String)
    (statusCode : ℕ) : List RequestMetricEvent :=
  [.modelHttpRequest department modelName endpoint method.toUpper (statusClass statusCode),
    .modelRequestDuration department modelName endpoint method.toUpper]

def recordRequestFailure (department : String) (endpoint : Endpoint) (method : String)
    (statusCode : ℕ) (origin : FailureOrigin) : List RequestMetricEvent :=
  if statusCode < 400 then []
  else [.httpRequestFailure department endpoint method.toUpper (statusClass statusCode) origin]

def finalizeRequestMetrics (state : RequestState) (method : String) (defaultStatusCode : ℕ) :
    List RequestMetricEvent × RequestState :=
  if state.recorded then ([], state)
  else
    let snapshot := buildRequestMetricsSnapshot state method defaultStatusCode
    let events :=
      match snapshot.department, snapshot.endpoint with
      | some department, some endpoint =>
        observeRequest department endpoint snapshot.method snapshot.statusCode ++
          (match snapshot.modelName with
          | some modelName =>
            observeModelRequest department modelName endpoint snapshot.method snapshot.statusCode
          | none => []) ++
          match snapshot.failureOrigin with
          | some origin =>
            recordRequestFailure department endpoint snapshot.method snapshot.statusCode origin
          | none => []
      | _, _ => []
    (events, { state with recorded := true })

def sourceText : ResolutionSource → String
  | .apiKey => "api_key"
  | .unknown => "unknown"

def statusText : AccountingStatus → String
  | .recorded => "recorded"
  | .missingUsage => "missing_usage"
  | .parseError => "parse_error"

def originText : FailureOrigin → String
  | .gateway => "gateway"
  | .upstream => "upstream"

def reasonText : RejectionReason → String
  | .requestBodyTooLarge => "request_body_too_large"
  | .maxOutputTokens => "max_output_tokens"
  | .nGreaterThanOne => "n_greater_than_one"
  | .retryGuardOpen => "retry_guard_open"
  | .modelConcurrency => "model_concurrency"
  | .departmentModelConcurrency => "department_model_concurrency"
  | .tokenBudget => "token_budget"

def classText : StatusClass → String
  | .success => "2xx"
  | .clientError => "4xx"
  | .serverError => "5xx"

abbrev Labels := List (String × String)

def eventLabels : MetricEvent → Labels
  | .promptTokens department modelName _ | .generationTokens department modelName _ =>
    [("department", department), ("model_name", modelName)]
  | .sourceResolution department source =>
    [("department", department), ("resolution_source", sourceText source)]
  | .tokenAccounting endpoint status =>
    [("endpoint", endpoint.name), ("accounting_status", statusText status)]
  | .modelTokenAccounting department modelName endpoint status =>
    [("department", department), ("model_name", modelName), ("endpoint", endpoint.name),
      ("accounting_status", statusText status)]
  | .admissionRejection department modelName reason =>
    [("department", department), ("model_name", modelName), ("reason", reasonText reason)]
  | .inflightInc department modelName endpoint | .inflightDec department modelName endpoint =>
    [("department", department), ("model_name", modelName), ("endpoint", endpoint.name)]
  | .tokenBudgetRejection department modelName | .retryGuardOpen department modelName =>
    [("department", department), ("model_name", modelName)]
  | .upstreamRequestDuration modelName upstreamName endpoint =>
    [("model_name", modelName), ("upstream_name", upstreamName), ("endpoint", endpoint.name)]
  | .streamFirstChunk department modelName endpoint =>
    [("department", department), ("model_name", modelName), ("endpoint", endpoint.name)]
  | .upstreamSelection modelName upstreamName =>
    [("model_name", modelName), ("upstream_name", upstreamName)]

def requestEventLabels : RequestMetricEvent → Labels
  | .httpRequest department endpoint method status =>
    [("department", department), ("endpoint", endpoint.name), ("method", method),
      ("status_class", classText status)]
  | .requestDuration department endpoint method =>
    [("department", department), ("endpoint", endpoint.name), ("method", method)]
  | .modelHttpRequest department modelName endpoint method status =>
    [("department", department), ("model_name", modelName), ("endpoint", endpoint.name),
      ("method", method), ("status_class", classText status)]
  | .modelRequestDuration department modelName endpoint method =>
    [("department", department), ("model_name", modelName), ("endpoint", endpoint.name),
      ("method", method)]
  | .httpRequestFailure department endpoint method status origin =>
    [("department", department), ("endpoint", endpoint.name), ("method", method),
      ("status_class", classText status), ("failure_origin", originText origin)]

end VllmSourceGateway.RequestMetrics
