import VllmSourceGateway.UsageExtractors

set_option autoImplicit false

/-! `GatewayMetrics` as the log of its increments and observations, oldest
first: each event is one successful call on a labelled Prometheus child.
Durations are left out of the observations. -/
namespace VllmSourceGateway.Metrics
open PyValues UsageExtractors

inductive ResolutionSource where
  | apiKey
  | unknown
  deriving DecidableEq

inductive AccountingStatus where
  | recorded
  | missingUsage
  | parseError
  deriving DecidableEq

inductive FailureOrigin where
  | gateway
  | upstream
  deriving DecidableEq

inductive RejectionReason where
  | requestBodyTooLarge
  | maxOutputTokens
  | nGreaterThanOne
  | retryGuardOpen
  | modelConcurrency
  | departmentModelConcurrency
  | tokenBudget
  deriving DecidableEq

inductive MetricEvent where
  | promptTokens (department modelName : String) (amount : ℤ)
  | generationTokens (department modelName : String) (amount : ℤ)
  | sourceResolution (department : String) (source : ResolutionSource)
  | tokenAccounting (endpoint : Endpoint) (status : AccountingStatus)
  | modelTokenAccounting (department modelName : String) (endpoint : Endpoint)
      (status : AccountingStatus)
  | admissionRejection (department modelName : String) (reason : RejectionReason)
  | inflightInc (department modelName : String) (endpoint : Endpoint)
  | inflightDec (department modelName : String) (endpoint : Endpoint)
  | tokenBudgetRejection (department modelName : String)
  | retryGuardOpen (department modelName : String)
  | upstreamRequestDuration (modelName upstreamName : String) (endpoint : Endpoint)
  | streamFirstChunk (department modelName : String) (endpoint : Endpoint)
  | upstreamSelection (modelName upstreamName : String)
  deriving DecidableEq

abbrev GatewayMetrics := List MetricEvent

section
variable (accepts : ℤ → Bool)

def recordPromptTokens (department modelName : String) (promptTokens : ℤ) :
    Except Exn GatewayMetrics :=
  if promptTokens ≤ 0 then .ok []
  else if accepts promptTokens then .ok [.promptTokens department modelName promptTokens]
  else .error .other

def recordGenerationTokens (department modelName : String) (generationTokens : ℤ) :
    Except Exn GatewayMetrics :=
  if generationTokens ≤ 0 then .ok []
  else if accepts generationTokens then
    .ok [.generationTokens department modelName generationTokens]
  else .error .other

/-- The amount is none to be added, or the counter takes it. -/
def takes (amount : ℤ) : Bool := decide (amount ≤ 0) || accepts amount

end

/-- What a double takes: from this bound on an `int` rounds to infinity, and
Python raises `OverflowError` instead. -/
def fitsDouble (amount : ℤ) : Bool := decide (amount < 2 ^ 1024 - 2 ^ 970)

/-- What an event adds to the in-flight gauges of the label triples in `P`. -/
def inflightDelta (P : String → String → Endpoint → Bool) : MetricEvent → ℤ
  | .inflightInc d m e => if P d m e then 1 else 0
  | .inflightDec d m e => if P d m e then -1 else 0
  | _ => 0

def inflight (P : String → String → Endpoint → Bool) (metrics : GatewayMetrics) : ℤ :=
  (metrics.map (inflightDelta P)).sum

theorem inflight_append (P : String → String → Endpoint → Bool) (xs ys : GatewayMetrics) :
    inflight P (xs ++ ys) = inflight P xs + inflight P ys := by
  simp only [inflight, List.map_append, List.sum_append]

end VllmSourceGateway.Metrics
