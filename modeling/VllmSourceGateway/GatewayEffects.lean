import VllmSourceGateway.AdmissionControl
import VllmSourceGateway.Routing

set_option autoImplicit false

/-! The state that requests share, and what the code of one request does to it.
Handler code between two awaits is a function from the shared state to the list
of its calls, in order, each with the result it got; `perform` is the only
writer. -/
namespace VllmSourceGateway.GatewayEffects
open PyValues UsageExtractors Metrics Config AdmissionControl Routing

structure Gateway where
  admission : AdmissionController
  registry : RoutingRegistry
  metrics : GatewayMetrics

def Gateway.init (config : AppConfig) : Gateway :=
  ⟨AdmissionControl.initial, .fromConfig config, []⟩

structure UpstreamRequest where
  upstreamName : String
  url : String
  headers : List (String × String)
  payload : JsonObject

/-- The fields of `request.state` that feed the request metrics. -/
inductive RequestMetricsUpdate where
  | context (department : String) (endpoint : Endpoint)
  | model (modelName : String)
  | statusOverride (statusCode : ℕ)
  | failureOrigin (origin : FailureOrigin)
  deriving DecidableEq

/-- `contact` says that an attempt on an upstream is made; building its request or
connecting may still fail. `attemptEnded` says how the await of its response ended, with
a status or by raising. -/
inductive Effect where
  | checkRequestShape (department modelName : String) (endpoint : Endpoint) (bodySize : ℕ)
      (payload : JsonObject) (result : Except Rejection JsonObject)
  | acquire (department modelName : String) (endpoint : Endpoint)
      (result : Except Rejection (Option AdmissionLease))
  | release (lease : Option AdmissionLease)
  | recordTokens (department modelName : String) (tokens : ℤ)
  | recordRetryEvent (department modelName : String)
  | selectUpstream (modelName : String) (excluded : List String)
      (result : Except RoutingError UpstreamTarget)
  | metric (event : MetricEvent)
  | requestMetrics (update : RequestMetricsUpdate)
  | contact (department modelName : String) (upstream : UpstreamTarget) (request : UpstreamRequest)
  | attemptEnded (department modelName : String) (outcome : Except Exn ℕ)
  | exchangeClosed (department modelName : String)

def Effect.admissionOp? : Effect → Option AdmissionOp
  | .checkRequestShape department modelName endpoint bodySize payload _ =>
    some (.checkRequestShape department modelName endpoint bodySize payload)
  | .acquire department modelName endpoint _ => some (.acquire department modelName endpoint)
  | .release lease => some (.release lease)
  | .recordTokens department modelName tokens => some (.recordTokens department modelName tokens)
  | .recordRetryEvent department modelName => some (.recordRetryEvent department modelName)
  | _ => none

def perform (config : AdmissionControlConfig) (now : ℚ) (g : Gateway) (effect : Effect) : Gateway :=
  match effect.admissionOp? with
  | some op =>
    let (admission, events) := AdmissionControl.apply config now g.admission op
    { g with admission := admission, metrics := g.metrics ++ events }
  | none =>
    match effect with
    | .selectUpstream modelName excluded _ =>
      { g with registry := (Routing.selectUpstream g.registry modelName excluded).2 }
    | .metric event => { g with metrics := g.metrics ++ [event] }
    | _ => g

def performAll (config : AdmissionControlConfig) (now : ℚ) (g : Gateway) (effects : List Effect) :
    Gateway := effects.foldl (perform config now) g

def emitted (config : AdmissionControlConfig) (now : ℚ) (g : Gateway) (effect : Effect) :
    GatewayMetrics :=
  match effect.admissionOp?, effect with
  | some op, _ => (AdmissionControl.apply config now g.admission op).2
  | none, .metric event => [event]
  | none, _ => []

theorem perform_metrics (config : AdmissionControlConfig) (now : ℚ) (g : Gateway)
    (effect : Effect) :
    (perform config now g effect).metrics = g.metrics ++ emitted config now g effect := by
  cases effect <;> first | rfl | exact (List.append_nil _).symm

theorem performAll_metrics {config : AdmissionControlConfig} {now : ℚ} {g : Gateway}
    {effects : List Effect} {event : MetricEvent}
    (h : event ∈ (performAll config now g effects).metrics) :
    event ∈ g.metrics ∨ ∃ effect ∈ effects, ∃ g', event ∈ emitted config now g' effect := by
  induction effects generalizing g with
  | nil => exact .inl h
  | cons effect effects ih =>
    rcases ih h with hmem | ⟨later, hlater, hemitted⟩
    · rw [perform_metrics, List.mem_append] at hmem
      exact hmem.imp_right fun hemitted => ⟨effect, List.mem_cons_self, g, hemitted⟩
    · exact .inr ⟨later, List.mem_cons_of_mem _ hlater, hemitted⟩

/-- The result an effect carries is the one its call gives. -/
def Effect.Genuine (config : AdmissionControlConfig) (now : ℚ) (g : Gateway) : Effect → Prop
  | .checkRequestShape department modelName endpoint bodySize payload result =>
    (AdmissionControl.checkRequestShape config department modelName endpoint bodySize payload).1 =
      result
  | .acquire department modelName endpoint result =>
    (AdmissionControl.acquire config now department modelName endpoint g.admission).1 = result
  | .selectUpstream modelName excluded result =>
    (Routing.selectUpstream g.registry modelName excluded).1 = result
  | _ => True

def AllGenuine (config : AdmissionControlConfig) (now : ℚ) : Gateway → List Effect → Prop
  | _, [] => True
  | g, effect :: effects =>
    effect.Genuine config now g ∧ AllGenuine config now (perform config now g effect) effects

end VllmSourceGateway.GatewayEffects
