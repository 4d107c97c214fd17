import VllmSourceGateway.Availability
import VllmSourceGateway.LoadConfig

set_option autoImplicit false

/-! The health monitor. A refresh cycle has one probe of each upstream in flight;
when all are over, their results go into the registry. Requests select upstreams
meanwhile. The logs and the time between two cycles are left out. -/
namespace VllmSourceGateway.UpstreamHealth
open Config Routing Availability LoadConfig

structure UpstreamProbeResult where
  healthy : Bool
  probedAt : String
  statusCode : Option ℕ
  error : Option String
  deriving DecidableEq

/-- How the request of a probe ends. An exception has its type's name and its text. -/
inductive ProbeOutcome where
  | response (statusCode : ℕ)
  | httpxError (typeName text : String)
  | unexpected (typeName text : String)
  deriving DecidableEq

structure ProbeRequest where
  url : String
  headers : List (String × String)
  deriving DecidableEq

def probeRequest (health : HealthConfig) (upstream : UpstreamTarget) : ProbeRequest :=
  ⟨upstream.baseUrl ++ health.probePath,
    match upstream.authorizationToken with
    | none => []
    | some token => [("authorization", "Bearer " ++ token)]⟩

/-- `_probe_upstream`, from the end of its request. -/
def probeResult (probedAt : String) : ProbeOutcome → UpstreamProbeResult
  | .httpxError typeName text | .unexpected typeName text =>
    ⟨false, probedAt, none, some (typeName ++ ": " ++ text)⟩
  | .response statusCode =>
    if 200 ≤ statusCode ∧ statusCode < 300 then ⟨true, probedAt, some statusCode, none⟩
    else ⟨false, probedAt, some statusCode, some "non_2xx"⟩

def getUpstream (registry : RoutingRegistry) (upstreamName : String) :
    Except RoutingError UpstreamTarget :=
  match PyDict.get? registry.upstreamsByName upstreamName with
  | none => .error (.unknownUpstream upstreamName)
  | some upstream => .ok upstream

inductive Probe where
  | pending
  | running (request : ProbeRequest) (probedAt : String)
  | over (probedAt : String) (outcome : ProbeOutcome)
  deriving DecidableEq

/-- `cycle` holds the targets of `refresh_all` with their probes, in order. -/
structure Monitor where
  registry : RoutingRegistry
  cycle : Option (List (UpstreamTarget × Probe))

/-- The probe at a position starts or ends, at any time and in any order. `cancel`
is a `CancelledError` that reaches the awaiting `refresh_all`. -/
inductive Event where
  | begin
  | start (position : ℕ) (probedAt : String)
  | finish (position : ℕ) (outcome : ProbeOutcome)
  | publish
  | cancel
  | select (modelName : String) (excludedUpstreamNames : List String)

def cycleTargets (registry : RoutingRegistry) : Except RoutingError (List UpstreamTarget) :=
  (healthSnapshots registry).mapM fun snapshot => getUpstream registry snapshot.upstreamName

def probeResults (cycle : List (UpstreamTarget × Probe)) :
    Option (List (UpstreamTarget × UpstreamProbeResult)) :=
  cycle.mapM fun entry =>
    match entry.2 with
    | .over probedAt outcome => some (entry.1, probeResult probedAt outcome)
    | _ => none

/-- The loop over the results; a `RoutingError` ends it. -/
def publishResults (registry : RoutingRegistry) :
    List (UpstreamTarget × UpstreamProbeResult) → RoutingRegistry
  | [] => registry
  | (upstream, result) :: results =>
    match setUpstreamHealth registry upstream.name result.healthy (some result.probedAt)
        (if result.healthy then some result.probedAt else none) result.statusCode result.error with
    | .error _ => registry
    | .ok registry => publishResults registry results

def step (health : HealthConfig) (monitor : Monitor) : Event → Option Monitor
  | .begin =>
    match monitor.cycle with
    | some _ => none
    | none =>
      if health.enabled then
        match cycleTargets monitor.registry with
        | .error _ => some monitor
        | .ok upstreams =>
          some { monitor with cycle := some (upstreams.map fun upstream => (upstream, .pending)) }
      else none
  | .start position probedAt =>
    match monitor.cycle with
    | none => none
    | some cycle =>
      match cycle[position]? with
      | some (upstream, .pending) => some { monitor with
          cycle := some (cycle.set position
            (upstream, .running (probeRequest health upstream) probedAt)) }
      | _ => none
  | .finish position outcome =>
    match monitor.cycle with
    | none => none
    | some cycle =>
      match cycle[position]? with
      | some (upstream, .running _ probedAt) => some { monitor with
          cycle := some (cycle.set position (upstream, .over probedAt outcome)) }
      | _ => none
  | .publish =>
    match monitor.cycle with
    | none => none
    | some cycle => (probeResults cycle).map fun results =>
        ⟨publishResults monitor.registry results, none⟩
  | .cancel =>
    match monitor.cycle with
    | none => none
    | some _ => some { monitor with cycle := none }
  | .select modelName excludedUpstreamNames => some { monitor with
      registry := (selectUpstream monitor.registry modelName excludedUpstreamNames).2 }

def initial (config : AppConfig) : Monitor := ⟨.fromConfig config, none⟩

/-- The health map changes in one kind of step only. -/
inductive StepOf (health : HealthConfig) (monitor : Monitor) : Event → Monitor → Prop where
  | failed : StepOf health monitor .begin monitor
  | begun {upstreams : List UpstreamTarget} (hidle : monitor.cycle = none)
      (henabled : health.enabled = true) (htargets : cycleTargets monitor.registry = .ok upstreams) :
      StepOf health monitor .begin
        ⟨monitor.registry, some (upstreams.map fun upstream => (upstream, .pending))⟩
  | moved {cycle : List (UpstreamTarget × Probe)} {upstream : UpstreamTarget} {probe : Probe}
      {event : Event} (position : ℕ) (probe' : Probe) (hcycle : monitor.cycle = some cycle)
      (hprobe : cycle[position]? = some (upstream, probe))
      (hevent : (∃ probedAt, event = .start position probedAt) ∨
        ∃ outcome, event = .finish position outcome) :
      StepOf health monitor event ⟨monitor.registry, some (cycle.set position (upstream, probe'))⟩
  | published {cycle : List (UpstreamTarget × Probe)}
      {results : List (UpstreamTarget × UpstreamProbeResult)} (hcycle : monitor.cycle = some cycle)
      (hresults : probeResults cycle = some results) :
      StepOf health monitor .publish ⟨publishResults monitor.registry results, none⟩
  | cancelled : StepOf health monitor .cancel ⟨monitor.registry, none⟩
  | selected (modelName : String) (excluded : List String) :
      StepOf health monitor (.select modelName excluded)
        ⟨(selectUpstream monitor.registry modelName excluded).2, monitor.cycle⟩

theorem step_cases {health : HealthConfig} {monitor monitor' : Monitor} {event : Event}
    (h : step health monitor event = some monitor') : StepOf health monitor event monitor' := by
  cases event with
  | begin =>
    simp only [step] at h
    split at h
    · cases h
    · rename_i hidle
      split at h
      · rename_i henabled
        split at h
        · cases h
          exact .failed
        · rename_i htargets
          cases h
          exact .begun hidle henabled htargets
      · cases h
  | start position probedAt =>
    simp only [step] at h
    split at h
    · cases h
    · rename_i hcycle
      split at h
      · rename_i hprobe
        cases h
        exact .moved position _ hcycle hprobe (.inl ⟨probedAt, rfl⟩)
      · cases h
  | finish position outcome =>
    simp only [step] at h
    split at h
    · cases h
    · rename_i hcycle
      split at h
      · rename_i hprobe
        cases h
        exact .moved position _ hcycle hprobe (.inr ⟨outcome, rfl⟩)
      · cases h
  | publish =>
    simp only [step] at h
    split at h
    · cases h
    · rename_i hcycle
      obtain ⟨results, hresults, rfl⟩ := Option.map_eq_some_iff.mp h
      exact .published hcycle hresults
  | cancel =>
    simp only [step] at h
    split at h
    · cases h
    · cases h
      exact .cancelled
  | select modelName excluded =>
    cases h
    exact .selected modelName excluded

end VllmSourceGateway.UpstreamHealth
