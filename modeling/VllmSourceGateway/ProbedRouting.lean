import VllmSourceGateway.FailoverDiscipline
import VllmSourceGateway.HealthHistory
import VllmSourceGateway.Lifespan
import VllmSourceGateway.Refinement

set_option autoImplicit false

/-! Where the requests of the deployed gateway go follows from what the probes have
said. The requests alone are a run of the gateway system, in which health may
change at any moment; the cycles are a run of the monitor. -/
namespace VllmSourceGateway.ProbedRouting
open PyValues Config Routing GatewayEffects StreamBytes ProxyEndpoint RequestSegments
open RequestedModel LoadConfig HealthHistory Lifespan Refinement TransitionRuns Availability
open AvailabilityViews
open UpstreamHealth hiding Event step initial step_cases
open GatewaySystem (System Task PoolsKept smallConfig smallPlatform smallRequest postBody)

def requestEvents (_ : Deployment) : Event → List GatewaySystem.Event
  | .arrive request now => [.arrive request now]
  | .resume task input now => [.resume task input now]
  | _ => []

def systemEvents (_ : System) : GatewaySystem.Event → List GatewaySystem.Event
  | .setHealth _ _ _ _ _ _ => []
  | event => [event]

section
variable {P : Platform} {config : AppConfig} {health : HealthConfig}

/-- Publishing is a number of changes of health. -/
theorem publishResults_run {init : System} (results : List (UpstreamTarget × UpstreamProbeResult))
    {vs : List (System × GatewaySystem.Event)} {s : System}
    (run : Run (GatewaySystem.step P config) init vs s) :
    ∃ ws, Run (GatewaySystem.step P config) init (vs ++ ws)
        { s with gateway := { s.gateway with
          registry := publishResults s.gateway.registry results } } ∧
      trace systemEvents ws = [] := by
  induction results generalizing vs s with
  | nil => exact ⟨[], by simpa [publishResults] using run, rfl⟩
  | cons entry results ih =>
    obtain ⟨upstream, result⟩ := entry
    simp only [publishResults]
    split
    · exact ⟨[], by simpa using run, rfl⟩
    · rename_i registry hset
      have hstep : GatewaySystem.step P config s (.setHealth upstream.name result.healthy
          (some result.probedAt) (if result.healthy then some result.probedAt else none)
          result.statusCode result.error) =
            some { s with gateway := { s.gateway with registry := registry } } := by
        simp only [GatewaySystem.step, hset]
      obtain ⟨ws, hrun, hsilent⟩ := ih (run.snoc hstep)
      refine ⟨(s, _) :: ws, by simpa using hrun, ?_⟩
      rw [← List.singleton_append, trace_append, hsilent]
      rfl

theorem withMonitor_system {d : Deployment} {monitor : Monitor}
    (h : monitor.registry = d.system.gateway.registry) : (d.withMonitor monitor).system = d.system := by
  simp only [Deployment.withMonitor, h]

/-- The deployed gateway is a gateway system whose health somebody changes. -/
theorem system_simulation : Simulation (step P config health) (initial config health)
    (GatewaySystem.step P config) (GatewaySystem.initial config) (fun d s => d.system = s)
    requestEvents systemEvents where
  start := rfl
  step {d d'} {event} {s} {vs} _ run hR hstep := by
    subst hR
    cases step_cases hstep with
    | arrived _ harrived => exact ⟨[(d.system, _)], _, run.snoc harrived, rfl, rfl⟩
    | resumed _ hresumed => exact ⟨[(d.system, _)], _, run.snoc hresumed, rfl, rfl⟩
    | @monitored _ event' monitor hevent hmonitored =>
      have hquiet : monitor.registry = d.system.gateway.registry ∧ requestEvents d event = [] := by
        obtain ⟨rfl, rfl, _⟩ | ⟨_, _, rfl, rfl⟩ | ⟨_, _, rfl, rfl⟩ := hevent
        · cases UpstreamHealth.step_cases hmonitored with
          | failed | begun => exact ⟨rfl, rfl⟩
          | moved _ _ _ _ hmoved => simp at hmoved
        · cases UpstreamHealth.step_cases hmonitored with
          | moved => exact ⟨rfl, rfl⟩
        · cases UpstreamHealth.step_cases hmonitored with
          | moved => exact ⟨rfl, rfl⟩
      refine ⟨[], d.system, by simpa using run, withMonitor_system hquiet.1, ?_⟩
      exact hquiet.2.symm
    | published hpublished =>
      cases UpstreamHealth.step_cases hpublished with
      | moved _ _ _ _ hmoved => simp at hmoved
      | @published cycle results hcycle hresults =>
        obtain ⟨ws, hrun, hsilent⟩ := publishResults_run results run
        exact ⟨ws, _, hrun, rfl, hsilent⟩
    | stopped => exact ⟨[], d.system, by simpa using run, rfl, rfl⟩

end

def published (d : Deployment) : Event → List (List (UpstreamTarget × Probe))
  | .publish => d.cycle.toList
  | _ => []

def completed (monitor : Monitor) : UpstreamHealth.Event → List (List (UpstreamTarget × Probe))
  | .publish => monitor.cycle.toList
  | _ => []

theorem historyOf_completed (name : String) (steps : List (Monitor × UpstreamHealth.Event)) :
    historyOf name steps = (trace completed steps).flatMap (probesOf name) := by
  rw [historyOf, trace, List.flatMap_assoc]
  refine List.flatMap_congr fun taken _ => ?_
  obtain ⟨monitor, event⟩ := taken
  cases event with
  | publish => cases hcycle : monitor.cycle <;> simp [completed, hcycle]
  | _ => rfl

def selections (effects : List Effect) : List (String × List String) :=
  effects.filterMap fun effect =>
    match effect with
    | .selectUpstream modelName excluded _ => some (modelName, excluded)
    | _ => none

def selectAll (registry : RoutingRegistry) (chosen : List (String × List String)) :
    RoutingRegistry :=
  chosen.foldl (fun registry selection => (selectUpstream registry selection.1 selection.2).2)
    registry

theorem performAll_registry (config : AdmissionControlConfig) (now : ℚ) (g : Gateway)
    (effects : List Effect) :
    (performAll config now g effects).registry = selectAll g.registry (selections effects) := by
  induction effects generalizing g with
  | nil => rfl
  | cons effect effects ih =>
    refine (ih (perform config now g effect)).trans ?_
    cases effect <;> rfl

section
variable {health : HealthConfig}

theorem completedCycles_eq {init : Monitor} {vs : List (Monitor × UpstreamHealth.Event)}
    {monitor : Monitor} (run : Run (UpstreamHealth.step health) init vs monitor) :
    completedCycles vs = (trace completed vs).length := by
  induction run with
  | refl => rfl
  | @snoc vs monitor _ event _ hstep ih =>
    rw [completedCycles_snoc, trace_snoc, List.length_append, ih]
    cases UpstreamHealth.step_cases hstep with
    | published hcycle => simp [completed, hcycle]
    | moved _ _ _ _ hmoved => rcases hmoved with ⟨_, rfl⟩ | ⟨_, rfl⟩ <;> rfl
    | failed | begun | cancelled | selected => rfl

theorem selections_run {init : Monitor} (chosen : List (String × List String))
    {vs : List (Monitor × UpstreamHealth.Event)} {monitor : Monitor}
    (run : Run (UpstreamHealth.step health) init vs monitor) :
    ∃ ws, Run (UpstreamHealth.step health) init (vs ++ ws)
        ⟨selectAll monitor.registry chosen, monitor.cycle⟩ ∧
      trace completed ws = [] := by
  induction chosen generalizing vs monitor with
  | nil => exact ⟨[], by simpa [selectAll] using run, rfl⟩
  | cons selection chosen ih =>
    have hstep : UpstreamHealth.step health monitor (.select selection.1 selection.2) =
        some ⟨(selectUpstream monitor.registry selection.1 selection.2).2, monitor.cycle⟩ := rfl
    obtain ⟨ws, hrun, hsilent⟩ := ih (run.snoc hstep)
    refine ⟨(monitor, _) :: ws, by simpa [selectAll] using hrun, ?_⟩
    rw [← List.singleton_append, trace_append, hsilent]
    rfl

variable {P : Platform} {config : AppConfig}

/-- A step of the requests is a number of selections, to the monitor. -/
theorem request_run {d : Deployment} {system : System} {event : GatewaySystem.Event} {init : Monitor}
    {vs : List (Monitor × UpstreamHealth.Event)}
    (run : Run (UpstreamHealth.step health) init vs d.monitor)
    (hevent : (∃ request now, event = .arrive request now) ∨
      ∃ task input now, event = .resume task input now)
    (hstep : GatewaySystem.step P config d.system event = some system) :
    ∃ ws, Run (UpstreamHealth.step health) init (vs ++ ws) ⟨system.gateway.registry, d.cycle⟩ ∧
      trace completed ws = [] := by
  cases GatewaySystem.step_cases hstep with
  | @arrive request now =>
    obtain ⟨ws, hrun, hsilent⟩ :=
      selections_run (selections (Task.start config request).trace) run
    refine ⟨ws, ?_, hsilent⟩
    simpa only [System.run, performAll_registry, Deployment.monitor] using hrun
  | @resume _ _ _ _ _ _ effects =>
    obtain ⟨ws, hrun, hsilent⟩ := selections_run (selections effects) run
    refine ⟨ws, ?_, hsilent⟩
    simpa only [System.run, performAll_registry, Deployment.monitor] using hrun
  | setHealth => simp at hevent

/-- The deployed gateway is a monitor whose registry somebody selects from. -/
theorem monitor_simulation : Simulation (step P config health) (initial config health)
    (UpstreamHealth.step health) (UpstreamHealth.initial config) (fun d monitor => d.monitor = monitor)
    published completed where
  start := rfl
  step {d d'} {event} {monitor} {vs} _ run hR hstep := by
    subst hR
    cases step_cases hstep with
    | arrived _ harrived =>
      obtain ⟨ws, hrun, hsilent⟩ := request_run run (.inl ⟨_, _, rfl⟩) harrived
      exact ⟨ws, _, hrun, rfl, hsilent⟩
    | resumed _ hresumed =>
      obtain ⟨ws, hrun, hsilent⟩ := request_run run (.inr ⟨_, _, _, rfl⟩) hresumed
      exact ⟨ws, _, hrun, rfl, hsilent⟩
    | @monitored _ event' monitor hevent hmonitored =>
      have hsilent : completed d.monitor event' = published d event := by
        obtain ⟨rfl, rfl, _⟩ | ⟨_, _, rfl, rfl⟩ | ⟨_, _, rfl, rfl⟩ := hevent <;> rfl
      refine ⟨[(d.monitor, event')], _, run.snoc hmonitored, rfl, ?_⟩
      rw [← hsilent]
      exact List.flatMap_singleton _ _
    | published hpublished =>
      exact ⟨[(d.monitor, _)], _, run.snoc hpublished, rfl, List.flatMap_singleton _ _⟩
    | stopped =>
      cases hcycle : d.cycle with
      | none =>
        refine ⟨[], d.monitor, by simpa using run, ?_, rfl⟩
        simp only [Deployment.monitor, hcycle]
      | some cycle =>
        have hcancel : UpstreamHealth.step health d.monitor .cancel =
            some ⟨d.monitor.registry, none⟩ := by
          simp only [UpstreamHealth.step, Deployment.monitor, hcycle]
        exact ⟨[(d.monitor, _)], _, run.snoc hcancel, rfl, rfl⟩

end

def probes (name : String) (steps : List (Deployment × Event)) : History :=
  (trace published steps).flatMap (probesOf name)

def lastSucceeded (history : History) : Bool := history.getLast?.all fun probe => succeeded probe.2

section
variable {P : Platform} {config : AppConfig} {health : HealthConfig}
  {steps : List (Deployment × Event)} {d : Deployment}

theorem deployed_health (run : Run (step P config health) (initial config health) steps d)
    {name : String} (hname : name ∈ names config) :
    d.system.gateway.registry.isHealthy name = lastSucceeded (probes name steps) := by
  obtain ⟨ws, monitor, hrun, rfl, htrace⟩ := monitor_simulation.run run
  have hget := (run_tracked hrun).health name hname
  rw [historyOf_completed, htrace] at hget
  have hregistry : d.monitor.registry = d.system.gateway.registry := rfl
  rw [RoutingRegistry.isHealthy, ← hregistry, hget]
  rfl

/-- Until the first cycle is over nobody is served, if health is checked at all. -/
theorem probed_before_served (run : Run (step P config health) (initial config health) steps d)
    (henabled : health.enabled = true) :
    (trace published steps ≠ [] ∨ d.phase ≠ .serving ∧ d.system.tasks = []) := by
  refine run.invariant (fun steps d =>
    trace published steps ≠ [] ∨ d.phase ≠ .serving ∧ d.system.tasks = []) ?_ ?_
  · simp [initial, henabled, GatewaySystem.initial]
  · intro steps d event d' _ hinv hstep
    rw [trace_snoc]
    rcases hinv with hprobed | ⟨hphase, htasks⟩
    · exact .inl (by simp [hprobed])
    · cases step_cases hstep with
      | arrived hserving => exact absurd hserving hphase
      | resumed _ hresumed =>
        cases GatewaySystem.step_cases hresumed with
        | resume _ hsplit => simp [htasks] at hsplit
      | monitored => exact .inr ⟨hphase, htasks⟩
      | published hpublished =>
        cases UpstreamHealth.step_cases hpublished with
        | moved _ _ _ _ hmoved => simp at hmoved
        | published hcycle =>
          have hcycle' : d.cycle = some _ := hcycle
          exact .inl (by simp [published, hcycle'])
      | stopped => exact .inr ⟨by simp, htasks⟩

/-- Each upstream has one probe in each published cycle. -/
theorem probes_length (run : Run (step P config health) (initial config health) steps d)
    {name : String} (hname : name ∈ names config) :
    (probes name steps).length = (trace published steps).length := by
  obtain ⟨ws, monitor, hrun, _, htrace⟩ := monitor_simulation.run run
  have hprobed := (run_tracked hrun).probed name hname
  rw [historyOf_completed, htrace, completedCycles_eq hrun, htrace] at hprobed
  exact hprobed

theorem perform_health (config : AdmissionControlConfig) (now : ℚ) (g : Gateway) (effect : Effect) :
    (perform config now g effect).registry.healthByName = g.registry.healthByName := by
  cases effect <;> first | rfl | exact (selectUpstream_maps _ _ _).2

theorem performAll_health (config : AdmissionControlConfig) (now : ℚ) (g : Gateway)
    (effects : List Effect) :
    (performAll config now g effects).registry.healthByName = g.registry.healthByName := by
  induction effects generalizing g with
  | nil => rfl
  | cons effect effects ih => exact (ih _).trans (perform_health config now g effect)

/-- Requests change neither the pools nor the health. -/
theorem request_maps {s s' : System} {event : GatewaySystem.Event}
    (hevent : (∃ request now, event = .arrive request now) ∨
      ∃ task input now, event = .resume task input now)
    (hstep : GatewaySystem.step P config s event = some s') :
    s'.gateway.registry.modelToUpstreams = s.gateway.registry.modelToUpstreams ∧
      s'.gateway.registry.healthByName = s.gateway.registry.healthByName := by
  cases GatewaySystem.step_cases hstep with
  | arrive | resume => exact ⟨GatewaySystem.performAll_pools _ _ _ _, performAll_health _ _ _ _⟩
  | setHealth => simp at hevent

/-- The registry that a selection has seen differs from the one before the resumption
in its pointers only. -/
theorem genuine_selection {config : AdmissionControlConfig} {now : ℚ} {g : Gateway}
    {effects : List Effect} (h : AllGenuine config now g effects) {modelName : String}
    {excluded : List String} {result : Except RoutingError UpstreamTarget}
    (hmem : .selectUpstream modelName excluded result ∈ effects) :
    ∃ registry : RoutingRegistry, registry.healthByName = g.registry.healthByName ∧
      registry.modelToUpstreams = g.registry.modelToUpstreams ∧
      (selectUpstream registry modelName excluded).1 = result := by
  induction effects generalizing g with
  | nil => cases hmem
  | cons effect effects ih =>
    rcases List.mem_cons.mp hmem with rfl | hlater
    · exact ⟨g.registry, rfl, rfl, h.1⟩
    · obtain ⟨registry, hhealth, hpools, hresult⟩ := ih h.2 hlater
      exact ⟨registry, hhealth.trans (perform_health config now g effect),
        hpools.trans (GatewaySystem.perform_pools config now g effect), hresult⟩

/-- The last probe of the upstream succeeded; if health is checked there was one. -/
structure ProbedWell (health : HealthConfig) (steps : List (Deployment × Event)) (name : String) :
    Prop where
  last : lastSucceeded (probes name steps) = true
  probed : health.enabled = true → probes name steps ≠ []

theorem mem_names {modelName : String} {upstream : UpstreamTarget}
    (h : upstream ∈ (RoutingRegistry.fromConfig config).pool modelName) :
    upstream.name ∈ names config := by
  obtain ⟨entry, hentry, hupstream⟩ := List.mem_map.mp (fromConfig_pool config modelName _ h).1
  exact List.mem_map.mpr ⟨entry, hentry, by rw [← hupstream]; rfl⟩

/-- In the deployed gateway a request contacts only upstreams that serve the model its body
names and whose last probe has succeeded. It finds none only if each upstream of that
model is excluded, having been contacted before, or has failed its last probe. -/
theorem requests_follow_probes (run : Run (step P config health) (initial config health) steps d)
    {task : Task} (htask : task ∈ d.system.tasks) {now : ℚ} {input : Input} {effects : List Effect}
    {point : Point}
    (hadvance : advance P config task.request d.system.gateway now task.point input =
      some (effects, point)) :
    (∀ department modelName upstream sent, .contact department modelName upstream sent ∈ effects →
      Requests P config (task.continue input effects point) modelName ∧
        upstream ∈ (RoutingRegistry.fromConfig config).pool modelName ∧
        ProbedWell health steps upstream.name) ∧
    ∀ modelName excluded error, .selectUpstream modelName excluded (.error error) ∈ effects →
      Requests P config (task.continue input effects point) modelName ∧
        ∀ upstream ∈ (RoutingRegistry.fromConfig config).pool modelName,
          upstream.name ∈ excluded ∨ lastSucceeded (probes upstream.name steps) = false := by
  have hsegment := advance_segment hadvance
  obtain ⟨system, hreach, rfl⟩ := system_simulation.reachable run.reachable
  have hpools : PoolsKept config d.system.gateway := GatewaySystem.pools_kept hreach
  have habout : About P config (task.continue input effects point) :=
    (requests_about hreach task htask).advance hpools hadvance
  have hrequests {effect : Effect} (hmem : effect ∈ effects) {modelName : String}
      (hnamed : namedModel? effect = some modelName) :
      Requests P config (task.continue input effects point) modelName :=
    habout.call (List.mem_append_right _ hmem) hnamed
  have hselected (modelName : String) (excluded : List String)
      (result : Except RoutingError UpstreamTarget)
      (hmem : .selectUpstream modelName excluded result ∈ effects) :
      ∃ registry : RoutingRegistry, (selectUpstream registry modelName excluded).1 = result ∧
        registry.pool modelName = (RoutingRegistry.fromConfig config).pool modelName ∧
        ∀ upstream ∈ registry.pool modelName,
          registry.isHealthy upstream.name = lastSucceeded (probes upstream.name steps) := by
    obtain ⟨registry, hhealth, hmodels, hresult⟩ :=
      genuine_selection (segment_genuine hsegment) hmem
    have hpool : registry.pool modelName = (RoutingRegistry.fromConfig config).pool modelName := by
      rw [RoutingRegistry.pool, hmodels]
      exact hpools.pool modelName
    refine ⟨registry, hresult, hpool, fun upstream hupstream => ?_⟩
    rw [← deployed_health run (mem_names (hpool ▸ hupstream)), RoutingRegistry.isHealthy, hhealth]
    rfl
  constructor
  · intro department modelName upstream sent hcontact
    refine ⟨hrequests hcontact rfl, ?_⟩
    obtain ⟨before, excluded, flight, rfl, _, hflight, _⟩ :=
      FailoverDiscipline.segment_contact hsegment hcontact
    simp only [contactUpstream, Effect.contact.injEq] at hflight
    obtain ⟨_, rfl, rfl, _⟩ := hflight
    obtain ⟨registry, hresult, hpool, hhealth⟩ := hselected flight.modelName excluded
      (.ok flight.upstream) (List.mem_append_right _ List.mem_cons_self)
    obtain ⟨hmem, _, hhealthy⟩ := selectUpstream_ok registry excluded hresult
    refine ⟨hpool ▸ hmem, (hhealth _ hmem).symm.trans hhealthy, fun henabled => ?_⟩
    have hlength := probes_length run (mem_names (hpool ▸ hmem))
    rcases probed_before_served run henabled with hprobed | ⟨_, hnobody⟩
    · rw [← List.length_pos_iff, hlength]
      exact List.length_pos_iff.mpr hprobed
    · rw [hnobody] at htask
      cases htask
  · intro modelName excluded error hselect
    refine ⟨hrequests hselect rfl, fun upstream hupstream => ?_⟩
    obtain ⟨registry, hresult, hpool, hhealth⟩ := hselected modelName excluded _ hselect
    rw [← hpool] at hupstream
    rw [← hhealth upstream hupstream]
    exact (selectUpstream_error registry excluded hresult).2 upstream hupstream

theorem deployed_kept (run : Run (step P config health) (initial config health) steps d) :
    RegistryKept (targets config) d.system.gateway.registry := by
  obtain ⟨system, hreach, rfl⟩ := system_simulation.reachable run.reachable
  obtain ⟨ws, monitor, hrun, rfl, _⟩ := monitor_simulation.run run
  have hknown := (run_tracked hrun).known
  refine ⟨GatewaySystem.pools_kept hreach, fun name => ?_, hknown.unique⟩
  rw [List.map_map]
  exact hknown.health name

/-- A stopped monitor has no cycle left. -/
theorem stopped_idle (run : Run (step P config health) (initial config health) steps d) :
    d.phase = .stopped → d.cycle = none := by
  refine run.invariant (fun _ d => d.phase = .stopped → d.cycle = none) (fun _ => rfl) ?_
  intro steps d event d' _ hinv hstep hstopped
  cases step_cases hstep with
  | arrived | resumed => exact hinv hstopped
  | @monitored _ _ monitor hevent hmonitored =>
    have hidle : d.monitor.cycle = none := hinv hstopped
    obtain ⟨rfl, rfl, hphase⟩ | ⟨_, _, rfl, rfl⟩ | ⟨_, _, rfl, rfl⟩ := hevent
    · exact absurd hstopped hphase
    · simp [UpstreamHealth.step, hidle] at hmonitored
    · simp [UpstreamHealth.step, hidle] at hmonitored
  | published => cases hstopped
  | stopped => rfl

/-- Whatever requests do and whenever cycles end, `/readyz` and the model list show the
last probes of the published cycles; once the monitor has stopped nothing that
they show changes any more. -/
theorem views_follow_probes (run : Run (step P config health) (initial config health) steps d) :
    ((buildReadinessPayload d.system.gateway.registry).1 = 200 ↔
        ∃ name ∈ names config, lastSucceeded (probes name steps) = true) ∧
      (∀ model ∈ listModels d.system.gateway.registry,
        model.healthyUpstreamCount =
          ((RoutingRegistry.fromConfig config).pool model.modelName).countP fun upstream =>
            lastSucceeded (probes upstream.name steps)) ∧
      ∀ event d', d.phase = .stopped → step P config health d event = some d' →
        d'.phase = .stopped ∧
          listModels d'.system.gateway.registry = listModels d.system.gateway.registry ∧
          healthSnapshots d'.system.gateway.registry =
            healthSnapshots d.system.gateway.registry := by
  have hkept := deployed_kept run
  refine ⟨?_, fun model hmodel => ?_, fun event d' hstopped hstep => ?_⟩
  · rw [readiness_healthy]
    constructor
    · rintro ⟨⟨name, state⟩, hmem, hhealthy⟩
      have hname : name ∈ names config := by
        have hknown : (PyDict.get? d.system.gateway.registry.healthByName name).isSome = true := by
          rw [(PyDict.get?_eq_some_iff hkept.unique).mpr hmem]
          rfl
        have hlisted := (hkept.names name).mp hknown
        rw [targets, List.map_map] at hlisted
        exact hlisted
      refine ⟨name, hname, ?_⟩
      rw [← deployed_health run hname]
      exact (isHealthy_iff hkept name).mpr ⟨state, hmem, hhealthy⟩
    · rintro ⟨name, hname, hlast⟩
      rw [← deployed_health run hname] at hlast
      obtain ⟨state, hmem, hhealthy⟩ := (isHealthy_iff hkept name).mp hlast
      exact ⟨(name, state), hmem, hhealthy⟩
  · obtain ⟨modelName, pool, hpool, rfl⟩ := (mem_listModels hkept).mp hmodel
    have hconfigured : (RoutingRegistry.fromConfig config).pool modelName = pool := by
      rw [RoutingRegistry.pool, RoutingRegistry.fromConfig, RoutingRegistry.init, ← hkept.pools,
        hpool, Option.getD_some]
    simp only [availabilityOf, hconfigured]
    refine List.countP_congr fun upstream hupstream => ?_
    rw [deployed_health run (mem_names (hconfigured.symm ▸ hupstream))]
  · have hidle := stopped_idle run hstopped
    cases step_cases hstep with
    | arrived hserving => cases hstopped.symm.trans hserving
    | resumed _ hresumed =>
      obtain ⟨hpools, hhealth⟩ := request_maps (.inr ⟨_, _, _, rfl⟩) hresumed
      have hlist : listModels = fun registry => listModels
          ⟨[], registry.modelToUpstreams, registry.healthByName, fun _ => 0⟩ := rfl
      refine ⟨hstopped, ?_, ?_⟩
      · rw [hlist]
        simp only [hpools, hhealth]
      · simp only [healthSnapshots, hhealth]
    | @monitored _ _ monitor hevent hmonitored =>
      have hnone : d.monitor.cycle = none := hidle
      obtain ⟨rfl, rfl, hphase⟩ | ⟨_, _, rfl, rfl⟩ | ⟨_, _, rfl, rfl⟩ := hevent
      · exact absurd hstopped hphase
      · simp [UpstreamHealth.step, hnone] at hmonitored
      · simp [UpstreamHealth.step, hnone] at hmonitored
    | published hpublished =>
      have hnone : d.monitor.cycle = none := hidle
      simp [UpstreamHealth.step, hnone] at hpublished
    | stopped hphase => exact absurd hstopped hphase

end

/-! ## A cold start

One of two upstreams refuses the first probe; the first request then arrives. -/

def coldStart : List Event :=
  [.beginCycle, .startProbe 0 "10:00:00", .startProbe 1 "10:00:00",
    .endProbe 1 (.response 200), .endProbe 0 (.httpxError "ConnectError" "refused"), .publish,
    .arrive smallRequest 0]

def coldStep : Deployment → Event → Option Deployment := step smallPlatform smallConfig probing

theorem coldStart_runs : (exec coldStep (initial smallConfig probing) coldStart).isSome = true := by
  decide +kernel

def served : Deployment := (exec coldStep (initial smallConfig probing) coldStart).get coldStart_runs

def firstTurn (task : Task) : Option (List Effect × Point) :=
  advance smallPlatform smallConfig task.request served.system.gateway 1 task.point (.body postBody)

def contacted (effects : List Effect) : List String :=
  effects.filterMap fun effect =>
    match effect with
    | .contact _ _ upstream _ => some upstream.name
    | _ => none

theorem firstTurn_contacts :
    served.system.tasks.map (fun task => (firstTurn task).map fun turn => contacted turn.1) =
      [some ["b"]] := by
  decide +kernel

theorem requests_follow_probes_coldStart : ∃ steps task effects point,
    steps.map Prod.snd = coldStart ∧ firstTurn task = some (effects, point) ∧
    contacted effects = ["b"] ∧
    ∀ department modelName upstream sent, .contact department modelName upstream sent ∈ effects →
      Requests smallPlatform smallConfig (task.continue (.body postBody) effects point) modelName ∧
        upstream ∈ (RoutingRegistry.fromConfig smallConfig).pool modelName ∧
        ProbedWell probing steps upstream.name := by
  obtain ⟨steps, run, hevents⟩ := exec_run .refl (Option.some_get coldStart_runs).symm
  obtain ⟨task, htasks, hturn⟩ := List.map_eq_singleton_iff.mp firstTurn_contacts
  obtain ⟨⟨effects, point⟩, hadvance, hcontacted⟩ := Option.map_eq_some_iff.mp hturn
  have htask : task ∈ served.system.tasks := htasks ▸ List.mem_singleton_self task
  exact ⟨steps, task, effects, point, hevents, hadvance, hcontacted,
    (requests_follow_probes run htask hadvance).1⟩

theorem views_follow_probes_coldStart : ∃ steps, steps.map Prod.snd = coldStart ∧
    ((buildReadinessPayload served.system.gateway.registry).1 = 200 ↔
      ∃ name ∈ names smallConfig, lastSucceeded (probes name steps) = true) := by
  obtain ⟨steps, run, hevents⟩ := exec_run .refl (Option.some_get coldStart_runs).symm
  exact ⟨steps, hevents, (views_follow_probes run).1⟩

end VllmSourceGateway.ProbedRouting
