import VllmSourceGateway.GatewaySystem
import VllmSourceGateway.UpstreamHealth

set_option autoImplicit false

/-! The gateway as it is deployed: the lifespan of the application, its requests and
its health monitor over one registry. `UpstreamHealthMonitor.start` refreshes all
upstreams before the first request is taken; its loop goes on until `stop`. -/
namespace VllmSourceGateway.Lifespan
open PyValues Config Routing GatewayEffects StreamBytes ProxyEndpoint TransitionRuns LoadConfig
open UpstreamHealth hiding Event step initial
open GatewaySystem (System)

inductive Phase where
  | starting
  | serving
  | stopped
  deriving DecidableEq

structure Deployment where
  phase : Phase
  system : System
  cycle : Option (List (UpstreamTarget × Probe))

/-- `startProbe` and `endProbe` are those of the cycle under way; `stop` is the
cancellation of the monitor's task, asleep or in a cycle. -/
inductive Event where
  | arrive (request : ProxyRequest) (now : ℚ)
  | resume (task : ℕ) (input : Input) (now : ℚ)
  | beginCycle
  | startProbe (position : ℕ) (probedAt : String)
  | endProbe (position : ℕ) (outcome : ProbeOutcome)
  | publish
  | stop

/-- Without health checks `start` returns at once. -/
def initial (config : AppConfig) (health : HealthConfig) : Deployment where
  phase := if health.enabled then .starting else .serving
  system := GatewaySystem.initial config
  cycle := none

def Deployment.monitor (d : Deployment) : Monitor := ⟨d.system.gateway.registry, d.cycle⟩

def Deployment.withMonitor (d : Deployment) (monitor : Monitor) : Deployment :=
  { d with
    system := { d.system with gateway := { d.system.gateway with registry := monitor.registry } }
    cycle := monitor.cycle }

section
variable (P : Platform) (config : AppConfig) (health : HealthConfig)

def serve (d : Deployment) (event : GatewaySystem.Event) : Option Deployment :=
  (GatewaySystem.step P config d.system event).map fun system => { d with system := system }

def monitoring (d : Deployment) (event : UpstreamHealth.Event) : Option Deployment :=
  (UpstreamHealth.step health d.monitor event).map d.withMonitor

/-- Requests arrive while the application serves; those that are under way may go on
when it has stopped. -/
def step (d : Deployment) : Event → Option Deployment
  | .arrive request now =>
    match d.phase with
    | .serving => serve P config d (.arrive request now)
    | .starting | .stopped => none
  | .resume task input now =>
    match d.phase with
    | .starting => none
    | .serving | .stopped => serve P config d (.resume task input now)
  | .beginCycle =>
    match d.phase with
    | .stopped => none
    | .starting | .serving => monitoring health d .begin
  | .startProbe position probedAt => monitoring health d (.start position probedAt)
  | .endProbe position outcome => monitoring health d (.finish position outcome)
  | .publish => (monitoring health d .publish).map fun d => { d with phase := .serving }
  | .stop =>
    match d.phase with
    | .stopped => none
    | .starting | .serving => some { d with phase := .stopped, cycle := none }

end

/-- Everything a step can do. Outside its cycles nothing is asked of the monitor. -/
inductive StepOf (P : Platform) (config : AppConfig) (health : HealthConfig) (d : Deployment) :
    Event → Deployment → Prop where
  | arrived {request : ProxyRequest} {now : ℚ} {system : System} (hphase : d.phase = .serving)
      (hstep : GatewaySystem.step P config d.system (.arrive request now) = some system) :
      StepOf P config health d (.arrive request now) { d with system := system }
  | resumed {task : ℕ} {input : Input} {now : ℚ} {system : System} (hphase : d.phase ≠ .starting)
      (hstep : GatewaySystem.step P config d.system (.resume task input now) = some system) :
      StepOf P config health d (.resume task input now) { d with system := system }
  | monitored {event : Event} {event' : UpstreamHealth.Event} {monitor : Monitor}
      (hevent : (event = .beginCycle ∧ event' = .begin ∧ d.phase ≠ .stopped) ∨
        (∃ position probedAt, event = .startProbe position probedAt ∧
          event' = .start position probedAt) ∨
        ∃ position outcome, event = .endProbe position outcome ∧ event' = .finish position outcome)
      (hstep : UpstreamHealth.step health d.monitor event' = some monitor) :
      StepOf P config health d event (d.withMonitor monitor)
  | published {monitor : Monitor}
      (hstep : UpstreamHealth.step health d.monitor .publish = some monitor) :
      StepOf P config health d .publish { d.withMonitor monitor with phase := .serving }
  | stopped (hphase : d.phase ≠ .stopped) :
      StepOf P config health d .stop { d with phase := .stopped, cycle := none }

theorem step_cases {P : Platform} {config : AppConfig} {health : HealthConfig} {d d' : Deployment}
    {event : Event} (h : step P config health d event = some d') :
    StepOf P config health d event d' := by
  cases event with
  | arrive request now =>
    simp only [step] at h
    split at h
    · rename_i hphase
      obtain ⟨system, hstep, rfl⟩ := Option.map_eq_some_iff.mp h
      exact .arrived hphase hstep
    · cases h
    · cases h
  | resume task input now =>
    have hphase : d.phase ≠ .starting := by
      rintro hstarting
      simp only [step, hstarting] at h
      cases h
    have hserved : serve P config d (.resume task input now) = some d' := by
      cases hd : d.phase with
      | starting => exact absurd hd hphase
      | serving | stopped => simpa only [step, hd] using h
    obtain ⟨system, hstep, rfl⟩ := Option.map_eq_some_iff.mp hserved
    exact .resumed hphase hstep
  | beginCycle =>
    have hphase : d.phase ≠ .stopped := by
      rintro hstopped
      simp only [step, hstopped] at h
      cases h
    have hbegun : monitoring health d .begin = some d' := by
      cases hd : d.phase with
      | stopped => exact absurd hd hphase
      | starting | serving => simpa only [step, hd] using h
    obtain ⟨monitor, hstep, rfl⟩ := Option.map_eq_some_iff.mp hbegun
    exact .monitored (.inl ⟨rfl, rfl, hphase⟩) hstep
  | startProbe position probedAt =>
    obtain ⟨monitor, hstep, rfl⟩ := Option.map_eq_some_iff.mp h
    exact .monitored (.inr (.inl ⟨_, _, rfl, rfl⟩)) hstep
  | endProbe position outcome =>
    obtain ⟨monitor, hstep, rfl⟩ := Option.map_eq_some_iff.mp h
    exact .monitored (.inr (.inr ⟨_, _, rfl, rfl⟩)) hstep
  | publish =>
    obtain ⟨served, hserved, rfl⟩ := Option.map_eq_some_iff.mp h
    obtain ⟨monitor, hstep, rfl⟩ := Option.map_eq_some_iff.mp hserved
    exact .published hstep
  | stop =>
    have hphase : d.phase ≠ .stopped := by
      rintro hstopped
      simp only [step, hstopped] at h
      cases h
    cases hd : d.phase with
    | stopped => exact absurd hd hphase
    | starting | serving =>
      simp only [step, hd, Option.some.injEq] at h
      subst h
      exact .stopped hphase

end VllmSourceGateway.Lifespan
