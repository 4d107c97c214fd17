import VllmSourceGateway.AvailabilityViews
import VllmSourceGateway.UpstreamHealth

set_option autoImplicit false

/-! The health of an upstream is what its own probes said, whatever happened to
the others and in whatever order the probes ended. -/
namespace VllmSourceGateway.HealthHistory
open Config Routing Availability AvailabilityViews LoadConfig UpstreamHealth TransitionRuns
open GatewaySystem (smallConfig)

/-! ## A history and what it says -/

/-- The probes of one upstream, oldest first: when each was sent and how it ended. -/
abbrev History := List (String × ProbeOutcome)

def succeeded : ProbeOutcome → Bool
  | .response statusCode => decide (200 ≤ statusCode ∧ statusCode < 300)
  | .httpxError _ _ | .unexpected _ _ => false

def answeredStatus : ProbeOutcome → Option ℕ
  | .response statusCode => some statusCode
  | .httpxError _ _ | .unexpected _ _ => none

def errorText : ProbeOutcome → Option String
  | .response statusCode =>
    if 200 ≤ statusCode ∧ statusCode < 300 then none else some "non_2xx"
  | .httpxError typeName text | .unexpected typeName text => some (typeName ++ ": " ++ text)

/-- An upstream that was never probed counts as healthy. -/
def healthOf (history : History) : UpstreamHealthState where
  healthy := history.getLast?.all fun probe => succeeded probe.2
  lastProbeAt := history.getLast?.map Prod.fst
  lastSuccessAt := ((history.filter fun probe => succeeded probe.2).getLast?).map Prod.fst
  lastStatusCode := history.getLast?.bind fun probe => answeredStatus probe.2
  lastError := history.getLast?.bind fun probe => errorText probe.2

/-- What `set_upstream_health` does with the state before. -/
def merge (previous : UpstreamHealthState) (result : UpstreamProbeResult) : UpstreamHealthState :=
  ⟨result.healthy, (some result.probedAt).or previous.lastProbeAt,
    (if result.healthy then some result.probedAt else none).or previous.lastSuccessAt,
    result.statusCode, result.error⟩

theorem probeResult_eq (probedAt : String) (outcome : ProbeOutcome) :
    probeResult probedAt outcome =
      ⟨succeeded outcome, probedAt, answeredStatus outcome,
        errorText outcome⟩ := by
  cases outcome with
  | response statusCode =>
    simp only [probeResult, succeeded, answeredStatus, errorText]
    split <;> simp_all
  | httpxError | unexpected => rfl

theorem healthOf_snoc (history : History) (probedAt : String) (outcome : ProbeOutcome) :
    healthOf (history ++ [(probedAt, outcome)]) =
      merge (healthOf history) (probeResult probedAt outcome) := by
  rw [probeResult_eq]
  simp only [healthOf, merge, List.getLast?_append, List.getLast?_singleton, Option.some_or,
    List.filter_append, List.filter_cons, List.filter_nil, Option.all_some, Option.map_some,
    Option.bind_some, UpstreamHealthState.mk.injEq, true_and, and_true]
  cases succeeded outcome <;> simp

def probesOf (name : String) (cycle : List (UpstreamTarget × Probe)) : History :=
  cycle.filterMap fun entry =>
    match entry.2 with
    | .over probedAt outcome =>
      if entry.1.name = name then some (probedAt, outcome) else none
    | _ => none

def historyOf (name : String) (steps : List (Monitor × Event)) : History :=
  steps.flatMap fun taken =>
    match taken.2, taken.1.cycle with
    | .publish, some cycle => probesOf name cycle
    | _, _ => []

def completedCycles (steps : List (Monitor × Event)) : ℕ :=
  steps.countP fun taken =>
    match taken.2 with
    | .publish => true
    | _ => false

structure Known (names : List String) (registry : RoutingRegistry) : Prop where
  upstreams : ∀ name, (PyDict.get? registry.upstreamsByName name).isSome = true ↔ name ∈ names
  own : ∀ name upstream, PyDict.get? registry.upstreamsByName name = some upstream →
    upstream.name = name
  health : ∀ name, (PyDict.get? registry.healthByName name).isSome = true ↔ name ∈ names
  unique : PyDict.Unique registry.healthByName

theorem setUpstreamHealth_merge {names : List String} {registry : RoutingRegistry}
    (hknown : Known names registry) {name : String} (hname : name ∈ names)
    (result : UpstreamProbeResult) :
    ∃ previous registry', PyDict.get? registry.healthByName name = some previous ∧
      setUpstreamHealth registry name result.healthy (some result.probedAt)
        (if result.healthy then some result.probedAt else none) result.statusCode result.error =
          .ok registry' ∧
      registry' = { registry with
        healthByName := PyDict.set registry.healthByName name (merge previous result) } := by
  obtain ⟨upstream, hupstream⟩ := Option.isSome_iff_exists.mp ((hknown.upstreams name).mpr hname)
  obtain ⟨previous, hprevious⟩ := Option.isSome_iff_exists.mp ((hknown.health name).mpr hname)
  refine ⟨previous, _, hprevious, ?_, rfl⟩
  simp only [setUpstreamHealth, hupstream, hprevious, merge]

theorem Known.set {names : List String} {registry : RoutingRegistry} (hknown : Known names registry)
    {name : String} (hname : name ∈ names) (state : UpstreamHealthState) :
    Known names { registry with healthByName := PyDict.set registry.healthByName name state } := by
  refine ⟨hknown.upstreams, hknown.own, fun other => ?_, PyDict.set_unique hknown.unique _ _⟩
  rw [← hknown.health, PyDict.get?_set]
  by_cases hother : other = name
  · simp [hother, (hknown.health name).mpr hname]
  · simp [hother]

/-- Each result is merged into the state of its own upstream. -/
theorem publishResults_health {names : List String}
    {results : List (UpstreamTarget × UpstreamProbeResult)} {registry : RoutingRegistry}
    (hknown : Known names registry) (hresults : ∀ entry ∈ results, entry.1.name ∈ names)
    (hdistinct : (results.map fun entry => entry.1.name).Nodup) :
    Known names (publishResults registry results) ∧
      (∀ entry ∈ results, ∀ previous,
        PyDict.get? registry.healthByName entry.1.name = some previous →
        PyDict.get? (publishResults registry results).healthByName entry.1.name =
          some (merge previous entry.2)) ∧
      ∀ name ∉ results.map (fun entry => entry.1.name),
        PyDict.get? (publishResults registry results).healthByName name =
          PyDict.get? registry.healthByName name := by
  induction results generalizing registry with
  | nil => exact ⟨hknown, List.forall_mem_nil _, fun _ _ => rfl⟩
  | cons entry results ih =>
    obtain ⟨upstream, result⟩ := entry
    obtain ⟨hhead, hrest⟩ := List.forall_mem_cons.mp hresults
    obtain ⟨hfresh, hdistinct'⟩ := List.nodup_cons.mp hdistinct
    dsimp only at hhead hfresh
    obtain ⟨previous, registry', hprevious, hset, rfl⟩ :=
      setUpstreamHealth_merge hknown hhead result
    obtain ⟨hknown', hmerged, hkept⟩ := ih (hknown.set hhead (merge previous result)) hrest hdistinct'
    simp only [publishResults, hset]
    refine ⟨hknown', List.forall_mem_cons.mpr ⟨fun before hbefore => ?_, ?_⟩, fun name hname => ?_⟩
    · rw [hkept _ hfresh, PyDict.get?_set_self]
      rw [hprevious, Option.some.injEq] at hbefore
      rw [hbefore]
    · intro other hother before hbefore
      have hne : other.1.name ≠ upstream.name := by
        intro hsame
        exact hfresh (hsame ▸ List.mem_map_of_mem (f := fun entry => entry.1.name) hother)
      refine hmerged other hother before ?_
      rw [PyDict.get?_set_of_ne _ _ hne]
      exact hbefore
    · simp only [List.map_cons, List.mem_cons, not_or] at hname
      rw [hkept name hname.2, PyDict.get?_set_of_ne _ _ hname.1]

theorem mapM_ok {α β ε : Type} {f : α → Except ε β} {xs : List α} {ys : List β}
    (h : xs.mapM f = .ok ys) : List.Forall₂ (fun x y => f x = .ok y) xs ys := by
  induction xs generalizing ys with
  | nil =>
    cases h
    exact .nil
  | cons x xs ih =>
    rw [List.mapM_cons] at h
    cases hx : f x with
    | error e => simp [hx, bind, Except.bind] at h
    | ok y =>
      cases hxs : xs.mapM f with
      | error e => simp [hx, hxs, bind, Except.bind] at h
      | ok rest =>
        simp only [hx, hxs, bind, Except.bind, pure, Except.pure, Except.ok.injEq] at h
        subst h
        exact .cons hx (ih hxs)

theorem probeResults_some {cycle : List (UpstreamTarget × Probe)}
    {results : List (UpstreamTarget × UpstreamProbeResult)} (h : probeResults cycle = some results) :
    List.Forall₂ (fun entry result => ∃ probedAt outcome, entry.2 = .over probedAt outcome ∧
      result = (entry.1, probeResult probedAt outcome)) cycle results := by
  simp only [probeResults] at h
  induction cycle generalizing results with
  | nil =>
    cases h
    exact .nil
  | cons entry cycle ih =>
    rw [List.mapM_cons] at h
    obtain ⟨result, hresult, hrest⟩ := Option.bind_eq_some_iff.mp h
    obtain ⟨rest, hcycle, hpure⟩ := Option.bind_eq_some_iff.mp hrest
    cases hpure
    split at hresult
    · rename_i probedAt outcome hover
      cases hresult
      exact .cons ⟨probedAt, outcome, hover, rfl⟩ (ih hcycle)
    · cases hresult

theorem probesOf_absent {name : String} {cycle : List (UpstreamTarget × Probe)}
    (h : name ∉ cycle.map fun entry => entry.1.name) : probesOf name cycle = [] := by
  rw [probesOf, List.filterMap_eq_nil_iff]
  intro entry hentry
  have hne : entry.1.name ≠ name := fun hsame => h (List.mem_map.mpr ⟨entry, hentry, hsame⟩)
  split
  · rw [if_neg hne]
  · rfl

/-- An upstream has one probe in a cycle. -/
theorem probesOf_entry {cycle : List (UpstreamTarget × Probe)} {entry : UpstreamTarget × Probe}
    {probedAt : String} {outcome : ProbeOutcome}
    (hdistinct : (cycle.map fun entry => entry.1.name).Nodup) (hentry : entry ∈ cycle)
    (hover : entry.2 = .over probedAt outcome) :
    probesOf entry.1.name cycle = [(probedAt, outcome)] := by
  induction cycle with
  | nil => cases hentry
  | cons head cycle ih =>
    obtain ⟨hfresh, hdistinct'⟩ := List.nodup_cons.mp hdistinct
    rcases List.mem_cons.mp hentry with rfl | hmem
    · have hrest : probesOf entry.1.name cycle = [] := probesOf_absent hfresh
      simp only [probesOf] at hrest ⊢
      rw [List.filterMap_cons, hrest]
      simp only [hover, if_true]
    · have hne : head.1.name ≠ entry.1.name := by
        intro hsame
        exact hfresh (List.mem_map.mpr ⟨entry, hmem, hsame.symm⟩)
      have hhead : probesOf entry.1.name (head :: cycle) = probesOf entry.1.name cycle := by
        simp only [probesOf, List.filterMap_cons]
        split
        · rfl
        · rename_i probe hprobe
          split at hprobe
          · rw [if_neg hne] at hprobe
            cases hprobe
          · cases hprobe
      rw [hhead]
      exact ih hdistinct' hmem

theorem historyOf_snoc (name : String) (steps : List (Monitor × Event)) (monitor : Monitor)
    (event : Event) :
    historyOf name (steps ++ [(monitor, event)]) = historyOf name steps ++
      match event, monitor.cycle with
      | .publish, some cycle => probesOf name cycle
      | _, _ => [] := by
  simp only [historyOf, List.flatMap_append, List.flatMap_singleton]

theorem historyOf_quiet (name : String) (steps : List (Monitor × Event)) (monitor : Monitor)
    {event : Event} (h : event ≠ .publish) :
    historyOf name (steps ++ [(monitor, event)]) = historyOf name steps := by
  rw [historyOf_snoc]
  split
  · exact absurd rfl h
  · exact List.append_nil _

theorem completedCycles_snoc (steps : List (Monitor × Event)) (monitor : Monitor) (event : Event) :
    completedCycles (steps ++ [(monitor, event)]) =
      completedCycles steps + match event with
        | .publish => 1
        | _ => 0 := by
  simp only [completedCycles, List.countP_append, List.countP_singleton]
  cases event <;> simp

abbrev names (config : AppConfig) : List String := config.upstreams.map UpstreamConfig.name

structure Tracked (config : AppConfig) (steps : List (Monitor × Event)) (monitor : Monitor) :
    Prop where
  known : Known (names config) monitor.registry
  health : ∀ name ∈ names config,
    PyDict.get? monitor.registry.healthByName name = some (healthOf (historyOf name steps))
  probed : ∀ name ∈ names config, (historyOf name steps).length = completedCycles steps
  cycle : ∀ cycle, monitor.cycle = some cycle →
    cycle.map (fun entry => entry.1.name) = PyDict.sortedNames (names config)

theorem fromConfig_known (config : AppConfig) :
    Known (names config) (.fromConfig config) ∧ ∀ name ∈ names config,
      PyDict.get? (RoutingRegistry.fromConfig config).healthByName name = some (healthOf []) := by
  have hnames : (targets config).map UpstreamTarget.name = names config := by
    simp only [targets, List.map_map]
    rfl
  have hhealth (name : String) :
      (PyDict.get? (RoutingRegistry.fromConfig config).healthByName name).isSome = true ↔
        name ∈ names config := by
    rw [← hnames, RoutingRegistry.fromConfig, RoutingRegistry.init,
      get?_foldl_set UpstreamTarget.name]
    simp [PyDict.get?]
  have hupstreams (name : String) :
      (PyDict.get? (RoutingRegistry.fromConfig config).upstreamsByName name).isSome = true ↔
        name ∈ names config := by
    rw [← hnames, RoutingRegistry.fromConfig, RoutingRegistry.init,
      get?_foldl_set UpstreamTarget.name]
    simp [PyDict.get?]
  have hown : ∀ item ∈ (RoutingRegistry.fromConfig config).upstreamsByName,
      item.2.name = item.1 := by
    rw [RoutingRegistry.fromConfig, RoutingRegistry.init]
    refine List.foldlRecOn (motive := fun d : List (String × UpstreamTarget) =>
      ∀ item ∈ d, item.2.name = item.1) (targets config) _ (List.forall_mem_nil _) ?_
    intro d hd upstream _ item hitem
    rcases PyDict.mem_set hitem with rfl | hold
    · rfl
    · exact hd item hold
  have hfresh : ∀ item ∈ (RoutingRegistry.fromConfig config).healthByName,
      item.2 = healthOf [] := by
    rw [RoutingRegistry.fromConfig, RoutingRegistry.init]
    refine List.foldlRecOn (motive := fun d : List (String × UpstreamHealthState) =>
      ∀ item ∈ d, item.2 = healthOf []) (targets config) _ (List.forall_mem_nil _) ?_
    intro d hd upstream _ item hitem
    rcases PyDict.mem_set hitem with rfl | hold
    · rfl
    · exact hd item hold
  refine ⟨⟨hupstreams, fun name upstream hget => hown _ (PyDict.mem_of_get? hget), hhealth, ?_⟩,
    fun name hname => ?_⟩
  · exact foldl_set_unique UpstreamTarget.name _ (targets config) List.nodup_nil
  · obtain ⟨state, hget⟩ := Option.isSome_iff_exists.mp ((hhealth name).mpr hname)
    rw [hget, Option.some.injEq]
    exact hfresh _ (PyDict.mem_of_get? hget)

theorem healthSnapshots_names {registry : RoutingRegistry} {known : List String}
    (h : Known known registry) :
    (healthSnapshots registry).map UpstreamHealthSnapshot.upstreamName =
      PyDict.sortedNames known := by
  have hkeys : (healthSnapshots registry).map UpstreamHealthSnapshot.upstreamName =
      (PyDict.sortedItems registry.healthByName).map Prod.fst := by
    simp only [healthSnapshots, List.map_map]
    rfl
  rw [hkeys, PyDict.sortedItems_keys h.unique]
  apply PyDict.sortedNames_congr
  intro name
  rw [← PyDict.get?_isSome_iff, h.health]

theorem cycleTargets_names {known : List String} {registry : RoutingRegistry}
    (h : Known known registry) {upstreams : List UpstreamTarget}
    (htargets : cycleTargets registry = .ok upstreams) :
    upstreams.map UpstreamTarget.name = PyDict.sortedNames known := by
  rw [← healthSnapshots_names h]
  refine (Validation.map_eq_map (mapM_ok htargets) fun snapshot upstream hget => ?_).symm
  simp only [getUpstream] at hget
  split at hget
  · cases hget
  · rename_i found hfound
    cases hget
    exact (h.own _ _ hfound).symm

theorem selectUpstream_maps (registry : RoutingRegistry) (modelName : String)
    (excluded : List String) :
    (selectUpstream registry modelName excluded).2.upstreamsByName = registry.upstreamsByName ∧
      (selectUpstream registry modelName excluded).2.healthByName = registry.healthByName := by
  obtain ⟨_, heq, _⟩ | ⟨_, _, _, _, _, heq⟩ := selectUpstream_cases registry excluded modelName
  · rw [heq]
    exact ⟨rfl, rfl⟩
  · rw [heq]
    exact ⟨rfl, rfl⟩

section
variable {config : AppConfig} {health : HealthConfig} {steps : List (Monitor × Event)}
  {monitor monitor' : Monitor} {event : Event}

/-- Nothing that happens during a cycle changes the health of an upstream. -/
theorem step_quiet (hstep : step health monitor event = some monitor') (hevent : event ≠ .publish) :
    monitor'.registry.upstreamsByName = monitor.registry.upstreamsByName ∧
      monitor'.registry.healthByName = monitor.registry.healthByName := by
  cases step_cases hstep with
  | failed | begun | moved | cancelled => exact ⟨rfl, rfl⟩
  | published => exact absurd rfl hevent
  | selected modelName excluded => exact selectUpstream_maps monitor.registry modelName excluded

theorem step_cycle (h : Tracked config steps monitor)
    (hstep : step health monitor event = some monitor') {cycle : List (UpstreamTarget × Probe)}
    (hcycle : monitor'.cycle = some cycle) :
    cycle.map (fun entry => entry.1.name) = PyDict.sortedNames (names config) := by
  cases step_cases hstep with
  | failed | selected => exact h.cycle cycle hcycle
  | begun _ _ htargets =>
    cases hcycle
    rw [← cycleTargets_names h.known htargets, List.map_map]
    rfl
  | @moved before upstream _ _ position probe' hbefore hprobe =>
    cases hcycle
    rw [← h.cycle before hbefore, List.map_set]
    have hname : (before.map fun entry => entry.1.name)[position]? = some upstream.name := by
      rw [List.getElem?_map, hprobe]
      rfl
    obtain ⟨hposition, hentry⟩ := List.getElem?_eq_some_iff.mp hname
    rw [← hentry]
    exact List.set_getElem_self hposition
  | published | cancelled => cases hcycle

/-- A completed cycle adds its probe to the history of each upstream. -/
theorem publish_health (h : Tracked config steps monitor) {cycle : List (UpstreamTarget × Probe)}
    {results : List (UpstreamTarget × UpstreamProbeResult)} (hcycle : monitor.cycle = some cycle)
    (hresults : probeResults cycle = some results) :
    Known (names config) (publishResults monitor.registry results) ∧
      ∀ name ∈ names config, ∃ probe, probesOf name cycle = [probe] ∧
        PyDict.get? (publishResults monitor.registry results).healthByName name =
          some (healthOf (historyOf name steps ++ [probe])) := by
  have hover := probeResults_some hresults
  have hnames := h.cycle cycle hcycle
  have hnames' : results.map (fun entry => entry.1.name) = PyDict.sortedNames (names config) := by
    rw [← hnames]
    refine (Validation.map_eq_map hover ?_).symm
    rintro entry _ ⟨_, _, _, rfl⟩
    rfl
  have hdistinct : (PyDict.sortedNames (names config)).Nodup :=
    (PyDict.sortedNames_strict (names config)).imp ne_of_lt
  obtain ⟨hknown, hmerged, _⟩ := publishResults_health h.known
    (fun entry hentry => PyDict.mem_sortedNames.mp (hnames' ▸ List.mem_map_of_mem hentry))
    (hnames'.symm ▸ hdistinct)
  refine ⟨hknown, fun name hname => ?_⟩
  have hmem : name ∈ cycle.map fun entry => entry.1.name :=
    hnames.symm ▸ PyDict.mem_sortedNames.mpr hname
  obtain ⟨entry, hentry, rfl⟩ := List.mem_map.mp hmem
  obtain ⟨_, hresult, probedAt, outcome, hprobe, rfl⟩ := Validation.result_of_mem hover hentry
  refine ⟨(probedAt, outcome), probesOf_entry (hnames.symm ▸ hdistinct) hentry hprobe, ?_⟩
  rw [healthOf_snoc]
  exact hmerged _ hresult _ (h.health _ hname)

theorem tracked_step (h : Tracked config steps monitor)
    (hstep : step health monitor event = some monitor') :
    Tracked config (steps ++ [(monitor, event)]) monitor' := by
  by_cases hevent : event = .publish
  · subst hevent
    cases step_cases hstep with
    | moved _ _ _ _ hmoved => simp at hmoved
    | published hcycle hresults =>
      obtain ⟨hknown, hhealth⟩ := publish_health h hcycle hresults
      refine ⟨hknown, fun name hname => ?_, fun name hname => ?_, fun _ hnone => by cases hnone⟩
      · obtain ⟨probe, hprobe, hget⟩ := hhealth name hname
        rw [historyOf_snoc, hcycle]
        simp only [hprobe]
        exact hget
      · obtain ⟨probe, hprobe, _⟩ := hhealth name hname
        rw [historyOf_snoc, hcycle, completedCycles_snoc, ← h.probed name hname]
        simp only [hprobe, List.length_append, List.length_singleton]
  · obtain ⟨hupstreams, hsame⟩ := step_quiet hstep hevent
    refine ⟨⟨?_, ?_, ?_, ?_⟩, fun name hname => ?_, fun name hname => ?_,
      fun cycle hcycle => step_cycle h hstep hcycle⟩
    · rw [hupstreams]
      exact h.known.upstreams
    · rw [hupstreams]
      exact h.known.own
    · rw [hsame]
      exact h.known.health
    · rw [hsame]
      exact h.known.unique
    · rw [hsame, historyOf_quiet name steps monitor hevent]
      exact h.health name hname
    · rw [historyOf_quiet name steps monitor hevent, h.probed name hname, completedCycles_snoc]
      cases event with
      | publish => exact absurd rfl hevent
      | begin | start | finish | cancel | select => rfl

theorem run_tracked (run : Run (step health) (initial config) steps monitor) :
    Tracked config steps monitor := by
  refine run.invariant (Tracked config) ?_ fun _ _ _ _ _ htracked hstep => tracked_step htracked hstep
  obtain ⟨hknown, hfresh⟩ := fromConfig_known config
  exact ⟨hknown, hfresh, fun _ _ => rfl, fun _ hcycle => by cases hcycle⟩

/-- `health_snapshots` shows for every upstream what its own probes in the
completed cycles said, one in each; nothing else changes it. -/
theorem health_is_own_history (run : Run (step health) (initial config) steps monitor) :
    healthSnapshots monitor.registry = (PyDict.sortedNames (names config)).map (fun name =>
        ⟨healthOf (historyOf name steps), name⟩) ∧
      (∀ name ∈ names config, (historyOf name steps).length = completedCycles steps) ∧
      ∀ event monitor', event ≠ .publish → step health monitor event = some monitor' →
        healthSnapshots monitor'.registry = healthSnapshots monitor.registry := by
  have htracked := run_tracked run
  refine ⟨?_, htracked.probed, fun event monitor' hevent hstep => ?_⟩
  · have hown : ∀ snapshot ∈ healthSnapshots monitor.registry,
        ⟨healthOf (historyOf snapshot.upstreamName steps), snapshot.upstreamName⟩ = snapshot := by
      intro snapshot hsnapshot
      obtain ⟨⟨name, state⟩, hitem, rfl⟩ := List.mem_map.mp hsnapshot
      have hget : PyDict.get? monitor.registry.healthByName name = some state :=
        (PyDict.get?_eq_some_iff htracked.known.unique).mpr (PyDict.mem_sortedItems.mp hitem)
      have hname : name ∈ names config :=
        (htracked.known.health name).mp (Option.isSome_iff_exists.mpr ⟨state, hget⟩)
      have hstate := htracked.health name hname
      rw [hget, Option.some.injEq] at hstate
      rw [hstate]
    rw [← healthSnapshots_names htracked.known, List.map_map]
    exact (List.map_id _).symm.trans (List.map_congr_left fun snapshot hsnapshot =>
      (hown snapshot hsnapshot).symm)
  · rw [healthSnapshots, (step_quiet hstep hevent).2]
    rfl

end

/-! ## An outage

One upstream refuses while the other answers first; the next cycle is cancelled
when one of its probes has already ended. -/

def probing : HealthConfig := ⟨true, "/v1/models"⟩

def outage : List Event :=
  [.begin, .start 0 "10:00:00", .start 1 "10:00:01", .finish 1 (.response 200),
    .select "llama" [], .finish 0 (.httpxError "ConnectError" "refused"), .publish,
    .begin, .start 0 "10:00:15", .finish 0 (.response 200), .cancel]

theorem outage_runs : (exec (step probing) (initial smallConfig) outage).isSome = true := by
  decide +kernel

def afterOutage : Monitor := (exec (step probing) (initial smallConfig) outage).get outage_runs

theorem health_is_own_history_outage : ∃ steps, steps.map Prod.snd = outage ∧
    healthSnapshots afterOutage.registry = (PyDict.sortedNames (names smallConfig)).map (fun name =>
      ⟨healthOf (historyOf name steps), name⟩) ∧
    (healthSnapshots afterOutage.registry).map UpstreamHealthSnapshot.toUpstreamHealthState =
      [⟨false, some "10:00:00", none, none, some "ConnectError: refused"⟩,
        ⟨true, some "10:00:01", some "10:00:01", some 200, none⟩] := by
  obtain ⟨steps, run, hevents⟩ := exec_run .refl (Option.some_get outage_runs).symm
  exact ⟨steps, hevents, (health_is_own_history run).1, by decide +kernel⟩

end VllmSourceGateway.HealthHistory
