import VllmSourceGateway.Config
import VllmSourceGateway.CyclicScan

set_option autoImplicit false

/-! The routing registry: the pools of the models, the health of the upstreams
and one round-robin pointer for each model. The lock is left out, since no
method awaits while it holds it. -/
namespace VllmSourceGateway.Routing
open Config

structure UpstreamTarget where
  name : String
  baseUrl : String
  models : List String
  authorizationToken : Option String
  deriving DecidableEq

structure UpstreamHealthState where
  healthy : Bool
  lastProbeAt : Option String
  lastSuccessAt : Option String
  lastStatusCode : Option ℕ
  lastError : Option String
  deriving DecidableEq

structure RoutingRegistry where
  upstreamsByName : List (String × UpstreamTarget)
  modelToUpstreams : List (String × List UpstreamTarget)
  healthByName : List (String × UpstreamHealthState)
  roundRobinIndex : String → ℕ

inductive RoutingError where
  | unknownUpstream (upstreamName : String)
  | unknownModel (modelName : String)
  | noHealthyUpstream (modelName : String)
  deriving DecidableEq

def RoutingError.text : RoutingError → String
  | .unknownUpstream upstreamName => "unknown upstream '" ++ upstreamName ++ "'"
  | .unknownModel modelName => "unknown model '" ++ modelName ++ "'"
  | .noHealthyUpstream modelName =>
    "no healthy upstream available for model '" ++ modelName ++ "'"

def rstripSlash (s : String) : String :=
  String.ofList (s.toList.reverse.dropWhile (· == '/')).reverse

def UpstreamTarget.ofConfig (upstream : UpstreamConfig) : UpstreamTarget :=
  ⟨upstream.name, rstripSlash upstream.baseUrl, upstream.models, upstream.authorizationToken⟩

def addToIndex (upstream : UpstreamTarget) (index : List (String × List UpstreamTarget))
    (modelName : String) : List (String × List UpstreamTarget) :=
  PyDict.set index modelName ((PyDict.get? index modelName).getD [] ++ [upstream])

def buildModelIndex (upstreams : List UpstreamTarget) : List (String × List UpstreamTarget) :=
  upstreams.foldl (fun index upstream => upstream.models.foldl (addToIndex upstream) index) []

def RoutingRegistry.init (upstreams : List UpstreamTarget) : RoutingRegistry where
  upstreamsByName := upstreams.foldl (fun d upstream => PyDict.set d upstream.name upstream) []
  modelToUpstreams := buildModelIndex upstreams
  healthByName :=
    upstreams.foldl (fun d upstream => PyDict.set d upstream.name ⟨true, none, none, none, none⟩) []
  roundRobinIndex := fun _ => 0

def RoutingRegistry.fromConfig (config : AppConfig) : RoutingRegistry :=
  .init (config.upstreams.map UpstreamTarget.ofConfig)

def getModelUpstreams (registry : RoutingRegistry) (modelName : String) :
    Except RoutingError (List UpstreamTarget) :=
  match PyDict.get? registry.modelToUpstreams modelName with
  | none => .error (.unknownModel modelName)
  | some upstreams => .ok upstreams

def setUpstreamHealth (registry : RoutingRegistry) (upstreamName : String) (healthy : Bool)
    (lastProbeAt lastSuccessAt : Option String) (lastStatusCode : Option ℕ)
    (lastError : Option String) : Except RoutingError RoutingRegistry :=
  match PyDict.get? registry.upstreamsByName upstreamName,
      PyDict.get? registry.healthByName upstreamName with
  | some _, some previous =>
    .ok { registry with
      healthByName := PyDict.set registry.healthByName upstreamName
        ⟨healthy, lastProbeAt.or previous.lastProbeAt, lastSuccessAt.or previous.lastSuccessAt,
          lastStatusCode, lastError⟩ }
  | _, _ => .error (.unknownUpstream upstreamName)

def RoutingRegistry.isHealthy (registry : RoutingRegistry) (upstreamName : String) : Bool :=
  match PyDict.get? registry.healthByName upstreamName with
  | some state => state.healthy
  | none => false

def eligible (registry : RoutingRegistry) (excludedUpstreamNames : List String)
    (candidate : UpstreamTarget) : Bool :=
  !decide (candidate.name ∈ excludedUpstreamNames) && registry.isHealthy candidate.name

/-- The loop over the offsets: the first eligible candidate with its index. -/
def firstEligible (registry : RoutingRegistry) (excludedUpstreamNames : List String)
    (upstreams : List UpstreamTarget) (startIndex : ℕ) : Option (ℕ × UpstreamTarget) :=
  (List.range upstreams.length).findSome? fun offset =>
    let candidateIndex := (startIndex + offset) % upstreams.length
    match upstreams[candidateIndex]? with
    | none => none
    | some candidate =>
      if eligible registry excludedUpstreamNames candidate then some (candidateIndex, candidate)
      else none

def selectUpstream (registry : RoutingRegistry) (modelName : String)
    (excludedUpstreamNames : List String) :
    Except RoutingError UpstreamTarget × RoutingRegistry :=
  match PyDict.get? registry.modelToUpstreams modelName with
  | none => (.error (.unknownModel modelName), registry)
  | some upstreams =>
    let startIndex := registry.roundRobinIndex modelName % upstreams.length
    match firstEligible registry excludedUpstreamNames upstreams startIndex with
    | none => (.error (.noHealthyUpstream modelName), registry)
    | some (selectedIndex, selected) =>
      (.ok selected,
        { registry with
          roundRobinIndex := Function.update registry.roundRobinIndex modelName
            ((selectedIndex + 1) % upstreams.length) })

/-- The pool of a model, empty for a name that no upstream serves. -/
def RoutingRegistry.pool (registry : RoutingRegistry) (modelName : String) : List UpstreamTarget :=
  (PyDict.get? registry.modelToUpstreams modelName).getD []

section
variable (registry : RoutingRegistry) (excluded : List String)

theorem firstEligible_eq_scan (upstreams : List UpstreamTarget) (start : ℕ) :
    firstEligible registry excluded upstreams start =
      CyclicScan.scan (eligible registry excluded) upstreams start := by
  unfold firstEligible CyclicScan.scan
  congr 1
  funext offset
  dsimp only
  cases upstreams[(start + offset) % upstreams.length]? <;> rfl

/-- A selection fails where nobody in the pool is eligible, and changes nothing; one
that succeeds takes the entry found by the scan and moves the pointer behind it. -/
theorem selectUpstream_cases (modelName : String) :
    (∃ error, selectUpstream registry modelName excluded = (.error error, registry) ∧
      ∀ upstream ∈ registry.pool modelName, eligible registry excluded upstream = false) ∨
    ∃ pool index selected, PyDict.get? registry.modelToUpstreams modelName = some pool ∧
      CyclicScan.scan (eligible registry excluded) pool
        (registry.roundRobinIndex modelName % pool.length) = some (index, selected) ∧
      selectUpstream registry modelName excluded = (.ok selected,
        { registry with
          roundRobinIndex :=
            Function.update registry.roundRobinIndex modelName ((index + 1) % pool.length) }) := by
  simp only [selectUpstream, RoutingRegistry.pool]
  rcases Option.eq_none_or_eq_some (PyDict.get? registry.modelToUpstreams modelName) with
    hpool | ⟨pool, hpool⟩
  · simp only [hpool]
    exact .inl ⟨_, rfl, List.forall_mem_nil _⟩
  · simp only [hpool, firstEligible_eq_scan, Option.getD_some]
    rcases Option.eq_none_or_eq_some (CyclicScan.scan (eligible registry excluded) pool
        (registry.roundRobinIndex modelName % pool.length)) with hscan | ⟨⟨index, selected⟩, hscan⟩
    · simp only [hscan]
      exact .inl ⟨_, rfl, CyclicScan.scan_none hscan⟩
    · simp only [hscan]
      exact .inr ⟨pool, index, selected, rfl, hscan, rfl⟩

theorem selectUpstream_ok {modelName : String} {selected : UpstreamTarget}
    (h : (selectUpstream registry modelName excluded).1 = .ok selected) :
    selected ∈ registry.pool modelName ∧ selected.name ∉ excluded ∧
      registry.isHealthy selected.name = true := by
  obtain ⟨error, heq, _⟩ | ⟨pool, index, found, hpool, hscan, heq⟩ :=
    selectUpstream_cases registry excluded modelName
  · rw [heq] at h
    cases h
  · rw [heq] at h
    cases h
    obtain ⟨hget, heligible, _⟩ := CyclicScan.scan_some hscan
    simp only [eligible, Bool.and_eq_true, Bool.not_eq_true', decide_eq_false_iff_not] at heligible
    refine ⟨?_, heligible⟩
    simpa [RoutingRegistry.pool, hpool] using List.mem_of_getElem? hget

/-- A refused selection for a known model: nobody in the pool was left. -/
theorem selectUpstream_error {modelName : String} {error : RoutingError}
    (h : (selectUpstream registry modelName excluded).1 = .error error) :
    (selectUpstream registry modelName excluded).2 = registry ∧
      ∀ upstream ∈ registry.pool modelName,
        upstream.name ∈ excluded ∨ registry.isHealthy upstream.name = false := by
  obtain ⟨_, heq, hnone⟩ | ⟨_, _, _, _, _, heq⟩ := selectUpstream_cases registry excluded modelName
  · rw [heq]
    refine ⟨rfl, fun upstream hmem => ?_⟩
    have hnot := hnone upstream hmem
    simpa only [eligible, Bool.and_eq_false_iff, Bool.not_eq_false', decide_eq_true_eq] using hnot
  · rw [heq] at h
    cases h

theorem selectUpstream_pools (modelName : String) :
    (selectUpstream registry modelName excluded).2.modelToUpstreams =
      registry.modelToUpstreams := by
  obtain ⟨_, heq, _⟩ | ⟨_, _, _, _, _, heq⟩ := selectUpstream_cases registry excluded modelName <;>
    rw [heq]

end

/-! ## Pools list only upstreams that serve the model -/

/-- Every upstream indexed under a model is related to it. -/
def IndexAll (Q : String → UpstreamTarget → Prop) (index : List (String × List UpstreamTarget)) :
    Prop :=
  ∀ modelName upstreams, PyDict.get? index modelName = some upstreams →
    ∀ upstream ∈ upstreams, Q modelName upstream

theorem addToIndex_all {Q : String → UpstreamTarget → Prop} {upstream : UpstreamTarget}
    {index : List (String × List UpstreamTarget)} {modelName : String} (hQ : Q modelName upstream)
    (h : IndexAll Q index) : IndexAll Q (addToIndex upstream index modelName) := by
  intro other upstreams hget
  rw [addToIndex, PyDict.get?_set] at hget
  by_cases hother : other = modelName
  · subst hother
    simp only [if_true, Option.some.injEq] at hget
    subst hget
    intro u hu
    rw [List.mem_append, List.mem_singleton] at hu
    rcases hu with hu | rfl
    · rcases Option.eq_none_or_eq_some (PyDict.get? index other) with hnone | ⟨old, hold⟩
      · simp [hnone] at hu
      · exact h other old hold u (by simpa [hold] using hu)
    · exact hQ
  · simp only [hother, if_false] at hget
    exact h other upstreams hget

/-- What relates each upstream to the models it lists relates the index. -/
theorem buildModelIndex_all {Q : String → UpstreamTarget → Prop} {upstreams : List UpstreamTarget}
    (h : ∀ upstream ∈ upstreams, ∀ modelName ∈ upstream.models, Q modelName upstream) :
    IndexAll Q (buildModelIndex upstreams) := by
  unfold buildModelIndex
  refine List.foldlRecOn upstreams _ (fun _ _ hget => by cases hget) ?_
  intro index hindex upstream hmem
  exact List.foldlRecOn upstream.models _ hindex
    fun index hindex modelName hmodel => addToIndex_all (h upstream hmem modelName hmodel) hindex

def PoolsInhabited (index : List (String × List UpstreamTarget)) : Prop :=
  ∀ modelName pool, PyDict.get? index modelName = some pool → 0 < pool.length

theorem addToIndex_inhabited (upstream : UpstreamTarget)
    {index : List (String × List UpstreamTarget)} (modelName : String)
    (h : PoolsInhabited index) : PoolsInhabited (addToIndex upstream index modelName) := by
  intro other pool hget
  rw [addToIndex, PyDict.get?_set] at hget
  split at hget
  · cases hget
    simp only [List.length_append, List.length_singleton]
    omega
  · exact h other pool hget

theorem buildModelIndex_inhabited (upstreams : List UpstreamTarget) :
    PoolsInhabited (buildModelIndex upstreams) := by
  unfold buildModelIndex
  refine List.foldlRecOn upstreams _ (fun _ _ hget => by cases hget) ?_
  intro index hindex upstream _
  exact List.foldlRecOn upstream.models _ hindex
    fun index h modelName _ => addToIndex_inhabited upstream modelName h

theorem fromConfig_pool (config : AppConfig) (modelName : String) :
    ∀ upstream ∈ (RoutingRegistry.fromConfig config).pool modelName,
      upstream ∈ config.upstreams.map UpstreamTarget.ofConfig ∧ modelName ∈ upstream.models := by
  intro upstream hmem
  rcases Option.eq_none_or_eq_some (PyDict.get?
    (RoutingRegistry.fromConfig config).modelToUpstreams modelName) with hnone | ⟨pool, hpool⟩
  · simp [RoutingRegistry.pool, hnone] at hmem
  · have hall : IndexAll (fun modelName upstream =>
        upstream ∈ config.upstreams.map UpstreamTarget.ofConfig ∧ modelName ∈ upstream.models)
        (buildModelIndex (config.upstreams.map UpstreamTarget.ofConfig)) :=
      buildModelIndex_all fun upstream hupstream modelName hmodel => ⟨hupstream, hmodel⟩
    exact hall modelName pool hpool upstream (by simpa [RoutingRegistry.pool, hpool] using hmem)

theorem fromConfig_pool_serves (config : AppConfig) (modelName : String) :
    ∀ upstream ∈ (RoutingRegistry.fromConfig config).pool modelName,
      modelName ∈ upstream.models :=
  fun upstream hmem => (fromConfig_pool config modelName upstream hmem).2

/-- A model that the registry knows is listed by a configured upstream. -/
theorem fromConfig_known {config : AppConfig} {modelName : String} {pool : List UpstreamTarget}
    (h : getModelUpstreams (.fromConfig config) modelName = .ok pool) :
    ∃ upstream ∈ config.upstreams, modelName ∈ upstream.models := by
  simp only [getModelUpstreams] at h
  split at h
  · cases h
  · rename_i upstreams hget
    cases h
    obtain ⟨target, htarget⟩ := List.exists_mem_of_length_pos
      (buildModelIndex_inhabited _ modelName pool hget)
    obtain ⟨hconfigured, hserves⟩ := fromConfig_pool config modelName target
      (by simpa [RoutingRegistry.pool, hget] using htarget)
    obtain ⟨upstream, hupstream, rfl⟩ := List.mem_map.mp hconfigured
    exact ⟨upstream, hupstream, hserves⟩

end VllmSourceGateway.Routing
