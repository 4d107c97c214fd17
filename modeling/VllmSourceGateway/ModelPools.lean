import VllmSourceGateway.AvailabilityViews

set_option autoImplicit false

/-! When the pool of a model is a set. An upstream is in it as often as it lists
the model, and the validators leave a repeated name repeated. -/
namespace VllmSourceGateway.ModelPools
open Config Routing RoundRobin RoundRobinShares TransitionRuns SourceResolution ConfigValidation
open AcceptedConfig Availability AvailabilityViews Validation

section
variable {α : Type} (count : α → ℕ) (xs : List α)

theorem length_filter_le_flatMap :
    (xs.filter fun x => 0 < count x).length ≤
      (xs.flatMap fun x => List.replicate (count x) x).length := by
  induction xs with
  | nil => exact le_refl 0
  | cons x xs ih =>
    rw [List.filter_cons, List.flatMap_cons, List.length_append, List.length_replicate]
    split
    · rename_i hpos
      rw [List.length_cons]
      have hcount : 0 < count x := of_decide_eq_true hpos
      omega
    · omega

theorem flatMap_replicate_eq_filter_iff :
    xs.flatMap (fun x => List.replicate (count x) x) = xs.filter (fun x => 0 < count x) ↔
      ∀ x ∈ xs, count x ≤ 1 := by
  induction xs with
  | nil => simp
  | cons x xs ih =>
    rw [List.flatMap_cons, List.filter_cons, List.forall_mem_cons, ← ih]
    have hlength := length_filter_le_flatMap count xs
    rcases hcount : count x with _ | _ | n
    · simp
    · simp
    · refine iff_of_false (fun heq => ?_) (fun hone => absurd hone.1 (by omega))
      have hlengths := congrArg List.length heq
      simp only [List.length_append, List.length_replicate, Nat.zero_lt_succ, decide_true, if_true,
        List.length_cons] at hlengths
      omega

end

def servers (config : AppConfig) (modelName : String) : List UpstreamTarget :=
  (targets config).filter fun target => modelName ∈ target.models

theorem servers_nodup (config : AppConfig) (modelName : String) :
    (servers config modelName).Nodup := by
  refine List.Nodup.filter _ (List.Nodup.of_map UpstreamTarget.name ?_)
  rw [targets, List.map_map]
  exact config.upstreamNames_nodup

/-- The pool of a model is the set of its upstreams, and so counted and visited. -/
structure PoolIsSet (config : AppConfig) (modelName : String) : Prop where
  pool : ∀ registry pool, Reachable registryStep (.fromConfig config) registry →
    getModelUpstreams registry modelName = .ok pool → pool = servers config modelName
  total : ∀ registry, Reachable registryStep (.fromConfig config) registry →
    ∀ entry ∈ (listModelsEndpoint registry).data, entry.id = modelName →
      entry.totalUpstreams = (servers config modelName).length
  turns : ∀ registry registry' calls pool, Reachable registryStep (.fromConfig config) registry →
    Run registryStep registry calls registry' →
    getModelUpstreams registry modelName = .ok pool →
    (∀ upstream ∈ pool, registry.isHealthy upstream.name = true) →
    (∀ turn ∈ selections modelName calls, Selection.Steady registry pool turn) →
    (selections modelName calls).length ≤ pool.length →
    ((selections modelName calls).map Selection.selected).Nodup

section
variable {config : AppConfig} {registry registry' : RoutingRegistry} {modelName : String}
  {pool : List UpstreamTarget}

theorem getModelUpstreams_ok_iff : getModelUpstreams registry modelName = .ok pool ↔
    PyDict.get? registry.modelToUpstreams modelName = some pool := by
  simp only [getModelUpstreams]
  cases PyDict.get? registry.modelToUpstreams modelName <;> simp

/-- Whoever lists the model is in the pool, as often as it lists it. -/
theorem pool_eq (hreach : Reachable registryStep (.fromConfig config) registry)
    (hpool : getModelUpstreams registry modelName = .ok pool) :
    pool = (targets config).flatMap fun target =>
      List.replicate (target.models.count modelName) target := by
  have hkept : RegistryKept (targets config) registry := registry_kept hreach
  rw [getModelUpstreams_ok_iff, hkept.pools] at hpool
  rw [← poolIn_buildModelIndex, poolIn, hpool, Option.getD_some]

theorem pool_eq_servers_iff (hreach : Reachable registryStep (.fromConfig config) registry)
    (hpool : getModelUpstreams registry modelName = .ok pool) :
    pool = servers config modelName ↔
      ∀ upstream ∈ config.upstreams, upstream.models.count modelName ≤ 1 := by
  have hservers : servers config modelName =
      (targets config).filter fun target => 0 < target.models.count modelName := by
    simp only [servers, List.count_pos_iff]
  rw [pool_eq hreach hpool, hservers]
  exact (flatMap_replicate_eq_filter_iff
    (fun target : UpstreamTarget => target.models.count modelName) _).trans List.forall_mem_map

/-- In a pool without repetitions nobody has two of as many turns as there are
entries. -/
theorem turns_nodup {calls : List (RoutingRegistry × RegistryCall)}
    (run : Run registryStep registry calls registry')
    (hpool : PyDict.get? registry.modelToUpstreams modelName = some pool) (hnodup : pool.Nodup)
    (hhealthy : ∀ upstream ∈ pool, registry.isHealthy upstream.name = true)
    (hsteady : ∀ turn ∈ selections modelName calls, Selection.Steady registry pool turn)
    (hlength : (selections modelName calls).length ≤ pool.length) :
    ((selections modelName calls).map Selection.selected).Nodup := by
  have horder : turnOrder registry modelName pool = fromPointer registry modelName pool :=
    List.filter_eq_self.mpr fun upstream hmem => hhealthy upstream (List.mem_rotate.mp hmem)
  have hrotated : (turnOrder registry modelName pool).Nodup := by
    rw [horder]
    exact List.nodup_rotate.mpr hnodup
  have hle : (selections modelName calls).length ≤ (turnOrder registry modelName pool).length := by
    rw [horder, fromPointer, List.length_rotate]
    exact hlength
  rw [(run_turns run hpool hsteady).2.2, CyclicScan.turns_take hle]
  exact hrotated.take

theorem poolIsSet_iff (hmodel : modelName ∈ configModelNames config) :
    PoolIsSet config modelName ↔
      ∀ upstream ∈ config.upstreams, upstream.models.count modelName ≤ 1 := by
  constructor
  · intro hset
    have hstart : Reachable registryStep (.fromConfig config) (.fromConfig config) := .refl
    rw [← index_names, PyDict.mem_sortedNames, ← PyDict.get?_isSome_iff] at hmodel
    obtain ⟨pool, hpool⟩ := Option.isSome_iff_exists.mp hmodel
    have hget : getModelUpstreams (.fromConfig config) modelName = .ok pool :=
      getModelUpstreams_ok_iff.mpr hpool
    exact (pool_eq_servers_iff hstart hget).mp (hset.pool _ pool hstart hget)
  · intro honce
    have hpools (registry : RoutingRegistry) (pool : List UpstreamTarget)
        (hreach : Reachable registryStep (.fromConfig config) registry)
        (hpool : getModelUpstreams registry modelName = .ok pool) :
        pool = servers config modelName := (pool_eq_servers_iff hreach hpool).mpr honce
    refine ⟨hpools, ?_, ?_⟩
    · intro registry hreach entry hentry hid
      obtain ⟨model, hlisted, rfl⟩ := List.mem_map.mp hentry
      obtain ⟨name, pool, hget, rfl⟩ := (mem_listModels (registry_kept hreach)).mp hlisted
      obtain rfl : name = modelName := hid
      exact congrArg List.length (hpools registry pool hreach (getModelUpstreams_ok_iff.mpr hget))
    · intro registry registry' calls pool hreach run hpool hhealthy hsteady hlength
      have hnodup : pool.Nodup := by
        rw [hpools registry pool hreach hpool]
        exact servers_nodup config modelName
      exact turns_nodup run (getModelUpstreams_ok_iff.mp hpool) hnodup hhealthy hsteady hlength

end

/-- The model names of the configuration file, stripped, are what is counted. -/
theorem models_count_iff {env : Environment} {raw : RawAppConfig} {config : GatewayConfig}
    (haccepted : validateAppConfig env raw = .ok config) (modelName : String) :
    (∀ upstream ∈ config.upstreams, upstream.models.count modelName ≤ 1) ↔
      ∀ upstream ∈ raw.upstreams, (strippedNonEmpty upstream.models).count modelName ≤ 1 := by
  have hupstreams := (validateAppConfig_ok haccepted).upstreams
  constructor
  · intro honce upstream hupstream
    obtain ⟨validated, hmem, hvalid⟩ := result_of_mem hupstreams hupstream
    rw [← (validateModels_ok hvalid).2.1]
    exact honce validated hmem
  · intro honce upstream hupstream
    obtain ⟨rawUpstream, hmem, hvalid⟩ := source_of_mem hupstreams hupstream
    rw [(validateModels_ok hvalid).2.1]
    exact honce rawUpstream hmem

theorem model_pools_iff {env : Environment} {raw : RawAppConfig} {config : GatewayConfig}
    (haccepted : validateAppConfig env raw = .ok config) {modelName : String}
    (hmodel : modelName ∈ configModelNames config.toAppConfig) :
    (servers config.toAppConfig modelName).Nodup ∧
      (PoolIsSet config.toAppConfig modelName ↔
        ∀ upstream ∈ raw.upstreams, (strippedNonEmpty upstream.models).count modelName ≤ 1) :=
  ⟨servers_nodup config.toAppConfig modelName,
    (poolIsSet_iff hmodel).trans (models_count_iff haccepted modelName)⟩

theorem model_pools_iff_sample : PoolIsSet sampleConfig.toAppConfig "llama" :=
  (model_pools_iff sampleRaw_accepted (by decide +kernel)).2.mpr (by decide +kernel)

/-- The first upstream lists the model twice, once with spaces. -/
def repeatedRaw : RawAppConfig :=
  { sampleRaw with
    upstreams :=
      [⟨"vllm-a", "http://a:8000/", ["llama", " llama "], none⟩,
        ⟨"vllm-b", "http://b:8000/", ["llama", "qwen"], none⟩]
    upstreams_nonempty := List.cons_ne_nil _ _ }

theorem repeatedRaw_isOk :
    (validateAppConfig sampleEnvironment repeatedRaw).toOption.isSome = true := by decide +kernel

theorem repeated_name_in_pool :
    ¬ ∀ (env : Environment) (raw : RawAppConfig) (config : GatewayConfig) (modelName : String),
        validateAppConfig env raw = .ok config → modelName ∈ configModelNames config.toAppConfig →
        PoolIsSet config.toAppConfig modelName := by
  intro h
  have hset := h sampleEnvironment repeatedRaw _ "llama" (eq_ok_get repeatedRaw_isOk)
    (by decide +kernel)
  have honce := (poolIsSet_iff (by decide +kernel)).mp hset
  exact absurd honce (by decide +kernel)

end VllmSourceGateway.ModelPools
