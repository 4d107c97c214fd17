import VllmSourceGateway.Availability

set_option autoImplicit false

/-! The configuration, the model index, the health map, the catalog and the
readiness probe tell the same story. -/
namespace VllmSourceGateway.AvailabilityViews
open Config Routing RoundRobin RoundRobinShares TransitionRuns SourceResolution ConfigValidation
open AcceptedConfig Availability Validation

theorem get?_foldl_set {α β : Type} (key : α → String) (value : α → β) (xs : List α)
    (d : List (String × β)) (name : String) :
    (PyDict.get? (xs.foldl (fun d x => PyDict.set d (key x) (value x)) d) name).isSome = true ↔
      (PyDict.get? d name).isSome = true ∨ name ∈ xs.map key := by
  induction xs generalizing d with
  | nil => simp
  | cons x xs ih =>
    rw [List.foldl_cons, ih, PyDict.get?_set]
    by_cases hname : name = key x
    · simp [hname]
    · simp [hname]

theorem foldl_set_unique {α β : Type} (key : α → String) (value : α → β) (xs : List α)
    {d : List (String × β)} (h : PyDict.Unique d) :
    PyDict.Unique (xs.foldl (fun d x => PyDict.set d (key x) (value x)) d) :=
  List.foldlRecOn xs _ h fun _ hd x _ => PyDict.set_unique hd (key x) (value x)

structure RegistryKept (upstreams : List UpstreamTarget) (registry : RoutingRegistry) : Prop where
  pools : registry.modelToUpstreams = buildModelIndex upstreams
  names : ∀ name, (PyDict.get? registry.healthByName name).isSome = true ↔
    name ∈ upstreams.map UpstreamTarget.name
  unique : PyDict.Unique registry.healthByName

theorem setUpstreamHealth_kept {upstreams : List UpstreamTarget}
    {registry registry' : RoutingRegistry} {upstreamName : String} {healthy : Bool}
    {lastProbeAt lastSuccessAt : Option String} {lastStatusCode : Option ℕ}
    {lastError : Option String} (h : setUpstreamHealth registry upstreamName healthy lastProbeAt
      lastSuccessAt lastStatusCode lastError = .ok registry')
    (hkept : RegistryKept upstreams registry) : RegistryKept upstreams registry' := by
  simp only [setUpstreamHealth] at h
  split at h
  · rename_i hprevious
    cases h
    refine ⟨hkept.pools, fun name => ?_, PyDict.set_unique hkept.unique _ _⟩
    rw [← hkept.names, PyDict.get?_set]
    by_cases hname : name = upstreamName
    · simp [hname, hprevious]
    · simp [hname]
  · cases h

theorem registry_kept {upstreams : List UpstreamTarget} {registry : RoutingRegistry}
    (h : Reachable registryStep (.init upstreams) registry) : RegistryKept upstreams registry := by
  refine h.invariant (RegistryKept upstreams) ⟨rfl, fun name => ?_, ?_⟩ ?_
  · rw [RoutingRegistry.init, get?_foldl_set UpstreamTarget.name]
    simp [PyDict.get?]
  · exact foldl_set_unique UpstreamTarget.name _ upstreams List.nodup_nil
  · intro registry call next _ hinv hstep
    cases hstep
    cases call with
    | select modelName excluded =>
      obtain ⟨_, heq, _⟩ | ⟨_, _, _, _, _, heq⟩ := selectUpstream_cases registry excluded modelName
      · simp only [applyCall, heq]
        exact hinv
      · simp only [applyCall, heq]
        exact ⟨hinv.pools, hinv.names, hinv.unique⟩
    | setHealth =>
      simp only [applyCall]
      split
      · rename_i hset
        exact setUpstreamHealth_kept hset hinv
      · exact hinv

section
variable {upstreams : List UpstreamTarget} {registry : RoutingRegistry}

theorem isHealthy_iff (hkept : RegistryKept upstreams registry) (name : String) :
    registry.isHealthy name = true ↔
      ∃ state, (name, state) ∈ registry.healthByName ∧ state.healthy = true := by
  simp only [RoutingRegistry.isHealthy, ← PyDict.get?_eq_some_iff hkept.unique]
  cases PyDict.get? registry.healthByName name <;> simp

theorem mem_listModels (hkept : RegistryKept upstreams registry) {model : ModelAvailability} :
    model ∈ listModels registry ↔ ∃ modelName pool,
      PyDict.get? registry.modelToUpstreams modelName = some pool ∧
        model = availabilityOf registry modelName pool := by
  have hunique : PyDict.Unique registry.modelToUpstreams := by
    rw [hkept.pools]
    exact buildModelIndex_unique upstreams
  simp only [listModels, List.mem_map, PyDict.mem_sortedItems]
  constructor
  · rintro ⟨⟨modelName, pool⟩, hmem, rfl⟩
    exact ⟨modelName, pool, (PyDict.get?_eq_some_iff hunique).mpr hmem, rfl⟩
  · rintro ⟨modelName, pool, hget, rfl⟩
    exact ⟨(modelName, pool), PyDict.mem_of_get? hget, rfl⟩

/-- A model with somebody healthy in its pool, or not: what each view says. -/
inductive Told (registry : RoutingRegistry) (model : ModelAvailability) : Prop where
  | up (upstream : UpstreamTarget)
      (hhealthy : upstream ∈ registry.pool model.modelName ∧
        registry.isHealthy upstream.name = true)
      (hstatus : model.status = .online) (hcatalog : catalogStatus model ≠ .offline)
      (hselect : ∃ selected, (selectUpstream registry model.modelName []).1 = .ok selected)
  | down (hhealthy : ∀ upstream ∈ registry.pool model.modelName,
        registry.isHealthy upstream.name = false)
      (hstatus : model.status = .unavailable) (hcatalog : catalogStatus model = .offline)
      (hselect : (selectUpstream registry model.modelName []).1 =
        .error (.noHealthyUpstream model.modelName))

theorem told {modelName : String} {pool : List UpstreamTarget}
    (hpool : PyDict.get? registry.modelToUpstreams modelName = some pool) :
    Told registry (availabilityOf registry modelName pool) := by
  have hpoolOf : registry.pool modelName = pool := by simp [RoutingRegistry.pool, hpool]
  have hrefused := selectUpstream_refused_iff hpool []
  simp only [List.not_mem_nil, or_false] at hrefused
  by_cases hnobody : ∀ upstream ∈ pool, registry.isHealthy upstream.name = false
  · have hcount : (availabilityOf registry modelName pool).healthyUpstreamCount = 0 := by
      simp only [availabilityOf, List.countP_eq_zero]
      exact fun upstream hupstream => by simp [hnobody upstream hupstream]
    refine .down ?_ ?_ ?_ (hrefused.mpr hnobody)
    · rw [show (availabilityOf registry modelName pool).modelName = modelName from rfl, hpoolOf]
      exact hnobody
    · simp [ModelAvailability.status, hcount]
    · simp [catalogStatus, hcount]
  · have hrefusedNot := mt hrefused.mp hnobody
    push Not at hnobody
    obtain ⟨upstream, hupstream, hhealthy⟩ := hnobody
    rw [ne_eq, Bool.not_eq_false] at hhealthy
    have hcount : 0 < (availabilityOf registry modelName pool).healthyUpstreamCount := by
      simp only [availabilityOf, List.countP_pos_iff]
      exact ⟨upstream, hupstream, hhealthy⟩
    refine .up upstream ⟨by rw [← hpoolOf] at hupstream; exact hupstream, hhealthy⟩ ?_ ?_ ?_
    · simp [ModelAvailability.status, hcount]
    · simp only [catalogStatus, hcount.ne', if_false]
      split <;> decide
    · rw [selectUpstream_first hpool] at hrefusedNot
      dsimp only [availabilityOf]
      rw [selectUpstream_first hpool]
      cases hhead : ((fromPointer registry modelName pool).filter (eligible registry [])).head? with
      | none => simp [hhead] at hrefusedNot
      | some selected => exact ⟨selected, rfl⟩

/-- The catalog and the selection follow the status. -/
theorem Told.agree {model : ModelAvailability} (h : Told registry model) :
    (model.status = .online ↔ catalogStatus model = .online ∨ catalogStatus model = .degraded) ∧
      (model.status = .online ↔
        ∃ selected, (selectUpstream registry model.modelName []).1 = .ok selected) ∧
      (model.status = .unavailable ↔ catalogStatus model = .offline) ∧
      (model.status = .unavailable ↔ (selectUpstream registry model.modelName []).1 =
        .error (.noHealthyUpstream model.modelName)) := by
  cases h with
  | up _ _ hstatus hcatalog hselect =>
    obtain ⟨selected, hselected⟩ := hselect
    rw [hstatus, hselected]
    cases hcase : catalogStatus model <;> simp_all
  | down _ hstatus hcatalog hselect =>
    rw [hstatus, hselect, hcatalog]
    simp

theorem readiness_healthy (registry : RoutingRegistry) :
    (buildReadinessPayload registry).1 = 200 ↔
      ∃ item ∈ registry.healthByName, item.2.healthy = true := by
  have hcount : 0 < (healthSnapshots registry).countP (fun snapshot => snapshot.healthy) ↔
      ∃ item ∈ registry.healthByName, item.2.healthy = true := by
    simp only [healthSnapshots, List.countP_map, List.countP_pos_iff, PyDict.mem_sortedItems,
      Function.comp_apply]
  simp only [buildReadinessPayload, decide_eq_true_eq]
  rw [← hcount]
  split
  · rename_i hup
    exact iff_of_true rfl hup
  · rename_i hdown
    exact iff_of_false (by decide) hdown

end

section
variable {config : AppConfig} {registry : RoutingRegistry}

abbrev targets (config : AppConfig) : List UpstreamTarget :=
  config.upstreams.map UpstreamTarget.ofConfig

theorem index_names (config : AppConfig) :
    PyDict.sortedNames ((buildModelIndex (targets config)).map Prod.fst) =
      configModelNames config := by
  apply PyDict.sortedNames_congr
  intro modelName
  rw [buildModelIndex_models, List.mem_flatMap]
  constructor
  · rintro ⟨target, htarget, hmodel⟩
    obtain ⟨upstream, hupstream, rfl⟩ := List.mem_map.mp htarget
    exact ⟨upstream, hupstream, hmodel⟩
  · rintro ⟨upstream, hupstream, hmodel⟩
    exact ⟨_, List.mem_map_of_mem hupstream, hmodel⟩

theorem listModels_names (hkept : RegistryKept (targets config) registry) :
    (listModels registry).map ModelAvailability.modelName = configModelNames config := by
  have hnames : (listModels registry).map ModelAvailability.modelName =
      (PyDict.sortedItems registry.modelToUpstreams).map Prod.fst := by
    simp only [listModels, List.map_map]
    rfl
  rw [hnames, hkept.pools, PyDict.sortedItems_keys (buildModelIndex_unique _), index_names]

theorem registryModelNames_eq (hkept : RegistryKept (targets config) registry) :
    registryModelNames registry = configModelNames config := by
  rw [← index_names, PyDict.sortedNames, List.Nodup.dedup (buildModelIndex_unique _),
    registryModelNames, hkept.pools]

theorem unknown_refused (hkept : RegistryKept (targets config) registry) {modelName : String}
    (h : modelName ∉ configModelNames config) :
    getModelUpstreams registry modelName = .error (.unknownModel modelName) ∧
      ∀ excluded, (selectUpstream registry modelName excluded).1 =
        .error (.unknownModel modelName) := by
  have hnone : PyDict.get? registry.modelToUpstreams modelName = none := by
    rw [← index_names, PyDict.mem_sortedNames, ← hkept.pools, ← PyDict.get?_isSome_iff,
      Option.not_isSome_iff_eq_none] at h
    exact h
  simp only [getModelUpstreams, selectUpstream, hnone]
  exact ⟨trivial, fun _ => trivial⟩

/-- An upstream is in the pool of each model that it lists. -/
theorem served_pool (hkept : RegistryKept (targets config) registry) {upstream : UpstreamConfig}
    (hupstream : upstream ∈ config.upstreams) {modelName : String}
    (hmodel : modelName ∈ upstream.models) :
    ∃ pool, PyDict.get? registry.modelToUpstreams modelName = some pool ∧
      .ofConfig upstream ∈ pool := by
  have hserved : UpstreamTarget.ofConfig upstream ∈
      poolIn registry.modelToUpstreams modelName := by
    rw [hkept.pools, poolIn_buildModelIndex, List.mem_flatMap]
    exact ⟨_, List.mem_map_of_mem hupstream,
      List.mem_replicate.mpr ⟨(List.count_pos_iff.mpr hmodel).ne', rfl⟩⟩
  rcases Option.eq_none_or_eq_some (PyDict.get? registry.modelToUpstreams modelName) with
    hnone | ⟨pool, hsome⟩
  · simp [poolIn, hnone] at hserved
  · rw [poolIn, hsome, Option.getD_some] at hserved
    exact ⟨pool, hsome, hserved⟩

/-- Somebody is healthy exactly if some model is online, as every upstream serves
a model. -/
theorem readiness_iff (hkept : RegistryKept (targets config) registry)
    (hserves : ∀ upstream ∈ config.upstreams, upstream.models ≠ []) :
    (buildReadinessPayload registry).1 = 200 ↔
      ∃ model ∈ listModels registry, model.status = .online := by
  rw [readiness_healthy]
  constructor
  · rintro ⟨⟨name, state⟩, hmem, hhealthy⟩
    have hname : name ∈ (targets config).map UpstreamTarget.name := by
      rw [← hkept.names, (PyDict.get?_eq_some_iff hkept.unique).mpr hmem]
      rfl
    obtain ⟨target, htarget, rfl⟩ := List.mem_map.mp hname
    obtain ⟨upstream, hupstream, rfl⟩ := List.mem_map.mp htarget
    obtain ⟨modelName, hmodel⟩ := List.exists_mem_of_ne_nil _ (hserves upstream hupstream)
    obtain ⟨pool, hsome, hserved⟩ := served_pool hkept hupstream hmodel
    refine ⟨_, (mem_listModels hkept).mpr ⟨modelName, pool, hsome, rfl⟩, ?_⟩
    have hup := (isHealthy_iff hkept (UpstreamTarget.ofConfig upstream).name).mpr
      ⟨state, hmem, hhealthy⟩
    have hpool : registry.pool modelName = pool := by simp [RoutingRegistry.pool, hsome]
    cases told hsome with
    | up _ _ hstatus => exact hstatus
    | down hdown =>
      rw [hdown _ (hpool ▸ hserved)] at hup
      cases hup
  · rintro ⟨model, hmodel, hstatus⟩
    obtain ⟨modelName, pool, hsome, rfl⟩ := (mem_listModels hkept).mp hmodel
    cases told hsome with
    | up upstream hup =>
      obtain ⟨state, hmem, hhealthy⟩ := (isHealthy_iff hkept _).mp hup.2
      exact ⟨_, hmem, hhealthy⟩
    | down _ hdown =>
      rw [hstatus] at hdown
      cases hdown

end

/-- In every state that changes of health (and selections) lead to. -/
theorem availability_views_agree {env : Environment} {raw : RawAppConfig} {config : GatewayConfig}
    (haccepted : validateAppConfig env raw = .ok config) {registry : RoutingRegistry}
    (hreach : Reachable registryStep (.fromConfig config.toAppConfig) registry) :
    ((listModelsEndpoint registry).data.map ModelObject.id = configModelNames config.toAppConfig ∧
        registryModelNames registry = configModelNames config.toAppConfig ∧
        (configModelNames config.toAppConfig).Pairwise (· < ·)) ∧
      (∀ model ∈ listModels registry,
        ((modelObject model).status = .online ↔
            catalogStatus model = .online ∨ catalogStatus model = .degraded) ∧
          ((modelObject model).status = .online ↔
            ∃ selected, (selectUpstream registry model.modelName []).1 = .ok selected) ∧
          ((modelObject model).status = .unavailable ↔ catalogStatus model = .offline) ∧
          ((modelObject model).status = .unavailable ↔
            (selectUpstream registry model.modelName []).1 =
              .error (.noHealthyUpstream model.modelName))) ∧
      (∀ modelName ∉ configModelNames config.toAppConfig,
        getModelUpstreams registry modelName = .error (.unknownModel modelName) ∧
          ∀ excluded, (selectUpstream registry modelName excluded).1 =
            .error (.unknownModel modelName)) ∧
      ((buildReadinessPayload registry).1 = 200 ↔
        ∃ entry ∈ (listModelsEndpoint registry).data, entry.status = .online) ∧
      (summaryCards (listModels registry)).2.online +
          (summaryCards (listModels registry)).2.degraded +
          (summaryCards (listModels registry)).2.offline =
        (configModelNames config.toAppConfig).length := by
  have hkept : RegistryKept (targets config.toAppConfig) registry := registry_kept hreach
  have hnames := listModels_names hkept
  have hserves : ∀ upstream ∈ config.upstreams, upstream.models ≠ [] := by
    intro upstream hupstream
    obtain ⟨_, _, hvalid⟩ := source_of_mem (validateAppConfig_ok haccepted).upstreams hupstream
    exact (validateModels_ok hvalid).2.2
  refine ⟨⟨?_, registryModelNames_eq hkept, PyDict.sortedNames_strict _⟩, ?_,
    fun modelName hmodelName => unknown_refused hkept hmodelName, ?_, ?_⟩
  · rw [← hnames, listModelsEndpoint, List.map_map]
    rfl
  · intro model hmodel
    obtain ⟨modelName, pool, hsome, rfl⟩ := (mem_listModels hkept).mp hmodel
    exact (told hsome).agree
  · rw [readiness_iff hkept hserves, listModelsEndpoint]
    simp only [List.mem_map, exists_exists_and_eq_and]
    rfl
  · have hsum := summaryCards_sum (listModels registry) ⟨0, 0, 0⟩
    rw [← hnames, List.length_map]
    simpa [summaryCards] using hsum

/-- One of two replicas is down, and with it the only upstream of a model. -/
def replicaDown : RoutingRegistry :=
  applyCall (.fromConfig sampleConfig.toAppConfig) (.setHealth "vllm-a" false none none none none)

theorem availability_views_agree_replicaDown :
    (listModelsEndpoint replicaDown).data.map ModelObject.id = ["llama", "qwen"] ∧
      (buildReadinessPayload replicaDown).1 = 200 ∧
      (selectUpstream replicaDown "gpt" []).1 = .error (.unknownModel "gpt") := by
  have hreach : Reachable registryStep (.fromConfig sampleConfig.toAppConfig) replicaDown :=
    Reachable.refl.next (e := .setHealth "vllm-a" false none none none none) rfl
  obtain ⟨hnames, _, hunknown, hready, _⟩ := availability_views_agree sampleRaw_accepted hreach
  refine ⟨hnames.1.trans (by decide +kernel), hready.mpr (by decide +kernel), ?_⟩
  exact (hunknown "gpt" (by decide +kernel)).2 []

end VllmSourceGateway.AvailabilityViews
