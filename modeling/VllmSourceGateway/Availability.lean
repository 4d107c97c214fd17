import VllmSourceGateway.AcceptedConfig
import VllmSourceGateway.RoundRobinShares

set_option autoImplicit false

/-! What the gateway tells about its models and upstreams: `/v1/models`, `/readyz`,
the model catalog's states and its summary. Markup is left out. -/
namespace VllmSourceGateway.Availability
open Config Routing RoundRobin TransitionRuns SourceResolution AcceptedConfig ConfigValidation

inductive ModelStatus where
  | online
  | unavailable
  deriving DecidableEq

structure ModelAvailability where
  modelName : String
  totalUpstreamCount : ℕ
  healthyUpstreamCount : ℕ

def ModelAvailability.status (model : ModelAvailability) : ModelStatus :=
  if 0 < model.healthyUpstreamCount then .online else .unavailable

structure UpstreamHealthSnapshot extends UpstreamHealthState where
  upstreamName : String

def availabilityOf (registry : RoutingRegistry) (modelName : String)
    (upstreams : List UpstreamTarget) : ModelAvailability :=
  ⟨modelName, upstreams.length, upstreams.countP fun upstream => registry.isHealthy upstream.name⟩

def listModels (registry : RoutingRegistry) : List ModelAvailability :=
  (PyDict.sortedItems registry.modelToUpstreams).map fun item =>
    availabilityOf registry item.1 item.2

def registryModelNames (registry : RoutingRegistry) : List String :=
  (registry.modelToUpstreams.map Prod.fst).insertionSort (· ≤ ·)

def healthSnapshots (registry : RoutingRegistry) : List UpstreamHealthSnapshot :=
  (PyDict.sortedItems registry.healthByName).map fun item => ⟨item.2, item.1⟩

/-- `AppConfig.model_names`. -/
def configModelNames (config : AppConfig) : List String :=
  PyDict.sortedNames (config.upstreams.flatMap UpstreamConfig.models)

structure ModelObject where
  id : String
  object : String
  status : ModelStatus
  healthyUpstreams : ℕ
  totalUpstreams : ℕ

structure ModelList where
  object : String
  data : List ModelObject

def modelObject (model : ModelAvailability) : ModelObject :=
  ⟨model.modelName, "model", model.status, model.healthyUpstreamCount, model.totalUpstreamCount⟩

def listModelsEndpoint (registry : RoutingRegistry) : ModelList :=
  ⟨"list", (listModels registry).map modelObject⟩

structure ReadinessPayload where
  status : String
  healthyUpstreamCount : ℕ
  totalUpstreamCount : ℕ
  upstreams : List UpstreamHealthSnapshot

def buildReadinessPayload (registry : RoutingRegistry) : ℕ × ReadinessPayload :=
  let snapshots := healthSnapshots registry
  let healthyUpstreamCount := snapshots.countP fun snapshot => snapshot.healthy
  let ready := decide (0 < healthyUpstreamCount)
  (if ready then 200 else 503,
    ⟨if ready then "ok" else "not_ready", healthyUpstreamCount, snapshots.length, snapshots⟩)

inductive CatalogStatus where
  | online
  | degraded
  | offline
  deriving DecidableEq

def catalogStatus (model : ModelAvailability) : CatalogStatus :=
  if model.healthyUpstreamCount = 0 then .offline
  else if model.healthyUpstreamCount < model.totalUpstreamCount then .degraded
  else .online

structure SummaryCounts where
  online : ℕ
  degraded : ℕ
  offline : ℕ

def SummaryCounts.add (counts : SummaryCounts) : CatalogStatus → SummaryCounts
  | .online => { counts with online := counts.online + 1 }
  | .degraded => { counts with degraded := counts.degraded + 1 }
  | .offline => { counts with offline := counts.offline + 1 }

def summaryCards (models : List ModelAvailability) : ℕ × SummaryCounts :=
  (models.length, models.foldl (fun counts model => counts.add (catalogStatus model)) ⟨0, 0, 0⟩)

theorem summaryCards_sum (models : List ModelAvailability) (counts : SummaryCounts) :
    let after := models.foldl (fun counts model => counts.add (catalogStatus model)) counts
    after.online + after.degraded + after.offline =
      counts.online + counts.degraded + counts.offline + models.length := by
  induction models generalizing counts with
  | nil => rfl
  | cons model models ih =>
    have hadd : (counts.add (catalogStatus model)).online +
        (counts.add (catalogStatus model)).degraded + (counts.add (catalogStatus model)).offline =
          counts.online + counts.degraded + counts.offline + 1 := by
      cases catalogStatus model <;> simp only [SummaryCounts.add] <;> omega
    have hrest := ih (counts.add (catalogStatus model))
    simp only [List.foldl_cons, List.length_cons] at hrest ⊢
    omega

/-! ## The index that the registry is built with -/

def poolIn (index : List (String × List UpstreamTarget)) (modelName : String) :
    List UpstreamTarget := (PyDict.get? index modelName).getD []

theorem poolIn_addToIndex (upstream : UpstreamTarget) (index : List (String × List UpstreamTarget))
    (listed modelName : String) :
    poolIn (addToIndex upstream index listed) modelName =
      poolIn index modelName ++ if listed = modelName then [upstream] else [] := by
  simp only [poolIn, addToIndex, PyDict.get?_set]
  by_cases hname : modelName = listed
  · subst hname
    simp
  · simp [hname, Ne.symm hname]

theorem poolIn_models (upstream : UpstreamTarget) (models : List String)
    (index : List (String × List UpstreamTarget)) (modelName : String) :
    poolIn (models.foldl (addToIndex upstream) index) modelName =
      poolIn index modelName ++ List.replicate (models.count modelName) upstream := by
  induction models generalizing index with
  | nil => simp
  | cons listed models ih =>
    rw [List.foldl_cons, ih, poolIn_addToIndex, List.append_assoc, List.count_cons]
    by_cases hname : listed = modelName
    · simp [hname, List.replicate_succ]
    · simp [hname]

/-- Each upstream is in a model's pool as often as it lists the model. -/
theorem poolIn_buildModelIndex (upstreams : List UpstreamTarget) (modelName : String) :
    poolIn (buildModelIndex upstreams) modelName =
      upstreams.flatMap fun upstream =>
        List.replicate (upstream.models.count modelName) upstream := by
  have hfold (index : List (String × List UpstreamTarget)) :
      poolIn (upstreams.foldl (fun index upstream =>
        upstream.models.foldl (addToIndex upstream) index) index) modelName =
      poolIn index modelName ++ upstreams.flatMap fun upstream =>
        List.replicate (upstream.models.count modelName) upstream := by
    induction upstreams generalizing index with
    | nil => simp
    | cons upstream upstreams ih =>
      rw [List.foldl_cons, ih, poolIn_models, List.flatMap_cons, List.append_assoc]
  exact hfold []

theorem buildModelIndex_unique (upstreams : List UpstreamTarget) :
    PyDict.Unique (buildModelIndex upstreams) := by
  unfold buildModelIndex
  refine List.foldlRecOn upstreams _ (List.nodup_nil : PyDict.Unique []) ?_
  intro index hindex upstream _
  exact List.foldlRecOn upstream.models _ hindex
    fun index hindex modelName _ => PyDict.set_unique hindex _ _

/-- The models that are indexed are those that some upstream lists. -/
theorem buildModelIndex_models (upstreams : List UpstreamTarget) (modelName : String) :
    modelName ∈ (buildModelIndex upstreams).map Prod.fst ↔
      ∃ upstream ∈ upstreams, modelName ∈ upstream.models := by
  rw [← PyDict.get?_isSome_iff]
  have hpool := poolIn_buildModelIndex upstreams modelName
  have hinhabited := buildModelIndex_inhabited upstreams modelName
  rw [poolIn] at hpool
  rcases Option.eq_none_or_eq_some (PyDict.get? (buildModelIndex upstreams) modelName) with
    hnone | ⟨pool, hsome⟩
  · rw [hnone] at hpool ⊢
    simp only [Option.isSome_none, Bool.false_eq_true, false_iff, not_exists, not_and]
    intro upstream hupstream hmodel
    have hempty := List.flatMap_eq_nil_iff.mp hpool.symm upstream hupstream
    rw [List.replicate_eq_nil_iff] at hempty
    exact List.count_pos_iff.mpr hmodel |>.ne' hempty
  · rw [hsome] at hpool ⊢
    simp only [Option.isSome_some, true_iff]
    obtain ⟨upstream, hupstream⟩ := List.exists_mem_of_length_pos (hinhabited pool hsome)
    rw [Option.getD_some] at hpool
    rw [hpool] at hupstream
    obtain ⟨other, hother, hmem⟩ := List.mem_flatMap.mp hupstream
    exact ⟨other, hother, List.count_pos_iff.mp (by
      rw [List.mem_replicate] at hmem
      omega)⟩

end VllmSourceGateway.Availability
