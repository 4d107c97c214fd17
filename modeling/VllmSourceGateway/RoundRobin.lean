import VllmSourceGateway.GatewaySystem

set_option autoImplicit false

/-! Round robin starves nobody. A selection for a model takes an upstream that is
offered to it, or moves the model's pointer closer to it around the pool, and no
other call moves that pointer. -/
namespace VllmSourceGateway.RoundRobin
open Config Routing GatewayEffects GatewaySystem TransitionRuns

inductive RegistryCall where
  | select (modelName : String) (excludedUpstreamNames : List String)
  | setHealth (upstreamName : String) (healthy : Bool) (lastProbeAt lastSuccessAt : Option String)
      (lastStatusCode : Option ℕ) (lastError : Option String)

/-- The registry after a call; one that raises leaves it as it was. -/
def applyCall (registry : RoutingRegistry) : RegistryCall → RoutingRegistry
  | .select modelName excluded => (selectUpstream registry modelName excluded).2
  | .setHealth upstreamName healthy lastProbeAt lastSuccessAt lastStatusCode lastError =>
    match setUpstreamHealth registry upstreamName healthy lastProbeAt lastSuccessAt lastStatusCode
        lastError with
    | .ok registry => registry
    | .error _ => registry

def registryStep (registry : RoutingRegistry) (call : RegistryCall) : Option RoutingRegistry :=
  some (applyCall registry call)

structure Selection where
  registry : RoutingRegistry
  excluded : List String
  selected : UpstreamTarget

def selectionOf (modelName : String) (registry : RoutingRegistry) :
    RegistryCall → Option Selection
  | .select name excluded =>
    if name = modelName then
      match (selectUpstream registry name excluded).1 with
      | .ok selected => some ⟨registry, excluded, selected⟩
      | .error _ => none
    else none
  | .setHealth _ _ _ _ _ _ => none

def selections (modelName : String) (calls : List (RoutingRegistry × RegistryCall)) :
    List Selection := calls.filterMap fun entry => selectionOf modelName entry.1 entry.2

def Selection.Offers (selection : Selection) (upstream : UpstreamTarget) : Prop :=
  selection.registry.isHealthy upstream.name = true ∧ upstream.name ∉ selection.excluded

/-! ## What a call does to a pointer -/

section
variable (registry : RoutingRegistry) (excluded : List String)

theorem selectUpstream_other_pointer {modelName other : String} (h : other ≠ modelName) :
    (selectUpstream registry other excluded).2.roundRobinIndex modelName =
      registry.roundRobinIndex modelName := by
  obtain ⟨_, heq, _⟩ | ⟨_, _, _, _, _, heq⟩ := selectUpstream_cases registry excluded other
  · rw [heq]
  · rw [heq]
    exact Function.update_of_ne h.symm _ _

end

theorem setUpstreamHealth_pointers {registry registry' : RoutingRegistry} {upstreamName : String}
    {healthy : Bool} {lastProbeAt lastSuccessAt : Option String} {lastStatusCode : Option ℕ}
    {lastError : Option String} (h : setUpstreamHealth registry upstreamName healthy lastProbeAt
      lastSuccessAt lastStatusCode lastError = .ok registry') :
    registry'.roundRobinIndex = registry.roundRobinIndex := by
  simp only [setUpstreamHealth] at h
  split at h
  · cases h
    rfl
  · cases h

theorem applyCall_pools (registry : RoutingRegistry) (call : RegistryCall) :
    (applyCall registry call).modelToUpstreams = registry.modelToUpstreams := by
  cases call with
  | select modelName excluded => exact selectUpstream_pools registry excluded modelName
  | setHealth =>
    simp only [applyCall]
    split
    · rename_i hset
      exact setUpstreamHealth_pools hset
    · rfl

/-- A call is a successful selection for the model or leaves its pointer alone. -/
theorem applyCall_pointer (registry : RoutingRegistry) (modelName : String)
    (call : RegistryCall) :
    selectionOf modelName registry call = none ∧
        (applyCall registry call).roundRobinIndex modelName = registry.roundRobinIndex modelName ∨
      ∃ pool index selected excluded,
        PyDict.get? registry.modelToUpstreams modelName = some pool ∧
        CyclicScan.scan (eligible registry excluded) pool
          (registry.roundRobinIndex modelName % pool.length) = some (index, selected) ∧
        selectionOf modelName registry call = some ⟨registry, excluded, selected⟩ ∧
        (applyCall registry call).roundRobinIndex modelName = (index + 1) % pool.length := by
  cases call with
  | select name excluded =>
    by_cases hname : name = modelName
    · subst hname
      obtain ⟨error, heq, _⟩ | ⟨pool, index, selected, hpool, hscan, heq⟩ :=
        selectUpstream_cases registry excluded name
      · left
        simp only [selectionOf, applyCall, heq, if_true, and_self]
      · right
        refine ⟨pool, index, selected, excluded, hpool, hscan, ?_, ?_⟩
        · simp only [selectionOf, heq, if_true]
        · simp only [applyCall, heq, Function.update_self]
    · left
      exact ⟨if_neg hname, selectUpstream_other_pointer registry excluded hname⟩
  | setHealth =>
    left
    refine ⟨rfl, ?_⟩
    simp only [applyCall]
    split
    · rename_i hset
      rw [setUpstreamHealth_pointers hset]
    · rfl

def PointersBounded (registry : RoutingRegistry) : Prop :=
  ∀ modelName pool, PyDict.get? registry.modelToUpstreams modelName = some pool →
    registry.roundRobinIndex modelName < pool.length

theorem pointers_bounded {upstreams : List UpstreamTarget} {registry : RoutingRegistry}
    (h : Reachable registryStep (.init upstreams) registry) : PointersBounded registry := by
  refine h.invariant PointersBounded
    (fun modelName pool hpool => buildModelIndex_inhabited upstreams modelName pool hpool) ?_
  intro registry call next _ hinv hstep modelName pool hpool
  cases hstep
  rw [applyCall_pools] at hpool
  have hbound := hinv modelName pool hpool
  obtain ⟨_, hsame⟩ | ⟨pool', index, _, _, hpool', _, _, hmoved⟩ :=
    applyCall_pointer registry modelName call
  · rw [hsame]
    exact hbound
  · rw [hmoved, Option.some.inj (hpool.symm.trans hpool')]
    rw [Option.some.inj (hpool.symm.trans hpool')] at hbound
    exact Nat.mod_lt _ (by omega)

/-- The steps from a model's pointer to an index of its pool. -/
def remaining (registry : RoutingRegistry) (modelName : String) (size index : ℕ) : ℕ :=
  CyclicScan.distance size (registry.roundRobinIndex modelName) index

theorem remaining_selected {registry : RoutingRegistry} {modelName : String}
    {pool : List UpstreamTarget} {excluded : List String} {index i : ℕ}
    {selected upstream : UpstreamTarget}
    (hbound : registry.roundRobinIndex modelName < pool.length)
    (hscan : CyclicScan.scan (eligible registry excluded) pool
      (registry.roundRobinIndex modelName % pool.length) = some (index, selected))
    (hget : pool[i]? = some upstream) (heligible : eligible registry excluded upstream = true) :
    selected = upstream ∨
      CyclicScan.distance pool.length ((index + 1) % pool.length) i <
        remaining registry modelName pool.length i := by
  have hselected := (CyclicScan.scan_some hscan).1
  rcases CyclicScan.scan_approaches hscan hget heligible with rfl | hcloser
  · left
    exact Option.some.inj (hselected.symm.trans hget)
  · right
    rwa [Nat.mod_eq_of_lt hbound] at hcloser

theorem selections_snoc (modelName : String) (calls : List (RoutingRegistry × RegistryCall))
    (registry : RoutingRegistry) (call : RegistryCall) :
    selections modelName (calls ++ [(registry, call)]) =
      selections modelName calls ++ (selectionOf modelName registry call).toList := by
  simp only [selections, List.filterMap_append, List.filterMap_cons, List.filterMap_nil]
  cases selectionOf modelName registry call <;> rfl

/-- As long as an upstream is offered and not taken, each selection for its model
brings the pointer closer to it. -/
theorem run_remaining {upstreams : List UpstreamTarget} {registry registry' : RoutingRegistry}
    {calls : List (RoutingRegistry × RegistryCall)} {modelName : String}
    {pool : List UpstreamTarget} {i : ℕ} {upstream : UpstreamTarget}
    (hreach : Reachable registryStep (.init upstreams) registry)
    (run : Run registryStep registry calls registry')
    (hpool : PyDict.get? registry.modelToUpstreams modelName = some pool)
    (hget : pool[i]? = some upstream)
    (hoffered : ∀ turn ∈ selections modelName calls, turn.Offers upstream)
    (hmissed : ∀ turn ∈ selections modelName calls, turn.selected ≠ upstream) :
    PyDict.get? registry'.modelToUpstreams modelName = some pool ∧
      Reachable registryStep (.init upstreams) registry' ∧
      remaining registry' modelName pool.length i + (selections modelName calls).length ≤
        remaining registry modelName pool.length i := by
  induction run with
  | refl => exact ⟨hpool, hreach, le_rfl⟩
  | @snoc calls before after call run hstep ih =>
    rw [selections_snoc] at hoffered hmissed
    obtain ⟨hpool', hreach', hcloser⟩ := ih
      (fun turn hturn => hoffered turn (List.mem_append_left _ hturn))
      (fun turn hturn => hmissed turn (List.mem_append_left _ hturn))
    have hnext := hreach'.next hstep
    cases hstep
    refine ⟨by rw [applyCall_pools]; exact hpool', hnext, ?_⟩
    rw [selections_snoc, List.length_append]
    obtain ⟨hnone, hsame⟩ | ⟨pool', index, selected, excluded, hpool'', hscan, hsome, hmoved⟩ :=
      applyCall_pointer before modelName call
    · rw [hnone]
      unfold remaining at hcloser ⊢
      rw [hsame]
      exact hcloser
    · cases Option.some.inj (hpool'.symm.trans hpool'')
      rw [hsome] at hoffered hmissed ⊢
      have hturn : (⟨before, excluded, selected⟩ : Selection) ∈
          selections modelName calls ++ [⟨before, excluded, selected⟩] := by simp
      obtain ⟨hhealthy, hincluded⟩ := hoffered _ hturn
      have heligible : eligible before excluded upstream = true := by
        simp only [eligible, hhealthy, Bool.and_true, Bool.not_eq_true', decide_eq_false_iff_not]
        exact hincluded
      rcases remaining_selected (pointers_bounded hreach' _ _ hpool') hscan hget heligible with
        htaken | hdecreased
      · exact absurd htaken (hmissed _ hturn)
      · have hafter : remaining (applyCall before call) modelName pool.length i =
            CyclicScan.distance pool.length ((index + 1) % pool.length) i := by
          unfold remaining
          rw [hmoved]
        simp only [Option.toList_some, List.length_singleton]
        omega

/-- In any stretch of calls with as many successful selections for a model as its
pool has entries, an entry offered to each of them is taken by one. -/
theorem rotation_never_starves {upstreams : List UpstreamTarget}
    {registry registry' : RoutingRegistry} {calls : List (RoutingRegistry × RegistryCall)}
    {modelName : String} {pool : List UpstreamTarget}
    (hreach : Reachable registryStep (.init upstreams) registry)
    (run : Run registryStep registry calls registry')
    (hpool : PyDict.get? registry.modelToUpstreams modelName = some pool) :
    registry.roundRobinIndex modelName < pool.length ∧
      (∀ other excluded, other ≠ modelName →
        (selectUpstream registry other excluded).2.roundRobinIndex modelName =
          registry.roundRobinIndex modelName) ∧
      ∀ upstream ∈ pool, (selections modelName calls).length = pool.length →
        (∀ turn ∈ selections modelName calls, turn.Offers upstream) →
        ∃ turn ∈ selections modelName calls, turn.selected = upstream := by
  have hbound := pointers_bounded hreach modelName pool hpool
  refine ⟨hbound, fun other excluded hother =>
    selectUpstream_other_pointer registry excluded hother, ?_⟩
  intro upstream hmem hcount hoffered
  obtain ⟨i, hget⟩ := List.mem_iff_getElem?.mp hmem
  by_contra hnever
  push Not at hnever
  obtain ⟨_, _, hcloser⟩ := run_remaining hreach run hpool hget hoffered hnever
  have hstart : remaining registry modelName pool.length i < pool.length :=
    CyclicScan.distance_lt (by omega)
  omega

def twoUpstreams : List UpstreamTarget :=
  [⟨"a", "http://a", ["llama"], none⟩, ⟨"b", "http://b", ["llama"], none⟩]

def afterFirstTurn : RoutingRegistry := (selectUpstream (.init twoUpstreams) "llama" []).2

/-- The first turn goes to `a`, and the second one excludes it. -/
def twoTurns : List (RoutingRegistry × RegistryCall) :=
  [(.init twoUpstreams, .select "llama" []), (afterFirstTurn, .select "llama" ["a"])]

theorem rotation_twoTurns :
    ∃ turn ∈ selections "llama" twoTurns, turn.selected = ⟨"b", "http://b", ["llama"], none⟩ := by
  have hstart : Reachable registryStep (.init twoUpstreams) (.init twoUpstreams) := .refl
  have run : Run registryStep (.init twoUpstreams) twoTurns
      (applyCall afterFirstTurn (.select "llama" ["a"])) := .snoc (.snoc .refl rfl) rfl
  have hpool : PyDict.get? (RoutingRegistry.init twoUpstreams).modelToUpstreams "llama" =
      some twoUpstreams := by decide
  refine (rotation_never_starves hstart run hpool).2.2 _ (by decide) (by decide) ?_
  unfold Selection.Offers
  decide

/-! ## The registry of a running gateway -/

theorem performAll_registry_reachable {upstreams : List UpstreamTarget}
    (config : AdmissionControlConfig) (now : ℚ) {g : Gateway} (effects : List Effect)
    (h : Reachable registryStep (.init upstreams) g.registry) :
    Reachable registryStep (.init upstreams) (performAll config now g effects).registry := by
  induction effects generalizing g with
  | nil => exact h
  | cons effect effects ih =>
    refine ih ?_
    cases effect with
    | selectUpstream modelName excluded result => exact h.next (e := .select modelName excluded) rfl
    | _ => exact h

/-- A running gateway takes its registry only through such calls. -/
theorem gateway_registry_reachable {P : PyValues.Platform} {config : AppConfig} {s : System}
    (h : Reachable (step P config) (initial config) s) :
    Reachable registryStep (.fromConfig config) s.gateway.registry := by
  refine h.invariant (fun s => Reachable registryStep (.fromConfig config) s.gateway.registry)
    .refl ?_
  intro s event s' _ hinv hstep
  cases step_cases hstep with
  | arrive => exact performAll_registry_reachable _ _ _ hinv
  | resume => exact performAll_registry_reachable _ _ _ hinv
  | @setHealth upstreamName healthy lastProbeAt lastSuccessAt lastStatusCode lastError registry hset =>
    refine hinv.next (e := .setHealth upstreamName healthy lastProbeAt lastSuccessAt lastStatusCode
      lastError) ?_
    simp only [registryStep, applyCall, hset]

end VllmSourceGateway.RoundRobin
