import VllmSourceGateway.RoundRobin

set_option autoImplicit false

/-! Round robin is exactly fair while nobody's health changes: the healthy entries
of a pool take turns in the order of the pool, from wherever the pointer stands. -/
namespace VllmSourceGateway.RoundRobinShares
open Config Routing RoundRobin TransitionRuns

def fromPointer (registry : RoutingRegistry) (modelName : String) (pool : List UpstreamTarget) :
    List UpstreamTarget := pool.rotate (registry.roundRobinIndex modelName)

def turnOrder (registry : RoutingRegistry) (modelName : String) (pool : List UpstreamTarget) :
    List UpstreamTarget :=
  (fromPointer registry modelName pool).filter fun upstream => registry.isHealthy upstream.name

/-- Nobody is excluded, and the pool is as healthy as it was in `registry`. -/
def Selection.Steady (registry : RoutingRegistry) (pool : List UpstreamTarget)
    (turn : Selection) : Prop :=
  turn.excluded = [] ∧
    ∀ upstream ∈ pool, turn.registry.isHealthy upstream.name = registry.isHealthy upstream.name

section
variable {registry : RoutingRegistry} {modelName : String} {pool : List UpstreamTarget}

theorem selectUpstream_first (hpool : PyDict.get? registry.modelToUpstreams modelName = some pool)
    (excluded : List String) :
    (selectUpstream registry modelName excluded).1 =
      match ((fromPointer registry modelName pool).filter (eligible registry excluded)).head? with
      | none => .error (.noHealthyUpstream modelName)
      | some upstream => .ok upstream := by
  rw [fromPointer, ← List.rotate_mod, ← CyclicScan.scan_eq_head]
  simp only [selectUpstream, hpool, firstEligible_eq_scan]
  cases CyclicScan.scan (eligible registry excluded) pool
    (registry.roundRobinIndex modelName % pool.length) <;> rfl

theorem selectUpstream_refused_iff
    (hpool : PyDict.get? registry.modelToUpstreams modelName = some pool)
    (excluded : List String) :
    (selectUpstream registry modelName excluded).1 = .error (.noHealthyUpstream modelName) ↔
      ∀ upstream ∈ pool,
        registry.isHealthy upstream.name = false ∨ upstream.name ∈ excluded := by
  have hnone : (∀ upstream ∈ pool,
      registry.isHealthy upstream.name = false ∨ upstream.name ∈ excluded) ↔
        (fromPointer registry modelName pool).filter (eligible registry excluded) = [] := by
    rw [List.filter_eq_nil_iff, fromPointer]
    simp only [List.mem_rotate, eligible, Bool.and_eq_true, Bool.not_eq_true',
      decide_eq_false_iff_not, not_and, Bool.not_eq_true]
    refine forall₂_congr fun upstream _ => ?_
    rw [imp_iff_not_or, not_not, or_comm]
  rw [hnone, selectUpstream_first hpool, ← List.head?_eq_none_iff]
  cases ((fromPointer registry modelName pool).filter (eligible registry excluded)).head? <;> simp

/-- A successful selection without exclusions moves the head of the turn order to
its end. -/
theorem turnOrder_taken {index : ℕ} {selected : UpstreamTarget}
    (hscan : CyclicScan.scan (eligible registry []) pool
      (registry.roundRobinIndex modelName % pool.length) = some (index, selected)) :
    ∃ rest, turnOrder registry modelName pool = selected :: rest ∧
      (pool.rotate ((index + 1) % pool.length)).filter
        (fun upstream => registry.isHealthy upstream.name) = rest ++ [selected] := by
  have heligible : eligible registry [] = fun upstream => registry.isHealthy upstream.name := by
    funext upstream
    simp [eligible]
  obtain ⟨rest, hstart, hnext⟩ := CyclicScan.scan_turn hscan
  rw [heligible] at hstart hnext
  refine ⟨rest, ?_, ?_⟩
  · rw [turnOrder, fromPointer, ← List.rotate_mod]
    exact hstart
  · rw [List.rotate_mod]
    exact hnext

end

/-- The turn order of a registry, with the health of another one. -/
theorem turnOrder_congr {registry registry' : RoutingRegistry} {pool : List UpstreamTarget}
    (hhealth : ∀ upstream ∈ pool,
      registry'.isHealthy upstream.name = registry.isHealthy upstream.name) (start : ℕ) :
    (pool.rotate start).filter (fun upstream => registry'.isHealthy upstream.name) =
      (pool.rotate start).filter fun upstream => registry.isHealthy upstream.name :=
  List.filter_congr fun upstream hmem => hhealth upstream (List.mem_rotate.mp hmem)

/-- Along a steady stretch the selections are the turns of the queue, and the pool
reads on from where they have left it. -/
theorem run_turns {registry registry' : RoutingRegistry}
    {calls : List (RoutingRegistry × RegistryCall)} {modelName : String}
    {pool : List UpstreamTarget} (run : Run registryStep registry calls registry')
    (hpool : PyDict.get? registry.modelToUpstreams modelName = some pool)
    (hsteady : ∀ turn ∈ selections modelName calls, Selection.Steady registry pool turn) :
    PyDict.get? registry'.modelToUpstreams modelName = some pool ∧
      (fromPointer registry' modelName pool).filter
          (fun upstream => registry.isHealthy upstream.name) =
        (turnOrder registry modelName pool).rotate (selections modelName calls).length ∧
      (selections modelName calls).map Selection.selected =
        CyclicScan.turns (turnOrder registry modelName pool)
          (selections modelName calls).length := by
  induction run with
  | refl =>
    refine ⟨hpool, (List.rotate_zero _).symm, ?_⟩
    cases turnOrder registry modelName pool <;> rfl
  | @snoc calls before after call run hstep ih =>
    rw [selections_snoc] at hsteady
    obtain ⟨hpool', horder, hturns⟩ :=
      ih fun turn hturn => hsteady turn (List.mem_append_left _ hturn)
    cases hstep
    refine ⟨by rw [applyCall_pools]; exact hpool', ?_⟩
    rw [selections_snoc]
    obtain ⟨hnone, hsame⟩ | ⟨pool', index, selected, excluded, hpool'', hscan, hsome, hmoved⟩ :=
      applyCall_pointer before modelName call
    · rw [hnone, Option.toList_none, List.append_nil, fromPointer, hsame]
      exact ⟨horder, hturns⟩
    · cases Option.some.inj (hpool'.symm.trans hpool'')
      rw [hsome] at hsteady ⊢
      obtain ⟨hexcluded, hhealth⟩ := hsteady ⟨before, excluded, selected⟩ (by simp)
      dsimp only at hexcluded hhealth
      subst hexcluded
      obtain ⟨rest, hhead, hnext⟩ := turnOrder_taken hscan
      rw [turnOrder, fromPointer, turnOrder_congr hhealth] at hhead
      rw [turnOrder_congr hhealth] at hnext
      rw [fromPointer, hhead] at horder
      simp only [Option.toList_some, List.length_append, List.length_singleton, List.map_append,
        List.map_cons, List.map_nil]
      refine ⟨?_, ?_⟩
      · rw [fromPointer, hmoved, hnext, ← List.rotate_rotate, ← horder, List.rotate_cons_succ,
          List.rotate_zero]
      · rw [CyclicScan.turns_succ, ← horder, hturns]
        rfl

/-- A selection takes the first eligible entry of the pool in cyclic order, and
fails, changing nothing, exactly where there is none. In a stretch of whole rounds
without exclusions or changes of the pool's health, every healthy entry is selected
once a round, in the order of the pool. -/
theorem stable_rounds_exact {upstreams : List UpstreamTarget}
    {registry registry' : RoutingRegistry} {calls : List (RoutingRegistry × RegistryCall)}
    {modelName : String} {pool : List UpstreamTarget}
    (hreach : Reachable registryStep (.init upstreams) registry)
    (run : Run registryStep registry calls registry')
    (hpool : PyDict.get? registry.modelToUpstreams modelName = some pool) :
    registry.roundRobinIndex modelName < pool.length ∧
      (∀ excluded,
        ((selectUpstream registry modelName excluded).1 = .error (.noHealthyUpstream modelName) ↔
          ∀ upstream ∈ pool,
            registry.isHealthy upstream.name = false ∨ upstream.name ∈ excluded) ∧
        ((selectUpstream registry modelName excluded).1 = .error (.noHealthyUpstream modelName) →
          (selectUpstream registry modelName excluded).2 = registry) ∧
        ∀ first rest, (fromPointer registry modelName pool).filter
            (fun upstream => !decide (upstream.name ∈ excluded) &&
              registry.isHealthy upstream.name) = first :: rest →
          (selectUpstream registry modelName excluded).1 = .ok first) ∧
      ∀ rounds, (selections modelName calls).length =
          rounds * (turnOrder registry modelName pool).length →
        (∀ turn ∈ selections modelName calls, Selection.Steady registry pool turn) →
        (selections modelName calls).map Selection.selected =
            (List.replicate rounds (turnOrder registry modelName pool)).flatten ∧
          ∀ upstream ∈ pool, registry.isHealthy upstream.name = true →
            ((selections modelName calls).map Selection.selected).count upstream =
              rounds * pool.count upstream := by
  refine ⟨pointers_bounded hreach modelName pool hpool, fun excluded => ⟨?_, ?_, ?_⟩, ?_⟩
  · exact selectUpstream_refused_iff hpool excluded
  · exact fun herror => (selectUpstream_error registry excluded herror).1
  · intro first rest hfirst
    rw [selectUpstream_first hpool]
    have heligible : (fromPointer registry modelName pool).filter (eligible registry excluded) =
        first :: rest := hfirst
    rw [heligible]
    rfl
  · intro rounds hlength hsteady
    obtain ⟨_, _, hturns⟩ := run_turns run hpool hsteady
    rw [hlength, CyclicScan.turns_rounds] at hturns
    refine ⟨hturns, fun upstream _ hhealthy => ?_⟩
    have hcount : (turnOrder registry modelName pool).count upstream = pool.count upstream := by
      rw [turnOrder, List.count_filter (a := upstream) hhealthy, fromPointer]
      exact (List.rotate_perm _ _).count_eq upstream
    rw [hturns, List.count_flatten, List.map_replicate, List.sum_replicate, hcount, smul_eq_mul]

def threeUpstreams : List UpstreamTarget :=
  ["a", "b", "c"].map fun name => ⟨name, "http://" ++ name, ["llama"], none⟩

/-- The second of the three is unhealthy. -/
def twoHealthy : RoutingRegistry :=
  applyCall (.init threeUpstreams) (.setHealth "b" false none none none none)

def nextTurn (registry : RoutingRegistry) : RoutingRegistry :=
  applyCall registry (.select "llama" [])

def twoRounds : List (RoutingRegistry × RegistryCall) :=
  [(twoHealthy, .select "llama" []), (nextTurn twoHealthy, .select "llama" []),
    (nextTurn (nextTurn twoHealthy), .select "llama" []),
    (nextTurn (nextTurn (nextTurn twoHealthy)), .select "llama" [])]

theorem stable_rounds_exact_twoRounds :
    (selections "llama" twoRounds).map (fun turn => turn.selected.name) = ["a", "c", "a", "c"] := by
  have hstart : Reachable registryStep (.init threeUpstreams) twoHealthy :=
    Reachable.refl.next (e := .setHealth "b" false none none none none) rfl
  have run : Run registryStep twoHealthy twoRounds
      (nextTurn (nextTurn (nextTurn (nextTurn twoHealthy)))) :=
    .snoc (.snoc (.snoc (.snoc .refl rfl) rfl) rfl) rfl
  have hpool : PyDict.get? twoHealthy.modelToUpstreams "llama" = some threeUpstreams := by
    decide +kernel
  obtain ⟨_, _, hrounds⟩ := stable_rounds_exact hstart run hpool
  have hsteady : ∀ turn ∈ selections "llama" twoRounds,
      Selection.Steady twoHealthy threeUpstreams turn := by
    unfold Selection.Steady
    decide +kernel
  have hselected := (hrounds 2 (by decide +kernel) hsteady).1
  have hnames := congrArg (List.map UpstreamTarget.name) hselected
  rw [List.map_map] at hnames
  exact hnames.trans (by decide +kernel)

end VllmSourceGateway.RoundRobinShares
