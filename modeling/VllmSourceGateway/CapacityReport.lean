import VllmSourceGateway.CapacityBaseline

set_option autoImplicit false

/-! What a run of the capacity baseline tool comes to, whatever the order in which the
requests of its batches end. -/
namespace VllmSourceGateway.CapacityReport
open CapacityBaseline TransitionRuns
open scoped List

/-- Every request that the arguments ask for, in the order of the report. -/
def plan (args : Arguments) : List (String × String × ℕ × ℕ) :=
  (stages args).flatten.flatMap (levelKeys args.requestsPerLevel)

def summariesOf (requestsPerLevel : ℕ) : List Level → List RequestResult → List LevelSummary
  | [], _ => []
  | level :: levels, results =>
    summarize level (results.take requestsPerLevel) ::
      summariesOf requestsPerLevel levels (results.drop requestsPerLevel)

def produced (v : Baseline × Event) : Option RequestResult :=
  v.1.levels[v.2.level]?.map fun run =>
    runStreamingRequest run.level (run.nextIndex + v.2.offset) v.2.exchange

def finished (vs : List (Baseline × Event)) : List RequestResult := vs.filterMap produced

def underWay (s : Baseline) : ℕ := (s.levels.map LevelRun.underWay).sum

/-- `reported` are the levels that are through, `ended` the results of all that ended. -/
structure StageKept (args : Arguments) (reported : List Level) (ended : List RequestResult)
    (s : Baseline) : Prop where
  levels : ∀ run ∈ s.levels, LevelKept args.requestsPerLevel run
  order : reported ++ (s.levels.map LevelRun.level ++ s.remaining.flatten) = (stages args).flatten
  stage : s.levels.map LevelRun.level ∈ [] :: stages args
  rest : ∀ stage ∈ s.remaining, stage ∈ stages args
  keys : s.allResults.map RequestResult.key = reported.flatMap (levelKeys args.requestsPerLevel)
  summaries : s.summaries = summariesOf args.requestsPerLevel reported s.allResults
  ended : (s.allResults ++ s.levels.flatMap LevelRun.collected).Perm ended

/-- Between two steps some request is under way, or the run is over. -/
structure Kept (args : Arguments) (reported : List Level) (ended : List RequestResult)
    (s : Baseline) : Prop extends StageKept args reported ended s where
  waiting : s.levels ≠ [] → ∃ run ∈ s.levels, run.tasks ≠ []
  last : s.levels = [] → s.remaining = []

section
variable {args : Arguments} {s t : Baseline} {event : Event} {reported : List Level}
  {ended : List RequestResult}

theorem stages_inhabited (args : Arguments) : ∀ stage ∈ stages args, stage ≠ [] := by
  intro stage hstage
  unfold stages at hstage
  obtain ⟨path, _, hstage⟩ := List.mem_flatMap.mp hstage
  split at hstage
  · obtain ⟨concurrency, _, rfl⟩ := List.mem_map.mp hstage
    exact List.cons_ne_nil _ _
  · rename_i hmixed
    rw [List.mem_singleton.mp hstage]
    simpa using hmixed

theorem summariesOf_append (n : ℕ) {levels : List Level} (more : List Level)
    {results : List RequestResult} (hlength : results.length = n * levels.length)
    (others : List RequestResult) :
    summariesOf n (levels ++ more) (results ++ others) =
      summariesOf n levels results ++ summariesOf n more others := by
  induction levels generalizing results with
  | nil =>
    rw [List.length_nil, Nat.mul_zero] at hlength
    rw [List.length_eq_zero_iff.mp hlength]
    rfl
  | cons level levels ih =>
    rw [List.length_cons, Nat.mul_succ] at hlength
    have hrest : (results.drop n).length = n * levels.length := by
      rw [List.length_drop]
      omega
    have htake : (results ++ others).take n = results.take n :=
      List.take_append_of_le_length (by omega)
    have hdrop : (results ++ others).drop n = results.drop n ++ others :=
      List.drop_append_of_le_length (by omega)
    change summarize level ((results ++ others).take n) ::
      summariesOf n (levels ++ more) ((results ++ others).drop n) = _
    rw [htake, hdrop, ih hrest]
    rfl

/-- The summaries of levels that have all their results. -/
theorem summariesOf_runs (n : ℕ) {runs : List LevelRun}
    (h : ∀ run ∈ runs, run.results.length = n) :
    summariesOf n (runs.map LevelRun.level) (runs.flatMap LevelRun.results) =
      runs.map fun run => summarize run.level run.results := by
  induction runs with
  | nil => rfl
  | cons run runs ih =>
    obtain ⟨hfirst, hrest⟩ := List.forall_mem_cons.mp h
    rw [List.map_cons, List.flatMap_cons, List.map_cons]
    unfold summariesOf
    rw [List.take_left' hfirst, List.drop_left' hfirst, ih hrest]

theorem levelKeys_length (n : ℕ) (level : Level) : (levelKeys n level).length = n := by
  rw [levelKeys, List.length_map, List.length_range]

theorem flatMap_keys_length (n : ℕ) (levels : List Level) :
    (levels.flatMap (levelKeys n)).length = n * levels.length := by
  induction levels with
  | nil => rfl
  | cons level levels ih =>
    rw [List.flatMap_cons, List.length_append, levelKeys_length, ih, List.length_cons,
      Nat.mul_succ]
    omega

/-- A new stage begins with every request of it still to be sent. -/
theorem nextStage_kept (horder : reported ++ s.remaining.flatten = (stages args).flatten)
    (hrest : ∀ stage ∈ s.remaining, stage ∈ stages args)
    (hkeys : s.allResults.map RequestResult.key =
      reported.flatMap (levelKeys args.requestsPerLevel))
    (hsummaries : s.summaries = summariesOf args.requestsPerLevel reported s.allResults)
    (hended : s.allResults.Perm ended) : Kept args reported ended (nextStage args s) := by
  unfold nextStage
  cases hremaining : s.remaining with
  | nil =>
    rw [hremaining] at horder hrest
    refine ⟨⟨List.forall_mem_nil _, horder, List.mem_cons_self, hrest, hkeys, hsummaries, ?_⟩,
      fun h => absurd rfl h, fun _ => rfl⟩
    simpa using hended
  | cons stage remaining =>
    rw [hremaining] at horder hrest
    obtain ⟨hstage, hlater⟩ := List.forall_mem_cons.mp hrest
    have hlevels : (stage.map (runLevel args.requestsPerLevel)).map LevelRun.level = stage := by
      rw [List.map_map]
      exact List.map_id stage
    have hnone : (stage.map (runLevel args.requestsPerLevel)).flatMap LevelRun.collected = [] := by
      rw [List.flatMap_eq_nil_iff]
      intro run hrun
      obtain ⟨level, _, rfl⟩ := List.mem_map.mp hrun
      simp [LevelRun.collected, runLevel, startBatch]
    obtain ⟨level, hlevel⟩ := List.exists_mem_of_ne_nil _ (stages_inhabited args stage hstage)
    refine ⟨⟨?_, ?_, ?_, hlater, hkeys, hsummaries, ?_⟩, ?_, ?_⟩
    · intro run hrun
      obtain ⟨level, _, rfl⟩ := List.mem_map.mp hrun
      exact runLevel_kept _ level
    · rw [hlevels]
      exact horder
    · rw [hlevels]
      exact List.mem_cons_of_mem _ hstage
    · rw [hnone, List.append_nil]
      exact hended
    · intro _
      exact ⟨_, List.mem_map_of_mem hlevel, runLevel_tasks args.requestsPerLevel_pos level⟩
    · intro hnil
      exact absurd (List.map_eq_nil_iff.mp hnil) (stages_inhabited args stage hstage)

theorem initial_kept (args : Arguments) : Kept args [] [] (initial args) :=
  nextStage_kept rfl (fun _ hstage => hstage) rfl rfl (.refl _)

/-- Everything a step does. -/
theorem step_inv (hstep : step args s event = some t) :
    ∃ before run after run', s.levels = before ++ run :: after ∧ before.length = event.level ∧
      run.finish args.requestsPerLevel event.offset event.exchange = some run' ∧
      t = closeStage args { s with levels := before ++ run' :: after } := by
  unfold step at hstep
  split at hstep
  · cases hstep
  · rename_i run hrun
    split at hstep
    · cases hstep
    · rename_i run' hfinish
      obtain ⟨hlt, hget⟩ := List.getElem?_eq_some_iff.mp hrun
      have hsplit : s.levels =
          s.levels.take event.level ++ run :: s.levels.drop (event.level + 1) := by
        rw [← hget, ← List.drop_eq_getElem_cons hlt, List.take_append_drop]
      have hset : s.levels.set event.level run' =
          s.levels.take event.level ++ run' :: s.levels.drop (event.level + 1) :=
        List.set_eq_take_append_cons_drop.trans (if_pos hlt)
      rw [hset] at hstep
      exact ⟨_, run, _, run', hsplit, List.length_take_of_le hlt.le, hfinish,
        (Option.some.inj hstep).symm⟩

/-- The end of a stage moves its results to the report, and loses none. -/
theorem closeStage_kept (hkept : StageKept args reported ended s) :
    ∃ reported', Kept args reported' ended (closeStage args s) := by
  unfold closeStage
  split
  · rename_i hall
    have hdone : ∀ run ∈ s.levels, run.tasks = [] := fun run hrun =>
      List.isEmpty_iff.mp (List.all_eq_true.mp hall run hrun)
    refine ⟨reported ++ s.levels.map LevelRun.level, nextStage_kept ?_ hkept.rest ?_ ?_ ?_⟩
    · rw [List.append_assoc]
      exact hkept.order
    · have hstage : (s.levels.flatMap (·.results)).map RequestResult.key =
          (s.levels.map LevelRun.level).flatMap (levelKeys args.requestsPerLevel) := by
        rw [List.map_flatMap, List.flatMap_map]
        apply List.flatMap_congr
        intro run hrun
        exact (hkept.levels run hrun).done (hdone run hrun)
      rw [List.map_append, hkept.keys, hstage, List.flatMap_append]
    · have hlength : s.allResults.length = args.requestsPerLevel * reported.length := by
        have hkeys := congrArg List.length hkept.keys
        rwa [List.length_map, flatMap_keys_length] at hkeys
      have hresults : ∀ run ∈ s.levels, run.results.length = args.requestsPerLevel := by
        intro run hrun
        have hkeys := congrArg List.length ((hkept.levels run hrun).done (hdone run hrun))
        rwa [List.length_map, levelKeys_length] at hkeys
      change s.summaries ++ s.levels.map _ = summariesOf args.requestsPerLevel
        (reported ++ s.levels.map LevelRun.level)
        (s.allResults ++ s.levels.flatMap LevelRun.results)
      rw [summariesOf_append _ _ hlength, summariesOf_runs _ hresults, hkept.summaries]
    · refine Eq.subst (motive := fun results => (s.allResults ++ results).Perm ended) ?_ hkept.ended
      apply List.flatMap_congr
      intro run hrun
      rw [LevelRun.collected, hdone run hrun, List.filterMap_nil, List.append_nil]
  · rename_i hwaiting
    rw [Bool.not_eq_true, List.all_eq_false] at hwaiting
    obtain ⟨run, hrun, hnot⟩ := hwaiting
    have htasks : run.tasks ≠ [] := fun hnil => hnot (List.isEmpty_iff.mpr hnil)
    refine ⟨reported, hkept, fun _ => ⟨run, hrun, htasks⟩, fun hnil => ?_⟩
    rw [hnil] at hrun
    cases hrun

/-- A step changes one level, which then has one result more. -/
theorem step_kept (hkept : Kept args reported ended s) (hstep : step args s event = some t) :
    ∃ reported' result, produced (s, event) = some result ∧
      Kept args reported' (ended ++ [result]) t := by
  obtain ⟨before, run, after, run', hlevels, hindex, hfinish, rfl⟩ := step_inv hstep
  let result := runStreamingRequest run.level (run.nextIndex + event.offset) event.exchange
  have hproduced : produced (s, event) = some result := by
    simp [produced, hlevels, ← hindex, result]
  have hlevel := finish_level hfinish
  have hsame : (before ++ run' :: after).map LevelRun.level = s.levels.map LevelRun.level := by
    rw [hlevels, List.map_append, List.map_append, List.map_cons, List.map_cons, hlevel]
  have hstage : StageKept args reported (ended ++ [result])
      { s with levels := before ++ run' :: after } := by
    refine ⟨?_, ?_, ?_, hkept.rest, hkept.keys, hkept.summaries, ?_⟩
    · intro other hother
      rcases List.mem_append.mp hother with hold | hnew
      · exact hkept.levels other (by rw [hlevels]; exact List.mem_append_left _ hold)
      · rcases List.mem_cons.mp hnew with rfl | hold
        · exact finish_kept (hkept.levels run (by simp [hlevels])) hfinish
        · exact hkept.levels other (by simp [hlevels, hold])
    · rw [hsame]
      exact hkept.order
    · rw [hsame]
      exact hkept.stage
    · have hbefore := hkept.ended
      rw [hlevels, List.flatMap_append, List.flatMap_cons] at hbefore
      change (s.allResults ++ (before ++ run' :: after).flatMap LevelRun.collected).Perm _
      rw [List.flatMap_append, List.flatMap_cons]
      have hmore : run'.collected.Perm (result :: run.collected) := finish_collected hfinish
      calc
        s.allResults ++ (before.flatMap LevelRun.collected ++
            (run'.collected ++ after.flatMap LevelRun.collected))
        _ ~ s.allResults ++ (before.flatMap LevelRun.collected ++
            (result :: (run.collected ++ after.flatMap LevelRun.collected))) :=
          ((hmore.append_right _).append_left _).append_left _
        _ ~ result :: (s.allResults ++ (before.flatMap LevelRun.collected ++
            (run.collected ++ after.flatMap LevelRun.collected))) := by
          rw [← List.append_assoc, ← List.append_assoc]
          exact List.perm_middle
        _ ~ result :: ended := hbefore.cons result
        _ ~ ended ++ [result] := (List.perm_append_singleton result ended).symm
  obtain ⟨reported', hnext⟩ := closeStage_kept hstage
  exact ⟨reported', result, hproduced, hnext⟩

theorem kept {vs : List (Baseline × Event)} (run : Run (step args) (initial args) vs s) :
    ∃ reported, Kept args reported (finished vs) s := by
  apply run.invariant fun vs s => ∃ reported, Kept args reported (finished vs) s
  · exact ⟨[], initial_kept args⟩
  · intro vs s event t _ ih hstep
    obtain ⟨reported, hkept⟩ := ih
    obtain ⟨reported', result, hproduced, hnext⟩ := step_kept hkept hstep
    refine ⟨reported', ?_⟩
    unfold finished
    rw [List.filterMap_append, List.filterMap_cons, hproduced]
    exact hnext

theorem foldr_max_le {xs : List ℕ} {x : ℕ} (h : x ∈ xs) : x ≤ xs.foldr max 0 := by
  induction xs with
  | nil => cases h
  | cons y xs ih =>
    rw [List.foldr_cons]
    rcases List.mem_cons.mp h with rfl | hrest
    · exact le_max_left _ _
    · exact (ih hrest).trans (le_max_right _ _)

theorem stage_concurrency {stage : List Level} (h : stage ∈ stages args) :
    (stage.map Level.concurrency).sum ≤ maxConcurrency args ∧
      ∃ path ∈ args.paths, ∀ level ∈ stage, level.path = path := by
  unfold stages at h
  obtain ⟨path, hpath, hstage⟩ := List.mem_flatMap.mp h
  unfold maxConcurrency
  split at hstage
  · rename_i hsingle
    obtain ⟨concurrency, hmem, rfl⟩ := List.mem_map.mp hstage
    rw [if_pos hsingle]
    refine ⟨foldr_max_le (List.mem_map_of_mem hmem), path, hpath, ?_⟩
    intro level hlevel
    rw [List.mem_singleton.mp hlevel]
  · rename_i hmixed
    rw [if_neg hmixed, List.mem_singleton.mp hstage, List.map_map]
    refine ⟨le_rfl, path, hpath, ?_⟩
    intro level hlevel
    obtain ⟨entry, _, rfl⟩ := List.mem_map.mp hlevel
    rfl

/-- Results in one order of distinct keys are determined by what they are. -/
theorem eq_of_perm_of_keys {xs ys : List RequestResult}
    (hkeys : xs.map RequestResult.key = ys.map RequestResult.key)
    (hdistinct : (xs.map RequestResult.key).Nodup) (hperm : xs.Perm ys) : xs = ys := by
  induction xs generalizing ys with
  | nil => exact hperm.nil_eq
  | cons x xs ih =>
    cases ys with
    | nil => cases hkeys
    | cons y ys =>
      rw [List.map_cons, List.map_cons, List.cons.injEq] at hkeys
      obtain ⟨hfirst, hrest⟩ := hkeys
      rw [List.map_cons, List.nodup_cons] at hdistinct
      obtain ⟨hfresh, hlater⟩ := hdistinct
      have hsame : x = y := by
        rcases List.mem_cons.mp (hperm.mem_iff.mp List.mem_cons_self) with hx | hx
        · exact hx
        · exact absurd (hrest ▸ List.mem_map_of_mem hx) hfresh
      subst hsame
      rw [ih hrest hlater (List.Perm.cons_inv hperm)]

/-- There are never more requests under way than the connection limit of the client is
made for, nor more of one level than it names; all are for one path. -/
theorem in_flight_bounded (h : Reachable (step args) (initial args) s) :
    underWay s ≤ maxConcurrency args ∧
      (∀ run ∈ s.levels, run.underWay ≤ run.level.concurrency) ∧
      ∃ path, ∀ run ∈ s.levels, run.level.path = path := by
  obtain ⟨vs, run⟩ := h
  obtain ⟨reported, hkept⟩ := kept run
  have hlevels : ∀ run ∈ s.levels, run.underWay ≤ run.level.concurrency := fun run hrun =>
    (hkept.levels run hrun).underWay_le
  have hsum : underWay s ≤ ((s.levels.map LevelRun.level).map Level.concurrency).sum := by
    rw [List.map_map]
    exact List.sum_le_sum hlevels
  rcases List.mem_cons.mp hkept.stage with hnil | hstage
  · rw [hnil] at hsum
    refine ⟨hsum.trans (Nat.zero_le _), hlevels, "", ?_⟩
    rw [List.map_eq_nil_iff.mp hnil]
    exact List.forall_mem_nil _
  · obtain ⟨hbound, path, _, hpath⟩ := stage_concurrency hstage
    exact ⟨hsum.trans hbound, hlevels, path, fun run hrun => hpath _ (List.mem_map_of_mem hrun)⟩

theorem Kept.over (hkept : Kept args reported ended s) (hover : s.levels = []) :
    s.allResults.map RequestResult.key = plan args ∧ s.allResults.Perm ended ∧
      s.summaries = summariesOf args.requestsPerLevel (stages args).flatten s.allResults := by
  have hreported : reported = (stages args).flatten := by
    have horder := hkept.order
    rwa [hover, hkept.last hover, List.map_nil, List.flatten_nil, List.append_nil,
      List.append_nil] at horder
  have hended := hkept.ended
  rw [hover, List.flatMap_nil, List.append_nil] at hended
  refine ⟨?_, hended, ?_⟩
  · rw [hkept.keys, hreported]
    rfl
  · rw [hkept.summaries, hreported]

theorem stages_flatten (args : Arguments) :
    (stages args).flatten = args.paths.flatMap (pathLevels args) := by
  unfold stages
  induction args.paths with
  | nil => rfl
  | cons path paths ih =>
    rw [List.flatMap_cons, List.flatten_append, ih, List.flatMap_cons]
    unfold pathLevels
    split
    · rw [← List.flatMap_def, ← List.map_eq_flatMap]
    · rw [List.flatten_singleton]

theorem pathLevels_path {path : String} {level : Level} (h : level ∈ pathLevels args path) :
    level.path = path := by
  unfold pathLevels at h
  split at h
  · obtain ⟨_, _, rfl⟩ := List.mem_map.mp h
    rfl
  · obtain ⟨_, _, rfl⟩ := List.mem_map.mp h
    rfl

theorem pathLevels_nodup (hlevels : args.concurrencyLevels.Nodup) (path : String) :
    (pathLevels args path).Nodup := by
  unfold pathLevels
  split
  · apply hlevels.map
    intro concurrency concurrency' hsame
    exact Subtype.ext (congrArg Level.concurrency hsame)
  · apply List.Nodup.of_map Level.model
    rw [List.map_map]
    exact args.mixedModels_nodup

theorem levelKeys_disjoint (n : ℕ) {level level' : Level} (hne : level ≠ level') :
    (levelKeys n level).Disjoint (levelKeys n level') := by
  intro key hkey hkey'
  obtain ⟨_, _, rfl⟩ := List.mem_map.mp hkey
  obtain ⟨_, _, hsame⟩ := List.mem_map.mp hkey'
  simp only [keyAt, Prod.mk.injEq] at hsame
  apply hne
  cases level
  cases level'
  simp only [Level.mk.injEq]
  exact ⟨hsame.1.symm, hsame.2.1.symm, hsame.2.2.1.symm⟩

theorem plan_nodup (hpaths : args.paths.Nodup) (hlevels : args.concurrencyLevels.Nodup) :
    (plan args).Nodup := by
  unfold plan
  rw [List.nodup_flatMap]
  constructor
  · intro level _
    apply List.nodup_range.map
    intro i j hsame
    simpa [keyAt] using hsame
  · have hdistinct : (stages args).flatten.Nodup := by
      rw [stages_flatten, List.nodup_flatMap]
      refine ⟨fun path _ => pathLevels_nodup hlevels path, ?_⟩
      apply hpaths.imp
      intro path path' hne level hlevel hlevel'
      exact hne ((pathLevels_path hlevel).symm.trans (pathLevels_path hlevel'))
    apply hdistinct.imp
    intro level level' hne
    exact levelKeys_disjoint _ hne

/-- Where no path and no level is named twice, two runs whose requests end alike, in
whatever order, leave the same report. -/
theorem report_unordered {vs ws : List (Baseline × Event)}
    (run : Run (step args) (initial args) vs s) (run' : Run (step args) (initial args) ws t)
    (hover : s.levels = []) (hover' : t.levels = []) (hpaths : args.paths.Nodup)
    (hlevels : args.concurrencyLevels.Nodup) (hsame : (finished vs).Perm (finished ws)) :
    s.allResults = t.allResults ∧ s.summaries = t.summaries ∧
      exitCode args s = exitCode args t := by
  obtain ⟨_, hkept⟩ := kept run
  obtain ⟨_, hkept'⟩ := kept run'
  obtain ⟨hkeys, hperm, hsummaries⟩ := hkept.over hover
  obtain ⟨hkeys', hperm', hsummaries'⟩ := hkept'.over hover'
  have hresults : s.allResults = t.allResults := by
    apply eq_of_perm_of_keys (hkeys.trans hkeys'.symm)
    · rw [hkeys]
      exact plan_nodup hpaths hlevels
    · exact hperm.trans (hsame.trans hperm'.symm)
  have hreport : s.summaries = t.summaries := by rw [hsummaries, hsummaries', hresults]
  refine ⟨hresults, hreport, ?_⟩
  unfold exitCode
  rw [hreport]

end

/-! Two models side by side, of which the second is through first; one of its answers is
an empty stream. -/

def mixedArguments : Arguments where
  model := ""
  mixedModels := [("llama", ⟨2, by decide⟩), ("phi", ⟨1, by decide⟩)]
  mixedModels_nodup := by decide
  paths := ["chat"]
  concurrencyLevels := []
  requestsPerLevel := 2
  failOnError := true
  requestsPerLevel_pos := by decide

def streamed : Exchange := .answered 200 [(1, [1]), (2, []), (3, [2, 3])] none 4

def baseline (events : List Event) : Option Baseline :=
  exec (step mixedArguments) (initial mixedArguments) events

def mixedRun : List Event :=
  [⟨1, 0, streamed⟩, ⟨0, 1, .failed "ReadTimeout: " 30⟩, ⟨1, 0, .answered 200 [] none 2⟩,
    ⟨0, 0, streamed⟩]

def inOrder : List Event :=
  [⟨0, 0, streamed⟩, ⟨0, 1, .failed "ReadTimeout: " 30⟩, ⟨1, 0, streamed⟩,
    ⟨1, 0, .answered 200 [] none 2⟩]

theorem mixedRun_begins : (baseline (mixedRun.take 1)).isSome = true := by decide +kernel

theorem mixedRun_runs : (baseline mixedRun).isSome = true := by decide +kernel

theorem inOrder_runs : (baseline inOrder).isSome = true := by decide +kernel

theorem in_flight_bounded_mixed :
    underWay ((baseline (mixedRun.take 1)).get mixedRun_begins) = 3 ∧
      3 ≤ maxConcurrency mixedArguments := by
  have hreach : Reachable (step mixedArguments) (initial mixedArguments)
      ((baseline (mixedRun.take 1)).get mixedRun_begins) := exec_get_reachable mixedRun_begins
  have hwide : underWay ((baseline (mixedRun.take 1)).get mixedRun_begins) = 3 := by
    decide +kernel
  have hbound := (in_flight_bounded hreach).1
  rw [hwide] at hbound
  exact ⟨hwide, hbound⟩

theorem over_of_isEmpty {s : Baseline} (h : s.levels.isEmpty = true) : s.levels = [] :=
  List.isEmpty_iff.mp h

theorem report_unordered_mixed :
    ((baseline mixedRun).get mixedRun_runs).summaries =
      ((baseline inOrder).get inOrder_runs).summaries := by
  obtain ⟨vs, run, _⟩ := exec_run .refl (Option.some_get mixedRun_runs).symm
  obtain ⟨ws, run', _⟩ := exec_run .refl (Option.some_get inOrder_runs).symm
  have hover : ((baseline mixedRun).get mixedRun_runs).levels = [] :=
    over_of_isEmpty (by decide +kernel)
  have hover' : ((baseline inOrder).get inOrder_runs).levels = [] :=
    over_of_isEmpty (by decide +kernel)
  have hsame : ((baseline mixedRun).get mixedRun_runs).allResults =
      ((baseline inOrder).get inOrder_runs).allResults := by decide +kernel
  obtain ⟨_, hkept⟩ := kept run
  obtain ⟨_, hkept'⟩ := kept run'
  have hperm := (hkept.over hover).2.1
  have hperm' := (hkept'.over hover').2.1
  exact (report_unordered run run' hover hover' (by decide) (by decide)
    (hperm.symm.trans (hsame ▸ hperm'))).2.1

end VllmSourceGateway.CapacityReport
