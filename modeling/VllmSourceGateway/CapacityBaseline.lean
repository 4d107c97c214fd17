import VllmSourceGateway.TransitionRuns

set_option autoImplicit false

/-! The capacity baseline tool: streaming requests sent in batches, the levels of a path
one after another or, for a mix of models, side by side. The requests of a batch end
in any order. Seconds are rational numbers, and the files that are written are left out. -/
namespace VllmSourceGateway.CapacityBaseline
open TransitionRuns

structure RequestResult where
  model : String
  path : String
  concurrency : ℕ
  requestIndex : ℕ
  ok : Bool
  statusCode : Option ℕ
  firstChunkSeconds : Option ℚ
  totalSeconds : ℚ
  bytesReceived : ℕ
  chunksReceived : ℕ
  error : Option String
  deriving DecidableEq

structure Level where
  model : String
  path : String
  concurrency : ℕ
  concurrency_pos : 0 < concurrency
  deriving DecidableEq

/-- An exception before the response, or the response with the chunks read from it and
the exception that ended them, if one did; as the text put into the result. The seconds
are those since the request was sent, at each chunk and in the end. -/
inductive Exchange where
  | failed (error : String) (seconds : ℚ)
  | answered (statusCode : ℕ) (chunks : List (ℚ × List UInt8)) (error : Option String) (seconds : ℚ)

def runStreamingRequest (level : Level) (requestIndex : ℕ) : Exchange → RequestResult
  | .failed error seconds =>
    ⟨level.model, level.path, level.concurrency, requestIndex, false, none, none, seconds, 0, 0,
      some error⟩
  | .answered statusCode chunks error seconds =>
    let received := chunks.filter fun chunk => !chunk.2.isEmpty
    let ok := error.isNone && decide (200 ≤ statusCode ∧ statusCode < 300) &&
      decide (0 < received.length)
    let firstChunkSeconds := if error.isNone then received.head?.map Prod.fst else none
    ⟨level.model, level.path, level.concurrency, requestIndex, ok, some statusCode,
      firstChunkSeconds, seconds, (received.map fun chunk => chunk.2.length).sum, received.length,
      if ok then none else some (error.getD "non_2xx_or_empty_stream")⟩

/-- The variables of `run_level` at its `gather`; a task without a result is under way. -/
structure LevelRun where
  level : Level
  results : List RequestResult
  nextIndex : ℕ
  tasks : List (Option RequestResult)

/-- The head of the loop; behind the last batch there are no tasks. -/
def startBatch (requestsPerLevel : ℕ) (run : LevelRun) : LevelRun :=
  { run with
    tasks := List.replicate (min run.level.concurrency (requestsPerLevel - run.nextIndex)) none }

def runLevel (requestsPerLevel : ℕ) (level : Level) : LevelRun :=
  startBatch requestsPerLevel ⟨level, [], 0, []⟩

/-- `gather` returns once every task has its result, in the order of the tasks. -/
def gathered (requestsPerLevel : ℕ) (run : LevelRun) : LevelRun :=
  if run.tasks.all Option.isSome then
    startBatch requestsPerLevel { run with
      results := run.results ++ run.tasks.filterMap id
      nextIndex := run.nextIndex + run.tasks.length }
  else run

def LevelRun.finish (requestsPerLevel : ℕ) (run : LevelRun) (offset : ℕ) (exchange : Exchange) :
    Option LevelRun :=
  match run.tasks[offset]? with
  | some none =>
    some (gathered requestsPerLevel { run with
      tasks := run.tasks.set offset
        (some (runStreamingRequest run.level (run.nextIndex + offset) exchange)) })
  | _ => none

def LevelRun.isDone (run : LevelRun) : Bool := run.tasks.isEmpty

structure Arguments where
  model : String
  mixedModels : List (String × {concurrency : ℕ // 0 < concurrency})
  mixedModels_nodup : (mixedModels.map Prod.fst).Nodup
  paths : List String
  concurrencyLevels : List {concurrency : ℕ // 0 < concurrency}
  requestsPerLevel : ℕ
  failOnError : Bool
  requestsPerLevel_pos : 0 < requestsPerLevel

structure LevelSummary where
  model : String
  path : String
  concurrency : ℕ
  totalRequests : ℕ
  successCount : ℕ
  failureCount : ℕ
  p50TotalSeconds : Option ℚ
  p95TotalSeconds : Option ℚ
  maxTotalSeconds : Option ℚ
  p50FirstChunkSeconds : Option ℚ
  p95FirstChunkSeconds : Option ℚ
  maxFirstChunkSeconds : Option ℚ
  deriving DecidableEq

/-- To the nearest integer, and to the even one of two. -/
def round (q : ℚ) : ℤ :=
  let above := q - ⌊q⌋
  if above < 1 / 2 ∨ above = 1 / 2 ∧ ⌊q⌋ % 2 = 0 then ⌊q⌋ else ⌊q⌋ + 1

def percentile (values : List ℚ) (percent : ℚ) : Option ℚ :=
  let ordered := values.insertionSort (· ≤ ·)
  let last : ℤ := ordered.length - 1
  if values.isEmpty then none else ordered[(max 0 (min last (round (last * percent)))).toNat]?

/-- `statistics.median` where there are any values. -/
def median (values : List ℚ) : Option ℚ :=
  let ordered := values.insertionSort (· ≤ ·)
  let middle := ordered.length / 2
  if ordered.length % 2 = 1 then ordered[middle]?
  else ordered[middle - 1]?.bind fun a => ordered[middle]?.map fun b => (a + b) / 2

def summarize (level : Level) (results : List RequestResult) : LevelSummary :=
  let successes := results.filter (·.ok)
  let totalDurations := successes.map (·.totalSeconds)
  let firstChunkDurations := successes.filterMap (·.firstChunkSeconds)
  ⟨level.model, level.path, level.concurrency, results.length, successes.length,
    results.length - successes.length, median totalDurations, percentile totalDurations (95 / 100),
    totalDurations.max?, median firstChunkDurations, percentile firstChunkDurations (95 / 100),
    firstChunkDurations.max?⟩

/-- The levels that run side by side, in the order of the two loops of `run`. -/
def stages (args : Arguments) : List (List Level) :=
  args.paths.flatMap fun path =>
    if args.mixedModels.isEmpty then
      args.concurrencyLevels.map fun concurrency =>
        [⟨args.model, path, concurrency.val, concurrency.property⟩]
    else
      [args.mixedModels.map fun entry => ⟨entry.1, path, entry.2.val, entry.2.property⟩]

def pathLevels (args : Arguments) (path : String) : List Level :=
  if args.mixedModels.isEmpty then
    args.concurrencyLevels.map fun concurrency =>
      ⟨args.model, path, concurrency.val, concurrency.property⟩
  else args.mixedModels.map fun entry => ⟨entry.1, path, entry.2.val, entry.2.property⟩

def maxConcurrency (args : Arguments) : ℕ :=
  if args.mixedModels.isEmpty then (args.concurrencyLevels.map Subtype.val).foldr max 0
  else (args.mixedModels.map fun entry => entry.2.val).sum

structure Baseline where
  levels : List LevelRun
  remaining : List (List Level)
  allResults : List RequestResult
  summaries : List LevelSummary

def nextStage (args : Arguments) (s : Baseline) : Baseline :=
  match s.remaining with
  | [] => { s with levels := [] }
  | stage :: remaining =>
    { s with levels := stage.map (runLevel args.requestsPerLevel), remaining := remaining }

def initial (args : Arguments) : Baseline := nextStage args ⟨[], stages args, [], []⟩

/-- What follows the outer `gather`, once its last level is done. -/
def closeStage (args : Arguments) (s : Baseline) : Baseline :=
  if s.levels.all LevelRun.isDone then
    nextStage args { s with
      allResults := s.allResults ++ s.levels.flatMap (·.results)
      summaries := s.summaries ++ s.levels.map fun run => summarize run.level run.results }
  else s

structure Event where
  level : ℕ
  offset : ℕ
  exchange : Exchange

def step (args : Arguments) (s : Baseline) (event : Event) : Option Baseline :=
  match s.levels[event.level]? with
  | none => none
  | some run =>
    match run.finish args.requestsPerLevel event.offset event.exchange with
    | none => none
    | some run' => some (closeStage args { s with levels := s.levels.set event.level run' })

def exitCode (args : Arguments) (s : Baseline) : ℕ :=
  if 0 < (s.summaries.map (·.failureCount)).sum ∧ args.failOnError = true then 1 else 0

section
variable {A B : Type}

/-- Ending one task adds its result to those there are. -/
theorem filterMap_set_none {tasks : List (Option A)} {k : ℕ} (h : tasks[k]? = some none) (a : A) :
    ((tasks.set k (some a)).filterMap id).Perm (a :: tasks.filterMap id) := by
  induction tasks generalizing k with
  | nil => cases h
  | cons task tasks ih =>
    cases k with
    | zero =>
      cases h
      exact .refl _
    | succ k =>
      have hrest := ih (k := k) h
      cases task with
      | none => exact hrest
      | some b => exact (hrest.cons b).trans (.swap a b _)

/-- Results known by their positions are known in order once they are all there. -/
theorem map_filterMap_all {tasks : List (Option A)} {f : A → B} {g : ℕ → B}
    (hall : tasks.all Option.isSome = true)
    (h : ∀ k a, tasks[k]? = some (some a) → f a = g k) :
    (tasks.filterMap id).map f = (List.range tasks.length).map g := by
  induction tasks generalizing g with
  | nil => rfl
  | cons task tasks ih =>
    cases task with
    | none => cases hall
    | some a =>
      have hfirst : f a = g 0 := h 0 a rfl
      have hrest := ih (g := fun k => g (k + 1)) hall fun k b hb => h (k + 1) b hb
      rw [List.length_cons, List.range_succ_eq_map, List.map_cons, List.map_map]
      change f a :: (tasks.filterMap id).map f = _
      rw [hfirst, hrest]
      rfl

end

def RequestResult.key (result : RequestResult) : String × String × ℕ × ℕ :=
  (result.model, result.path, result.concurrency, result.requestIndex)

def keyAt (level : Level) (requestIndex : ℕ) : String × String × ℕ × ℕ :=
  (level.model, level.path, level.concurrency, requestIndex)

def levelKeys (requestsPerLevel : ℕ) (level : Level) : List (String × String × ℕ × ℕ) :=
  (List.range requestsPerLevel).map (keyAt level)

def LevelRun.underWay (run : LevelRun) : ℕ := run.tasks.countP Option.isNone

def LevelRun.collected (run : LevelRun) : List RequestResult :=
  run.results ++ run.tasks.filterMap id

structure LevelKept (requestsPerLevel : ℕ) (run : LevelRun) : Prop where
  next : run.nextIndex ≤ requestsPerLevel
  batch : run.tasks.length = min run.level.concurrency (requestsPerLevel - run.nextIndex)
  keys : run.results.map RequestResult.key = (List.range run.nextIndex).map (keyAt run.level)
  taskKeys : ∀ offset result, run.tasks[offset]? = some (some result) →
    result.key = keyAt run.level (run.nextIndex + offset)
  waiting : run.tasks ≠ [] → none ∈ run.tasks

section
variable {n : ℕ} {run run' : LevelRun}

theorem runStreamingRequest_key (level : Level) (requestIndex : ℕ) (exchange : Exchange) :
    (runStreamingRequest level requestIndex exchange).key = keyAt level requestIndex := by
  cases exchange <;> rfl

theorem startBatch_kept (hnext : run.nextIndex ≤ n)
    (hkeys : run.results.map RequestResult.key = (List.range run.nextIndex).map (keyAt run.level)) :
    LevelKept n (startBatch n run) := by
  refine ⟨hnext, List.length_replicate, hkeys, ?_, ?_⟩
  · intro offset result hresult
    have hnone := List.eq_of_mem_replicate (List.mem_of_getElem? hresult)
    cases hnone
  · intro htasks
    obtain ⟨task, htask⟩ := List.exists_mem_of_ne_nil _ htasks
    have hnone := List.eq_of_mem_replicate htask
    rwa [hnone] at htask

theorem runLevel_kept (n : ℕ) (level : Level) : LevelKept n (runLevel n level) :=
  startBatch_kept (Nat.zero_le n) rfl

theorem runLevel_tasks (hn : 0 < n) (level : Level) : (runLevel n level).tasks ≠ [] := by
  have hpos := level.concurrency_pos
  have hlength : (runLevel n level).tasks.length = min level.concurrency (n - 0) :=
    List.length_replicate
  intro hnil
  rw [hnil, List.length_nil] at hlength
  omega

theorem gathered_level (n : ℕ) (run : LevelRun) : (gathered n run).level = run.level := by
  unfold gathered
  split <;> rfl

theorem gathered_collected (n : ℕ) (run : LevelRun) :
    (gathered n run).collected = run.collected := by
  unfold gathered
  split
  · simp [LevelRun.collected, startBatch, List.filterMap_replicate_of_none]
  · rfl

/-- Everything the end of a task does to its level. -/
theorem finish_inv {offset : ℕ} {exchange : Exchange}
    (h : run.finish n offset exchange = some run') :
    run.tasks[offset]? = some none ∧
      run' = gathered n { run with
        tasks := run.tasks.set offset
          (some (runStreamingRequest run.level (run.nextIndex + offset) exchange)) } := by
  unfold LevelRun.finish at h
  split at h
  · rename_i hnone
    exact ⟨hnone, (Option.some.inj h).symm⟩
  · cases h

theorem finish_level {offset : ℕ} {exchange : Exchange}
    (h : run.finish n offset exchange = some run') : run'.level = run.level := by
  obtain ⟨_, rfl⟩ := finish_inv h
  exact gathered_level n _

theorem finish_collected {offset : ℕ} {exchange : Exchange}
    (h : run.finish n offset exchange = some run') :
    run'.collected.Perm
      (runStreamingRequest run.level (run.nextIndex + offset) exchange :: run.collected) := by
  obtain ⟨hnone, rfl⟩ := finish_inv h
  rw [gathered_collected]
  have hset := filterMap_set_none hnone
    (runStreamingRequest run.level (run.nextIndex + offset) exchange)
  exact (hset.append_left run.results).trans List.perm_middle

theorem finish_kept {offset : ℕ} {exchange : Exchange} (hkept : LevelKept n run)
    (h : run.finish n offset exchange = some run') : LevelKept n run' := by
  obtain ⟨hnone, rfl⟩ := finish_inv h
  obtain ⟨hlt, _⟩ := List.getElem?_eq_some_iff.mp hnone
  have hbatch := hkept.batch
  have hnext := hkept.next
  let result := runStreamingRequest run.level (run.nextIndex + offset) exchange
  have htaskKeys : ∀ k found, (run.tasks.set offset (some result))[k]? = some (some found) →
      found.key = keyAt run.level (run.nextIndex + k) := by
    intro k found hfound
    rw [List.getElem?_set] at hfound
    split at hfound
    · rename_i hk
      subst hk
      cases hfound
      exact runStreamingRequest_key _ _ _
    · exact hkept.taskKeys k found hfound
  unfold gathered
  split
  · rename_i hall
    apply startBatch_kept
    · change run.nextIndex + (run.tasks.set offset (some result)).length ≤ n
      rw [List.length_set]
      omega
    · have hkeys := map_filterMap_all (f := RequestResult.key)
        (g := fun k => keyAt run.level (run.nextIndex + k)) hall htaskKeys
      change (run.results ++ (run.tasks.set offset (some result)).filterMap id).map
        RequestResult.key = (List.range (run.nextIndex +
          (run.tasks.set offset (some result)).length)).map (keyAt run.level)
      rw [List.map_append, hkept.keys, hkeys, List.range_add, List.map_append, List.map_map]
      rfl
  · rename_i hwaiting
    refine ⟨hnext, ?_, hkept.keys, htaskKeys, ?_⟩
    · change (run.tasks.set offset (some result)).length = _
      rw [List.length_set]
      exact hbatch
    · intro _
      simpa using hwaiting

/-- Behind its last batch a level has its results, in the order of the indices. -/
theorem LevelKept.done (h : LevelKept n run) (hdone : run.tasks = []) :
    run.results.map RequestResult.key = levelKeys n run.level := by
  have hbatch := h.batch
  have hnext := h.next
  have hpos := run.level.concurrency_pos
  rw [hdone, List.length_nil] at hbatch
  have hall : run.nextIndex = n := by omega
  rw [h.keys, hall]
  rfl

theorem LevelKept.underWay_le (h : LevelKept n run) : run.underWay ≤ run.level.concurrency := by
  have hcount : run.underWay ≤ run.tasks.length := List.countP_le_length
  have hbatch := h.batch
  omega

end

end VllmSourceGateway.CapacityBaseline
