import VllmSourceGateway.RequestSegments
import VllmSourceGateway.TransitionRuns

set_option autoImplicit false

/-! The running gateway: any number of requests over one shared state, each
suspended somewhere, resumed one at a time in any order. A resumption runs to
the next await without interruption. The health monitor may change the health
of an upstream at any moment. -/
namespace VllmSourceGateway.GatewaySystem
open PyText PyValues UsageExtractors Metrics Config AdmissionControl Routing GatewayEffects
open StreamBytes ProxyEndpoint RequestSegments TransitionRuns

/-- A request with the calls it has made and the inputs it has taken so far, each
with the point at which it was taken. -/
structure Task where
  request : ProxyRequest
  point : Point
  trace : List Effect
  steps : List (Point × Input)

structure System where
  gateway : Gateway
  tasks : List Task
  clock : ℚ
  history : List (ℚ × Effect)

def initial (config : AppConfig) : System := ⟨.init config, [], 0, []⟩

/-- Clock readings within one resumption are taken to be equal. -/
inductive Event where
  | arrive (request : ProxyRequest) (now : ℚ)
  | resume (task : ℕ) (input : Input) (now : ℚ)
  | setHealth (upstreamName : String) (healthy : Bool) (lastProbeAt lastSuccessAt : Option String)
      (lastStatusCode : Option ℕ) (lastError : Option String)

def Task.start (config : AppConfig) (request : ProxyRequest) : Task :=
  ⟨request, (startRequest config request).2, (startRequest config request).1, []⟩

def Task.continue (task : Task) (input : Input) (effects : List Effect) (point : Point) : Task :=
  ⟨task.request, point, task.trace ++ effects, task.steps ++ [(task.point, input)]⟩

def System.run (config : AppConfig) (s : System) (now : ℚ) (effects : List Effect)
    (tasks : List Task) : System :=
  ⟨performAll config.admissionControl now s.gateway effects, tasks, now,
    s.history ++ effects.map fun effect => (now, effect)⟩

section
variable (P : Platform) (config : AppConfig)

def step (s : System) : Event → Option System
  | .arrive request now =>
    if now < s.clock then none
    else
      let task := Task.start config request
      some (s.run config now task.trace (s.tasks ++ [task]))
  | .resume i input now =>
    if now < s.clock then none
    else
      match s.tasks[i]? with
      | none => none
      | some task =>
        match advance P config task.request s.gateway now task.point input with
        | none => none
        | some (effects, point) =>
          some (s.run config now effects (s.tasks.set i (task.continue input effects point)))
  | .setHealth upstreamName healthy lastProbeAt lastSuccessAt lastStatusCode lastError =>
    match setUpstreamHealth s.gateway.registry upstreamName healthy lastProbeAt lastSuccessAt
        lastStatusCode lastError with
    | .error _ => none
    | .ok registry => some { s with gateway := { s.gateway with registry := registry } }

inductive Step (s : System) : Event → System → Prop where
  | arrive {request : ProxyRequest} {now : ℚ} (hclock : s.clock ≤ now) :
      Step s (.arrive request now)
        (s.run config now (Task.start config request).trace
          (s.tasks ++ [Task.start config request]))
  | resume {i : ℕ} {input : Input} {now : ℚ} {before after : List Task} {task : Task}
      {effects : List Effect} {point : Point} (hclock : s.clock ≤ now)
      (htasks : s.tasks = before ++ task :: after) (hindex : before.length = i)
      (hsegment : Segment P config task.request s.gateway now task.point input effects point) :
      Step s (.resume i input now)
        (s.run config now effects (before ++ task.continue input effects point :: after))
  | setHealth {upstreamName : String} {healthy : Bool} {lastProbeAt lastSuccessAt : Option String}
      {lastStatusCode : Option ℕ} {lastError : Option String} {registry : RoutingRegistry}
      (hset : setUpstreamHealth s.gateway.registry upstreamName healthy lastProbeAt lastSuccessAt
        lastStatusCode lastError = .ok registry) :
      Step s (.setHealth upstreamName healthy lastProbeAt lastSuccessAt lastStatusCode lastError)
        { s with gateway := { s.gateway with registry := registry } }

end

variable {P : Platform} {config : AppConfig}

theorem step_cases {s s' : System} {event : Event} (h : step P config s event = some s') :
    Step P config s event s' := by
  cases event with
  | arrive request now =>
    simp only [step] at h
    split at h
    · cases h
    · rename_i hclock
      cases h
      exact .arrive (not_lt.mp hclock)
  | resume i input now =>
    simp only [step] at h
    split at h
    · cases h
    · rename_i hclock
      split at h
      · cases h
      · rename_i task htask
        split at h
        · cases h
        · rename_i effects point hadvance
          cases h
          obtain ⟨hi, htask⟩ := List.getElem?_eq_some_iff.mp htask
          have htasks : s.tasks = s.tasks.take i ++ task :: s.tasks.drop (i + 1) := by
            rw [← htask, ← List.drop_eq_getElem_cons hi, List.take_append_drop]
          have hset (task' : Task) : s.tasks.set i task' =
              s.tasks.take i ++ task' :: s.tasks.drop (i + 1) :=
            List.set_eq_take_append_cons_drop.trans (if_pos hi)
          rw [hset]
          refine .resume (not_lt.mp hclock) htasks ?_ (advance_segment hadvance)
          rw [List.length_take, min_eq_left hi.le]
  | setHealth upstreamName healthy lastProbeAt lastSuccessAt lastStatusCode lastError =>
    simp only [step] at h
    split at h
    · cases h
    · rename_i registry hset
      cases h
      exact .setHealth hset

theorem perform_pools (config : AdmissionControlConfig) (now : ℚ) (g : Gateway) (effect : Effect) :
    (perform config now g effect).registry.modelToUpstreams = g.registry.modelToUpstreams := by
  cases effect <;> first | rfl | exact selectUpstream_pools _ _ _

theorem performAll_pools (config : AdmissionControlConfig) (now : ℚ) (g : Gateway)
    (effects : List Effect) :
    (performAll config now g effects).registry.modelToUpstreams = g.registry.modelToUpstreams := by
  induction effects generalizing g with
  | nil => rfl
  | cons effect effects ih => exact (ih _).trans (perform_pools config now g effect)

theorem setUpstreamHealth_pools {registry registry' : RoutingRegistry} {upstreamName : String}
    {healthy : Bool} {lastProbeAt lastSuccessAt : Option String} {lastStatusCode : Option ℕ}
    {lastError : Option String} (h : setUpstreamHealth registry upstreamName healthy lastProbeAt
      lastSuccessAt lastStatusCode lastError = .ok registry') :
    registry'.modelToUpstreams = registry.modelToUpstreams := by
  simp only [setUpstreamHealth] at h
  split at h
  · cases h
    rfl
  · cases h

def PoolsKept (config : AppConfig) (g : Gateway) : Prop :=
  g.registry.modelToUpstreams = (RoutingRegistry.fromConfig config).modelToUpstreams

theorem step_pools {s s' : System} {event : Event} (hstep : Step P config s event s')
    (h : PoolsKept config s.gateway) : PoolsKept config s'.gateway := by
  cases hstep with
  | arrive => exact (performAll_pools _ _ _ _).trans h
  | resume => exact (performAll_pools _ _ _ _).trans h
  | setHealth hset => exact (setUpstreamHealth_pools hset).trans h

theorem pools_kept {s : System} (h : Reachable (step P config) (initial config) s) :
    PoolsKept config s.gateway := by
  refine h.invariant (fun s => PoolsKept config s.gateway) ?_ ?_
  · exact (rfl : (Gateway.init config).registry.modelToUpstreams = _)
  · exact fun _ _ _ _ hinv hstep => step_pools (step_cases hstep) hinv

theorem PoolsKept.pool {g : Gateway} (h : PoolsKept config g) (modelName : String) :
    g.registry.pool modelName = (RoutingRegistry.fromConfig config).pool modelName := by
  simp only [RoutingRegistry.pool, h.symm]

/-! ## What every request keeps, every system keeps -/

/-- The rule for properties of single requests, over runs whose steps all meet a
condition: what holds when a request has arrived and is kept by each of its
resumptions holds of all requests. -/
theorem run_task_advance (Q : System → Event → Prop) (I : Task → Prop)
    (hstart : ∀ request, I (.start config request))
    (hadvance : ∀ (s : System) (i : ℕ) (task : Task) (now : ℚ) (input : Input)
      (effects : List Effect) (point : Point), Reachable (step P config) (initial config) s →
      s.tasks[i]? = some task → Q s (.resume i input now) → I task →
      advance P config task.request s.gateway now task.point input = some (effects, point) →
      I (task.continue input effects point))
    {vs : List (System × Event)} {s : System} (run : Run (step P config) (initial config) vs s)
    (hsteps : ∀ v ∈ vs, Q v.1 v.2) : ∀ task ∈ s.tasks, I task := by
  refine run.invariant (fun vs s => (∀ v ∈ vs, Q v.1 v.2) → ∀ task ∈ s.tasks, I task)
    (by simp [initial]) ?_ hsteps
  intro vs s event s' run hinv hstep hsteps
  have hold := hinv fun v hv => hsteps v (List.mem_append_left _ hv)
  have hlast : Q s event := hsteps (s, event) (List.mem_append_right _ List.mem_cons_self)
  cases event with
  | arrive request now =>
    simp only [step] at hstep
    split at hstep
    · cases hstep
    · cases hstep
      intro task htask
      rcases List.mem_append.mp htask with hearlier | hnew
      · exact hold task hearlier
      · rw [List.mem_singleton.mp hnew]
        exact hstart _
  | resume i input now =>
    simp only [step] at hstep
    split at hstep
    · cases hstep
    · split at hstep
      · cases hstep
      · rename_i task hget
        split at hstep
        · cases hstep
        · rename_i effects point hsome
          cases hstep
          intro other hother
          rcases List.mem_or_eq_of_mem_set hother with hmem | rfl
          · exact hold other hmem
          · exact hadvance s i task now input effects point run.reachable hget hlast
              (hold task (List.mem_of_getElem? hget)) hsome
  | setHealth upstreamName healthy lastProbeAt lastSuccessAt lastStatusCode lastError =>
    simp only [step] at hstep
    split at hstep
    · cases hstep
    · cases hstep
      exact hold

/-- The same for what is kept by every segment. -/
theorem run_task_invariant (Q : System → Event → Prop) (I : Task → Prop)
    (hstart : ∀ request, I (.start config request))
    (hsegment : ∀ (s : System) (i : ℕ) (task : Task) (now : ℚ) (input : Input)
      (effects : List Effect) (point : Point), PoolsKept config s.gateway → s.tasks[i]? = some task →
      Q s (.resume i input now) → I task →
      Segment P config task.request s.gateway now task.point input effects point →
      I (task.continue input effects point))
    {vs : List (System × Event)} {s : System} (run : Run (step P config) (initial config) vs s)
    (hsteps : ∀ v ∈ vs, Q v.1 v.2) : ∀ task ∈ s.tasks, I task :=
  run_task_advance Q I hstart
    (fun s i task now input effects point hreach hget hcondition hinv hsome =>
      hsegment s i task now input effects point (pools_kept hreach) hget hcondition hinv
        (advance_segment hsome)) run hsteps

theorem task_invariant (I : Task → Prop) (hstart : ∀ request, I (.start config request))
    (hsegment : ∀ (task : Task) (g : Gateway) (now : ℚ) (input : Input) (effects : List Effect)
      (point : Point), PoolsKept config g → I task →
      Segment P config task.request g now task.point input effects point →
      I (task.continue input effects point))
    {s : System} (h : Reachable (step P config) (initial config) s) : ∀ task ∈ s.tasks, I task := by
  obtain ⟨vs, run⟩ := h
  exact run_task_invariant (fun _ _ => True) I hstart
    (fun s i task now input effects point hpools _ _ => hsegment task s.gateway now input effects
      point hpools) run fun _ _ => trivial

/-! ## Every metric comes from a call of a request -/

theorem metrics_emitted {s : System} (h : Reachable (step P config) (initial config) s) :
    ∀ event ∈ s.gateway.metrics, ∃ task ∈ s.tasks, ∃ effect ∈ task.trace, ∃ now g,
      event ∈ emitted config.admissionControl now g effect := by
  refine h.invariant (fun s => ∀ event ∈ s.gateway.metrics, ∃ task ∈ s.tasks,
    ∃ effect ∈ task.trace, ∃ now g, event ∈ emitted config.admissionControl now g effect)
    (List.forall_mem_nil _) ?_
  intro s event s' _ hinv hstep
  cases step_cases hstep with
  | arrive =>
    intro metric hmetric
    rcases performAll_metrics hmetric with hold | ⟨effect, heffect, g, hemitted⟩
    · obtain ⟨task, htask, hrest⟩ := hinv metric hold
      exact ⟨task, List.mem_append_left _ htask, hrest⟩
    · exact ⟨_, List.mem_append_right _ (List.mem_singleton_self _), effect, heffect, _, g, hemitted⟩
  | @resume i input now before after task effects point _ htasks =>
    intro metric hmetric
    rcases performAll_metrics hmetric with hold | ⟨effect, heffect, g, hemitted⟩
    · obtain ⟨other, hother, effect, heffect, hemitted⟩ := hinv metric hold
      rw [htasks] at hother
      rcases List.mem_append.mp hother with hbefore | hrest
      · exact ⟨other, List.mem_append_left _ hbefore, effect, heffect, hemitted⟩
      · rcases List.mem_cons.mp hrest with rfl | hafter
        · exact ⟨_, List.mem_append_right _ List.mem_cons_self, effect,
            List.mem_append_left _ heffect, hemitted⟩
        · exact ⟨other, List.mem_append_right _ (List.mem_cons_of_mem _ hafter), effect, heffect,
            hemitted⟩
    · exact ⟨_, List.mem_append_right _ List.mem_cons_self, effect,
        List.mem_append_right _ heffect, now, g, hemitted⟩
  | setHealth => exact hinv

/-! ## The admission controller has seen the history -/

def admissionCalls (history : List (ℚ × Effect)) : History :=
  history.filterMap fun entry => entry.2.admissionOp?.map fun op => (entry.1, op)

theorem admissionCalls_append (xs ys : List (ℚ × Effect)) :
    admissionCalls (xs ++ ys) = admissionCalls xs ++ admissionCalls ys := List.filterMap_append

def callsAt (now : ℚ) (effects : List Effect) : History :=
  admissionCalls (effects.map fun effect => (now, effect))

theorem callsAt_cons (now : ℚ) (effect : Effect) (effects : List Effect) :
    callsAt now (effect :: effects) =
      (effect.admissionOp?.map fun op => (now, op)).toList ++ callsAt now effects := by
  simp only [callsAt, admissionCalls, List.map_cons]
  cases h : effect.admissionOp? with
  | none => rw [List.filterMap_cons_none (by simp [h])]; rfl
  | some op => rw [List.filterMap_cons_some (b := (now, op)) (by simp [h])]; rfl

theorem callsAt_time (now : ℚ) (effects : List Effect) : ∀ call ∈ callsAt now effects,
    call.1 = now := by
  intro call hcall
  obtain ⟨entry, hentry, hop⟩ := List.mem_filterMap.mp hcall
  obtain ⟨effect, _, rfl⟩ := List.mem_map.mp hentry
  obtain ⟨op, _, rfl⟩ := Option.map_eq_some_iff.mp hop
  rfl

theorem perform_admission (config : AdmissionControlConfig) (now : ℚ) (g : Gateway)
    (effect : Effect) : (perform config now g effect).admission =
      match effect.admissionOp? with
      | none => g.admission
      | some op => (AdmissionControl.apply config now g.admission op).1 := by
  cases effect <;> rfl

theorem performAll_admission (config : AdmissionControlConfig) (now : ℚ) (g : Gateway)
    (effects : List Effect) (history : History) (h : g.admission = replay config history) :
    (performAll config now g effects).admission = replay config (history ++ callsAt now effects) := by
  induction effects generalizing g history with
  | nil => simpa [performAll, callsAt, admissionCalls] using h
  | cons effect effects ih =>
    have hnext : (perform config now g effect).admission =
        replay config (history ++ (effect.admissionOp?.map fun op => (now, op)).toList) := by
      rw [perform_admission]
      cases effect.admissionOp? with
      | none => simpa using h
      | some op => simp only [Option.map_some, Option.toList_some, replay_append, h]
    rw [callsAt_cons, ← List.append_assoc]
    exact ih _ _ hnext

structure HistoryKept (config : AppConfig) (s : System) : Prop where
  admission : s.gateway.admission = replay config.admissionControl (admissionCalls s.history)
  chronological : Chronological (admissionCalls s.history)
  past : ∀ call ∈ admissionCalls s.history, call.1 ≤ s.clock

theorem HistoryKept.run {s : System} (h : HistoryKept config s) {now : ℚ} (hclock : s.clock ≤ now)
    (effects : List Effect) (tasks : List Task) :
    HistoryKept config (s.run config now effects tasks) := by
  have hcalls : admissionCalls (s.run config now effects tasks).history =
      admissionCalls s.history ++ callsAt now effects := by
    simp only [System.run, admissionCalls_append, callsAt]
  refine ⟨?_, ?_, ?_⟩
  · rw [hcalls]
    exact performAll_admission _ now s.gateway effects _ h.admission
  · rw [hcalls]
    refine List.pairwise_append.mpr ⟨h.chronological, ?_, ?_⟩
    · refine List.pairwise_of_forall_mem_list ?_
      intro a ha b hb
      rw [callsAt_time now effects a ha, callsAt_time now effects b hb]
    · intro a ha b hb
      rw [callsAt_time now effects b hb]
      exact (h.past a ha).trans hclock
  · rw [hcalls]
    intro call hcall
    rcases List.mem_append.mp hcall with hold | hnew
    · exact (h.past call hold).trans hclock
    · exact (callsAt_time now effects call hnew).le

theorem history_kept {s : System} (h : Reachable (step P config) (initial config) s) :
    HistoryKept config s := by
  refine h.invariant (HistoryKept config) ?_ ?_
  · exact ⟨rfl, (List.Pairwise.nil : Chronological []), by simp [initial, admissionCalls]⟩
  · intro s event s' _ hinv hstep
    cases step_cases hstep with
    | arrive hclock => exact hinv.run hclock _ _
    | resume hclock => exact hinv.run hclock _ _
    | setHealth hset => exact ⟨hinv.admission, hinv.chronological, hinv.past⟩

/-! ## A small gateway

Two upstreams serve one model, with every admission control configured. -/

def smallConfig : AppConfig where
  server := ⟨1000, 1000, by decide, by decide⟩
  security := ⟨false⟩
  admissionControl := sampleAdmission
  upstreams := [⟨"a", "http://a/", ["llama"], none⟩, ⟨"b", "http://b/", ["llama"], none⟩]
  upstreamNames_nodup := by decide

def smallRequest : ProxyRequest := ⟨[], ⟨"research", some "key", .apiKey⟩, .chatCompletions⟩

def postBody : List UInt8 := asciiBytes "\x7b\"model\":\"llama\"\x7d".toList

def streamBody : List UInt8 :=
  asciiBytes "\x7b\"model\":\"llama\",\"stream\":true\x7d".toList

def usageBody : List UInt8 :=
  asciiBytes "\x7b\"usage\":\x7b\"prompt_tokens\":3,\"completion_tokens\":5\x7d\x7d".toList

/-- `json.loads` on the bodies of the small gateway. -/
def smallLoads (content : List UInt8) : Except LoadsError Json :=
  if content = postBody then .ok (.obj [("model", .str "llama")])
  else if content = streamBody then .ok (.obj [("model", .str "llama"), ("stream", .bool true)])
  else if content = usageBody then
    .ok (.obj [("usage", .obj [("prompt_tokens", .int 3), ("completion_tokens", .int 5)])])
  else if content = asciiBytes "[]".toList then .ok (.arr [])
  else .error .jsonDecode

def smallPlatform : Platform where
  loads _ := .error .jsonDecode
  loadsBytes := smallLoads
  responseInit _ _ := true
  streamingResponseInit _ _ := true
  counterAccepts := fitsDouble

def smallRun (events : List Event) : Option System :=
  exec (step smallPlatform smallConfig) (initial smallConfig) events

end VllmSourceGateway.GatewaySystem
