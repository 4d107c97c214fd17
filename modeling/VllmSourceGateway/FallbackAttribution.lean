import VllmSourceGateway.MetricLabels
import VllmSourceGateway.ApiKeyAttribution
import VllmSourceGateway.DepartmentIsolation

set_option autoImplicit false

/-! Requests without a configured key are put under one fallback name. Whether they
are kept apart from the departments is whether no department has that name. -/
namespace VllmSourceGateway.FallbackAttribution
open PyValues UsageExtractors Metrics Config AdmissionControl Routing GatewayEffects
open StreamBytes ProxyEndpoint RequestSegments RequestSlot GatewaySystem RequestEmissions
open SourceResolution RequestMetrics ConfigValidation AcceptedConfig ApiKeyAttribution
open DepartmentIsolation MetricLabels Validation TransitionRuns

/-! ## A request is labelled with its own department -/

def OwnLabels (department : String) (labels : Labels) : Prop :=
  ∀ label ∈ labels, label.1 = "department" → label.2 = department

theorem own_head {department : String} {labels : Labels}
    (h : ∀ label ∈ labels, label.1 ≠ "department") :
    OwnLabels department (("department", department) :: labels) :=
  List.forall_mem_cons.mpr ⟨fun _ => rfl, fun label hlabel hname => absurd hname (h label hlabel)⟩

theorem pairEvent_own {department modelName : String} {endpoint : Endpoint} {event : MetricEvent}
    (h : PairEvent department modelName endpoint event) :
    OwnLabels department (eventLabels event) := by
  cases h <;> exact own_head (by simp)

section
variable {config : AppConfig} {request : ProxyRequest} {modelName : String}

theorem emits_own {effect : Effect} (h : Emits config request modelName effect) (now : ℚ)
    (g : Gateway) : ∀ event ∈ emitted config.admissionControl now g effect,
      OwnLabels request.department (eventLabels event) := by
  cases h with
  | model | statusOverride | failureOrigin | recordTokens | selectUpstream | contact
  | attemptEnded | exchangeClosed => exact List.forall_mem_nil _
  | checkRequestShape =>
    exact fun event hevent => pairEvent_own (checkRequestShape_events _ _ _ _ _ _ event hevent)
  | acquire => exact fun event hevent => pairEvent_own (acquire_events _ _ _ _ _ _ event hevent)
  | recordRetryEvent =>
    exact fun event hevent =>
      pairEvent_own (recordRetryEvent_events _ _ _ _ request.endpoint _ event hevent)
  | release =>
    simp only [leaseFor]
    split
    · exact List.forall_mem_singleton.mpr (own_head (by simp))
    · exact List.forall_mem_nil _
  | promptTokens | generationTokens | streamFirstChunk | modelTokenAccounting =>
    exact List.forall_mem_singleton.mpr (own_head (by simp))
  | upstreamSelection | upstreamRequestDuration | tokenAccounting =>
    exact List.forall_mem_singleton.mpr (by simp [OwnLabels, eventLabels])

/-- The pairs whose admission state a call concerns. -/
theorem emits_pair {effect : Effect} (h : Emits config request modelName effect)
    {op : AdmissionOp} (hop : effect.admissionOp? = some op) {key : Key}
    (hkey : pairOf op = some key) : key.1 = request.department := by
  cases h <;> cases hop
  case release =>
    simp only [leaseFor] at hkey
    split at hkey <;> cases hkey
    rfl
  all_goals
    cases hkey
    try rfl

def departmentLabels (config : AppConfig) (task : Task) : Set String :=
  {value | (∃ effect ∈ task.trace, ∃ now g,
      ∃ event ∈ emitted config.admissionControl now g effect,
        ("department", value) ∈ eventLabels event) ∨
    ∃ defaultStatusCode, ∃ event ∈
        (finalizeRequestMetrics (stateOf task.trace) "POST" defaultStatusCode).1,
      ("department", value) ∈ requestEventLabels event}

def bucketKeys (task : Task) : Set Key :=
  {key | ∃ effect ∈ task.trace, ∃ op, effect.admissionOp? = some op ∧ pairOf op = some key}

theorem bucketKeys_own {task : Task} (h : TaskEmits config task) :
    ∀ key ∈ bucketKeys task, key.1 = task.request.department := by
  rintro key ⟨effect, heffect, op, hop, hkey⟩
  obtain rfl | rfl | ⟨modelName, _, hemits⟩ := h.cases heffect
  · cases hop
  · cases hop
  · exact emits_pair hemits hop hkey

theorem observe_department {state : RequestState} {effect : Effect}
    (h : Emits config request modelName effect) :
    (state.observe effect).department = state.department := by
  cases h <;> rfl

theorem stateOf_department {task : Task} (h : TaskEmits config task) :
    (stateOf task.trace).department = some task.request.department := by
  refine stateOf_kept h (fun state => state.department = some task.request.department) ?_
    fun modelName _ state effect hemits hstate => (observe_department hemits).trans hstate
  rw [startRequest_effects]
  rfl

theorem finalize_own {state : RequestState} {department : String}
    (h : state.department = some department) (defaultStatusCode : ℕ) :
    ∀ event ∈ (finalizeRequestMetrics state "POST" defaultStatusCode).1,
      OwnLabels department (requestEventLabels event) := by
  simp only [finalizeRequestMetrics, buildRequestMetricsSnapshot, h]
  split
  · exact List.forall_mem_nil _
  · dsimp only
    split
    · rename_i hdepartment _
      cases hdepartment
      rw [List.forall_mem_append, List.forall_mem_append]
      refine ⟨⟨?_, ?_⟩, ?_⟩
      · simp only [observeRequest, List.forall_mem_cons, List.not_mem_nil, false_implies,
          implies_true, and_true]
        exact ⟨own_head (by simp), own_head (by simp)⟩
      · split
        · simp only [observeModelRequest, List.forall_mem_cons, List.not_mem_nil, false_implies,
            implies_true, and_true]
          exact ⟨own_head (by simp), own_head (by simp)⟩
        · exact List.forall_mem_nil _
      · split
        · simp only [recordRequestFailure]
          split
          · exact List.forall_mem_nil _
          · exact List.forall_mem_singleton.mpr (own_head (by simp))
        · exact List.forall_mem_nil _
    · exact List.forall_mem_nil _

theorem departmentLabels_own {task : Task} (h : TaskEmits config task) :
    ∀ value ∈ departmentLabels config task, value = task.request.department := by
  rintro value (⟨effect, heffect, now, g, event, hevent, hlabel⟩ |
    ⟨defaultStatusCode, event, hevent, hlabel⟩)
  · obtain rfl | rfl | ⟨modelName, _, hemits⟩ := h.cases heffect
    · cases hevent
    · cases List.mem_singleton.mp hevent
      simpa [eventLabels] using hlabel
    · exact emits_own hemits now g event hevent _ hlabel rfl
  · exact finalize_own (stateOf_department h) defaultStatusCode event hevent _ hlabel rfl

end

/-! ## The fallback name and the departments -/

/-- Unattributed requests are under no department's name, find no limit or budget of
one, and share no department label, bucket, window or guard with one's requests. -/
structure FallbackApart (env : Environment) (raw : RawAppConfig) (config : GatewayConfig) :
    Prop where
  label : ∀ headers endpoint, Unattributed env raw headers →
    (receive config headers endpoint).department ∉ config.departmentNames
  limits : config.admissionControl.enabled = true → ∀ headers endpoint,
    Unattributed env raw headers → ∀ modelName,
      departmentModelLimit config.admissionControl (receive config headers endpoint).department
          modelName = none ∧
        tokenBudget config.admissionControl (receive config headers endpoint).department
          modelName = none
  traffic : ∀ (P : Platform) (steps : List (System × Event)) (s : System),
    Run (step P config.toAppConfig) (initial config.toAppConfig) steps s →
    (∀ taken ∈ steps, FromClient config taken.2) →
    ∀ task ∈ s.tasks, ∀ task' ∈ s.tasks,
      task.request.sourceResolution.resolutionSource = .unknown →
      task'.request.sourceResolution.resolutionSource = .apiKey →
      Disjoint (departmentLabels config.toAppConfig task)
          (departmentLabels config.toAppConfig task') ∧
        Disjoint (bucketKeys task) (bucketKeys task')

section
variable {env : Environment} {raw : RawAppConfig} {config : GatewayConfig}

theorem receive_unknown (haccepted : validateAppConfig env raw = .ok config)
    {headers : List (String × String)} (h : Unattributed env raw headers) (endpoint : Endpoint) :
    (receive config headers endpoint).department = "unknown" :=
  congrArg SourceResolutionResult.department (resolved_unattributed haccepted h endpoint)

theorem receive_apiKey {headers : List (String × String)} {endpoint : Endpoint}
    (h : (receive config headers endpoint).sourceResolution.resolutionSource = .apiKey) :
    (receive config headers endpoint).department ∈ config.departmentNames := by
  simp only [receive, ProxyRequest.department, resolveDepartmentForApiKey] at h ⊢
  split at h
  · cases h
  · split at h
    · rename_i hget
      obtain ⟨entry, hentry, _, rfl⟩ := ((keysIndexed config).get? _ _).mp hget
      dsimp only
      exact List.mem_map.mpr ⟨entry, hentry, rfl⟩
    · cases h

/-- Limits that are in force name departments of the configuration. -/
theorem lookup_none (haccepted : validateAppConfig env raw = .ok config)
    (henabled : config.admissionControl.enabled = true) {department : String}
    (hother : department ∉ config.departmentNames) (modelName : String) :
    departmentModelLimit config.admissionControl department modelName = none ∧
      tokenBudget config.admissionControl department modelName = none := by
  have hreferences := (validateAppConfig_ok haccepted).references henabled
  have hconfigured (name : String) (hname : name ∈ config.apiKeyToDepartment.map Prod.snd) :
      name ≠ department := by
    rintro rfl
    obtain ⟨apiKey, hget⟩ := (mem_allowedDepartments config name).mp hname
    obtain ⟨entry, hentry, _, rfl⟩ := ((keysIndexed config).get? _ _).mp hget
    exact hother (List.mem_map.mpr ⟨entry, hentry, rfl⟩)
  constructor
  · rw [departmentModelLimit, Option.map_eq_none_iff, List.find?_eq_none]
    intro limit hlimit
    have hne := hconfigured _ (hreferences.limits limit hlimit).1
    simp [hne]
  · rw [tokenBudget, List.find?_eq_none]
    intro budget hbudget
    have hne := hconfigured _ (hreferences.budgets budget hbudget).1
    simp [hne]

theorem traffic_apart {task task' : Task} (h : TaskEmits config.toAppConfig task)
    (h' : TaskEmits config.toAppConfig task')
    (hne : task.request.department ≠ task'.request.department) :
    Disjoint (departmentLabels config.toAppConfig task)
        (departmentLabels config.toAppConfig task') ∧
      Disjoint (bucketKeys task) (bucketKeys task') := by
  constructor
  · refine Set.disjoint_left.mpr fun value hvalue hvalue' => hne ?_
    exact (departmentLabels_own h value hvalue).symm.trans (departmentLabels_own h' value hvalue')
  · refine Set.disjoint_left.mpr fun key hkey hkey' => hne ?_
    exact (bucketKeys_own h key hkey).symm.trans (bucketKeys_own h' key hkey')

theorem departmentNames_eq (haccepted : validateAppConfig env raw = .ok config) :
    config.departmentNames = raw.departments.map fun entry => stripString entry.1 := by
  have hnames : List.Forall₂ Eq (raw.departments.map fun entry => stripString entry.1)
      config.departmentNames :=
    List.rel_map (fun _ _ hvalid => congrArg stripString hvalid.1.symm)
      (validateAppConfig_ok haccepted).departments
  rw [List.forall₂_eq_eq_eq] at hnames
  exact hnames.symm

/-- No department may have the fallback name, and that is enough. -/
theorem fallback_apart_iff (haccepted : validateAppConfig env raw = .ok config) :
    FallbackApart env raw config ↔ ∀ entry ∈ raw.departments, stripString entry.1 ≠ "unknown" := by
  have hnames : "unknown" ∉ config.departmentNames ↔
      ∀ entry ∈ raw.departments, stripString entry.1 ≠ "unknown" := by
    rw [departmentNames_eq haccepted, List.mem_map]
    push Not
    rfl
  rw [← hnames]
  have hkeyless : Unattributed env raw [] := fun key hkey => by cases hkey
  constructor
  · intro hapart
    have hlabel := hapart.label [] .chatCompletions hkeyless
    rwa [receive_unknown haccepted hkeyless] at hlabel
  · intro hunnamed
    refine ⟨fun headers endpoint h => ?_, fun henabled headers endpoint h modelName => ?_, ?_⟩
    · rw [receive_unknown haccepted h]
      exact hunnamed
    · rw [receive_unknown haccepted h]
      exact lookup_none haccepted henabled hunnamed modelName
    · intro P steps s run hclients task htask task' htask' hsource hsource'
      have hemits := task_emits run.reachable
      obtain ⟨headers, endpoint, hrequest⟩ := run_requests run hclients task htask
      obtain ⟨headers', endpoint', hrequest'⟩ := run_requests run hclients task' htask'
      rw [hrequest] at hsource
      rw [hrequest'] at hsource'
      have hunattributed := (source_unknown_iff haccepted headers endpoint).mp hsource
      refine traffic_apart (hemits task htask) (hemits task' htask') fun hsame => ?_
      rw [hrequest, hrequest', receive_unknown haccepted hunattributed] at hsame
      exact hunnamed (hsame ▸ receive_apiKey hsource')

end

theorem fallback_apart_iff_sample : FallbackApart sampleEnvironment sampleRaw sampleConfig :=
  (fallback_apart_iff sampleRaw_accepted).mpr (by decide +kernel)

/-- A department has the fallback name, with spaces, and a limit. -/
def unknownRaw : RawAppConfig :=
  { sampleRaw with
    admissionControl := { sampleRaw.admissionControl with
      departmentModelLimits := [⟨"unknown", "llama", 12, by decide⟩]
      tokenBudgets := [] }
    departments := [(" unknown ", ⟨some ["key-1"], none⟩)]
    departments_nonempty := List.cons_ne_nil _ _ }

theorem unknownRaw_isOk :
    (validateAppConfig sampleEnvironment unknownRaw).toOption.isSome = true := by decide +kernel

theorem fallback_name_configured :
    ¬ ∀ (env : Environment) (raw : RawAppConfig) (config : GatewayConfig),
        validateAppConfig env raw = .ok config → FallbackApart env raw config := by
  intro h
  have hapart := h sampleEnvironment unknownRaw _ (eq_ok_get unknownRaw_isOk)
  have hlabel := hapart.label [] .responses (fun key hkey => by cases hkey)
  exact absurd hlabel (by decide +kernel)

end VllmSourceGateway.FallbackAttribution
