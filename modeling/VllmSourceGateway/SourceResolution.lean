import VllmSourceGateway.GatewaySystem

set_option autoImplicit false

/-! Which department a client belongs to: the index of the API keys that the
configuration is validated into, the key that a request presents, and the
requests that arrive through the two. -/
namespace VllmSourceGateway.SourceResolution
open PyText PyValues UsageExtractors Metrics Config ProxyEndpoint GatewaySystem TransitionRuns

/-- The `api_keys` of a department, as its validator leaves them. -/
structure DepartmentConfig where
  apiKeys : List String
  apiKeys_ne_nil : apiKeys ≠ []

def stripString (s : String) : String := String.ofList (strip s.toList)

/-- What a validator raises: a `ValueError` with its text, or what came out of
`json.loads` uncaught. -/
inductive Problem where
  | message (text : String)
  | loads (error : LoadsError)
  deriving DecidableEq

/-- The keys of one department. The keys seen before are those of the index. -/
def assignApiKeys (department : String) :
    List (String × String) → List String → Except Problem (List (String × String))
  | index, [] => .ok index
  | index, apiKey :: apiKeys =>
    if (PyDict.get? index apiKey).isSome then
      .error (.message ("api key '" ++ apiKey ++ "' is assigned to more than one department"))
    else assignApiKeys department (PyDict.set index apiKey department) apiKeys

/-- `_api_key_to_department`. -/
def buildApiKeyIndex : List (String × String) → List (String × DepartmentConfig) →
    Except Problem (List (String × String))
  | index, [] => .ok index
  | index, (department, config) :: departments =>
    if stripString department = "" then .error (.message "department names must be non-empty")
    else
      match assignApiKeys (stripString department) index config.apiKeys with
      | .error problem => .error problem
      | .ok index => buildApiKeyIndex index departments

structure GatewayConfig extends AppConfig where
  departments : List (String × DepartmentConfig)
  apiKeyToDepartment : List (String × String)
  departments_accepted : buildApiKeyIndex [] departments = .ok apiKeyToDepartment

def GatewayConfig.departmentNames (config : GatewayConfig) : List String :=
  config.departments.map fun entry => stripString entry.1

def unknownDepartment : String := "unknown"

def strippedOrNone (value : String) : Option String :=
  if stripString value = "" then none else some (stripString value)

def partitionSpace (text : Text) : Text × Text :=
  (text.takeWhile (· ≠ ' '), (text.dropWhile (· ≠ ' ')).drop 1)

def bearerKey (authorization : String) : Option String :=
  let (scheme, value) := partitionSpace authorization.toList
  if (String.ofList scheme).toLower = "bearer" then strippedOrNone (String.ofList value) else none

/-- An empty header counts as a missing one. -/
def nonEmpty (value : Option String) : Option String := value.filter (· ≠ "")

def extractApiKey (authorization xApiKey : Option String) : Option String :=
  match nonEmpty xApiKey, nonEmpty authorization with
  | some xApiKey, _ => strippedOrNone xApiKey
  | none, some authorization => bearerKey authorization
  | none, none => none

def resolveDepartmentForApiKey (config : GatewayConfig) (apiKey : Option String) :
    SourceResolutionResult :=
  match nonEmpty apiKey with
  | none => ⟨unknownDepartment, none, .unknown⟩
  | some key =>
    match PyDict.get? config.apiKeyToDepartment key with
    | some department => ⟨department, some key, .apiKey⟩
    | none => ⟨unknownDepartment, some key, .unknown⟩

/-- A `POST` to one of the proxy routes, with the items of its headers. -/
def receive (config : GatewayConfig) (headers : List (String × String)) (endpoint : Endpoint) :
    ProxyRequest where
  headers := headers
  sourceResolution := resolveDepartmentForApiKey config
    (extractApiKey (PyDict.get? headers "authorization") (PyDict.get? headers "x-api-key"))
  endpoint := endpoint

example : extractApiKey (some "Bearer  k1 ") none = some "k1" := by decide +kernel

example : extractApiKey (some "Bearer k1") (some "  ") = none := by decide +kernel

def Indexes (names : List String) (index : List (String × String)) : Prop :=
  ∀ apiKey department, PyDict.get? index apiKey = some department → department ∈ names

theorem assignApiKeys_indexes {names : List String} {department : String}
    (hdepartment : department ∈ names) {index index' : List (String × String)}
    {apiKeys : List String} (h : Indexes names index)
    (hassign : assignApiKeys department index apiKeys = .ok index') : Indexes names index' := by
  induction apiKeys generalizing index with
  | nil =>
    cases hassign
    exact h
  | cons apiKey apiKeys ih =>
    simp only [assignApiKeys] at hassign
    split at hassign
    · cases hassign
    · refine ih ?_ hassign
      intro other department' hget
      rw [PyDict.get?_set] at hget
      split at hget
      · cases hget
        exact hdepartment
      · exact h other department' hget

theorem buildApiKeyIndex_indexes {names : List String} {departments : List (String × DepartmentConfig)}
    (hnames : ∀ entry ∈ departments, stripString entry.1 ∈ names)
    {index index' : List (String × String)} (h : Indexes names index)
    (hindex : buildApiKeyIndex index departments = .ok index') : Indexes names index' := by
  induction departments generalizing index with
  | nil =>
    cases hindex
    exact h
  | cons entry departments ih =>
    obtain ⟨department, config⟩ := entry
    simp only [buildApiKeyIndex] at hindex
    split at hindex
    · cases hindex
    · split at hindex
      · cases hindex
      · rename_i next hassign
        exact ih (fun other hother => hnames other (List.mem_cons_of_mem _ hother))
          (assignApiKeys_indexes (hnames _ List.mem_cons_self) h hassign) hindex

theorem receive_department (config : GatewayConfig) (headers : List (String × String))
    (endpoint : Endpoint) :
    (receive config headers endpoint).department ∈ unknownDepartment :: config.departmentNames := by
  have hindexes : Indexes config.departmentNames config.apiKeyToDepartment :=
    buildApiKeyIndex_indexes (fun entry hentry => List.mem_map.mpr ⟨entry, hentry, rfl⟩)
      (fun _ _ hget => by cases hget) config.departments_accepted
  simp only [receive, ProxyRequest.department, resolveDepartmentForApiKey]
  split
  · exact List.mem_cons_self
  · split
    · rename_i hget
      exact List.mem_cons_of_mem _ (hindexes _ _ hget)
    · exact List.mem_cons_self

def FromClient (config : GatewayConfig) (event : Event) : Prop :=
  ∀ request now, event = .arrive request now →
    ∃ headers endpoint, request = receive config headers endpoint

theorem run_requests {P : Platform} {config : GatewayConfig} {steps : List (System × Event)}
    {s : System} (run : Run (step P config.toAppConfig) (initial config.toAppConfig) steps s)
    (hclients : ∀ taken ∈ steps, FromClient config taken.2) :
    ∀ task ∈ s.tasks, ∃ headers endpoint, task.request = receive config headers endpoint := by
  induction run with
  | refl => exact List.forall_mem_nil _
  | @snoc steps s t event run hstep ih =>
    have hold := ih fun taken htaken => hclients taken (List.mem_append_left _ htaken)
    have hnew : FromClient config event := hclients (s, event) (by simp)
    cases step_cases hstep with
    | arrive =>
      intro task htask
      rcases List.mem_append.mp htask with hmem | hmem
      · exact hold task hmem
      · rw [List.mem_singleton.mp hmem]
        exact hnew _ _ rfl
    | @resume _ _ _ before after resumed effects point _ htasks =>
      intro task htask
      rcases List.mem_append.mp htask with hbefore | hrest
      · exact hold task (by simp [htasks, hbefore])
      · rcases List.mem_cons.mp hrest with rfl | hafter
        · exact hold resumed (by simp [htasks])
        · exact hold task (by simp [htasks, hafter])
    | setHealth => exact hold

end VllmSourceGateway.SourceResolution
