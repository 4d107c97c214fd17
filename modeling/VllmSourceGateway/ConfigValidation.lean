import VllmSourceGateway.SourceResolution
import VllmSourceGateway.Validation

set_option autoImplicit false

/-! From what the configuration file holds to the configuration the gateway runs
with: the validators of `config.py`. A raw configuration has passed the checks
that pydantic makes of single fields (their types and bounds); the fields that
no request depends on are left out. -/
namespace VllmSourceGateway.ConfigValidation
open PyText PyValues Config SourceResolution Validation

/-- `os.environ` and `json.loads` of its values. -/
structure Environment where
  environ : String → Option String
  loads : Text → Except LoadsError Json

structure RawUpstreamConfig where
  name : String
  baseUrl : String
  models : List String
  authorizationFromEnv : Option String

structure RawDepartmentConfig where
  apiKeys : Option (List String)
  apiKeysFromEnv : Option String

/-- The keys and names in `admissionControl` are as the file has them. -/
structure RawAppConfig where
  server : ServerConfig
  security : SecurityConfig
  admissionControl : AdmissionControlConfig
  upstreams : List RawUpstreamConfig
  departments : List (String × RawDepartmentConfig)
  upstreams_nonempty : upstreams ≠ []
  departments_nonempty : departments ≠ []

/-- `normalize_keys` of both kinds of list entries. -/
def normalizeKeys (department modelName : String) : Except Problem (String × String) :=
  if stripString department = "" ∨ stripString modelName = "" then
    .error (.message "department and model_name must be non-empty")
  else .ok (stripString department, stripString modelName)

def normalizeDepartmentModelLimit (limit : DepartmentModelConcurrencyLimitConfig) :
    Except Problem DepartmentModelConcurrencyLimitConfig :=
  (normalizeKeys limit.department limit.modelName).map fun key =>
    { limit with department := key.1, modelName := key.2 }

def normalizeTokenBudget (budget : TokenBudgetConfig) : Except Problem TokenBudgetConfig :=
  (normalizeKeys budget.department budget.modelName).map fun key =>
    { budget with department := key.1, modelName := key.2 }

/-- One dictionary of `normalize_model_keys`: rebuilt under the stripped keys. -/
def normalizeModelKeys {β : Type} (fieldName : String) :
    List (String × β) → List (String × β) → Except Problem (List (String × β))
  | normalized, [] => .ok normalized
  | normalized, (modelName, limit) :: items =>
    if stripString modelName = "" then
      .error (.message ("admission_control " ++ fieldName ++ " keys must be non-empty"))
    else normalizeModelKeys fieldName (PyDict.set normalized (stripString modelName) limit) items

/-- A validator that stops at its first error, among those that go on. -/
def alone {α : Type} (checked : Except Problem α) : Validated Problem α :=
  checked.mapError fun problem => [problem]

def validateAdmissionControl (raw : AdmissionControlConfig) :
    Validated Problem AdmissionControlConfig :=
  match both (mapAll (fun limit => alone (normalizeDepartmentModelLimit limit))
      raw.departmentModelLimits)
    (mapAll (fun budget => alone (normalizeTokenBudget budget)) raw.tokenBudgets) with
  | .error problems => .error problems
  | .ok (departmentModelLimits, tokenBudgets) =>
    match normalizeModelKeys "global_model_limits" [] raw.globalModelLimits with
    | .error problem => .error [problem]
    | .ok globalModelLimits =>
      match normalizeModelKeys "request_shape_limits" [] raw.requestShapeLimits with
      | .error problem => .error [problem]
      | .ok requestShapeLimits =>
        .ok { raw with
          departmentModelLimits := departmentModelLimits
          tokenBudgets := tokenBudgets
          globalModelLimits := globalModelLimits
          requestShapeLimits := requestShapeLimits }

def strippedNonEmpty (values : List String) : List String :=
  (values.map stripString).filter (· ≠ "")

section
variable (env : Environment)

def resolveAuthorizationToken (envVarName : String) : Except Problem String :=
  match env.environ envVarName with
  | none =>
    .error (.message ("upstream authorization_from_env '" ++ envVarName ++ "' is not set"))
  | some rawValue =>
    if stripString rawValue = "" then
      .error (.message ("upstream authorization_from_env '" ++ envVarName ++ "' is empty"))
    else .ok (stripString rawValue)

def validateModels (raw : RawUpstreamConfig) : Except Problem UpstreamConfig :=
  let normalized := strippedNonEmpty raw.models
  if normalized = [] then
    .error (.message "upstream must declare at least one non-empty model name")
  else
    match raw.authorizationFromEnv with
    | none => .ok ⟨raw.name, raw.baseUrl, normalized, none⟩
    | some authorizationFromEnv =>
      let envVarName := stripString authorizationFromEnv
      if envVarName = "" then
        .error (.message "upstream authorization_from_env must be non-empty")
      else
        (resolveAuthorizationToken env envVarName).map fun token =>
          ⟨raw.name, raw.baseUrl, normalized, some token⟩

def stringItems : Json → Option (List String)
  | .arr items => items.mapM fun item =>
    match item with
    | .str s => some s
    | _ => none
  | _ => none

/-- The keys of an environment value before they are stripped. -/
def parsedValues (envVarName normalizedValue : String) : Except Problem (List String) :=
  if normalizedValue.toList.head? = some '[' then
    match env.loads normalizedValue.toList with
    | .error .jsonDecode =>
      .error (.message ("department api_keys_from_env '" ++ envVarName ++
        "' must be a valid JSON array or comma-separated string"))
    | .error error => .error (.loads error)
    | .ok parsedJson =>
      match stringItems parsedJson with
      | none =>
        .error (.message ("department api_keys_from_env '" ++ envVarName ++
          "' must resolve to a list of strings"))
      | some items => .ok items
  else .ok ((normalizedValue.toList.splitOn ',').map String.ofList)

def parseApiKeysEnvValue (envVarName : String) : Except Problem (List String) :=
  match env.environ envVarName with
  | none => .error (.message ("department api_keys_from_env '" ++ envVarName ++ "' is not set"))
  | some rawValue =>
    if stripString rawValue = "" then
      .error (.message ("department api_keys_from_env '" ++ envVarName ++ "' is empty"))
    else
      match parsedValues env envVarName (stripString rawValue) with
      | .error problem => .error problem
      | .ok values =>
        if strippedNonEmpty values = [] then
          .error (.message ("department api_keys_from_env '" ++ envVarName ++
            "' must contain at least one non-empty api key"))
        else .ok (strippedNonEmpty values)

def validateApiKeys (raw : RawDepartmentConfig) : Except Problem DepartmentConfig :=
  let keys : Except Problem (List String) :=
    match raw.apiKeys, raw.apiKeysFromEnv with
    | some apiKeys, none => .ok apiKeys
    | none, some apiKeysFromEnv =>
      let envVarName := stripString apiKeysFromEnv
      if envVarName = "" then .error (.message "department api_keys_from_env must be non-empty")
      else parseApiKeysEnvValue env envVarName
    | _, _ =>
      .error (.message "department must declare exactly one of api_keys or api_keys_from_env")
  match keys with
  | .error problem => .error problem
  | .ok apiKeys =>
    if hnormalized : strippedNonEmpty apiKeys = [] then
      .error (.message "department must declare at least one non-empty api key")
    else .ok ⟨strippedNonEmpty apiKeys, hnormalized⟩

def validateDepartment (entry : String × RawDepartmentConfig) :
    Validated Problem (String × DepartmentConfig) :=
  (alone (validateApiKeys env entry.2)).map fun config => (entry.1, config)

end

def formatAllowed (values : List String) : String := ", ".intercalate (PyDict.sortedNames values)

def validateKnownAdmissionModel (fieldName modelName : String) (allowedModelNames : List String) :
    Except Problem Unit :=
  if modelName ∈ allowedModelNames then .ok ()
  else .error (.message ("admission_control " ++ fieldName ++ " references unknown model '" ++
    modelName ++ "'; allowed models: " ++ formatAllowed allowedModelNames))

def validateKnownAdmissionDepartment (fieldName department : String)
    (allowedDepartments : List String) : Except Problem Unit :=
  if department ∈ allowedDepartments then .ok ()
  else .error (.message ("admission_control " ++ fieldName ++ " references unknown department '" ++
    department ++ "'; allowed departments: " ++ formatAllowed allowedDepartments))

/-- `seen` holds the pairs before. -/
def validateUniqueAdmissionPairs (fieldName : String) :
    List (String × String) → List (String × String) → Except Problem Unit
  | _, [] => .ok ()
  | seen, pair :: pairs =>
    if pair ∈ seen then
      .error (.message ("admission_control " ++ fieldName ++
        " contains duplicate department/model pair '" ++ pair.1 ++ "'/'" ++ pair.2 ++ "'"))
    else validateUniqueAdmissionPairs fieldName (pair :: seen) pairs

def validateAdmissionReferences (admission : AdmissionControlConfig)
    (allowedModelNames allowedDepartments : List String) : Except Problem Unit :=
  firstError <|
    admission.globalModelLimits.map (fun item =>
      validateKnownAdmissionModel "global_model_limits" item.1 allowedModelNames) ++
    admission.requestShapeLimits.map (fun item =>
      validateKnownAdmissionModel "request_shape_limits" item.1 allowedModelNames) ++
    [validateUniqueAdmissionPairs "department_model_limits" []
        (admission.departmentModelLimits.map fun limit => (limit.department, limit.modelName)),
      validateUniqueAdmissionPairs "token_budgets" []
        (admission.tokenBudgets.map fun budget => (budget.department, budget.modelName))] ++
    admission.departmentModelLimits.flatMap (fun limit =>
      [validateKnownAdmissionDepartment "department_model_limits" limit.department
          allowedDepartments,
        validateKnownAdmissionModel "department_model_limits" limit.modelName allowedModelNames]) ++
    admission.tokenBudgets.flatMap (fun budget =>
      [validateKnownAdmissionDepartment "token_budgets" budget.department allowedDepartments,
        validateKnownAdmissionModel "token_budgets" budget.modelName allowedModelNames])

structure ConfigFields where
  server : ServerConfig
  security : SecurityConfig
  admissionControl : AdmissionControlConfig
  upstreams : List UpstreamConfig
  departments : List (String × DepartmentConfig)

def ConfigFields.allowedModelNames (fields : ConfigFields) : List String :=
  fields.upstreams.flatMap UpstreamConfig.models

def validateUniqueConstraints (fields : ConfigFields) : Except Problem GatewayConfig :=
  if hnames : (fields.upstreams.map UpstreamConfig.name).Nodup then
    match hindex : buildApiKeyIndex [] fields.departments with
    | .error problem => .error problem
    | .ok apiKeyToDepartment =>
      match (if fields.admissionControl.enabled then
          validateAdmissionReferences fields.admissionControl fields.allowedModelNames
            (apiKeyToDepartment.map Prod.snd)
        else .ok ()) with
      | .error problem => .error problem
      | .ok () =>
        .ok {
          server := fields.server
          security := fields.security
          admissionControl := fields.admissionControl
          upstreams := fields.upstreams
          upstreamNames_nodup := hnames
          departments := fields.departments
          apiKeyToDepartment := apiKeyToDepartment
          departments_accepted := hindex }
  else .error (.message "upstream names must be unique")

section
variable (env : Environment) (raw : RawAppConfig)

def validateFields : Validated Problem ConfigFields :=
  (both (validateAdmissionControl raw.admissionControl)
    (both (mapAll (fun upstream => alone (validateModels env upstream)) raw.upstreams)
      (mapAll (validateDepartment env) raw.departments))).map fun found =>
    ⟨raw.server, raw.security, found.1, found.2.1, found.2.2⟩

/-- `AppConfig.model_validate`: the fields first, and what concerns several of
them only when all are valid. -/
def validateAppConfig : Validated Problem GatewayConfig :=
  match validateFields env raw with
  | .error problems => .error problems
  | .ok fields => alone (validateUniqueConstraints fields)

end

/-! ## A configuration with spaces wherever the validators allow them -/

def sampleEnvironment : Environment where
  environ := fun name =>
    if name = "SALES_KEYS" then some " key-2, key-3,, "
    else if name = "LEGAL_KEYS" then some " [\"key-4 \", \"\"]"
    else if name = "TOKEN" then some " secret "
    else none
  loads := fun _ => .ok (.arr [.str "key-4 ", .str ""])

def sampleRaw : RawAppConfig where
  server := ⟨1024, 1024, by decide, by decide⟩
  security := ⟨true⟩
  admissionControl := { sampleAdmission with
    globalModelLimits := [(" llama", ⟨8, by decide⟩), ("qwen", ⟨4, by decide⟩)]
    departmentModelLimits :=
      [⟨" research", "llama ", 6, by decide⟩, ⟨"sales", " qwen", 1, by decide⟩]
    tokenBudgets :=
      [⟨"legal ", " llama", 100, 120, by decide, by decide⟩,
        ⟨"sales", "llama", 50, 40, by decide, by decide⟩]
    requestShapeLimits := [(" llama ", sampleShapeLimit)] }
  upstreams :=
    [⟨"vllm-a", "http://a:8000/", [" llama ", "qwen", " "], none⟩,
      ⟨"vllm-b", "http://b:8000/", ["llama"], some " TOKEN "⟩]
  departments :=
    [(" research ", ⟨some ["key-1 ", " "], none⟩), ("sales", ⟨none, some " SALES_KEYS"⟩),
      ("legal", ⟨none, some "LEGAL_KEYS"⟩)]
  upstreams_nonempty := List.cons_ne_nil _ _
  departments_nonempty := List.cons_ne_nil _ _

theorem sampleRaw_isOk :
    (validateAppConfig sampleEnvironment sampleRaw).toOption.isSome = true := by decide +kernel

def sampleConfig : GatewayConfig :=
  (validateAppConfig sampleEnvironment sampleRaw).toOption.get sampleRaw_isOk

theorem sampleRaw_accepted : validateAppConfig sampleEnvironment sampleRaw = .ok sampleConfig :=
  eq_ok_get sampleRaw_isOk

end VllmSourceGateway.ConfigValidation
