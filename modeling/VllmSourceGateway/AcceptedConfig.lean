import VllmSourceGateway.ConfigValidation

set_option autoImplicit false

/-! What validation says about a configuration that it accepts, field by field:
the rest of the development reads nothing else off the validators. -/
namespace VllmSourceGateway.AcceptedConfig
open PyText PyValues Config SourceResolution Validation ConfigValidation

theorem stripString_stripString (s : String) : stripString (stripString s) = stripString s := by
  simp only [stripString, String.toList_ofList, strip_strip]

theorem mem_strippedNonEmpty {values : List String} {name : String} :
    name ∈ strippedNonEmpty values ↔ name ≠ "" ∧ ∃ value ∈ values, stripString value = name := by
  simp only [strippedNonEmpty, List.mem_filter, List.mem_map, decide_eq_true_eq, and_comm]

theorem strippedNonEmpty_stripped {values : List String} {name : String}
    (h : name ∈ strippedNonEmpty values) : stripString name = name := by
  obtain ⟨_, value, _, rfl⟩ := mem_strippedNonEmpty.mp h
  exact stripString_stripString value

theorem strippedNonEmpty_idem (values : List String) :
    strippedNonEmpty (strippedNonEmpty values) = strippedNonEmpty values := by
  have hstripped : (strippedNonEmpty values).map stripString = (strippedNonEmpty values).map id :=
    List.map_congr_left fun _ hname => strippedNonEmpty_stripped hname
  rw [List.map_id] at hstripped
  rw [strippedNonEmpty, hstripped, List.filter_eq_self]
  intro name hname
  exact decide_eq_true (mem_strippedNonEmpty.mp hname).1

/-- Texts with the same stripped forms list the same names. -/
theorem strippedNonEmpty_congr {values values' : List String}
    (h : values.map stripString = values'.map stripString) :
    strippedNonEmpty values = strippedNonEmpty values' := by
  rw [strippedNonEmpty, strippedNonEmpty, h]

theorem alone_ok_iff {α : Type} {checked : Except Problem α} {x : α} :
    alone checked = .ok x ↔ checked = .ok x := by
  cases checked <;> simp [alone, Except.mapError]

theorem validateModels_ok {env : Environment} {raw : RawUpstreamConfig} {upstream : UpstreamConfig}
    (h : validateModels env raw = .ok upstream) :
    upstream.name = raw.name ∧ upstream.models = strippedNonEmpty raw.models ∧
      upstream.models ≠ [] := by
  simp only [validateModels] at h
  split at h
  · cases h
  · rename_i hmodels
    split at h
    · cases h
      exact ⟨rfl, rfl, hmodels⟩
    · split at h
      · cases h
      · cases htoken : resolveAuthorizationToken env (stripString _) with
        | error problem =>
          rw [htoken] at h
          cases h
        | ok token =>
          rw [htoken] at h
          cases h
          exact ⟨rfl, rfl, hmodels⟩

def listedApiKeys (env : Environment) (raw : RawDepartmentConfig) : List String :=
  match raw.apiKeys, raw.apiKeysFromEnv with
  | some apiKeys, _ => apiKeys
  | none, none => []
  | none, some envVarName =>
    match env.environ (stripString envVarName) with
    | none => []
    | some value =>
      if (strip value.toList).head? = some '[' then
        match env.loads (strip value.toList) with
        | .ok parsedJson => (stringItems parsedJson).getD []
        | .error _ => []
      else (value.toList.splitOn ',').map String.ofList

theorem strippedNonEmpty_split (value : String) :
    strippedNonEmpty (((strip value.toList).splitOn ',').map String.ofList) =
      strippedNonEmpty ((value.toList.splitOn ',').map String.ofList) := by
  have hstrip (parts : List Text) : (parts.map String.ofList).map stripString =
      (parts.map strip).map String.ofList := by
    simp only [List.map_map]
    refine List.map_congr_left fun part _ => ?_
    simp only [Function.comp_apply, stripString, String.toList_ofList]
  have hcomma : isSpace ',' = false := by decide
  apply strippedNonEmpty_congr
  rw [hstrip, hstrip, splitOn_strip hcomma]

theorem parsedValues_ok {env : Environment} {envVarName value : String} {values : List String}
    (h : parsedValues env envVarName (stripString value) = .ok values) :
    strippedNonEmpty values =
      strippedNonEmpty
        (if (strip value.toList).head? = some '[' then
          match env.loads (strip value.toList) with
          | .ok parsedJson => (stringItems parsedJson).getD []
          | .error _ => []
        else (value.toList.splitOn ',').map String.ofList) := by
  simp only [parsedValues, stripString, String.toList_ofList] at h
  split_ifs at h ⊢
  · split at h
    · cases h
    · cases h
    · rename_i parsedJson hloads
      split at h
      · cases h
      · rename_i items hitems
        cases h
        simp only [hloads, hitems, Option.getD_some]
  · cases h
    exact strippedNonEmpty_split value

theorem validateApiKeys_ok {env : Environment} {raw : RawDepartmentConfig}
    {config : DepartmentConfig} (h : validateApiKeys env raw = .ok config) :
    config.apiKeys = strippedNonEmpty (listedApiKeys env raw) := by
  obtain ⟨apiKeys, apiKeysFromEnv⟩ := raw
  simp only [validateApiKeys] at h
  rcases apiKeys with _ | apiKeys <;> rcases apiKeysFromEnv with _ | envVarName
  · cases h
  · simp only [listedApiKeys]
    by_cases hname : stripString envVarName = ""
    · simp only [hname, if_true] at h
      cases h
    · simp only [hname, if_false, parseApiKeysEnvValue] at h
      cases hvalue : env.environ (stripString envVarName) with
      | none =>
        simp only [hvalue] at h
        cases h
      | some value =>
        by_cases hempty : stripString value = ""
        · simp only [hvalue, hempty, if_true] at h
          cases h
        · simp only [hvalue, hempty, if_false] at h ⊢
          cases hparsed : parsedValues env (stripString envVarName) (stripString value) with
          | error problem =>
            simp only [hparsed] at h
            cases h
          | ok values =>
            simp only [hparsed] at h
            by_cases hnone : strippedNonEmpty values = []
            · simp only [hnone, if_true] at h
              cases h
            · simp only [hnone, if_false, strippedNonEmpty_idem, dite_false,
                Except.ok.injEq] at h
              rw [← h]
              exact parsedValues_ok hparsed
  · dsimp only at h
    split at h
    · cases h
    · cases h
      rfl
  · cases h

theorem assignApiKeys_get? {department : String} {index index' : List (String × String)}
    {apiKeys : List String} (h : assignApiKeys department index apiKeys = .ok index') :
    (∀ apiKey, PyDict.get? index' apiKey =
        if apiKey ∈ apiKeys then some department else PyDict.get? index apiKey) ∧
      (∀ apiKey ∈ apiKeys, PyDict.get? index apiKey = none) ∧
      (PyDict.Unique index → PyDict.Unique index') := by
  induction apiKeys generalizing index with
  | nil =>
    cases h
    exact ⟨fun _ => rfl, List.forall_mem_nil _, id⟩
  | cons apiKey apiKeys ih =>
    simp only [assignApiKeys] at h
    split at h
    · cases h
    · rename_i hfresh
      obtain ⟨hget, hnew, hunique⟩ := ih h
      have hnone : PyDict.get? index apiKey = none := by simpa using hfresh
      refine ⟨fun other => ?_, ?_, fun hindex => hunique (PyDict.set_unique hindex _ _)⟩
      · rw [hget, PyDict.get?_set]
        by_cases hother : other = apiKey
        · simp [hother]
        · simp [hother]
      · refine List.forall_mem_cons.mpr ⟨hnone, fun other hother => ?_⟩
        have hunset := hnew other hother
        rw [PyDict.get?_set] at hunset
        split at hunset
        · cases hunset
        · exact hunset

/-- The index of some departments: each key leads to its department, and no key
is listed by two of them. -/
structure KeysIndexed (departments : List (String × DepartmentConfig))
    (index : List (String × String)) : Prop where
  get? : ∀ apiKey department, PyDict.get? index apiKey = some department ↔
    ∃ entry ∈ departments, apiKey ∈ entry.2.apiKeys ∧ stripString entry.1 = department
  apart : departments.Pairwise fun a b => ∀ apiKey ∈ a.2.apiKeys, apiKey ∉ b.2.apiKeys
  names : ∀ entry ∈ departments, stripString entry.1 ≠ ""
  unique : PyDict.Unique index

theorem buildApiKeyIndex_from {departments : List (String × DepartmentConfig)}
    {index index' : List (String × String)} (h : buildApiKeyIndex index departments = .ok index') :
    (∀ apiKey department, PyDict.get? index' apiKey = some department ↔
        PyDict.get? index apiKey = some department ∨
          ∃ entry ∈ departments, apiKey ∈ entry.2.apiKeys ∧ stripString entry.1 = department) ∧
      (∀ entry ∈ departments, ∀ apiKey ∈ entry.2.apiKeys, PyDict.get? index apiKey = none) ∧
      departments.Pairwise (fun a b => ∀ apiKey ∈ a.2.apiKeys, apiKey ∉ b.2.apiKeys) ∧
      (∀ entry ∈ departments, stripString entry.1 ≠ "") ∧
      (PyDict.Unique index → PyDict.Unique index') := by
  induction departments generalizing index with
  | nil =>
    cases h
    simp
  | cons entry departments ih =>
    obtain ⟨department, config⟩ := entry
    simp only [buildApiKeyIndex] at h
    split at h
    · cases h
    · rename_i hname
      split at h
      · cases h
      · rename_i next hadd
        obtain ⟨hget, hnew, hunique⟩ := assignApiKeys_get? hadd
        obtain ⟨hget', hnew', hapart, hnames, hunique'⟩ := ih h
        refine ⟨fun apiKey name => ?_, ?_, ?_, List.forall_mem_cons.mpr ⟨hname, hnames⟩,
          fun hindex => hunique' (hunique hindex)⟩
        · rw [hget', hget, List.exists_mem_cons_iff]
          by_cases hkey : apiKey ∈ config.apiKeys
          · simp [hkey, hnew apiKey hkey]
          · simp [hkey]
        · refine List.forall_mem_cons.mpr ⟨hnew, fun other hother apiKey hkey => ?_⟩
          have hnone := hnew' other hother apiKey hkey
          rw [hget] at hnone
          split at hnone
          · cases hnone
          · exact hnone
        · refine List.pairwise_cons.mpr ⟨fun other hother apiKey hkey hagain => ?_, hapart⟩
          have hnone := hnew' other hother apiKey hagain
          rw [hget, if_pos hkey] at hnone
          cases hnone

theorem keysIndexed (config : GatewayConfig) :
    KeysIndexed config.departments config.apiKeyToDepartment := by
  obtain ⟨hget, _, hapart, hnames, hunique⟩ := buildApiKeyIndex_from config.departments_accepted
  refine ⟨fun apiKey department => ?_, hapart, hnames, hunique List.nodup_nil⟩
  rw [hget]
  simp [PyDict.get?]

/-- The departments that an admission entry may name. -/
theorem mem_allowedDepartments (config : GatewayConfig) (department : String) :
    department ∈ config.apiKeyToDepartment.map Prod.snd ↔
      ∃ apiKey, PyDict.get? config.apiKeyToDepartment apiKey = some department := by
  rw [List.mem_map]
  constructor
  · rintro ⟨⟨apiKey, _⟩, hmem, rfl⟩
    exact ⟨apiKey, (PyDict.get?_eq_some_iff (keysIndexed config).unique).mpr hmem⟩
  · rintro ⟨apiKey, hget⟩
    exact ⟨(apiKey, department), PyDict.mem_of_get? hget, rfl⟩

/-! ## The cross references of admission control -/

theorem validateUniqueAdmissionPairs_ok_iff {fieldName : String}
    {seen pairs : List (String × String)} :
    validateUniqueAdmissionPairs fieldName seen pairs = .ok () ↔
      pairs.Nodup ∧ ∀ pair ∈ pairs, pair ∉ seen := by
  induction pairs generalizing seen with
  | nil => simp [validateUniqueAdmissionPairs]
  | cons pair pairs ih =>
    simp only [validateUniqueAdmissionPairs]
    split
    · rename_i hseen
      simp [hseen]
    · rename_i hseen
      rw [ih, List.nodup_cons, List.forall_mem_cons]
      simp only [List.mem_cons, not_or]
      constructor
      · rintro ⟨hnodup, hnew⟩
        exact ⟨⟨fun hagain => (hnew pair hagain).1 rfl, hnodup⟩, hseen,
          fun other hother => (hnew other hother).2⟩
      · rintro ⟨⟨honce, hnodup⟩, _, hnew⟩
        refine ⟨hnodup, fun other hother => ⟨?_, hnew other hother⟩⟩
        rintro rfl
        exact honce hother

theorem validateKnownAdmissionModel_ok_iff {fieldName modelName : String} {allowed : List String} :
    validateKnownAdmissionModel fieldName modelName allowed = .ok () ↔ modelName ∈ allowed := by
  simp only [validateKnownAdmissionModel]
  split <;> simp [*]

theorem validateKnownAdmissionDepartment_ok_iff {fieldName department : String}
    {allowed : List String} :
    validateKnownAdmissionDepartment fieldName department allowed = .ok () ↔
      department ∈ allowed := by
  simp only [validateKnownAdmissionDepartment]
  split <;> simp [*]

structure ReferencesKnown (admission : AdmissionControlConfig)
    (modelNames departments : List String) : Prop where
  globalModels : ∀ item ∈ admission.globalModelLimits, item.1 ∈ modelNames
  shapeModels : ∀ item ∈ admission.requestShapeLimits, item.1 ∈ modelNames
  limitPairs : (admission.departmentModelLimits.map fun limit =>
    (limit.department, limit.modelName)).Nodup
  budgetPairs : (admission.tokenBudgets.map fun budget =>
    (budget.department, budget.modelName)).Nodup
  limits : ∀ limit ∈ admission.departmentModelLimits,
    limit.department ∈ departments ∧ limit.modelName ∈ modelNames
  budgets : ∀ budget ∈ admission.tokenBudgets,
    budget.department ∈ departments ∧ budget.modelName ∈ modelNames

theorem validateAdmissionReferences_ok {admission : AdmissionControlConfig}
    {modelNames departments : List String}
    (h : validateAdmissionReferences admission modelNames departments = .ok ()) :
    ReferencesKnown admission modelNames departments := by
  simp only [validateAdmissionReferences, firstError_ok_iff, List.forall_mem_append,
    List.forall_mem_map, List.mem_flatMap, List.forall_mem_cons, List.not_mem_nil, false_implies,
    implies_true, and_true, forall_exists_index, and_imp,
    validateUniqueAdmissionPairs_ok_iff, validateKnownAdmissionModel_ok_iff] at h
  obtain ⟨⟨⟨⟨hglobal, hshape⟩, hlimitPairs, hbudgetPairs⟩, hlimits⟩, hbudgets⟩ := h
  refine ⟨hglobal, hshape, hlimitPairs.1, hbudgetPairs.1, fun limit hlimit => ⟨?_, ?_⟩,
    fun budget hbudget => ⟨?_, ?_⟩⟩
  · exact validateKnownAdmissionDepartment_ok_iff.mp (hlimits _ limit hlimit List.mem_cons_self)
  · exact validateKnownAdmissionModel_ok_iff.mp
      (hlimits _ limit hlimit (List.mem_cons_of_mem _ List.mem_cons_self))
  · exact validateKnownAdmissionDepartment_ok_iff.mp (hbudgets _ budget hbudget List.mem_cons_self)
  · exact validateKnownAdmissionModel_ok_iff.mp
      (hbudgets _ budget hbudget (List.mem_cons_of_mem _ List.mem_cons_self))

/-- The value of the last entry whose key is the name when stripped. -/
def lastLimit {β : Type} (items : List (String × β)) (modelName : String) : Option β :=
  ((items.filter fun item => stripString item.1 = modelName).getLast?).map Prod.snd

theorem normalizeModelKeys_ok {β : Type} {fieldName : String}
    {normalized items result : List (String × β)}
    (h : normalizeModelKeys fieldName normalized items = .ok result) :
    (∀ modelName, PyDict.get? result modelName =
        (lastLimit items modelName).or (PyDict.get? normalized modelName)) ∧
      ∀ item ∈ items, stripString item.1 ≠ "" := by
  induction items generalizing normalized with
  | nil =>
    cases h
    exact ⟨fun _ => rfl, List.forall_mem_nil _⟩
  | cons item items ih =>
    obtain ⟨key, limit⟩ := item
    simp only [normalizeModelKeys] at h
    split at h
    · cases h
    · rename_i hkey
      obtain ⟨hget, hkeys⟩ := ih h
      refine ⟨fun modelName => ?_, List.forall_mem_cons.mpr ⟨hkey, hkeys⟩⟩
      rw [hget, PyDict.get?_set]
      by_cases hname : stripString key = modelName
      · simp only [lastLimit, List.filter_cons, hname, decide_true, if_true, List.getLast?_cons]
        cases (items.filter fun item => stripString item.1 = modelName).getLast? <;> rfl
      · have hother : modelName ≠ stripString key := Ne.symm hname
        simp only [lastLimit, List.filter_cons, hname, decide_false, Bool.false_eq_true, if_false,
          hother]

theorem normalizeDepartmentModelLimit_ok {raw limit : DepartmentModelConcurrencyLimitConfig}
    (h : normalizeDepartmentModelLimit raw = .ok limit) :
    limit.department = stripString raw.department ∧
      limit.modelName = stripString raw.modelName ∧
      limit.maxActiveRequests = raw.maxActiveRequests := by
  simp only [normalizeDepartmentModelLimit, normalizeKeys] at h
  split at h
  · cases h
  · cases h
    exact ⟨rfl, rfl, rfl⟩

theorem normalizeTokenBudget_ok {raw budget : TokenBudgetConfig}
    (h : normalizeTokenBudget raw = .ok budget) :
    budget.department = stripString raw.department ∧
      budget.modelName = stripString raw.modelName ∧ budget.maxTokens = raw.maxTokens ∧
      budget.windowSeconds = raw.windowSeconds := by
  simp only [normalizeTokenBudget, normalizeKeys] at h
  split at h
  · cases h
  · cases h
    exact ⟨rfl, rfl, rfl, rfl⟩

structure AdmissionNormalized (raw admission : AdmissionControlConfig) : Prop where
  enabled : admission.enabled = raw.enabled
  retryAfter : admission.defaultRetryAfterSeconds = raw.defaultRetryAfterSeconds
  retryGuard : admission.retryGuard = raw.retryGuard
  limits : mapAll (fun limit => alone (normalizeDepartmentModelLimit limit))
    raw.departmentModelLimits = .ok admission.departmentModelLimits
  budgets : mapAll (fun budget => alone (normalizeTokenBudget budget)) raw.tokenBudgets =
    .ok admission.tokenBudgets
  globalLimits : normalizeModelKeys "global_model_limits" [] raw.globalModelLimits =
    .ok admission.globalModelLimits
  shapeLimits : normalizeModelKeys "request_shape_limits" [] raw.requestShapeLimits =
    .ok admission.requestShapeLimits

theorem validateAdmissionControl_ok {raw admission : AdmissionControlConfig}
    (h : validateAdmissionControl raw = .ok admission) : AdmissionNormalized raw admission := by
  simp only [validateAdmissionControl] at h
  split at h
  · cases h
  · rename_i departmentModelLimits tokenBudgets hboth
    obtain ⟨hlimits, hbudgets⟩ := both_ok_iff.mp hboth
    split at h
    · cases h
    · rename_i globalModelLimits hglobal
      split at h
      · cases h
      · rename_i requestShapeLimits hshape
        cases h
        exact ⟨rfl, rfl, rfl, hlimits, hbudgets, hglobal, hshape⟩

structure Accepted (env : Environment) (raw : RawAppConfig) (config : GatewayConfig) : Prop where
  server : config.server = raw.server
  security : config.security = raw.security
  admission : AdmissionNormalized raw.admissionControl config.admissionControl
  upstreams : List.Forall₂ (fun raw upstream => validateModels env raw = .ok upstream)
    raw.upstreams config.upstreams
  departments : List.Forall₂ (fun raw entry => entry.1 = raw.1 ∧
    validateApiKeys env raw.2 = .ok entry.2) raw.departments config.departments
  references : config.admissionControl.enabled = true →
    ReferencesKnown config.admissionControl (config.upstreams.flatMap UpstreamConfig.models)
      (config.apiKeyToDepartment.map Prod.snd)

theorem validateDepartment_ok {env : Environment} {raw : String × RawDepartmentConfig}
    {entry : String × DepartmentConfig} (h : validateDepartment env raw = .ok entry) :
    entry.1 = raw.1 ∧ validateApiKeys env raw.2 = .ok entry.2 := by
  simp only [validateDepartment] at h
  cases hkeys : validateApiKeys env raw.2 with
  | error problem =>
    rw [hkeys] at h
    cases h
  | ok config =>
    rw [hkeys] at h
    cases h
    exact ⟨rfl, rfl⟩

theorem validateFields_ok {env : Environment} {raw : RawAppConfig} {fields : ConfigFields}
    (h : validateFields env raw = .ok fields) :
    fields.server = raw.server ∧ fields.security = raw.security ∧
      validateAdmissionControl raw.admissionControl = .ok fields.admissionControl ∧
      mapAll (fun upstream => alone (validateModels env upstream)) raw.upstreams =
        .ok fields.upstreams ∧
      mapAll (validateDepartment env) raw.departments = .ok fields.departments := by
  simp only [validateFields] at h
  cases hboth : both (validateAdmissionControl raw.admissionControl)
      (both (mapAll (fun upstream => alone (validateModels env upstream)) raw.upstreams)
        (mapAll (validateDepartment env) raw.departments)) with
  | error problems =>
    rw [hboth] at h
    cases h
  | ok found =>
    rw [hboth] at h
    cases h
    obtain ⟨hadmission, hrest⟩ := both_ok_iff.mp hboth
    obtain ⟨hupstreams, hdepartments⟩ := both_ok_iff.mp hrest
    exact ⟨rfl, rfl, hadmission, hupstreams, hdepartments⟩

theorem validateUniqueConstraints_ok {fields : ConfigFields} {config : GatewayConfig}
    (h : validateUniqueConstraints fields = .ok config) :
    config.server = fields.server ∧ config.security = fields.security ∧
      config.admissionControl = fields.admissionControl ∧ config.upstreams = fields.upstreams ∧
      config.departments = fields.departments ∧
      (config.admissionControl.enabled = true →
        validateAdmissionReferences config.admissionControl
          (config.upstreams.flatMap UpstreamConfig.models)
          (config.apiKeyToDepartment.map Prod.snd) = .ok ()) := by
  simp only [validateUniqueConstraints] at h
  split at h
  · split at h
    · cases h
    · rename_i apiKeyToDepartment hindex
      split at h
      · cases h
      · rename_i hreferences
        cases h
        refine ⟨rfl, rfl, rfl, rfl, rfl, fun henabled => ?_⟩
        dsimp only at henabled ⊢
        rw [if_pos henabled] at hreferences
        exact hreferences
  · cases h

theorem validateAppConfig_ok {env : Environment} {raw : RawAppConfig} {config : GatewayConfig}
    (h : validateAppConfig env raw = .ok config) : Accepted env raw config := by
  simp only [validateAppConfig] at h
  split at h
  · cases h
  · rename_i fields hfields
    obtain ⟨hserver, hsecurity, hadmission, hupstreams, hdepartments, hreferences⟩ :=
      validateUniqueConstraints_ok (alone_ok_iff.mp h)
    obtain ⟨hrawServer, hrawSecurity, hrawAdmission, hrawUpstreams, hrawDepartments⟩ :=
      validateFields_ok hfields
    refine ⟨hserver.trans hrawServer, hsecurity.trans hrawSecurity, ?_, ?_, ?_,
      fun henabled => validateAdmissionReferences_ok (hreferences henabled)⟩
    · rw [hadmission]
      exact validateAdmissionControl_ok hrawAdmission
    · rw [hupstreams]
      exact (mapAll_ok_iff.mp hrawUpstreams).imp fun _ _ hmodels => alone_ok_iff.mp hmodels
    · rw [hdepartments]
      exact (mapAll_ok_iff.mp hrawDepartments).imp fun _ _ hentry => validateDepartment_ok hentry

/-- The index holds the stripped keys that the departments list, each with the
stripped name of its department. -/
theorem apiKeyToDepartment_get?_iff {env : Environment} {raw : RawAppConfig}
    {config : GatewayConfig} (h : validateAppConfig env raw = .ok config)
    {apiKey department : String} :
    PyDict.get? config.apiKeyToDepartment apiKey = some department ↔
      ∃ entry ∈ raw.departments, stripString entry.1 = department ∧
        apiKey ∈ strippedNonEmpty (listedApiKeys env entry.2) := by
  have hdepartments := (validateAppConfig_ok h).departments
  rw [(keysIndexed config).get?]
  constructor
  · rintro ⟨entry, hentry, hkey, rfl⟩
    obtain ⟨rawEntry, hraw, hname, hvalid⟩ := source_of_mem hdepartments hentry
    rw [validateApiKeys_ok hvalid] at hkey
    exact ⟨rawEntry, hraw, by rw [hname], hkey⟩
  · rintro ⟨rawEntry, hraw, rfl, hkey⟩
    obtain ⟨entry, hentry, hname, hvalid⟩ := result_of_mem hdepartments hraw
    rw [← validateApiKeys_ok hvalid] at hkey
    exact ⟨entry, hentry, hkey, by rw [hname]⟩

theorem resolves_of_get? {env : Environment} {raw : RawAppConfig} {config : GatewayConfig}
    (haccepted : validateAppConfig env raw = .ok config) {apiKey department : String}
    (hget : PyDict.get? config.apiKeyToDepartment apiKey = some department) :
    resolveDepartmentForApiKey config (some apiKey) = ⟨department, some apiKey, .apiKey⟩ := by
  obtain ⟨_, _, _, hkey⟩ := (apiKeyToDepartment_get?_iff haccepted).mp hget
  have hne : apiKey ≠ "" := (mem_strippedNonEmpty.mp hkey).1
  simp only [resolveDepartmentForApiKey, nonEmpty, Option.filter_some, ne_eq, hne,
    not_false_eq_true, decide_true, if_true, hget]

end VllmSourceGateway.AcceptedConfig
