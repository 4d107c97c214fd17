import VllmSourceGateway.LoadConfig

set_option autoImplicit false

/-! What the errors of `load_config` tell about the secrets: two files and two
environments that differ in API keys and upstream tokens only. -/
namespace VllmSourceGateway.ConfigSecrets
open PyText PyValues Config SourceResolution Validation ConfigValidation AcceptedConfig
open CatalogConfig LoadConfig

/-- Non-empty, free of whitespace and commas, and no beginning of a JSON array. -/
def Plain (value : String) : Prop :=
  value ≠ "" ∧ (∀ c ∈ value.toList, isSpace c = false ∧ c ≠ ',') ∧ value.toList.head? ≠ some '['

structure Renaming where
  rename : String → String
  injective : Function.Injective rename
  nonEmpty : ∀ value, value ≠ "" → rename value ≠ ""
  keepsPlain : ∀ value, Plain value → Plain (rename value)

/-- A text without a secret in it stays empty. -/
def Renaming.apply (σ : Renaming) (value : String) : String :=
  if value = "" then "" else σ.rename value

theorem Renaming.apply_eq_empty (σ : Renaming) {value : String} :
    σ.apply value = "" ↔ value = "" := by
  simp only [Renaming.apply]
  split
  · rename_i hempty
    simp only [hempty]
  · rename_i hvalue
    exact iff_of_false (σ.nonEmpty value hvalue) hvalue

/-- The same secret under its other name, whatever spaces stand around it. -/
def SecretRenamed (σ : Renaming) (value value' : String) : Prop :=
  stripString value' = σ.apply (stripString value)

/-- `normalized_value.split(",")`. -/
def parts (value : String) : List String :=
  ((stripString value).toList.splitOn ',').map String.ofList

def IsArray (value : String) : Prop := (stripString value).toList.head? = some '['

/-- The value of an `api_keys_from_env` variable with its keys renamed. What
begins like an array and is none fails in the same way under both names. -/
inductive ValueRenamed (loads : Text → Except LoadsError Json) (σ : Renaming)
    (value value' : String) : Prop where
  | separated (hnot : ¬ IsArray value) (hnot' : ¬ IsArray value')
      (hparts : List.Forall₂ (SecretRenamed σ) (parts value) (parts value'))
  | array {json json' : Json} {items items' : List String} (harray : IsArray value)
      (harray' : IsArray value') (hloads : loads (stripString value).toList = .ok json)
      (hloads' : loads (stripString value').toList = .ok json')
      (hitems : stringItems json = some items) (hitems' : stringItems json' = some items')
      (hrenamed : List.Forall₂ (SecretRenamed σ) items items')
  | notStrings {json json' : Json} (harray : IsArray value) (harray' : IsArray value')
      (hloads : loads (stripString value).toList = .ok json)
      (hloads' : loads (stripString value').toList = .ok json')
      (hnone : stringItems json = none) (hnone' : stringItems json' = none)
  | malformed {error : LoadsError} (harray : IsArray value) (harray' : IsArray value')
      (hloads : loads (stripString value).toList = .error error)
      (hloads' : loads (stripString value').toList = .error error)

section
variable (σ : Renaming) (env env' : Environment)

structure DepartmentRenamed (raw raw' : RawDepartmentConfig) : Prop where
  apiKeys : Option.Rel (List.Forall₂ (SecretRenamed σ)) raw.apiKeys raw'.apiKeys
  apiKeysFromEnv : raw'.apiKeysFromEnv = raw.apiKeysFromEnv
  value : ∀ name ∈ raw.apiKeysFromEnv, Option.Rel (ValueRenamed env.loads σ)
    (env.environ (stripString name)) (env'.environ (stripString name))

/-- The upstreams are the same; the tokens are in the environment. -/
structure RawRenamed (raw raw' : RawConfig) : Prop where
  loads : env'.loads = env.loads
  server : raw'.server = raw.server
  security : raw'.security = raw.security
  admissionControl : raw'.admissionControl = raw.admissionControl
  upstreams : raw'.upstreams = raw.upstreams
  health : raw'.health = raw.health
  modelCatalog : raw'.modelCatalog = raw.modelCatalog
  tokens : ∀ upstream ∈ raw.upstreams, ∀ name ∈ upstream.authorizationFromEnv,
    Option.Rel (SecretRenamed σ) (env.environ (stripString name))
      (env'.environ (stripString name))
  departments : List.Forall₂ (fun entry entry' => entry'.1 = entry.1 ∧
    DepartmentRenamed σ env env' entry.2 entry'.2) raw.departments raw'.departments

inductive FileRenamed : ConfigFile → ConfigFile → Prop where
  | same {file : ConfigFile} (hnone : ∀ raw, file ≠ .mapping raw) : FileRenamed file file
  | mapping {raw raw' : RawConfig} (h : RawRenamed σ env env' raw raw') :
      FileRenamed (.mapping raw) (.mapping raw')

end

theorem plain_of_all {value : String} (hne : value ≠ "")
    (hall : (value.toList.all fun c => !isSpace c && c != ',') = true)
    (hhead : value.toList.head? ≠ some '[') : Plain value := by
  refine ⟨hne, fun c hc => ?_, hhead⟩
  simpa using List.all_eq_true.mp hall c hc

theorem Plain.strip {value : String} (h : Plain value) : stripString value = value := by
  have hnone : ∀ c ∈ value.toList, isSpace c = false := fun c hc => (h.2.1 c hc).1
  have hlstrip (t : Text) (ht : ∀ c ∈ t, isSpace c = false) : lstrip t = t := by
    cases t with
    | nil => rfl
    | cons c t => rw [lstrip, List.dropWhile_cons_of_neg (by simp [ht c List.mem_cons_self])]
  rw [stripString, PyText.strip, hlstrip _ hnone,
    hlstrip _ fun c hc => hnone c (List.mem_reverse.mp hc), List.reverse_reverse,
    String.ofList_toList]

theorem Plain.renamed {σ : Renaming} {value : String} (h : Plain value) :
    SecretRenamed σ value (σ.rename value) := by
  rw [SecretRenamed, h.strip, (σ.keepsPlain value h).strip, Renaming.apply, if_neg h.1]

/-- A variable that holds one key. -/
theorem Plain.valueRenamed {loads : Text → Except LoadsError Json} {σ : Renaming}
    {value : String} (h : Plain value) : ValueRenamed loads σ value (σ.rename value) := by
  have hparts {value : String} (h : Plain value) : parts value = [value] := by
    rw [parts, h.strip, List.splitOn_eq_singleton fun hcomma => (h.2.1 _ hcomma).2 rfl,
      List.map_singleton, String.ofList_toList]
  have hnot {value : String} (h : Plain value) : ¬ IsArray value := by
    rw [IsArray, h.strip]
    exact h.2.2
  refine .separated (hnot h) (hnot (σ.keepsPlain value h)) ?_
  rw [hparts h, hparts (σ.keepsPlain value h)]
  exact .cons h.renamed .nil

section
variable {σ : Renaming} {env env' : Environment}

theorem strippedNonEmpty_renamed {values values' : List String}
    (h : List.Forall₂ (SecretRenamed σ) values values') :
    strippedNonEmpty values' = (strippedNonEmpty values).map σ.rename := by
  induction h with
  | nil => rfl
  | @cons value value' values values' hvalue _ ih =>
    simp only [strippedNonEmpty, List.map_cons, List.filter_cons, decide_not] at ih ⊢
    rw [hvalue]
    by_cases hempty : stripString value = ""
    · simpa [hempty, Renaming.apply] using ih
    · have hne : σ.rename (stripString value) ≠ "" := σ.nonEmpty _ hempty
      simp [hempty, Renaming.apply, hne, ih]

theorem parts_of_empty {value : String} (h : stripString value = "") : parts value = [""] := by
  rw [parts, h]
  rfl

theorem empty_of_parts {value part : String} (h : parts value = [part])
    (hpart : stripString part = "") : stripString value = "" := by
  simp only [parts, List.map_eq_singleton_iff] at h
  obtain ⟨text, hsplit, rfl⟩ := h
  have hjoin : [','].intercalate ((stripString value).toList.splitOn ',') =
      (stripString value).toList := List.intercalate_splitOn ','
  rw [hsplit] at hjoin
  have htext : text = (stripString value).toList := by simpa using hjoin
  rw [htext, String.ofList_toList, stripString_stripString] at hpart
  exact hpart

theorem parts_empty_iff {value value' : String}
    (h : List.Forall₂ (SecretRenamed σ) (parts value) (parts value')) :
    stripString value' = "" ↔ stripString value = "" := by
  have hempty : stripString "" = "" := by decide
  constructor
  · intro hvalue'
    rw [parts_of_empty hvalue'] at h
    generalize hparts : parts value = listed at h
    cases h with
    | cons hpart hrest =>
      cases hrest
      rw [SecretRenamed, hempty] at hpart
      exact empty_of_parts hparts (σ.apply_eq_empty.mp hpart.symm)
  · intro hvalue
    rw [parts_of_empty hvalue] at h
    generalize hparts : parts value' = listed at h
    cases h with
    | cons hpart hrest =>
      cases hrest
      refine empty_of_parts hparts ?_
      rw [hpart, hempty]
      rfl

theorem IsArray.nonEmpty {value : String} (h : IsArray value) : stripString value ≠ "" := by
  intro hempty
  rw [IsArray, hempty] at h
  cases h

theorem ValueRenamed.empty_iff {loads : Text → Except LoadsError Json} {value value' : String}
    (h : ValueRenamed loads σ value value') : stripString value' = "" ↔ stripString value = "" := by
  cases h with
  | separated _ _ hparts => exact parts_empty_iff hparts
  | array harray harray' | notStrings harray harray' | malformed harray harray' =>
    exact iff_of_false harray'.nonEmpty harray.nonEmpty

theorem parsedValues_verdict (hloads : env'.loads = env.loads) (envVarName : String)
    {value value' : String} (h : ValueRenamed env.loads σ value value') :
    SameVerdict (List.Forall₂ (SecretRenamed σ)) (parsedValues env envVarName (stripString value))
      (parsedValues env' envVarName (stripString value')) := by
  simp only [parsedValues, hloads]
  cases h with
  | separated hnot hnot' hparts =>
    simp only [IsArray] at hnot hnot'
    rw [if_neg hnot, if_neg hnot']
    exact .ok hparts
  | array harray harray' hjson hjson' hitems hitems' hrenamed =>
    simp only [IsArray] at harray harray'
    rw [if_pos harray, if_pos harray']
    simp only [hjson, hjson', hitems, hitems']
    exact .ok hrenamed
  | notStrings harray harray' hjson hjson' hnone hnone' =>
    simp only [IsArray] at harray harray'
    rw [if_pos harray, if_pos harray']
    simp only [hjson, hjson', hnone, hnone']
    exact .error _
  | @malformed error harray harray' hjson hjson' =>
    simp only [IsArray] at harray harray'
    rw [if_pos harray, if_pos harray', hjson, hjson']
    cases error <;> exact .error _

def KeysRenamed (σ : Renaming) (values values' : List String) : Prop :=
  strippedNonEmpty values' = (strippedNonEmpty values).map σ.rename

theorem KeysRenamed.empty_iff {values values' : List String} (h : KeysRenamed σ values values') :
    strippedNonEmpty values' = [] ↔ strippedNonEmpty values = [] := by
  rw [h, List.map_eq_nil_iff]

theorem parseApiKeysEnvValue_verdict (hloads : env'.loads = env.loads) {envVarName : String}
    (h : Option.Rel (ValueRenamed env.loads σ) (env.environ envVarName) (env'.environ envVarName)) :
    SameVerdict (KeysRenamed σ) (parseApiKeysEnvValue env envVarName)
      (parseApiKeysEnvValue env' envVarName) := by
  simp only [parseApiKeysEnvValue]
  generalize env.environ envVarName = found at h ⊢
  generalize env'.environ envVarName = found' at h ⊢
  cases h with
  | none => exact .error _
  | @some value value' hvalue =>
    dsimp only
    by_cases hempty : stripString value = ""
    · rw [if_pos hempty, if_pos (hvalue.empty_iff.mpr hempty)]
      exact .error _
    · rw [if_neg hempty, if_neg (mt hvalue.empty_iff.mp hempty)]
      have hparsed := parsedValues_verdict hloads envVarName hvalue
      generalize parsedValues env envVarName (stripString value) = parsed at hparsed ⊢
      generalize parsedValues env' envVarName (stripString value') = parsed' at hparsed ⊢
      cases hparsed with
      | error problem => exact .error problem
      | @ok values values' hvalues =>
        have hkeys : KeysRenamed σ values values' := strippedNonEmpty_renamed hvalues
        dsimp only
        by_cases hnone : strippedNonEmpty values = []
        · rw [if_pos hnone, if_pos (hkeys.empty_iff.mpr hnone)]
          exact .error _
        · rw [if_neg hnone, if_neg (mt hkeys.empty_iff.mp hnone)]
          refine .ok ?_
          rw [KeysRenamed, strippedNonEmpty_idem, strippedNonEmpty_idem]
          exact hkeys

/-- The first half of `validate_api_keys`: the keys before they are stripped. -/
def declaredKeys (env : Environment) (raw : RawDepartmentConfig) : Except Problem (List String) :=
  match raw.apiKeys, raw.apiKeysFromEnv with
  | some apiKeys, none => .ok apiKeys
  | none, some apiKeysFromEnv =>
    if stripString apiKeysFromEnv = "" then
      .error (.message "department api_keys_from_env must be non-empty")
    else parseApiKeysEnvValue env (stripString apiKeysFromEnv)
  | _, _ => .error (.message "department must declare exactly one of api_keys or api_keys_from_env")

def acceptKeys (apiKeys : List String) : Except Problem DepartmentConfig :=
  if hnormalized : strippedNonEmpty apiKeys = [] then
    .error (.message "department must declare at least one non-empty api key")
  else .ok ⟨strippedNonEmpty apiKeys, hnormalized⟩

theorem validateApiKeys_eq (env : Environment) (raw : RawDepartmentConfig) :
    validateApiKeys env raw = (declaredKeys env raw).bind acceptKeys := by
  simp only [validateApiKeys, declaredKeys]
  cases raw.apiKeys with
  | some apiKeys => cases raw.apiKeysFromEnv <;> rfl
  | none =>
    cases raw.apiKeysFromEnv with
    | none => rfl
    | some apiKeysFromEnv =>
      dsimp only
      by_cases hempty : stripString apiKeysFromEnv = ""
      · rw [if_pos hempty]
        rfl
      · rw [if_neg hempty]
        cases parseApiKeysEnvValue env (stripString apiKeysFromEnv) <;> rfl

theorem acceptKeys_verdict {values values' : List String} (h : KeysRenamed σ values values') :
    SameVerdict (fun config config' => config'.apiKeys = config.apiKeys.map σ.rename)
      (acceptKeys values) (acceptKeys values') := by
  simp only [acceptKeys]
  by_cases hnone : strippedNonEmpty values = []
  · rw [dif_pos hnone, dif_pos (h.empty_iff.mpr hnone)]
    exact .error _
  · rw [dif_neg hnone, dif_neg (mt h.empty_iff.mp hnone)]
    exact .ok h

theorem declaredKeys_verdict (hloads : env'.loads = env.loads)
    {raw raw' : RawDepartmentConfig} (h : DepartmentRenamed σ env env' raw raw') :
    SameVerdict (KeysRenamed σ) (declaredKeys env raw) (declaredKeys env' raw') := by
  obtain ⟨apiKeys, apiKeysFromEnv⟩ := raw
  obtain ⟨apiKeys', apiKeysFromEnv'⟩ := raw'
  obtain ⟨hkeys, rfl, hvalue⟩ := h
  dsimp only at hkeys hvalue
  simp only [declaredKeys]
  cases hkeys with
  | none =>
    cases apiKeysFromEnv' with
    | none => exact .error _
    | some name =>
      dsimp only
      by_cases hname : stripString name = ""
      · rw [if_pos hname, if_pos hname]
        exact .error _
      · rw [if_neg hname, if_neg hname]
        exact parseApiKeysEnvValue_verdict hloads (hvalue name rfl)
  | some hlisted =>
    cases apiKeysFromEnv' with
    | none => exact .ok (strippedNonEmpty_renamed hlisted)
    | some name => exact .error _

theorem validateApiKeys_verdict (hloads : env'.loads = env.loads)
    {raw raw' : RawDepartmentConfig} (h : DepartmentRenamed σ env env' raw raw') :
    SameVerdict (fun config config' => config'.apiKeys = config.apiKeys.map σ.rename)
      (validateApiKeys env raw) (validateApiKeys env' raw') := by
  rw [validateApiKeys_eq, validateApiKeys_eq]
  have hdeclared := declaredKeys_verdict hloads h
  generalize declaredKeys env raw = declared at hdeclared ⊢
  generalize declaredKeys env' raw' = declared' at hdeclared ⊢
  cases hdeclared with
  | error problem => exact .error problem
  | ok hkeys => exact acceptKeys_verdict hkeys

theorem resolveAuthorizationToken_verdict {envVarName : String}
    (h : Option.Rel (SecretRenamed σ) (env.environ envVarName) (env'.environ envVarName)) :
    SameVerdict (fun _ _ => True) (resolveAuthorizationToken env envVarName)
      (resolveAuthorizationToken env' envVarName) := by
  simp only [resolveAuthorizationToken]
  generalize env.environ envVarName = found at h ⊢
  generalize env'.environ envVarName = found' at h ⊢
  cases h with
  | none => exact .error _
  | @some value value' hvalue =>
    dsimp only
    by_cases hempty : stripString value = ""
    · rw [if_pos hempty, if_pos (by rw [hvalue, hempty]; rfl)]
      exact .error _
    · have hempty' : stripString value' ≠ "" := by
        rw [hvalue, ne_eq, σ.apply_eq_empty]
        exact hempty
      rw [if_neg hempty, if_neg hempty']
      exact .ok trivial

theorem validateModels_verdict {raw : RawUpstreamConfig}
    (h : ∀ name ∈ raw.authorizationFromEnv, Option.Rel (SecretRenamed σ)
      (env.environ (stripString name)) (env'.environ (stripString name))) :
    SameVerdict (fun upstream upstream' => upstream'.name = upstream.name ∧
        upstream'.models = upstream.models) (validateModels env raw) (validateModels env' raw) := by
  simp only [validateModels]
  split
  · exact .error _
  · split
    · exact .ok ⟨rfl, rfl⟩
    · rename_i name hname
      split
      · exact .error _
      · exact (resolveAuthorizationToken_verdict (h name hname)).map fun _ _ _ => ⟨rfl, rfl⟩

end

def sharedKey (apiKey : String) : Problem :=
  .message ("api key '" ++ apiKey ++ "' is assigned to more than one department")

def firstRepeated : List String → List String → Option String
  | _, [] => none
  | seen, apiKey :: apiKeys =>
    if apiKey ∈ seen then some apiKey else firstRepeated (seen ++ [apiKey]) apiKeys

theorem firstRepeated_append (seen apiKeys others : List String) :
    firstRepeated seen (apiKeys ++ others) =
      (firstRepeated seen apiKeys).or (firstRepeated (seen ++ apiKeys) others) := by
  induction apiKeys generalizing seen with
  | nil => simp [firstRepeated]
  | cons apiKey apiKeys ih =>
    simp only [List.cons_append, firstRepeated]
    split
    · rfl
    · rw [ih, List.append_assoc]
      rfl

/-- The keys of the departments before the first without a name. -/
def namedKeys (departments : List (String × List String)) : List String :=
  (departments.takeWhile fun entry => stripString entry.1 ≠ "").flatMap Prod.snd

theorem namedKeys_cons (entry : String × List String) (departments : List (String × List String)) :
    namedKeys (entry :: departments) =
      if stripString entry.1 = "" then [] else entry.2 ++ namedKeys departments := by
  simp only [namedKeys, List.takeWhile_cons, decide_not]
  split <;> simp_all

section
variable (σ : Renaming)

def Renaming.index (index : List (String × String)) : List (String × String) :=
  index.map (Prod.map σ.rename id)

theorem Renaming.index_values (index : List (String × String)) :
    (σ.index index).map Prod.snd = index.map Prod.snd := by
  simp only [Renaming.index, List.map_map]
  rfl

variable {department : String} {index : List (String × String)} {apiKeys : List String}

/-- A key that no department has yet is added to both indexes. -/
theorem assignApiKeys_cons_fresh (department : String) {head : String}
    (hhead : ¬ (PyDict.get? index head).isSome) :
    assignApiKeys department index (head :: apiKeys) =
        assignApiKeys department (index ++ [(head, department)]) apiKeys ∧
      assignApiKeys department (σ.index index) ((head :: apiKeys).map σ.rename) =
        assignApiKeys department (σ.index (index ++ [(head, department)]))
          (apiKeys.map σ.rename) := by
  have hfresh : PyDict.get? index head = none := by simpa using hhead
  have hfresh' : PyDict.get? (σ.index index) (σ.rename head) = none := by
    rw [Renaming.index, PyDict.get?_mapKeys σ.injective, hfresh]
  have hindex : σ.index (index ++ [(head, department)]) =
      σ.index index ++ [(σ.rename head, department)] := List.map_append
  constructor
  · rw [assignApiKeys, hfresh, PyDict.set_fresh hfresh]
    rfl
  · rw [List.map_cons, assignApiKeys, hfresh', PyDict.set_fresh hfresh', hindex]
    rfl

theorem assignApiKeys_shared {apiKey : String}
    (h : firstRepeated (index.map Prod.fst) apiKeys = some apiKey) :
    assignApiKeys department index apiKeys = .error (sharedKey apiKey) ∧
      assignApiKeys department (σ.index index) (apiKeys.map σ.rename) =
        .error (sharedKey (σ.rename apiKey)) := by
  induction apiKeys generalizing index with
  | nil => cases h
  | cons head apiKeys ih =>
    simp only [firstRepeated, ← PyDict.get?_isSome_iff] at h
    by_cases hhead : (PyDict.get? index head).isSome
    · simp only [hhead, if_true, Option.some.injEq] at h
      subst h
      simp only [List.map_cons, assignApiKeys, Renaming.index, PyDict.get?_mapKeys σ.injective,
        hhead, if_true]
      exact ⟨rfl, rfl⟩
    · rw [if_neg hhead] at h
      obtain ⟨hnext, hnext'⟩ := assignApiKeys_cons_fresh σ department hhead
      rw [hnext, hnext']
      exact ih (by simpa using h)

theorem assignApiKeys_fresh (h : firstRepeated (index.map Prod.fst) apiKeys = none) :
    ∃ index', assignApiKeys department index apiKeys = .ok index' ∧
      assignApiKeys department (σ.index index) (apiKeys.map σ.rename) = .ok (σ.index index') ∧
      index'.map Prod.fst = index.map Prod.fst ++ apiKeys := by
  induction apiKeys generalizing index with
  | nil => exact ⟨index, rfl, rfl, (List.append_nil _).symm⟩
  | cons head apiKeys ih =>
    simp only [firstRepeated, ← PyDict.get?_isSome_iff] at h
    by_cases hhead : (PyDict.get? index head).isSome
    · simp [hhead] at h
    · rw [if_neg hhead] at h
      obtain ⟨hnext, hnext'⟩ := assignApiKeys_cons_fresh σ department hhead
      rw [hnext, hnext']
      obtain ⟨index', hassign, hassign', hkeys⟩ :=
        @ih (index ++ [(head, department)]) (by simpa using h)
      exact ⟨index', hassign, hassign', by simp [hkeys]⟩

def keyLists (departments : List (String × DepartmentConfig)) : List (String × List String) :=
  departments.map fun entry => (entry.1, entry.2.apiKeys)

def DepartmentsRenamed (departments departments' : List (String × DepartmentConfig)) : Prop :=
  List.Forall₂ (fun entry entry' => entry'.1 = entry.1 ∧
    entry'.2.apiKeys = entry.2.apiKeys.map σ.rename) departments departments'

variable {departments departments' : List (String × DepartmentConfig)}

theorem buildApiKeyIndex_shared (hdepartments : DepartmentsRenamed σ departments departments')
    {apiKey : String}
    (h : firstRepeated (index.map Prod.fst) (namedKeys (keyLists departments)) = some apiKey) :
    buildApiKeyIndex index departments = .error (sharedKey apiKey) ∧
      buildApiKeyIndex (σ.index index) departments' = .error (sharedKey (σ.rename apiKey)) := by
  induction hdepartments generalizing index with
  | nil => cases h
  | @cons entry entry' departments departments' hentry _ ih =>
    obtain ⟨department, config⟩ := entry
    obtain ⟨department', config'⟩ := entry'
    obtain ⟨rfl, hkeys⟩ := hentry
    simp only [keyLists, List.map_cons, namedKeys_cons] at h
    simp only [buildApiKeyIndex]
    dsimp only at hkeys h
    by_cases hname : stripString department' = ""
    · rw [if_pos hname] at h
      cases h
    · rw [if_neg hname, firstRepeated_append] at h
      rw [if_neg hname, if_neg hname, hkeys]
      cases hfirst : firstRepeated (index.map Prod.fst) config.apiKeys with
      | some first =>
        rw [hfirst, Option.some_or, Option.some.injEq] at h
        subst h
        obtain ⟨hassign, hassign'⟩ := assignApiKeys_shared σ hfirst
        rw [hassign, hassign']
        exact ⟨rfl, rfl⟩
      | none =>
        obtain ⟨index', hassign, hassign', hindexed⟩ := assignApiKeys_fresh σ hfirst
        rw [hfirst, Option.none_or, ← hindexed] at h
        rw [hassign, hassign']
        exact ih h

theorem buildApiKeyIndex_fresh (hdepartments : DepartmentsRenamed σ departments departments')
    (h : firstRepeated (index.map Prod.fst) (namedKeys (keyLists departments)) = none) :
    SameVerdict (fun index' index'' => index'' = σ.index index')
      (buildApiKeyIndex index departments) (buildApiKeyIndex (σ.index index) departments') := by
  induction hdepartments generalizing index with
  | nil => exact .ok rfl
  | @cons entry entry' departments departments' hentry _ ih =>
    obtain ⟨department, config⟩ := entry
    obtain ⟨department', config'⟩ := entry'
    obtain ⟨rfl, hkeys⟩ := hentry
    simp only [keyLists, List.map_cons, namedKeys_cons] at h
    simp only [buildApiKeyIndex]
    dsimp only at hkeys h
    by_cases hname : stripString department' = ""
    · rw [if_pos hname, if_pos hname]
      exact .error _
    · rw [if_neg hname, firstRepeated_append, Option.or_eq_none_iff] at h
      obtain ⟨index', hassign, hassign', hindexed⟩ := assignApiKeys_fresh σ h.1
      rw [if_neg hname, if_neg hname, hkeys, hassign, hassign']
      refine ih ?_
      rw [hindexed]
      exact h.2

end

section
variable (σ : Renaming)

structure FieldsRenamed (fields fields' : ConfigFields) : Prop where
  admissionControl : fields'.admissionControl = fields.admissionControl
  upstreamNames : fields'.upstreams.map UpstreamConfig.name =
    fields.upstreams.map UpstreamConfig.name
  allowedModelNames : fields'.allowedModelNames = fields.allowedModelNames
  departments : DepartmentsRenamed σ fields.departments fields'.departments

/-- `validate_unique_constraints`, without what it returns. -/
def uniqueChecks (fields : ConfigFields) : Except Problem Unit :=
  if (fields.upstreams.map UpstreamConfig.name).Nodup then
    match buildApiKeyIndex [] fields.departments with
    | .error problem => .error problem
    | .ok apiKeyToDepartment =>
      if fields.admissionControl.enabled then
        validateAdmissionReferences fields.admissionControl fields.allowedModelNames
          (apiKeyToDepartment.map Prod.snd)
      else .ok ()
  else .error (.message "upstream names must be unique")

theorem uniqueChecks_eq (fields : ConfigFields) :
    (validateUniqueConstraints fields).map (fun _ => ()) = uniqueChecks fields := by
  simp only [validateUniqueConstraints, uniqueChecks]
  split
  · split
    · rename_i hindex
      rw [hindex]
      rfl
    · rename_i hindex
      simp only [hindex]
      split
      · rename_i hrefused
        exact hrefused.symm
      · rename_i haccepted
        exact haccepted.symm
  · rfl

variable {σ} {fields fields' : ConfigFields}

theorem uniqueChecks_shared (h : FieldsRenamed σ fields fields')
    (hnames : (fields.upstreams.map UpstreamConfig.name).Nodup) {apiKey : String}
    (hfirst : firstRepeated [] (namedKeys (keyLists fields.departments)) = some apiKey) :
    uniqueChecks fields = .error (sharedKey apiKey) ∧
      uniqueChecks fields' = .error (sharedKey (σ.rename apiKey)) := by
  obtain ⟨hbuild, hbuild'⟩ := @buildApiKeyIndex_shared σ [] _ _ h.departments _ hfirst
  simp only [uniqueChecks, h.upstreamNames, if_pos hnames, hbuild]
  exact ⟨trivial, by rw [show buildApiKeyIndex [] fields'.departments = _ from hbuild']⟩

theorem uniqueChecks_fresh (h : FieldsRenamed σ fields fields')
    (hfirst : (fields.upstreams.map UpstreamConfig.name).Nodup →
      firstRepeated [] (namedKeys (keyLists fields.departments)) = none) :
    uniqueChecks fields' = uniqueChecks fields := by
  simp only [uniqueChecks, h.upstreamNames, h.admissionControl, h.allowedModelNames]
  by_cases hnames : (fields.upstreams.map UpstreamConfig.name).Nodup
  · rw [if_pos hnames, if_pos hnames]
    have hbuild := @buildApiKeyIndex_fresh σ [] _ _ h.departments (hfirst hnames)
    rw [show σ.index [] = [] from rfl] at hbuild
    generalize buildApiKeyIndex [] fields.departments = built at hbuild ⊢
    generalize buildApiKeyIndex [] fields'.departments = built' at hbuild ⊢
    cases hbuild with
    | error problem => rfl
    | ok hindex => simp only [hindex, σ.index_values]
  · rw [if_neg hnames, if_neg hnames]

variable {env env' : Environment}

theorem validateFields_verdict {raw raw' : RawConfig} (h : RawRenamed σ env env' raw raw') :
    SameVerdict (FieldsRenamed σ) (validateFields env raw.toRawAppConfig)
      (validateFields env' raw'.toRawAppConfig) := by
  have hupstreams : SameVerdict (List.Forall₂ fun upstream upstream' =>
        upstream'.name = upstream.name ∧ upstream'.models = upstream.models)
      (mapAll (fun upstream => alone (validateModels env upstream)) raw.upstreams)
      (mapAll (fun upstream => alone (validateModels env' upstream)) raw'.upstreams) := by
    rw [h.upstreams]
    refine SameVerdict.mapAll (List.forall₂_eq_eq_eq ▸ rfl) ?_
    rintro upstream hupstream _ rfl
    have hmodels := validateModels_verdict (h.tokens upstream hupstream)
    generalize validateModels env upstream = checked at hmodels ⊢
    generalize validateModels env' upstream = checked' at hmodels ⊢
    cases hmodels with
    | ok hsame => exact .ok hsame
    | error problem => exact .error [problem]
  have hdepartments : SameVerdict (DepartmentsRenamed σ)
      (mapAll (validateDepartment env) raw.departments)
      (mapAll (validateDepartment env') raw'.departments) := by
    refine SameVerdict.mapAll h.departments ?_
    rintro entry _ entry' ⟨hname, hrenamed⟩
    have hkeys := validateApiKeys_verdict h.loads hrenamed
    simp only [validateDepartment]
    generalize validateApiKeys env entry.2 = checked at hkeys ⊢
    generalize validateApiKeys env' entry'.2 = checked' at hkeys ⊢
    cases hkeys with
    | ok hsame => exact .ok ⟨hname, hsame⟩
    | error problem => exact .error [problem]
  simp only [validateFields, h.admissionControl]
  refine ((SameVerdict.refl (S := Eq) (fun _ => rfl) _).both (hupstreams.both hdepartments)).map ?_
  rintro ⟨admission, upstreams, departments⟩ ⟨_, upstreams', departments'⟩ ⟨hadmission, hnames, hkeys⟩
  refine ⟨hadmission.symm, (map_eq_map hnames fun _ _ hsame => hsame.1.symm).symm, ?_, hkeys⟩
  have hmodels := map_eq_map hnames fun _ _ hsame => hsame.2.symm
  simp only [ConfigFields.allowedModelNames, List.flatMap_def, hmodels]

theorem validateSections_verdict {raw raw' : RawConfig} (h : RawRenamed σ env env' raw raw')
    (unicode : UnicodeTables) :
    SameVerdict (fun sections sections' => FieldsRenamed σ sections.fields sections'.fields)
      (validateSections env unicode raw) (validateSections env' unicode raw') := by
  have hsame {α : Type} (checked : Validated Problem α) :
      SameVerdict (fun _ _ => True) checked checked := .refl (fun _ => trivial) checked
  simp only [validateSections, h.health, h.modelCatalog]
  exact ((hsame _).both ((validateFields_verdict h).both (hsame _))).map fun _ _ hfound => hfound.2.1

/-- The key that an error will be about: the sections are valid, the names of the
upstreams distinct, and this is the first key that is listed again before a
department without a name. -/
def KeyListedAgain (env : Environment) (unicode : UnicodeTables) (file : ConfigFile)
    (apiKey : String) : Prop :=
  ∃ raw, file = .mapping raw ∧ (∃ sections, validateSections env unicode raw = .ok sections) ∧
    (raw.upstreams.map RawUpstreamConfig.name).Nodup ∧
    firstRepeated [] (namedKeys (raw.departments.map fun entry =>
      (entry.1, strippedNonEmpty (listedApiKeys env entry.2)))) = some apiKey

/-- What the unique constraints are checked on is what the file and the
environment list. -/
theorem sections_listed {raw : RawConfig} {unicode : UnicodeTables} {sections : Sections}
    (h : validateSections env unicode raw = .ok sections) :
    sections.fields.upstreams.map UpstreamConfig.name =
        raw.upstreams.map RawUpstreamConfig.name ∧
      keyLists sections.fields.departments = raw.departments.map fun entry =>
        (entry.1, strippedNonEmpty (listedApiKeys env entry.2)) := by
  obtain ⟨_, hfields, _⟩ := validateSections_ok env unicode h
  obtain ⟨_, _, _, hupstreams, hdepartments⟩ := validateFields_ok hfields
  refine ⟨(map_eq_map (mapAll_ok_iff.mp hupstreams) fun raw upstream hvalid => ?_).symm,
    (map_eq_map (mapAll_ok_iff.mp hdepartments) fun raw entry hvalid => ?_).symm⟩
  · exact (validateModels_ok (alone_ok_iff.mp hvalid)).1.symm
  · obtain ⟨hname, hkeys⟩ := validateDepartment_ok hvalid
    rw [hname, validateApiKeys_ok hkeys]

/-- The verdict on valid sections is that of the unique constraints. -/
theorem loadConfig_checks {unicode : UnicodeTables} {raw : RawConfig} {sections : Sections}
    (h : validateSections env unicode raw = .ok sections) (resolvedPath : String) :
    (loadConfig env unicode resolvedPath (.mapping raw)).map (fun _ => ()) =
      (uniqueChecks sections.fields).mapError fun problem =>
        reportProblems resolvedPath [problem] := by
  simp only [loadConfig, modelValidate, h, ← uniqueChecks_eq]
  cases validateUniqueConstraints sections.fields <;> rfl

theorem loadConfig_rejected {unicode : UnicodeTables} {raw : RawConfig} {problems : List Problem}
    (h : validateSections env unicode raw = .error problems) (resolvedPath : String) :
    loadConfig env unicode resolvedPath (.mapping raw) =
      .error (reportProblems resolvedPath problems) := by
  simp only [loadConfig, modelValidate, h]
  rfl

theorem sharedKey_report (resolvedPath : String) {apiKey apiKey' : String} :
    reportProblems resolvedPath [sharedKey apiKey] = reportProblems resolvedPath [sharedKey apiKey'] ↔
      apiKey = apiKey' := by
  refine ⟨fun h => ?_, fun h => by rw [h]⟩
  simp only [reportProblems, sharedKey, escapes, List.findSome?_cons, List.findSome?_nil,
    LoadFailure.invalid.injEq, List.cons.injEq, Problem.message.injEq, and_true, true_and] at h
  have htext := congrArg String.toList h
  simp only [String.toList_append, List.append_assoc] at htext
  exact String.toList_inj.mp (List.append_cancel_right (List.append_cancel_left htext))

theorem keyListedAgain_iff {unicode : UnicodeTables} {raw : RawConfig} {sections : Sections}
    (h : validateSections env unicode raw = .ok sections) {apiKey : String} :
    KeyListedAgain env unicode (.mapping raw) apiKey ↔
      (sections.fields.upstreams.map UpstreamConfig.name).Nodup ∧
        firstRepeated [] (namedKeys (keyLists sections.fields.departments)) = some apiKey := by
  obtain ⟨hnames, hkeys⟩ := sections_listed h
  rw [hnames, hkeys]
  constructor
  · rintro ⟨_, hraw, _, hagain⟩
    cases hraw
    exact hagain
  · exact fun hagain => ⟨raw, rfl, ⟨sections, h⟩, hagain⟩

abbrev verdict (env : Environment) (unicode : UnicodeTables) (resolvedPath : String)
    (file : ConfigFile) : Except LoadFailure Unit :=
  (loadConfig env unicode resolvedPath file).map fun _ => ()

/-- No key is listed again and the verdicts are the same, or both are about it. -/
theorem verdict_cases {raw raw' : RawConfig} (h : RawRenamed σ env env' raw raw')
    (unicode : UnicodeTables) (resolvedPath : String) :
    (verdict env unicode resolvedPath (.mapping raw) =
        verdict env' unicode resolvedPath (.mapping raw') ∧
      ∀ apiKey, ¬ KeyListedAgain env unicode (.mapping raw) apiKey) ∨
    ∃ apiKey, (∀ other, KeyListedAgain env unicode (.mapping raw) other ↔ other = apiKey) ∧
      verdict env unicode resolvedPath (.mapping raw) =
        .error (reportProblems resolvedPath [sharedKey apiKey]) ∧
      verdict env' unicode resolvedPath (.mapping raw') =
        .error (reportProblems resolvedPath [sharedKey (σ.rename apiKey)]) := by
  have hsections := validateSections_verdict h unicode
  cases hvalid : validateSections env unicode raw with
  | error problems =>
    rw [hvalid] at hsections
    generalize hvalid' : validateSections env' unicode raw' = checked' at hsections
    cases hsections
    refine .inl ⟨by rw [verdict, verdict, loadConfig_rejected hvalid, loadConfig_rejected hvalid'], ?_⟩
    rintro apiKey ⟨_, hraw, ⟨sections, hok⟩, _⟩
    cases hraw
    rw [hvalid] at hok
    cases hok
  | ok sections =>
    rw [hvalid] at hsections
    generalize hvalid' : validateSections env' unicode raw' = checked' at hsections
    cases hsections with
    | @ok _ sections' hfields =>
      rw [verdict, verdict, loadConfig_checks hvalid, loadConfig_checks hvalid']
      simp only [keyListedAgain_iff hvalid]
      by_cases hagain : ∃ apiKey, (sections.fields.upstreams.map UpstreamConfig.name).Nodup ∧
          firstRepeated [] (namedKeys (keyLists sections.fields.departments)) = some apiKey
      · obtain ⟨apiKey, hnames, hfirst⟩ := hagain
        obtain ⟨hchecks, hchecks'⟩ := uniqueChecks_shared hfields hnames hfirst
        refine .inr ⟨apiKey, fun other => ?_, by rw [hchecks]; rfl, by rw [hchecks']; rfl⟩
        rw [hfirst, Option.some.injEq]
        exact ⟨fun hother => hother.2.symm, fun hother => ⟨hnames, hother.symm⟩⟩
      · have hfresh : (sections.fields.upstreams.map UpstreamConfig.name).Nodup →
            firstRepeated [] (namedKeys (keyLists sections.fields.departments)) = none := by
          intro hnames
          cases hfirst : firstRepeated [] (namedKeys (keyLists sections.fields.departments)) with
          | none => rfl
          | some apiKey => exact absurd ⟨apiKey, hnames, hfirst⟩ hagain
        rw [uniqueChecks_fresh hfields hfresh]
        exact .inl ⟨rfl, fun apiKey hlisted => hagain ⟨apiKey, hlisted⟩⟩

theorem accepted_iff {unicode : UnicodeTables} {resolvedPath : String} {file : ConfigFile} :
    (∃ config, loadConfig env unicode resolvedPath file = .ok config) ↔
      verdict env unicode resolvedPath file = .ok () := by
  rw [verdict]
  cases loadConfig env unicode resolvedPath file <;> simp [Except.map]

/-- Both files are accepted or both are rejected, and with the same report unless
it is about a key that is listed again. -/
theorem loadConfig_renamed_iff {file file' : ConfigFile} (h : FileRenamed σ env env' file file')
    (unicode : UnicodeTables) (resolvedPath : String) :
    ((∃ config, loadConfig env unicode resolvedPath file = .ok config) ↔
        ∃ config, loadConfig env' unicode resolvedPath file' = .ok config) ∧
      (SameVerdict (fun _ _ => True) (loadConfig env unicode resolvedPath file)
          (loadConfig env' unicode resolvedPath file') ↔
        ∀ apiKey, KeyListedAgain env unicode file apiKey → σ.rename apiKey = apiKey) := by
  rw [accepted_iff, accepted_iff, sameVerdict_iff]
  cases h with
  | same hnone =>
    have hsame : loadConfig env unicode resolvedPath file =
        loadConfig env' unicode resolvedPath file := by
      cases file with
      | mapping raw => exact absurd rfl (hnone raw)
      | missing | malformed | empty | notMapping => rfl
    rw [verdict, verdict, hsame]
    refine ⟨Iff.rfl, iff_of_true rfl ?_⟩
    rintro apiKey ⟨raw, rfl, _⟩
    exact absurd rfl (hnone raw)
  | @mapping raw raw' hraw =>
    obtain ⟨hsame, hnone⟩ | ⟨apiKey, hagain, herror, herror'⟩ :=
      verdict_cases hraw unicode resolvedPath
    · rw [hsame]
      exact ⟨Iff.rfl, iff_of_true hsame fun apiKey hlisted => absurd hlisted (hnone apiKey)⟩
    · rw [herror, herror']
      refine ⟨by simp, ?_⟩
      rw [show (loadConfig env unicode resolvedPath (.mapping raw)).map (fun _ => ()) = _ from herror,
        show (loadConfig env' unicode resolvedPath (.mapping raw')).map (fun _ => ()) = _
          from herror', Except.error.injEq, sharedKey_report]
      simp only [hagain, forall_eq]
      exact eq_comm

end

def swapKeys : Renaming where
  rename := Equiv.swap "key-1" "key-9"
  injective := (Equiv.swap "key-1" "key-9").injective
  nonEmpty := by
    intro value hvalue
    rw [Equiv.swap_apply_def]
    split
    · decide
    · split
      · decide
      · exact hvalue
  keepsPlain := by
    intro value hvalue
    rw [Equiv.swap_apply_def]
    split
    · exact plain_of_all (by decide) (by decide +kernel) (by decide +kernel)
    · split
      · exact plain_of_all (by decide) (by decide +kernel) (by decide +kernel)
      · exact hvalue

/-- The sample with the keys of two departments in the file. -/
def sampleWith (researchKeys salesKeys : List String) : RawConfig :=
  { sampleRaw with
    departments := [("research", ⟨some researchKeys, none⟩), ("sales", ⟨some salesKeys, none⟩),
      ("legal", ⟨none, some "LEGAL_KEYS"⟩)]
    departments_nonempty := List.cons_ne_nil _ _
    health := ⟨true, "/v1/models"⟩
    modelCatalog := [] }

theorem sampleWith_renamed {researchKeys salesKeys researchKeys' salesKeys' : List String}
    (hresearch : List.Forall₂ (SecretRenamed swapKeys) researchKeys researchKeys')
    (hsales : List.Forall₂ (SecretRenamed swapKeys) salesKeys salesKeys') :
    RawRenamed swapKeys sampleEnvironment sampleEnvironment (sampleWith researchKeys salesKeys)
      (sampleWith researchKeys' salesKeys') where
  loads := rfl
  server := rfl
  security := rfl
  admissionControl := rfl
  upstreams := rfl
  health := rfl
  modelCatalog := rfl
  tokens := by
    intro upstream hupstream name hname
    simp only [sampleWith, sampleRaw, List.mem_cons, List.not_mem_nil, or_false] at hupstream
    rcases hupstream with rfl | rfl
    · cases hname
    · cases hname
      exact .some (show SecretRenamed swapKeys " secret " " secret " by
        unfold SecretRenamed
        decide +kernel)
  departments := by
    refine .cons ⟨rfl, .some hresearch, rfl, fun _ hname => by cases hname⟩
      (.cons ⟨rfl, .some hsales, rfl, fun _ hname => by cases hname⟩
        (.cons ⟨rfl, .none, rfl, fun name hname => ?_⟩ .nil))
    cases hname
    have hitems : List.Forall₂ (SecretRenamed swapKeys) ["key-4 ", ""] ["key-4 ", ""] :=
      .cons (by unfold SecretRenamed; decide +kernel)
        (.cons (by unfold SecretRenamed; decide +kernel) .nil)
    have harray : IsArray " [\"key-4 \", \"\"]" := by
      unfold IsArray
      decide +kernel
    exact .some (show ValueRenamed sampleEnvironment.loads swapKeys " [\"key-4 \", \"\"]"
      " [\"key-4 \", \"\"]" from .array harray harray rfl rfl rfl rfl hitems)

def asciiTables : UnicodeTables where
  isDecimal := Char.isDigit
  isWord := fun c => c.isAlphanum || c == '_'
  isPrintable := fun c => decide (0x20 ≤ c.toNat ∧ c.toNat < 0x7F)

theorem secret_swapped : SecretRenamed swapKeys "key-1" "key-9" := by
  unfold SecretRenamed
  decide +kernel

theorem secret_kept : SecretRenamed swapKeys "key-2" "key-2" := by
  unfold SecretRenamed
  decide +kernel

theorem loadConfig_renamed_iff_swapped :
    SameVerdict (fun _ _ => True)
      (loadConfig sampleEnvironment asciiTables "config.yaml"
        (.mapping (sampleWith ["key-1"] ["key-2"])))
      (loadConfig sampleEnvironment asciiTables "config.yaml"
        (.mapping (sampleWith ["key-9"] ["key-2"]))) := by
  refine (loadConfig_renamed_iff (.mapping (sampleWith_renamed (.cons secret_swapped .nil)
    (.cons secret_kept .nil))) asciiTables "config.yaml").2.mpr ?_
  rintro apiKey ⟨raw, hraw, _, _, hagain⟩
  cases hraw
  have hnone : firstRepeated [] (namedKeys ((sampleWith ["key-1"] ["key-2"]).departments.map
      fun entry => (entry.1, strippedNonEmpty (listedApiKeys sampleEnvironment entry.2)))) = none := by
    decide +kernel
  rw [hnone] at hagain
  cases hagain

/-- The report on a key of two departments has the key in it. -/
theorem shared_key_exposed :
    RawRenamed swapKeys sampleEnvironment sampleEnvironment (sampleWith ["key-1"] ["key-1"])
        (sampleWith ["key-9"] ["key-9"]) ∧
      verdict sampleEnvironment asciiTables "config.yaml"
          (.mapping (sampleWith ["key-1"] ["key-1"])) =
        .error (.invalid "config.yaml"
          [.message "api key 'key-1' is assigned to more than one department"]) ∧
      ¬ SameVerdict (fun _ _ => True)
        (loadConfig sampleEnvironment asciiTables "config.yaml"
          (.mapping (sampleWith ["key-1"] ["key-1"])))
        (loadConfig sampleEnvironment asciiTables "config.yaml"
          (.mapping (sampleWith ["key-9"] ["key-9"]))) := by
  have hrenamed := sampleWith_renamed (.cons secret_swapped .nil) (.cons secret_swapped .nil)
  have hvalid : (validateSections sampleEnvironment asciiTables
      (sampleWith ["key-1"] ["key-1"])).toOption.isSome = true := by decide +kernel
  have hlisted : KeyListedAgain sampleEnvironment asciiTables
      (.mapping (sampleWith ["key-1"] ["key-1"])) "key-1" :=
    ⟨_, rfl, ⟨_, eq_ok_get hvalid⟩, by decide +kernel, by decide +kernel⟩
  obtain ⟨_, hnone⟩ | ⟨apiKey, hagain, herror, herror'⟩ :=
    verdict_cases hrenamed asciiTables "config.yaml"
  · exact absurd hlisted (hnone "key-1")
  · obtain rfl := (hagain "key-1").mp hlisted
    refine ⟨hrenamed, herror.trans (congrArg Except.error (by decide +kernel)), fun hsame => ?_⟩
    have hverdicts := herror.symm.trans ((sameVerdict_iff.mp hsame).trans herror')
    rw [Except.error.injEq, sharedKey_report] at hverdicts
    exact absurd hverdicts (by decide +kernel)

end VllmSourceGateway.ConfigSecrets
