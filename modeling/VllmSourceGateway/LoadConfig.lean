import VllmSourceGateway.AcceptedConfig
import VllmSourceGateway.CatalogConfig

set_option autoImplicit false

/-! `load_config`: the file, the validators of all its sections, and the errors
that starting the gateway ends with. -/
namespace VllmSourceGateway.LoadConfig
open PyText PyValues Config SourceResolution Validation ConfigValidation AcceptedConfig
open CatalogConfig

/-- `HealthConfig`, without its intervals. -/
structure HealthConfig where
  enabled : Bool
  probePath : String
  deriving DecidableEq

def validateProbePath (raw : HealthConfig) : Except Problem HealthConfig :=
  let normalized := stripString raw.probePath
  if normalized.toList.head? = some '/' then .ok { raw with probePath := normalized }
  else .error (.message "health probe_path must start with '/'")

structure RawConfig extends RawAppConfig where
  health : HealthConfig
  modelCatalog : List (String × ModelCatalogEntry)

structure LoadedConfig extends GatewayConfig where
  health : HealthConfig
  modelCatalog : List (String × ModelCatalogEntry)

structure Sections where
  health : HealthConfig
  fields : ConfigFields
  modelCatalog : List (String × ModelCatalogEntry)

/-- What `yaml.safe_load` finds at the path. -/
inductive ConfigFile where
  | missing
  | malformed (error : String)
  | empty
  | notMapping
  | mapping (raw : RawConfig)

/-- A `ConfigError`, or what was raised below pydantic and is no `ValueError`. -/
inductive LoadFailure where
  | configError (text : String)
  | invalid (resolvedPath : String) (problems : List Problem)
  | escaped (error : LoadsError)
  deriving DecidableEq

section
variable (env : Environment) (unicode : UnicodeTables)

def validateCatalogEntry (entry : String × ModelCatalogEntry) :
    Validated Problem (String × ModelCatalogEntry) :=
  (alone (normalizeFields unicode entry.2)).map fun normalized => (entry.1, normalized)

def validateSections (raw : RawConfig) : Validated Problem Sections :=
  (both (alone (validateProbePath raw.health))
    (both (validateFields env raw.toRawAppConfig)
      (mapAll (validateCatalogEntry unicode) raw.modelCatalog))).map fun found =>
    ⟨found.1, found.2.1, found.2.2⟩

/-- `AppConfig.model_validate`. -/
def modelValidate (raw : RawConfig) : Validated Problem LoadedConfig :=
  match validateSections env unicode raw with
  | .error problems => .error problems
  | .ok sections => (alone (validateUniqueConstraints sections.fields)).map fun config =>
    { config with health := sections.health, modelCatalog := sections.modelCatalog }

def escapes : Problem → Option LoadsError
  | .message _ => none
  | .loads error => if error.isValueError then none else some error

def reportProblems (resolvedPath : String) (problems : List Problem) : LoadFailure :=
  match problems.findSome? escapes with
  | some error => .escaped error
  | none => .invalid resolvedPath problems

def loadConfig (resolvedPath : String) (file : ConfigFile) : Except LoadFailure LoadedConfig :=
  match file with
  | .missing => .error (.configError ("configuration file not found: " ++ resolvedPath ++
      ". Create config.yaml from config.example.yaml or set VLLM_SOURCE_GATEWAY_CONFIG."))
  | .malformed error => .error (.configError ("failed to parse configuration file " ++
      resolvedPath ++ ": " ++ error))
  | .empty => .error (.configError ("configuration file is empty: " ++ resolvedPath))
  | .notMapping =>
    .error (.configError ("configuration root must be a mapping: " ++ resolvedPath))
  | .mapping raw => (modelValidate env unicode raw).mapError (reportProblems resolvedPath)

theorem validateSections_ok {raw : RawConfig} {sections : Sections}
    (h : validateSections env unicode raw = .ok sections) :
    validateProbePath raw.health = .ok sections.health ∧
      validateFields env raw.toRawAppConfig = .ok sections.fields ∧
      mapAll (validateCatalogEntry unicode) raw.modelCatalog = .ok sections.modelCatalog := by
  simp only [validateSections] at h
  cases hboth : both (alone (validateProbePath raw.health))
      (both (validateFields env raw.toRawAppConfig)
        (mapAll (validateCatalogEntry unicode) raw.modelCatalog)) with
  | error problems =>
    rw [hboth] at h
    cases h
  | ok found =>
    rw [hboth] at h
    cases h
    obtain ⟨hhealth, hrest⟩ := both_ok_iff.mp hboth
    obtain ⟨hfields, hcatalog⟩ := both_ok_iff.mp hrest
    exact ⟨alone_ok_iff.mp hhealth, hfields, hcatalog⟩

/-- What is loaded is what the gateway's own sections validate to, with the rest. -/
theorem modelValidate_ok {raw : RawConfig} {config : LoadedConfig}
    (h : modelValidate env unicode raw = .ok config) :
    validateAppConfig env raw.toRawAppConfig = .ok config.toGatewayConfig ∧
      validateProbePath raw.health = .ok config.health ∧
      ∀ entry ∈ config.modelCatalog, Normalized entry.2 := by
  simp only [modelValidate] at h
  split at h
  · cases h
  · rename_i sections hsections
    obtain ⟨hhealth, hfields, hcatalog⟩ := validateSections_ok env unicode hsections
    cases hunique : validateUniqueConstraints sections.fields with
    | error problem =>
      rw [hunique] at h
      cases h
    | ok app =>
      rw [hunique] at h
      cases h
      refine ⟨?_, hhealth, fun entry hentry => ?_⟩
      · simp only [validateAppConfig, hfields, hunique]
        rfl
      · obtain ⟨rawEntry, _, hentryOk⟩ := source_of_mem (mapAll_ok_iff.mp hcatalog) hentry
        cases hnormalized : normalizeFields unicode rawEntry.2 with
        | error problem =>
          simp only [validateCatalogEntry, hnormalized] at hentryOk
          cases hentryOk
        | ok normalized =>
          simp only [validateCatalogEntry, hnormalized] at hentryOk
          cases hentryOk
          exact normalizeFields_ok unicode hnormalized

end

end VllmSourceGateway.LoadConfig
