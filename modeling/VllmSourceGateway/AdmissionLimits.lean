import VllmSourceGateway.AvailabilityViews

set_option autoImplicit false

/-! Which limits of an accepted configuration are in force. An entry of the lists
is always found, as no pair has two; an entry of the dictionaries is lost to a
later one under the same stripped name. -/
namespace VllmSourceGateway.AdmissionLimits
open PyText PyValues UsageExtractors Metrics Config AdmissionControl Routing RoundRobin
open TransitionRuns SourceResolution ConfigValidation AcceptedConfig Availability AvailabilityViews
open Validation

def limitKey (limit : DepartmentModelConcurrencyLimitConfig) : Key :=
  (limit.department, limit.modelName)

def budgetKey (budget : TokenBudgetConfig) : Key := (budget.department, budget.modelName)

def limitMatches (key : Key) (limit : DepartmentModelConcurrencyLimitConfig) : Bool :=
  limit.department = key.1 ∧ limit.modelName = key.2

def budgetMatches (key : Key) (budget : TokenBudgetConfig) : Bool :=
  budget.department = key.1 ∧ budget.modelName = key.2

theorem limitMatches_iff (key : Key) (limit : DepartmentModelConcurrencyLimitConfig) :
    limitMatches key limit = true ↔ limitKey limit = key := by
  simp only [limitMatches, limitKey, decide_eq_true_eq, Prod.ext_iff]

theorem budgetMatches_iff (key : Key) (budget : TokenBudgetConfig) :
    budgetMatches key budget = true ↔ budgetKey budget = key := by
  simp only [budgetMatches, budgetKey, decide_eq_true_eq, Prod.ext_iff]

/-- The scan returns the entry at this place, and no other entry would match. -/
structure OnlyMatch {β : Type} (entries : List β) (p : β → Bool) (i : ℕ) (entry : β) : Prop where
  place : entries[i]? = some entry
  found : entries.find? p = some entry
  only : ∀ j other, entries[j]? = some other → p other = true → j = i

theorem onlyMatch_of_distinct {β : Type} {key : β → Key} {entries : List β} {p : β → Bool} {i : ℕ}
    {entry : β} (hdistinct : (entries.map key).Nodup) (hplace : entries[i]? = some entry)
    (hp : ∀ other, p other = true ↔ key other = key entry) : OnlyMatch entries p i entry := by
  refine ⟨hplace, PyDict.find?_of_distinct hdistinct (List.mem_of_getElem? hplace) hp, ?_⟩
  intro j other hother hmatch
  have hsame : (entries.map key)[j]? = (entries.map key)[i]? := by
    rw [List.getElem?_map, List.getElem?_map, hother, hplace, Option.map_some, Option.map_some,
      (hp other).mp hmatch]
  have hj : j < (entries.map key).length := by
    rw [List.length_map]
    exact (List.getElem?_eq_some_iff.mp hother).1
  exact (List.getElem?_inj hj hdistinct).mp hsame

/-- A client can be of the department, and some upstream is always in the pool of
the model. -/
structure Targeted (config : GatewayConfig) (department modelName : String) : Prop where
  client : ∃ apiKey, resolveDepartmentForApiKey config (some apiKey) =
    ⟨department, some apiKey, .apiKey⟩
  server : ∃ upstream ∈ config.upstreams, ∀ registry,
    Reachable registryStep (.fromConfig config.toAppConfig) registry →
      ∃ pool, getModelUpstreams registry modelName = .ok pool ∧ .ofConfig upstream ∈ pool

/-- The entry of the file at some place is in force, alone, for a pair that clients
and upstreams have. -/
structure LimitInForce (config : GatewayConfig) (i : ℕ) (key : Key) (maxActiveRequests : ℤ) :
    Prop where
  only : ∃ limit, limit.maxActiveRequests = maxActiveRequests ∧
    OnlyMatch config.admissionControl.departmentModelLimits (limitMatches key) i limit
  lookup : departmentModelLimit config.admissionControl key.1 key.2 = some maxActiveRequests
  targeted : Targeted config key.1 key.2

structure BudgetInForce (config : GatewayConfig) (i : ℕ) (key : Key) (maxTokens : ℤ)
    (windowSeconds : ℚ) : Prop where
  only : ∃ budget, budget.maxTokens = maxTokens ∧ budget.windowSeconds = windowSeconds ∧
    OnlyMatch config.admissionControl.tokenBudgets (budgetMatches key) i budget ∧
    tokenBudget config.admissionControl key.1 key.2 = some budget
  targeted : Targeted config key.1 key.2

section
variable {env : Environment} {raw : RawAppConfig} {config : GatewayConfig}

theorem targeted_of_known (haccepted : validateAppConfig env raw = .ok config)
    {department modelName : String}
    (hdepartment : department ∈ config.apiKeyToDepartment.map Prod.snd)
    (hmodel : modelName ∈ config.upstreams.flatMap UpstreamConfig.models) :
    Targeted config department modelName := by
  obtain ⟨apiKey, hget⟩ := (mem_allowedDepartments config department).mp hdepartment
  obtain ⟨upstream, hupstream, hserves⟩ := List.mem_flatMap.mp hmodel
  refine ⟨⟨apiKey, resolves_of_get? haccepted hget⟩, upstream, hupstream, fun registry hreach => ?_⟩
  have hkept : RegistryKept (targets config.toAppConfig) registry := registry_kept hreach
  obtain ⟨pool, hsome, hserved⟩ := served_pool hkept hupstream hserves
  exact ⟨pool, by rw [getModelUpstreams, hsome], hserved⟩

theorem departmentModelLimit_live (haccepted : validateAppConfig env raw = .ok config)
    (henabled : config.admissionControl.enabled = true) {i : ℕ}
    {rawLimit : DepartmentModelConcurrencyLimitConfig}
    (hplace : raw.admissionControl.departmentModelLimits[i]? = some rawLimit) :
    LimitInForce config i (stripString rawLimit.department, stripString rawLimit.modelName)
      rawLimit.maxActiveRequests := by
  set key : Key := (stripString rawLimit.department, stripString rawLimit.modelName)
  have hconfig := validateAppConfig_ok haccepted
  have hreferences := hconfig.references henabled
  obtain ⟨limit, hlimit, hvalid⟩ :=
    forall₂_getElem? (mapAll_ok_iff.mp hconfig.admission.limits) hplace
  obtain ⟨hdepartment, hmodel, hmax⟩ := normalizeDepartmentModelLimit_ok (alone_ok_iff.mp hvalid)
  have hkey : limitKey limit = key := by rw [limitKey, hdepartment, hmodel]
  have hmatch : OnlyMatch config.admissionControl.departmentModelLimits (limitMatches key) i
      limit :=
    onlyMatch_of_distinct hreferences.limitPairs hlimit fun other => by
      rw [limitMatches_iff, ← hkey]
      rfl
  have hknown := hreferences.limits limit (List.mem_of_getElem? hlimit)
  rw [hdepartment, hmodel] at hknown
  refine ⟨⟨limit, hmax, hmatch⟩, ?_, targeted_of_known haccepted hknown.1 hknown.2⟩
  have hfound : config.admissionControl.departmentModelLimits.find? (fun limit =>
      limit.department = key.1 ∧ limit.modelName = key.2) = some limit := hmatch.found
  rw [departmentModelLimit, hfound, Option.map_some, hmax]

theorem tokenBudget_live (haccepted : validateAppConfig env raw = .ok config)
    (henabled : config.admissionControl.enabled = true) {i : ℕ} {rawBudget : TokenBudgetConfig}
    (hplace : raw.admissionControl.tokenBudgets[i]? = some rawBudget) :
    BudgetInForce config i (stripString rawBudget.department, stripString rawBudget.modelName)
      rawBudget.maxTokens rawBudget.windowSeconds := by
  set key : Key := (stripString rawBudget.department, stripString rawBudget.modelName)
  have hconfig := validateAppConfig_ok haccepted
  have hreferences := hconfig.references henabled
  obtain ⟨budget, hbudget, hvalid⟩ :=
    forall₂_getElem? (mapAll_ok_iff.mp hconfig.admission.budgets) hplace
  obtain ⟨hdepartment, hmodel, hmax, hwindow⟩ := normalizeTokenBudget_ok (alone_ok_iff.mp hvalid)
  have hkey : budgetKey budget = key := by rw [budgetKey, hdepartment, hmodel]
  have hmatch : OnlyMatch config.admissionControl.tokenBudgets (budgetMatches key) i budget :=
    onlyMatch_of_distinct hreferences.budgetPairs hbudget fun other => by
      rw [budgetMatches_iff, ← hkey]
      rfl
  have hknown := hreferences.budgets budget (List.mem_of_getElem? hbudget)
  rw [hdepartment, hmodel] at hknown
  exact ⟨⟨budget, hmax, hwindow, hmatch, hmatch.found⟩,
    targeted_of_known haccepted hknown.1 hknown.2⟩

end

inductive Verdict where
  | shape (result : Except Rejection JsonObject)
  | admission (result : Except Rejection (Option AdmissionLease))
  | noted

def verdict (config : AdmissionControlConfig) (now : ℚ) (c : AdmissionController) :
    AdmissionOp → Verdict
  | .checkRequestShape department modelName endpoint bodySize payload =>
    .shape (checkRequestShape config department modelName endpoint bodySize payload).1
  | .acquire department modelName endpoint =>
    .admission (acquire config now department modelName endpoint c).1
  | .release _ | .recordTokens _ _ _ | .recordRetryEvent _ _ => .noted

def verdicts (config : AdmissionControlConfig) :
    AdmissionController → History → List (Verdict × GatewayMetrics)
  | _, [] => []
  | c, (now, op) :: history =>
    (verdict config now c op, (apply config now c op).2) ::
      verdicts config (apply config now c op).1 history

/-- The same but for the lists of limits, in which the same is found. -/
structure SameLimits (config config' : AdmissionControlConfig) : Prop where
  enabled : config.enabled = config'.enabled
  retryAfter : config.defaultRetryAfterSeconds = config'.defaultRetryAfterSeconds
  globalLimits : config.globalModelLimits = config'.globalModelLimits
  shapeLimits : config.requestShapeLimits = config'.requestShapeLimits
  retryGuard : config.retryGuard = config'.retryGuard
  limits : departmentModelLimit config = departmentModelLimit config'
  budgets : tokenBudget config = tokenBudget config'

section
variable {config config' : AdmissionControlConfig}

theorem call_same (h : SameLimits config config') (now : ℚ) (c : AdmissionController)
    (op : AdmissionOp) :
    verdict config now c op = verdict config' now c op ∧
      apply config now c op = apply config' now c op := by
  cases op with
  | checkRequestShape =>
    simp only [verdict, apply, checkRequestShape, h.enabled, h.shapeLimits, and_self]
  | acquire =>
    simp only [verdict, apply, acquire, modelLimit, h.enabled, h.globalLimits, h.retryAfter,
      h.limits, h.budgets, and_self]
  | release => exact ⟨rfl, rfl⟩
  | recordTokens => simp only [verdict, apply, recordTokens, h.enabled, h.budgets, and_self]
  | recordRetryEvent =>
    simp only [verdict, apply, recordRetryEvent, h.enabled, h.retryGuard, and_self]

theorem verdicts_same (h : SameLimits config config') (c : AdmissionController)
    (history : History) : verdicts config c history = verdicts config' c history := by
  induction history generalizing c with
  | nil => rfl
  | cons call history ih =>
    obtain ⟨now, op⟩ := call
    obtain ⟨hverdict, happly⟩ := call_same h now c op
    rw [verdicts, verdicts, hverdict, happly, ih]

end

def withLists (raw : RawAppConfig) (limits : List DepartmentModelConcurrencyLimitConfig)
    (budgets : List TokenBudgetConfig) : RawAppConfig :=
  { raw with
    admissionControl := { raw.admissionControl with
      departmentModelLimits := limits
      tokenBudgets := budgets } }

theorem sameLimits_of_perm {env : Environment} {raw : RawAppConfig} {config config' : GatewayConfig}
    {limits : List DepartmentModelConcurrencyLimitConfig} {budgets : List TokenBudgetConfig}
    (haccepted : validateAppConfig env raw = .ok config)
    (henabled : config.admissionControl.enabled = true)
    (hlimits : raw.admissionControl.departmentModelLimits.Perm limits)
    (hbudgets : raw.admissionControl.tokenBudgets.Perm budgets)
    (haccepted' : validateAppConfig env (withLists raw limits budgets) = .ok config') :
    SameLimits config.admissionControl config'.admissionControl := by
  have hconfig := validateAppConfig_ok haccepted
  have hconfig' := validateAppConfig_ok haccepted'
  have hreferences := hconfig.references henabled
  have hadmission := hconfig.admission
  have hadmission' := hconfig'.admission
  have hglobal := hadmission.globalLimits.symm.trans hadmission'.globalLimits
  have hshape := hadmission.shapeLimits.symm.trans hadmission'.shapeLimits
  refine ⟨hadmission.enabled.trans hadmission'.enabled.symm,
    hadmission.retryAfter.trans hadmission'.retryAfter.symm, Except.ok.inj hglobal,
    Except.ok.inj hshape, hadmission.retryGuard.trans hadmission'.retryGuard.symm, ?_, ?_⟩
  · funext department modelName
    have hperm := mapAll_perm hlimits hadmission.limits hadmission'.limits
    have hfind := PyDict.find?_perm hreferences.limitPairs hperm
      (limitMatches_iff (department, modelName))
    exact congrArg (Option.map (·.maxActiveRequests)) hfind
  · funext department modelName
    have hperm := mapAll_perm hbudgets hadmission.budgets hadmission'.budgets
    exact PyDict.find?_perm hreferences.budgetPairs hperm
      (budgetMatches_iff (department, modelName))

/-- No entry of the two lists is dead, and their order cannot be told from any
history of calls. -/
theorem list_limits_live {env : Environment} {raw : RawAppConfig} {config : GatewayConfig}
    (haccepted : validateAppConfig env raw = .ok config)
    (henabled : config.admissionControl.enabled = true) :
    (∀ (i : ℕ) (rawLimit : DepartmentModelConcurrencyLimitConfig),
      raw.admissionControl.departmentModelLimits[i]? = some rawLimit →
        LimitInForce config i (stripString rawLimit.department, stripString rawLimit.modelName)
          rawLimit.maxActiveRequests) ∧
      (∀ (i : ℕ) (rawBudget : TokenBudgetConfig),
        raw.admissionControl.tokenBudgets[i]? = some rawBudget →
          BudgetInForce config i (stripString rawBudget.department, stripString rawBudget.modelName)
            rawBudget.maxTokens rawBudget.windowSeconds) ∧
      ∀ (limits : List DepartmentModelConcurrencyLimitConfig) (budgets : List TokenBudgetConfig)
        (config' : GatewayConfig), raw.admissionControl.departmentModelLimits.Perm limits →
        raw.admissionControl.tokenBudgets.Perm budgets →
        validateAppConfig env (withLists raw limits budgets) = .ok config' →
        ∀ history, verdicts config.admissionControl initial history =
          verdicts config'.admissionControl initial history := by
  refine ⟨fun _ _ => departmentModelLimit_live haccepted henabled,
    fun _ _ => tokenBudget_live haccepted henabled, ?_⟩
  intro limits budgets config' hlimits hbudgets haccepted' history
  exact verdicts_same (sameLimits_of_perm haccepted henabled hlimits hbudgets haccepted') initial
    history

def reversedRaw : RawAppConfig :=
  withLists sampleRaw sampleRaw.admissionControl.departmentModelLimits.reverse
    sampleRaw.admissionControl.tokenBudgets.reverse

theorem reversedRaw_isOk :
    (validateAppConfig sampleEnvironment reversedRaw).toOption.isSome = true := by decide +kernel

theorem list_limits_live_sample :
    LimitInForce sampleConfig 0 ("research", "llama") 6 ∧
      BudgetInForce sampleConfig 1 ("sales", "llama") 50 40 ∧
      ∃ config', validateAppConfig sampleEnvironment reversedRaw = .ok config' ∧
        ∀ history, verdicts sampleConfig.admissionControl initial history =
          verdicts config'.admissionControl initial history := by
  have henabled : sampleConfig.admissionControl.enabled = true := by decide +kernel
  obtain ⟨hlimits, hbudgets, hverdicts⟩ := list_limits_live sampleRaw_accepted henabled
  have hstrip : (stripString " research", stripString "llama ") = ("research", "llama") := by
    decide +kernel
  have hstrip' : (stripString "sales", stripString "llama") = ("sales", "llama") := by
    decide +kernel
  refine ⟨hstrip ▸ hlimits 0 ⟨" research", "llama ", 6, by decide⟩ rfl,
    hstrip' ▸ hbudgets 1 ⟨"sales", "llama", 50, 40, by decide, by decide⟩ rfl, _,
    eq_ok_get reversedRaw_isOk, ?_⟩
  exact hverdicts _ _ _ (List.reverse_perm _).symm (List.reverse_perm _).symm
    (eq_ok_get reversedRaw_isOk)

/-- The limit that is kept for an entry's stripped name is the entry's own. -/
def EntriesKept {β : Type} (items normalized : List (String × β)) : Prop :=
  ∀ item ∈ items, PyDict.get? normalized (stripString item.1) = some item.2

def OneLimitEach {β : Type} (items : List (String × β)) : Prop :=
  ∀ item ∈ items, ∀ item' ∈ items, stripString item.1 = stripString item'.1 → item.2 = item'.2

theorem lastLimit_mem {β : Type} {items : List (String × β)} {item : String × β}
    (hitem : item ∈ items) : ∃ item' ∈ items, stripString item'.1 = stripString item.1 ∧
      lastLimit items (stripString item.1) = some item'.2 := by
  have hmatching : item ∈ items.filter fun other => stripString other.1 = stripString item.1 :=
    List.mem_filter.mpr ⟨hitem, decide_eq_true rfl⟩
  obtain ⟨last, hlast⟩ := Option.isSome_iff_exists.mp
    (List.getLast?_isSome.mpr (List.ne_nil_of_mem hmatching))
  obtain ⟨hmem, hname⟩ := List.mem_filter.mp (List.mem_of_getLast? hlast)
  refine ⟨last, hmem, of_decide_eq_true hname, ?_⟩
  rw [lastLimit, hlast, Option.map_some]

/-- The last entry wins, so all are kept exactly if it agrees with each. -/
theorem entriesKept_iff {β : Type} {fieldName : String} {items normalized : List (String × β)}
    (h : normalizeModelKeys fieldName [] items = .ok normalized) :
    EntriesKept items normalized ↔ OneLimitEach items := by
  have hget (modelName : String) :
      PyDict.get? normalized modelName = lastLimit items modelName := by
    rw [(normalizeModelKeys_ok h).1, PyDict.get?, Option.or_none]
  constructor
  · intro hkept item hitem item' hitem' hsame
    have hlimit := hkept item hitem
    rw [hsame] at hlimit
    exact Option.some.inj (hlimit.symm.trans (hkept item' hitem'))
  · intro hone item hitem
    obtain ⟨last, hlast, hname, hlimit⟩ := lastLimit_mem hitem
    rw [hget, hlimit, hone last hlast item hitem hname]

/-- The limits keyed by a model that an accepted configuration enforces are those
of all its entries exactly if entries for one stripped name agree. -/
theorem model_limits_kept_iff {env : Environment} {raw : RawAppConfig} {config : GatewayConfig}
    (haccepted : validateAppConfig env raw = .ok config) :
    (EntriesKept raw.admissionControl.globalModelLimits config.admissionControl.globalModelLimits ∧
        EntriesKept raw.admissionControl.requestShapeLimits
          config.admissionControl.requestShapeLimits) ↔
      OneLimitEach raw.admissionControl.globalModelLimits ∧
        OneLimitEach raw.admissionControl.requestShapeLimits :=
  have hadmission := (validateAppConfig_ok haccepted).admission
  and_congr (entriesKept_iff hadmission.globalLimits) (entriesKept_iff hadmission.shapeLimits)

theorem model_limits_kept_iff_sample :
    PyDict.get? sampleConfig.admissionControl.globalModelLimits "llama" =
      some ⟨8, by decide⟩ := by
  have hone : OneLimitEach sampleRaw.admissionControl.globalModelLimits ∧
      OneLimitEach sampleRaw.admissionControl.requestShapeLimits := by
    have hnames : stripString " llama" ≠ stripString "qwen" := by decide +kernel
    simp [OneLimitEach, sampleRaw, hnames, hnames.symm]
  have hkept := ((model_limits_kept_iff sampleRaw_accepted).mpr hone).1 (" llama", ⟨8, by decide⟩)
    List.mem_cons_self
  have hstrip : stripString " llama" = "llama" := by decide +kernel
  rwa [hstrip] at hkept

/-- The looser limit is stated last, for the same name with a space. -/
def looserRaw : RawAppConfig :=
  { sampleRaw with
    admissionControl := { sampleRaw.admissionControl with
      globalModelLimits := [("llama", ⟨7, by decide⟩), ("llama ", ⟨9, by decide⟩)] } }

theorem looserRaw_isOk :
    (validateAppConfig sampleEnvironment looserRaw).toOption.isSome = true := by decide +kernel

theorem stricter_limit_dropped :
    ¬ ∀ (env : Environment) (raw : RawAppConfig) (config : GatewayConfig),
        validateAppConfig env raw = .ok config → config.admissionControl.enabled = true →
        EntriesKept raw.admissionControl.globalModelLimits
            config.admissionControl.globalModelLimits ∧
          EntriesKept raw.admissionControl.requestShapeLimits
            config.admissionControl.requestShapeLimits := by
  intro h
  have hkept := (h sampleEnvironment looserRaw _ (eq_ok_get looserRaw_isOk) (by decide +kernel)).1
    ("llama", ⟨7, by decide⟩) List.mem_cons_self
  have hlimit := congrArg (Option.map ModelConcurrencyLimitConfig.maxActiveRequests) hkept
  exact absurd hlimit (by decide +kernel)

end VllmSourceGateway.AdmissionLimits
