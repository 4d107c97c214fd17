import VllmSourceGateway.Config
import VllmSourceGateway.Metrics

set_option autoImplicit false

/-! The admission controller. A `defaultdict` is a total function; the lock is
left out, since no method awaits while it holds it. `now` is the reading of
`time_source` that the call takes. -/
namespace VllmSourceGateway.AdmissionControl
open PyValues UsageExtractors Metrics Config

structure AdmissionLease where
  department : String
  modelName : String
  endpoint : Endpoint
  deriving DecidableEq

abbrev Key := String × String

def AdmissionLease.key (lease : AdmissionLease) : Key := (lease.department, lease.modelName)

structure AdmissionController where
  activeByModel : String → ℤ
  activeByDepartmentModel : Key → ℤ
  tokenEvents : Key → List (ℚ × ℤ)
  tokenTotals : Key → ℤ
  retryEvents : Key → List ℚ
  cooldownUntil : Key → Option ℚ

def initial : AdmissionController :=
  ⟨fun _ => 0, fun _ => 0, fun _ => [], fun _ => 0, fun _ => [], fun _ => none⟩

structure Rejection where
  reason : RejectionReason
  error : HttpException
  deriving DecidableEq

def shapeErrorStatus : RejectionReason → ℕ
  | .requestBodyTooLarge => 413
  | _ => 422

def shapeErrorDetail : RejectionReason → String
  | .requestBodyTooLarge => "request body too large"
  | .nGreaterThanOne => "n greater than one is not allowed"
  | _ => "max output tokens limit exceeded or invalid"

def rejectShape (department modelName : String) (reason : RejectionReason) :
    Except Rejection JsonObject × GatewayMetrics :=
  (.error ⟨reason, ⟨shapeErrorStatus reason, shapeErrorDetail reason, none⟩⟩,
    [.admissionRejection department modelName reason])

/-- An `int` above zero that is not a `bool`. -/
def positiveInt? : Json → Option ℤ
  | .int n => if 0 < n then some n else none
  | _ => none

/-- Whether the payload has a cap key, and the largest cap if all are valid. -/
def extractValidMaxOutputTokens (payload : JsonObject) : Bool × Option ℤ :=
  match PyDict.get? payload "max_tokens", PyDict.get? payload "max_output_tokens" with
  | none, none => (false, none)
  | some v, none => (true, positiveInt? v)
  | none, some w => (true, positiveInt? w)
  | some v, some w =>
    match positiveInt? v, positiveInt? w with
    | some a, some b => (true, some (max a b))
    | _, _ => (true, none)

def exceeds (limit : Option ℤ) (n : ℤ) : Bool :=
  match limit with
  | none => false
  | some limit => limit < n

/-- The two checks made when the model has an output limit. -/
def outputCapRejected (limit : Option ℤ) (hasOutputCap : Bool) (maxOutputTokens : Option ℤ) :
    Bool :=
  match limit, maxOutputTokens with
  | none, _ => false
  | some _, none => hasOutputCap
  | some limit, some n => limit < n

def nRejected (rejectNGreaterThanOne : Bool) (payload : JsonObject) : Bool :=
  rejectNGreaterThanOne &&
    match PyDict.get? payload "n" with
    | none => false
    | some n => !n.equalsOne

def outputKey : Endpoint → String
  | .responses => "max_output_tokens"
  | .chatCompletions | .messages => "max_tokens"

def checkRequestShape (config : AdmissionControlConfig) (department modelName : String)
    (endpoint : Endpoint) (bodySize : ℕ) (payload : JsonObject) :
    Except Rejection JsonObject × GatewayMetrics :=
  if !config.enabled then (.ok payload, [])
  else
    match PyDict.get? config.requestShapeLimits modelName with
    | none => (.ok payload, [])
    | some limit =>
      if exceeds limit.maxRequestBodyBytes bodySize then
        rejectShape department modelName .requestBodyTooLarge
      else
        let (hasOutputCap, maxOutputTokens) := extractValidMaxOutputTokens payload
        if outputCapRejected limit.maxOutputTokens hasOutputCap maxOutputTokens then
          rejectShape department modelName .maxOutputTokens
        else if nRejected limit.rejectNGreaterThanOne payload then
          rejectShape department modelName .nGreaterThanOne
        else
          match limit.maxOutputTokens, hasOutputCap with
          | some cap, false => (.ok (PyDict.set payload (outputKey endpoint) (.int cap)), [])
          | _, _ => (.ok payload, [])

def tooManyRequests (detail : String) (retryAfterSeconds : ℤ) : HttpException :=
  ⟨429, detail, some retryAfterSeconds⟩

def modelLimit (config : AdmissionControlConfig) (modelName : String) : Option ℤ :=
  (PyDict.get? config.globalModelLimits modelName).map (·.maxActiveRequests)

def departmentModelLimit (config : AdmissionControlConfig) (department modelName : String) :
    Option ℤ :=
  (config.departmentModelLimits.find? fun limit =>
    limit.department = department ∧ limit.modelName = modelName).map (·.maxActiveRequests)

def tokenBudget (config : AdmissionControlConfig) (department modelName : String) :
    Option TokenBudgetConfig :=
  config.tokenBudgets.find? fun budget =>
    budget.department = department ∧ budget.modelName = modelName

def atLimit (limit : Option ℤ) (active : ℤ) : Bool :=
  match limit with
  | none => false
  | some limit => limit ≤ active

def dropOldTokenEvents (now windowSeconds : ℚ) : List (ℚ × ℤ) → ℤ × List (ℚ × ℤ)
  | [] => (0, [])
  | (at_, tokens) :: events =>
    if windowSeconds < now - at_ then
      let (removed, kept) := dropOldTokenEvents now windowSeconds events
      (tokens + removed, kept)
    else (0, (at_, tokens) :: events)

def pruneTokenEvents (budget : TokenBudgetConfig) (now : ℚ) (key : Key)
    (c : AdmissionController) : AdmissionController :=
  let (removed, kept) := dropOldTokenEvents now budget.windowSeconds (c.tokenEvents key)
  { c with
    tokenEvents := Function.update c.tokenEvents key kept
    tokenTotals :=
      if removed = 0 then c.tokenTotals
      else Function.update c.tokenTotals key (max 0 (c.tokenTotals key - removed)) }

def rejectAcquire (department modelName : String) (reason : RejectionReason) (detail : String)
    (retryAfterSeconds : ℤ) (c : AdmissionController) (extra : GatewayMetrics) :
    Except Rejection (Option AdmissionLease) × AdmissionController × GatewayMetrics :=
  (.error ⟨reason, tooManyRequests detail retryAfterSeconds⟩, c,
    .admissionRejection department modelName reason :: extra)

def grantLease (department modelName : String) (endpoint : Endpoint) (c : AdmissionController) :
    Except Rejection (Option AdmissionLease) × AdmissionController × GatewayMetrics :=
  let key := (department, modelName)
  (.ok (some ⟨department, modelName, endpoint⟩),
    { c with
      activeByModel := Function.update c.activeByModel modelName (c.activeByModel modelName + 1)
      activeByDepartmentModel :=
        Function.update c.activeByDepartmentModel key (c.activeByDepartmentModel key + 1) },
    [.inflightInc department modelName endpoint])

def acquire (config : AdmissionControlConfig) (now : ℚ) (department modelName : String)
    (endpoint : Endpoint) (c : AdmissionController) :
    Except Rejection (Option AdmissionLease) × AdmissionController × GatewayMetrics :=
  if !config.enabled then (.ok none, c, [])
  else
    let key := (department, modelName)
    let cooldownUntil := (c.cooldownUntil key).getD 0
    if now < cooldownUntil then
      rejectAcquire department modelName .retryGuardOpen "retry guard is open"
        (max 1 ⌊cooldownUntil - now⌋) c []
    else if atLimit (modelLimit config modelName) (c.activeByModel modelName) then
      rejectAcquire department modelName .modelConcurrency "model concurrency limit exceeded"
        config.defaultRetryAfterSeconds c []
    else if atLimit (departmentModelLimit config department modelName)
        (c.activeByDepartmentModel key) then
      rejectAcquire department modelName .departmentModelConcurrency
        "department model concurrency limit exceeded" config.defaultRetryAfterSeconds c []
    else
      match tokenBudget config department modelName with
      | none => grantLease department modelName endpoint c
      | some budget =>
        let c := pruneTokenEvents budget now key c
        if budget.maxTokens ≤ c.tokenTotals key then
          rejectAcquire department modelName .tokenBudget "token budget exceeded"
            config.defaultRetryAfterSeconds c [.tokenBudgetRejection department modelName]
        else grantLease department modelName endpoint c

def release (lease : Option AdmissionLease) (c : AdmissionController) :
    AdmissionController × GatewayMetrics :=
  match lease with
  | none => (c, [])
  | some lease =>
    ({ c with
        activeByModel := Function.update c.activeByModel lease.modelName
          (max 0 (c.activeByModel lease.modelName - 1))
        activeByDepartmentModel := Function.update c.activeByDepartmentModel lease.key
          (max 0 (c.activeByDepartmentModel lease.key - 1)) },
      [.inflightDec lease.department lease.modelName lease.endpoint])

def recordTokens (config : AdmissionControlConfig) (now : ℚ) (department modelName : String)
    (tokens : ℤ) (c : AdmissionController) : AdmissionController :=
  if !config.enabled || tokens ≤ 0 then c
  else
    match tokenBudget config department modelName with
    | none => c
    | some budget =>
      let key := (department, modelName)
      let c := pruneTokenEvents budget now key c
      { c with
        tokenEvents := Function.update c.tokenEvents key (c.tokenEvents key ++ [(now, tokens)])
        tokenTotals := Function.update c.tokenTotals key (c.tokenTotals key + tokens) }

def recordRetryEvent (config : AdmissionControlConfig) (now : ℚ) (department modelName : String)
    (c : AdmissionController) : AdmissionController × GatewayMetrics :=
  if !config.enabled || !config.retryGuard.enabled then (c, [])
  else
    let key := (department, modelName)
    let guard := config.retryGuard
    if now < (c.cooldownUntil key).getD 0 then (c, [])
    else
      let events :=
        (c.retryEvents key).dropWhile (fun at_ => decide (guard.windowSeconds < now - at_)) ++ [now]
      if guard.maxEvents ≤ events.length ∧ (c.cooldownUntil key).getD 0 ≤ now then
        ({ c with
            cooldownUntil :=
              Function.update c.cooldownUntil key (some (now + guard.cooldownSeconds))
            retryEvents := Function.update c.retryEvents key [] },
          [.retryGuardOpen department modelName])
      else ({ c with retryEvents := Function.update c.retryEvents key events }, [])

/-- The state whose running total the budget check reads. -/
def settle (config : AdmissionControlConfig) (now : ℚ) (key : Key) (c : AdmissionController) :
    AdmissionController :=
  match tokenBudget config key.1 key.2 with
  | none => c
  | some budget => pruneTokenEvents budget now key c

def budgetSpent (config : AdmissionControlConfig) (key : Key) (c : AdmissionController) : Bool :=
  match tokenBudget config key.1 key.2 with
  | none => false
  | some budget => budget.maxTokens ≤ c.tokenTotals key

/-- The call passes the guard and the two concurrency checks. -/
structure ReachesBudgetCheck (config : AdmissionControlConfig) (now : ℚ) (key : Key)
    (c : AdmissionController) : Prop where
  enabled : config.enabled = true
  guardClosed : (c.cooldownUntil key).getD 0 ≤ now
  modelFree : atLimit (modelLimit config key.2) (c.activeByModel key.2) = false
  departmentModelFree : atLimit (departmentModelLimit config key.1 key.2)
    (c.activeByDepartmentModel key) = false

section
variable (config : AdmissionControlConfig) (now : ℚ) (department modelName : String)
  (endpoint : Endpoint) (c : AdmissionController)

theorem acquire_of_reaches (h : ReachesBudgetCheck config now (department, modelName) c) :
    acquire config now department modelName endpoint c =
      if budgetSpent config (department, modelName)
          (settle config now (department, modelName) c) then
        rejectAcquire department modelName .tokenBudget "token budget exceeded"
          config.defaultRetryAfterSeconds (settle config now (department, modelName) c)
          [.tokenBudgetRejection department modelName]
      else grantLease department modelName endpoint (settle config now (department, modelName) c) := by
  obtain ⟨henabled, hguard, hmodel, hdepartment⟩ := h
  have hopen : ¬ now < (c.cooldownUntil (department, modelName)).getD 0 := not_lt.mpr hguard
  dsimp only at hmodel hdepartment
  simp only [acquire, henabled, Bool.not_true, Bool.false_eq_true, if_false, hopen, hmodel,
    hdepartment, budgetSpent, settle]
  rcases Option.eq_none_or_eq_some (tokenBudget config department modelName) with
    hbudget | ⟨budget, hbudget⟩
  · simp only [hbudget, Bool.false_eq_true, if_false]
  · simp only [hbudget, decide_eq_true_eq]

/-- A call that does not get to the budget check changes nothing. -/
theorem acquire_of_not_reaches
    (h : ¬ ReachesBudgetCheck config now (department, modelName) c) :
    (config.enabled = false ∧
        acquire config now department modelName endpoint c = (.ok none, c, [])) ∨
      ∃ reason detail after, reason ≠ .tokenBudget ∧
        acquire config now department modelName endpoint c =
          rejectAcquire department modelName reason detail after c [] := by
  simp only [acquire]
  by_cases henabled : config.enabled = true
  · right
    simp only [henabled, Bool.not_true, Bool.false_eq_true, if_false]
    by_cases hguard : now < (c.cooldownUntil (department, modelName)).getD 0
    · exact ⟨.retryGuardOpen, _, _, by decide, if_pos hguard⟩
    · rw [if_neg hguard]
      by_cases hmodel : atLimit (modelLimit config modelName) (c.activeByModel modelName) = true
      · exact ⟨.modelConcurrency, _, _, by decide, if_pos hmodel⟩
      · rw [if_neg hmodel]
        by_cases hdepartment : atLimit (departmentModelLimit config department modelName)
            (c.activeByDepartmentModel (department, modelName)) = true
        · exact ⟨.departmentModelConcurrency, _, _, by decide, if_pos hdepartment⟩
        · exact absurd ⟨henabled, not_lt.mp hguard, by simpa using hmodel,
            by simpa using hdepartment⟩ h
  · left
    have hdisabled : config.enabled = false := by simpa using henabled
    simp only [hdisabled, Bool.not_false, if_true, true_and]

/-- Everything `acquire` can do: stay out of the way, refuse, or admit. -/
theorem acquire_cases :
    (config.enabled = false ∧
      acquire config now department modelName endpoint c = (.ok none, c, [])) ∨
    (∃ reason detail after c₁ extra, (c₁ = c ∨ c₁ = settle config now (department, modelName) c) ∧
      (extra = [] ∨ extra = [.tokenBudgetRejection department modelName]) ∧
      acquire config now department modelName endpoint c =
        rejectAcquire department modelName reason detail after c₁ extra) ∨
    (ReachesBudgetCheck config now (department, modelName) c ∧
      acquire config now department modelName endpoint c =
        grantLease department modelName endpoint (settle config now (department, modelName) c)) := by
  by_cases h : ReachesBudgetCheck config now (department, modelName) c
  · right
    rw [acquire_of_reaches config now department modelName endpoint c h]
    split
    · exact .inl ⟨_, _, _, _, _, .inr rfl, .inr rfl, rfl⟩
    · exact .inr ⟨h, rfl⟩
  · obtain hoff | ⟨reason, detail, after, _, heq⟩ :=
      acquire_of_not_reaches config now department modelName endpoint c h
    · exact .inl hoff
    · exact .inr (.inl ⟨reason, detail, after, c, [], .inl rfl, .inl rfl, heq⟩)

end

inductive PairEvent (department modelName : String) (endpoint : Endpoint) : MetricEvent → Prop where
  | admissionRejection (reason : RejectionReason) :
      PairEvent department modelName endpoint (.admissionRejection department modelName reason)
  | tokenBudgetRejection :
      PairEvent department modelName endpoint (.tokenBudgetRejection department modelName)
  | inflightInc :
      PairEvent department modelName endpoint (.inflightInc department modelName endpoint)
  | retryGuardOpen : PairEvent department modelName endpoint (.retryGuardOpen department modelName)

section
variable (config : AdmissionControlConfig) (now : ℚ) (department modelName : String)
  (endpoint : Endpoint) (c : AdmissionController)

theorem checkRequestShape_events (bodySize : ℕ) (payload : JsonObject) :
    ∀ event ∈ (checkRequestShape config department modelName endpoint bodySize payload).2,
      PairEvent department modelName endpoint event := by
  have hreject (reason : RejectionReason) : ∀ event ∈ (rejectShape department modelName reason).2,
      PairEvent department modelName endpoint event :=
    List.forall_mem_singleton.mpr (.admissionRejection reason)
  simp only [checkRequestShape]
  repeat' split
  all_goals first | exact hreject _ | exact List.forall_mem_nil _

theorem acquire_events :
    ∀ event ∈ (acquire config now department modelName endpoint c).2.2,
      PairEvent department modelName endpoint event := by
  obtain ⟨_, heq⟩ | ⟨reason, _, _, _, extra, _, hextra, heq⟩ | ⟨_, heq⟩ :=
    acquire_cases config now department modelName endpoint c
  · rw [heq]
    exact List.forall_mem_nil _
  · rw [heq]
    refine List.forall_mem_cons.mpr ⟨.admissionRejection reason, ?_⟩
    rcases hextra with rfl | rfl
    · exact List.forall_mem_nil _
    · exact List.forall_mem_singleton.mpr .tokenBudgetRejection
  · rw [heq]
    exact List.forall_mem_singleton.mpr .inflightInc

theorem recordRetryEvent_events :
    ∀ event ∈ (recordRetryEvent config now department modelName c).2,
      PairEvent department modelName endpoint event := by
  simp only [recordRetryEvent]
  repeat' split
  all_goals first
    | exact List.forall_mem_nil _
    | exact List.forall_mem_singleton.mpr .retryGuardOpen

end

inductive AdmissionOp where
  | checkRequestShape (department modelName : String) (endpoint : Endpoint) (bodySize : ℕ)
      (payload : JsonObject)
  | acquire (department modelName : String) (endpoint : Endpoint)
  | release (lease : Option AdmissionLease)
  | recordTokens (department modelName : String) (tokens : ℤ)
  | recordRetryEvent (department modelName : String)

def apply (config : AdmissionControlConfig) (now : ℚ) (c : AdmissionController) :
    AdmissionOp → AdmissionController × GatewayMetrics
  | .checkRequestShape department modelName endpoint bodySize payload =>
    (c, (checkRequestShape config department modelName endpoint bodySize payload).2)
  | .acquire department modelName endpoint => (acquire config now department modelName endpoint c).2
  | .release lease => release lease c
  | .recordTokens department modelName tokens =>
    (recordTokens config now department modelName tokens c, [])
  | .recordRetryEvent department modelName => recordRetryEvent config now department modelName c

abbrev History := List (ℚ × AdmissionOp)

def replay (config : AdmissionControlConfig) (history : History) : AdmissionController :=
  history.foldl (fun c call => (apply config call.1 c call.2).1) initial

theorem replay_append (config : AdmissionControlConfig) (history : History) (now : ℚ)
    (op : AdmissionOp) :
    replay config (history ++ [(now, op)]) = (apply config now (replay config history) op).1 := by
  simp only [replay, List.foldl_append, List.foldl_cons, List.foldl_nil]

def Chronological (history : History) : Prop := history.Pairwise fun a b => a.1 ≤ b.1

theorem Chronological.init {history : History} {call : ℚ × AdmissionOp}
    (h : Chronological (history ++ [call])) : Chronological history :=
  (List.pairwise_append.mp h).1

theorem Chronological.last {history : History} {call : ℚ × AdmissionOp}
    (h : Chronological (history ++ [call])) : ∀ earlier ∈ history, earlier.1 ≤ call.1 := fun earlier he =>
  (List.pairwise_append.mp h).2.2 earlier he call (List.mem_singleton_self call)

end VllmSourceGateway.AdmissionControl
