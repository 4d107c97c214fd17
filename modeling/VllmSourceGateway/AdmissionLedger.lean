import VllmSourceGateway.LeaseAccounting
import VllmSourceGateway.AdmissionTokenWindow
import VllmSourceGateway.AdmissionRetryGuard

set_option autoImplicit false

/-! What admission control is for, without its counters, pruned queues and deadlines: a
ledger of the leases that are held, of all charges and of all failures. A request is
answered by a rule on the ledger alone; the controller gives the same answers. -/
namespace VllmSourceGateway.AdmissionLedger
open PyValues UsageExtractors Metrics Config AdmissionControl GatewayEffects SlidingWindow
open TransitionRuns
open LeaseAccounting (ofModel ofKey SameActive settle_active)
open AdmissionTokenWindow (tokenRecords tokenSum TokenInv)
open AdmissionRetryGuard (GuardHistory GuardInv guardActive retryTimes)

structure Ledger where
  held : List AdmissionLease
  charges : Key → List (ℚ × ℤ)
  failures : Key → List ℚ

def Ledger.empty : Ledger := ⟨[], fun _ => [], fun _ => []⟩

inductive Posting where
  | asked (now : ℚ) (department modelName : String) (endpoint : Endpoint)
      (result : Except Rejection (Option AdmissionLease))
  | returned (lease : AdmissionLease)
  | charged (now : ℚ) (key : Key) (tokens : ℤ)
  | failed (now : ℚ) (key : Key)

section
variable (config : AdmissionControlConfig) (ledger : Ledger) (now : ℚ)

/-- The times at which the failures of the pair opened its guard. -/
def guardOf (key : Key) : GuardHistory :=
  if guardActive config then
    (ledger.failures key).foldl (AdmissionRetryGuard.observe config.retryGuard) ⟨[], []⟩
  else ⟨[], []⟩

/-- The guard of the pair last opened a cooldown before this time. -/
def openUntil (key : Key) : Option ℚ :=
  (guardOf config ledger key).openings.getLast?.map (· + config.retryGuard.cooldownSeconds)

def spent (key : Key) (window : ℚ) : ℤ :=
  tokenSum (within Prod.fst window now (ledger.charges key))

def overBudget (key : Key) : Bool :=
  (tokenBudget config key.1 key.2).any fun budget =>
    decide (budget.maxTokens ≤ spent ledger now key budget.windowSeconds)

def refusal (key : Key) : Option Rejection :=
  match (openUntil config ledger key).filter fun deadline => decide (now < deadline) with
  | some deadline =>
    some ⟨.retryGuardOpen, tooManyRequests "retry guard is open" (max 1 ⌊deadline - now⌋)⟩
  | none =>
    if atLimit (modelLimit config key.2) (ledger.held.countP (ofModel key.2)) then
      some ⟨.modelConcurrency, tooManyRequests "model concurrency limit exceeded"
        config.defaultRetryAfterSeconds⟩
    else if atLimit (departmentModelLimit config key.1 key.2)
        (ledger.held.countP (ofKey key)) then
      some ⟨.departmentModelConcurrency, tooManyRequests
        "department model concurrency limit exceeded" config.defaultRetryAfterSeconds⟩
    else if overBudget config ledger now key then
      some ⟨.tokenBudget, tooManyRequests "token budget exceeded"
        config.defaultRetryAfterSeconds⟩
    else none

def answer (department modelName : String) (endpoint : Endpoint) :
    Except Rejection (Option AdmissionLease) :=
  if config.enabled then
    match refusal config ledger now (department, modelName) with
    | some rejection => .error rejection
    | none => .ok (some ⟨department, modelName, endpoint⟩)
  else .ok none

end

def Ledger.record (ledger : Ledger) : Posting → Ledger
  | .asked _ _ _ _ (.ok (some lease)) => { ledger with held := lease :: ledger.held }
  | .asked _ _ _ _ _ => ledger
  | .returned lease => { ledger with held := ledger.held.erase lease }
  | .charged now key tokens =>
    if 0 < tokens then
      { ledger with
        charges := Function.update ledger.charges key (ledger.charges key ++ [(now, tokens)]) }
    else ledger
  | .failed now key =>
    { ledger with failures := Function.update ledger.failures key (ledger.failures key ++ [now]) }

section
variable (ledger : Ledger) (now : ℚ)

theorem record_asked_other (department modelName : String) (endpoint : Endpoint)
    (result : Except Rejection (Option AdmissionLease)) :
    (ledger.record (.asked now department modelName endpoint result)).charges = ledger.charges ∧
      (ledger.record (.asked now department modelName endpoint result)).failures =
        ledger.failures := by
  cases result with
  | error rejection => exact ⟨rfl, rfl⟩
  | ok lease => cases lease <;> exact ⟨rfl, rfl⟩

theorem record_charged_other (key : Key) (tokens : ℤ) :
    (ledger.record (.charged now key tokens)).held = ledger.held ∧
      (ledger.record (.charged now key tokens)).failures = ledger.failures := by
  simp only [Ledger.record]
  split <;> exact ⟨rfl, rfl⟩

end

/-- A request gets the answer of the rule; only a lease that is held is returned. -/
def Ledger.Accepts (config : AdmissionControlConfig) (ledger : Ledger) : Posting → Prop
  | .asked now department modelName endpoint result =>
    result = answer config ledger now department modelName endpoint
  | .returned lease => lease ∈ ledger.held
  | .charged _ _ _ | .failed _ _ => True

instance (config : AdmissionControlConfig) (ledger : Ledger) (posting : Posting) :
    Decidable (ledger.Accepts config posting) := by
  cases posting <;> unfold Ledger.Accepts <;> infer_instance

def Ledger.step (config : AdmissionControlConfig) (ledger : Ledger) (posting : Posting) :
    Option Ledger := if ledger.Accepts config posting then some (ledger.record posting) else none

theorem step_of_accepts {config : AdmissionControlConfig} {ledger : Ledger} {posting : Posting}
    (h : ledger.Accepts config posting) :
    ledger.step config posting = some (ledger.record posting) := if_pos h

def Posting.By (clock : ℚ) : Posting → Prop
  | .asked now _ _ _ _ | .charged now _ _ | .failed now _ => now ≤ clock
  | .returned _ => True

structure Ledger.Timely (clock : ℚ) (ledger : Ledger) : Prop where
  charges : ∀ key, ∀ charge ∈ ledger.charges key, charge.1 ≤ clock ∧ 0 < charge.2
  failures : ∀ key, ∀ failure ∈ ledger.failures key, failure ≤ clock

theorem Ledger.Timely.record {clock : ℚ} {ledger : Ledger} (h : ledger.Timely clock)
    {posting : Posting} (hby : posting.By clock) : (ledger.record posting).Timely clock := by
  cases posting with
  | asked now department modelName endpoint result =>
    obtain ⟨hcharges, hfailures⟩ :=
      record_asked_other ledger now department modelName endpoint result
    exact ⟨hcharges ▸ h.charges, hfailures ▸ h.failures⟩
  | returned lease => exact ⟨h.charges, h.failures⟩
  | charged now key tokens =>
    refine ⟨fun other charge hcharge => ?_, ?_⟩
    · simp only [Ledger.record] at hcharge
      split at hcharge
      · rename_i hpos
        by_cases hother : other = key
        · subst hother
          simp only [Function.update_self, List.mem_append, List.mem_singleton] at hcharge
          rcases hcharge with hold | rfl
          · exact h.charges other charge hold
          · exact ⟨hby, hpos⟩
        · simp only [Function.update_of_ne hother] at hcharge
          exact h.charges other charge hcharge
      · exact h.charges other charge hcharge
    · rw [(record_charged_other ledger now key tokens).2]
      exact h.failures
  | failed now key =>
    refine ⟨h.charges, fun other failure hfailure => ?_⟩
    simp only [Ledger.record] at hfailure
    by_cases hother : other = key
    · subst hother
      rw [Function.update_self, List.mem_append, List.mem_singleton] at hfailure
      rcases hfailure with hold | rfl
      · exact h.failures other failure hold
      · exact hby
    · rw [Function.update_of_ne hother] at hfailure
      exact h.failures other failure hfailure

theorem run_timely {config : AdmissionControlConfig} {clock : ℚ} {ws : List (Ledger × Posting)}
    {ledger : Ledger} (run : Run (Ledger.step config) .empty ws ledger)
    (hby : ∀ w ∈ ws, w.2.By clock) : ledger.Timely clock := by
  refine run.invariant (fun ws ledger => (∀ w ∈ ws, w.2.By clock) → ledger.Timely clock) ?_ ?_ hby
  · exact fun _ => ⟨fun _ => List.forall_mem_nil _, fun _ => List.forall_mem_nil _⟩
  · intro ws ledger posting ledger' _ hinv hstep hby
    have hrecorded : ledger.record posting = ledger' := by
      unfold Ledger.step at hstep
      split at hstep
      · exact Option.some.inj hstep
      · cases hstep
    rw [← hrecorded]
    exact (hinv fun w hw => hby w (List.mem_append_left _ hw)).record
      (hby (ledger, posting) (List.mem_append_right _ List.mem_cons_self))

/-- The guard opens only at failures. -/
theorem openings_from (guard : RetryGuardConfig) (failures : List ℚ) (g : GuardHistory) :
    ∀ o ∈ (failures.foldl (AdmissionRetryGuard.observe guard) g).openings,
      o ∈ g.openings ∨ o ∈ failures := by
  induction failures generalizing g with
  | nil => exact fun o ho => .inl ho
  | cons t failures ih =>
    intro o ho
    rcases ih _ o ho with hopened | hlater
    · have hobserved : o ∈ g.openings ∨ o = t := by
        unfold AdmissionRetryGuard.observe at hopened
        split at hopened
        · simpa using hopened
        · split at hopened <;> exact .inl hopened
      exact hobserved.imp_right fun heq => List.mem_cons.mpr (.inl heq)
    · exact .inr (List.mem_cons_of_mem _ hlater)

section
variable {config : AdmissionControlConfig} {ledger : Ledger} {clock now now' : ℚ} {key : Key}

theorem Ledger.Timely.openUntil_le (h : ledger.Timely clock) {deadline : ℚ}
    (hopen : openUntil config ledger key = some deadline) :
    deadline ≤ clock + config.retryGuard.cooldownSeconds := by
  obtain ⟨o, hlast, rfl⟩ := Option.map_eq_some_iff.mp hopen
  have hopening := List.mem_of_getLast? hlast
  unfold guardOf at hopening
  split at hopening
  · rcases openings_from _ _ _ o hopening with hnone | hfailure
    · cases hnone
    · exact add_le_add_left (h.failures key o hfailure) _
  · cases hopening

/-- Time only takes charges out of the window. -/
theorem Ledger.Timely.spent_later (h : ledger.Timely clock) (hlater : now ≤ now') (window : ℚ) :
    spent ledger now' key window ≤ spent ledger now key window := by
  have hkept : within Prod.fst window now' (ledger.charges key) =
      within Prod.fst window now' (within Prod.fst window now (ledger.charges key)) := by
    unfold within
    rw [List.filter_filter]
    refine List.filter_congr fun charge _ => ?_
    by_cases hin : now' - charge.1 ≤ window
    · have hstill : now - charge.1 ≤ window := (sub_le_sub_right hlater _).trans hin
      simp [hin, hstill]
    · simp [hin]
  have hsum (charges : List (ℚ × ℤ)) (hpos : ∀ charge ∈ charges, 0 < charge.2) :
      tokenSum (within Prod.fst window now' charges) ≤ tokenSum charges := by
    refine List.Sublist.sum_le_sum ((List.filter_sublist).map _) ?_
    intro tokens htokens
    obtain ⟨charge, hcharge, rfl⟩ := List.mem_map.mp htokens
    exact (hpos charge hcharge).le
  unfold spent
  rw [hkept]
  exact hsum _ fun charge hcharge =>
    (h.charges key charge (List.mem_of_mem_filter hcharge)).2

theorem Ledger.Timely.spent_zero (h : ledger.Timely clock) {window : ℚ}
    (hlate : clock + window < now) : spent ledger now key window = 0 := by
  have hnone : within Prod.fst window now (ledger.charges key) = [] := by
    refine List.filter_eq_nil_iff.mpr fun charge hcharge => ?_
    have hold := (h.charges key charge hcharge).1
    simp only [decide_eq_true_eq, not_le]
    linarith
  unfold spent
  rw [hnone]
  rfl

theorem refusal_eq_none_iff : refusal config ledger now key = none ↔
    (∀ deadline, openUntil config ledger key = some deadline → deadline ≤ now) ∧
      atLimit (modelLimit config key.2) (ledger.held.countP (ofModel key.2)) = false ∧
      atLimit (departmentModelLimit config key.1 key.2) (ledger.held.countP (ofKey key)) = false ∧
      overBudget config ledger now key = false := by
  have hfilter : (openUntil config ledger key).filter (fun deadline => decide (now < deadline)) =
      none ↔ ∀ deadline, openUntil config ledger key = some deadline → deadline ≤ now := by
    rw [Option.filter_eq_none_iff]
    refine forall₂_congr fun deadline _ => ?_
    rw [decide_eq_true_eq, not_lt]
  rw [← hfilter]
  unfold refusal
  split
  · rename_i deadline hdeadline
    simp [hdeadline]
  · rename_i hclosed
    simp only [hclosed, true_and]
    split_ifs with hmodel hpair hbudget
    · simp [hmodel]
    · simp [hpair]
    · simp [hbudget]
    · simp [hmodel, hpair, hbudget]

/-- Who is not refused is not refused later either. -/
theorem Ledger.Timely.refusal_later (h : ledger.Timely clock) (hlater : now ≤ now')
    (hnow : refusal config ledger now key = none) : refusal config ledger now' key = none := by
  obtain ⟨hopen, hmodel, hpair, hbudget⟩ := refusal_eq_none_iff.mp hnow
  refine refusal_eq_none_iff.mpr ⟨fun deadline hdeadline => (hopen deadline hdeadline).trans hlater,
    hmodel, hpair, ?_⟩
  unfold overBudget at hbudget ⊢
  cases hfound : tokenBudget config key.1 key.2 with
  | none => rfl
  | some budget =>
    simp only [hfound, Option.any_some, decide_eq_false_iff_not, not_le] at hbudget ⊢
    exact (h.spent_later hlater _).trans_lt hbudget

/-- After a cooldown and a window without postings only leases that are held refuse. -/
theorem Ledger.Timely.refusal_quiet (h : ledger.Timely clock)
    (hcooldown : clock + config.retryGuard.cooldownSeconds ≤ now)
    (hwindow : ∀ budget, tokenBudget config key.1 key.2 = some budget →
      clock + budget.windowSeconds < now)
    (hmodel : atLimit (modelLimit config key.2) (ledger.held.countP (ofModel key.2)) = false)
    (hpair : atLimit (departmentModelLimit config key.1 key.2)
      (ledger.held.countP (ofKey key)) = false) : refusal config ledger now key = none := by
  refine refusal_eq_none_iff.mpr ⟨fun deadline hdeadline =>
    (h.openUntil_le hdeadline).trans hcooldown, hmodel, hpair, ?_⟩
  unfold overBudget
  cases hfound : tokenBudget config key.1 key.2 with
  | none => rfl
  | some budget =>
    simp only [Option.any_some, h.spent_zero (hwindow budget hfound), decide_eq_false_iff_not,
      not_le]
    exact budget.maxTokens_pos

end

def posting? (now : ℚ) : Effect → Option Posting
  | .acquire department modelName endpoint result =>
    some (.asked now department modelName endpoint result)
  | .release (some lease) => some (.returned lease)
  | .recordTokens department modelName tokens => some (.charged now (department, modelName) tokens)
  | .recordRetryEvent department modelName => some (.failed now (department, modelName))
  | _ => none

structure Represents (config : AdmissionControlConfig) (clock : ℚ) (ledger : Ledger)
    (c : AdmissionController) : Prop where
  model : ∀ modelName, c.activeByModel modelName = ledger.held.countP (ofModel modelName)
  departmentModel : ∀ key, c.activeByDepartmentModel key = ledger.held.countP (ofKey key)
  tokens : config.enabled = true → ∀ key budget, tokenBudget config key.1 key.2 = some budget →
    TokenInv budget.windowSeconds clock (ledger.charges key) key c
  guard : ∀ key, GuardInv config.retryGuard clock (guardOf config ledger key) key c

section
variable {config : AdmissionControlConfig} {clock now : ℚ} {ledger : Ledger}
  {c : AdmissionController}

theorem Represents.later (h : Represents config clock ledger c) (hc : clock ≤ now) :
    Represents config now ledger c :=
  ⟨h.model, h.departmentModel, fun henabled key budget hbudget =>
    (h.tokens henabled key budget hbudget).later hc, fun key => (h.guard key).later hc⟩

theorem represents_initial : Represents config 0 .empty initial := by
  refine ⟨fun _ => rfl, fun _ => rfl, fun _ key budget _ => ⟨.nil _ _ _, ?_, rfl⟩, fun key => ?_⟩
  · exact List.forall_mem_nil _
  · have hempty : guardOf config .empty key = ⟨[], []⟩ := by
      unfold guardOf
      split <;> rfl
    rw [hempty]
    exact ⟨.nil _ _ _, rfl, .nil⟩

/-- The running total of the settled queue is what the ledger has in the window. -/
theorem Represents.settled (h : Represents config clock ledger c) (hc : clock ≤ now)
    (henabled : config.enabled = true) (key : Key) :
    budgetSpent config key (settle config now key c) = overBudget config ledger now key := by
  unfold budgetSpent overBudget settle
  cases hbudget : tokenBudget config key.1 key.2 with
  | none => rfl
  | some budget =>
    have hinv := h.tokens henabled key budget hbudget
    have htotal : (pruneTokenEvents budget now key c).tokenTotals key =
        spent ledger now key budget.windowSeconds := by
      rw [(hinv.prune budget hc).total, AdmissionTokenWindow.pruneTokenEvents_events,
        Function.update_self, hinv.retained.expire_eq hc]
      rfl
    simp only [htotal, Option.any_some]

theorem Represents.deadline (h : Represents config clock ledger c) (key : Key) :
    c.cooldownUntil key = openUntil config ledger key := (h.guard key).deadline

/-- The controller answers as the rule does. -/
theorem Represents.acquire_answer (h : Represents config clock ledger c) (hc : clock ≤ now)
    (hnow : 0 ≤ now) (department modelName : String) (endpoint : Endpoint) :
    (acquire config now department modelName endpoint c).1 =
      answer config ledger now department modelName endpoint := by
  unfold acquire answer
  by_cases henabled : config.enabled = true
  · have hbudget := h.settled hc henabled (department, modelName)
    unfold budgetSpent settle at hbudget
    simp only [henabled, Bool.not_true, Bool.false_eq_true, if_false, if_true, refusal,
      h.deadline, h.model, h.departmentModel]
    by_cases hopen : now < (openUntil config ledger (department, modelName)).getD 0
    · obtain ⟨deadline, hdeadline⟩ :
          ∃ deadline, openUntil config ledger (department, modelName) = some deadline := by
        refine Option.ne_none_iff_exists'.mp fun hnone => ?_
        rw [hnone, Option.getD_none] at hopen
        exact absurd hopen (not_lt.mpr hnow)
      rw [hdeadline, Option.getD_some] at hopen
      simp only [hdeadline, Option.getD_some, hopen, if_true, Option.filter_some, decide_true,
        rejectAcquire]
    · have hclosed : (openUntil config ledger (department, modelName)).filter
          (fun deadline => decide (now < deadline)) = none := by
        refine Option.filter_eq_none_iff.mpr fun deadline hdeadline => ?_
        rw [hdeadline, Option.getD_some] at hopen
        simpa only [decide_eq_true_eq] using hopen
      simp only [hopen, if_false, hclosed]
      split
      · rfl
      · split
        · rfl
        · cases hfound : tokenBudget config department modelName with
          | none =>
            simp only [hfound] at hbudget
            simp only [← hbudget, Bool.false_eq_true, if_false, grantLease]
          | some budget =>
            simp only [hfound] at hbudget
            rw [← hbudget]
            simp only [decide_eq_true_eq]
            split <;> rfl
  · simp only [henabled, Bool.not_false, Bool.false_eq_true, if_true, if_false]

/-- The charges of a call are those of its posting. -/
theorem charges_record {effect : Effect} {op : AdmissionOp} {posting : Posting}
    (hop : effect.admissionOp? = some op) (hposting : posting? now effect = some posting)
    (key : Key) :
    (ledger.record posting).charges key = ledger.charges key ++ tokenRecords key [(now, op)] := by
  cases effect with
  | acquire department modelName endpoint result =>
    cases hop
    cases hposting
    simp only [tokenRecords, List.filterMap_cons, List.filterMap_nil, List.append_nil]
    rw [(record_asked_other ledger now department modelName endpoint result).1]
  | release lease =>
    cases lease with
    | none => cases hposting
    | some lease =>
      cases hop
      cases hposting
      simp [tokenRecords, Ledger.record]
  | recordTokens department modelName tokens =>
    cases hop
    cases hposting
    by_cases hpos : 0 < tokens
    · by_cases hkey : (department, modelName) = key
      · subst hkey
        simp [tokenRecords, Ledger.record, hpos]
      · simp [tokenRecords, Ledger.record, hpos, hkey, Function.update_of_ne (Ne.symm hkey)]
    · simp [tokenRecords, Ledger.record, hpos]
  | recordRetryEvent department modelName =>
    cases hop
    cases hposting
    simp [tokenRecords, Ledger.record]
  | _ => cases hposting

theorem guardOf_record {effect : Effect} {op : AdmissionOp} {posting : Posting}
    (hop : effect.admissionOp? = some op) (hposting : posting? now effect = some posting)
    (key : Key) :
    guardOf config (ledger.record posting) key =
      (retryTimes config key [(now, op)]).foldl (AdmissionRetryGuard.observe config.retryGuard)
        (guardOf config ledger key) := by
  rw [AdmissionRetryGuard.retryTimes_singleton]
  have hother {ledger' : Ledger} (h : ledger'.failures = ledger.failures) :
      guardOf config ledger' key = guardOf config ledger key := by
    unfold guardOf
    rw [h]
  cases effect with
  | acquire department modelName endpoint result =>
    cases hop
    cases hposting
    exact hother (record_asked_other ledger now department modelName endpoint result).2
  | release lease =>
    cases lease with
    | none => cases hposting
    | some lease =>
      cases hop
      cases hposting
      exact hother rfl
  | recordTokens department modelName tokens =>
    cases hop
    cases hposting
    exact hother (record_charged_other ledger now (department, modelName) tokens).2
  | recordRetryEvent department modelName =>
    cases hop
    cases hposting
    unfold guardOf AdmissionRetryGuard.isRetryEvent
    by_cases hactive : guardActive config = true
    · by_cases hkey : (department, modelName) = key
      · subst hkey
        simp [hactive, Ledger.record]
      · simp [hactive, hkey, Ledger.record, Function.update_of_ne (Ne.symm hkey)]
    · simp [hactive]
  | _ => cases hposting

/-- The counters after a call that is heard of and, if a return, is one of a lease held. -/
theorem Represents.counters (h : Represents config clock ledger c) {effect : Effect}
    {op : AdmissionOp} {posting : Posting} (hop : effect.admissionOp? = some op)
    (hposting : posting? now effect = some posting) (haccepts : ledger.Accepts config posting)
    (hanswer : ∀ department modelName endpoint result,
      effect = .acquire department modelName endpoint result →
        (acquire config now department modelName endpoint c).1 = result) :
    (∀ modelName, (apply config now c op).1.activeByModel modelName =
        (ledger.record posting).held.countP (ofModel modelName)) ∧
      ∀ key, (apply config now c op).1.activeByDepartmentModel key =
        (ledger.record posting).held.countP (ofKey key) := by
  have hsame {c' : AdmissionController} {ledger' : Ledger} (hactive : SameActive c c')
      (hheld : ledger'.held = ledger.held) :
      (∀ modelName, c'.activeByModel modelName = ledger'.held.countP (ofModel modelName)) ∧
        ∀ key, c'.activeByDepartmentModel key = ledger'.held.countP (ofKey key) := by
    rw [hactive.1, hactive.2, hheld]
    exact ⟨h.model, h.departmentModel⟩
  cases effect with
  | acquire department modelName endpoint result =>
    cases hop
    cases hposting
    obtain rfl := hanswer department modelName endpoint result rfl
    simp only [apply]
    obtain ⟨_, heq⟩ | ⟨_, _, _, c₁, _, hc₁, _, heq⟩ | ⟨_, heq⟩ :=
      acquire_cases config now department modelName endpoint c
    · rw [heq]
      exact hsame ⟨rfl, rfl⟩ rfl
    · rw [heq]
      rcases hc₁ with rfl | rfl
      · exact hsame ⟨rfl, rfl⟩ rfl
      · exact hsame (settle_active _ _ _ _) rfl
    · rw [heq]
      obtain ⟨hmodel, hdepartment⟩ := settle_active config now (department, modelName) c
      refine ⟨fun other => ?_, fun key => ?_⟩
      · by_cases hother : other = modelName
        · subst hother
          simp [grantLease, Ledger.record, hmodel, h.model, ofModel]
        · simp [grantLease, Ledger.record, hmodel, h.model, ofModel,
            Function.update_of_ne hother, Ne.symm hother]
      · by_cases hother : key = (department, modelName)
        · subst hother
          simp [grantLease, Ledger.record, hdepartment, h.departmentModel, ofKey,
            AdmissionLease.key]
        · simp [grantLease, Ledger.record, hdepartment, h.departmentModel, ofKey,
            AdmissionLease.key, Function.update_of_ne hother, Ne.symm hother]
  | release lease =>
    cases lease with
    | none => cases hposting
    | some lease =>
      cases hop
      cases hposting
      -- The lease is in the list, so neither counter is at zero and the clamp is idle.
      have hmem : lease ∈ ledger.held := haccepts
      have hcount (kind : AdmissionLease → Bool) :
          ledger.held.countP kind = (ledger.held.erase lease).countP kind +
            if kind lease then 1 else 0 := by
        rw [(List.perm_cons_erase hmem).countP_eq, List.countP_cons]
      refine ⟨fun other => ?_, fun key => ?_⟩
      · have hold := h.model other
        rw [hcount] at hold
        by_cases hother : other = lease.modelName
        · subst hother
          simp only [ofModel, decide_true, if_true] at hold
          simp only [apply, release, Ledger.record, Function.update_self, hold]
          omega
        · have hskip : ofModel other lease = false := by simp [ofModel, Ne.symm hother]
          rw [hskip] at hold
          simpa [apply, release, Ledger.record, Function.update_of_ne hother] using hold
      · have hold := h.departmentModel key
        rw [hcount] at hold
        by_cases hother : key = lease.key
        · subst hother
          simp only [ofKey, decide_true, if_true] at hold
          simp only [apply, release, Ledger.record, Function.update_self, hold]
          omega
        · have hskip : ofKey key lease = false := by simp [ofKey, Ne.symm hother]
          rw [hskip] at hold
          simpa [apply, release, Ledger.record, Function.update_of_ne hother] using hold
  | recordTokens department modelName tokens =>
    cases hop
    cases hposting
    exact hsame (LeaseAccounting.recordTokens_active _ _ _)
      (record_charged_other ledger now (department, modelName) tokens).1
  | recordRetryEvent department modelName =>
    cases hop
    cases hposting
    exact hsame (LeaseAccounting.recordRetryEvent_active _ _) rfl
  | _ => cases hposting

/-- The ledger after a posting represents the controller after the call. -/
theorem Represents.posted (h : Represents config clock ledger c) (hc : clock ≤ now)
    (hnow : 0 ≤ now) {effect : Effect} {op : AdmissionOp} {posting : Posting}
    (hop : effect.admissionOp? = some op) (hposting : posting? now effect = some posting)
    (haccepts : ledger.Accepts config posting)
    (hanswer : ∀ department modelName endpoint result,
      effect = .acquire department modelName endpoint result →
        (acquire config now department modelName endpoint c).1 = result) :
    Represents config now (ledger.record posting) (apply config now c op).1 := by
  obtain ⟨hmodel, hdepartmentModel⟩ := h.counters hop hposting haccepts hanswer
  refine ⟨hmodel, hdepartmentModel, fun henabled key budget hbudget => ?_, fun key => ?_⟩
  · rw [charges_record hop hposting]
    exact AdmissionTokenWindow.apply_inv henabled hbudget op
      (h.tokens henabled key budget hbudget) hc
  · rw [guardOf_record hop hposting]
    exact AdmissionRetryGuard.apply_inv op (h.guard key) hc hnow

end

end VllmSourceGateway.AdmissionLedger
