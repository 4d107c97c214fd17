import VllmSourceGateway.AdmissionControl
import VllmSourceGateway.SlidingWindow

set_option autoImplicit false

/-! The token budget is an exact sliding window: the lazily pruned deque and its
running total decide as the full history of recorded tokens would. -/
namespace VllmSourceGateway.AdmissionTokenWindow
open Config Metrics UsageExtractors AdmissionControl SlidingWindow

def tokenRecords (key : Key) (history : History) : List (ℚ × ℤ) :=
  history.filterMap fun call =>
    match call.2 with
    | .recordTokens department modelName tokens =>
      if (department, modelName) = key ∧ 0 < tokens then some (call.1, tokens) else none
    | _ => none

def tokenSum (events : List (ℚ × ℤ)) : ℤ := (events.map Prod.snd).sum

def recordedWithin (key : Key) (window now : ℚ) (history : History) : ℤ :=
  tokenSum (within Prod.fst window now (tokenRecords key history))

theorem tokenSum_append (xs ys : List (ℚ × ℤ)) : tokenSum (xs ++ ys) = tokenSum xs + tokenSum ys := by
  simp only [tokenSum, List.map_append, List.sum_append]

theorem tokenSum_nonneg (events : List (ℚ × ℤ)) (h : ∀ e ∈ events, 0 < e.2) :
    0 ≤ tokenSum events := by
  apply List.sum_nonneg
  intro n hn
  obtain ⟨e, he, rfl⟩ := List.mem_map.mp hn
  exact (h e he).le

theorem tokenRecords_append (key : Key) (xs ys : History) :
    tokenRecords key (xs ++ ys) = tokenRecords key xs ++ tokenRecords key ys := by
  simp only [tokenRecords, List.filterMap_append]

theorem tokenRecords_pos (key : Key) (history : History) :
    ∀ e ∈ tokenRecords key history, 0 < e.2 := by
  intro e he
  obtain ⟨⟨now, op⟩, _, hop⟩ := List.mem_filterMap.mp he
  cases op with
  | recordTokens department modelName tokens =>
    simp only [Option.ite_none_right_eq_some, Option.some.injEq] at hop
    obtain ⟨⟨_, hpos⟩, rfl⟩ := hop
    exact hpos
  | _ => simp at hop

theorem dropOldTokenEvents_kept (now window : ℚ) (events : List (ℚ × ℤ)) :
    (dropOldTokenEvents now window events).2 = expire Prod.fst window now events := by
  induction events with
  | nil => rfl
  | cons e events ih =>
    by_cases he : window < now - e.1
    · simp only [dropOldTokenEvents, he, if_true, ih, expire, List.dropWhile_cons, decide_true]
    · simp only [dropOldTokenEvents, he, if_false, expire, List.dropWhile_cons, decide_false,
        Bool.false_eq_true]

theorem dropOldTokenEvents_sum (now window : ℚ) (events : List (ℚ × ℤ)) :
    (dropOldTokenEvents now window events).1 + tokenSum (dropOldTokenEvents now window events).2 =
      tokenSum events := by
  induction events with
  | nil => rfl
  | cons e events ih =>
    by_cases he : window < now - e.1
    · simp only [dropOldTokenEvents, he, if_true, add_assoc, ih]
      rfl
    · simp only [dropOldTokenEvents, he, if_false, zero_add]

/-- The deque of a pair and its running total agree, and both are those of the
records that are not provably out of the window. -/
structure TokenInv (window clock : ℚ) (records : List (ℚ × ℤ)) (key : Key)
    (c : AdmissionController) : Prop where
  retained : Retained Prod.fst window clock records (c.tokenEvents key)
  positive : ∀ e ∈ c.tokenEvents key, 0 < e.2
  total : c.tokenTotals key = tokenSum (c.tokenEvents key)

theorem TokenInv.later {window clock now : ℚ} {records : List (ℚ × ℤ)} {key : Key}
    {c : AdmissionController} (h : TokenInv window clock records key c) (hc : clock ≤ now) :
    TokenInv window now records key c :=
  ⟨h.retained.later hc, h.positive, h.total⟩

theorem TokenInv.congr {window clock : ℚ} {records : List (ℚ × ℤ)} {key : Key}
    {c c' : AdmissionController} (h : TokenInv window clock records key c)
    (hevents : c'.tokenEvents key = c.tokenEvents key)
    (htotal : c'.tokenTotals key = c.tokenTotals key) : TokenInv window clock records key c' :=
  ⟨hevents ▸ h.retained, hevents ▸ h.positive, by rw [htotal, hevents, h.total]⟩

/-- The `max(0, .)` in the pruning never has an effect. -/
theorem TokenInv.removed_le {window clock : ℚ} {records : List (ℚ × ℤ)} {key : Key}
    {c : AdmissionController} (h : TokenInv window clock records key c) (now : ℚ) :
    (dropOldTokenEvents now window (c.tokenEvents key)).1 ≤ c.tokenTotals key := by
  have hsum := dropOldTokenEvents_sum now window (c.tokenEvents key)
  have hkept : 0 ≤ tokenSum (dropOldTokenEvents now window (c.tokenEvents key)).2 := by
    rw [dropOldTokenEvents_kept]
    apply tokenSum_nonneg
    intro e he
    exact h.positive e ((List.dropWhile_sublist _).mem he)
  rw [h.total]
  omega

theorem pruneTokenEvents_events (budget : TokenBudgetConfig) (now : ℚ) (key : Key)
    (c : AdmissionController) : (pruneTokenEvents budget now key c).tokenEvents =
      Function.update c.tokenEvents key
        (expire Prod.fst budget.windowSeconds now (c.tokenEvents key)) := by
  simp only [pruneTokenEvents, dropOldTokenEvents_kept]

theorem TokenInv.prune {clock now : ℚ} {records : List (ℚ × ℤ)} {key : Key}
    {c : AdmissionController} (budget : TokenBudgetConfig)
    (h : TokenInv budget.windowSeconds clock records key c) (hc : clock ≤ now) :
    TokenInv budget.windowSeconds now records key (pruneTokenEvents budget now key c) := by
  have hevents : (pruneTokenEvents budget now key c).tokenEvents key =
      expire Prod.fst budget.windowSeconds now (c.tokenEvents key) := by
    rw [pruneTokenEvents_events, Function.update_self]
  have hsum := dropOldTokenEvents_sum now budget.windowSeconds (c.tokenEvents key)
  have hle := h.removed_le now
  refine ⟨hevents ▸ h.retained.expire hc, ?_, ?_⟩
  · rw [hevents]
    intro e he
    exact h.positive e ((List.dropWhile_sublist _).mem he)
  · rw [hevents, ← dropOldTokenEvents_kept]
    rw [h.total] at hle
    by_cases hzero : (dropOldTokenEvents now budget.windowSeconds (c.tokenEvents key)).1 = 0
    · simp only [pruneTokenEvents, hzero, if_true, h.total]
      omega
    · simp only [pruneTokenEvents, hzero, if_false, Function.update_self, h.total]
      omega

theorem pruneTokenEvents_other (budget : TokenBudgetConfig) (now : ℚ) {key other : Key}
    (c : AdmissionController) (h : other ≠ key) :
    (pruneTokenEvents budget now key c).tokenEvents other = c.tokenEvents other ∧
      (pruneTokenEvents budget now key c).tokenTotals other = c.tokenTotals other := by
  refine ⟨by rw [pruneTokenEvents_events, Function.update_of_ne h], ?_⟩
  by_cases hzero : (dropOldTokenEvents now budget.windowSeconds (c.tokenEvents key)).1 = 0
  · simp only [pruneTokenEvents, hzero, if_true]
  · simp only [pruneTokenEvents, hzero, if_false, Function.update_of_ne h]

section
variable {config : AdmissionControlConfig} {budget : TokenBudgetConfig} {key : Key}
  {clock now : ℚ} {records : List (ℚ × ℤ)} {c : AdmissionController}

theorem settle_inv (hbudget : tokenBudget config key.1 key.2 = some budget) (touched : Key)
    (h : TokenInv budget.windowSeconds clock records key c) (hc : clock ≤ now) :
    TokenInv budget.windowSeconds now records key (settle config now touched c) := by
  by_cases htouched : touched = key
  · subst htouched
    simp only [settle, hbudget]
    exact h.prune budget hc
  · simp only [settle]
    split
    · exact h.later hc
    · rename_i other _
      obtain ⟨hevents, htotal⟩ := pruneTokenEvents_other other now c (Ne.symm htouched)
      exact (h.later hc).congr hevents htotal

theorem acquire_inv (hbudget : tokenBudget config key.1 key.2 = some budget)
    (department modelName : String) (endpoint : Endpoint)
    (h : TokenInv budget.windowSeconds clock records key c) (hc : clock ≤ now) :
    TokenInv budget.windowSeconds now records key
      (acquire config now department modelName endpoint c).2.1 := by
  have hsettled := settle_inv hbudget (department, modelName) h hc
  obtain ⟨_, heq⟩ | ⟨_, _, _, c₁, _, hc₁, _, heq⟩ | ⟨_, heq⟩ :=
    acquire_cases config now department modelName endpoint c
  · rw [heq]
    exact h.later hc
  · rw [heq]
    rcases hc₁ with rfl | rfl
    · exact h.later hc
    · exact hsettled
  · rw [heq]
    exact hsettled.congr rfl rfl

theorem release_inv {window : ℚ} (lease : Option AdmissionLease)
    (h : TokenInv window clock records key c) (hc : clock ≤ now) :
    TokenInv window now records key (release lease c).1 := by
  cases lease with
  | none => exact h.later hc
  | some lease => exact (h.later hc).congr rfl rfl

theorem recordRetryEvent_inv {window : ℚ} (department modelName : String)
    (h : TokenInv window clock records key c) (hc : clock ≤ now) :
    TokenInv window now records key (recordRetryEvent config now department modelName c).1 := by
  simp only [recordRetryEvent]
  split_ifs
  · exact h.later hc
  · exact h.later hc
  · exact (h.later hc).congr rfl rfl
  · exact (h.later hc).congr rfl rfl

/-- A positive amount for the pair is pushed, any other call records nothing. -/
theorem recordTokens_inv (henabled : config.enabled = true)
    (hbudget : tokenBudget config key.1 key.2 = some budget) (department modelName : String)
    (tokens : ℤ) (h : TokenInv budget.windowSeconds clock records key c) (hc : clock ≤ now) :
    TokenInv budget.windowSeconds now
      (records ++ tokenRecords key [(now, .recordTokens department modelName tokens)]) key
      (recordTokens config now department modelName tokens c) := by
  by_cases hpos : 0 < tokens
  · have hskip : (!config.enabled || decide (tokens ≤ 0)) = false := by
      simp only [henabled, Bool.not_true, Bool.false_or, decide_eq_false_iff_not, not_le, hpos]
    by_cases hkey : (department, modelName) = key
    · subst hkey
      have hpruned := h.prune budget hc
      dsimp only at hbudget
      simp only [recordTokens, hskip, Bool.false_eq_true, if_false, hbudget, tokenRecords,
        List.filterMap_cons, List.filterMap_nil, hpos, and_self, if_true]
      refine ⟨?_, ?_, ?_⟩
      · simpa only [Function.update_self] using hpruned.retained.push (now, tokens) le_rfl
      · simp only [Function.update_self, List.mem_append, List.mem_singleton]
        rintro e (he | rfl)
        · exact hpruned.positive e he
        · exact hpos
      · have hone : tokenSum [(now, tokens)] = tokens := by simp [tokenSum]
        simp only [Function.update_self, tokenSum_append, hpruned.total, hone]
    · have hnone : tokenRecords key [(now, .recordTokens department modelName tokens)] = [] := by
        simp only [tokenRecords, List.filterMap_cons, List.filterMap_nil, hkey, false_and, if_false]
      rw [hnone, List.append_nil]
      simp only [recordTokens, hskip, Bool.false_eq_true, if_false]
      split
      · exact h.later hc
      · rename_i other _
        obtain ⟨hevents, htotal⟩ := pruneTokenEvents_other other now c (Ne.symm hkey)
        refine (h.later hc).congr ?_ ?_
        · simp only [Function.update_of_ne (Ne.symm hkey), hevents]
        · simp only [Function.update_of_ne (Ne.symm hkey), htotal]
  · have hnone : tokenRecords key [(now, .recordTokens department modelName tokens)] = [] := by
      simp only [tokenRecords, List.filterMap_cons, List.filterMap_nil, hpos, and_false, if_false]
    have hskip : (!config.enabled || decide (tokens ≤ 0)) = true := by
      simp only [not_lt.mp hpos, decide_true, Bool.or_true]
    rw [hnone, List.append_nil]
    simp only [recordTokens, hskip, if_true]
    exact h.later hc

theorem apply_inv (henabled : config.enabled = true)
    (hbudget : tokenBudget config key.1 key.2 = some budget) (op : AdmissionOp)
    (h : TokenInv budget.windowSeconds clock records key c) (hc : clock ≤ now) :
    TokenInv budget.windowSeconds now (records ++ tokenRecords key [(now, op)]) key
      (apply config now c op).1 := by
  cases op with
  | checkRequestShape department modelName endpoint bodySize payload =>
    simpa only [apply, tokenRecords, List.filterMap_cons, List.filterMap_nil, List.append_nil]
      using h.later hc
  | acquire department modelName endpoint =>
    simpa only [apply, tokenRecords, List.filterMap_cons, List.filterMap_nil, List.append_nil]
      using acquire_inv hbudget department modelName endpoint h hc
  | release lease =>
    simpa only [apply, tokenRecords, List.filterMap_cons, List.filterMap_nil, List.append_nil]
      using release_inv lease h hc
  | recordTokens department modelName tokens =>
    exact recordTokens_inv henabled hbudget department modelName tokens h hc
  | recordRetryEvent department modelName =>
    simpa only [apply, tokenRecords, List.filterMap_cons, List.filterMap_nil, List.append_nil]
      using recordRetryEvent_inv department modelName h hc

theorem replay_inv (henabled : config.enabled = true)
    (hbudget : tokenBudget config key.1 key.2 = some budget) (history : History)
    (hchrono : Chronological history) (clock : ℚ) (hpast : ∀ call ∈ history, call.1 ≤ clock) :
    TokenInv budget.windowSeconds clock (tokenRecords key history) key (replay config history) := by
  induction history using List.reverseRecOn generalizing clock with
  | nil => exact ⟨.nil _ _ _, by simp [replay, initial], rfl⟩
  | append_singleton history call ih =>
    obtain ⟨now, op⟩ := call
    have hnow : now ≤ clock := hpast (now, op) (by simp)
    have hprev := ih hchrono.init now hchrono.last
    rw [tokenRecords_append, replay_append]
    exact (apply_inv henabled hbudget op hprev le_rfl).later hnow

end

/-- With admission control off no call touches a deque or a total. -/
theorem replay_disabled {config : AdmissionControlConfig} (h : config.enabled = false)
    (history : History) : (replay config history).tokenEvents = (fun _ => []) ∧
      (replay config history).tokenTotals = fun _ => 0 := by
  induction history using List.reverseRecOn with
  | nil => exact ⟨rfl, rfl⟩
  | append_singleton history call ih =>
    obtain ⟨now, op⟩ := call
    rw [replay_append]
    cases op with
    | checkRequestShape => exact ih
    | acquire => simpa only [apply, acquire, h, Bool.not_false, if_true] using ih
    | release lease => cases lease <;> exact ih
    | recordTokens => simpa only [apply, recordTokens, h, Bool.not_false, Bool.true_or, if_true] using ih
    | recordRetryEvent =>
      simpa only [apply, recordRetryEvent, h, Bool.not_false, Bool.true_or, if_true] using ih

/-- The settled total is the sum over the window of the full history. -/
theorem settle_total {config : AdmissionControlConfig} {budget : TokenBudgetConfig} {key : Key}
    (henabled : config.enabled = true) (hbudget : tokenBudget config key.1 key.2 = some budget)
    (history : History) (hchrono : Chronological history) (now : ℚ)
    (hpast : ∀ call ∈ history, call.1 ≤ now) :
    (settle config now key (replay config history)).tokenTotals key =
      recordedWithin key budget.windowSeconds now history := by
  have hinv := replay_inv henabled hbudget history hchrono now hpast
  have hsettled : settle config now key (replay config history) =
      pruneTokenEvents budget now key (replay config history) := by
    simp only [settle, hbudget]
  rw [hsettled, (hinv.prune budget le_rfl).total, pruneTokenEvents_events, Function.update_self,
    hinv.retained.expire_eq le_rfl]
  rfl

/-- The running total is the deque's sum, the clamp in the pruning is idle, and
a call that gets as far as the budget check is refused exactly when the tokens
of the last `windowSeconds` have reached `maxTokens`. -/
theorem token_budget_is_sliding_window (config : AdmissionControlConfig)
    (department modelName : String) (endpoint : Endpoint) (budget : TokenBudgetConfig)
    (hbudget : tokenBudget config department modelName = some budget) (history : History)
    (hchrono : Chronological history) (now : ℚ) (hpast : ∀ call ∈ history, call.1 ≤ now) :
    let key : Key := (department, modelName)
    let c := replay config history
    c.tokenTotals key = ((c.tokenEvents key).map Prod.snd).sum ∧
    (dropOldTokenEvents now budget.windowSeconds (c.tokenEvents key)).1 ≤ c.tokenTotals key ∧
    (ReachesBudgetCheck config now key c →
      ((∃ error, (acquire config now department modelName endpoint c).1 =
          .error ⟨.tokenBudget, error⟩) ↔
        budget.maxTokens ≤ recordedWithin key budget.windowSeconds now history)) := by
  intro key c
  have hkeyBudget : tokenBudget config key.1 key.2 = some budget := hbudget
  by_cases henabled : config.enabled = true
  · have hinv := replay_inv henabled hkeyBudget history hchrono now hpast
    refine ⟨hinv.total, hinv.removed_le now, ?_⟩
    intro hreaches
    have htotal := settle_total henabled hkeyBudget history hchrono now hpast
    have hspent : budgetSpent config key (settle config now key c) =
        decide (budget.maxTokens ≤ recordedWithin key budget.windowSeconds now history) := by
      simp only [budgetSpent, hbudget, key, c] at htotal ⊢
      rw [htotal]
    rw [acquire_of_reaches config now department modelName endpoint c hreaches, hspent]
    by_cases hwindow : budget.maxTokens ≤ recordedWithin key budget.windowSeconds now history
    · simp only [hwindow, decide_true, if_true, rejectAcquire, iff_true]
      exact ⟨_, rfl⟩
    · simp only [hwindow, decide_false, Bool.false_eq_true, if_false, iff_false, grantLease]
      rintro ⟨_, herror⟩
      cases herror
  · obtain ⟨hevents, htotals⟩ := replay_disabled (by simpa using henabled) history
    refine ⟨?_, ?_, fun hreaches => absurd hreaches.enabled henabled⟩
    · simp only [c, hevents, htotals, List.map_nil, List.sum_nil]
    · simp only [c, hevents, htotals, dropOldTokenEvents, le_refl]

/-! The first record is exactly one window old and still counts. -/

def twoRecords : History :=
  [(0, .recordTokens "research" "llama" 7), (50, .recordTokens "research" "llama" 5)]

theorem token_budget_twoRecords :
    ∃ error, (acquire sampleAdmission 60 "research" "llama" .chatCompletions
      (replay sampleAdmission twoRecords)).1 = .error ⟨.tokenBudget, error⟩ := by
  have hwindow := token_budget_is_sliding_window sampleAdmission "research" "llama"
    .chatCompletions ⟨"research", "llama", 10, 60, by decide, by decide⟩ rfl twoRecords
    (by unfold Chronological; decide +kernel) 60 (by decide +kernel)
  refine (hwindow.2.2 ⟨rfl, ?_, ?_, ?_⟩).mpr ?_ <;> decide +kernel

end VllmSourceGateway.AdmissionTokenWindow
