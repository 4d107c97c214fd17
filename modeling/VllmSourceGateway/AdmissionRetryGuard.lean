import VllmSourceGateway.AdmissionControl
import VllmSourceGateway.SlidingWindow

set_option autoImplicit false

/-! The retry guard against its specification on the full history: no pruning,
no deadline, only the times of the key's events and of its openings. -/
namespace VllmSourceGateway.AdmissionRetryGuard
open Config Metrics UsageExtractors AdmissionControl SlidingWindow

/-- `counted` holds the counted events since the last opening. -/
structure GuardHistory where
  counted : List ℚ
  openings : List ℚ

def counts (guard : RetryGuardConfig) (g : GuardHistory) (t : ℚ) : Bool :=
  match g.openings.getLast? with
  | none => true
  | some o => o + guard.cooldownSeconds ≤ t

/-- Whether an event at `t` opens the guard: it counts, and with it enough
counted events lie in the window. -/
def opensAt (guard : RetryGuardConfig) (g : GuardHistory) (t : ℚ) : Bool :=
  counts guard g t &&
    decide (guard.maxEvents ≤
      ((g.counted ++ [t]).filter fun s => decide (t - s ≤ guard.windowSeconds)).length)

def observe (guard : RetryGuardConfig) (g : GuardHistory) (t : ℚ) : GuardHistory :=
  if opensAt guard g t then ⟨[], g.openings ++ [t]⟩
  else if counts guard g t then ⟨g.counted ++ [t], g.openings⟩
  else g

def isRetryEvent (key : Key) : AdmissionOp → Bool
  | .recordRetryEvent department modelName => (department, modelName) = key
  | _ => false

/-- The guard keeps no events while it or the whole controller is off. -/
def guardActive (config : AdmissionControlConfig) : Bool :=
  config.enabled && config.retryGuard.enabled

def retryTimes (config : AdmissionControlConfig) (key : Key) (history : History) : List ℚ :=
  if guardActive config then (history.filter fun call => isRetryEvent key call.2).map Prod.fst
  else []

def guardHistory (config : AdmissionControlConfig) (key : Key) (history : History) : GuardHistory :=
  (retryTimes config key history).foldl (observe config.retryGuard) ⟨[], []⟩

structure GuardInv (guard : RetryGuardConfig) (clock : ℚ) (g : GuardHistory) (key : Key)
    (c : AdmissionController) : Prop where
  retained : Retained (fun t : ℚ => t) guard.windowSeconds clock g.counted (c.retryEvents key)
  deadline : c.cooldownUntil key = g.openings.getLast?.map (· + guard.cooldownSeconds)
  spaced : g.openings.Pairwise fun o o' => o + guard.cooldownSeconds ≤ o'

section
variable {config : AdmissionControlConfig} {guard : RetryGuardConfig} {key : Key}
  {clock now : ℚ} {g : GuardHistory} {c c' : AdmissionController}

theorem GuardInv.later (h : GuardInv guard clock g key c) (hc : clock ≤ now) :
    GuardInv guard now g key c :=
  ⟨h.retained.later hc, h.deadline, h.spaced⟩

theorem GuardInv.congr (h : GuardInv guard clock g key c)
    (hdeadline : c'.cooldownUntil key = c.cooldownUntil key)
    (hevents : c'.retryEvents key = c.retryEvents key) : GuardInv guard clock g key c' :=
  ⟨hevents ▸ h.retained, hdeadline ▸ h.deadline, h.spaced⟩

/-- The deadline comparison is the specification's. A clock reading below zero
would pass the default deadline `0.0`. -/
theorem GuardInv.cooling_iff (h : GuardInv guard clock g key c) (hnow : 0 ≤ now) :
    now < (c.cooldownUntil key).getD 0 ↔
      ∃ o, g.openings.getLast? = some o ∧ now < o + guard.cooldownSeconds := by
  rw [h.deadline]
  cases g.openings.getLast? with
  | none => simp [hnow]
  | some o => simp

theorem GuardInv.counts_iff (h : GuardInv guard clock g key c) (hnow : 0 ≤ now) :
    counts guard g now = true ↔ (c.cooldownUntil key).getD 0 ≤ now := by
  rw [h.deadline]
  simp only [counts]
  cases g.openings.getLast? with
  | none => simp [hnow]
  | some o => simp

/-- The pruned deque with the new event is the window of the full history. -/
theorem GuardInv.events_eq (h : GuardInv guard clock g key c) (hc : clock ≤ now) :
    (c.retryEvents key).dropWhile (fun t => decide (guard.windowSeconds < now - t)) ++ [now] =
      (g.counted ++ [now]).filter fun s => decide (now - s ≤ guard.windowSeconds) := by
  have hkept := h.retained.expire_eq hc
  simp only [SlidingWindow.expire, within] at hkept
  have hself : now - now ≤ guard.windowSeconds := by
    rw [sub_self]
    exact guard.windowSeconds_pos.le
  rw [hkept, List.filter_append]
  simp only [List.filter_cons, hself, decide_true, if_true, List.filter_nil]

/-- One `record_retry_event` of the key, with the guard in force. -/
theorem recordRetryEvent_eq (hactive : guardActive config = true) (department modelName : String)
    (h : GuardInv config.retryGuard clock g (department, modelName) c) (hc : clock ≤ now)
    (hnow : 0 ≤ now) :
    recordRetryEvent config now department modelName c =
      if opensAt config.retryGuard g now then
        ({ c with
            cooldownUntil := Function.update c.cooldownUntil (department, modelName)
              (some (now + config.retryGuard.cooldownSeconds))
            retryEvents := Function.update c.retryEvents (department, modelName) [] },
          [.retryGuardOpen department modelName])
      else if counts config.retryGuard g now then
        ({ c with
            retryEvents := Function.update c.retryEvents (department, modelName)
              ((c.retryEvents (department, modelName)).dropWhile
                (fun t => decide (config.retryGuard.windowSeconds < now - t)) ++ [now]) }, [])
      else (c, []) := by
  have hoff : (!config.enabled || !config.retryGuard.enabled) = false := by
    simpa [guardActive, Bool.and_eq_true] using hactive
  simp only [recordRetryEvent, hoff, Bool.false_eq_true, if_false]
  by_cases hcounts : counts config.retryGuard g now = true
  · have hdeadline := (h.counts_iff hnow).mp hcounts
    have hopen : opensAt config.retryGuard g now =
        decide (config.retryGuard.maxEvents ≤
          (((c.retryEvents (department, modelName)).dropWhile
            (fun t => decide (config.retryGuard.windowSeconds < now - t)) ++ [now]).length : ℤ)) := by
      rw [h.events_eq hc]
      simp only [opensAt, hcounts, Bool.true_and]
    simp only [not_lt.mpr hdeadline, if_false, hdeadline, and_true, hopen, decide_eq_true_eq,
      hcounts, if_true]
  · have hcooling : now < (c.cooldownUntil (department, modelName)).getD 0 := by
      rw [← not_le, ← h.counts_iff hnow]
      exact hcounts
    have hopen : opensAt config.retryGuard g now = false := by
      simp only [opensAt, hcounts, Bool.false_and]
    simp only [hcooling, if_true, hopen, Bool.false_eq_true, if_false, hcounts]

theorem GuardInv.observe_opens (h : GuardInv guard clock g key c)
    (hcounts : counts guard g now = true)
    (hdeadline : c'.cooldownUntil key = some (now + guard.cooldownSeconds))
    (hevents : c'.retryEvents key = []) :
    GuardInv guard now ⟨[], g.openings ++ [now]⟩ key c' := by
  refine ⟨by rw [hevents]; exact .nil _ _ _, ?_, ?_⟩
  · simpa using hdeadline
  · refine List.pairwise_append.mpr ⟨h.spaced, List.pairwise_singleton _ _, ?_⟩
    intro o ho o' ho'
    rw [List.mem_singleton.mp ho']
    obtain ⟨earlier, last, hsplit⟩ := List.eq_nil_or_concat g.openings |>.resolve_left
      (List.ne_nil_of_mem ho)
    rw [List.concat_eq_append] at hsplit
    have hlast : last + guard.cooldownSeconds ≤ now := by
      simpa [counts, hsplit] using hcounts
    rw [hsplit] at ho
    rcases List.mem_append.mp ho with ho | ho
    · have hgap := (List.pairwise_append.mp (hsplit ▸ h.spaced)).2.2 o ho last (by simp)
      linarith [guard.cooldownSeconds_pos]
    · rwa [List.mem_singleton.mp ho]

theorem recordRetryEvent_inv (hactive : guardActive config = true) (department modelName : String)
    (h : GuardInv config.retryGuard clock g (department, modelName) c) (hc : clock ≤ now)
    (hnow : 0 ≤ now) :
    GuardInv config.retryGuard now (observe config.retryGuard g now) (department, modelName)
      (recordRetryEvent config now department modelName c).1 := by
  rw [recordRetryEvent_eq hactive department modelName h hc hnow]
  simp only [observe]
  by_cases hopen : opensAt config.retryGuard g now = true
  · have hcounts : counts config.retryGuard g now = true := by
      simp only [opensAt, Bool.and_eq_true] at hopen
      exact hopen.1
    simp only [hopen, if_true]
    exact h.observe_opens hcounts (Function.update_self ..) (Function.update_self ..)
  · simp only [hopen, Bool.false_eq_true, if_false]
    by_cases hcounts : counts config.retryGuard g now = true
    · simp only [hcounts, if_true]
      refine ⟨?_, h.deadline, h.spaced⟩
      simp only [Function.update_self]
      exact (h.retained.expire hc).push now le_rfl
    · simp only [hcounts, Bool.false_eq_true, if_false]
      exact h.later hc

/-! ## Nothing else moves the guard of a key -/

theorem settle_guard (config : AdmissionControlConfig) (now : ℚ) (touched : Key)
    (c : AdmissionController) :
    (settle config now touched c).cooldownUntil = c.cooldownUntil ∧
      (settle config now touched c).retryEvents = c.retryEvents := by
  simp only [settle]
  split <;> exact ⟨rfl, rfl⟩

theorem apply_guard_other (now : ℚ) (c : AdmissionController) (op : AdmissionOp)
    (h : (isRetryEvent key op && guardActive config) = false) :
    (apply config now c op).1.cooldownUntil key = c.cooldownUntil key ∧
      (apply config now c op).1.retryEvents key = c.retryEvents key := by
  cases op with
  | checkRequestShape => exact ⟨rfl, rfl⟩
  | acquire department modelName endpoint =>
    obtain ⟨hcooldown, hevents⟩ := settle_guard config now (department, modelName) c
    simp only [apply]
    obtain ⟨_, heq⟩ | ⟨_, _, _, c₁, _, hc₁, _, heq⟩ | ⟨_, heq⟩ :=
      acquire_cases config now department modelName endpoint c
    · rw [heq]
      exact ⟨rfl, rfl⟩
    · rw [heq]
      rcases hc₁ with rfl | rfl
      · exact ⟨rfl, rfl⟩
      · exact ⟨congrFun hcooldown key, congrFun hevents key⟩
    · rw [heq]
      exact ⟨congrFun hcooldown key, congrFun hevents key⟩
  | release lease => cases lease <;> exact ⟨rfl, rfl⟩
  | recordTokens department modelName tokens =>
    simp only [apply, recordTokens]
    split
    · exact ⟨rfl, rfl⟩
    · split <;> exact ⟨rfl, rfl⟩
  | recordRetryEvent department modelName =>
    simp only [apply, recordRetryEvent]
    by_cases hkey : (department, modelName) = key
    · have hoff : (!config.enabled || !config.retryGuard.enabled) = true := by
        simpa [isRetryEvent, hkey, guardActive, imp_iff_not_or] using h
      rw [if_pos hoff]
      exact ⟨rfl, rfl⟩
    · split_ifs
      · exact ⟨rfl, rfl⟩
      · exact ⟨rfl, rfl⟩
      · exact ⟨Function.update_of_ne (Ne.symm hkey) _ _, Function.update_of_ne (Ne.symm hkey) _ _⟩
      · exact ⟨rfl, Function.update_of_ne (Ne.symm hkey) _ _⟩

end

theorem retryTimes_append (config : AdmissionControlConfig) (key : Key) (xs ys : History) :
    retryTimes config key (xs ++ ys) = retryTimes config key xs ++ retryTimes config key ys := by
  simp only [retryTimes]
  split <;> simp

theorem guardHistory_append (config : AdmissionControlConfig) (key : Key) (xs ys : History) :
    guardHistory config key (xs ++ ys) =
      (retryTimes config key ys).foldl (observe config.retryGuard) (guardHistory config key xs) := by
  simp only [guardHistory, retryTimes_append, List.foldl_append]

theorem retryTimes_singleton (config : AdmissionControlConfig) (key : Key) (now : ℚ)
    (op : AdmissionOp) : retryTimes config key [(now, op)] =
      if isRetryEvent key op && guardActive config then [now] else [] := by
  cases hop : isRetryEvent key op <;> cases hactive : guardActive config <;>
    simp [retryTimes, hop, hactive]

/-- One operation of a history, on whatever key. -/
theorem apply_inv {config : AdmissionControlConfig} {key : Key} {clock now : ℚ} {g : GuardHistory}
    {c : AdmissionController} (op : AdmissionOp) (h : GuardInv config.retryGuard clock g key c)
    (hc : clock ≤ now) (hnow : 0 ≤ now) :
    GuardInv config.retryGuard now
      ((retryTimes config key [(now, op)]).foldl (observe config.retryGuard) g) key
      (apply config now c op).1 := by
  rw [retryTimes_singleton]
  by_cases hown : (isRetryEvent key op && guardActive config) = true
  · obtain ⟨hop, hactive⟩ := Bool.and_eq_true_iff.mp hown
    simp only [hown, if_true, List.foldl_cons, List.foldl_nil]
    cases op with
    | recordRetryEvent department modelName =>
      have hkey : (department, modelName) = key := by simpa [isRetryEvent] using hop
      subst hkey
      exact recordRetryEvent_inv hactive department modelName h hc hnow
    | _ => simp [isRetryEvent] at hop
  · have hother : (isRetryEvent key op && guardActive config) = false := by simpa using hown
    obtain ⟨hcooldown, hevents⟩ := apply_guard_other now c op hother
    simp only [hother, Bool.false_eq_true, if_false, List.foldl_nil]
    exact (h.later hc).congr hcooldown hevents

theorem replay_inv (config : AdmissionControlConfig) (key : Key) (history : History)
    (hchrono : Chronological history) (hnonneg : ∀ call ∈ history, 0 ≤ call.1) (clock : ℚ)
    (hpast : ∀ call ∈ history, call.1 ≤ clock) :
    GuardInv config.retryGuard clock (guardHistory config key history) key
      (replay config history) := by
  induction history using List.reverseRecOn generalizing clock with
  | nil =>
    have hempty : guardHistory config key [] = ⟨[], []⟩ := by
      simp [guardHistory, retryTimes]
    rw [hempty]
    exact ⟨.nil _ _ _, rfl, .nil⟩
  | append_singleton history call ih =>
    obtain ⟨now, op⟩ := call
    have hnow : now ≤ clock := hpast (now, op) (by simp)
    have hprev := ih hchrono.init (fun call hcall => hnonneg call (by simp [hcall])) now hchrono.last
    rw [guardHistory_append, replay_append]
    exact (apply_inv op hprev le_rfl (hnonneg (now, op) (by simp))).later hnow

/-- What a retry event does to its key depends on that key's state only. -/
theorem recordRetryEvent_congr (config : AdmissionControlConfig) (now : ℚ)
    (department modelName : String) {c c' : AdmissionController}
    (hdeadline : c.cooldownUntil (department, modelName) = c'.cooldownUntil (department, modelName))
    (hevents : c.retryEvents (department, modelName) = c'.retryEvents (department, modelName)) :
    (recordRetryEvent config now department modelName c).1.cooldownUntil (department, modelName) =
        (recordRetryEvent config now department modelName c').1.cooldownUntil (department, modelName) ∧
      (recordRetryEvent config now department modelName c).1.retryEvents (department, modelName) =
        (recordRetryEvent config now department modelName c').1.retryEvents (department, modelName) := by
  simp only [recordRetryEvent, hdeadline, hevents]
  split_ifs
  · exact ⟨hdeadline, hevents⟩
  · exact ⟨hdeadline, hevents⟩
  · simp only [Function.update_self, and_self]
  · simp only [Function.update_self, hdeadline, and_self]

/-- The key's guard state is that of the history of its own retry events. -/
theorem replay_own_events (config : AdmissionControlConfig) (key : Key) (history : History) :
    (replay config (history.filter fun call => isRetryEvent key call.2)).cooldownUntil key =
        (replay config history).cooldownUntil key ∧
      (replay config (history.filter fun call => isRetryEvent key call.2)).retryEvents key =
        (replay config history).retryEvents key := by
  induction history using List.reverseRecOn with
  | nil => exact ⟨rfl, rfl⟩
  | append_singleton history call ih =>
    obtain ⟨now, op⟩ := call
    rw [List.filter_append, replay_append]
    by_cases hop : isRetryEvent key op = true
    · simp only [List.filter_cons, hop, if_true, List.filter_nil, replay_append]
      cases op with
      | recordRetryEvent department modelName =>
        have hkey : (department, modelName) = key := by simpa [isRetryEvent] using hop
        subst hkey
        exact recordRetryEvent_congr config now department modelName ih.1 ih.2
      | _ => simp [isRetryEvent] at hop
    · have hother : (isRetryEvent key op && guardActive config) = false := by simp [hop]
      obtain ⟨hcooldown, hevents⟩ := apply_guard_other now (replay config history) op hother
      simp only [List.filter_cons, hop, Bool.false_eq_true, if_false, List.filter_nil,
        List.append_nil, hcooldown, hevents]
      exact ih

theorem acquire_guard_iff (config : AdmissionControlConfig) (now : ℚ)
    (department modelName : String) (endpoint : Endpoint) (c : AdmissionController) :
    (∃ error, (acquire config now department modelName endpoint c).1 =
        .error ⟨.retryGuardOpen, error⟩) ↔
      config.enabled = true ∧ now < (c.cooldownUntil (department, modelName)).getD 0 := by
  by_cases henabled : config.enabled = true
  · by_cases hguard : now < (c.cooldownUntil (department, modelName)).getD 0
    · simp [acquire, henabled, hguard, rejectAcquire]
    · simp only [hguard, and_false, iff_false]
      by_cases hreaches : ReachesBudgetCheck config now (department, modelName) c
      · rw [acquire_of_reaches config now department modelName endpoint c hreaches]
        split <;> simp [rejectAcquire, grantLease]
      · simp only [acquire, henabled, Bool.not_true, Bool.false_eq_true, if_false, hguard]
        split_ifs
        · simp [rejectAcquire]
        · simp [rejectAcquire]
        · split
          · simp [grantLease]
          · split <;> simp [rejectAcquire, grantLease]
  · have hoff : config.enabled = false := by simpa using henabled
    simp [acquire, hoff]

/-- `record_retry_event` opens the guard exactly when the full history says so,
`acquire` refuses with it exactly within the cooldown of the last opening,
openings are a cooldown apart, and only the key's own retry events matter. -/
theorem retry_guard_follows_full_history (config : AdmissionControlConfig)
    (department modelName : String) (endpoint : Endpoint) (history : History)
    (hchrono : Chronological history) (hnonneg : ∀ call ∈ history, 0 ≤ call.1) (now : ℚ)
    (hpast : ∀ call ∈ history, call.1 ≤ now) (hnow : 0 ≤ now) :
    let key : Key := (department, modelName)
    let c := replay config history
    let g := guardHistory config key history
    let called := recordRetryEvent config now department modelName c
    let cooldown := config.retryGuard.cooldownSeconds
    let own := history.filter (fun call => isRetryEvent key call.2)
    (if guardActive config && opensAt config.retryGuard g now then
        called.2 = [.retryGuardOpen department modelName] ∧
          called.1.cooldownUntil key = some (now + cooldown)
      else called.2 = [] ∧ called.1.cooldownUntil key = c.cooldownUntil key) ∧
    ((∃ error, (acquire config now department modelName endpoint c).1 =
        .error ⟨.retryGuardOpen, error⟩) ↔
      ∃ o, g.openings.getLast? = some o ∧ now < o + cooldown) ∧
    g.openings.Pairwise (fun o o' => o + cooldown ≤ o') ∧
    (replay config own).cooldownUntil key = c.cooldownUntil key ∧
    (replay config own).retryEvents key = c.retryEvents key := by
  intro key c g called cooldown own
  have hinv := replay_inv config key history hchrono hnonneg now hpast
  refine ⟨?_, ?_, hinv.spaced, replay_own_events config key history⟩
  · by_cases hactive : guardActive config = true
    · simp only [called]
      rw [recordRetryEvent_eq hactive department modelName hinv le_rfl hnow]
      simp only [hactive, Bool.true_and]
      by_cases hopen : opensAt config.retryGuard g now = true
      · simp only [g, key] at hopen
        simp only [g, key, hopen, if_true, Function.update_self, cooldown, and_self]
      · simp only [g, key] at hopen
        simp only [g, key, hopen, Bool.false_eq_true, if_false]
        split <;> exact ⟨rfl, rfl⟩
    · have hoff : (!config.enabled || !config.retryGuard.enabled) = true := by
        simpa [guardActive, imp_iff_not_or] using hactive
      simp only [hactive, Bool.false_and, Bool.false_eq_true, if_false, called, recordRetryEvent,
        hoff, if_true, c, and_self]
  · rw [acquire_guard_iff]
    by_cases henabled : config.enabled = true
    · simp only [henabled, true_and]
      exact hinv.cooling_iff hnow
    · have hempty : g = ⟨[], []⟩ := by
        simp [g, guardHistory, retryTimes, guardActive, henabled]
      simp [henabled, hempty]

/-! The third event opens the guard, which is still open a second before the end
of the cooldown. -/

def threeEvents : History :=
  [(0, .recordRetryEvent "research" "llama"), (10, .recordRetryEvent "research" "llama"),
    (20, .recordRetryEvent "research" "llama")]

theorem retry_guard_threeEvents :
    ∃ error, (acquire sampleAdmission 49 "research" "llama" .chatCompletions
      (replay sampleAdmission threeEvents)).1 = .error ⟨.retryGuardOpen, error⟩ := by
  have hguard := retry_guard_follows_full_history sampleAdmission "research" "llama"
    .chatCompletions threeEvents (by unfold Chronological; decide +kernel) (by decide +kernel) 49
    (by decide +kernel) (by decide +kernel)
  exact hguard.2.1.mpr ⟨20, by decide +kernel, by decide +kernel⟩

end VllmSourceGateway.AdmissionRetryGuard
