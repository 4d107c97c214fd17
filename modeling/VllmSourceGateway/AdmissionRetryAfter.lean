import VllmSourceGateway.AdmissionRetryGuard

set_option autoImplicit false

/-! Whether a client that waits as long as `Retry-After` says finds the guard
closed. The header is the remaining cooldown rounded down, and at least 1. -/
namespace VllmSourceGateway.AdmissionRetryAfter
open PyValues Config Metrics UsageExtractors AdmissionControl AdmissionRetryGuard

def retryGuardRejected (result : Except Rejection (Option AdmissionLease)) : Prop :=
  ∃ error, result = .error ⟨.retryGuardOpen, error⟩

def cooldownDeadline (config : AdmissionControlConfig) (history : History) (key : Key) : ℚ :=
  ((replay config history).cooldownUntil key).getD 0

/-- Rounding down loses nothing: less than the least header is left, or whole
seconds. -/
def RoundingExact (remaining : ℚ) : Prop := remaining ≤ 1 ∨ ∃ seconds : ℤ, remaining = seconds

/-- After the call at `now` and any others but retry events of the key, no call from
`now + retryAfter` on is refused by the guard. -/
def Sufficient (config : AdmissionControlConfig) (history : History) (now : ℚ) (key : Key)
    (retryAfter : ℤ) : Prop :=
  ∀ (later : History) (now' : ℚ) (endpoint : Endpoint),
    (∀ call ∈ later, isRetryEvent key call.2 = false) → now + retryAfter ≤ now' →
      ¬ retryGuardRejected
        (acquire config now' key.1 key.2 endpoint (replay config (history ++ later))).1

theorem le_header_iff (remaining : ℚ) :
    remaining ≤ (max 1 ⌊remaining⌋ : ℤ) ↔ RoundingExact remaining := by
  rw [Int.cast_max, Int.cast_one, le_max_iff]
  refine or_congr_right ⟨fun h => ⟨⌊remaining⌋, h.antisymm (Int.floor_le remaining)⟩, ?_⟩
  rintro ⟨seconds, rfl⟩
  rw [Int.floor_intCast]

section
variable {config : AdmissionControlConfig} {key : Key}

theorem retryGuardRejected_iff (now : ℚ) (endpoint : Endpoint) (history : History) :
    retryGuardRejected (acquire config now key.1 key.2 endpoint (replay config history)).1 ↔
      config.enabled = true ∧ now < cooldownDeadline config history key :=
  acquire_guard_iff config now key.1 key.2 endpoint (replay config history)

/-- Only the key's retry events move its deadline. -/
theorem cooldownDeadline_append (history : History) {later : History}
    (hother : ∀ call ∈ later, isRetryEvent key call.2 = false) :
    cooldownDeadline config (history ++ later) key = cooldownDeadline config history key := by
  induction later using List.reverseRecOn with
  | nil => rw [List.append_nil]
  | append_singleton later call ih =>
    rw [← ih fun earlier hearlier => hother earlier (List.mem_append_left _ hearlier)]
    have hcall : (isRetryEvent key call.2 && guardActive config) = false := by
      rw [hother call (by simp), Bool.false_and]
    rw [← List.append_assoc, cooldownDeadline, replay_append,
      (apply_guard_other call.1 (replay config (history ++ later)) call.2 hcall).1]
    rfl

theorem sufficient_iff (henabled : config.enabled = true) (history : History) (now : ℚ)
    (retryAfter : ℤ) : Sufficient config history now key retryAfter ↔
      cooldownDeadline config history key ≤ now + retryAfter := by
  constructor
  · intro hserved
    have hnow := hserved [] (now + retryAfter) .chatCompletions (List.forall_mem_nil _) le_rfl
    rw [retryGuardRejected_iff, List.append_nil, not_and, not_lt] at hnow
    exact hnow henabled
  · intro hdeadline later now' endpoint hother hlater
    rw [retryGuardRejected_iff, cooldownDeadline_append history hother, not_and, not_lt]
    exact fun _ => hdeadline.trans hlater

end

/-- In every state that calls lead to: a refusal by the guard names a time after
which it no longer refuses exactly if the rounding is exact, that is, if the named
time is not before the deadline. -/
theorem retry_after_sufficient_iff (config : AdmissionControlConfig) (history : History) (now : ℚ)
    (department modelName : String) (endpoint : Endpoint) (error : HttpException)
    (hrejected : (acquire config now department modelName endpoint (replay config history)).1 =
      .error ⟨.retryGuardOpen, error⟩) :
    ∃ retryAfter : ℤ, error.retryAfter = some retryAfter ∧
      (Sufficient config (history ++ [(now, .acquire department modelName endpoint)]) now
          (department, modelName) retryAfter ↔
        RoundingExact (cooldownDeadline config history (department, modelName) - now)) ∧
      (cooldownDeadline config history (department, modelName) ≤ now + retryAfter ↔
        RoundingExact (cooldownDeadline config history (department, modelName) - now)) := by
  obtain ⟨henabled, hopen⟩ : config.enabled = true ∧
      now < cooldownDeadline config history (department, modelName) :=
    (retryGuardRejected_iff now endpoint history).mp ⟨error, hrejected⟩
  simp only [cooldownDeadline] at hopen
  simp only [acquire, henabled, Bool.not_true, Bool.false_eq_true, if_false, hopen, if_true,
    rejectAcquire, Except.error.injEq, Rejection.mk.injEq, true_and] at hrejected
  subst hrejected
  have hdeadline (r : ℤ) : cooldownDeadline config history (department, modelName) ≤ now + r ↔
      cooldownDeadline config history (department, modelName) - now ≤ r := by
    rw [sub_le_iff_le_add']
  refine ⟨_, rfl, ?_, (hdeadline _).trans (le_header_iff _)⟩
  have hacquire : ∀ call ∈ [(now, AdmissionOp.acquire department modelName endpoint)],
      isRetryEvent (department, modelName) call.2 = false :=
    List.forall_mem_singleton.mpr rfl
  rw [sufficient_iff henabled, cooldownDeadline_append history hacquire]
  exact (hdeadline _).trans (le_header_iff _)

/-! The guard is open until 50: ten seconds before, the header says 10, and two and
a half seconds before, it says 2. -/

theorem threeEvents_rejected (now : ℚ) (h : now < 50) :
    retryGuardRejected (acquire sampleAdmission now "research" "llama" .chatCompletions
      (replay sampleAdmission threeEvents)).1 := by
  have hdeadline : cooldownDeadline sampleAdmission threeEvents ("research", "llama") = 50 := by
    decide +kernel
  exact (retryGuardRejected_iff now .chatCompletions threeEvents).mpr
    ⟨rfl, h.trans_eq hdeadline.symm⟩

theorem retry_after_sufficient_iff_tenSeconds :
    ∃ retryAfter, Sufficient sampleAdmission
      (threeEvents ++ [(40, .acquire "research" "llama" .chatCompletions)]) 40
      ("research", "llama") retryAfter := by
  obtain ⟨error, hrejected⟩ := threeEvents_rejected 40 (by decide +kernel)
  obtain ⟨retryAfter, _, hsufficient, _⟩ := retry_after_sufficient_iff sampleAdmission threeEvents
    40 "research" "llama" .chatCompletions error hrejected
  exact ⟨retryAfter, hsufficient.mpr (.inr ⟨10, by decide +kernel⟩)⟩

theorem retry_after_too_short :
    ¬ ∀ (config : AdmissionControlConfig) (history : History) (now : ℚ)
        (department modelName : String) (endpoint : Endpoint) (error : HttpException)
        (retryAfter : ℤ),
        (acquire config now department modelName endpoint (replay config history)).1 =
          .error ⟨.retryGuardOpen, error⟩ →
        error.retryAfter = some retryAfter →
        Sufficient config (history ++ [(now, .acquire department modelName endpoint)]) now
          (department, modelName) retryAfter := by
  intro h
  have hserved := h sampleAdmission threeEvents (95 / 2) "research" "llama" .chatCompletions
    (tooManyRequests "retry guard is open" 2) 2 (by decide +kernel) rfl [] (99 / 2) .chatCompletions
    (List.forall_mem_nil _) (by norm_num)
  refine hserved ?_
  rw [retryGuardRejected_iff]
  exact ⟨rfl, by decide +kernel⟩

end VllmSourceGateway.AdmissionRetryAfter
