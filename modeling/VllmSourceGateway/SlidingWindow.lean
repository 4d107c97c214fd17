import Mathlib

set_option autoImplicit false

/-! A queue of timed entries that is pruned from the front. As long as the clock
readings never go back, pruning late or often makes no difference: what a
pruned queue keeps in the window is what the full history has there. -/
namespace VllmSourceGateway.SlidingWindow

variable {T E : Type} [AddCommGroup T] [LinearOrder T]

/-- Drops entries from the front while they are older than the window. -/
def expire (time : E → T) (window now : T) (q : List E) : List E :=
  q.dropWhile fun e => decide (window < now - time e)

def within (time : E → T) (window now : T) (history : List E) : List E :=
  history.filter fun e => decide (now - time e ≤ window)

/-- `kept` is what is left of the time-ordered `history` after any prunings up
to `clock`: a suffix of it, everything before which had left the window. -/
structure Retained (time : E → T) (window clock : T) (history kept : List E) : Prop where
  ordered : history.Pairwise fun a b => time a ≤ time b
  past : ∀ e ∈ history, time e ≤ clock
  split : ∃ old, history = old ++ kept ∧ ∀ e ∈ old, window < clock - time e

variable {time : E → T} {window clock now : T} {history kept : List E}

theorem Retained.nil (time : E → T) (window clock : T) : Retained time window clock [] [] :=
  ⟨.nil, by simp, [], rfl, by simp⟩

theorem Retained.kept_ordered (h : Retained time window clock history kept) :
    kept.Pairwise fun a b => time a ≤ time b := by
  obtain ⟨old, hsplit, _⟩ := h.split
  exact (List.pairwise_append.mp (hsplit ▸ h.ordered)).2.1

variable [IsOrderedAddMonoid T]

theorem Retained.later (h : Retained time window clock history kept) (hc : clock ≤ now) :
    Retained time window now history kept := by
  obtain ⟨old, hsplit, hold⟩ := h.split
  refine ⟨h.ordered, fun e he => (h.past e he).trans hc, old, hsplit, fun e he => ?_⟩
  exact (hold e he).trans_le (sub_le_sub_right hc _)

/-- On an ordered queue pruning is filtering: no fresh entry precedes a stale one. -/
theorem expire_eq_within (q : List E) (h : q.Pairwise fun a b => time a ≤ time b) :
    expire time window now q = within time window now q := by
  induction q with
  | nil => rfl
  | cons e q ih =>
    obtain ⟨hhead, htail⟩ := List.pairwise_cons.mp h
    by_cases he : window < now - time e
    · have hdrop : expire time window now (e :: q) = expire time window now q :=
        List.dropWhile_cons_of_pos (by simpa only [decide_eq_true_eq] using he)
      have hskip : within time window now (e :: q) = within time window now q :=
        List.filter_cons_of_neg (by simpa only [decide_eq_true_eq, not_le] using he)
      rw [hdrop, hskip, ih htail]
    · have hall : ∀ x ∈ e :: q, now - time x ≤ window := by
        intro x hx
        rcases List.mem_cons.mp hx with rfl | hx
        · exact not_lt.mp he
        · exact (sub_le_sub_left (hhead x hx) now).trans (not_lt.mp he)
      have hkeep : within time window now (e :: q) = e :: q :=
        List.filter_eq_self.mpr (by simpa only [decide_eq_true_eq] using hall)
      have hstop : expire time window now (e :: q) = e :: q :=
        List.dropWhile_cons_of_neg (by simpa only [decide_eq_true_eq] using he)
      rw [hkeep, hstop]

/-- What the queue keeps inside the window is what the history has there. -/
theorem Retained.within_kept (h : Retained time window clock history kept) (hc : clock ≤ now) :
    within time window now kept = within time window now history := by
  obtain ⟨old, hsplit, hold⟩ := (h.later hc).split
  have hnone : within time window now old = [] := by
    apply List.filter_eq_nil_iff.mpr
    intro e he
    simpa only [decide_eq_true_eq, not_le] using hold e he
  have happend : within time window now history =
      within time window now old ++ within time window now kept := by
    rw [hsplit]
    exact List.filter_append _ _
  rw [happend, hnone, List.nil_append]

theorem Retained.expire_eq (h : Retained time window clock history kept) (hc : clock ≤ now) :
    expire time window now kept = within time window now history := by
  rw [expire_eq_within kept h.kept_ordered, h.within_kept hc]

theorem Retained.expire (h : Retained time window clock history kept) (hc : clock ≤ now) :
    Retained time window now history (expire time window now kept) := by
  obtain ⟨old, hsplit, hold⟩ := (h.later hc).split
  refine ⟨h.ordered, (h.later hc).past,
    old ++ kept.takeWhile fun e => decide (window < now - time e), ?_, ?_⟩
  · rw [hsplit, List.append_assoc, SlidingWindow.expire, List.takeWhile_append_dropWhile]
  · intro e he
    rcases List.mem_append.mp he with he | he
    · exact hold e he
    · simpa only [decide_eq_true_eq] using List.mem_takeWhile_imp he

theorem Retained.push (h : Retained time window clock history kept) (e : E)
    (hc : clock ≤ time e) : Retained time window (time e) (history ++ [e]) (kept ++ [e]) := by
  obtain ⟨old, hsplit, hold⟩ := (h.later hc).split
  refine ⟨?_, ?_, old, by rw [hsplit, List.append_assoc], hold⟩
  · refine List.pairwise_append.mpr ⟨h.ordered, List.pairwise_singleton _ _, ?_⟩
    intro a ha b hb
    rw [List.mem_singleton.mp hb]
    exact (h.past a ha).trans hc
  · intro a ha
    rcases List.mem_append.mp ha with ha | ha
    · exact (h.past a ha).trans hc
    · rw [List.mem_singleton.mp ha]

end VllmSourceGateway.SlidingWindow
