import Mathlib

set_option autoImplicit false

/-! A list without some of its entries, by position, and where the others are then found. -/
namespace VllmSourceGateway.KeptEntries

variable {A : Type}

def later (keep : ℕ → Bool) (i : ℕ) : Bool := keep (i + 1)

def kept : (ℕ → Bool) → List A → List A
  | _, [] => []
  | keep, x :: xs =>
    if keep 0 then x :: kept (later keep) xs else kept (later keep) xs

def rank : (ℕ → Bool) → ℕ → ℕ
  | _, 0 => 0
  | keep, i + 1 => (keep 0).toNat + rank (later keep) i

theorem kept_snoc (keep : ℕ → Bool) (xs : List A) (x : A) :
    kept keep (xs ++ [x]) = kept keep xs ++ if keep xs.length then [x] else [] := by
  induction xs generalizing keep with
  | nil => simp [kept]
  | cons y ys ih =>
    simp only [List.cons_append, kept, ih, List.length_cons]
    split <;> rfl

/-- A kept entry is found at its rank. -/
theorem kept_get {keep : ℕ → Bool} {i : ℕ} (h : keep i = true) (xs : List A) :
    (kept keep xs)[rank keep i]? = xs[i]? := by
  induction xs generalizing keep i with
  | nil => rfl
  | cons y ys ih =>
    cases i with
    | zero => simp [kept, rank, h]
    | succ i =>
      have hlater : later keep i = true := h
      have hrest := ih hlater
      cases hfirst : keep 0 with
      | true =>
        simp only [kept, rank, hfirst, if_true, Bool.toNat_true, Nat.add_comm 1,
          List.getElem?_cons_succ]
        exact hrest
      | false =>
        simp only [kept, rank, hfirst, Bool.false_eq_true, if_false, Bool.toNat_false,
          Nat.zero_add, List.getElem?_cons_succ]
        exact hrest

theorem kept_set {keep : ℕ → Bool} {i : ℕ} (h : keep i = true) (xs : List A) (x : A) :
    kept keep (xs.set i x) = (kept keep xs).set (rank keep i) x := by
  induction xs generalizing keep i with
  | nil => rfl
  | cons y ys ih =>
    cases i with
    | zero => simp [kept, rank, h]
    | succ i =>
      have hlater : later keep i = true := h
      have hrest := ih hlater
      cases hfirst : keep 0 with
      | true =>
        simp only [List.set_cons_succ, kept, rank, hfirst, if_true, Bool.toNat_true,
          Nat.add_comm 1, hrest]
      | false =>
        simp only [List.set_cons_succ, kept, rank, hfirst, Bool.false_eq_true, if_false,
          Bool.toNat_false, Nat.zero_add, hrest]

theorem kept_set_other {keep : ℕ → Bool} {i : ℕ} (h : keep i = false) (xs : List A) (x : A) :
    kept keep (xs.set i x) = kept keep xs := by
  induction xs generalizing keep i with
  | nil => rfl
  | cons y ys ih =>
    cases i with
    | zero => simp [kept, h]
    | succ i =>
      have hlater : later keep i = false := h
      simp only [List.set_cons_succ, kept, ih hlater]

/-- Choosing the positions of the entries that pass a test is filtering. -/
theorem kept_filter (p : A → Bool) (xs : List A) :
    kept (fun i => xs[i]?.any p) xs = xs.filter p := by
  induction xs with
  | nil => rfl
  | cons x xs ih =>
    have hlater : later (fun i => (x :: xs)[i]?.any p) = fun i => xs[i]?.any p := by
      funext i
      simp only [later, List.getElem?_cons_succ]
    cases hx : p x <;> simp [kept, hlater, hx, ih]

end VllmSourceGateway.KeptEntries
