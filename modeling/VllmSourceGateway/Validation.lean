import Mathlib

set_option autoImplicit false

/-! Validation that reports everything it finds wrong in a record or a list, and
checks that stop at the first thing they find. -/
namespace VllmSourceGateway.Validation

variable {ε α β γ : Type}

/-- A validated value, or everything that is wrong. -/
abbrev Validated (ε α : Type) := Except (List ε) α

def both : Validated ε α → Validated ε β → Validated ε (α × β)
  | .ok x, .ok y => .ok (x, y)
  | .ok _, .error e => .error e
  | .error e, .ok _ => .error e
  | .error e, .error e' => .error (e ++ e')

def mapAll (f : α → Validated ε β) : List α → Validated ε (List β)
  | [] => .ok []
  | x :: xs => (both (f x) (mapAll f xs)).map fun found => found.1 :: found.2

def firstError : List (Except ε Unit) → Except ε Unit
  | [] => .ok ()
  | check :: checks =>
    match check with
    | .error e => .error e
    | .ok () => firstError checks

theorem both_ok_iff {a : Validated ε α} {b : Validated ε β} {x : α} {y : β} :
    both a b = .ok (x, y) ↔ a = .ok x ∧ b = .ok y := by
  cases a <;> cases b <;> simp [both]

theorem mapAll_ok_iff {f : α → Validated ε β} {xs : List α} {ys : List β} :
    mapAll f xs = .ok ys ↔ List.Forall₂ (fun x y => f x = .ok y) xs ys := by
  induction xs generalizing ys with
  | nil =>
    simp only [mapAll, Except.ok.injEq, List.forall₂_nil_left_iff]
    exact eq_comm
  | cons x xs ih =>
    cases ys with
    | nil =>
      refine ⟨fun h => ?_, fun h => by cases h⟩
      simp only [mapAll] at h
      cases hboth : both (f x) (mapAll f xs) <;> simp [hboth, Except.map] at h
    | cons y ys =>
      rw [List.forall₂_cons, ← ih, ← both_ok_iff]
      simp only [mapAll]
      cases both (f x) (mapAll f xs) with
      | error e => simp [Except.map]
      | ok found => simp [Except.map, Prod.ext_iff]

section
variable {R : α → β → Prop} {xs : List α} {ys : List β}

theorem source_of_mem (h : List.Forall₂ R xs ys) {y : β} (hy : y ∈ ys) : ∃ x ∈ xs, R x y := by
  induction h with
  | nil => cases hy
  | cons hR _ ih =>
    rcases List.mem_cons.mp hy with rfl | hrest
    · exact ⟨_, List.mem_cons_self, hR⟩
    · obtain ⟨x, hx, hRx⟩ := ih hrest
      exact ⟨x, List.mem_cons_of_mem _ hx, hRx⟩

theorem pairwise_sources {S : β → β → Prop} {T : α → α → Prop} (h : List.Forall₂ R xs ys)
    (hys : ys.Pairwise S)
    (himp : ∀ {x x' : α} {y y' : β}, R x y → R x' y' → S y y' → T x x') : xs.Pairwise T := by
  induction h with
  | nil => exact .nil
  | @cons x y xs ys hR hrest ih =>
    obtain ⟨hhead, htail⟩ := List.pairwise_cons.mp hys
    refine List.pairwise_cons.mpr ⟨fun x' hx' => ?_, ih htail⟩
    obtain ⟨y', hy', hR'⟩ := source_of_mem hrest.flip hx'
    exact himp hR hR' (hhead y' hy')

theorem result_of_mem (h : List.Forall₂ R xs ys) {x : α} (hx : x ∈ xs) : ∃ y ∈ ys, R x y :=
  source_of_mem h.flip hx

end

/-- Related lists have the same images under functions that relate. -/
theorem map_eq_map {R : α → β → Prop} {f : α → γ} {g : β → γ} {xs : List α} {ys : List β}
    (h : List.Forall₂ R xs ys) (hfg : ∀ x y, R x y → f x = g y) : xs.map f = ys.map g := by
  induction h with
  | nil => rfl
  | cons hR _ ih => rw [List.map_cons, List.map_cons, hfg _ _ hR, ih]

theorem firstError_ok_iff {checks : List (Except ε Unit)} :
    firstError checks = .ok () ↔ ∀ check ∈ checks, check = .ok () := by
  induction checks with
  | nil => simp [firstError]
  | cons check checks ih => cases check <;> simp [firstError, ih]

theorem eq_ok_get {checked : Validated ε α} (h : checked.toOption.isSome = true) :
    checked = .ok (checked.toOption.get h) := by
  cases checked with
  | error e => cases h
  | ok x => rfl

/-- Validating in another order gives the same values in another order. -/
theorem mapAll_perm {f : α → Validated ε β} {xs xs' : List α} {ys ys' : List β}
    (hperm : xs.Perm xs') (h : mapAll f xs = .ok ys) (h' : mapAll f xs' = .ok ys') :
    ys.Perm ys' := by
  obtain ⟨zs, hzs, hzsPerm⟩ := List.perm_comp_forall₂ hperm (mapAll_ok_iff.mp h')
  have hfun : Relator.RightUnique fun x y => f x = Except.ok y := by
    intro x y z hy hz
    exact Except.ok.inj (hy.symm.trans hz)
  rw [List.right_unique_forall₂' hfun (mapAll_ok_iff.mp h) hzs]
  exact hzsPerm

/-- Both accept, with related values, or both reject for the same reason. -/
inductive SameVerdict (R : α → β → Prop) : Except ε α → Except ε β → Prop where
  | ok {x : α} {y : β} (h : R x y) : SameVerdict R (.ok x) (.ok y)
  | error (e : ε) : SameVerdict R (.error e) (.error e)

section
variable {α' β' : Type} {R : α → β → Prop}

theorem SameVerdict.refl {S : α → α → Prop} (h : ∀ x, S x x) (checked : Except ε α) :
    SameVerdict S checked checked := by
  cases checked with
  | ok x => exact .ok (h x)
  | error e => exact .error e

/-- The verdict is what is left when the accepted value is forgotten. -/
theorem sameVerdict_iff {a : Except ε α} {b : Except ε β} :
    SameVerdict (fun _ _ => True) a b ↔ a.map (fun _ => ()) = b.map (fun _ => ()) := by
  constructor
  · intro h
    cases h <;> rfl
  · intro h
    cases a with
    | ok x =>
      cases b with
      | ok y => exact .ok trivial
      | error e => cases h
    | error e =>
      cases b with
      | ok y => cases h
      | error e' =>
        cases h
        exact .error e

theorem SameVerdict.map {S : α' → β' → Prop} {f : α → α'} {g : β → β'} {a : Except ε α}
    {b : Except ε β} (h : SameVerdict R a b) (hmap : ∀ x y, R x y → S (f x) (g y)) :
    SameVerdict S (a.map f) (b.map g) := by
  cases h with
  | ok hR => exact .ok (hmap _ _ hR)
  | error e => exact .error e

theorem SameVerdict.both {S : α' → β' → Prop} {a : Validated ε α} {b : Validated ε β}
    {a' : Validated ε α'} {b' : Validated ε β'} (h : SameVerdict R a b) (h' : SameVerdict S a' b') :
    SameVerdict (fun x y => R x.1 y.1 ∧ S x.2 y.2) (both a a') (both b b') := by
  cases h with
  | ok hR =>
    cases h' with
    | ok hS => exact .ok ⟨hR, hS⟩
    | error e => exact .error e
  | error e =>
    cases h' with
    | ok => exact .error e
    | error e' => exact .error (e ++ e')

theorem SameVerdict.mapAll {S : α' → β' → Prop} {f : α' → Validated ε α} {g : β' → Validated ε β}
    {xs : List α'} {ys : List β'} (h : List.Forall₂ S xs ys)
    (hcheck : ∀ x ∈ xs, ∀ y, S x y → SameVerdict R (f x) (g y)) :
    SameVerdict (List.Forall₂ R) (mapAll f xs) (mapAll g ys) := by
  induction h with
  | nil => exact .ok .nil
  | cons hS _ ih =>
    have hrest := ih fun x hx => hcheck x (List.mem_cons_of_mem _ hx)
    exact ((hcheck _ List.mem_cons_self _ hS).both hrest).map fun _ _ hR => .cons hR.1 hR.2

end

end VllmSourceGateway.Validation
