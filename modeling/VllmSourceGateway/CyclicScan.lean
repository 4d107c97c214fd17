import Mathlib

set_option autoImplicit false

/-! Scanning a list as a circle. From a start the scan takes the first entry
that satisfies a predicate; `distance` says how far ahead an index lies, and it
shrinks whenever the scan resumes behind an entry that came before the index. -/
namespace VllmSourceGateway.CyclicScan

/-- The steps forward from `start` to `index` on a circle of `n`. -/
def distance (n start index : ℕ) : ℕ := (index + n - start % n) % n

section
variable {n start index offset : ℕ}

theorem distance_lt (hn : 0 < n) : distance n start index < n := Nat.mod_lt _ hn

theorem start_add_distance (hindex : index < n) : (start + distance n start index) % n = index := by
  have hn : 0 < n := by omega
  have hstart : start % n < n := Nat.mod_lt _ hn
  unfold distance
  rw [Nat.add_mod_mod, ← Nat.mod_add_mod, Nat.add_sub_of_le (by omega), Nat.add_mod_right,
    Nat.mod_eq_of_lt hindex]

/-- The distance is the only offset within one turn that leads to the index. -/
theorem distance_unique (hoffset : offset < n) (h : (start + offset) % n = index) :
    distance n start index = offset := by
  have hn : 0 < n := by omega
  have hindex : index < n := by
    rw [← h]
    exact Nat.mod_lt _ hn
  have hsame : start + distance n start index ≡ start + offset [MOD n] := by
    rw [Nat.ModEq, start_add_distance hindex, h]
  exact (hsame.add_left_cancel' start).eq_of_lt_of_lt (distance_lt hn) hoffset

/-- Resuming behind an entry that lies before the index brings the index closer. -/
theorem distance_resumed (hindex : index < n) (h : offset < distance n start index) :
    distance n (((start + offset) % n + 1) % n) index + offset + 1 = distance n start index := by
  have hn : 0 < n := by omega
  have hlt : distance n start index < n := distance_lt hn
  have hreach : (((start + offset) % n + 1) % n + (distance n start index - offset - 1)) % n =
      index := by
    calc (((start + offset) % n + 1) % n + (distance n start index - offset - 1)) % n
        = (start + offset + 1 + (distance n start index - offset - 1)) % n := by
          rw [Nat.mod_add_mod, add_assoc, Nat.mod_add_mod, ← add_assoc]
      _ = (start + distance n start index) % n := by
          congr 1
          omega
      _ = index := start_add_distance hindex
  have heq := distance_unique (by omega) hreach
  omega

end

section
variable {α : Type} (p : α → Bool)

/-- The first entry at or behind `start` that satisfies `p`, with its index. -/
def scan (xs : List α) (start : ℕ) : Option (ℕ × α) :=
  (List.range xs.length).findSome? fun offset =>
    match xs[(start + offset) % xs.length]? with
    | none => none
    | some x => if p x then some ((start + offset) % xs.length, x) else none

variable {p} {xs : List α} {start index : ℕ} {x : α}

/-- Where the scan stops: every entry nearer to the start fails the predicate. -/
theorem scan_some (h : scan p xs start = some (index, x)) :
    xs[index]? = some x ∧ p x = true ∧
      ∃ offset < xs.length, index = (start + offset) % xs.length ∧
        ∀ i y, xs[i]? = some y → p y = true → offset ≤ distance xs.length start i := by
  obtain ⟨before, offset, after, hrange, hfound, hbefore⟩ := List.findSome?_eq_some_iff.mp h
  have hlength : before.length = offset ∧ offset < xs.length := by
    have hget : (List.range xs.length)[before.length]? = some offset := by
      rw [hrange, List.getElem?_append_right le_rfl, Nat.sub_self, List.getElem?_cons_zero]
    obtain ⟨hlt, heq⟩ := List.getElem?_eq_some_iff.mp hget
    rw [List.getElem_range] at heq
    rw [List.length_range] at hlt
    omega
  split at hfound
  · cases hfound
  · rename_i candidate hcandidate
    split at hfound
    · rename_i hp
      simp only [Option.some.injEq, Prod.mk.injEq] at hfound
      obtain ⟨rfl, rfl⟩ := hfound
      refine ⟨hcandidate, hp, offset, hlength.2, rfl, ?_⟩
      intro i y hy hpy
      by_contra hnear
      push Not at hnear
      have hi : i < xs.length := (List.getElem?_eq_some_iff.mp hy).1
      -- the scan has looked at this entry before it stopped
      have hmem : distance xs.length start i ∈ before := by
        have hget : (List.range xs.length)[distance xs.length start i]? =
            some (distance xs.length start i) := by
          rw [List.getElem?_range (distance_lt (by omega))]
        rw [hrange, List.getElem?_append_left (by omega)] at hget
        exact List.mem_of_getElem? hget
      have hskipped := hbefore _ hmem
      simp only [start_add_distance hi, hy, hpy, if_true, reduceCtorEq] at hskipped
    · cases hfound

/-- The scan finds nothing only when no entry satisfies the predicate. -/
theorem scan_none (h : scan p xs start = none) : ∀ y ∈ xs, p y = false := by
  intro y hy
  obtain ⟨i, hi, rfl⟩ := List.getElem_of_mem hy
  have hskipped := List.findSome?_eq_none_iff.mp h (distance xs.length start i)
    (List.mem_range.mpr (distance_lt (by omega)))
  simp only [start_add_distance hi, List.getElem?_eq_getElem hi] at hskipped
  simpa using hskipped

/-- One turn: an entry that satisfies the predicate is taken, or comes closer. -/
theorem scan_approaches {i : ℕ} {y : α} (h : scan p xs start = some (index, x))
    (hy : xs[i]? = some y) (hpy : p y = true) :
    index = i ∨ distance xs.length ((index + 1) % xs.length) i < distance xs.length start i := by
  obtain ⟨_, _, offset, _, rfl, hnearest⟩ := scan_some h
  have hi : i < xs.length := (List.getElem?_eq_some_iff.mp hy).1
  rcases (hnearest i y hy hpy).eq_or_lt with heq | hlt
  · left
    rw [heq]
    exact start_add_distance hi
  · right
    have hcloser := distance_resumed hi hlt
    omega

/-- The scan goes through the list as it reads from the start, and leaves off
where it reads from behind the entry it took. -/
theorem scan_rotate (h : scan p xs start = some (index, x)) :
    ∃ before after, xs.rotate start = before ++ x :: after ∧ (∀ y ∈ before, p y = false) ∧
      xs.rotate (index + 1) = after ++ (before ++ [x]) := by
  obtain ⟨hx, hpx, offset, hoffset, hindex, hnearest⟩ := scan_some h
  have hn : 0 < xs.length := by omega
  have hlength : offset < (xs.rotate start).length := by
    rw [List.length_rotate]
    exact hoffset
  have hget (j : ℕ) (hj : j < (xs.rotate start).length) :
      xs[(start + j) % xs.length]? = some (xs.rotate start)[j] := by
    rw [List.getElem_rotate, add_comm j start]
    exact List.getElem?_eq_getElem _
  have htaken : (xs.rotate start)[offset] = x := by
    have hat := hget offset hlength
    rw [← hindex, hx] at hat
    exact (Option.some.inj hat).symm
  refine ⟨(xs.rotate start).take offset, (xs.rotate start).drop (offset + 1), ?_, ?_, ?_⟩
  · rw [← htaken, ← List.drop_eq_getElem_cons hlength, List.take_append_drop]
  · intro y hy
    obtain ⟨j, hj, rfl⟩ := List.getElem_of_mem hy
    rw [List.length_take, lt_min_iff] at hj
    rw [List.getElem_take]
    by_contra hpy
    have hfar := hnearest _ _ (hget j hj.2) (by simpa using hpy)
    rw [distance_unique (by omega) rfl] at hfar
    omega
  · have hsame : xs.rotate (index + 1) = (xs.rotate start).rotate (offset + 1) := by
      rw [List.rotate_rotate, ← List.rotate_mod xs (index + 1), ← List.rotate_mod xs (start + _),
        hindex, Nat.mod_add_mod, add_assoc]
    rw [hsame, List.rotate_eq_drop_append_take hlength, ← htaken, List.take_append_getElem]

/-- The entries that satisfy the predicate take turns. -/
theorem scan_turn (h : scan p xs start = some (index, x)) :
    ∃ rest, (xs.rotate start).filter p = x :: rest ∧
      (xs.rotate (index + 1)).filter p = rest ++ [x] := by
  obtain ⟨before, after, hstart, hbefore, hnext⟩ := scan_rotate h
  have hpx := (scan_some h).2.1
  have hskipped : before.filter p = [] :=
    List.filter_eq_nil_iff.mpr fun y hy => by simp [hbefore y hy]
  refine ⟨after.filter p, ?_, ?_⟩
  · rw [hstart, List.filter_append, hskipped, List.nil_append, List.filter_cons_of_pos hpx]
  · rw [hnext, List.filter_append, List.filter_append, hskipped, List.nil_append,
      List.filter_cons_of_pos hpx, List.filter_nil]

/-- The scan takes the first entry, as the list reads from the start. -/
theorem scan_eq_head (p : α → Bool) (xs : List α) (start : ℕ) :
    (scan p xs start).map Prod.snd = ((xs.rotate start).filter p).head? := by
  rcases Option.eq_none_or_eq_some (scan p xs start) with hnone | ⟨⟨index, x⟩, hsome⟩
  · have hall : (xs.rotate start).filter p = [] := by
      rw [List.filter_eq_nil_iff]
      intro y hy
      rw [scan_none hnone y (List.mem_rotate.mp hy)]
      decide
    rw [hnone, hall]
    rfl
  · obtain ⟨rest, hrest, _⟩ := scan_turn hsome
    rw [hsome, hrest]
    rfl

end

section
variable {α : Type}

def turns : List α → ℕ → List α
  | [], _ => []
  | _, 0 => []
  | x :: xs, n + 1 => x :: turns (xs ++ [x]) n

theorem turns_succ (xs : List α) (n : ℕ) :
    turns xs (n + 1) = turns xs n ++ (xs.rotate n).head?.toList := by
  induction n generalizing xs with
  | zero => cases xs <;> simp [turns]
  | succ n ih =>
    cases xs with
    | nil => simp [turns]
    | cons x xs => rw [turns, ih, turns, List.rotate_cons_succ, List.cons_append]

theorem turns_append (xs ys : List α) (n : ℕ) :
    turns (xs ++ ys) (xs.length + n) = xs ++ turns (ys ++ xs) n := by
  induction xs generalizing ys with
  | nil => simp
  | cons x xs ih =>
    have hround := ih (ys ++ [x])
    simp only [List.length_cons, List.cons_append, Nat.add_right_comm, turns, List.append_assoc]
    rw [hround, List.append_assoc, List.singleton_append]

/-- In whole rounds everyone has one turn a round. -/
theorem turns_rounds (xs : List α) (k : ℕ) :
    turns xs (k * xs.length) = (List.replicate k xs).flatten := by
  induction k with
  | zero =>
    rw [Nat.zero_mul]
    cases xs <;> rfl
  | succ k ih =>
    have hround := turns_append xs [] (k * xs.length)
    rw [List.append_nil, List.nil_append] at hround
    rw [Nat.succ_mul, Nat.add_comm, hround, ih, List.replicate_succ, List.flatten_cons]

/-- Within one round nobody has a second turn. -/
theorem turns_take {xs : List α} {n : ℕ} (h : n ≤ xs.length) : turns xs n = xs.take n := by
  have hround := turns_append (xs.take n) (xs.drop n) 0
  rw [List.take_append_drop, List.length_take, min_eq_left h, Nat.add_zero] at hround
  rw [hround]
  cases xs.drop n ++ xs.take n <;> simp [turns]

end

end VllmSourceGateway.CyclicScan
