import Mathlib

set_option autoImplicit false

/-! Python's `dict` as its items in insertion order: assigning to a present key
changes the item in place, assigning to a new key appends one. -/
namespace VllmSourceGateway.PyDict

variable {α β : Type} [DecidableEq α]

def get? (d : List (α × β)) (k : α) : Option β :=
  match d with
  | [] => none
  | (k', v) :: d => if k' = k then some v else get? d k

def set (d : List (α × β)) (k : α) (v : β) : List (α × β) :=
  match d with
  | [] => [(k, v)]
  | (k', v') :: d => if k' = k then (k', v) :: d else (k', v') :: set d k v

theorem get?_set_self (d : List (α × β)) (k : α) (v : β) : get? (set d k v) k = some v := by
  induction d with
  | nil => simp [set, get?]
  | cons item d ih =>
    obtain ⟨k', v'⟩ := item
    by_cases hk : k' = k
    · simp [set, get?, hk]
    · simp [set, get?, hk, ih]

theorem get?_set_of_ne (d : List (α × β)) {k j : α} (v : β) (h : j ≠ k) :
    get? (set d k v) j = get? d j := by
  induction d with
  | nil => simp [set, get?, h.symm]
  | cons item d ih =>
    obtain ⟨k', v'⟩ := item
    by_cases hk : k' = k
    · subst hk
      simp [set, get?, h.symm]
    · simp only [set, hk, if_false, get?, ih]

theorem get?_set (d : List (α × β)) (k j : α) (v : β) :
    get? (set d k v) j = if j = k then some v else get? d j := by
  by_cases h : j = k
  · subst h
    simp [get?_set_self]
  · simp [get?_set_of_ne d v h, h]

/-- The items of a dict, with keys that occur once. -/
def Unique (d : List (α × β)) : Prop := (d.map Prod.fst).Nodup

theorem mem_of_get? {d : List (α × β)} {k : α} {v : β} (h : get? d k = some v) : (k, v) ∈ d := by
  induction d with
  | nil => cases h
  | cons item d ih =>
    obtain ⟨k', v'⟩ := item
    simp only [get?] at h
    split at h
    · rename_i hk
      subst hk
      rw [Option.some.inj h]
      exact List.mem_cons_self
    · exact List.mem_cons_of_mem _ (ih h)

theorem mem_set {d : List (α × β)} {k : α} {v : β} {item : α × β} (h : item ∈ set d k v) :
    item = (k, v) ∨ item ∈ d := by
  induction d with
  | nil => exact .inl (List.mem_singleton.mp h)
  | cons head d ih =>
    obtain ⟨k', v'⟩ := head
    simp only [set] at h
    split at h
    · rename_i hk
      rcases List.mem_cons.mp h with rfl | hmem
      · exact .inl (by rw [hk])
      · exact .inr (List.mem_cons_of_mem _ hmem)
    · rcases List.mem_cons.mp h with rfl | hmem
      · exact .inr List.mem_cons_self
      · exact (ih hmem).imp_right (List.mem_cons_of_mem _)

theorem set_unique {d : List (α × β)} (h : Unique d) (k : α) (v : β) : Unique (set d k v) := by
  induction d with
  | nil => exact List.nodup_singleton _
  | cons head d ih =>
    obtain ⟨k', v'⟩ := head
    obtain ⟨hfresh, htail⟩ := List.nodup_cons.mp h
    simp only [set]
    split
    · exact h
    · rename_i hk
      refine List.nodup_cons.mpr ⟨fun hmem => ?_, ih htail⟩
      obtain ⟨item, hitem, hfst⟩ := List.mem_map.mp hmem
      rcases mem_set hitem with rfl | hold
      · exact hk hfst.symm
      · exact hfresh (hfst ▸ List.mem_map_of_mem hold)

/-- `sorted(set(names))`; strings are compared by code points. -/
def sortedNames (names : List String) : List String := names.dedup.insertionSort (· ≤ ·)

/-- `sorted(d.items())` of a dict, whose keys never tie. -/
def sortedItems (d : List (String × β)) : List (String × β) :=
  d.insertionSort fun a b => a.1 ≤ b.1

theorem mem_sortedNames {names : List String} {name : String} :
    name ∈ sortedNames names ↔ name ∈ names := by
  rw [sortedNames, List.mem_insertionSort, List.mem_dedup]

theorem sortedNames_strict (names : List String) : (sortedNames names).Pairwise (· < ·) := by
  have hle : (sortedNames names).Pairwise (· ≤ ·) := List.pairwise_insertionSort _ _
  have hne : (sortedNames names).Nodup :=
    (List.perm_insertionSort _ _).nodup_iff.mpr (List.nodup_dedup names)
  exact (hle.and hne).imp fun h => lt_of_le_of_ne h.1 h.2

theorem sortedNames_congr {xs ys : List String} (h : ∀ name, name ∈ xs ↔ name ∈ ys) :
    sortedNames xs = sortedNames ys := by
  have hperm : (sortedNames xs).Perm (sortedNames ys) := by
    rw [List.perm_ext_iff_of_nodup ((sortedNames_strict xs).imp ne_of_lt)
      ((sortedNames_strict ys).imp ne_of_lt)]
    intro name
    rw [mem_sortedNames, mem_sortedNames, h]
  exact hperm.eq_of_pairwise' (List.pairwise_insertionSort _ _) (List.pairwise_insertionSort _ _)

theorem sortedItems_keys {d : List (String × β)} (h : Unique d) :
    (sortedItems d).map Prod.fst = sortedNames (d.map Prod.fst) := by
  rw [sortedNames, List.Nodup.dedup h]
  exact List.map_insertionSort _ _ Prod.fst d fun _ _ _ _ => Iff.rfl

theorem mem_sortedItems {d : List (String × β)} {item : String × β} :
    item ∈ sortedItems d ↔ item ∈ d := List.mem_insertionSort _

theorem get?_eq_some_iff {d : List (α × β)} (h : Unique d) {k : α} {v : β} :
    get? d k = some v ↔ (k, v) ∈ d := by
  refine ⟨mem_of_get?, fun hmem => ?_⟩
  induction d with
  | nil => cases hmem
  | cons item d ih =>
    obtain ⟨k', v'⟩ := item
    obtain ⟨hfresh, htail⟩ := List.nodup_cons.mp h
    rcases List.mem_cons.mp hmem with heq | hold
    · cases heq
      exact if_pos rfl
    · have hne : k' ≠ k := by
        rintro rfl
        exact hfresh (List.mem_map.mpr ⟨_, hold, rfl⟩)
      rw [get?, if_neg hne]
      exact ih htail hold

theorem get?_isSome_iff {d : List (α × β)} {k : α} :
    (get? d k).isSome = true ↔ k ∈ d.map Prod.fst := by
  induction d with
  | nil => simp [get?]
  | cons item d ih =>
    obtain ⟨k', v'⟩ := item
    by_cases hk : k' = k
    · simp [get?, hk]
    · simp [get?, hk, ih, Ne.symm hk]

theorem get?_mapKeys {γ : Type} [DecidableEq γ] {f : α → γ} (hf : Function.Injective f)
    (d : List (α × β)) (k : α) : get? (d.map (Prod.map f id)) (f k) = get? d k := by
  induction d with
  | nil => rfl
  | cons item d ih =>
    obtain ⟨k', v⟩ := item
    simp only [List.map_cons, Prod.map_apply, id, get?, hf.eq_iff, ih]

theorem set_fresh {d : List (α × β)} {k : α} (h : get? d k = none) (v : β) :
    set d k v = d ++ [(k, v)] := by
  induction d with
  | nil => rfl
  | cons item d ih =>
    obtain ⟨k', v'⟩ := item
    simp only [get?] at h
    split at h
    · cases h
    · rename_i hk
      rw [set, if_neg hk, ih h, List.cons_append]

/-! ## Lists that are scanned for a key -/

section
variable {κ : Type} {key : β → κ} {k : κ} {p : β → Bool} {xs ys : List β} {x : β}

theorem find?_of_distinct (hdistinct : (xs.map key).Nodup) (hx : x ∈ xs)
    (hp : ∀ y, p y = true ↔ key y = key x) : xs.find? p = some x := by
  induction xs with
  | nil => cases hx
  | cons head xs ih =>
    obtain ⟨hfresh, hrest⟩ := List.nodup_cons.mp hdistinct
    rcases List.mem_cons.mp hx with rfl | hmem
    · exact List.find?_cons_of_pos ((hp x).mpr rfl)
    · have hother : ¬ p head = true := by
        rw [hp]
        intro hsame
        exact hfresh (hsame ▸ List.mem_map_of_mem hmem)
      rw [List.find?_cons_of_neg hother]
      exact ih hrest hmem

/-- Where no key occurs twice, the order does not matter to the scan. -/
theorem find?_perm (hdistinct : (xs.map key).Nodup) (hperm : xs.Perm ys)
    (hp : ∀ y, p y = true ↔ key y = k) : xs.find? p = ys.find? p := by
  by_cases hany : ∃ x ∈ xs, key x = k
  · obtain ⟨x, hx, rfl⟩ := hany
    have hdistinct' : (ys.map key).Nodup := (hperm.map key).nodup_iff.mp hdistinct
    rw [find?_of_distinct hdistinct hx hp,
      find?_of_distinct hdistinct' (hperm.mem_iff.mp hx) hp]
  · push Not at hany
    have hnone : xs.find? p = none :=
      List.find?_eq_none.mpr fun x hx hmatch => hany x hx ((hp x).mp hmatch)
    have hnone' : ys.find? p = none :=
      List.find?_eq_none.mpr fun x hx hmatch => hany x (hperm.mem_iff.mpr hx) ((hp x).mp hmatch)
    rw [hnone, hnone']

end

end VllmSourceGateway.PyDict
