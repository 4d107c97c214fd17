import Mathlib

set_option autoImplicit false

/-! Objects that are passed by reference. A reference is the place of an object in
the order of allocation, so allocation only ever appends. -/
namespace VllmSourceGateway.ObjectHeap

variable {α : Type} {heap heap' : List α} {ref other : ℕ} {object : α}

def alloc (heap : List α) (object : α) : ℕ × List α := (heap.length, heap ++ [object])

def write (heap : List α) (ref : ℕ) (object : α) : List α := heap.set ref object

/-- Every object of the first heap is the same in the second. -/
def Unmutated (heap heap' : List α) : Prop :=
  ∀ (ref : ℕ) (object : α), heap[ref]? = some object → heap'[ref]? = some object

theorem Unmutated.refl (heap : List α) : Unmutated heap heap := fun _ _ h => h

theorem alloc_read (heap : List α) (object : α) :
    (alloc heap object).2[(alloc heap object).1]? = some object := List.getElem?_concat_length

theorem alloc_unmutated (heap : List α) (object : α) : Unmutated heap (alloc heap object).2 := by
  intro ref old hread
  obtain ⟨hlt, _⟩ := List.getElem?_eq_some_iff.mp hread
  rw [alloc, List.getElem?_append_left hlt, hread]

theorem write_read (hread : heap[ref]? = some object) (object' : α) :
    (write heap ref object')[ref]? = some object' := by
  obtain ⟨hlt, _⟩ := List.getElem?_eq_some_iff.mp hread
  exact List.getElem?_set_self hlt

/-- Writing to what has been allocated since leaves the objects before it alone. -/
theorem Unmutated.write_fresh (h : Unmutated heap heap') (hfresh : heap.length ≤ ref) :
    Unmutated heap (write heap' ref object) := by
  intro other old hread
  obtain ⟨hlt, _⟩ := List.getElem?_eq_some_iff.mp hread
  rw [write, List.getElem?_set_ne (by omega)]
  exact h other old hread

end VllmSourceGateway.ObjectHeap
