import HttpsServerSim.Lib.Arena
import Mathlib.Data.List.Count

/-!
# Shared pointers

Objects that count the pointers to them and go with the last one. Where the pointers are kept is
the matter of their users. `Owned` says that a list of pointers is all there are; the rules say
what can be done with a pointer on the list, and what is on the list then.
-/

namespace HttpsServerSim

universe u

structure Counted (Object : Type u) where
  object : Object
  count : ℕ

abbrev SharedHeap (Object : Type u) := Arena (Counted Object)

namespace SharedHeap

variable {Object : Type u}

/-- The first pointer to a new object. -/
def makeShared (heap : SharedHeap Object) (object : Object) : SharedHeap Object :=
  heap.make ⟨object, 1⟩

def deref (heap : SharedHeap Object) (id : ℕ) : Option Object :=
  (heap.cells id).map Counted.object

def copy (heap : SharedHeap Object) (id : ℕ) : Option (SharedHeap Object) :=
  heap.modify id fun cell => some { cell with count := cell.count + 1 }

def drop (heap : SharedHeap Object) (id : ℕ) : Option (SharedHeap Object) :=
  heap.modify id fun cell =>
    if cell.count ≤ 1 then none else some { cell with count := cell.count - 1 }

def dropAll : List ℕ → SharedHeap Object → Option (SharedHeap Object)
  | [], heap => some heap
  | id :: ids, heap => (heap.drop id).bind (dropAll ids)

/-- How many pointers an object counts; none when it is gone. -/
def count (heap : SharedHeap Object) (id : ℕ) : ℕ :=
  (heap.cells id).elim 0 Counted.count

/-- The pointers are all that there are. -/
structure Owned (heap : SharedHeap Object) (pointers : List ℕ) : Prop where
  count_eq : ∀ id, heap.count id = pointers.count id
  count_pos : ∀ {id : ℕ} {cell : Counted Object}, heap.cells id = some cell → 0 < cell.count

variable {heap : SharedHeap Object} {pointers : List ℕ} {id other : ℕ} {object : Object}

theorem owned_empty : Owned (Arena.empty : SharedHeap Object) [] where
  count_eq _ := rfl
  count_pos found := by cases found

theorem Owned.perm (owned : heap.Owned pointers) {others : List ℕ} (same : pointers.Perm others) :
    heap.Owned others where
  count_eq id := by rw [owned.count_eq, same.count_eq]
  count_pos := owned.count_pos

/-- An object is there as long as there is a pointer to it. -/
theorem Owned.alive_iff (owned : heap.Owned pointers) : heap.Alive id ↔ id ∈ pointers := by
  rw [← List.count_pos_iff, ← owned.count_eq, Arena.alive_iff, count]
  cases found : heap.cells id with
  | none => simp
  | some cell => simpa using owned.count_pos found

theorem Owned.exists_cell (owned : heap.Owned pointers) (pointer : id ∈ pointers) :
    ∃ cell, heap.cells id = some cell ∧ cell.count = pointers.count id := by
  rcases Arena.alive_iff.mp (owned.alive_iff.mpr pointer) with ⟨cell, found⟩
  refine ⟨cell, found, ?_⟩
  rw [← owned.count_eq, count, found]
  rfl

theorem Owned.exists_object (owned : heap.Owned pointers) (pointer : id ∈ pointers) :
    ∃ object, heap.deref id = some object := by
  rcases owned.exists_cell pointer with ⟨cell, found, _⟩
  exact ⟨cell.object, by simp [deref, found]⟩

theorem Owned.lt_made (owned : heap.Owned pointers) (pointer : id ∈ pointers) : id < heap.made := by
  rcases owned.exists_cell pointer with ⟨cell, found, _⟩
  exact Arena.lt_made found

/-! ## What becomes of the pointers -/

theorem deref_makeShared (heap : SharedHeap Object) (object : Object) :
    (heap.makeShared object).deref id = if id = heap.made then some object else heap.deref id := by
  simp only [deref, makeShared, Arena.cells_make, Function.update_apply]
  split_ifs <;> rfl

theorem Owned.makeShared (owned : heap.Owned pointers) (object : Object) :
    (heap.makeShared object).Owned (heap.made :: pointers) where
  count_eq id := by
    have before := owned.count_eq id
    simp only [count] at before
    simp only [count, SharedHeap.makeShared, Arena.cells_make, Function.update_apply,
      List.count_cons, beq_iff_eq]
    by_cases new : id = heap.made
    · have unused : pointers.count heap.made = 0 := by
        rw [← new, ← before, new, heap.fresh (Nat.le_refl _)]
        rfl
      simp [new, unused]
    · simp only [new, if_false, before, Ne.symm new, Nat.add_zero]
  count_pos := by
    intro id cell found
    simp only [SharedHeap.makeShared, Arena.cells_make, Function.update_apply] at found
    split_ifs at found
    · cases found
      exact Nat.one_pos
    · exact owned.count_pos found

/-- The count of one object is another one. -/
theorem Owned.recount (owned : heap.Owned pointers) {cell : Counted Object}
    (found : heap.cells id = some cell) (count : ℕ) (others : List ℕ)
    (counts : others.count id = count)
    (same : ∀ other ≠ id, others.count other = pointers.count other)
    (changed : Option (Counted Object))
    (isChanged : changed = if count = 0 then none else some { cell with count := count }) :
    Owned (Arena.put heap id changed) others ∧ ∀ other ∈ others,
      deref (Arena.put heap id changed) other = heap.deref other := by
  have cells := Arena.cells_put (Arena.lt_made found) changed
  refine ⟨⟨?_, ?_⟩, ?_⟩
  · intro other
    by_cases here : other = id
    · subst here
      rw [SharedHeap.count, cells, Function.update_self, isChanged, counts]
      split_ifs with gone
      · exact gone.symm
      · rfl
    · rw [same other here, ← owned.count_eq, SharedHeap.count, SharedHeap.count, cells,
        Function.update_of_ne here]
  · intro other left foundLeft
    rw [cells] at foundLeft
    by_cases here : other = id
    · subst here
      rw [Function.update_self, isChanged] at foundLeft
      split_ifs at foundLeft with gone
      cases foundLeft
      exact Nat.pos_of_ne_zero gone
    · rw [Function.update_of_ne here] at foundLeft
      exact owned.count_pos foundLeft
  · intro other pointer
    by_cases here : other = id
    · subst here
      have left : count ≠ 0 := by
        have positive := List.count_pos_iff.mpr pointer
        omega
      rw [deref, deref, cells, Function.update_self, isChanged, if_neg left, found]
      rfl
    · rw [deref, deref, cells, Function.update_of_ne here]

theorem Owned.copy (owned : heap.Owned pointers) (pointer : id ∈ pointers) :
    ∃ next, heap.copy id = some next ∧ next.Owned (id :: pointers) ∧ next.made = heap.made ∧
      ∀ other ∈ pointers, next.deref other = heap.deref other := by
  rcases owned.exists_cell pointer with ⟨cell, found, counts⟩
  rcases owned.recount found (cell.count + 1) (id :: pointers)
    (by simp [counts]) (by intro other different; simp [Ne.symm different])
    (some { cell with count := cell.count + 1 }) rfl with ⟨ownedNext, derefs⟩
  refine ⟨_, Arena.modify_eq found _, ownedNext, rfl, ?_⟩
  intro other isPointer
  exact derefs other (List.mem_cons_of_mem id isPointer)

theorem Owned.drop (owned : heap.Owned (id :: pointers)) :
    ∃ next, heap.drop id = some next ∧ next.Owned pointers ∧ next.made = heap.made ∧
      ∀ other ∈ pointers, next.deref other = heap.deref other := by
  rcases owned.exists_cell List.mem_cons_self with ⟨cell, found, counts⟩
  rw [List.count_cons_self] at counts
  rcases owned.recount found (cell.count - 1) pointers
    (by omega) (by intro other different; simp [Ne.symm different])
    (if cell.count ≤ 1 then none else some { cell with count := cell.count - 1 })
    (by split_ifs <;> first | rfl | omega) with ⟨ownedNext, derefs⟩
  exact ⟨_, Arena.modify_eq found _, ownedNext, rfl, derefs⟩

theorem Owned.dropAll {ids : List ℕ} (owned : heap.Owned (ids ++ pointers)) :
    ∃ next, heap.dropAll ids = some next ∧ next.Owned pointers ∧ next.made = heap.made ∧
      ∀ other ∈ pointers, next.deref other = heap.deref other := by
  induction ids generalizing heap with
  | nil => exact ⟨heap, rfl, owned, rfl, fun _ _ => rfl⟩
  | cons id ids ih =>
      have all : heap.Owned (id :: (ids ++ pointers)) := owned
      rcases all.drop with ⟨dropped, isDropped, ownedDropped, made, derefs⟩
      rcases ih ownedDropped with ⟨next, isNext, ownedNext, madeNext, derefsNext⟩
      refine ⟨next, ?_, ownedNext, madeNext.trans made, ?_⟩
      · rw [SharedHeap.dropAll, isDropped]
        exact isNext
      · intro other pointer
        rw [derefsNext other pointer, derefs other (List.mem_append_right ids pointer)]

end SharedHeap

end HttpsServerSim
