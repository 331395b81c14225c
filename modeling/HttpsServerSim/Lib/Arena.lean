import Mathlib.Data.Nat.Notation
import Mathlib.Logic.Function.Basic

/-!
# Arenas

Objects that a library makes, changes and frees for its user, who knows each of them by a number
that is never given out again. An access to an object that is not there has no result.
-/

namespace HttpsServerSim

universe u

structure Arena (Object : Type u) where
  cells : ℕ → Option Object
  made : ℕ
  fresh : ∀ {id : ℕ}, made ≤ id → cells id = none

namespace Arena

variable {Object : Type u}

def empty : Arena Object where
  cells := fun _ => none
  made := 0
  fresh := fun _ => rfl

/-- The object is there. -/
def Alive (arena : Arena Object) (id : ℕ) : Prop := (arena.cells id).isSome = true

instance (arena : Arena Object) (id : ℕ) : Decidable (arena.Alive id) :=
  inferInstanceAs (Decidable (_ = true))

/-- A new object, which gets the number `made`. -/
def make (arena : Arena Object) (object : Object) : Arena Object where
  cells := Function.update arena.cells arena.made (some object)
  made := arena.made + 1
  fresh := by
    intro id later
    rw [Function.update_of_ne (by omega)]
    exact arena.fresh (by omega)

/-- What is at a number that has been given out is replaced. -/
def put (arena : Arena Object) (id : ℕ) (cell : Option Object) : Arena Object where
  cells := if id < arena.made then Function.update arena.cells id cell else arena.cells
  made := arena.made
  fresh := by
    intro other later
    split
    next given =>
      rw [Function.update_of_ne (by omega)]
      exact arena.fresh later
    next => exact arena.fresh later

/-- An object is changed, or freed where the change gives none. -/
def modify (arena : Arena Object) (id : ℕ) (change : Object → Option Object) :
    Option (Arena Object) :=
  (arena.cells id).map fun object => arena.put id (change object)

variable {arena : Arena Object} {id other : ℕ} {object : Object}

@[simp]
theorem cells_empty (id : ℕ) : (empty : Arena Object).cells id = none := rfl

@[simp]
theorem made_make (arena : Arena Object) (object : Object) :
    (arena.make object).made = arena.made + 1 := rfl

@[simp]
theorem cells_make (arena : Arena Object) (object : Object) :
    (arena.make object).cells = Function.update arena.cells arena.made (some object) := rfl

theorem cells_put (given : id < arena.made) (cell : Option Object) :
    (arena.put id cell).cells = Function.update arena.cells id cell :=
  if_pos given

theorem lt_made (found : arena.cells id = some object) : id < arena.made := by
  by_contra later
  rw [arena.fresh (Nat.le_of_not_lt later)] at found
  cases found

theorem modify_eq (found : arena.cells id = some object) (change : Object → Option Object) :
    arena.modify id change = some (arena.put id (change object)) := by
  rw [modify, found]
  rfl

@[ext]
theorem ext {first second : Arena Object} (cells : first.cells = second.cells)
    (made : first.made = second.made) : first = second := by
  cases first
  cases second
  simp_all

theorem alive_iff : arena.Alive id ↔ ∃ object, arena.cells id = some object :=
  Option.isSome_iff_exists

/-- An object that changes is still there. -/
theorem alive_put_some (found : arena.cells id = some object) (changed : Object) :
    (arena.put id (some changed)).Alive other ↔ arena.Alive other := by
  unfold Alive
  rw [cells_put (lt_made found)]
  by_cases here : other = id
  · rw [here, Function.update_self, found]
    exact Iff.rfl
  · rw [Function.update_of_ne here]

theorem alive_put_none (found : arena.cells id = some object) :
    (arena.put id none).Alive other ↔ arena.Alive other ∧ id ≠ other := by
  unfold Alive
  rw [cells_put (lt_made found)]
  by_cases here : other = id
  · rw [here, Function.update_self]
    simp
  · rw [Function.update_of_ne here]
    simp [Ne.symm here]

theorem alive_make (arena : Arena Object) (object : Object) :
    (arena.make object).Alive other ↔ other = arena.made ∨ arena.Alive other := by
  unfold Alive
  rw [cells_make]
  by_cases new : other = arena.made
  · rw [new, Function.update_self]
    simp
  · rw [Function.update_of_ne new]
    simp [new]

/-- The last value that is put somewhere counts. -/
@[simp]
theorem put_put (arena : Arena Object) (id : ℕ) (first second : Option Object) :
    (arena.put id first).put id second = arena.put id second := by
  by_cases given : id < arena.made
  · apply Arena.ext
    · rw [cells_put given, cells_put (by exact given), cells_put given, Function.update_idem]
    · rfl
  · apply Arena.ext
    · simp [put, given]
    · rfl

/-- To put back what is there changes nothing. -/
theorem put_cells (arena : Arena Object) (id : ℕ) : arena.put id (arena.cells id) = arena := by
  apply Arena.ext
  · simp [put]
  · rfl

theorem put_make (arena : Arena Object) (object : Object) (cell : Object) :
    (arena.make object).put arena.made (some cell) = arena.make cell := by
  apply Arena.ext
  · rw [cells_put (by simp), cells_make, cells_make, Function.update_idem]
  · rfl

end Arena

end HttpsServerSim
