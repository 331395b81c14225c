import Mathlib.Data.List.Basic

/-!
# The last write to a cell

Writes to the cells of a store are applied one after the other. A cell that a write to it
sets, and that writes to other cells leave alone, holds the last value written to it, or
what it held before if there is none.
-/

namespace HttpsServerSim

namespace LastWrite

universe u v w

variable {Store : Type u} {Address : Type v} {Value : Type w} [DecidableEq Address]

/-- The value of the last write to an address. -/
def last (address : Address) : List (Address × Value) → Option Value
  | [] => none
  | write :: writes =>
      match last address writes with
      | some value => some value
      | none => if write.1 = address then some write.2 else none

/-- A cell holds what was last written to it. -/
theorem foldl_eq {get : Store → Value} {put : Store → Address → Value → Store} {address : Address}
    (getPut : ∀ store value, get (put store address value) = value)
    (getPutOther : ∀ store other value, other ≠ address → get (put store other value) = get store)
    (store : Store) (writes : List (Address × Value)) :
    get (writes.foldl (fun store write => put store write.1 write.2) store) =
      (last address writes).getD (get store) := by
  induction writes generalizing store with
  | nil => rfl
  | cons write writes ih =>
      rw [List.foldl_cons, ih]
      simp only [last]
      cases last address writes with
      | some value => rfl
      | none =>
          by_cases here : write.1 = address
          · simp [here, getPut]
          · simp [here, getPutOther]

end LastWrite

end HttpsServerSim
