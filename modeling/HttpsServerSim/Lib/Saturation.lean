import Mathlib.Algebra.BigOperators.Group.List.Basic
import Mathlib.Algebra.Order.Group.Defs
import Mathlib.Algebra.Order.Group.Unbundled.Basic
import Mathlib.Algebra.Order.Monoid.Unbundled.MinMax

/-!
# Saturating addition

Addition that stops at a cap, with the test made before the addition so that no value above
the cap is ever computed. On a number that is itself cut off at the cap it is ordinary addition,
cut off at the cap. So a whole run of additions cuts off the sum once, and their order
does not matter.
-/

universe u

namespace Saturation

section Addition

variable {Value : Type u} [AddCommGroup Value] [LinearOrder Value]

/-- Add the amount, or stop at the cap. -/
def add (cap value amount : Value) : Value :=
  if cap - amount < value then cap else value + amount

variable [IsOrderedAddMonoid Value] {cap value amount : Value}

theorem add_eq_min : add cap value amount = min cap (value + amount) := by
  unfold add
  split_ifs with tooLarge
  · exact (min_eq_left (sub_lt_iff_lt_add.mp tooLarge).le).symm
  · exact (min_eq_right (le_sub_iff_add_le.mp (not_lt.mp tooLarge))).symm

theorem add_min (nonneg : 0 ≤ amount) :
    add cap (min cap value) amount = min cap (value + amount) := by
  have grows : cap ≤ cap + amount := le_add_of_nonneg_right nonneg
  rw [add_eq_min, ← min_add_add_right, ← min_assoc, min_eq_left grows]

/-- A run of additions cuts off the sum. -/
theorem foldl_add_min {amounts : List Value} (nonneg : ∀ amount ∈ amounts, 0 ≤ amount) :
    amounts.foldl (add cap) (min cap value) = min cap (value + amounts.sum) := by
  induction amounts generalizing value with
  | nil => rw [List.foldl_nil, List.sum_nil, add_zero]
  | cons amount amounts ih =>
      rcases List.forall_mem_cons.mp nonneg with ⟨first, others⟩
      rw [List.foldl_cons, add_min first, ih others, List.sum_cons, add_assoc]

theorem foldl_add {amounts : List Value} (nonneg : ∀ amount ∈ amounts, 0 ≤ amount)
    (below : value ≤ cap) : amounts.foldl (add cap) value = min cap (value + amounts.sum) := by
  have cut : amounts.foldl (add cap) (min cap value) = min cap (value + amounts.sum) :=
    foldl_add_min nonneg
  rwa [min_eq_right below] at cut

end Addition

/-! ## In 32-bit signed words -/

/-- Subtraction; an overflow has no result. -/
def subWord (left right : Int32) : Option Int32 :=
  if left.toBitVec.ssubOverflow right.toBitVec then none else some (left - right)

/-- Addition; an overflow has no result. -/
def addWord (left right : Int32) : Option Int32 :=
  if left.toBitVec.saddOverflow right.toBitVec then none else some (left + right)

theorem subWord_of_fits {left right : Int32} (lower : -2 ^ 31 ≤ left.toInt - right.toInt)
    (upper : left.toInt - right.toInt < 2 ^ 31) :
    ∃ difference, subWord left right = some difference ∧
      difference.toInt = left.toInt - right.toInt := by
  have fits : ¬ left.toBitVec.ssubOverflow right.toBitVec = true := by
    simp only [BitVec.ssubOverflow, Int32.toInt_toBitVec, Bool.or_eq_true, decide_eq_true_eq]
    omega
  refine ⟨left - right, if_neg fits, ?_⟩
  rw [← Int32.toInt_toBitVec, Int32.toBitVec_sub, BitVec.toInt_sub_of_not_ssubOverflow fits]
  rfl

theorem addWord_of_fits {left right : Int32} (lower : -2 ^ 31 ≤ left.toInt + right.toInt)
    (upper : left.toInt + right.toInt < 2 ^ 31) :
    ∃ sum, addWord left right = some sum ∧ sum.toInt = left.toInt + right.toInt := by
  have fits : ¬ left.toBitVec.saddOverflow right.toBitVec = true := by
    simp only [BitVec.saddOverflow, Int32.toInt_toBitVec, Bool.or_eq_true, decide_eq_true_eq]
    omega
  refine ⟨left + right, if_neg fits, ?_⟩
  rw [← Int32.toInt_toBitVec, Int32.toBitVec_add, BitVec.toInt_add_of_not_saddOverflow fits]
  rfl

/-- The test and the addition, each of them checked. -/
def addWords (cap value amount : Int32) : Option Int32 := do
  let room ← subWord cap amount
  if room < value then some cap else addWord value amount

/-- Neither the test nor the addition overflows. -/
theorem addWords_spec {cap value amount : Int32} (capNonneg : 0 ≤ cap.toInt)
    (nonneg : 0 ≤ amount.toInt) :
    ∃ after, addWords cap value amount = some after ∧
      after.toInt = add cap.toInt value.toInt amount.toInt := by
  have capUpper := cap.toInt_lt
  have amountUpper := amount.toInt_lt
  have valueLower := value.le_toInt
  have inRange : ∃ room, subWord cap amount = some room ∧
      room.toInt = cap.toInt - amount.toInt :=
    subWord_of_fits (by omega) (by omega)
  rcases inRange with ⟨room, subtracted, room_eq⟩
  have tested : room < value ↔ cap.toInt - amount.toInt < value.toInt := by
    rw [Int32.lt_iff_toInt_lt, room_eq]
  simp only [addWords, subtracted, Option.bind_eq_bind, Option.bind_some, tested, add]
  split_ifs with tooLarge
  · exact ⟨cap, rfl, rfl⟩
  · exact addWord_of_fits (by omega) (by omega)

end Saturation
