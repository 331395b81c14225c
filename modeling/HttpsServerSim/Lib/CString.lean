import HttpsServerSim.Lib.Bytes
import Mathlib.Order.Basic

/-!
# C strings and pointers

A string is given by the bytes at its address, up to its first zero byte at least. The comparison
of strings goes by their bytes before that one.
-/

namespace HttpsServerSim

/-- An address, as far as only its being null is looked at. -/
abbrev Pointer := ℕ

def nullptr : Pointer := 0

/-- The bytes before the first zero byte, counted up to a limit. -/
def strnlen (text : Bytes) (maxlen : ℕ) : ℕ :=
  (cString (text.take maxlen)).length

theorem strnlen_eq_min (text : Bytes) (maxlen : ℕ) :
    strnlen text maxlen = min maxlen (cString text).length := by
  unfold strnlen cString
  rw [← List.take_takeWhile, List.length_take]

/-- The sign of what `strcmp` returns. -/
def strcmp (left right : Bytes) : Ordering :=
  compare (cString left) (cString right)

theorem strcmp_eq_iff {left right : Bytes} :
    strcmp left right = .eq ↔ cString left = cString right :=
  Std.compare_eq_iff_eq

theorem strcmp_self (text : Bytes) : strcmp text text = .eq :=
  strcmp_eq_iff.mpr rfl

theorem strcmp_trans {first second third : Bytes} (less : strcmp first second = .lt)
    (alsoLess : strcmp second third = .lt) : strcmp first third = .lt := by
  unfold strcmp at less alsoLess ⊢
  exact Std.TransCmp.lt_trans less alsoLess

theorem strcmp_gt_iff {left right : Bytes} : strcmp left right = .gt ↔ strcmp right left = .lt := by
  unfold strcmp
  exact Std.OrientedCmp.gt_iff_lt

/-- Two different strings are in order, one way or the other. -/
theorem strcmp_total {left right : Bytes} (different : cString left ≠ cString right) :
    strcmp left right = .lt ∨ strcmp right left = .lt := by
  cases order : strcmp left right with
  | lt => exact Or.inl rfl
  | eq => exact absurd (strcmp_eq_iff.mp order) different
  | gt => exact Or.inr (strcmp_gt_iff.mp order)

/-- A string between two strings in order is in order with one of them. -/
theorem strcmp_cotrans {first second : Bytes} (less : strcmp first second = .lt) (middle : Bytes) :
    strcmp first middle = .lt ∨ strcmp middle second = .lt := by
  cases order : strcmp first middle with
  | lt => exact Or.inl rfl
  | eq =>
      right
      unfold strcmp at less ⊢
      rw [← strcmp_eq_iff.mp order]
      exact less
  | gt => exact Or.inr (strcmp_trans (strcmp_gt_iff.mp order) less)

end HttpsServerSim
