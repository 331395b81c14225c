import Mathlib.Algebra.Order.BigOperators.Group.List
import Mathlib.Algebra.Order.Ring.Nat

/-!
# Order statistics

The elements of a sorted list by their rank, where the rank of a percentage is rounded down, and
the mean of numbers, rounded down too.
-/

namespace HttpsServerSim

universe u

variable {α : Type u}

/-! ## Ranks -/

/-- The rank, from zero, of a percentage among so many elements. -/
def percentileRank (percent count : ℕ) : ℕ :=
  (count - 1) * percent / 100

theorem percentileRank_lt {percent count : ℕ} (part : percent ≤ 100) (nonempty : 0 < count) :
    percentileRank percent count < count := by
  unfold percentileRank
  have bound : (count - 1) * percent ≤ (count - 1) * 100 := Nat.mul_le_mul_left _ part
  omega

theorem percentileRank_mono {percent greater : ℕ} (le : percent ≤ greater) (count : ℕ) :
    percentileRank percent count ≤ percentileRank greater count :=
  Nat.div_le_div_right (Nat.mul_le_mul_left _ le)

/-- In a sorted list the elements grow with their ranks. -/
theorem le_of_rank_le [LE α] [Std.IsPreorder α] {elements : List α}
    (sorted : elements.Pairwise (· ≤ ·)) {rank greater : ℕ} {a b : α} (le : rank ≤ greater)
    (first : elements[rank]? = some a) (second : elements[greater]? = some b) : a ≤ b := by
  rcases List.getElem?_eq_some_iff.mp first with ⟨inFirst, rfl⟩
  rcases List.getElem?_eq_some_iff.mp second with ⟨inSecond, rfl⟩
  rcases Nat.eq_or_lt_of_le le with rfl | less
  · exact Std.le_refl _
  · exact List.pairwise_iff_getElem.mp sorted rank greater inFirst inSecond less

/-- The least and the greatest of the elements. -/
structure IsExtremes [LE α] (elements : List α) (least greatest : α) : Prop where
  least_mem : least ∈ elements
  greatest_mem : greatest ∈ elements
  between : ∀ element ∈ elements, least ≤ element ∧ element ≤ greatest

theorem IsExtremes.congr [LE α] {elements others : List α} {least greatest : α}
    (extremes : IsExtremes elements least greatest)
    (same : ∀ element, element ∈ elements ↔ element ∈ others) :
    IsExtremes others least greatest where
  least_mem := (same _).mp extremes.least_mem
  greatest_mem := (same _).mp extremes.greatest_mem
  between := by
    intro element isIn
    exact extremes.between element ((same element).mpr isIn)

theorem exists_extremes [LE α] [Std.IsPreorder α] {elements : List α}
    (sorted : elements.Pairwise (· ≤ ·)) (nonempty : 0 < elements.length) :
    ∃ least greatest, IsExtremes elements least greatest := by
  have last : elements.length - 1 < elements.length := by omega
  refine ⟨elements[0], elements[elements.length - 1], List.getElem_mem _, List.getElem_mem _, ?_⟩
  intro element isIn
  rcases List.getElem_of_mem isIn with ⟨rank, inside, rfl⟩
  have place := List.getElem?_eq_getElem inside
  refine ⟨?_, ?_⟩
  · exact le_of_rank_le sorted (Nat.zero_le rank) (List.getElem?_eq_getElem nonempty) place
  · exact le_of_rank_le sorted (Nat.le_sub_one_of_lt inside) place (List.getElem?_eq_getElem last)

/-! ## The mean -/

def mean (numbers : List ℕ) : ℕ :=
  numbers.sum / numbers.length

variable {numbers : List ℕ} {bound : ℕ}

theorem le_mean (nonempty : numbers ≠ []) (lower : ∀ number ∈ numbers, bound ≤ number) :
    bound ≤ mean numbers := by
  apply (Nat.le_div_iff_mul_le (List.length_pos_of_ne_nil nonempty)).mpr
  rw [Nat.mul_comm]
  exact List.card_nsmul_le_sum numbers bound lower

theorem mean_le (upper : ∀ number ∈ numbers, number ≤ bound) : mean numbers ≤ bound := by
  apply Nat.div_le_of_le_mul
  exact List.sum_le_card_nsmul numbers bound upper

/-- Numbers of 32 bits are summed in 64 bits. -/
theorem toNat_sum (numbers : List UInt32) (sum : UInt64)
    (fits : sum.toNat + (numbers.map UInt32.toNat).sum < 2 ^ 64) :
    (numbers.foldl (fun sum number => sum + number.toUInt64) sum).toNat =
      sum.toNat + (numbers.map UInt32.toNat).sum := by
  induction numbers generalizing sum with
  | nil => simp
  | cons number numbers ih =>
      rw [List.map_cons, List.sum_cons] at fits
      have added : (sum + number.toUInt64).toNat = sum.toNat + number.toNat := by
        rw [UInt64.toNat_add, UInt32.toNat_toUInt64]
        exact Nat.mod_eq_of_lt (by omega)
      rw [List.foldl_cons, ih _ (by omega), added, List.map_cons, List.sum_cons]
      omega

end HttpsServerSim
