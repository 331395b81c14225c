import Mathlib.Data.Int.ModEq

/-!
# Integers in a range

A machine type holds the integers of a range. A conversion to it takes any integer to the one of
the range that differs from it by a multiple of the size, so it keeps exactly the integers that
are in the range already.
-/

namespace HttpsServerSim

structure IntegerRange where
  lower : ℤ
  size : ℤ
  size_pos : 0 < size

namespace IntegerRange

variable {range : IntegerRange} {z : ℤ}

def Contains (range : IntegerRange) (z : ℤ) : Prop :=
  range.lower ≤ z ∧ z < range.lower + range.size

instance (range : IntegerRange) : DecidablePred range.Contains := fun z =>
  inferInstanceAs (Decidable (range.lower ≤ z ∧ z < range.lower + range.size))

/-- The integer of the range with the same remainder. -/
def reduce (range : IntegerRange) (z : ℤ) : ℤ := range.lower + (z - range.lower) % range.size

theorem contains_reduce (range : IntegerRange) (z : ℤ) : range.Contains (range.reduce z) := by
  have nonneg := Int.emod_nonneg (z - range.lower) range.size_pos.ne'
  have below := Int.emod_lt_of_pos (z - range.lower) range.size_pos
  unfold Contains reduce
  omega

theorem reduce_of_contains (inside : range.Contains z) : range.reduce z = z := by
  rcases inside with ⟨lower, upper⟩
  have same : (z - range.lower) % range.size = z - range.lower := by
    apply Int.emod_eq_of_lt
    · omega
    · omega
  simp [reduce, same]

/-- The conversion keeps the integers of the range and no others. -/
theorem reduce_eq_iff : range.reduce z = z ↔ range.Contains z := by
  refine ⟨?_, reduce_of_contains⟩
  intro kept
  simpa [kept] using range.contains_reduce z

/-- An integer of the range that differs by a multiple of the size is what the conversion gives. -/
theorem eq_reduce {word : ℤ} (inside : range.Contains word) (congruent : range.size ∣ z - word) :
    word = range.reduce z := by
  have same : word - range.lower ≡ z - range.lower [ZMOD range.size] := by
    apply Int.modEq_iff_dvd.mpr
    simpa using congruent
  have kept := reduce_of_contains inside
  simp only [reduce] at kept ⊢
  simpa [← same.eq] using kept.symm

/-! ## The ranges of machine types -/

def uint16 : IntegerRange := ⟨0, 2 ^ 16, by decide⟩

def uint32 : IntegerRange := ⟨0, 2 ^ 32, by decide⟩

def int32 : IntegerRange := ⟨-2 ^ 31, 2 ^ 32, by decide⟩

/-- A signed word of 64 bits and the unsigned one with its bits. -/
theorem dvd_toInt_sub_toNat (value : Int64) :
    (2 ^ 64 : ℤ) ∣ value.toInt - value.toUInt64.toNat := by
  have shape : value.toInt = Int.bmod value.toUInt64.toNat (2 ^ 64) :=
    BitVec.toInt_eq_toNat_bmod value.toBitVec
  rw [shape]
  exact_mod_cast Int.dvd_bmod_sub_self

theorem toNat_toUInt16 (value : UInt64) :
    (value.toUInt16.toNat : ℤ) = uint16.reduce value.toNat := by
  simp [uint16, reduce]

theorem toNat_toUInt32 (value : UInt64) :
    (value.toUInt32.toNat : ℤ) = uint32.reduce value.toNat := by
  simp [uint32, reduce]

theorem contains_int32 (word : Int32) : int32.Contains word.toInt := by
  have above := word.le_toInt
  have below := word.toInt_lt
  simp only [Contains, int32]
  omega

theorem toNat_toUInt64_toUInt16 (value : Int64) :
    (value.toUInt64.toUInt16.toNat : ℤ) = uint16.reduce value.toInt := by
  have same := toNat_toUInt16 value.toUInt64
  have congruent := dvd_toInt_sub_toNat value
  simp only [uint16, reduce] at same ⊢
  omega

theorem toNat_toUInt64_toUInt32 (value : Int64) :
    (value.toUInt64.toUInt32.toNat : ℤ) = uint32.reduce value.toInt := by
  have same := toNat_toUInt32 value.toUInt64
  have congruent := dvd_toInt_sub_toNat value
  simp only [uint32, reduce] at same ⊢
  omega

theorem toInt_toInt32 (value : Int64) : value.toInt32.toInt = int32.reduce value.toInt := by
  apply eq_reduce (contains_int32 _)
  rw [Int64.toInt_toInt32]
  exact Int.dvd_self_sub_bmod

theorem toInt_toUInt32_toInt32 (value : UInt64) :
    value.toUInt32.toInt32.toInt = int32.reduce value.toNat := by
  apply eq_reduce (contains_int32 _)
  have shape : value.toUInt32.toInt32.toInt = Int.bmod value.toUInt32.toNat (2 ^ 32) :=
    BitVec.toInt_eq_toNat_bmod value.toUInt32.toBitVec
  have congruent :
      (2 ^ 32 : ℤ) ∣ Int.bmod value.toUInt32.toNat (2 ^ 32) - value.toUInt32.toNat := by
    exact_mod_cast Int.dvd_bmod_sub_self
  have same := toNat_toUInt32 value
  simp only [uint32, int32, reduce] at same ⊢
  omega

end IntegerRange

end HttpsServerSim
