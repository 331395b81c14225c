import HttpsServerSim.Lib.PrefixedInteger
import HttpsServerSim.Protocol.Hpack
import Mathlib.Data.Nat.Bitwise
import Mathlib.Tactic.Ring

/-!
# What `decode_int` computes

`decode_int` against the integer that stands in the data. The loop adds one group
after the other into a 32-bit word and never asks whether the group still fits: a
value of `2 ^ 32` or more wraps, and the sixth continuation byte is shifted by 35.
Up to there, five continuation bytes and a value that a word can hold, the result is
the integer and nothing but its bytes is consumed.

A shift by 32 or more is left open by C++, so the result for a longer encoding
is not known even if its value is small. Where shifting a zero that far gives a zero,
as on every usual processor, padded encodings of any length are read correctly.
-/

namespace HttpsServerSim

namespace Hpack

open PrefixedInteger

/-- The counts of the shifts the loop of `decode_int` performs. -/
def shiftCountsLoop (shift : ℕ) : Bytes → List ℕ
  | [] => []
  | byte :: rest =>
      shift :: if byte &&& 0x80 = 0 then [] else shiftCountsLoop ((shift + 7) % 2 ^ 32) rest

/-- The counts of the shifts `decode_int` performs. -/
def shiftCounts (bits : ℕ) : Bytes → List ℕ
  | [] => []
  | byte :: rest =>
      let mask := prefixMask bits
      if (byte &&& mask).toNat < mask.toNat then [] else shiftCountsLoop 0 rest

/-! ## Bits of a byte -/

theorem toNat_prefixMask {bits : ℕ} (bits_le : bits ≤ 8) :
    (prefixMask bits).toNat = 2 ^ bits - 1 := by
  have power_le : 2 ^ bits ≤ 2 ^ 8 := Nat.pow_le_pow_right (by decide) bits_le
  have positive : 0 < 2 ^ bits := Nat.two_pow_pos bits
  rw [prefixMask, UInt8.toNat_ofNat']
  omega

theorem toNat_and_prefixMask (byte : UInt8) {bits : ℕ} (bits_le : bits ≤ 8) :
    (byte &&& prefixMask bits).toNat = byte.toNat % 2 ^ bits := by
  rw [UInt8.toNat_and, toNat_prefixMask bits_le, Nat.and_two_pow_sub_one_eq_mod]

theorem unmarked_iff (byte : UInt8) : byte &&& 0x80 = 0 ↔ byte.toNat < 128 := by
  have byte_lt := byte.toNat_lt
  have bit : (byte &&& 0x80).toNat = (byte.toNat.testBit 7).toNat * 2 ^ 7 := by
    rw [UInt8.toNat_and]
    exact Nat.and_two_pow byte.toNat 7
  rw [← UInt8.toNat_inj, bit, Nat.testBit_eq_decide_div_mod_eq]
  by_cases marked : byte.toNat / 2 ^ 7 % 2 = 1
  · simp only [marked, decide_true]
    simp
    omega
  · simp only [marked, decide_false]
    simp
    omega

theorem toNat_and_low (byte : UInt8) : (byte &&& 0x7F).toNat = byte.toNat % 128 := by
  have bits_le : 7 ≤ 8 := by decide
  exact toNat_and_prefixMask byte bits_le

/-! ## Shifts -/

/-- The counts grow by seven, so they stay below 32 for five bytes. -/
theorem shiftCountsLoop_lt_iff {shift : ℕ} (data : Bytes) (shift_le : shift ≤ 38) :
    (∀ count ∈ shiftCountsLoop shift data, count < 32) ↔
      shift + 7 * (groups data).length ≤ 38 := by
  induction data generalizing shift with
  | nil => simpa [shiftCountsLoop, groups] using shift_le
  | cons byte data ih =>
      simp only [shiftCountsLoop, groups, unmarked_iff, List.forall_mem_cons]
      split_ifs with unmarked
      · simp
        omega
      · by_cases inRange : shift < 32
        · have no_wrap : (shift + 7) % 2 ^ 32 = shift + 7 := Nat.mod_eq_of_lt (by omega)
          rw [no_wrap, ih (by omega), List.length_cons]
          omega
        · simp only [inRange, false_and, List.length_cons, false_iff]
          omega

theorem shiftCounts_lt_iff {bits : ℕ} (bits_le : bits ≤ 8) (data : Bytes) :
    (∀ count ∈ shiftCounts bits data, count < 32) ↔ (continuation bits data).length ≤ 5 := by
  cases data with
  | nil => simp [shiftCounts, continuation]
  | cons first rest =>
      simp only [shiftCounts, continuation, toNat_and_prefixMask first bits_le,
        toNat_prefixMask bits_le]
      split_ifs
      · simp
      · rw [shiftCountsLoop_lt_iff rest (by decide)]
        omega

section Decoding

variable [WideShift]

/-! ## Values -/

theorem addShifted_lt (value : ℕ) (byte : UInt8) (shift : ℕ) :
    addShifted value byte shift < 2 ^ 32 := by
  apply Nat.mod_lt
  decide

theorem decodeIntLoop_lt {value shift number : ℕ} {data rest : Bytes}
    (decoded : decodeIntLoop value shift data = .ok (number, rest)) : number < 2 ^ 32 := by
  induction data generalizing value shift with
  | nil => cases decoded
  | cons byte data ih =>
      simp only [decodeIntLoop] at decoded
      split_ifs at decoded
      · cases decoded
        exact addShifted_lt value byte shift
      · exact ih decoded

theorem decodeInt_lt {bits number : ℕ} {data rest : Bytes}
    (decoded : decodeInt bits data = .ok (number, rest)) : number < 2 ^ 32 := by
  cases data with
  | nil => cases decoded
  | cons first data =>
      simp only [decodeInt] at decoded
      split_ifs at decoded
      · cases decoded
        have byte_lt := (first &&& prefixMask bits).toNat_lt
        omega
      · exact decodeIntLoop_lt decoded

/-- The loop ends where the groups end, whatever value it has by then. -/
theorem decodeIntLoop_rest (value shift : ℕ) (data : Bytes) :
    match readExcess data with
    | none => decodeIntLoop value shift data = .error .invalid
    | some (_, rest) => ∃ number, decodeIntLoop value shift data = .ok (number, rest) := by
  induction data generalizing value shift with
  | nil => rfl
  | cons byte data ih =>
      simp only [readExcess, decodeIntLoop, unmarked_iff]
      split_ifs with unmarked
      · exact ⟨_, rfl⟩
      · have after := ih (addShifted value byte shift) ((shift + 7) % 2 ^ 32)
        cases excess : readExcess data with
        | none => simpa [excess] using after
        | some result => simpa [excess] using after

/-- `decode_int` succeeds exactly if the integer is complete, and consumes it. -/
theorem decodeInt_rest {bits : ℕ} (bits_le : bits ≤ 8) (data : Bytes) :
    match readInteger bits data with
    | none => decodeInt bits data = .error .invalid
    | some (_, rest) => ∃ number, decodeInt bits data = .ok (number, rest) := by
  cases data with
  | nil => rfl
  | cons first data =>
      simp only [readInteger, decodeInt, toNat_and_prefixMask first bits_le,
        toNat_prefixMask bits_le]
      split_ifs
      · exact ⟨_, rfl⟩
      · have after := decodeIntLoop_rest (first.toNat % 2 ^ bits) 0 data
        cases excess : readExcess data with
        | none => simpa [excess] using after
        | some result => simpa [excess] using after

/-- Zeros far behind the prefix change nothing if a shift leaves them zero. -/
theorem decodeIntLoop_of_zeros (zeroShift : ∀ count, WideShift.shift 0 count = 0)
    {value excess : ℕ} (shift : ℕ) {data rest : Bytes} (value_lt : value < 2 ^ 32)
    (there : readExcess data = some (excess, rest)) (zeros : excess = 0) :
    decodeIntLoop value shift data = .ok (value, rest) := by
  induction data generalizing excess shift with
  | nil => cases there
  | cons byte data ih =>
      have added (low_eq : byte.toNat % 128 = 0) : addShifted value byte shift = value := by
        simp only [addShifted, toNat_and_low, low_eq, Nat.zero_shiftLeft, zeroShift, ite_self,
          Nat.add_zero]
        exact Nat.mod_eq_of_lt value_lt
      simp only [readExcess] at there
      simp only [decodeIntLoop, unmarked_iff]
      split_ifs at there ⊢ with unmarked
      · cases there
        rw [added (by omega)]
      · cases after : readExcess data with
        | none => simp [after] at there
        | some result =>
            rcases result with ⟨higher, afterRest⟩
            simp only [after, Option.map_some, Option.some.injEq, Prod.mk.injEq] at there
            rcases there with ⟨sum, rfl⟩
            have byte_lt := byte.toNat_lt
            rw [added (by omega)]
            exact ih _ after (by omega)

/-- What the loop adds to a value is the excess, as long as it fits and no shift matters whose
result is open. -/
theorem decodeIntLoop_eq {value shift excess : ℕ} {data rest : Bytes} (shift_lt : shift < 32)
    (there : readExcess data = some (excess, rest))
    (fits : value + excess * 2 ^ shift < 2 ^ 32)
    (shifts : shift + 7 * (groups data).length ≤ 38 ∨ ∀ count, WideShift.shift 0 count = 0) :
    decodeIntLoop value shift data = .ok (value + excess * 2 ^ shift, rest) := by
  induction data generalizing value shift excess with
  | nil => cases there
  | cons byte data ih =>
      have byte_lt := byte.toNat_lt
      have added (low_fits : value + byte.toNat % 128 * 2 ^ shift < 2 ^ 32) :
          addShifted value byte shift = value + byte.toNat % 128 * 2 ^ shift := by
        simp only [addShifted, toNat_and_low, shift_lt, if_true, Nat.shiftLeft_eq]
        exact Nat.mod_eq_of_lt low_fits
      simp only [readExcess] at there
      simp only [groups] at shifts
      simp only [decodeIntLoop, unmarked_iff]
      split_ifs at there shifts ⊢ with unmarked
      · cases there
        have low_eq : byte.toNat % 128 = byte.toNat := Nat.mod_eq_of_lt unmarked
        rw [low_eq] at added
        rw [added fits]
      · cases after : readExcess data with
        | none => simp [after] at there
        | some result =>
            rcases result with ⟨higher, afterRest⟩
            simp only [after, Option.map_some, Option.some.injEq, Prod.mk.injEq] at there
            rcases there with ⟨sum, rfl⟩
            have low_eq : byte.toNat % 128 = byte.toNat - 128 := by omega
            have parts : excess * 2 ^ shift =
                byte.toNat % 128 * 2 ^ shift + higher * 2 ^ (shift + 7) := by
              rw [← sum, low_eq, pow_add]
              ring
            have no_wrap : (shift + 7) % 2 ^ 32 = shift + 7 := Nat.mod_eq_of_lt (by omega)
            rw [added (by omega), no_wrap, parts, ← Nat.add_assoc]
            by_cases inRange : shift + 7 < 32
            · apply ih inRange after (by omega)
              rcases shifts with short | zeroShift
              · left
                rw [List.length_cons] at short
                omega
              · right
                exact zeroShift
            · -- a further group would not fit if it were not zero
              have power : 2 ^ 32 ≤ 2 ^ (shift + 7) :=
                Nat.pow_le_pow_right (by decide) (by omega)
              have higher_eq : higher = 0 := by
                by_contra nonzero
                have positive : 1 ≤ higher := Nat.pos_of_ne_zero nonzero
                have large := Nat.mul_le_mul positive power
                omega
              rcases shifts with short | zeroShift
              · rw [List.length_cons] at short
                have none_left : (groups data).length = 0 := by omega
                cases data with
                | nil => cases after
                | cons byte data =>
                    simp only [groups] at none_left
                    split_ifs at none_left
              · rw [higher_eq, Nat.zero_mul, Nat.add_zero]
                exact decodeIntLoop_of_zeros zeroShift _ (by omega) after higher_eq

/-- The integer that is there is decoded if a 32-bit word holds it and no shift matters whose
result is open. -/
theorem decodeInt_eq {bits number : ℕ} (bits_le : bits ≤ 8) {data rest : Bytes}
    (there : readInteger bits data = some (number, rest)) (number_lt : number < 2 ^ 32)
    (shifts : (continuation bits data).length ≤ 5 ∨ ∀ count, WideShift.shift 0 count = 0) :
    decodeInt bits data = .ok (number, rest) := by
  cases data with
  | nil => cases there
  | cons first data =>
      simp only [readInteger] at there
      simp only [continuation] at shifts
      simp only [decodeInt, toNat_and_prefixMask first bits_le, toNat_prefixMask bits_le]
      split_ifs at there shifts ⊢ with small
      · cases there
        rfl
      · cases after : readExcess data with
        | none => simp [after] at there
        | some result =>
            rcases result with ⟨excess, afterRest⟩
            simp only [after, Option.map_some, Option.some.injEq, Prod.mk.injEq] at there
            rcases there with ⟨rfl, rfl⟩
            have low_lt : first.toNat % 2 ^ bits < 2 ^ bits := Nat.mod_lt _ (Nat.two_pow_pos bits)
            have low_eq : first.toNat % 2 ^ bits = 2 ^ bits - 1 := by omega
            have shifts : 0 + 7 * (groups data).length ≤ 38 ∨
                ∀ count, WideShift.shift 0 count = 0 := by
              rcases shifts with short | zeroShift
              · left
                omega
              · right
                exact zeroShift
            have fits : 2 ^ bits - 1 + excess * 2 ^ 0 < 2 ^ 32 := by omega
            rw [low_eq, decodeIntLoop_eq (by decide) after fits shifts, pow_zero, Nat.mul_one]

/-- `decode_int` gives the integer that is there or fails, by shifts that are defined. -/
structure DecodesExactly (bits : ℕ) (data : Bytes) : Prop where
  exact : ∀ number rest, decodeInt bits data = .ok (number, rest) →
    readInteger bits data = some (number, rest) ∧ number < 2 ^ 32
  shifts : ∀ count ∈ shiftCounts bits data, count < 32
  tooLarge : ∀ number rest, readInteger bits data = some (number, rest) → 2 ^ 32 ≤ number →
    ∃ status, decodeInt bits data = .error status

/-- The decoder is exact on an integer of at most five bytes after the first whose value, if it
is complete, fits a 32-bit word, and on no other. -/
theorem decodesExactly_iff {bits : ℕ} (five_le : 5 ≤ bits) (le_seven : bits ≤ 7) (data : Bytes) :
    DecodesExactly bits data ↔
      (continuation bits data).length ≤ 5 ∧
        ∀ number rest, readInteger bits data = some (number, rest) → number < 2 ^ 32 := by
  have bits_le : bits ≤ 8 := by omega
  have consumed := decodeInt_rest bits_le data
  constructor
  · rintro ⟨-, shifts, tooLarge⟩
    refine ⟨(shiftCounts_lt_iff bits_le data).mp shifts, ?_⟩
    intro number rest there
    by_contra large
    rw [there] at consumed
    rcases consumed with ⟨decoded, succeeds⟩
    rcases tooLarge number rest there (Nat.not_lt.mp large) with ⟨status, fails⟩
    rw [succeeds] at fails
    cases fails
  · rintro ⟨short, small⟩
    refine ⟨?_, (shiftCounts_lt_iff bits_le data).mpr short, ?_⟩
    · intro number rest decoded
      cases there : readInteger bits data with
      | none =>
          simp only [there] at consumed
          rw [decoded] at consumed
          cases consumed
      | some result =>
          rcases result with ⟨exactly, after⟩
          have number_lt := small exactly after there
          rw [decodeInt_eq bits_le there number_lt (.inl short)] at decoded
          cases decoded
          exact ⟨rfl, number_lt⟩
    · intro number rest there large
      have number_lt := small number rest there
      omega

end Decoding

theorem decodesExactly_two_groups : DecodesExactly 7 [0x7F, 0x80, 0x01, 0x41] := by
  rw [decodesExactly_iff (by decide) (by decide)]
  refine ⟨by decide, ?_⟩
  intro number rest there
  have value : readInteger 7 [0x7F, 0x80, 0x01, 0x41] = some (255, [0x41]) := rfl
  rw [value] at there
  cases there
  decide

/-- The integer `2 ^ 32 + 126` in five continuation bytes is taken for 126. -/
theorem not_decodesExactly :
    ¬ ∀ bits data, 5 ≤ bits → bits ≤ 7 → DecodesExactly bits data := by
  intro always
  have exactly := always 7 [0x7F, 0xFF, 0xFF, 0xFF, 0xFF, 0x0F] (by decide) (by decide)
  have wrapped : decodeInt 7 [0x7F, 0xFF, 0xFF, 0xFF, 0xFF, 0x0F] = .ok (126, []) := rfl
  have there : readInteger 7 [0x7F, 0xFF, 0xFF, 0xFF, 0xFF, 0x0F] = some (4294967422, []) := rfl
  have same := (exactly.exact 126 [] wrapped).1
  rw [there] at same
  cases same

end Hpack

end HttpsServerSim
