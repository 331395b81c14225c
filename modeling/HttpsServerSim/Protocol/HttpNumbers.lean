import HttpsServerSim.Protocol.HttpParser
import Mathlib.Data.List.TakeWhile

/-!
# Numbers in text

A decimal number is a string of ASCII digits that is not empty. `std::to_string` writes
one. `strtoull`, with the tests that follow it, reads more than these: white space and a
sign may come first, a minus sign wraps around, and a NUL byte ends the text.
-/

namespace HttpsServerSim

/-- The text is a string of ASCII digits that denotes the number. -/
structure IsDecimal (text : Bytes) (number : ℕ) : Prop where
  nonempty : text ≠ []
  digits : ∀ char ∈ text, isDigit char = true
  value : decimalValue text = number

theorem IsDecimal.unique {text : Bytes} {first second : ℕ} (decimal : IsDecimal text first)
    (other : IsDecimal text second) : first = second :=
  decimal.value.symm.trans other.value

theorem IsDecimal.of_all {text : Bytes} {number : ℕ} (nonempty : text ≠ [])
    (digits : text.all isDigit = true) (value : decimalValue text = number) :
    IsDecimal text number :=
  ⟨nonempty, List.all_eq_true.mp digits, value⟩

theorem isDecimal_toDecimal (number : ℕ) : IsDecimal (toDecimal number) number := by
  have byteOf {digit : Char} (member : digit ∈ Nat.toDigits 10 number) :
      48 ≤ digit.toNat ∧ digit.toNat ≤ 57 := by
    have isDigit := Nat.isDigit_of_mem_toDigits (by decide) (Nat.le_refl 10) member
    simp only [Char.isDigit, Bool.and_eq_true, decide_eq_true_eq] at isDigit
    exact isDigit
  refine ⟨?_, ?_, ?_⟩
  · intro empty
    exact Nat.toDigits_ne_nil (List.map_eq_nil_iff.mp empty)
  · intro char member
    rcases List.mem_map.mp member with ⟨digit, digitMember, rfl⟩
    rcases byteOf digitMember with ⟨lower, upper⟩
    have small : digit.toNat < 256 := by omega
    simp only [isDigit, decide_eq_true_eq, UInt8.le_iff_toNat_le, UInt8.toNat_ofNat',
      Nat.mod_eq_of_lt small]
    exact ⟨lower, upper⟩
  · have folded : ∀ (digits : List Char) (start : ℕ), (∀ digit ∈ digits, digit.toNat < 256) →
        (digits.map fun digit => UInt8.ofNat digit.toNat).foldl
          (fun value digit => 10 * value + (digit.toNat - 48)) start =
            Nat.ofDigitChars 10 digits start := by
      intro digits
      induction digits with
      | nil => exact fun _ _ => rfl
      | cons digit digits ih =>
          intro start small
          have byteEq : (UInt8.ofNat digit.toNat).toNat = digit.toNat :=
            Nat.mod_eq_of_lt (small digit List.mem_cons_self)
          rw [List.map_cons, List.foldl_cons, byteEq, Nat.ofDigitChars_cons]
          exact ih _ fun other member => small other (List.mem_cons_of_mem digit member)
    rw [toDecimal, decimalValue, folded, Nat.ofDigitChars_ten_toDigits]
    intro digit member
    have := (byteOf member).2
    omega

theorem not_mem_toDecimal {char : UInt8} (noDigit : isDigit char = false) (number : ℕ) :
    char ∉ toDecimal number := by
  intro member
  rw [(isDecimal_toDecimal number).digits char member] at noDigit
  cases noDigit

/-! ## What `strtoull` reads -/

/-- The optional sign of a C number. -/
inductive CSign where
  | none
  | plus
  | minus
deriving DecidableEq, Repr

namespace CSign

def bytes : CSign → Bytes
  | none => []
  | plus => [43]
  | minus => [45]

/-- The result for the digits after the sign. -/
def apply : CSign → ℕ → ℕ
  | minus, value => (2 ^ 64 - value) % 2 ^ 64
  | _, value => value

end CSign

/-- The text up to its first NUL byte is white space, a sign and digits whose value has 64 bits. -/
structure CNumberParts (text spaces : Bytes) (sign : CSign) (digits : Bytes) : Prop where
  text_eq : cString text = spaces ++ (sign.bytes ++ digits)
  are_spaces : ∀ char ∈ spaces, isSpace char = true
  nonempty : digits ≠ []
  are_digits : ∀ char ∈ digits, isDigit char = true
  in_range : decimalValue digits < 2 ^ 64

/-- A number in the sense of `strtoull`. -/
def IsCNumber (text : Bytes) (number : ℕ) : Prop :=
  ∃ spaces sign digits, CNumberParts text spaces sign digits ∧
    number = sign.apply (decimalValue digits)

theorem isDigit_bounds {char : UInt8} (digit : isDigit char = true) :
    48 ≤ char.toNat ∧ char.toNat ≤ 57 := by
  simpa [isDigit, UInt8.le_iff_toNat_le] using digit

/-- What is behind the white space is a sign and more, in one way. -/
theorem exists_sign (text : Bytes) :
    ∃ (sign : CSign) (digits : Bytes), text = sign.bytes ++ digits ∧
      (sign = .none → digits.head? ≠ some 43 ∧ digits.head? ≠ some 45) := by
  cases text with
  | nil => exact ⟨.none, [], rfl, fun _ => ⟨nofun, nofun⟩⟩
  | cons first rest =>
      by_cases isPlus : first = 43
      · exact ⟨.plus, rest, by rw [isPlus]; rfl, nofun⟩
      · by_cases isMinus : first = 45
        · exact ⟨.minus, rest, by rw [isMinus]; rfl, nofun⟩
        · refine ⟨.none, first :: rest, rfl, fun _ => ?_⟩
          simp [isPlus, isMinus]

theorem strtoull_eq {text digits : Bytes} {sign : CSign}
    (restEq : (cString text).dropWhile isSpace = sign.bytes ++ digits)
    (unsigned : sign = .none → digits.head? ≠ some 43 ∧ digits.head? ≠ some 45) :
    strtoull text =
      if digits.isEmpty ∨ digits.any (!isDigit ·) ∨ 2 ^ 64 ≤ decimalValue digits then none
      else some (sign.apply (decimalValue digits)) := by
  cases sign with
  | none =>
      rcases unsigned rfl with ⟨noPlus, noMinus⟩
      simp only [strtoull, restEq, CSign.bytes, List.nil_append]
      split
      · next rest => exact absurd rfl noPlus
      · next rest => exact absurd rfl noMinus
      · rfl
  | plus => simp only [strtoull, restEq, CSign.bytes]; rfl
  | minus => simp only [strtoull, restEq, CSign.bytes]; rfl

/-- `strtoull` and its tests accept exactly the C numbers. -/
theorem strtoull_eq_some_iff (text : Bytes) (number : ℕ) :
    strtoull text = some number ↔ IsCNumber text number := by
  constructor
  · intro read
    rcases exists_sign ((cString text).dropWhile isSpace) with ⟨sign, digits, restEq, unsigned⟩
    rw [strtoull_eq restEq unsigned] at read
    split_ifs at read with refused
    simp only [List.isEmpty_iff, List.any_eq_true, Bool.not_eq_true', not_or, not_exists, not_and,
      Bool.not_eq_false, Nat.not_le] at refused
    rcases refused with ⟨nonempty, areDigits, inRange⟩
    refine ⟨(cString text).takeWhile isSpace, sign, digits, ⟨?_, ?_, nonempty, areDigits, inRange⟩,
      (Option.some.inj read).symm⟩
    · rw [← restEq, List.takeWhile_append_dropWhile]
    · exact List.all_eq_true.mp List.all_takeWhile
  · rintro ⟨spaces, sign, digits, parts, rfl⟩
    rcases List.exists_cons_of_ne_nil parts.nonempty with ⟨first, others, digitsEq⟩
    have firstDigit := isDigit_bounds (parts.are_digits first (by simp [digitsEq]))
    have notSpace (char : UInt8) (outside : 32 < char.toNat) : isSpace char = false := by
      simp only [isSpace, decide_eq_false_iff_not, not_or, not_and, UInt8.not_le,
        UInt8.lt_iff_toNat_lt]
      refine ⟨?_, fun _ => ?_⟩
      · rintro rfl
        exact absurd outside (by decide)
      · exact Nat.lt_trans (by decide : (13 : UInt8).toNat < 32) outside
    have restEq : (cString text).dropWhile isSpace = sign.bytes ++ digits := by
      rw [parts.text_eq, List.dropWhile_append_of_pos parts.are_spaces]
      cases sign with
      | none =>
          have starts : ¬ isSpace first = true := by simp [notSpace first (by omega)]
          rw [CSign.bytes, List.nil_append, digitsEq, List.dropWhile_cons_of_neg starts]
      | plus => rfl
      | minus => rfl
    have unsigned : sign = .none → digits.head? ≠ some 43 ∧ digits.head? ≠ some 45 := by
      intro _
      rw [digitsEq, List.head?_cons]
      refine ⟨?_, ?_⟩ <;> intro same <;> cases same <;> exact absurd firstDigit.1 (by decide)
    rw [strtoull_eq restEq unsigned, if_neg]
    simp only [List.isEmpty_iff, List.any_eq_true, Bool.not_eq_true', not_or, not_exists, not_and,
      Bool.not_eq_false, Nat.not_le]
    exact ⟨parts.nonempty, parts.are_digits, parts.in_range⟩

theorem strtoull_eq_none_iff (text : Bytes) :
    strtoull text = none ↔ ¬ ∃ number, IsCNumber text number := by
  rw [Option.eq_none_iff_forall_ne_some, not_exists]
  exact forall_congr' fun number => not_congr (strtoull_eq_some_iff text number)

/-- A decimal number of 64 bits is read as what it denotes. -/
theorem IsDecimal.strtoull {text : Bytes} {number : ℕ} (decimal : IsDecimal text number)
    (inRange : number < 2 ^ 64) : HttpsServerSim.strtoull text = some number := by
  have noNul : cString text = text := by
    rw [cString, List.takeWhile_eq_self_iff]
    intro char member
    have bounds := isDigit_bounds (decimal.digits char member)
    simp only [decide_eq_true_eq]
    rintro rfl
    exact absurd bounds.1 (by decide)
  rw [strtoull_eq_some_iff]
  refine ⟨[], .none, text, ⟨noNul, List.forall_mem_nil _, decimal.nonempty, decimal.digits, ?_⟩,
    decimal.value.symm⟩
  rw [decimal.value]
  exact inRange

end HttpsServerSim
