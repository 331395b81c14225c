import Mathlib.Data.List.Basic
import Mathlib.Tactic.Positivity
import Mathlib.Tactic.Ring

/-!
# Byte strings and big-endian integers

Byte strings are lists of bytes. The big-endian coder works at any width and on
natural numbers, so that a fixed-width field is the `width` low-order bytes of
its value; what is above the width is cut off, as a narrowing store does.
-/

namespace HttpsServerSim

/-- A byte string. -/
abbrev Bytes := List UInt8

/-- The bytes of an ASCII literal. -/
def ascii (text : String) : Bytes :=
  text.toList.map fun character => UInt8.ofNat character.toNat

/-- What a C function sees of `text.c_str()`. -/
def cString (text : Bytes) : Bytes := text.takeWhile (· ≠ 0)

/-- `std::to_string` of an unsigned number. -/
def toDecimal (number : ℕ) : Bytes := (Nat.toDigits 10 number).map fun digit =>
  UInt8.ofNat digit.toNat

namespace BigEndian

/-- The `width` low-order bytes of `value`, most significant first. -/
def encode : (width : ℕ) → (value : ℕ) → Bytes
  | 0, _ => []
  | width + 1, value => UInt8.ofNat (value / 256 ^ width) :: encode width value

/-- The value of a byte string read most significant byte first. -/
def decode : Bytes → ℕ
  | [] => 0
  | byte :: rest => byte.toNat * 256 ^ rest.length + decode rest

@[simp]
theorem length_encode (width value : ℕ) : (encode width value).length = width := by
  induction width with
  | zero => rfl
  | succ width ih => simp [encode, ih]

theorem decode_lt (bytes : Bytes) : decode bytes < 256 ^ bytes.length := by
  induction bytes with
  | nil => simp [decode]
  | cons byte rest ih =>
      have byte_lt : byte.toNat + 1 ≤ 256 := byte.toNat_lt
      calc
        decode (byte :: rest) = byte.toNat * 256 ^ rest.length + decode rest := rfl
        _ < byte.toNat * 256 ^ rest.length + 256 ^ rest.length := by omega
        _ = (byte.toNat + 1) * 256 ^ rest.length := by ring
        _ ≤ 256 * 256 ^ rest.length := Nat.mul_le_mul_right _ byte_lt
        _ = 256 ^ (byte :: rest).length := by rw [List.length_cons, pow_succ]; ring

@[simp]
theorem decode_encode (width value : ℕ) :
    decode (encode width value) = value % 256 ^ width := by
  induction width with
  | zero => simp [encode, decode, Nat.mod_one]
  | succ width ih =>
      simp only [encode, decode, length_encode, ih, UInt8.toNat_ofNat']
      change value / 256 ^ width % 256 * 256 ^ width + value % 256 ^ width = _
      rw [pow_succ 256 width, Nat.mod_mul, Nat.add_comm, Nat.mul_comm (256 ^ width)]

/-- A byte is put in front of the others by a shift. -/
theorem shiftLeft_or_decode (byte : UInt8) (rest : Bytes) :
    byte.toNat <<< (8 * rest.length) ||| decode rest = decode (byte :: rest) := by
  have size : 2 ^ (8 * rest.length) = 256 ^ rest.length := Nat.pow_mul 2 8 rest.length
  have room : decode rest < 2 ^ (8 * rest.length) := by
    rw [size]
    exact decode_lt rest
  rw [← Nat.shiftLeft_add_eq_or_of_lt room, Nat.shiftLeft_eq, size]
  rfl

end BigEndian

end HttpsServerSim
