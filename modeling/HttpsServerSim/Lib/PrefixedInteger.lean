import HttpsServerSim.Lib.Bytes
import Mathlib.Data.Nat.Digits.Defs

/-!
# Integers with a prefix

The integers of header compression. A number below `2 ^ bits - 1` stands in the low
bits of one byte. For a greater one these bits are all set, and what exceeds the
prefix follows in groups of seven bits, least significant group first; every byte
but the last has its high bit set. Groups of zeros may be added at the end, so a
number has many encodings, of any length from the shortest on.

The reader below gives the value of an encoding as a natural number. `Code` is an
encoding itself, to be written down.
-/

namespace HttpsServerSim

namespace PrefixedInteger

/-! ## Reading -/

/-- What exceeds the prefix, and the bytes after it. -/
def readExcess : Bytes → Option (ℕ × Bytes)
  | [] => none
  | byte :: rest =>
      if byte.toNat < 128 then some (byte.toNat, rest)
      else (readExcess rest).map fun after => (byte.toNat - 128 + 128 * after.1, after.2)

/-- The integer with a prefix of `bits` bits at the start of the data, and the bytes after it. -/
def readInteger (bits : ℕ) : Bytes → Option (ℕ × Bytes)
  | [] => none
  | first :: rest =>
      let low := first.toNat % 2 ^ bits
      if low < 2 ^ bits - 1 then some (low, rest)
      else (readExcess rest).map fun after => (2 ^ bits - 1 + after.1, after.2)

/-- The groups at the start of the data: up to the first byte with a clear high bit, or all
there are. -/
def groups : Bytes → Bytes
  | [] => []
  | byte :: rest => if byte.toNat < 128 then [byte] else byte :: groups rest

/-- The bytes of an integer after its first one, as far as they are there. -/
def continuation (bits : ℕ) : Bytes → Bytes
  | [] => []
  | first :: rest => if first.toNat % 2 ^ bits < 2 ^ bits - 1 then [] else groups rest

/-! ## Encodings -/

/-- An encoding with a prefix of `bits` bits. -/
inductive Code (bits : ℕ) where
  | short (number : ℕ) (fits : number < 2 ^ bits - 1)
  | long (marked : List (Fin 128)) (last : Fin 128)
deriving DecidableEq

namespace Code

variable {bits : ℕ}

def value : Code bits → ℕ
  | .short number _ => number
  | .long marked last => 2 ^ bits - 1 + Nat.ofDigits 128 ((marked ++ [last]).map Fin.val)

/-- The groups after the first byte. -/
def excess : Code bits → Bytes
  | .short _ _ => []
  | .long marked last =>
      marked.map (fun group => UInt8.ofNat (128 + group.val)) ++ [UInt8.ofNat last.val]

/-- The first byte, with `high` in the bits above the prefix. -/
def first (high : ℕ) : Code bits → UInt8
  | .short number _ => UInt8.ofNat (high + number)
  | .long _ _ => UInt8.ofNat (high + (2 ^ bits - 1))

def bytes (high : ℕ) (code : Code bits) : Bytes := code.first high :: code.excess

theorem readExcess_long (marked : List (Fin 128)) (last : Fin 128) (rest : Bytes) :
    readExcess (excess (.long marked last : Code bits) ++ rest) =
      some (Nat.ofDigits 128 ((marked ++ [last]).map Fin.val), rest) := by
  have last_lt := last.isLt
  induction marked with
  | nil =>
      have byte_eq : (UInt8.ofNat last.val).toNat = last.val := by
        rw [UInt8.toNat_ofNat']
        omega
      simp [excess, readExcess, byte_eq]
  | cons group marked ih =>
      have group_lt := group.isLt
      have byte_eq : (UInt8.ofNat (128 + group.val)).toNat = 128 + group.val := by
        rw [UInt8.toNat_ofNat']
        omega
      simp only [excess] at ih
      simp only [excess, List.map_cons, List.cons_append, readExcess, byte_eq, ih,
        Nat.ofDigits_cons]
      simp

theorem groups_long (marked : List (Fin 128)) (last : Fin 128) (rest : Bytes) :
    groups (excess (.long marked last : Code bits) ++ rest) =
      excess (.long marked last : Code bits) := by
  have last_lt := last.isLt
  induction marked with
  | nil =>
      have byte_eq : (UInt8.ofNat last.val).toNat = last.val := by
        rw [UInt8.toNat_ofNat']
        omega
      simp [excess, groups, byte_eq]
  | cons group marked ih =>
      have group_lt := group.isLt
      have byte_eq : (UInt8.ofNat (128 + group.val)).toNat = 128 + group.val := by
        rw [UInt8.toNat_ofNat']
        omega
      have not_small : ¬ 128 + group.val < 128 := by omega
      simp only [excess] at ih
      simp only [excess, List.map_cons, List.cons_append, groups, byte_eq, not_small, if_false, ih]

/-- The low bits of the first byte are the number, or all set. -/
theorem first_mod {high : ℕ} (code : Code bits) (aligned : 2 ^ bits ∣ high)
    (room : high + 2 ^ bits ≤ 256) :
    (code.first high).toNat % 2 ^ bits =
      match code with
      | .short number _ => number
      | .long _ _ => 2 ^ bits - 1 := by
  have positive : 0 < 2 ^ bits := Nat.two_pow_pos bits
  rcases aligned with ⟨multiple, rfl⟩
  cases code with
  | short number fits =>
      have byte_lt : 2 ^ bits * multiple + number < 2 ^ 8 := by omega
      simp only [first, UInt8.toNat_ofNat', Nat.mod_eq_of_lt byte_lt]
      rw [Nat.mul_add_mod, Nat.mod_eq_of_lt (by omega)]
  | long marked last =>
      have byte_lt : 2 ^ bits * multiple + (2 ^ bits - 1) < 2 ^ 8 := by omega
      simp only [first, UInt8.toNat_ofNat', Nat.mod_eq_of_lt byte_lt]
      rw [Nat.mul_add_mod, Nat.mod_eq_of_lt (by omega)]

theorem first_range {high : ℕ} (code : Code bits) (room : high + 2 ^ bits ≤ 256) :
    high ≤ (code.first high).toNat ∧ (code.first high).toNat < high + 2 ^ bits := by
  have positive : 0 < 2 ^ bits := Nat.two_pow_pos bits
  cases code with
  | short number fits =>
      have byte_lt : high + number < 2 ^ 8 := by omega
      simp only [first, UInt8.toNat_ofNat', Nat.mod_eq_of_lt byte_lt]
      omega
  | long marked last =>
      have byte_lt : high + (2 ^ bits - 1) < 2 ^ 8 := by omega
      simp only [first, UInt8.toNat_ofNat', Nat.mod_eq_of_lt byte_lt]
      omega

/-- An encoding reads as its value, whatever follows. -/
theorem readInteger_bytes {high : ℕ} (code : Code bits) (aligned : 2 ^ bits ∣ high)
    (room : high + 2 ^ bits ≤ 256) (rest : Bytes) :
    readInteger bits (code.bytes high ++ rest) = some (code.value, rest) := by
  have low := code.first_mod aligned room
  cases code with
  | short number fits =>
      simp only at low
      simp [bytes, readInteger, low, fits, excess, value]
  | long marked last =>
      simp only at low
      simp only [bytes, List.cons_append, readInteger, low, Nat.lt_irrefl, if_false]
      rw [readExcess_long]
      simp [value]

theorem continuation_bytes {high : ℕ} (code : Code bits) (aligned : 2 ^ bits ∣ high)
    (room : high + 2 ^ bits ≤ 256) (rest : Bytes) :
    continuation bits (code.bytes high ++ rest) = code.excess := by
  have low := code.first_mod aligned room
  cases code with
  | short number fits =>
      simp only at low
      simp [bytes, continuation, low, fits, excess]
  | long marked last =>
      simp only at low
      simp only [bytes, List.cons_append, continuation, low, Nat.lt_irrefl, if_false]
      exact groups_long marked last rest

/-- What is padded with zeros only has no excess. -/
theorem zeros_of_value_eq {marked : List (Fin 128)} {last : Fin 128}
    (value_eq : (Code.long marked last : Code bits).value = 2 ^ bits - 1) :
    (∀ group ∈ marked, group = 0) ∧ last = 0 := by
  have excess_eq : Nat.ofDigits 128 ((marked ++ [last]).map Fin.val) = 0 := by
    simp only [value] at value_eq
    omega
  clear value_eq
  induction marked with
  | nil =>
      refine ⟨by simp, Fin.ext ?_⟩
      simpa [Nat.ofDigits] using excess_eq
  | cons group marked ih =>
      simp only [List.cons_append, List.map_cons, Nat.ofDigits_cons] at excess_eq
      rcases ih (by omega) with ⟨zeros, last_eq⟩
      refine ⟨?_, last_eq⟩
      rw [List.forall_mem_cons]
      exact ⟨Fin.ext (Nat.eq_zero_of_add_eq_zero_right excess_eq), zeros⟩

end Code

end PrefixedInteger

end HttpsServerSim
