import HttpsServerSim.Lib.Bytes

/-!
# Memory as bytes at addresses

Memory has a byte at every address. Bytes are read from a range of it, and copied to a range of
it; a copy is read back from its range, and every other address keeps its byte.
-/

namespace HttpsServerSim

namespace ByteMemory

/-- The bytes in memory from an address on. -/
def bytesAt (memory : ℕ → UInt8) (start length : ℕ) : Bytes :=
  (List.range' start length).map memory

/-- The memory after the bytes have been copied to an address. -/
def copyTo (memory : ℕ → UInt8) (start : ℕ) (bytes : Bytes) : ℕ → UInt8 := fun address =>
  if start ≤ address then bytes[address - start]?.getD (memory address) else memory address

section Reading

variable (memory : ℕ → UInt8)

@[simp]
theorem length_bytesAt (start length : ℕ) : (bytesAt memory start length).length = length := by
  simp [bytesAt]

theorem bytesAt_add (start first second : ℕ) :
    bytesAt memory start (first + second) =
      bytesAt memory start first ++ bytesAt memory (start + first) second := by
  rw [bytesAt, ← List.range'_append_1, List.map_append]
  rfl

theorem bytesAt_cons {start stop : ℕ} (inside : start < stop) :
    bytesAt memory start (stop - start) =
      memory start :: bytesAt memory (start + 1) (stop - (start + 1)) := by
  have split : stop - start = 1 + (stop - (start + 1)) := by omega
  rw [split, bytesAt_add]
  rfl

theorem bytesAt_end {start stop : ℕ} (outside : ¬ start < stop) :
    bytesAt memory start (stop - start) = [] := by
  have nothing : stop - start = 0 := by omega
  rw [nothing]
  rfl

theorem bytesAt_congr {memory other : ℕ → UInt8} {start length : ℕ}
    (same : ∀ address, start ≤ address → address < start + length →
      other address = memory address) :
    bytesAt other start length = bytesAt memory start length := by
  apply List.map_congr_left
  intro address member
  rw [List.mem_range'_1] at member
  exact same address member.1 member.2

/-- The same bytes, counted from another address. -/
theorem bytesAt_shift (base start length : ℕ) :
    bytesAt (fun address => memory (base + address)) start length =
      bytesAt memory (base + start) length := by
  apply List.ext_getElem (by simp)
  intro index _ _
  simp [bytesAt, Nat.add_assoc]

end Reading

/-- Memory that holds a list of bytes, and zeros behind it. -/
def ofList (bytes : Bytes) : ℕ → UInt8 := fun address => bytes[address]?.getD 0

theorem bytesAt_ofList {bytes : Bytes} {start stop : ℕ} (ordered : start ≤ stop)
    (inside : stop ≤ bytes.length) :
    bytesAt (ofList bytes) start (stop - start) = (bytes.take stop).drop start := by
  apply List.ext_getElem
  · simp [Nat.min_eq_left inside]
  · intro index indexLt _
    have isByte : start + index < bytes.length := by
      simp only [length_bytesAt] at indexLt
      omega
    simp [bytesAt, ofList, isByte]

/-! ## Copying -/

theorem copyTo_of_before {memory : ℕ → UInt8} {start address : ℕ} (bytes : Bytes)
    (before : address < start) : copyTo memory start bytes address = memory address :=
  if_neg (Nat.not_le.mpr before)

theorem copyTo_of_after {memory : ℕ → UInt8} {start address : ℕ} {bytes : Bytes}
    (after : start + bytes.length ≤ address) :
    copyTo memory start bytes address = memory address := by
  have beyond : bytes.length ≤ address - start := by omega
  rw [copyTo, List.getElem?_eq_none beyond, Option.getD_none, ite_self]

/-- What was copied is read back. -/
theorem bytesAt_copyTo (memory : ℕ → UInt8) (start : ℕ) (bytes : Bytes) :
    bytesAt (copyTo memory start bytes) start bytes.length = bytes := by
  apply List.ext_getElem (by simp)
  intro index _ inside
  simp [bytesAt, copyTo, inside]

/-- Bytes are appended by copying them behind the others. -/
theorem bytesAt_copyTo_append {memory : ℕ → UInt8} {start : ℕ} {before : Bytes}
    (written : bytesAt memory start before.length = before) (bytes : Bytes) :
    bytesAt (copyTo memory (start + before.length) bytes) start (before ++ bytes).length =
      before ++ bytes := by
  rw [List.length_append, bytesAt_add, bytesAt_copyTo]
  congr 1
  refine (bytesAt_congr ?_).trans written
  intro address _ inside
  exact copyTo_of_before bytes inside

end ByteMemory

end HttpsServerSim
