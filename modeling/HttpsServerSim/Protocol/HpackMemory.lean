import HttpsServerSim.Lib.AccessLog
import HttpsServerSim.Lib.ByteMemory
import HttpsServerSim.Protocol.HpackCompose
import HttpsServerSim.Protocol.HpackIntegers

/-!
# The decoder and its pointers

`decode` as it walks through memory: a pointer into the input, the pointer one past its
end, and a table in static storage. Memory has a byte at every offset, so nothing but
the comparisons with the end keeps the decoder inside its input; every access is
logged. Both loops take fuel, and a run that needs more has no result.

A run ends with the result of `HpackDecoder.decode` on the bytes of the input. The
pointer that a function leaves stands for the bytes that are left there.
-/

namespace HttpsServerSim

open ByteMemory Hpack

namespace HpackMemory

/-- An access: to a byte of the input, to an entry of `static_table`, or the bytes that a string
literal is assigned from. -/
inductive Access where
  | byte (offset : ℕ)
  | entry (index : ℕ)
  | literal (start length : ℕ)
deriving DecidableEq, Repr

/-- The access stays inside an input that ends at this offset, or inside the table. -/
def Access.Inside (stop : ℕ) : Access → Prop
  | .byte offset => offset < stop
  | .entry index => index < staticTable.length
  | .literal start length => start + length ≤ stop

section Code

variable [WideShift] (memory : ℕ → UInt8) (stop fuel : ℕ)

/-- The loop of `decode_int`. -/
def decodeIntLoop : ℕ → ℕ → ℕ → ℕ → LoggedRun Access (Except ProtocolStatus (ℕ × ℕ))
  | 0, ptr, _, _ => if ptr < stop then none else .done (.error .invalid)
  | rounds + 1, ptr, value, shift =>
      if ptr < stop then
        let byte := memory ptr
        let value := addShifted value byte shift
        .access (.byte ptr)
          (if byte &&& 0x80 = 0 then .done (.ok (value, ptr + 1))
          else decodeIntLoop rounds (ptr + 1) value ((shift + 7) % 2 ^ 32))
      else .done (.error .invalid)

/-- `decode_int`: the integer and the pointer after it. -/
def decodeInt (bits ptr : ℕ) : LoggedRun Access (Except ProtocolStatus (ℕ × ℕ)) :=
  if stop ≤ ptr then .done (.error .invalid)
  else
    let mask := prefixMask bits
    let value := (memory ptr &&& mask).toNat
    .access (.byte ptr)
      (if value < mask.toNat then .done (.ok (value, ptr + 1))
      else decodeIntLoop memory stop fuel (ptr + 1) value 0)

/-- `decode_string`: the literal and the pointer after it. -/
def decodeString (ptr : ℕ) : LoggedRun Access (Except ProtocolStatus (Bytes × ℕ)) :=
  (decodeInt memory stop fuel 7 ptr).andThen fun
    | .error status => .done (.error status)
    | .ok (len, ptr) =>
        if stop < ptr + len then .done (.error .invalid)
        else .access (.literal ptr len) (.done (.ok (bytesAt memory ptr len, ptr + len)))

/-- The entry of the table; outside of it there is no telling. -/
def staticEntry (index : ℕ) : StaticTableEntry := staticTable[index]?.getD ⟨[], []⟩

/-- The name of a literal field. -/
def decodeName (nameIdx ptr : ℕ) : LoggedRun Access (Except ProtocolStatus (Bytes × ℕ)) :=
  if nameIdx = 0 then decodeString memory stop fuel ptr
  else if nameIdx ≤ staticTable.length then
    .access (.entry (nameIdx - 1)) (.done (.ok ((staticEntry (nameIdx - 1)).name, ptr)))
  else .done (.ok ([], ptr))

/-- A literal field from behind its first byte on. -/
def decodeLiteral (nameIdx ptr : ℕ) : LoggedRun Access (Except ProtocolStatus (FieldEffect × ℕ)) :=
  (decodeName memory stop fuel nameIdx ptr).andThen fun
    | .error status => .done (.error status)
    | .ok (name, ptr) =>
        (decodeString memory stop fuel ptr).andThen fun
          | .error status => .done (.error status)
          | .ok (value, ptr) =>
              .done (.ok (if name.isEmpty then .ignore else .insert name value, ptr))

def decodeIndexed (ptr : ℕ) : LoggedRun Access (Except ProtocolStatus (FieldEffect × ℕ)) :=
  (decodeInt memory stop fuel 7 ptr).andThen fun
    | .error status => .done (.error status)
    | .ok (index, ptr) =>
        if 0 < index ∧ index ≤ staticTable.length then
          let entry := staticEntry (index - 1)
          .access (.entry (index - 1)) (.done (.ok (.insert entry.name entry.value, ptr)))
        else .done (.ok (.ignore, ptr))

def decodeTableSize (ptr : ℕ) : LoggedRun Access (Except ProtocolStatus (FieldEffect × ℕ)) :=
  (decodeInt memory stop fuel 5 ptr).andThen fun
    | .error status => .done (.error status)
    | .ok (size, ptr) => .done (.ok (.tableSize size, ptr))

/-- The body of the loop in `HpackDecoder::decode`. -/
def decodeField (ptr : ℕ) : LoggedRun Access (Except ProtocolStatus (FieldEffect × ℕ)) :=
  let first := memory ptr
  .access (.byte ptr)
    (if first &&& 0x80 ≠ 0 then decodeIndexed memory stop fuel ptr
    else if first &&& 0xC0 = 0x40 then
      decodeLiteral memory stop fuel (first &&& 0x3F).toNat (ptr + 1)
    else if first &&& 0xE0 = 0x20 then decodeTableSize memory stop fuel ptr
    else decodeLiteral memory stop fuel (first &&& 0x0F).toNat (ptr + 1))

/-- The loop of `HpackDecoder::decode`. -/
def decodeLoop : ℕ → HpackDecoder → HttpHeaders → ℕ →
    LoggedRun Access (ProtocolStatus × HttpHeaders × HpackDecoder)
  | 0, decoder, headers, ptr => if ptr < stop then none else .done (.ok, headers, decoder)
  | rounds + 1, decoder, headers, ptr =>
      if ptr < stop then
        (decodeField memory stop fuel ptr).andThen fun
          | .error status => .done (status, headers, decoder)
          | .ok (.insert name value, ptr) =>
              decodeLoop rounds decoder (headers.insert name value) ptr
          | .ok (.ignore, ptr) => decodeLoop rounds decoder headers ptr
          | .ok (.tableSize size, ptr) => decodeLoop rounds ⟨size⟩ headers ptr
      else .done (.ok, headers, decoder)

end Code

/-- `HpackDecoder::decode` on the `length` bytes from offset 0 on. Each loop may be entered once
for every byte. -/
def decode [WideShift] (memory : ℕ → UInt8) (length : ℕ) (decoder : HpackDecoder) :
    LoggedRun Access (ProtocolStatus × HttpHeaders × HpackDecoder) :=
  decodeLoop memory length length length decoder ∅ 0

/-! ## Agreement with the decoder on bytes -/

section Proofs

variable (memory : ℕ → UInt8)

/-- What a pointer function results in, against the function on the bytes. -/
def Agrees {Value : Type} (stop : ℕ) (result : Except ProtocolStatus (Value × Bytes)) :
    Except ProtocolStatus (Value × ℕ) → Prop
  | .error status => result = .error status
  | .ok (value, ptr) => ptr ≤ stop ∧ result = .ok (value, bytesAt memory ptr (stop - ptr))

variable [WideShift] {stop fuel : ℕ}

theorem decodeIntLoop_ends {rounds ptr : ℕ} (value shift : ℕ) (enough : stop ≤ ptr + rounds) :
    (decodeIntLoop memory stop rounds ptr value shift).Ends (Access.Inside stop)
      (Agrees memory stop (Hpack.decodeIntLoop value shift (bytesAt memory ptr (stop - ptr)))) := by
  induction rounds generalizing ptr value shift with
  | zero =>
      have outside : ¬ ptr < stop := by omega
      rw [bytesAt_end memory outside]
      simp only [decodeIntLoop, outside, if_false]
      exact .done rfl
  | succ rounds ih =>
      by_cases inside : ptr < stop
      · rw [bytesAt_cons memory inside]
        simp only [decodeIntLoop, inside, if_true, Hpack.decodeIntLoop]
        apply LoggedRun.Ends.access (by exact inside)
        split_ifs
        · exact .done ⟨inside, rfl⟩
        · exact ih _ _ (by omega)
      · rw [bytesAt_end memory inside]
        simp only [decodeIntLoop, inside, if_false]
        exact .done rfl

theorem decodeInt_ends (bits ptr : ℕ) (enough : stop ≤ fuel) :
    (decodeInt memory stop fuel bits ptr).Ends (Access.Inside stop)
      (Agrees memory stop (Hpack.decodeInt bits (bytesAt memory ptr (stop - ptr)))) := by
  by_cases inside : ptr < stop
  · rw [bytesAt_cons memory inside]
    simp only [decodeInt, Nat.not_le.mpr inside, if_false, Hpack.decodeInt]
    apply LoggedRun.Ends.access (by exact inside)
    split_ifs
    · exact .done ⟨inside, rfl⟩
    · exact decodeIntLoop_ends memory _ _ (by omega)
  · rw [bytesAt_end memory inside]
    simp only [decodeInt, Nat.not_lt.mp inside, if_true]
    exact .done rfl

theorem decodeString_ends (ptr : ℕ) (enough : stop ≤ fuel) :
    (decodeString memory stop fuel ptr).Ends (Access.Inside stop)
      (Agrees memory stop (Hpack.decodeString (bytesAt memory ptr (stop - ptr)))) := by
  apply (decodeInt_ends memory 7 ptr enough).andThen
  rintro (status | ⟨len, ptr⟩) agrees
  · apply LoggedRun.Ends.done
    simp only [Agrees] at agrees
    simp only [Agrees, Hpack.decodeString, agrees]
  · rcases agrees with ⟨ptr_le, decoded⟩
    simp only [Hpack.decodeString, decoded, length_bytesAt]
    split_ifs with beyond short short
    · exact .done rfl
    · omega
    · omega
    · apply LoggedRun.Ends.access (by simp only [Access.Inside]; omega)
      apply LoggedRun.Ends.done
      have split : stop - ptr = len + (stop - (ptr + len)) := by omega
      refine ⟨by omega, ?_⟩
      rw [split, bytesAt_add, List.take_left' (by simp), List.drop_left' (by simp)]

theorem decodeName_ends (nameIdx : ℕ) {ptr : ℕ} (ptr_le : ptr ≤ stop) (enough : stop ≤ fuel) :
    (decodeName memory stop fuel nameIdx ptr).Ends (Access.Inside stop)
      (Agrees memory stop (Hpack.decodeName nameIdx (bytesAt memory ptr (stop - ptr)))) := by
  simp only [decodeName, Hpack.decodeName]
  split_ifs with literal inTable
  · exact decodeString_ends memory ptr enough
  · have inside : nameIdx - 1 < staticTable.length := by omega
    apply LoggedRun.Ends.access (by exact inside)
    apply LoggedRun.Ends.done
    refine ⟨ptr_le, ?_⟩
    rw [staticEntry, List.getElem?_eq_getElem inside]
    rfl
  · apply LoggedRun.Ends.done
    refine ⟨ptr_le, ?_⟩
    rw [List.getElem?_eq_none (by omega)]
    rfl

theorem decodeLiteral_ends (nameIdx : ℕ) {ptr : ℕ} (ptr_le : ptr ≤ stop) (enough : stop ≤ fuel) :
    (decodeLiteral memory stop fuel nameIdx ptr).Ends (Access.Inside stop)
      (Agrees memory stop (Hpack.decodeLiteral nameIdx (bytesAt memory ptr (stop - ptr)))) := by
  apply (decodeName_ends memory nameIdx ptr_le enough).andThen
  rintro (status | ⟨name, afterName⟩) named
  · apply LoggedRun.Ends.done
    simp only [Agrees] at named
    simp only [Agrees, Hpack.decodeLiteral, named]
  · apply (decodeString_ends memory afterName enough).andThen
    rintro (status | ⟨value, afterValue⟩) valued
    · apply LoggedRun.Ends.done
      simp only [Agrees] at valued
      simp only [Agrees, Hpack.decodeLiteral, named.2, valued]
    · apply LoggedRun.Ends.done
      refine ⟨valued.1, ?_⟩
      simp only [Hpack.decodeLiteral, named.2, valued.2]

theorem decodeIndexed_ends (ptr : ℕ) (enough : stop ≤ fuel) :
    (decodeIndexed memory stop fuel ptr).Ends (Access.Inside stop)
      (Agrees memory stop (Hpack.decodeIndexed (bytesAt memory ptr (stop - ptr)))) := by
  apply (decodeInt_ends memory 7 ptr enough).andThen
  rintro (status | ⟨index, afterIndex⟩) decoded
  · apply LoggedRun.Ends.done
    simp only [Agrees] at decoded
    simp only [Agrees, Hpack.decodeIndexed, decoded]
  · simp only [Hpack.decodeIndexed, decoded.2]
    by_cases inTable : 0 < index ∧ index ≤ staticTable.length
    · have inside : index - 1 < staticTable.length := by omega
      have nonzero : index ≠ 0 := Nat.ne_of_gt inTable.1
      simp only [inTable, and_self, if_true, nonzero, if_false]
      apply LoggedRun.Ends.access (by exact inside)
      apply LoggedRun.Ends.done
      refine ⟨decoded.1, ?_⟩
      simp only [staticEntry, List.getElem?_eq_getElem inside, Option.getD_some]
    · rw [if_neg inTable]
      apply LoggedRun.Ends.done
      refine ⟨decoded.1, ?_⟩
      by_cases zero : index = 0
      · simp only [zero, if_true]
      · rw [if_neg zero, List.getElem?_eq_none (by omega)]

theorem decodeTableSize_ends (ptr : ℕ) (enough : stop ≤ fuel) :
    (decodeTableSize memory stop fuel ptr).Ends (Access.Inside stop)
      (Agrees memory stop (Hpack.decodeTableSize (bytesAt memory ptr (stop - ptr)))) := by
  apply (decodeInt_ends memory 5 ptr enough).andThen
  rintro (status | ⟨size, afterSize⟩) decoded
  · apply LoggedRun.Ends.done
    simp only [Agrees] at decoded
    simp only [Agrees, Hpack.decodeTableSize, decoded]
  · apply LoggedRun.Ends.done
    refine ⟨decoded.1, ?_⟩
    simp only [Hpack.decodeTableSize, decoded.2]

theorem decodeField_ends {ptr : ℕ} (inside : ptr < stop) (enough : stop ≤ fuel) :
    (decodeField memory stop fuel ptr).Ends (Access.Inside stop)
      (Agrees memory stop (Hpack.decodeField (memory ptr)
        (bytesAt memory (ptr + 1) (stop - (ptr + 1))))) := by
  apply LoggedRun.Ends.access (by exact inside)
  have indexed := decodeIndexed_ends memory ptr enough
  have tableSize := decodeTableSize_ends memory ptr enough
  rw [bytesAt_cons memory inside] at indexed tableSize
  simp only [Hpack.decodeField]
  split_ifs
  · exact indexed
  · exact decodeLiteral_ends memory _ inside enough
  · exact tableSize
  · exact decodeLiteral_ends memory _ inside enough

/-- The loop ends after at most one round for every byte, with the result of the loop on the
bytes. -/
theorem decodeLoop_ends {rounds ptr : ℕ} (decoder : HpackDecoder) (headers : HttpHeaders)
    (rounds_enough : stop ≤ ptr + rounds) (enough : stop ≤ fuel) :
    (decodeLoop memory stop fuel rounds decoder headers ptr).Ends (Access.Inside stop)
      (· = HpackDecoder.decodeLoop rounds decoder headers (bytesAt memory ptr (stop - ptr))) := by
  induction rounds generalizing ptr decoder headers with
  | zero =>
      have outside : ¬ ptr < stop := by omega
      rw [bytesAt_end memory outside]
      simp only [decodeLoop, outside, if_false]
      exact .done rfl
  | succ rounds ih =>
      by_cases inside : ptr < stop
      · rw [bytesAt_cons memory inside]
        simp only [decodeLoop, inside, if_true, HpackDecoder.decodeLoop]
        apply (decodeField_ends memory inside enough).andThen
        rintro (status | ⟨effect, next⟩) decoded
        · simp only [Agrees] at decoded
          rw [decoded]
          exact .done rfl
        · rcases decoded with ⟨next_le, decoded⟩
          -- every field takes at least its first byte
          have progress : stop ≤ next + rounds := by
            rcases decodeField_local decoded with ⟨used, split, _⟩
            have lengths := congrArg List.length split
            simp only [length_bytesAt, List.length_append] at lengths
            omega
          rw [decoded]
          cases effect with
          | insert name value => exact ih _ _ progress
          | ignore => exact ih _ _ progress
          | tableSize size => exact ih _ _ progress
      · rw [bytesAt_end memory inside]
        simp only [decodeLoop, inside, if_false]
        exact .done rfl

theorem decode_ends (length : ℕ) (decoder : HpackDecoder) :
    (decode memory length decoder).Ends (Access.Inside length)
      (· = decoder.decode (bytesAt memory 0 length)) := by
  have rounds : length ≤ 0 + length := Nat.le_of_eq (Nat.zero_add length).symm
  have ends := decodeLoop_ends memory decoder ∅ rounds (le_refl length)
  rw [Nat.sub_zero] at ends
  simpa only [decode, HpackDecoder.decode, length_bytesAt] using ends

/-- `decode` ends, reads inside its input only, indexes the table inside it only, assigns
literals from parts of the input only, and has the result of `decode` on the bytes. -/
theorem decode_safe (length : ℕ) (decoder : HpackDecoder) :
    ∃ accesses result, decode memory length decoder = some (accesses, result) ∧
      (∀ offset, .byte offset ∈ accesses → offset < length) ∧
      (∀ index, .entry index ∈ accesses → index < staticTable.length) ∧
      (∀ start count, .literal start count ∈ accesses → start + count ≤ length) ∧
      result = decoder.decode (bytesAt memory 0 length) := by
  rcases decode_ends memory length decoder with ⟨accesses, result, ran, inside, result_eq⟩
  refine ⟨accesses, result, ran, ?_, ?_, ?_, result_eq⟩
  · intro offset member
    exact inside _ member
  · intro index member
    exact inside _ member
  · intro start count member
    exact inside _ member

end Proofs

end HpackMemory

end HttpsServerSim
