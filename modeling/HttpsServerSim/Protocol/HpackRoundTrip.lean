import HttpsServerSim.Lib.MapOverlay
import HttpsServerSim.Protocol.Hpack
import Mathlib.Tactic.Ring

/-!
# Decoding what was encoded

The decoder recovers every header map the encoder wrote. The argument goes up the
layers of the coder: an integer, a string, a field, a block. A field has three
forms, and each is recognised by the first byte alone; the bit patterns involved
are finitely many and are checked by evaluation.

The only arithmetic is in the integers: an encoded value below `2 ^ 32` never makes
the decoder shift by 32 or more, because the group that would need it is zero.
-/

namespace HttpsServerSim

namespace Hpack

/-! ## Bytes -/

theorem continuation_byte (low : ℕ) (low_lt : low < 128) :
    (UInt8.ofNat (low + 128) &&& 0x7F).toNat = low ∧ UInt8.ofNat (low + 128) &&& 0x80 ≠ 0 := by
  have table : ∀ index : Fin 128, (UInt8.ofNat (index.val + 128) &&& 0x7F).toNat = index.val ∧
      UInt8.ofNat (index.val + 128) &&& 0x80 ≠ 0 := by decide
  exact table ⟨low, low_lt⟩

theorem final_byte (low : ℕ) (low_lt : low < 128) :
    (UInt8.ofNat low &&& 0x7F).toNat = low ∧ UInt8.ofNat low &&& 0x80 = 0 := by
  have table : ∀ index : Fin 128, (UInt8.ofNat index.val &&& 0x7F).toNat = index.val ∧
      UInt8.ofNat index.val &&& 0x80 = 0 := by decide
  exact table ⟨low, low_lt⟩

theorem indexed_byte (index : ℕ) (index_lt : index < 62) :
    ((0x80 &&& ~~~prefixMask 7) ||| UInt8.ofNat index) &&& 0x80 ≠ 0 ∧
      (((0x80 &&& ~~~prefixMask 7) ||| UInt8.ofNat index) &&& prefixMask 7).toNat = index := by
  have table : ∀ index : Fin 62,
      ((0x80 &&& ~~~prefixMask 7) ||| UInt8.ofNat index.val) &&& 0x80 ≠ 0 ∧
      (((0x80 &&& ~~~prefixMask 7) ||| UInt8.ofNat index.val) &&& prefixMask 7).toNat =
        index.val := by decide
  exact table ⟨index, index_lt⟩

theorem literal_byte (index : ℕ) (index_lt : index < 62) :
    ((0x40 &&& ~~~prefixMask 6) ||| UInt8.ofNat index) &&& 0x80 = 0 ∧
      ((0x40 &&& ~~~prefixMask 6) ||| UInt8.ofNat index) &&& 0xC0 = 0x40 ∧
      (((0x40 &&& ~~~prefixMask 6) ||| UInt8.ofNat index) &&& 0x3F).toNat = index := by
  have table : ∀ index : Fin 62,
      ((0x40 &&& ~~~prefixMask 6) ||| UInt8.ofNat index.val) &&& 0x80 = 0 ∧
      ((0x40 &&& ~~~prefixMask 6) ||| UInt8.ofNat index.val) &&& 0xC0 = 0x40 ∧
      (((0x40 &&& ~~~prefixMask 6) ||| UInt8.ofNat index.val) &&& 0x3F).toNat = index.val := by
    decide
  exact table ⟨index, index_lt⟩

/-! ## Static table lookups -/

theorem findStaticIndex_some {name value : Bytes} {index : ℕ}
    (found : findStaticIndex name value = some index) :
    0 < index ∧ index < 62 ∧ staticTable[index - 1]? = some ⟨name, value⟩ := by
  simp only [findStaticIndex, Option.map_eq_some_iff, List.findIdx?_eq_some_iff_getElem] at found
  rcases found with ⟨position, ⟨inside, matching, -⟩, rfl⟩
  have size : staticTable.length = 61 := by decide
  simp only [decide_eq_true_eq] at matching
  refine ⟨by omega, by omega, ?_⟩
  rw [Nat.add_sub_cancel, List.getElem?_eq_getElem inside, matching.1, matching.2]

theorem findStaticNameIndex_some {name : Bytes} {index : ℕ}
    (found : findStaticNameIndex name = some index) :
    0 < index ∧ index < 62 ∧
      (staticTable[index - 1]?.map StaticTableEntry.name).getD [] = name := by
  simp only [findStaticNameIndex, Option.map_eq_some_iff,
    List.findIdx?_eq_some_iff_getElem] at found
  rcases found with ⟨position, ⟨inside, matching, -⟩, rfl⟩
  have size : staticTable.length = 61 := by decide
  simp only [decide_eq_true_eq] at matching
  refine ⟨by omega, by omega, ?_⟩
  rw [Nat.add_sub_cancel, List.getElem?_eq_getElem inside]
  simp [matching]

theorem encodeInt_index {index : ℕ} (pattern : UInt8) {bits : ℕ}
    (small : index < (prefixMask bits).toNat) :
    encodeInt index pattern bits = [(pattern &&& ~~~prefixMask bits) ||| UInt8.ofNat index] := by
  simp [encodeInt, small]

theorem encodeField_ne_nil (name value : Bytes) : encodeField name value ≠ [] := by
  have encodeInt_ne_nil : ∀ number pattern bits, encodeInt number pattern bits ≠ [] := by
    intro number pattern bits
    simp only [encodeInt]
    split_ifs <;> simp
  simp only [encodeField]
  split
  · exact encodeInt_ne_nil _ _ _
  · split
    · simp [encodeInt_ne_nil]
    · simp

theorem length_le_encodeFields (fields : List (Bytes × Bytes)) :
    fields.length ≤ (fields.flatMap fun field => encodeField field.1 field.2).length := by
  induction fields with
  | nil => simp
  | cons field fields ih =>
      have positive := List.length_pos_of_ne_nil (encodeField_ne_nil field.1 field.2)
      simp only [List.flatMap_cons, List.length_cons, List.length_append]
      omega

section Decoding

/-! ## Integers and strings -/

variable [WideShift]

theorem addShifted_of_lt {value shift low : ℕ} {byte : UInt8} (shift_lt : shift < 32)
    (byte_eq : (byte &&& 0x7F).toNat = low) (fits : value + low * 2 ^ shift < 2 ^ 32) :
    addShifted value byte shift = value + low * 2 ^ shift := by
  simp only [addShifted, byte_eq, shift_lt, if_true, Nat.shiftLeft_eq]
  exact Nat.mod_eq_of_lt fits

/-- The continuation bytes of `encode_int` add their value at the current shift. -/
theorem decodeIntLoop_encodeIntLoop (fuel : ℕ) {value shift number : ℕ} (rest : Bytes)
    (shift_lt : shift < 32) (fuel_enough : number < 128 ^ (fuel + 1))
    (fits : value + number * 2 ^ shift < 2 ^ 32) :
    decodeIntLoop value shift (encodeIntLoop fuel number ++ rest) =
      .ok (value + number * 2 ^ shift, rest) := by
  induction fuel generalizing value shift number with
  | zero =>
      have small : number < 128 := by simpa using fuel_enough
      rcases final_byte number small with ⟨low_eq, stop⟩
      simp [encodeIntLoop, decodeIntLoop, stop, addShifted_of_lt shift_lt low_eq fits]
  | succ fuel ih =>
      by_cases large : 128 ≤ number
      · have low_lt : number % 128 < 128 := Nat.mod_lt _ (by decide)
        rcases continuation_byte _ low_lt with ⟨low_eq, more⟩
        have parts : number * 2 ^ shift =
            number % 128 * 2 ^ shift + number / 128 * 2 ^ (shift + 7) := by
          conv_lhs => rw [← Nat.mod_add_div number 128]
          rw [pow_add]
          ring
        -- another group follows, so its shift is still in range
        have next_lt : shift + 7 < 32 := by
          have bound : 2 ^ (shift + 7) < 2 ^ 32 := by
            calc
              2 ^ (shift + 7) = 128 * 2 ^ shift := by rw [pow_add]; ring
              _ ≤ number * 2 ^ shift := Nat.mul_le_mul_right _ large
              _ < 2 ^ 32 := by omega
          exact (Nat.pow_lt_pow_iff_right (by decide)).mp bound
        have quotient_lt : number / 128 < 128 ^ (fuel + 1) := by
          rw [Nat.div_lt_iff_lt_mul (by decide), ← pow_succ]
          exact fuel_enough
        have first_fits : value + number % 128 * 2 ^ shift < 2 ^ 32 := by omega
        have first := addShifted_of_lt shift_lt low_eq first_fits
        have no_wrap : (shift + 7) % 2 ^ 32 = shift + 7 := Nat.mod_eq_of_lt (by omega)
        have others_fit : value + number % 128 * 2 ^ shift + number / 128 * 2 ^ (shift + 7) <
            2 ^ 32 := by omega
        have others := ih next_lt quotient_lt others_fit
        simp only [encodeIntLoop, large, if_true, List.cons_append, decodeIntLoop, more, if_false]
        rw [first, no_wrap, others, parts, Nat.add_assoc]
      · have small : number < 128 := by omega
        rcases final_byte number small with ⟨low_eq, stop⟩
        simp [encodeIntLoop, large, decodeIntLoop, stop, addShifted_of_lt shift_lt low_eq fits]

theorem decodeInt_encodeInt_string {number : ℕ} (number_lt : number < 2 ^ 32) (rest : Bytes) :
    decodeInt 7 (encodeInt number 0 7 ++ rest) = .ok (number, rest) := by
  have mask_eq : (prefixMask 7).toNat = 127 := by decide
  by_cases small : number < 127
  · have low := (final_byte number (by omega)).1
    have zero_or : (0 &&& ~~~prefixMask 7) ||| UInt8.ofNat number = UInt8.ofNat number := by
      simp
    have low_eq : (UInt8.ofNat number &&& prefixMask 7).toNat = number := low
    simp [encodeInt, mask_eq, small, decodeInt, low_eq]
  · have full : ((0 ||| prefixMask 7) &&& prefixMask 7).toNat = 127 := by decide
    have sum : 127 + (number - 127) * 2 ^ 0 = number := by omega
    have enough : number - 127 < 128 ^ (5 + 1) := by omega
    have loop := decodeIntLoop_encodeIntLoop 5 rest (by decide) enough (sum.trans_lt number_lt)
    simp only [encodeInt, mask_eq, small, if_false, List.cons_append, decodeInt, full,
      Nat.lt_irrefl, loop, sum]

/-- A string literal is read back with what follows it untouched. -/
theorem decodeString_encodeString {text : Bytes} (text_lt : text.length < 2 ^ 32)
    (rest : Bytes) : decodeString (encodeString text ++ rest) = .ok (text, rest) := by
  have length_eq : text.length % 2 ^ 32 = text.length := Nat.mod_eq_of_lt text_lt
  simp only [decodeString, encodeString, length_eq, List.append_assoc,
    decodeInt_encodeInt_string text_lt]
  simp

/-! ## Fields -/

theorem decodeLiteral_append {nameIdx : ℕ} {name value data rest : Bytes}
    (name_ne : name ≠ []) (value_lt : value.length < 2 ^ 32)
    (named : decodeName nameIdx (data ++ encodeString value ++ rest) =
      .ok (name, encodeString value ++ rest)) :
    decodeLiteral nameIdx (data ++ encodeString value ++ rest) =
      .ok (.insert name value, rest) := by
  simp only [decodeLiteral, named, decodeString_encodeString value_lt]
  simp [name_ne]

/-- Whatever form the encoder chooses, the decoder sees the field and what follows it. -/
theorem decodeField_encodeField {name value : Bytes} (name_ne : name ≠ [])
    (name_lt : name.length < 2 ^ 32) (value_lt : value.length < 2 ^ 32) (rest : Bytes) :
    ∃ first tail, encodeField name value ++ rest = first :: tail ∧
      decodeField first tail = .ok (.insert name value, rest) := by
  cases full : findStaticIndex name value with
  | some index =>
      rcases findStaticIndex_some full with ⟨positive, index_lt, entry⟩
      rcases indexed_byte index index_lt with ⟨marked, low_eq⟩
      have small : index < (prefixMask 7).toNat := index_lt.trans (by decide)
      refine ⟨(0x80 &&& ~~~prefixMask 7) ||| UInt8.ofNat index, rest, ?_, ?_⟩
      · simp [encodeField, full, encodeInt_index _ small]
      · have decoded : decodeInt 7 (((0x80 &&& ~~~prefixMask 7) ||| UInt8.ofNat index) :: rest) =
            .ok (index, rest) := by
          simp only [decodeInt, low_eq, small, if_true]
        have nonzero : index ≠ 0 := by omega
        simp only [decodeField, ne_eq, marked, not_false_eq_true, if_true, decodeIndexed, decoded,
          nonzero, if_false, entry]
  | none =>
      cases named : findStaticNameIndex name with
      | some index =>
          rcases findStaticNameIndex_some named with ⟨positive, index_lt, entry⟩
          rcases literal_byte index index_lt with ⟨unmarked, literal, low_eq⟩
          have small : index < (prefixMask 6).toNat := index_lt.trans (by decide)
          refine ⟨(0x40 &&& ~~~prefixMask 6) ||| UInt8.ofNat index, encodeString value ++ rest,
            ?_, ?_⟩
          · simp [encodeField, full, named, encodeInt_index _ small]
          · have nonzero : index ≠ 0 := by omega
            simp only [decodeField, ne_eq, unmarked, not_true_eq_false, if_false, literal,
              if_true, low_eq]
            have named : decodeName index ([] ++ encodeString value ++ rest) =
                .ok (name, encodeString value ++ rest) := by
              simp [decodeName, nonzero, entry]
            exact decodeLiteral_append name_ne value_lt named
      | none =>
          refine ⟨0x40, encodeString name ++ encodeString value ++ rest, ?_, ?_⟩
          · simp [encodeField, full, named]
          · change decodeLiteral 0 _ = _
            apply decodeLiteral_append name_ne value_lt
            simp [decodeName, decodeString_encodeString name_lt]

end Decoding

end Hpack

/-! ## Blocks -/

namespace HpackDecoder

open Hpack

section Decoding

variable [WideShift]

theorem decodeLoop_encodeFields (decoder : HpackDecoder) (fields : List (Bytes × Bytes))
    (encodable : ∀ field ∈ fields, field.1 ≠ [] ∧ field.1.length < 2 ^ 32 ∧
      field.2.length < 2 ^ 32) (headers : HttpHeaders) {fuel : ℕ}
    (enough : fields.length ≤ fuel) :
    decodeLoop fuel decoder headers (fields.flatMap fun field => encodeField field.1 field.2) =
      (.ok, fields.foldl (fun map field => map.insert field.1 field.2) headers, decoder) := by
  induction fields generalizing headers fuel with
  | nil => cases fuel <;> rfl
  | cons field fields ih =>
      rcases encodable field (by simp) with ⟨name_ne, name_lt, value_lt⟩
      rcases decodeField_encodeField name_ne name_lt value_lt
        (fields.flatMap fun field => encodeField field.1 field.2) with ⟨first, tail, shape, decoded⟩
      rcases fuel with _ | fuel
      · simp at enough
      · rw [List.flatMap_cons, shape]
        simp only [decodeLoop, decoded, List.foldl_cons]
        apply ih
        · intro other other_mem
          exact encodable other (List.mem_cons_of_mem _ other_mem)
        · simpa using enough

omit [WideShift] in
theorem encodable_toList {headers : HttpHeaders}
    (encodable : ∀ name value : Bytes, headers[name]? = some value →
      name ≠ [] ∧ name.length < 2 ^ 31 ∧ value.length < 2 ^ 31) :
    ∀ field ∈ headers.toList, field.1 ≠ [] ∧ field.1.length < 2 ^ 32 ∧
      field.2.length < 2 ^ 32 := by
  rintro ⟨name, value⟩ present
  rcases encodable name value (Std.ExtTreeMap.mem_toList_iff_getElem?_eq_some.mp present) with
    ⟨name_ne, name_lt, value_lt⟩
  exact ⟨name_ne, name_lt.trans (by decide), value_lt.trans (by decide)⟩

/-- Fields that can be written are read back, whatever the decoder has seen before. -/
theorem decode_encode_of_fields (decoder : HpackDecoder) (headers : HttpHeaders)
    (encodable : ∀ field ∈ headers.toList, field.1 ≠ [] ∧ field.1.length < 2 ^ 32 ∧
      field.2.length < 2 ^ 32) :
    decoder.decode (encode headers) = (.ok, headers, decoder) := by
  have decoded := decodeLoop_encodeFields decoder headers.toList encodable ∅
    (length_le_encodeFields headers.toList)
  rw [← MapOverlay.overlay, MapOverlay.overlay_empty_left] at decoded
  exact decoded

/-- Decoding an encoded header map gives the map back. -/
theorem decode_encode_headers (decoder : HpackDecoder) (headers : HttpHeaders)
    (encodable : ∀ name value : Bytes, headers[name]? = some value →
      name ≠ [] ∧ name.length < 2 ^ 31 ∧ value.length < 2 ^ 31) :
    decoder.decode (encode headers) = (.ok, headers, decoder) :=
  decode_encode_of_fields decoder headers (encodable_toList encodable)

end Decoding

/-- A header map with one field of each form: indexed, indexed name, literal name. -/
def threeForms : HttpHeaders :=
  .ofList [(ascii ":method", ascii "GET"), (ascii "content-length", ascii "7"), ([0, 255], [])]

theorem decode_encode_threeForms :
    threeForms.toList.length = 3 ∧
      HpackDecoder.decode {} (encode threeForms) = (.ok, threeForms, {}) := by
  refine ⟨by decide +kernel, decode_encode_headers {} threeForms ?_⟩
  intro name value found
  have fields : ∀ field ∈ threeForms.toList, field.1 ≠ [] ∧ field.1.length < 2 ^ 31 ∧
      field.2.length < 2 ^ 31 := by decide +kernel
  exact fields (name, value) (Std.ExtTreeMap.mem_toList_iff_getElem?_eq_some.mpr found)

end HpackDecoder

end HttpsServerSim
