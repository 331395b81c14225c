import HttpsServerSim.Protocol.HpackBoundaries
import HttpsServerSim.Protocol.HpackIntegers

/-!
# Header blocks as the RFC writes them

A header block of RFC 7541 as data: its field representations with every integer in
some valid encoding. What a block means is read off this data with the static table;
the bytes of the block are given to the decoder.

The decoder takes the name index of a literal field out of the first byte and does not
look for more bytes of it. With four bits of prefix that goes wrong from index 15 on:
the field gets the name of entry 15, and what continues the index is taken for the
length of the value. All other blocks that keep to the static table and to plain
strings are understood. What the decoder does not support it does not report: indices
outside the static table are passed over, and Huffman-coded octets are taken as text.
-/

namespace HttpsServerSim

open OrderedMap

namespace Hpack

open PrefixedInteger

/-! ## Representations -/

/-- A string literal: its length, in any encoding, and its octets. -/
structure StringLiteral where
  huffman : Bool
  length : Code 7
  octets : Bytes
  length_eq : length.value = octets.length

def StringLiteral.bytes (text : StringLiteral) : Bytes :=
  text.length.bytes (if text.huffman then 0x80 else 0) ++ text.octets

inductive LiteralKind where
  | incrementalIndexing
  | withoutIndexing
  | neverIndexed
deriving DecidableEq

namespace LiteralKind

/-- The length of the prefix for the name index. -/
def bits : LiteralKind → ℕ
  | .incrementalIndexing => 6
  | .withoutIndexing => 4
  | .neverIndexed => 4

/-- The bits above the prefix. -/
def pattern : LiteralKind → ℕ
  | .incrementalIndexing => 0x40
  | .withoutIndexing => 0
  | .neverIndexed => 0x10

end LiteralKind

/-- The name of a literal field. Index 0 would announce a name of its own. -/
inductive FieldName (bits : ℕ) where
  | indexed (index : Code bits) (positive : 0 < index.value)
  | literal (text : StringLiteral)

/-- What a header block consists of. -/
inductive Representation where
  | indexed (index : Code 7)
  | literal (kind : LiteralKind) (name : FieldName kind.bits) (value : StringLiteral)
  | tableSize (size : Code 5)

namespace FieldName

variable {bits : ℕ}

def bytes (high : ℕ) : FieldName bits → Bytes
  | .indexed index _ => index.bytes high
  | .literal text => UInt8.ofNat high :: text.bytes

/-- The name itself; an index must be one of the static table. -/
def name : FieldName bits → Option Bytes
  | .indexed index _ => staticTable[index.value - 1]?.map StaticTableEntry.name
  | .literal text => some text.octets

/-- The name is to be looked up beyond the static table. -/
def OutOfTable : FieldName bits → Prop
  | .indexed index _ => 61 < index.value
  | .literal _ => False

def HuffmanCoded : FieldName bits → Prop
  | .indexed _ _ => False
  | .literal text => text.huffman = true

end FieldName

namespace Representation

def bytes : Representation → Bytes
  | .indexed index => index.bytes 0x80
  | .literal kind name value => name.bytes kind.pattern ++ value.bytes
  | .tableSize size => size.bytes 0x20

/-- The field that is meant. Octets stand for themselves here: for a Huffman-coded string this
is not its text. -/
def field : Representation → Option (Bytes × Bytes)
  | .indexed index =>
      if index.value = 0 then none
      else staticTable[index.value - 1]?.map fun entry => (entry.name, entry.value)
  | .literal _ name value => name.name.map fun name => (name, value.octets)
  | .tableSize _ => none

/-- The representation needs a table other than the static one, or has index 0. -/
def OutOfTable : Representation → Prop
  | .indexed index => index.value = 0 ∨ 61 < index.value
  | .literal _ name _ => name.OutOfTable
  | .tableSize _ => False

def HuffmanCoded : Representation → Prop
  | .indexed _ => False
  | .literal _ name value => name.HuffmanCoded ∨ value.huffman = true
  | .tableSize _ => False

/-- The field that the decoder stores: one without a name is dropped. -/
def stored (representation : Representation) : Option (Bytes × Bytes) :=
  representation.field.filter fun field => !field.1.isEmpty

end Representation

/-- The bytes of a block. -/
def blockBytes (block : List Representation) : Bytes :=
  (block.map Representation.bytes).flatten

/-- The map of a block's field list: later fields overwrite earlier ones of the same name. -/
def blockHeaders (block : List Representation) : HttpHeaders :=
  storeAll ∅ (block.filterMap Representation.field)

/-! ## First bytes -/

/-- The four branches of the decoder by the number in the first byte. -/
theorem decodeField_eq [WideShift] (first : UInt8) (rest : Bytes) :
    decodeField first rest =
      if 128 ≤ first.toNat then decodeIndexed (first :: rest)
      else if 64 ≤ first.toNat then decodeLiteral (first.toNat % 64) rest
      else if 32 ≤ first.toNat then decodeTableSize (first :: rest)
      else decodeLiteral (first.toNat % 16) rest := by
  have table : ∀ index : Fin 256,
      (UInt8.ofNat index.val &&& 0x80 ≠ 0 ↔ 128 ≤ index.val) ∧
        (index.val < 128 → (UInt8.ofNat index.val &&& 0xC0 = 0x40 ↔ 64 ≤ index.val)) ∧
        (index.val < 64 → (UInt8.ofNat index.val &&& 0xE0 = 0x20 ↔ 32 ≤ index.val)) := by
    decide +kernel
  rcases table ⟨first.toNat, first.toNat_lt⟩ with ⟨indexed, incremental, tableSize⟩
  simp only [UInt8.ofNat_toNat] at indexed incremental tableSize
  have six : (first &&& 0x3F).toNat = first.toNat % 64 :=
    toNat_and_prefixMask first (by decide : 6 ≤ 8)
  have four : (first &&& 0x0F).toNat = first.toNat % 16 :=
    toNat_and_prefixMask first (by decide : 4 ≤ 8)
  simp only [decodeField, indexed, six, four]
  by_cases isIndexed : 128 ≤ first.toNat
  · simp only [isIndexed, if_true]
  · simp only [isIndexed, if_false, incremental (by omega)]
    by_cases isIncremental : 64 ≤ first.toNat
    · simp only [isIncremental, if_true]
    · simp only [isIncremental, if_false, tableSize (by omega)]

theorem decodeField_literal [WideShift] (kind : LiteralKind) {first : UInt8} (rest : Bytes)
    (above : kind.pattern ≤ first.toNat)
    (below : first.toNat < kind.pattern + 2 ^ kind.bits) :
    decodeField first rest = decodeLiteral (first.toNat % 2 ^ kind.bits) rest := by
  rw [decodeField_eq]
  cases kind with
  | incrementalIndexing =>
      simp only [LiteralKind.pattern, LiteralKind.bits, Nat.reducePow] at above below ⊢
      rw [if_neg (by omega), if_pos (by omega)]
  | withoutIndexing =>
      simp only [LiteralKind.pattern, LiteralKind.bits, Nat.reducePow] at above below ⊢
      rw [if_neg (by omega), if_neg (by omega), if_neg (by omega)]
  | neverIndexed =>
      simp only [LiteralKind.pattern, LiteralKind.bits, Nat.reducePow] at above below ⊢
      rw [if_neg (by omega), if_neg (by omega), if_neg (by omega)]

theorem LiteralKind.aligned (kind : LiteralKind) : 2 ^ kind.bits ∣ kind.pattern := by
  cases kind <;> decide

theorem LiteralKind.room (kind : LiteralKind) : kind.pattern + 2 ^ kind.bits ≤ 256 := by
  cases kind <;> decide

/-! ## Reading a representation -/

theorem isEmpty_staticName {index : ℕ} {entry : StaticTableEntry}
    (found : staticTable[index]? = some entry) : entry.name.isEmpty = false := by
  have named : ∀ entry ∈ staticTable, entry.name.isEmpty = false := by decide
  exact named entry (List.mem_of_getElem? found)

theorem FieldName.exists_name {bits : ℕ} {name : FieldName bits} (inTable : ¬ name.OutOfTable) :
    ∃ text, name.name = some text := by
  have size : staticTable.length = 61 := by decide
  cases name with
  | indexed index positive =>
      have below : index.value ≤ 61 := Nat.not_lt.mp inTable
      simp only [FieldName.name]
      rw [List.getElem?_eq_getElem (by omega)]
      exact ⟨_, rfl⟩
  | literal text => exact ⟨text.octets, rfl⟩

namespace Representation

theorem stored_of_outOfTable {representation : Representation}
    (outOfTable : representation.OutOfTable) : representation.stored = none := by
  have size : staticTable.length = 61 := by decide
  cases representation with
  | indexed index =>
      simp only [stored, field]
      split_ifs with zero
      · rfl
      · have beyond : 61 < index.value := outOfTable.resolve_left zero
        rw [List.getElem?_eq_none (by omega)]
        rfl
  | literal kind name value =>
      cases name with
      | indexed index positive =>
          have beyond : 61 < index.value := outOfTable
          simp only [stored, field, FieldName.name]
          rw [List.getElem?_eq_none (by omega)]
          rfl
      | literal text => exact outOfTable.elim
  | tableSize size => exact outOfTable.elim

/-- A Huffman-coded string is stored as the octets it is coded in. -/
theorem stored_of_huffmanCoded {representation : Representation}
    (inTable : ¬ representation.OutOfTable) (coded : representation.HuffmanCoded) :
    ∃ kind name value text, representation = .literal kind name value ∧ name.name = some text ∧
      representation.stored = if text.isEmpty then none else some (text, value.octets) := by
  cases representation with
  | indexed index => exact coded.elim
  | literal kind name value =>
      rcases FieldName.exists_name inTable with ⟨text, named⟩
      refine ⟨kind, name, value, text, rfl, named, ?_⟩
      simp only [stored, field, named]
      cases text <;> rfl
  | tableSize size => exact coded.elim

end Representation

section Decoding

variable [WideShift]

/-- No shift whose result is open adds to the integer. -/
def ShiftsKnown {bits : ℕ} (code : Code bits) : Prop :=
  code.excess.length ≤ 5 ∨ ∀ count, WideShift.shift 0 count = 0

theorem decodeInt_code {bits high : ℕ} (code : Code bits) (bits_le : bits ≤ 8)
    (aligned : 2 ^ bits ∣ high) (room : high + 2 ^ bits ≤ 256) (value_lt : code.value < 2 ^ 32)
    (shifts : ShiftsKnown code) (rest : Bytes) :
    decodeInt bits (code.bytes high ++ rest) = .ok (code.value, rest) := by
  apply decodeInt_eq bits_le (code.readInteger_bytes aligned room rest) value_lt
  rw [code.continuation_bytes aligned room]
  exact shifts

namespace StringLiteral

/-- The length is one that the decoder reads. -/
def Readable (text : StringLiteral) : Prop :=
  text.octets.length < 2 ^ 32 ∧ ShiftsKnown text.length

theorem decodeString_bytes {text : StringLiteral} (readable : text.Readable) (rest : Bytes) :
    decodeString (text.bytes ++ rest) = .ok (text.octets, rest) := by
  rcases readable with ⟨length_lt, shifts⟩
  have aligned : 2 ^ 7 ∣ if text.huffman then 0x80 else 0 := by
    split_ifs <;> decide
  have room : (if text.huffman then 0x80 else 0) + 2 ^ 7 ≤ 256 := by
    split_ifs <;> decide
  rw [← text.length_eq] at length_lt
  have decoded := decodeInt_code text.length (by decide) aligned room length_lt shifts
    (text.octets ++ rest)
  rw [text.length_eq] at decoded
  have long : ¬ (text.octets ++ rest).length < text.octets.length := by
    rw [List.length_append]
    omega
  simp only [decodeString, bytes, List.append_assoc, decoded, long, if_false]
  rw [List.take_left' rfl, List.drop_left' rfl]

end StringLiteral

/-- A name that the decoder reads: one byte of index, or a string. -/
def FieldName.Readable {bits : ℕ} : FieldName bits → Prop
  | .indexed index _ => index.excess = []
  | .literal text => text.Readable

/-- A representation that the decoder reads as it stands. -/
def Representation.Readable : Representation → Prop
  | .indexed index => index.value < 2 ^ 32 ∧ ShiftsKnown index
  | .literal _ name value => name.Readable ∧ value.Readable
  | .tableSize _ => True

/-- A literal field is its name, a readable value, and what follows. -/
theorem decodeLiteral_eq {nameIdx : ℕ} {data name rest : Bytes} {value : StringLiteral}
    (readable : value.Readable)
    (named : decodeName nameIdx data = .ok (name, value.bytes ++ rest)) :
    decodeLiteral nameIdx data =
      .ok (if name.isEmpty then .ignore else .insert name value.octets, rest) := by
  simp only [decodeLiteral, named, StringLiteral.decodeString_bytes readable]

namespace Representation

theorem stores_indexed {index : Code 7} (readable : (Representation.indexed index).Readable)
    (rest : Bytes) :
    Stores ((Representation.indexed index).bytes ++ rest)
      (Representation.indexed index).stored rest := by
  have room : 0x80 + 2 ^ 7 ≤ 256 := by decide
  have marked := (index.first_range room).1
  have decoded := decodeInt_code index (by decide) (by decide : 2 ^ 7 ∣ 0x80) room
    readable.1 readable.2 rest
  have branch (tail : Bytes) :
      decodeField (index.first 0x80) tail = decodeIndexed (index.first 0x80 :: tail) := by
    rw [decodeField_eq, if_pos marked]
  simp only [bytes, Code.bytes, List.cons_append] at decoded ⊢
  simp only [stored, field]
  by_cases zero : index.value = 0
  · refine ⟨_, _, .ignore, rfl, ?_, ?_⟩
    · simp only [branch, decodeIndexed, decoded, zero, if_true]
    · simp only [zero, if_true]
      rfl
  · cases found : staticTable[index.value - 1]? with
    | none =>
        refine ⟨_, _, .ignore, rfl, ?_, ?_⟩
        · simp only [branch, decodeIndexed, decoded, zero, if_false, found]
        · simp only [zero, if_false]
          rfl
    | some entry =>
        refine ⟨_, _, .insert entry.name entry.value, rfl, ?_, ?_⟩
        · simp only [branch, decodeIndexed, decoded, zero, if_false, found]
        · simp only [zero, if_false, Option.map_some, Option.filter_some,
            isEmpty_staticName found, Bool.not_false, if_true]
          rfl

theorem stores_literal {kind : LiteralKind} {name : FieldName kind.bits} {value : StringLiteral}
    (readable : (Representation.literal kind name value).Readable) (rest : Bytes) :
    Stores ((Representation.literal kind name value).bytes ++ rest)
      (Representation.literal kind name value).stored rest := by
  rcases readable with ⟨nameReadable, valueReadable⟩
  have stores : (if (name.name.getD []).isEmpty then FieldEffect.ignore
      else .insert (name.name.getD []) value.octets).field =
      (Representation.literal kind name value).stored := by
    simp only [stored, field]
    cases name.name with
    | none => rfl
    | some text => cases text <;> rfl
  simp only [bytes, List.append_assoc]
  cases name with
  | indexed index positive =>
      have range := index.first_range kind.room
      have low := index.first_mod kind.aligned kind.room
      cases index with
      | long marked last => simp [FieldName.Readable, Code.excess] at nameReadable
      | short number fits =>
          have nonzero : number ≠ 0 := Nat.ne_of_gt positive
          refine ⟨_, _, _, rfl, ?_, stores⟩
          rw [decodeField_literal kind _ range.1 range.2, low]
          apply decodeLiteral_eq valueReadable
          simp only [decodeName, nonzero, if_false]
          rfl
  | literal text =>
      have first_eq : (UInt8.ofNat kind.pattern).toNat = kind.pattern := by
        cases kind <;> rfl
      have positive : 0 < 2 ^ kind.bits := Nat.two_pow_pos kind.bits
      have low : kind.pattern % 2 ^ kind.bits = 0 := Nat.mod_eq_zero_of_dvd kind.aligned
      refine ⟨_, _, _, rfl, ?_, stores⟩
      rw [decodeField_literal kind _ (by omega) (by omega), first_eq, low]
      apply decodeLiteral_eq valueReadable
      simp only [decodeName, if_true]
      exact StringLiteral.decodeString_bytes nameReadable _

/-- The size itself does not matter, so it need not fit. -/
theorem stores_tableSize (size : Code 5) (rest : Bytes) :
    Stores ((Representation.tableSize size).bytes ++ rest)
      (Representation.tableSize size).stored rest := by
  have room : 0x20 + 2 ^ 5 ≤ 256 := by decide
  have range := size.first_range room
  have consumed := decodeInt_rest (by decide : 5 ≤ 8) (size.bytes 0x20 ++ rest)
  rw [size.readInteger_bytes (by decide) room] at consumed
  rcases consumed with ⟨number, decoded⟩
  simp only [bytes, Code.bytes, List.cons_append] at decoded ⊢
  refine ⟨_, _, .tableSize number, rfl, ?_, ?_⟩
  · rw [decodeField_eq, if_neg (by omega), if_neg (by omega), if_pos range.1]
    simp only [decodeTableSize, decoded]
  · rfl

/-- The decoder takes a readable representation as one field. -/
theorem stores_bytes {representation : Representation} (readable : representation.Readable)
    (rest : Bytes) :
    Stores (representation.bytes ++ rest) representation.stored rest := by
  cases representation with
  | indexed index => exact stores_indexed readable rest
  | literal kind name value => exact stores_literal readable rest
  | tableSize size => exact stores_tableSize size rest

/-- A representation that is cut short is not decoded: with the missing bytes it would end
before them. -/
theorem decodeField_cut {representation : Representation} (readable : representation.Readable)
    {first : UInt8} {tail missing : Bytes} (cut : representation.bytes = first :: tail ++ missing)
    (shorter : missing ≠ []) : ∃ status, decodeField first tail = .error status := by
  cases decoded : decodeField first tail with
  | error status => exact ⟨status, rfl⟩
  | ok result =>
      exfalso
      rcases result with ⟨effect, next⟩
      rcases decodeField_local decoded with ⟨used, rfl, stable⟩
      rcases stores_bytes readable [] with ⟨_, _, _, shape, whole, -⟩
      rw [List.append_nil, cut, List.cons_append, List.append_assoc] at shape
      cases shape
      rw [stable] at whole
      cases missing with
      | nil => exact shorter rfl
      | cons byte missing => simp at whole

end Representation

/-- A block of readable representations is taken field by field. -/
theorem reaches_blockBytes {block : List Representation}
    (readable : ∀ representation ∈ block, representation.Readable) :
    Reaches (blockBytes block) (block.filterMap Representation.stored) [] := by
  induction block with
  | nil => exact .here
  | cons representation block ih =>
      rcases List.forall_mem_cons.mp readable with ⟨first, later⟩
      have reaches :=
        (Representation.stores_bytes first (blockBytes block)).reaches.trans (ih later)
      rw [List.filterMap_cons]
      cases stored : representation.stored with
      | none =>
          rw [stored] at reaches
          exact reaches
      | some field =>
          rw [stored] at reaches
          exact reaches

end Decoding

end Hpack

namespace HpackDecoder

open Hpack

/-- What is not supported is not reported: an index outside the table stores nothing and
Huffman-coded octets are stored as they are, and decoding goes on behind the field. Only a field
that is cut short is an error. -/
theorem decode_unsupported [WideShift] (decoder other : HpackDecoder)
    {representation : Representation}
    (unsupported : representation.OutOfTable ∨ representation.HuffmanCoded)
    (readable : representation.Readable) :
    (∀ data fields rest, Reaches data fields (representation.bytes ++ rest) →
      (decoder.decode data).1 = (other.decode rest).1 ∧
        (decoder.decode data).2.1 =
          MapOverlay.overlay (storeAll ∅ (fields ++ representation.stored.toList))
            (other.decode rest).2.1) ∧
      (representation.OutOfTable → representation.stored = none) ∧
      (¬ representation.OutOfTable →
        ∃ kind name value text, representation = .literal kind name value ∧
          name.name = some text ∧
          representation.stored = if text.isEmpty then none else some (text, value.octets)) ∧
      ∀ data fields piece missing, Reaches data fields piece → piece ≠ [] → missing ≠ [] →
        representation.bytes = piece ++ missing → (decoder.decode data).1 = .invalid := by
  refine ⟨?_, Representation.stored_of_outOfTable, ?_, ?_⟩
  · intro data fields rest reached
    apply decode_of_reaches
    exact reached.trans (Representation.stores_bytes readable rest).reaches
  · intro inTable
    exact Representation.stored_of_huffmanCoded inTable (unsupported.resolve_left inTable)
  · intro data fields piece missing reached piece_ne missing_ne split
    rw [(decode_of_reaches decoder decoder reached).1]
    cases piece with
    | nil => exact absurd rfl piece_ne
    | cons first tail =>
        rcases Representation.decodeField_cut readable split missing_ne with ⟨status, failed⟩
        exact decode_field_error decoder failed

/-- Index 62, of a dynamic table, between two fields of the static table. -/
theorem decode_index_62 :
    (HpackDecoder.decode {} [0x82, 0xBE, 0x84]).1 = (HpackDecoder.decode {} [0x84]).1 ∧
      (HpackDecoder.decode {} [0x82, 0xBE, 0x84]).2.1 =
        MapOverlay.overlay (storeAll ∅ [(ascii ":method", ascii "GET")])
          (HpackDecoder.decode {} [0x84]).2.1 := by
  have outOfTable : (Representation.indexed (.short 62 (by decide))).OutOfTable :=
    Or.inr (by decide)
  have readable : (Representation.indexed (.short 62 (by decide))).Readable := by
    refine ⟨by decide, Or.inl (by decide)⟩
  have decoded : decodeField 0x82 [0xBE, 0x84] =
      .ok (.insert (ascii ":method") (ascii "GET"), [0xBE, 0x84]) := rfl
  have method : Reaches [0x82, 0xBE, 0x84] [(ascii ":method", ascii "GET")] [0xBE, 0x84] :=
    .field decoded .here
  exact (decode_unsupported {} {} (Or.inl outOfTable) readable).1 _ _ [0x84] method

/-- An indexed field with index 0 is no error. -/
theorem not_unsupported_reported :
    ¬ ∀ (representation : Representation) (data : Bytes) (fields : List (Bytes × Bytes))
        (rest : Bytes), Reaches data fields (representation.bytes ++ rest) →
      (representation.OutOfTable ∨ representation.HuffmanCoded) →
      (HpackDecoder.decode {} data).1 ≠ .ok := by
  intro reported
  apply reported (.indexed (.short 0 (by decide))) [0x80] [] [] .here (Or.inl (Or.inl rfl))
  rfl

end HpackDecoder

end HttpsServerSim
