import HttpsServerSim.Protocol.HpackRepresentations

/-!
# Which blocks are understood

The blocks that keep to the static table and to plain strings, against the decoder. A
block is understood if it decodes to the map of its field list. All parts of a block
are understood exactly if no literal field has a name index in more than one byte, an
empty name, or a string of `2 ^ 32` bytes or more.

A single bad field is never understood. If its index is not 15, the decoder stores
`accept-charset`, a name the field does not have. If it is 15, the name is right but
the value is empty, and what follows is too short to hold the field's value once more.
With good fields around it a bad one can go unnoticed, as when later fields overwrite
all that went wrong; this is why the statement is about all parts of a block.
-/

namespace HttpsServerSim

open OrderedMap

namespace Hpack

open PrefixedInteger

namespace FieldName

variable {bits : ℕ}

/-- The decoder reads the name as what it is: an index in one byte or a string, not empty and
not too long. -/
def Plain : FieldName bits → Prop
  | .indexed index _ => index.excess = []
  | .literal text => text.octets ≠ [] ∧ text.octets.length < 2 ^ 32

end FieldName

namespace Representation

/-- The block keeps to the static table and to plain strings. -/
def Static (representation : Representation) : Prop :=
  ¬ representation.OutOfTable ∧ ¬ representation.HuffmanCoded

def Plain : Representation → Prop
  | .indexed _ => True
  | .literal _ name value => name.Plain ∧ value.octets.length < 2 ^ 32
  | .tableSize _ => True

/-- No shift whose result is open adds to the length of a string. -/
def LengthsKnown [WideShift] : Representation → Prop
  | .indexed _ => True
  | .literal _ name value =>
      (match name with
        | .indexed _ _ => True
        | .literal text => ShiftsKnown text.length) ∧ ShiftsKnown value.length
  | .tableSize _ => True

end Representation

theorem excess_of_small {bits : ℕ} {code : Code bits} (small : code.value < 2 ^ bits - 1) :
    code.excess = [] := by
  cases code with
  | short number fits => rfl
  | long marked last =>
      simp only [Code.value] at small
      omega

namespace Representation

variable [WideShift]

theorem readable_of_plain {representation : Representation} (static : representation.Static)
    (known : representation.LengthsKnown) (plain : representation.Plain) :
    representation.Readable := by
  rcases static with ⟨inTable, -⟩
  cases representation with
  | indexed index =>
      have value_le : index.value ≤ 61 := by
        simp only [OutOfTable] at inTable
        omega
      have short : index.excess = [] := excess_of_small (by omega)
      refine ⟨by omega, Or.inl ?_⟩
      rw [short]
      decide
  | literal kind name value =>
      rcases plain with ⟨namePlain, value_lt⟩
      rcases known with ⟨nameKnown, valueKnown⟩
      refine ⟨?_, value_lt, valueKnown⟩
      cases name with
      | indexed index positive => exact namePlain
      | literal text => exact ⟨namePlain.2, nameKnown⟩
  | tableSize size => trivial

omit [WideShift] in
theorem isEmpty_fieldName {representation : Representation} (plain : representation.Plain)
    {field : Bytes × Bytes} (meant : representation.field = some field) :
    field.1.isEmpty = false := by
  cases representation with
  | indexed index =>
      simp only [Representation.field] at meant
      split_ifs at meant
      rcases Option.map_eq_some_iff.mp meant with ⟨entry, found, rfl⟩
      exact isEmpty_staticName found
  | literal kind name value =>
      rcases Option.map_eq_some_iff.mp meant with ⟨text, named, rfl⟩
      cases name with
      | indexed index positive =>
          rcases Option.map_eq_some_iff.mp named with ⟨entry, found, rfl⟩
          exact isEmpty_staticName found
      | literal literalText =>
          cases named
          exact List.isEmpty_eq_false_iff.mpr plain.1.1
  | tableSize size => cases meant

omit [WideShift] in
theorem stored_of_plain {representation : Representation} (plain : representation.Plain) :
    representation.stored = representation.field := by
  cases meant : representation.field with
  | none => simp only [stored, meant, Option.filter_none]
  | some field =>
      simp only [stored, meant]
      apply Option.filter_some_pos
      rw [isEmpty_fieldName plain meant]
      rfl

end Representation

/-! ## What a decoder can store -/

/-- A field that fits a representation of the decoder. -/
def Storable (name value : Bytes) : Prop :=
  name ≠ [] ∧ name.length < 2 ^ 32 ∧ value.length < 2 ^ 32

theorem storable_static {index : ℕ} {entry : StaticTableEntry}
    (found : staticTable[index]? = some entry) : Storable entry.name entry.value := by
  have all : ∀ entry ∈ staticTable,
      entry.name ≠ [] ∧ entry.name.length < 2 ^ 32 ∧ entry.value.length < 2 ^ 32 := by
    decide +kernel
  exact all entry (List.mem_of_getElem? found)

section Decoding

variable [WideShift]

theorem length_decodeInt {bits number : ℕ} {data rest : Bytes}
    (decoded : decodeInt bits data = .ok (number, rest)) : rest.length < data.length := by
  rcases local_decodeInt bits data number rest decoded with ⟨used, rfl, stable⟩
  cases used with
  | nil => cases stable []
  | cons byte used =>
      rw [List.length_append, List.length_cons]
      omega

theorem decodeString_bounds {data text rest : Bytes}
    (decoded : decodeString data = .ok (text, rest)) :
    text.length < 2 ^ 32 ∧ text.length + rest.length < data.length := by
  simp only [decodeString] at decoded
  split at decoded
  · cases decoded
  · rename_i len afterLength lengthDecoded
    split_ifs at decoded with short
    cases decoded
    have len_lt := decodeInt_lt lengthDecoded
    have shorter := length_decodeInt lengthDecoded
    rw [List.length_take, List.length_drop]
    omega

theorem decodeLiteral_insert {nameIdx : ℕ} {data name value rest : Bytes}
    (decoded : decodeLiteral nameIdx data = .ok (.insert name value, rest)) :
    Storable name value ∧ value.length < data.length := by
  simp only [decodeLiteral] at decoded
  split at decoded
  · cases decoded
  · rename_i decodedName afterName nameDecoded
    split at decoded
    · cases decoded
    · rename_i decodedValue afterValue valueDecoded
      have name_ne : decodedName ≠ [] := by
        rintro rfl
        cases decoded
      rw [if_neg (mt List.isEmpty_iff.mp name_ne)] at decoded
      cases decoded
      rcases decodeString_bounds valueDecoded with ⟨value_lt, value_inside⟩
      simp only [decodeName] at nameDecoded
      split_ifs at nameDecoded
      · rcases decodeString_bounds nameDecoded with ⟨name_lt, name_inside⟩
        exact ⟨⟨name_ne, name_lt, value_lt⟩, by omega⟩
      · cases nameDecoded
        refine ⟨⟨name_ne, ?_, value_lt⟩, by omega⟩
        cases found : staticTable[nameIdx - 1]? with
        | none => decide
        | some entry => exact (storable_static found).2.1

/-- A name index outside the table stores nothing. -/
theorem field_of_decodeLiteral {nameIdx : ℕ} {data next : Bytes} {effect : FieldEffect}
    (outside : 61 < nameIdx) (decoded : decodeLiteral nameIdx data = .ok (effect, next)) :
    effect.field = none := by
  have size : staticTable.length = 61 := by decide
  have nonzero : nameIdx ≠ 0 := by omega
  simp only [decodeLiteral, decodeName, nonzero, if_false] at decoded
  rw [List.getElem?_eq_none (by omega)] at decoded
  split at decoded
  · cases decoded
  · cases decoded
    rfl

theorem decodeIndexed_insert {data name value rest : Bytes}
    (decoded : decodeIndexed data = .ok (.insert name value, rest)) :
    ⟨name, value⟩ ∈ staticTable := by
  simp only [decodeIndexed] at decoded
  split at decoded
  · cases decoded
  · split_ifs at decoded
    · cases decoded
    · split at decoded
      · rename_i entry found
        cases decoded
        exact List.mem_of_getElem? found
      · cases decoded

theorem storable_of_decodeField {first : UInt8} {tail name value next : Bytes}
    (decoded : decodeField first tail = .ok (.insert name value, next)) : Storable name value := by
  simp only [decodeField] at decoded
  split_ifs at decoded
  · rcases List.getElem?_of_mem (decodeIndexed_insert decoded) with ⟨index, found⟩
    exact storable_static found
  · exact (decodeLiteral_insert decoded).1
  · simp only [decodeTableSize] at decoded
    split at decoded <;> cases decoded
  · exact (decodeLiteral_insert decoded).1

end Decoding

/-! ## Values that have no room -/

/-- Wherever enough bytes for a literal value of this length follow, an indexed field starts. -/
def NoRoom (value data : Bytes) : Prop :=
  ∀ before byte after, data = before ++ byte :: after → value.length < after.length →
    128 ≤ byte.toNat

theorem NoRoom.suffix {value before data : Bytes} (noRoom : NoRoom value (before ++ data)) :
    NoRoom value data := by
  rintro front byte after rfl longer
  apply noRoom (before ++ front) byte after _ longer
  rw [List.append_assoc]

/-- `accept-charset`, the name of entry 15. -/
def acceptCharset : Bytes := ascii "accept-charset"

section Decoding

variable [WideShift]

/-- A value without room is not stored as `accept-charset`: it is not the value of a static
entry, and a literal would have to hold it. -/
theorem not_mem_of_noRoom {value data rest : Bytes} {fields : List (Bytes × Bytes)}
    (nonempty : value ≠ []) (noRoom : NoRoom value data) (reaches : Reaches data fields rest) :
    (acceptCharset, value) ∉ fields := by
  have emptyEntry : ∀ entry ∈ staticTable, entry.name = acceptCharset → entry.value = [] := by
    decide +kernel
  have apart := Reaches.forall_fields (NoRoom value)
    (fun name other => name = acceptCharset → other ≠ value) ?_ ?_ reaches noRoom
  · intro member
    exact apart _ member rfl rfl
  · intro first tail effect next room decoded
    rcases decodeField_local decoded with ⟨used, rfl, _⟩
    have room : NoRoom value ((first :: used) ++ next) := room
    exact room.suffix
  · rintro first tail name other next room decoded rfl rfl
    rw [decodeField_eq] at decoded
    by_cases indexed : 128 ≤ first.toNat
    · rw [if_pos indexed] at decoded
      exact nonempty (emptyEntry _ (decodeIndexed_insert decoded) rfl)
    · have short : tail.length ≤ other.length := by
        by_contra longer
        exact indexed (room [] first tail rfl (Nat.not_le.mp longer))
      have inside : other.length < tail.length := by
        rw [if_neg indexed] at decoded
        split_ifs at decoded
        · exact (decodeLiteral_insert decoded).2
        · simp only [decodeTableSize] at decoded
          split at decoded <;> cases decoded
        · exact (decodeLiteral_insert decoded).2
      omega

omit [WideShift] in
theorem noRoom_excess (marked : List (Fin 128)) (last : Fin 128) (octets : Bytes) :
    NoRoom octets ((Code.long marked last : Code 7).excess ++ octets) := by
  intro before byte after split longer
  have lengths := congrArg List.length split
  simp only [Code.excess, List.length_append, List.length_map, List.length_cons,
    List.length_nil] at lengths
  have inside : before.length < marked.length := by omega
  have here : ((Code.long marked last : Code 7).excess ++ octets)[before.length]? = some byte := by
    rw [split]
    simp
  simp only [Code.excess, List.append_assoc] at here
  rw [List.getElem?_append_left (by simpa using inside), List.getElem?_map,
    List.getElem?_eq_getElem inside, Option.map_some, Option.some.injEq] at here
  have group_lt := marked[before.length].isLt
  rw [← here, UInt8.toNat_ofNat']
  omega

/-- Read as fields, a plain string does not store itself as `accept-charset`. -/
theorem not_mem_of_string {text : StringLiteral} (plain : text.huffman = false)
    (nonempty : text.octets ≠ []) {fields : List (Bytes × Bytes)}
    (reaches : Reaches text.bytes fields []) : (acceptCharset, text.octets) ∉ fields := by
  rcases text with ⟨huffman, length, octets, length_eq⟩
  cases plain
  cases length with
  | short number fits =>
      apply not_mem_of_noRoom nonempty _ reaches
      intro before byte after split longer
      have lengths := congrArg List.length split
      simp only [StringLiteral.bytes, Code.bytes, Code.excess, List.length_append,
        List.length_cons, List.length_nil] at lengths longer
      omega
  | long marked last =>
      -- the full prefix looks like a literal with name index 63, which stores nothing
      cases reaches with
      | @field _ _ next _ effect fields decoded later =>
          have noRoom := noRoom_excess marked last octets
          rcases decodeField_local decoded with ⟨used, split, _⟩
          have split : (Code.long marked last : Code 7).excess ++ octets = used ++ next := split
          rw [split] at noRoom
          have decoded : decodeField 0x7F ((Code.long marked last : Code 7).excess ++ octets) =
              .ok (effect, next) := decoded
          change decodeLiteral 63 _ = _ at decoded
          rw [field_of_decodeLiteral (by decide) decoded]
          exact not_mem_of_noRoom nonempty noRoom.suffix later

/-- The empty string is a single zero byte, which announces a name. -/
theorem not_reaches_empty {text : StringLiteral} (plain : text.huffman = false)
    (empty : text.octets = []) (fields : List (Bytes × Bytes)) :
    ¬ Reaches text.bytes fields [] := by
  rcases text with ⟨huffman, length, octets, length_eq⟩
  cases plain
  cases empty
  cases length with
  | short number fits =>
      have zero : number = 0 := length_eq
      subst zero
      intro reaches
      cases reaches with
      | @field _ _ next _ effect fields decoded later =>
          have decoded : decodeField 0 [] = .ok (effect, next) := decoded
          cases decoded
  | long marked last => simp [Code.value] at length_eq

/-- A zero byte before a string announces a name, after which there is no value. -/
theorem not_reaches_zeros {marked : List (Fin 128)} (zeros : ∀ group ∈ marked, group = 0)
    {text : StringLiteral} (readable : text.Readable) (fields : List (Bytes × Bytes)) :
    ¬ Reaches ((Code.long marked 0 : Code 4).excess ++ text.bytes) fields [] := by
  intro reaches
  induction marked generalizing fields with
  | nil =>
      cases reaches with
      | field decoded later =>
          have noValue : decodeLiteral 0 (text.bytes ++ []) = .error .invalid := by
            simp only [decodeLiteral, decodeName, if_true,
              StringLiteral.decodeString_bytes readable]
            rfl
          rw [List.append_nil] at noValue
          change decodeLiteral 0 text.bytes = _ at decoded
          rw [noValue] at decoded
          cases decoded
  | cons group marked ih =>
      rcases List.forall_mem_cons.mp zeros with ⟨rfl, later_zeros⟩
      cases reaches with
      | field decoded later =>
          -- a byte 0x80 is an indexed field with index 0
          cases decoded
          exact ih later_zeros _ later

omit [WideShift] in
theorem index_of_acceptCharset {index : ℕ} {entry : StaticTableEntry}
    (found : staticTable[index]? = some entry) (named : entry.name = acceptCharset) :
    index = 14 := by
  have only : ∀ position : Fin 61,
      staticTable[position.val]?.map StaticTableEntry.name = some acceptCharset →
        position.val = 14 := by
    decide +kernel
  have inside : index < 61 := (List.getElem?_eq_some_iff.mp found).1
  apply only ⟨index, inside⟩
  rw [found, Option.map_some, named]

omit [WideShift] in
/-- Only a prefix of four bits is too short for an index of the static table. -/
theorem bits_of_long {kind : LiteralKind} {marked : List (Fin 128)} {last : Fin 128}
    (inTable : (Code.long marked last : Code kind.bits).value ≤ 61) : kind.bits = 4 := by
  cases kind with
  | incrementalIndexing =>
      simp only [Code.value, LiteralKind.bits] at inTable
      omega
  | withoutIndexing => rfl
  | neverIndexed => rfl

theorem decodeLiteral_fifteen {data next : Bytes} {effect : FieldEffect}
    (decoded : decodeLiteral 15 data = .ok (effect, next)) :
    ∃ text, effect = .insert acceptCharset text ∧ decodeString data = .ok (text, next) := by
  have named : decodeName 15 data = .ok (acceptCharset, data) := rfl
  simp only [decodeLiteral, named] at decoded
  split at decoded
  · cases decoded
  · rename_i text afterText textDecoded
    cases decoded
    exact ⟨text, rfl, textDecoded⟩

/-- A literal field with its name index in more than one byte is not stored. -/
theorem not_mem_of_wide {kind : LiteralKind} {marked : List (Fin 128)} {last : Fin 128}
    {positive : 0 < (Code.long marked last : Code kind.bits).value} {value : StringLiteral}
    {fields : List (Bytes × Bytes)} {field : Bytes × Bytes}
    (inTable : (Code.long marked last : Code kind.bits).value ≤ 61)
    (plain : value.huffman = false) (readable : value.Readable)
    (meant : (Representation.literal kind (.indexed (.long marked last) positive) value).field =
      some field)
    (reaches : Reaches
      (Representation.literal kind (.indexed (.long marked last) positive) value).bytes fields [])
    (only : ∀ other ∈ fields, other.1 = field.1) : field ∉ fields := by
  have bits_eq := bits_of_long inTable
  have range := (Code.long marked last : Code kind.bits).first_range kind.room
  have low := (Code.long marked last : Code kind.bits).first_mod kind.aligned kind.room
  rcases Option.map_eq_some_iff.mp meant with ⟨name, named, rfl⟩
  rcases Option.map_eq_some_iff.mp named with ⟨entry, found, rfl⟩
  cases reaches with
  | @field _ _ next _ effect fields decoded later =>
      have decoded : decodeField ((Code.long marked last : Code kind.bits).first kind.pattern)
          ((Code.long marked last : Code kind.bits).excess ++ value.bytes) = .ok (effect, next) :=
        decoded
      have full : 2 ^ kind.bits - 1 = 15 := by rw [bits_eq]; rfl
      rw [decodeField_literal kind _ range.1 range.2, low] at decoded
      simp only [full] at decoded
      rcases decodeLiteral_fifteen decoded with ⟨text, rfl, textDecoded⟩
      -- the name that is stored is the field's only if the index is 15, in zeros
      have sameName : acceptCharset = entry.name := only (acceptCharset, text) List.mem_cons_self
      have position := index_of_acceptCharset found sameName.symm
      have value_eq : (Code.long marked last : Code kind.bits).value = 2 ^ kind.bits - 1 := by
        omega
      rcases Code.zeros_of_value_eq value_eq with ⟨zeros, rfl⟩
      rw [← sameName]
      cases marked with
      | nil =>
          -- the zero is the length of an empty value, and the string is read as fields
          cases textDecoded
          intro member
          rcases List.mem_cons.mp member with same | member
          · exact not_reaches_empty plain (Prod.ext_iff.mp same).2 fields later
          · by_cases nonempty : value.octets = []
            · exact not_reaches_empty plain nonempty fields later
            · exact not_mem_of_string plain nonempty later member
      | cons group marked =>
          rcases List.forall_mem_cons.mp zeros with ⟨rfl, later_zeros⟩
          cases textDecoded
          exact (not_reaches_zeros later_zeros readable fields later).elim

end Decoding

end Hpack

namespace HpackDecoder

open Hpack PrefixedInteger

section Decoding

variable [WideShift]

/-- The block decodes to the map of its field list. -/
def Understands (decoder : HpackDecoder) (block : List Representation) : Prop :=
  (decoder.decode (blockBytes block)).1 = .ok ∧
    (decoder.decode (blockBytes block)).2.1 = blockHeaders block

theorem understands_of_plain (decoder : HpackDecoder) {block : List Representation}
    (static : ∀ representation ∈ block, representation.Static)
    (known : ∀ representation ∈ block, representation.LengthsKnown)
    (plain : ∀ representation ∈ block, representation.Plain) : decoder.Understands block := by
  have readable : ∀ representation ∈ block, representation.Readable := by
    intro representation member
    exact Representation.readable_of_plain (static _ member) (known _ member) (plain _ member)
  have stored : block.filterMap Representation.stored = block.filterMap Representation.field := by
    apply List.filterMap_congr
    intro representation member
    exact Representation.stored_of_plain (plain _ member)
  have decoded := decode_of_reaches decoder decoder (reaches_blockBytes readable)
  rw [decode_nil, MapOverlay.overlay_empty_right, stored] at decoded
  exact decoded

/-- A field that is understood is among those that are stored, which all have its name. -/
theorem exists_reaches_of_understands {decoder : HpackDecoder} {representation : Representation}
    (understands : decoder.Understands [representation]) {field : Bytes × Bytes}
    (meant : representation.field = some field) :
    ∃ fields, Reaches representation.bytes fields [] ∧ field ∈ fields ∧
      ∀ other ∈ fields, other.1 = field.1 := by
  rcases understands with ⟨decodes, headers_eq⟩
  rcases exists_reaches_of_decode decoder decodes with ⟨fields, reaches⟩
  rw [(decode_of_reaches decoder decoder reaches).2, decode_nil, MapOverlay.overlay_empty_right,
    blockHeaders, List.filterMap_cons_some meant, List.filterMap_nil] at headers_eq
  rw [blockBytes, List.map_singleton, List.flatten_singleton] at reaches
  refine ⟨fields, reaches, ?_, ?_⟩
  · have found : (storeAll (∅ : HttpHeaders) fields)[field.1]? = some field.2 := by
      rw [headers_eq]
      exact Std.ExtTreeMap.getElem?_insert_self
    rcases getElem?_storeAll found with stored | nothing
    · exact stored
    · simp at nothing
  · intro other member
    have present : other.1 ∈ storeAll (∅ : HttpHeaders) fields :=
      (mem_storeAll_iff _ _ _).mpr (Or.inr ⟨other, member, rfl⟩)
    rw [headers_eq, mem_storeAll_iff] at present
    simpa [eq_comm] using present

theorem plain_of_understands {decoder : HpackDecoder} {representation : Representation}
    (static : representation.Static) (known : representation.LengthsKnown)
    (understands : decoder.Understands [representation]) : representation.Plain := by
  cases representation with
  | indexed index => trivial
  | literal kind name value =>
      rcases static with ⟨inTable, uncoded⟩
      rcases FieldName.exists_name inTable with ⟨text, named⟩
      have meant : (Representation.literal kind name value).field = some (text, value.octets) := by
        simp only [Representation.field, named, Option.map_some]
      rcases exists_reaches_of_understands understands meant with ⟨fields, reaches, stored, only⟩
      have storable := Reaches.forall_fields (fun _ => True) Storable
        (fun _ _ _ _ _ _ => trivial) (fun _ _ _ _ _ _ => storable_of_decodeField) reaches trivial
      rcases storable _ stored with ⟨name_ne, name_lt, value_lt⟩
      have valuePlain : value.huffman = false := by
        simpa using mt Or.inr uncoded
      refine ⟨?_, value_lt⟩
      cases name with
      | indexed index positive =>
          cases index with
          | short number fits => rfl
          | long marked last =>
              have notStored := not_mem_of_wide (Nat.not_lt.mp inTable) valuePlain
                ⟨value_lt, known.2⟩ meant reaches only
              exact absurd stored notStored
      | literal literalText =>
          cases named
          exact ⟨name_ne, name_lt⟩
  | tableSize size => trivial

/-- All parts of a block within the static table and without Huffman coding are understood if and
only if every field has its name index in one byte or a name that is not empty, and no string
of `2 ^ 32` bytes or more. -/
theorem understands_parts_iff (decoder : HpackDecoder) (block : List Representation)
    (static : ∀ representation ∈ block, representation.Static)
    (known : ∀ representation ∈ block, representation.LengthsKnown) :
    (∀ part, part <:+: block → decoder.Understands part) ↔
      ∀ representation ∈ block, representation.Plain := by
  constructor
  · intro understands representation member
    apply plain_of_understands (static _ member) (known _ member)
    apply understands
    rcases List.append_of_mem member with ⟨before, after, rfl⟩
    exact ⟨before, after, by simp⟩
  · intro plain part isPart
    apply understands_of_plain decoder
    · intro representation member
      exact static _ (isPart.subset member)
    · intro representation member
      exact known _ (isPart.subset member)
    · intro representation member
      exact plain _ (isPart.subset member)

end Decoding

/-- `:path: /x`, without indexing. -/
def plainPath : Representation :=
  .literal .withoutIndexing (.indexed (.short 4 (by decide)) (by decide))
    ⟨false, .short 2 (by decide), ascii "/x", rfl⟩

theorem understands_parts_plainPath :
    ({} : HpackDecoder).Understands [] ∧ ({} : HpackDecoder).Understands [plainPath] := by
  have static : plainPath.Static := by
    refine ⟨(by decide : ¬ 61 < 4), ?_⟩
    rintro (coded | coded) <;> cases coded
  have known : plainPath.LengthsKnown := ⟨trivial, Or.inl (by decide)⟩
  have plain : plainPath.Plain := ⟨rfl, (by decide : 2 < 2 ^ 32)⟩
  have parts := (understands_parts_iff {} [plainPath] (List.forall_mem_singleton.mpr static)
    (List.forall_mem_singleton.mpr known)).mpr (List.forall_mem_singleton.mpr plain)
  exact ⟨parts [] List.nil_infix, parts [plainPath] List.infix_rfl⟩

/-- `content-length: 5`, never indexed: index 28 does not fit four bits. -/
def wideContentLength : Representation :=
  .literal .neverIndexed (.indexed (.long [] 13) (by decide))
    ⟨false, .short 1 (by decide), ascii "5", rfl⟩

/-- The name index of this field ends the block in the middle of a value. -/
theorem not_understands_all :
    ¬ ∀ block : List Representation, (∀ representation ∈ block, representation.Static) →
      (∀ representation ∈ block, representation.LengthsKnown) →
        ({} : HpackDecoder).Understands block := by
  intro understood
  have fails : (HpackDecoder.decode {} (blockBytes [wideContentLength])).1 = .invalid := rfl
  have static : wideContentLength.Static := by
    refine ⟨(by decide : ¬ 61 < 28), ?_⟩
    rintro (coded | coded) <;> cases coded
  have known : wideContentLength.LengthsKnown := ⟨trivial, Or.inl (by decide)⟩
  have decodes := (understood [wideContentLength] (List.forall_mem_singleton.mpr static)
    (List.forall_mem_singleton.mpr known)).1
  rw [fails] at decodes
  cases decodes

/-- `accept-encoding`, without indexing and empty. -/
def wideAcceptEncoding : Representation :=
  .literal .withoutIndexing (.indexed (.long [] 1) (by decide))
    ⟨false, .short 0 (by decide), [], rfl⟩

/-- What goes wrong with a field can be overwritten by the fields after it. -/
example :
    ({} : HpackDecoder).Understands [wideAcceptEncoding,
      .literal .incrementalIndexing (.indexed (.short 15 (by decide)) (by decide))
        ⟨false, .short 0 (by decide), [], rfl⟩,
      .indexed (.short 16 (by decide))] := by
  refine ⟨rfl, ?_⟩
  decide +kernel

end HpackDecoder

end HttpsServerSim
