import HttpsServerSim.Lib.OrderedMap
import HttpsServerSim.Protocol.HpackCompose

/-!
# The fields of a header block

The run of the decoder over a block as a relation: from one field boundary to the
next, with the fields that are stored on the way. What is decoded is told by the
fields up to a boundary and by the bytes from there on. A boundary that is reached is
a place before which the block decodes, so this is the form in which blocks are cut
into fields.
-/

namespace HttpsServerSim

open OrderedMap

namespace Hpack

/-- The field that a representation stores. -/
def FieldEffect.field : FieldEffect → Option (Bytes × Bytes)
  | .insert name value => some (name, value)
  | .ignore => none
  | .tableSize _ => none

variable [WideShift]

/-- Decoding goes from the start of the data to the boundary before `rest`, and stores these
fields on the way. -/
inductive Reaches : Bytes → List (Bytes × Bytes) → Bytes → Prop where
  | here {data : Bytes} : Reaches data [] data
  | field {first : UInt8} {tail next rest : Bytes} {effect : FieldEffect}
      {fields : List (Bytes × Bytes)} (decoded : decodeField first tail = .ok (effect, next))
      (later : Reaches next fields rest) :
      Reaches (first :: tail) (effect.field.toList ++ fields) rest

/-- The first representation of the data stores this field, if any, and ends before `rest`. -/
def Stores (data : Bytes) (stored : Option (Bytes × Bytes)) (rest : Bytes) : Prop :=
  ∃ first tail effect, data = first :: tail ∧ decodeField first tail = .ok (effect, rest) ∧
    effect.field = stored

theorem Stores.reaches {data rest : Bytes} {stored : Option (Bytes × Bytes)}
    (stores : Stores data stored rest) : Reaches data stored.toList rest := by
  rcases stores with ⟨first, tail, effect, rfl, decoded, rfl⟩
  have reaches := Reaches.field decoded .here
  rwa [List.append_nil] at reaches

theorem Reaches.trans {data middle rest : Bytes} {fields more : List (Bytes × Bytes)}
    (front : Reaches data fields middle) (back : Reaches middle more rest) :
    Reaches data (fields ++ more) rest := by
  induction front with
  | here => exact back
  | field decoded _ ih =>
      rw [List.append_assoc]
      exact .field decoded (ih back)

/-- What lies between two boundaries does not depend on what follows. -/
theorem Reaches.exists_append {data rest : Bytes} {fields : List (Bytes × Bytes)}
    (reaches : Reaches data fields rest) :
    ∃ used, data = used ++ rest ∧ ∀ more, Reaches (used ++ more) fields more := by
  induction reaches with
  | here =>
      refine ⟨[], rfl, ?_⟩
      intro more
      exact .here
  | @field first tail next rest effect fields decoded _ ih =>
      rcases decodeField_local decoded with ⟨front, rfl, stable⟩
      rcases ih with ⟨back, rfl, reachable⟩
      refine ⟨first :: (front ++ back), by simp, ?_⟩
      intro more
      rw [List.cons_append, List.append_assoc]
      exact .field (stable _) (reachable more)

/-- What holds of every field stored along the way, shown with a condition on the data that is
left which every field keeps up. -/
theorem Reaches.forall_fields (Good : Bytes → Prop) (Allowed : Bytes → Bytes → Prop)
    (keeps : ∀ first tail effect next, Good (first :: tail) →
      decodeField first tail = .ok (effect, next) → Good next)
    (allowed : ∀ first tail name value next, Good (first :: tail) →
      decodeField first tail = .ok (.insert name value, next) → Allowed name value)
    {data rest : Bytes} {fields : List (Bytes × Bytes)} (reaches : Reaches data fields rest)
    (good : Good data) : ∀ field ∈ fields, Allowed field.1 field.2 := by
  induction reaches with
  | here => simp
  | @field first tail next rest effect fields decoded _ ih =>
      have later := ih (keeps _ _ _ _ good decoded)
      cases effect with
      | insert name value =>
          intro field member
          rcases List.mem_cons.mp member with rfl | member
          · exact allowed _ _ _ _ _ good decoded
          · exact later field member
      | ignore => exact later
      | tableSize size => exact later

end Hpack

namespace HpackDecoder

open Hpack

variable [WideShift]

theorem decode_nil (decoder : HpackDecoder) : decoder.decode [] = (.ok, ∅, decoder) :=
  rfl

/-- One step of `decode`: a field is stored, and what follows is decoded over it. -/
theorem decode_field (decoder other : HpackDecoder) {first : UInt8} {tail next : Bytes}
    {effect : FieldEffect} (decoded : decodeField first tail = .ok (effect, next)) :
    (decoder.decode (first :: tail)).1 = (other.decode next).1 ∧
      (decoder.decode (first :: tail)).2.1 =
        MapOverlay.overlay (storeAll ∅ effect.field.toList) (other.decode next).2.1 := by
  rcases decodeField_local decoded with ⟨used, rfl, _⟩
  have enough : next.length ≤ (used ++ next).length := by
    rw [List.length_append]
    omega
  have after (start : HpackDecoder) (headers : HttpHeaders) :
      (decodeLoop (used ++ next).length start headers next).1 = (other.decode next).1 ∧
        (decodeLoop (used ++ next).length start headers next).2.1 =
          MapOverlay.overlay headers (other.decode next).2.1 := by
    have overlaid := decodeLoop_overlay next.length start headers ∅ next
    rw [MapOverlay.overlay_empty_right] at overlaid
    rcases decodeLoop_decoder_irrelevant next.length start other ∅ next with
      ⟨status_eq, headers_eq⟩
    rw [decodeLoop_fuel start headers enough le_rfl]
    exact ⟨overlaid.1.trans status_eq, overlaid.2.trans (congrArg _ headers_eq)⟩
  simp only [decode, List.length_cons, decodeLoop, decoded]
  cases effect with
  | insert name value => exact after decoder _
  | ignore => exact after decoder ∅
  | tableSize size => exact after ⟨size⟩ ∅

theorem decode_field_error (decoder : HpackDecoder) {first : UInt8} {tail : Bytes}
    {status : ProtocolStatus} (failed : decodeField first tail = .error status) :
    (decoder.decode (first :: tail)).1 = .invalid := by
  rw [decodeField_error failed] at failed
  simp only [decode, List.length_cons, decodeLoop, failed]

/-- Beyond a boundary that is reached, decoding goes on with the bytes from there. -/
theorem decode_of_reaches (decoder other : HpackDecoder) {data rest : Bytes}
    {fields : List (Bytes × Bytes)} (reaches : Reaches data fields rest) :
    (decoder.decode data).1 = (other.decode rest).1 ∧
      (decoder.decode data).2.1 =
        MapOverlay.overlay (storeAll ∅ fields) (other.decode rest).2.1 := by
  induction reaches generalizing decoder with
  | here =>
      rcases decodeLoop_decoder_irrelevant _ decoder other ∅ _ with ⟨status_eq, headers_eq⟩
      refine ⟨status_eq, headers_eq.trans ?_⟩
      exact (MapOverlay.overlay_empty_left _).symm
  | @field first tail next rest effect fields decoded _ ih =>
      rcases decode_field decoder decoder decoded with ⟨step_status, step_headers⟩
      rcases ih decoder with ⟨status_eq, headers_eq⟩
      refine ⟨step_status.trans status_eq, ?_⟩
      rw [step_headers, headers_eq, ← MapOverlay.overlay_assoc, storeAll_append,
        MapOverlay.overlay_storeAll, MapOverlay.overlay_empty_right]

/-- A block that decodes is a run from its start to its end. -/
theorem exists_reaches_of_decode (decoder : HpackDecoder) {data : Bytes}
    (decodes : (decoder.decode data).1 = .ok) : ∃ fields, Reaches data fields [] := by
  induction length_eq : data.length using Nat.strong_induction_on generalizing data with
  | _ length ih =>
      cases data with
      | nil => exact ⟨[], .here⟩
      | cons first tail =>
          cases decoded : decodeField first tail with
          | error status =>
              rw [decode_field_error decoder decoded] at decodes
              cases decodes
          | ok result =>
              rcases result with ⟨effect, next⟩
              rw [(decode_field decoder decoder decoded).1] at decodes
              have shorter : next.length < length := by
                rcases decodeField_local decoded with ⟨used, rfl, _⟩
                rw [← length_eq, List.length_cons, List.length_append]
                omega
              rcases ih next.length shorter decodes rfl with ⟨fields, reaches⟩
              exact ⟨_, .field decoded reaches⟩

/-- The boundaries that decoding reaches are the places before which the block decodes. -/
theorem reaches_iff (decoder : HpackDecoder) (data rest : Bytes) :
    (∃ fields, Reaches data fields rest) ↔
      ∃ before, data = before ++ rest ∧ (decoder.decode before).1 = .ok := by
  constructor
  · rintro ⟨fields, reaches⟩
    rcases reaches.exists_append with ⟨before, rfl, anywhere⟩
    refine ⟨before, rfl, ?_⟩
    have alone := anywhere []
    rw [List.append_nil] at alone
    exact (decode_of_reaches decoder decoder alone).1
  · rintro ⟨before, rfl, decodes⟩
    rcases exists_reaches_of_decode decoder decodes with ⟨fields, reaches⟩
    rcases reaches.exists_append with ⟨used, split, anywhere⟩
    rw [List.append_nil] at split
    subst split
    exact ⟨fields, anywhere rest⟩

end HpackDecoder

end HttpsServerSim
