import HttpsServerSim.Lib.MapOverlay
import HttpsServerSim.Protocol.Hpack

/-!
# Header blocks compose

The decoder reads a block from left to right and never looks beyond the field it is
in. A block that decodes can therefore be followed by another: the concatenation
decodes to the fields of the first with those of the second assigned over them. A
cut between two fields is harmless; only a cut inside a field is not.
-/

namespace HttpsServerSim

universe u

namespace Hpack

/-- A reader that depends on the bytes it takes and on nothing after them. -/
def Local {Value : Type u} (read : Bytes → Except ProtocolStatus (Value × Bytes)) : Prop :=
  ∀ data value rest, read data = .ok (value, rest) →
    ∃ used, data = used ++ rest ∧ ∀ more, read (used ++ more) = .ok (value, more)

variable [WideShift]

theorem local_decodeIntLoop (value shift : ℕ) : Local (decodeIntLoop value shift) := by
  intro data
  induction data generalizing value shift with
  | nil =>
      intro number rest decoded
      simp [decodeIntLoop] at decoded
  | cons byte data ih =>
      intro number rest decoded
      simp only [decodeIntLoop] at decoded
      split_ifs at decoded with stop
      · cases decoded
        refine ⟨[byte], rfl, ?_⟩
        intro more
        simp [decodeIntLoop, stop]
      · rcases ih _ _ number rest decoded with ⟨used, rfl, stable⟩
        refine ⟨byte :: used, rfl, ?_⟩
        intro more
        simp only [List.cons_append, decodeIntLoop, stop, if_false]
        exact stable more

theorem local_decodeInt (bits : ℕ) : Local (decodeInt bits) := by
  intro data number rest decoded
  cases data with
  | nil => simp [decodeInt] at decoded
  | cons byte data =>
      simp only [decodeInt] at decoded
      split_ifs at decoded with small
      · cases decoded
        refine ⟨[byte], rfl, ?_⟩
        intro more
        simp only [List.cons_append, List.nil_append, decodeInt, small, if_true]
      · rcases local_decodeIntLoop _ _ data number rest decoded with ⟨used, rfl, stable⟩
        refine ⟨byte :: used, rfl, ?_⟩
        intro more
        simp only [List.cons_append, decodeInt, small, if_false]
        exact stable more

theorem local_decodeString : Local decodeString := by
  intro data text rest decoded
  simp only [decodeString] at decoded
  split at decoded
  · cases decoded
  · rename_i len afterLength lengthDecoded
    split_ifs at decoded with short
    cases decoded
    rcases local_decodeInt 7 data len afterLength lengthDecoded with ⟨used, rfl, stable⟩
    have lengthEq : (afterLength.take len).length = len := by
      rw [List.length_take]
      omega
    refine ⟨used ++ afterLength.take len, by simp, ?_⟩
    intro more
    have long : ¬ (afterLength.take len ++ more).length < len := by
      rw [List.length_append]
      omega
    simp only [decodeString, List.append_assoc, stable, long, if_false]
    rw [List.take_left' lengthEq, List.drop_left' lengthEq]

theorem local_decodeName (nameIdx : ℕ) : Local (decodeName nameIdx) := by
  intro data name rest decoded
  simp only [decodeName] at decoded
  split_ifs at decoded with literal
  · rcases local_decodeString data name rest decoded with ⟨used, rfl, stable⟩
    refine ⟨used, rfl, ?_⟩
    intro more
    simp only [decodeName, literal, if_true, stable]
  · cases decoded
    refine ⟨[], rfl, ?_⟩
    intro more
    simp only [decodeName, literal, if_false, List.nil_append]

theorem local_decodeLiteral (nameIdx : ℕ) : Local (decodeLiteral nameIdx) := by
  intro data effect rest decoded
  simp only [decodeLiteral] at decoded
  split at decoded
  · cases decoded
  · rename_i name afterName nameDecoded
    split at decoded
    · cases decoded
    · rename_i value afterValue valueDecoded
      cases decoded
      rcases local_decodeName nameIdx data name afterName nameDecoded with
        ⟨usedName, rfl, stableName⟩
      rcases local_decodeString afterName value rest valueDecoded with
        ⟨usedValue, rfl, stableValue⟩
      refine ⟨usedName ++ usedValue, by simp, ?_⟩
      intro more
      simp only [decodeLiteral, List.append_assoc, stableName, stableValue]

theorem local_decodeIndexed : Local decodeIndexed := by
  intro data effect rest decoded
  simp only [decodeIndexed] at decoded
  split at decoded
  · cases decoded
  · rename_i index afterIndex indexDecoded
    rcases local_decodeInt 7 data index afterIndex indexDecoded with ⟨used, rfl, stable⟩
    have restEq : afterIndex = rest := by
      split_ifs at decoded
      · cases decoded
        rfl
      · split at decoded <;> cases decoded <;> rfl
    subst restEq
    refine ⟨used, rfl, ?_⟩
    intro more
    simp only [decodeIndexed, stable]
    split_ifs at decoded ⊢
    · cases decoded
      rfl
    · split at decoded <;> cases decoded <;> rfl

theorem local_decodeTableSize : Local decodeTableSize := by
  intro data effect rest decoded
  simp only [decodeTableSize] at decoded
  split at decoded
  · cases decoded
  · rename_i size afterSize sizeDecoded
    cases decoded
    rcases local_decodeInt 5 data size rest sizeDecoded with ⟨used, rfl, stable⟩
    refine ⟨used, rfl, ?_⟩
    intro more
    simp only [decodeTableSize, stable]

/-- The loop body of `decode` is local, and takes at least the first byte. -/
theorem decodeField_local {first : UInt8} {data rest : Bytes} {effect : FieldEffect}
    (decoded : decodeField first data = .ok (effect, rest)) :
    ∃ used, data = used ++ rest ∧
      ∀ more, decodeField first (used ++ more) = .ok (effect, more) := by
  -- a reader that starts on the first byte itself cannot leave that byte unread
  have afterFirst {read : Bytes → Except ProtocolStatus (FieldEffect × Bytes)}
      (isLocal : Local read) (nilFails : ∀ result, read [] ≠ .ok result)
      (readFirst : read (first :: data) = .ok (effect, rest)) :
      ∃ used, data = used ++ rest ∧
        ∀ more, read (first :: (used ++ more)) = .ok (effect, more) := by
    rcases isLocal _ _ _ readFirst with ⟨used, split, stable⟩
    cases used with
    | nil => exact absurd (stable []) (nilFails _)
    | cons byte used =>
        cases split
        exact ⟨used, rfl, stable⟩
  simp only [decodeField] at decoded ⊢
  split_ifs at decoded ⊢ with indexed incremental tableSize
  · apply afterFirst local_decodeIndexed _ decoded
    intro result
    simp [decodeIndexed, decodeInt]
  · exact local_decodeLiteral _ data effect rest decoded
  · apply afterFirst local_decodeTableSize _ decoded
    intro result
    simp [decodeTableSize, decodeInt]
  · exact local_decodeLiteral _ data effect rest decoded

/-! Every failure of the decoder is `PROTOCOL_ERROR_INVALID`. -/

theorem decodeIntLoop_error {value shift : ℕ} {data : Bytes} {status : ProtocolStatus}
    (failed : decodeIntLoop value shift data = .error status) : status = .invalid := by
  induction data generalizing value shift with
  | nil =>
      cases failed
      rfl
  | cons byte data ih =>
      simp only [decodeIntLoop] at failed
      split_ifs at failed
      exact ih failed

theorem decodeInt_error {bits : ℕ} {data : Bytes} {status : ProtocolStatus}
    (failed : decodeInt bits data = .error status) : status = .invalid := by
  cases data with
  | nil =>
      cases failed
      rfl
  | cons byte data =>
      simp only [decodeInt] at failed
      split_ifs at failed
      exact decodeIntLoop_error failed

theorem decodeString_error {data : Bytes} {status : ProtocolStatus}
    (failed : decodeString data = .error status) : status = .invalid := by
  simp only [decodeString] at failed
  split at failed
  · rename_i lengthFailed
    cases failed
    exact decodeInt_error lengthFailed
  · split_ifs at failed
    cases failed
    rfl

theorem decodeLiteral_error {nameIdx : ℕ} {data : Bytes} {status : ProtocolStatus}
    (failed : decodeLiteral nameIdx data = .error status) : status = .invalid := by
  simp only [decodeLiteral] at failed
  split at failed
  · rename_i nameFailed
    cases failed
    simp only [decodeName] at nameFailed
    split_ifs at nameFailed
    exact decodeString_error nameFailed
  · split at failed
    · rename_i valueFailed
      cases failed
      exact decodeString_error valueFailed
    · cases failed

theorem decodeField_error {first : UInt8} {data : Bytes} {status : ProtocolStatus}
    (failed : decodeField first data = .error status) : status = .invalid := by
  simp only [decodeField] at failed
  split_ifs at failed
  · simp only [decodeIndexed] at failed
    split at failed
    · rename_i indexFailed
      cases failed
      exact decodeInt_error indexFailed
    · split_ifs at failed
      split at failed <;> cases failed
  · exact decodeLiteral_error failed
  · simp only [decodeTableSize] at failed
    split at failed
    · rename_i sizeFailed
      cases failed
      exact decodeInt_error sizeFailed
    · cases failed
  · exact decodeLiteral_error failed

end Hpack

namespace HpackDecoder

open Hpack

variable [WideShift]

/-- Enough fuel is as good as any. -/
theorem decodeLoop_fuel {fuel other : ℕ} (decoder : HpackDecoder) (headers : HttpHeaders)
    {data : Bytes} (enough : data.length ≤ fuel) (otherEnough : data.length ≤ other) :
    decodeLoop fuel decoder headers data = decodeLoop other decoder headers data := by
  induction fuel generalizing other decoder headers data with
  | zero =>
      rw [List.length_eq_zero_iff.mp (Nat.le_zero.mp enough)]
      cases other <;> rfl
  | succ fuel ih =>
      cases data with
      | nil => cases other <;> rfl
      | cons first data =>
          cases other with
          | zero => simp at otherEnough
          | succ other =>
              simp only [List.length_cons, Nat.add_le_add_iff_right] at enough otherEnough
              simp only [decodeLoop]
              cases decoded : decodeField first data with
              | error status => rfl
              | ok result =>
                  rcases result with ⟨effect, rest⟩
                  rcases decodeField_local decoded with ⟨used, rfl, _⟩
                  rw [List.length_append] at enough otherEnough
                  have restEnough : rest.length ≤ fuel := by omega
                  have restOther : rest.length ≤ other := by omega
                  cases effect <;> exact ih _ _ restEnough restOther

/-- The table size a decoder holds does not influence what it decodes. -/
theorem decodeLoop_decoder_irrelevant (fuel : ℕ) (decoder other : HpackDecoder)
    (headers : HttpHeaders) (data : Bytes) :
    (decodeLoop fuel decoder headers data).1 = (decodeLoop fuel other headers data).1 ∧
      (decodeLoop fuel decoder headers data).2.1 = (decodeLoop fuel other headers data).2.1 := by
  induction fuel generalizing decoder other headers data with
  | zero => cases data <;> exact ⟨rfl, rfl⟩
  | succ fuel ih =>
      cases data with
      | nil => exact ⟨rfl, rfl⟩
      | cons first rest =>
          simp only [decodeLoop]
          split
          · exact ⟨rfl, rfl⟩
          · exact ih _ _ _ _
          · exact ih _ _ _ _
          · exact ⟨rfl, rfl⟩

theorem decodeLoop_status (fuel : ℕ) (decoder : HpackDecoder) (headers : HttpHeaders)
    (data : Bytes) :
    (decodeLoop fuel decoder headers data).1 = .ok ∨
      (decodeLoop fuel decoder headers data).1 = .invalid := by
  induction fuel generalizing decoder headers data with
  | zero =>
      cases data with
      | nil => exact Or.inl rfl
      | cons first rest => exact Or.inr rfl
  | succ fuel ih =>
      cases data with
      | nil => exact Or.inl rfl
      | cons first rest =>
          simp only [decodeLoop]
          split
          · rename_i status failed
            exact Or.inr (decodeField_error failed)
          · exact ih _ _ _
          · exact ih _ _ _
          · exact ih _ _ _

theorem decodeLoop_append {fuel : ℕ} (decoder : HpackDecoder) (headers : HttpHeaders)
    {data : Bytes} (enough : data.length ≤ fuel)
    (decodes : (decodeLoop fuel decoder headers data).1 = .ok) (more : Bytes) :
    decodeLoop (fuel + more.length) decoder headers (data ++ more) =
      decodeLoop more.length (decodeLoop fuel decoder headers data).2.2
        (decodeLoop fuel decoder headers data).2.1 more := by
  induction fuel generalizing decoder headers data with
  | zero =>
      rw [List.length_eq_zero_iff.mp (Nat.le_zero.mp enough)]
      rw [List.nil_append, Nat.zero_add]
      rfl
  | succ fuel ih =>
      cases data with
      | nil =>
          apply decodeLoop_fuel
          · simp
          · simp
      | cons first data =>
          simp only [List.length_cons, Nat.add_le_add_iff_right] at enough
          rw [Nat.add_right_comm, List.cons_append]
          simp only [decodeLoop] at decodes ⊢
          cases decoded : decodeField first data with
          | error status =>
              rw [decoded, decodeField_error decoded] at decodes
              cases decodes
          | ok result =>
              rcases result with ⟨effect, rest⟩
              rcases decodeField_local decoded with ⟨used, rfl, stable⟩
              rw [List.length_append] at enough
              have restEnough : rest.length ≤ fuel := by omega
              rw [List.append_assoc, stable (rest ++ more)]
              rw [decoded] at decodes
              cases effect <;> exact ih _ _ restEnough decodes

/-- The headers a run starts from lie under those it decodes. -/
theorem decodeLoop_overlay (fuel : ℕ) (decoder : HpackDecoder) (base headers : HttpHeaders)
    (data : Bytes) :
    (decodeLoop fuel decoder (MapOverlay.overlay base headers) data).1 =
        (decodeLoop fuel decoder headers data).1 ∧
      (decodeLoop fuel decoder (MapOverlay.overlay base headers) data).2.1 =
        MapOverlay.overlay base (decodeLoop fuel decoder headers data).2.1 := by
  induction fuel generalizing decoder headers data with
  | zero => cases data <;> exact ⟨rfl, rfl⟩
  | succ fuel ih =>
      cases data with
      | nil => exact ⟨rfl, rfl⟩
      | cons first data =>
          simp only [decodeLoop]
          split
          · exact ⟨rfl, rfl⟩
          · rw [← MapOverlay.overlay_insert]
            exact ih _ _ _
          · exact ih _ _ _
          · exact ih _ _ _

theorem decode_append {decoder : HpackDecoder} {block : Bytes}
    (decodes : (decoder.decode block).1 = .ok) (more : Bytes) :
    decoder.decode (block ++ more) =
      decodeLoop more.length (decoder.decode block).2.2 (decoder.decode block).2.1 more := by
  rw [decode, List.length_append]
  exact decodeLoop_append decoder ∅ le_rfl decodes more

/-- What follows a block that decodes is decoded as if it stood alone, and its fields are
assigned over those of the block. -/
theorem decode_append_overlay (decoder other : HpackDecoder) {block : Bytes}
    (decodes : (decoder.decode block).1 = .ok) (more : Bytes) :
    (decoder.decode (block ++ more)).1 = (other.decode more).1 ∧
      (decoder.decode (block ++ more)).2.1 =
        MapOverlay.overlay (decoder.decode block).2.1 (other.decode more).2.1 := by
  have split := decode_append decodes more
  have overlaid := decodeLoop_overlay more.length (decoder.decode block).2.2
    (decoder.decode block).2.1 ∅ more
  rw [MapOverlay.overlay_empty_right] at overlaid
  rcases decodeLoop_decoder_irrelevant more.length (decoder.decode block).2.2 other ∅ more with
    ⟨status_eq, headers_eq⟩
  rw [split]
  exact ⟨overlaid.1.trans status_eq, overlaid.2.trans (congrArg _ headers_eq)⟩

/-- Decoding is compositional: a block that decodes and one after it give the result of the
second, and the fields of the first overwritten by those of the second. -/
theorem decode_compositional (decoder other : HpackDecoder) (first second : Bytes)
    (decodes : (decoder.decode first).1 = .ok) :
    ((decoder.decode (first ++ second)).1 = .ok ↔ (other.decode second).1 = .ok) ∧
      ((decoder.decode (first ++ second)).1 = .ok →
        (decoder.decode (first ++ second)).2.1 =
          MapOverlay.overlay (decoder.decode first).2.1 (other.decode second).2.1) ∧
      ((other.decode second).1 ≠ .ok →
        (decoder.decode (first ++ second)).1 = (other.decode second).1) := by
  rcases decode_append_overlay decoder other decodes second with ⟨status_eq, headers_eq⟩
  rw [status_eq]
  refine ⟨Iff.rfl, ?_, ?_⟩
  · intro _
    exact headers_eq
  · intro _
    rfl

end HpackDecoder

theorem HpackDecoder.decode_method_path :
    (HpackDecoder.decode {} ([0x82] ++ [0x84])).2.1 =
      MapOverlay.overlay (HpackDecoder.decode {} [0x82]).2.1 (HpackDecoder.decode {} [0x84]).2.1 :=
  (decode_compositional {} {} [0x82] [0x84] rfl).2.1 rfl

end HttpsServerSim
