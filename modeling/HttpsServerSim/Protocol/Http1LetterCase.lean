import HttpsServerSim.Protocol.Http1ContentLength
import HttpsServerSim.Protocol.HttpLetterCase

/-!
# Letter case and message framing

What `on_read` takes from a header block, and for which blocks letter case does not matter
to it. The test for a chunked body knows two spellings only, and among fields of one name
it is the spelling of the name that decides which of them counts.
-/

namespace HttpsServerSim

universe u

open HttpParser

namespace Http1Handler

def debugTokenName : Bytes := ascii "Debug-Token"

/-! ## What is taken from the headers -/

/-- What decides how the request goes on: nothing if it is rejected as chunked, else the length of
its body and its debug token, which is the present one if the headers hold none. -/
def framing (headers : HttpHeaders) (token : Bytes) : Option (Option ℕ × Bytes) :=
  if isChunked headers then none
  else some (contentLengthOf headers, (findHeader headers debugTokenName).getD token)

section OnRead

variable {Tls : Type u} [TlsLayer Tls]

/-- How the request goes on. -/
def goOn (handler : Http1Handler Tls) :
    Option (Option ℕ × Bytes) → ProtocolStatus × Http1Handler Tls
  | none => handler.reject
  | some (length, token) =>
      let handler := { handler with request := { handler.request with debugToken := token } }
      match length with
      | none => handler.reject
      | some length =>
          let handler :=
            { handler with request := { handler.request with contentLength := length } }
          if 0 < length then { handler with state := .expectBody }.expectBody
          else { handler with state := .expectComplete }.expectComplete

theorem headersComplete_eq_goOn (handler : Http1Handler Tls) :
    handler.headersComplete =
      handler.goOn (framing handler.request.headers handler.request.debugToken) := by
  rw [headersComplete, framing]
  split_ifs <;> rfl

end OnRead

/-- Changing the letter case of names and of transfer encodings changes nothing. -/
def CaseBlind (lines : List HttpLine) : Prop :=
  ∀ others, List.Forall₂ CaseVariant lines others →
    ∀ token, framing (headersOf others) token = framing (headersOf lines) token

/-! ## Blocks for which letter case does not matter -/

/-- No transfer encoding is chunked in any letter case, and fields that go by one of the other two
names agree. -/
structure Unambiguous (fields : List (Bytes × Bytes)) : Prop where
  not_chunked : ∀ field ∈ fields, Names field.1 transferEncoding →
    ¬ ascii "chunked" <:+: lower field.2
  one_length : ∀ field ∈ fields, ∀ other ∈ fields,
    Names field.1 contentLengthName → Names other.1 contentLengthName →
      strtoull field.2 = strtoull other.2
  one_token : ∀ field ∈ fields, ∀ other ∈ fields,
    Names field.1 debugTokenName → Names other.1 debugTokenName → field.2 = other.2

theorem not_transferEncoding_of_contentLength {key : Bytes}
    (names : Names key contentLengthName) : ¬ Names key transferEncoding := by
  intro other
  exact absurd (names.sameLetters other) (by unfold SameLetters; decide)

theorem not_transferEncoding_of_debugToken {key : Bytes} (names : Names key debugTokenName) :
    ¬ Names key transferEncoding := by
  intro other
  exact absurd (names.sameLetters other) (by unfold SameLetters; decide)

theorem isChunked_of_found {headers : HttpHeaders} {value : Bytes}
    (found : findHeader headers transferEncoding = some value) :
    isChunked headers = decide (ascii "chunked" <:+: value ∨ ascii "CHUNKED" <:+: value) := by
  rw [transferEncoding] at found
  rw [isChunked, found]

/-- A transfer encoding that `on_read` recognises is chunked in some letter case. -/
theorem isChunked_eq_false {lines : List HttpLine} {fields : List (Bytes × Bytes)}
    (areLines : List.Forall₂ IsHeaderLine lines fields)
    (notChunked : ∀ field ∈ fields, Names field.1 transferEncoding →
      ¬ ascii "chunked" <:+: lower field.2) : isChunked (headersOf lines) = false := by
  cases found : findHeader (headersOf lines) transferEncoding with
  | none =>
      rw [transferEncoding] at found
      rw [isChunked, found]
  | some value =>
      rcases exists_of_findHeader areLines found with ⟨field, member, names, rfl⟩
      rw [isChunked_of_found found, decide_eq_false_iff_not]
      rintro (small | capital)
      · apply notChunked field member names
        have lowered : lower (ascii "chunked") <:+: lower field.2 := small.map toLower
        exact lowered
      · apply notChunked field member names
        have lowered : lower (ascii "CHUNKED") <:+: lower field.2 := capital.map toLower
        exact lowered

theorem framing_of_not_chunked {headers : HttpHeaders} (notChunked : isChunked headers = false)
    (token : Bytes) : framing headers token =
      some (contentLengthOf headers, (findHeader headers debugTokenName).getD token) := by
  rw [framing, notChunked]
  rfl

theorem contentLengthOf_eq (headers : HttpHeaders) :
    contentLengthOf headers =
      ((findHeader headers contentLengthName).map strtoull).getD (some 0) := by
  rw [contentLengthOf, contentLengthName]
  cases findHeader headers (ascii "Content-Length") <;> rfl

/-! ## Enough for letter case not to matter -/

section Pairs

variable {α β : Type*} {related : α → β → Prop} {left : List α} {right : List β}

theorem exists_left_of_mem (pairs : List.Forall₂ related left right) {second : β}
    (member : second ∈ right) : ∃ first ∈ left, related first second := by
  induction pairs with
  | nil => cases member
  | cons pair pairs ih =>
      rcases List.mem_cons.mp member with rfl | later
      · exact ⟨_, List.mem_cons_self, pair⟩
      · rcases ih later with ⟨first, firstMember, firstPair⟩
        exact ⟨first, List.mem_cons_of_mem _ firstMember, firstPair⟩

theorem exists_right_of_mem (pairs : List.Forall₂ related left right) {first : α}
    (member : first ∈ left) : ∃ second ∈ right, related first second :=
  exists_left_of_mem pairs.flip member

end Pairs

section Variants

variable {lines others : List HttpLine} {fields otherFields : List (Bytes × Bytes)}

/-- A name that is no transfer encoding is found in both blocks or in neither, and if all its fields
agree, with the same outcome. -/
theorem findHeader_variant {name : Bytes} {Outcome : Type} (outcome : Bytes → Outcome)
    (areLines : List.Forall₂ IsHeaderLine lines fields)
    (areOthers : List.Forall₂ IsHeaderLine others otherFields)
    (variants : List.Forall₂ FieldVariant fields otherFields)
    (noEncoding : ∀ key, Names key name → ¬ Names key transferEncoding)
    (agree : ∀ field ∈ fields, ∀ other ∈ fields, Names field.1 name → Names other.1 name →
      outcome field.2 = outcome other.2) :
    (findHeader (headersOf others) name).map outcome =
      (findHeader (headersOf lines) name).map outcome := by
  have sameValue {field other : Bytes × Bytes} (variant : FieldVariant field other)
      (names : Names field.1 name) : field.2 = other.2 := by
    rcases variant.2 with same | ⟨encoding, _⟩
    · exact same
    · exact absurd encoding (noEncoding field.1 names)
  cases found : findHeader (headersOf lines) name with
  | none =>
      have nowhere := (findHeader_eq_none_iff areLines).mp found
      have otherNone : findHeader (headersOf others) name = none := by
        rw [findHeader_eq_none_iff areOthers]
        intro other member names
        rcases exists_left_of_mem variants member with ⟨field, fieldMember, variant⟩
        exact nowhere field fieldMember ((names_congr variant.1 name).mpr names)
      rw [otherNone]
  | some value =>
      rcases exists_of_findHeader areLines found with ⟨field, member, names, rfl⟩
      cases otherFound : findHeader (headersOf others) name with
      | none =>
          rcases exists_right_of_mem variants member with ⟨other, otherMember, variant⟩
          have nowhere := (findHeader_eq_none_iff areOthers).mp otherFound other otherMember
          exact absurd ((names_congr variant.1 name).mp names) nowhere
      | some otherValue =>
          rcases exists_of_findHeader areOthers otherFound with
            ⟨other, otherMember, otherNames, rfl⟩
          rcases exists_left_of_mem variants otherMember with ⟨origin, originMember, variant⟩
          have originNames := (names_congr variant.1 name).mpr otherNames
          rw [Option.map_some, Option.map_some, ← sameValue variant originNames]
          exact congrArg some (agree origin originMember field member originNames names)

/-- In a variant, no transfer encoding is chunked if none was. -/
theorem Unambiguous.not_chunked_variant (unambiguous : Unambiguous fields)
    (variants : List.Forall₂ FieldVariant fields otherFields) :
    ∀ other ∈ otherFields, Names other.1 transferEncoding →
      ¬ ascii "chunked" <:+: lower other.2 := by
  intro other member names
  rcases exists_left_of_mem variants member with ⟨field, fieldMember, variant⟩
  have sameValue : lower field.2 = lower other.2 := by
    rcases variant.2 with same | ⟨_, same⟩
    · rw [same]
    · exact same
  rw [← sameValue]
  exact unambiguous.not_chunked field fieldMember ((names_congr variant.1 _).mpr names)

theorem Unambiguous.caseBlind (unambiguous : Unambiguous fields)
    (areLines : List.Forall₂ IsHeaderLine lines fields) : CaseBlind lines := by
  intro others caseVariants token
  rcases exists_fields_of_variants caseVariants areLines with ⟨otherFields, areOthers, variants⟩
  have lengths := findHeader_variant strtoull areLines areOthers variants
    (fun _ => not_transferEncoding_of_contentLength) unambiguous.one_length
  have tokens := findHeader_variant id areLines areOthers variants
    (fun _ => not_transferEncoding_of_debugToken) unambiguous.one_token
  rw [Option.map_id_fun, id_eq, id_eq] at tokens
  rw [framing_of_not_chunked (isChunked_eq_false areLines unambiguous.not_chunked),
    framing_of_not_chunked
      (isChunked_eq_false areOthers (unambiguous.not_chunked_variant variants)),
    contentLengthOf_eq, contentLengthOf_eq, lengths, tokens]

/-! ## Not more than enough -/

theorem CaseBlind.framing_eq (blind : CaseBlind lines)
    {first second : List HttpLine} (variant : List.Forall₂ CaseVariant lines first)
    (otherVariant : List.Forall₂ CaseVariant lines second) (token : Bytes) :
    framing (headersOf first) token = framing (headersOf second) token :=
  (blind first variant token).trans (blind second otherVariant token).symm

/-- With capital C in them and small letters otherwise, no transfer encodings are recognised. -/
theorem isChunked_capitalC {recase : UInt8 → UInt8}
    (areOthers :
      List.Forall₂ IsHeaderLine others (fields.map (recaseField recase capitalC)))
    (recasing : IsRecasing recase) : isChunked (headersOf others) = false := by
  cases found : findHeader (headersOf others) transferEncoding with
  | none =>
      rw [transferEncoding] at found
      rw [isChunked, found]
  | some value =>
      rcases exists_of_findHeader areOthers found with ⟨other, member, names, rfl⟩
      rcases List.mem_map.mp member with ⟨field, _, rfl⟩
      have fieldNames : Names field.1 transferEncoding :=
        (names_congr (sameLetters_map recasing field.1) _).mpr names
      rw [isChunked_of_found found, decide_eq_false_iff_not, recaseField, if_pos fieldNames]
      have notIn {char : UInt8} (never : ∀ letter, capitalC letter ≠ char) :
          char ∉ field.2.map capitalC := by
        intro inside
        rcases List.mem_map.mp inside with ⟨letter, _, letterEq⟩
        exact never letter letterEq
      rintro (small | capital)
      · exact notIn (fun letter => (capitalC_ne letter).1) (small.subset (by decide))
      · exact notIn (fun letter => (capitalC_ne letter).2) (capital.subset (by decide))

theorem CaseBlind.not_chunked (blind : CaseBlind lines)
    (areLines : List.Forall₂ IsHeaderLine lines fields) :
    ∀ field ∈ fields, Names field.1 transferEncoding → ¬ ascii "chunked" <:+: lower field.2 := by
  intro field member names chunked
  rcases List.append_of_mem member with ⟨before, after, rfl⟩
  rcases exists_singleOut areLines isRecasing_toLower with ⟨first, firstVariants, areFirst⟩
  rcases exists_variants areLines isRecasing_id isRecasing_capitalC with
    ⟨second, secondVariants, areSecond⟩
  have found := findHeader_singleOut (by rfl : transferEncoding = 84 :: _) (by decide) names
    areFirst
  have recognised : isChunked (headersOf first) = true := by
    rw [isChunked_of_found found, recaseField, if_pos names]
    exact decide_eq_true (Or.inl chunked)
  have same := blind.framing_eq firstVariants secondVariants []
  rw [framing, recognised, framing_of_not_chunked (isChunked_capitalC areSecond isRecasing_id)]
    at same
  cases same

/-- The value of any field can be made the one that is found, the others being as they are. -/
theorem exists_found {name rest : Bytes} {initial : UInt8} {field : Bytes × Bytes}
    (areLines : List.Forall₂ IsHeaderLine lines fields)
    (nameEq : name = initial :: rest) (capital : 65 ≤ initial.toNat ∧ initial.toNat ≤ 90)
    (noEncoding : ∀ key, Names key name → ¬ Names key transferEncoding)
    (member : field ∈ fields) (names : Names field.1 name) :
    ∃ others, List.Forall₂ CaseVariant lines others ∧
      findHeader (headersOf others) name = some field.2 := by
  rcases List.append_of_mem member with ⟨before, after, rfl⟩
  rcases exists_singleOut areLines isRecasing_id with ⟨others, variants, areOthers⟩
  refine ⟨others, variants, ?_⟩
  rw [findHeader_singleOut nameEq capital names areOthers, recaseField,
    if_neg (noEncoding field.1 names)]

/-- If letter case does not matter, two variants of a block go on alike. -/
theorem CaseBlind.parts_eq (blind : CaseBlind lines)
    (areLines : List.Forall₂ IsHeaderLine lines fields) {first second : List HttpLine}
    (variant : List.Forall₂ CaseVariant lines first)
    (otherVariant : List.Forall₂ CaseVariant lines second) :
    contentLengthOf (headersOf first) = contentLengthOf (headersOf second) ∧
      (findHeader (headersOf first) debugTokenName).getD [] =
        (findHeader (headersOf second) debugTokenName).getD [] := by
  have notChunked := isChunked_eq_false areLines (blind.not_chunked areLines)
  have same {others : List HttpLine} (variant : List.Forall₂ CaseVariant lines others) :
      contentLengthOf (headersOf others) = contentLengthOf (headersOf lines) ∧
        (findHeader (headersOf others) debugTokenName).getD [] =
          (findHeader (headersOf lines) debugTokenName).getD [] := by
    have framingEq := blind others variant []
    rw [framing_of_not_chunked notChunked, framing] at framingEq
    split_ifs at framingEq
    exact Prod.ext_iff.mp (Option.some.inj framingEq)
  rcases same variant with ⟨lengthEq, tokenEq⟩
  rcases same otherVariant with ⟨otherLengthEq, otherTokenEq⟩
  exact ⟨lengthEq.trans otherLengthEq.symm, tokenEq.trans otherTokenEq.symm⟩

theorem CaseBlind.unambiguous (blind : CaseBlind lines)
    (areLines : List.Forall₂ IsHeaderLine lines fields) : Unambiguous fields where
  not_chunked := blind.not_chunked areLines
  one_length := by
    intro field member other otherMember names otherNames
    rcases exists_found areLines (by rfl : contentLengthName = 67 :: _) (by decide)
      (fun _ => not_transferEncoding_of_contentLength) member names with
      ⟨first, variants, found⟩
    rcases exists_found areLines (by rfl : contentLengthName = 67 :: _) (by decide)
      (fun _ => not_transferEncoding_of_contentLength) otherMember otherNames with
      ⟨second, otherVariants, otherFound⟩
    have same := (blind.parts_eq areLines variants otherVariants).1
    rw [contentLengthOf_eq, contentLengthOf_eq, found, otherFound] at same
    exact same
  one_token := by
    intro field member other otherMember names otherNames
    rcases exists_found areLines (by rfl : debugTokenName = 68 :: _) (by decide)
      (fun _ => not_transferEncoding_of_debugToken) member names with
      ⟨first, variants, found⟩
    rcases exists_found areLines (by rfl : debugTokenName = 68 :: _) (by decide)
      (fun _ => not_transferEncoding_of_debugToken) otherMember otherNames with
      ⟨second, otherVariants, otherFound⟩
    have same := (blind.parts_eq areLines variants otherVariants).2
    rw [found, otherFound] at same
    exact same

end Variants

/-- The framing of a request is what `on_read` takes from its headers, and it does not depend on
letter case exactly for the blocks that are unambiguous. -/
theorem letterCase_iff {Tls : Type u} [TlsLayer Tls] {lines : List HttpLine}
    {fields : List (Bytes × Bytes)} (areLines : List.Forall₂ IsHeaderLine lines fields) :
    (∀ handler inner : Http1Handler Tls, AcceptsHeaders handler inner →
        inner.request.headers = headersOf lines →
          handler.onRead =
            inner.goOn (framing (headersOf lines) inner.request.debugToken)) ∧
      (CaseBlind lines ↔ Unambiguous fields) := by
  refine ⟨?_, ?_⟩
  · intro handler inner accepts headersEq
    rw [accepts.onRead_eq.1, headersComplete_eq_goOn, headersEq]
  · constructor
    · intro blind
      exact blind.unambiguous areLines
    · intro unambiguous
      exact unambiguous.caseBlind areLines

/-- A single length in any spelling. -/
theorem letterCase_iff_length :
    CaseBlind [⟨ascii "content-LENGTH: 5", by decide⟩] := by
  have isLine : IsHeaderLine ⟨ascii "content-LENGTH: 5", by decide⟩
      (ascii "content-LENGTH", ascii "5") :=
    (isHeaderLine_iff _ _).mpr ⟨by decide, by decide⟩
  have areLines := List.Forall₂.cons isLine List.Forall₂.nil
  apply (@letterCase_iff PlainTls _ _ _ areLines).2.mpr
  refine ⟨?_, ?_, ?_⟩
  · intro field member names
    rw [List.mem_singleton] at member
    rw [member] at names
    exact absurd names (by decide)
  · intro field member other otherMember _ _
    rw [List.mem_singleton.mp member, List.mem_singleton.mp otherMember]
  · intro field member other otherMember _ _
    rw [List.mem_singleton.mp member, List.mem_singleton.mp otherMember]

/-- `chunked` is recognised and `Chunked` is not. -/
theorem letterCase_matters : ¬ CaseBlind [⟨ascii "Transfer-Encoding: chunked", by decide⟩] := by
  intro blind
  have variant : CaseVariant ⟨ascii "Transfer-Encoding: chunked", by decide⟩
      ⟨ascii "Transfer-Encoding: Chunked", by decide⟩ := by
    refine ⟨transferEncoding, ascii " chunked", transferEncoding, ascii " Chunked", by decide,
      by decide, by decide, rfl, Or.inr ⟨by decide, ?_⟩⟩
    unfold SameLetters
    decide
  have same := blind _ (List.Forall₂.cons variant List.Forall₂.nil) []
  have recognised : isChunked (headersOf [⟨ascii "Transfer-Encoding: chunked", by decide⟩]) =
      true := by decide +kernel
  have missed : isChunked (headersOf [⟨ascii "Transfer-Encoding: Chunked", by decide⟩]) =
      false := by decide +kernel
  rw [framing_of_not_chunked missed, framing, recognised] at same
  cases same

end Http1Handler

end HttpsServerSim
