import HttpsServerSim.Lib.OrderedMap
import HttpsServerSim.Protocol.HttpGrammar

/-!
# Letter case in header lines

Header names are stored as they are spelt and looked up without regard to letter case. A
header line is varied by changing the letter case of its name, and of its value where it
is a transfer encoding. Looking up a name finds the least spelling of it; by a suitable
variant, any field of that name can be made the one that is found.
-/

namespace HttpsServerSim

open HttpParser

/-! ## Letters -/

def toUpper (char : UInt8) : UInt8 := if 97 ≤ char ∧ char ≤ 122 then char - 32 else char

/-- Letters are made small, but for the letter C. -/
def capitalC (char : UInt8) : UInt8 := if toLower char = 99 then 67 else toLower char

/-- A change of letter case. -/
def IsRecasing (recase : UInt8 → UInt8) : Prop := ∀ char, toLower (recase char) = toLower char

theorem toNat_toLower (char : UInt8) :
    (toLower char).toNat =
      if 65 ≤ char.toNat ∧ char.toNat ≤ 90 then char.toNat + 32 else char.toNat := by
  have letter : (65 ≤ char ∧ char ≤ 90) ↔ (65 ≤ char.toNat ∧ char.toNat ≤ 90) := by
    simp [UInt8.le_iff_toNat_le]
  rw [toLower, ← if_congr letter rfl rfl]
  split_ifs with upper
  · have small : char.toNat + 32 < 256 := by
      rw [letter] at upper
      omega
    rw [UInt8.toNat_add]
    exact Nat.mod_eq_of_lt small
  · rfl

theorem toNat_toUpper (char : UInt8) :
    (toUpper char).toNat =
      if 97 ≤ char.toNat ∧ char.toNat ≤ 122 then char.toNat - 32 else char.toNat := by
  have letter : (97 ≤ char ∧ char ≤ 122) ↔ (97 ≤ char.toNat ∧ char.toNat ≤ 122) := by
    simp [UInt8.le_iff_toNat_le]
  rw [toUpper, ← if_congr letter rfl rfl]
  split_ifs with lower
  · have large : (32 : UInt8) ≤ char := by
      rw [letter] at lower
      rw [UInt8.le_iff_toNat_le]
      exact Nat.le_trans (by decide : (32 : UInt8).toNat ≤ 97) lower.1
    exact UInt8.toNat_sub_of_le _ _ large
  · rfl

theorem isRecasing_id : IsRecasing id := fun _ => rfl

theorem isRecasing_toLower : IsRecasing toLower := by
  intro char
  rw [← UInt8.toNat_inj, toNat_toLower, toNat_toLower]
  split_ifs <;> omega

theorem isRecasing_toUpper : IsRecasing toUpper := by
  intro char
  rw [← UInt8.toNat_inj, toNat_toLower, toNat_toLower, toNat_toUpper]
  split_ifs <;> omega

theorem isRecasing_capitalC : IsRecasing capitalC := by
  intro char
  rw [capitalC]
  split_ifs with letter
  · rw [letter]
    decide
  · exact isRecasing_toLower char

theorem capitalC_ne (char : UInt8) : capitalC char ≠ 99 ∧ capitalC char ≠ 72 := by
  rw [capitalC]
  split_ifs with letter
  · decide
  · refine ⟨letter, ?_⟩
    rw [Ne, ← UInt8.toNat_inj, toNat_toLower]
    change _ ≠ 72
    split_ifs <;> omega

/-- What is no letter is the same in any case. -/
theorem eq_of_toLower_eq {char other : UInt8} (same : toLower char = toLower other)
    (small : other.toNat < 65) : char = other := by
  rw [← UInt8.toNat_inj, toNat_toLower, toNat_toLower] at same
  rw [← UInt8.toNat_inj]
  split_ifs at same <;> omega

theorem toLower_eq_iff {char other : UInt8} (small : other.toNat < 65) :
    toLower char = other ↔ char = other := by
  have fixed : toLower other = other := by
    rw [← UInt8.toNat_inj, toNat_toLower, if_neg (by omega)]
  constructor
  · intro same
    exact eq_of_toLower_eq (same.trans fixed.symm) small
  · rintro rfl
    exact fixed

/-! ## Texts up to letter case -/

def lower (text : Bytes) : Bytes := text.map toLower

/-- The texts differ at most in letter case. -/
def SameLetters (text other : Bytes) : Prop := lower text = lower other

theorem sameLetters_map {recase : UInt8 → UInt8} (recasing : IsRecasing recase) (text : Bytes) :
    SameLetters text (text.map recase) := by
  rw [SameLetters, lower, lower, List.map_map]
  exact List.map_congr_left fun char _ => (recasing char).symm

theorem SameLetters.length_eq {text other : Bytes} (same : SameLetters text other) :
    text.length = other.length := by
  have lengths := congrArg List.length same
  simpa [lower] using lengths

theorem SameLetters.append {text other rest otherRest : Bytes} (same : SameLetters text other)
    (sameRest : SameLetters rest otherRest) : SameLetters (text ++ rest) (other ++ otherRest) := by
  rw [SameLetters, lower, lower, List.map_append, List.map_append]
  exact congrArg₂ (· ++ ·) same sameRest

theorem findCrlf_lower (text : Bytes) : findCrlf (lower text) = findCrlf text := by
  induction text with
  | nil => rfl
  | cons first text ih =>
      cases text with
      | nil => rfl
      | cons second text =>
          have crIff : toLower first = charCr ↔ first = charCr := toLower_eq_iff (by decide)
          have lfIff : toLower second = charLf ↔ second = charLf := toLower_eq_iff (by decide)
          change findCrlf (toLower first :: toLower second :: lower text) = _
          rw [findCrlf, findCrlf, if_congr (and_congr crIff lfIff) rfl rfl]
          change (if _ then _ else (findCrlf (lower (second :: text))).map _) = _
          rw [ih]

theorem SameLetters.findCrlf_eq {text other : Bytes} (same : SameLetters text other) :
    findCrlf text = findCrlf other := by
  rw [← findCrlf_lower text, same, findCrlf_lower]

theorem isBlank_toLower (char : UInt8) : isBlank (toLower char) = isBlank char := by
  simp only [isBlank, decide_eq_decide]
  exact or_congr (toLower_eq_iff (by decide)) (toLower_eq_iff (by decide))

theorem IsRecasing.isBlank_eq {recase : UInt8 → UInt8} (recasing : IsRecasing recase)
    (char : UInt8) : isBlank (recase char) = isBlank char := by
  rw [← isBlank_toLower, recasing, isBlank_toLower]

theorem trim_map {recase : UInt8 → UInt8} (recasing : IsRecasing recase) (text : Bytes) :
    trim (text.map recase) = (trim text).map recase := by
  have blankEq : isBlank ∘ recase = isBlank := funext recasing.isBlank_eq
  simp only [trim, List.dropWhile_map, blankEq, ← List.map_reverse]

theorem SameLetters.trim {text other : Bytes} (same : SameLetters text other) :
    SameLetters (trim text) (trim other) := by
  rw [SameLetters, lower, lower, ← trim_map isRecasing_toLower, ← trim_map isRecasing_toLower]
  exact congrArg HttpParser.trim same

theorem cString_lower (text : Bytes) : cString (lower text) = lower (cString text) := by
  have nulEq : (fun char : UInt8 => decide (char ≠ 0)) ∘ toLower =
      fun char => decide (char ≠ 0) := by
    funext char
    simp only [Function.comp_apply, ne_eq, decide_eq_decide]
    exact not_congr (toLower_eq_iff (by decide))
  rw [cString, lower, List.takeWhile_map, nulEq, lower, cString]

/-! ## Names -/

/-- The test of `find_header`: the key is the name up to letter case, as C strings. -/
def Names (key name : Bytes) : Prop := strCaseCmp key name = .eq

instance (key name : Bytes) : Decidable (Names key name) :=
  inferInstanceAs (Decidable (_ = _))

theorem names_iff (key name : Bytes) :
    Names key name ↔ SameLetters (cString key) (cString name) := by
  rw [Names, strCaseCmp, Std.LawfulEqCmp.compare_eq_iff_eq]
  rfl

theorem names_congr {key other : Bytes} (same : SameLetters key other) (name : Bytes) :
    Names key name ↔ Names other name := by
  have keyEq : lower (cString key) = lower (cString other) := by
    rw [← cString_lower, ← cString_lower, same]
  rw [names_iff, names_iff, SameLetters, SameLetters, keyEq]

/-- No key goes by two names that differ in more than letter case. -/
theorem Names.sameLetters {key name other : Bytes} (names : Names key name)
    (namesOther : Names key other) : SameLetters (cString name) (cString other) :=
  ((names_iff key name).mp names).symm.trans ((names_iff key other).mp namesOther)

/-- A key in capitals comes before any small spelling of the same name. -/
theorem compare_toUpper_toLower {key other name : Bytes} {initial : UInt8} {rest : Bytes}
    (nameEq : name = initial :: rest) (capital : 65 ≤ initial.toNat ∧ initial.toNat ≤ 90)
    (names : Names key name) (namesOther : Names other name) :
    compare (key.map toUpper) (other.map toLower) = .lt := by
  have start {text : Bytes} (namesText : Names text name) :
      ∃ first others, text = first :: others ∧ toLower first = toLower initial := by
    rw [names_iff, nameEq] at namesText
    have visible : cString (initial :: rest) = initial :: cString rest := by
      rw [cString, List.takeWhile_cons_of_pos]
      · rfl
      · simp only [decide_eq_true_eq]
        rintro rfl
        exact absurd capital.1 (by decide)
    rw [visible] at namesText
    cases text with
    | nil => cases namesText
    | cons first others =>
        refine ⟨first, others, rfl, ?_⟩
        rw [cString, List.takeWhile_cons] at namesText
        split_ifs at namesText
        · exact (List.cons.inj namesText).1
        · cases namesText
  rcases start names with ⟨first, others, rfl, firstEq⟩
  rcases start namesOther with ⟨otherFirst, otherOthers, rfl, otherFirstEq⟩
  have less : compare (toUpper first) (toLower otherFirst) = .lt := by
    have firstNat := congrArg UInt8.toNat firstEq
    rw [toNat_toLower, toNat_toLower] at firstNat
    have below : toUpper first < toLower otherFirst := by
      rw [UInt8.lt_iff_toNat_lt, otherFirstEq, toNat_toUpper, toNat_toLower]
      split_ifs at firstNat ⊢ <;> omega
    exact if_pos below
  rw [List.map_cons, List.map_cons, List.compare_cons_cons, less]
  rfl

/-! ## Variants of header lines -/

def transferEncoding : Bytes := ascii "Transfer-Encoding"

def contentLengthName : Bytes := ascii "Content-Length"

/-- The line with letter case changed in the name, and in the value if it is a transfer encoding. -/
def CaseVariant (line other : HttpLine) : Prop :=
  ∃ before after otherBefore otherAfter,
    line.1 = before ++ charColon :: after ∧ other.1 = otherBefore ++ charColon :: otherAfter ∧
      charColon ∉ before ∧ SameLetters before otherBefore ∧
      (after = otherAfter ∨
        (Names (trim before) transferEncoding ∧ SameLetters after otherAfter))

/-- The same of the field on the line. -/
def FieldVariant (field other : Bytes × Bytes) : Prop :=
  SameLetters field.1 other.1 ∧
    (field.2 = other.2 ∨ (Names field.1 transferEncoding ∧ SameLetters field.2 other.2))

theorem SameLetters.mem_iff {text other : Bytes} (same : SameLetters text other) {char : UInt8}
    (small : char.toNat < 65) : char ∈ text ↔ char ∈ other := by
  have memLower (text : Bytes) : char ∈ lower text ↔ char ∈ text := by
    rw [lower, List.mem_map]
    constructor
    · rintro ⟨letter, member, letterEq⟩
      rw [toLower_eq_iff small] at letterEq
      rw [← letterEq]
      exact member
    · intro member
      exact ⟨char, member, (toLower_eq_iff small).mpr rfl⟩
  rw [← memLower text, same, memLower]

theorem FieldVariant.value_length {field other : Bytes × Bytes}
    (variant : FieldVariant field other) : field.2.length = other.2.length := by
  rcases variant.2 with same | ⟨_, same⟩
  · rw [same]
  · exact same.length_eq

theorem HttpParser.IsHeaderLine.field_eq {line : HttpLine} {field : Bytes × Bytes}
    {before after : Bytes} (isLine : IsHeaderLine line field)
    (lineEq : line.1 = before ++ charColon :: after) (firstColon : charColon ∉ before) :
    field = (trim before, trim after) := by
  rcases isLine.parts with ⟨_, _, parts⟩
  rcases parts.scans with ⟨beforeEq, afterEq⟩
  have whole : HeaderLineParts line.1 (trim before, trim after) before after :=
    ⟨lineEq, firstColon, rfl, rfl⟩
  rcases whole.scans with ⟨wholeBefore, wholeAfter⟩
  rw [wholeBefore] at beforeEq
  rw [wholeAfter] at afterEq
  rw [Prod.ext_iff, parts.name_eq, parts.value_eq, ← beforeEq, ← (List.cons.inj afterEq).2]
  exact ⟨rfl, rfl⟩

/-- A variant of a header line is a header line, with a variant of the field. -/
theorem CaseVariant.exists_field {line other : HttpLine} {field : Bytes × Bytes}
    (variant : CaseVariant line other) (isLine : IsHeaderLine line field) :
    ∃ otherField, IsHeaderLine other otherField ∧ FieldVariant field otherField := by
  rcases variant with
    ⟨before, after, otherBefore, otherAfter, lineEq, otherEq, firstColon, sameName, value⟩
  have fieldEq := isLine.field_eq lineEq firstColon
  have fieldVariant : FieldVariant field (trim otherBefore, trim otherAfter) := by
    rw [fieldEq]
    refine ⟨sameName.trim, ?_⟩
    rcases value with same | ⟨names, same⟩
    · exact Or.inl (congrArg trim same)
    · exact Or.inr ⟨names, same.trim⟩
  have lineLength : line.1.length = other.1.length := by
    have valueLength : after.length = otherAfter.length := by
      rcases value with same | ⟨_, same⟩
      · rw [same]
      · exact same.length_eq
    rw [lineEq, otherEq, List.length_append, List.length_append, List.length_cons,
      List.length_cons, valueLength, sameName.length_eq]
  refine ⟨_, ⟨?_, ?_, ⟨otherBefore, otherAfter, otherEq, ?_, rfl, rfl⟩, ?_, ?_, ?_⟩, fieldVariant⟩
  · rw [otherEq]
    simp
  · rw [← lineLength]
    exact isLine.short
  · rw [← sameName.mem_iff (by decide)]
    exact firstColon
  · intro empty
    apply isLine.name_nonempty
    rw [← List.length_eq_zero_iff, fieldVariant.1.length_eq, empty]
    rfl
  · rw [← fieldVariant.1.length_eq]
    exact isLine.name_short
  · rw [← fieldVariant.value_length]
    exact isLine.value_short

theorem exists_fields_of_variants {lines others : List HttpLine}
    {fields : List (Bytes × Bytes)} (variants : List.Forall₂ CaseVariant lines others)
    (areLines : List.Forall₂ IsHeaderLine lines fields) :
    ∃ otherFields, List.Forall₂ IsHeaderLine others otherFields ∧
      List.Forall₂ FieldVariant fields otherFields := by
  induction variants generalizing fields with
  | nil =>
      cases areLines
      exact ⟨[], List.Forall₂.nil, List.Forall₂.nil⟩
  | cons variant variants ih =>
      rcases areLines with _ | ⟨isLine, areLines⟩
      rcases ih areLines with ⟨otherFields, areOthers, fieldVariants⟩
      rcases variant.exists_field isLine with ⟨otherField, isOther, fieldVariant⟩
      exact ⟨otherField :: otherFields, List.Forall₂.cons isOther areOthers,
        List.Forall₂.cons fieldVariant fieldVariants⟩

/-! ## Making variants -/

/-- The field with its name, and its value if it is a transfer encoding, in other letters. -/
def recaseField (recase recaseValue : UInt8 → UInt8) (field : Bytes × Bytes) : Bytes × Bytes :=
  (field.1.map recase,
    if Names field.1 transferEncoding then field.2.map recaseValue else field.2)

theorem exists_variant {line : HttpLine} {field : Bytes × Bytes}
    {recase recaseValue : UInt8 → UInt8} (isLine : IsHeaderLine line field)
    (recasing : IsRecasing recase) (recasingValue : IsRecasing recaseValue) :
    ∃ other, CaseVariant line other ∧
      IsHeaderLine other (recaseField recase recaseValue field) := by
  rcases isLine.parts with ⟨before, after, parts⟩
  have fieldEq := isLine.field_eq parts.line_eq parts.first_colon
  have sameName := sameLetters_map recasing before
  have valueCase : ∃ otherAfter, SameLetters after otherAfter ∧
      (after = otherAfter ∨
        (Names (trim before) transferEncoding ∧ SameLetters after otherAfter)) ∧
      trim otherAfter = (recaseField recase recaseValue field).2 := by
    by_cases names : Names field.1 transferEncoding
    · have sameValue := sameLetters_map recasingValue after
      refine ⟨after.map recaseValue, sameValue, Or.inr ⟨?_, sameValue⟩, ?_⟩
      · rw [← parts.name_eq]
        exact names
      · rw [recaseField, if_pos names, trim_map recasingValue, parts.value_eq]
    · refine ⟨after, rfl, Or.inl rfl, ?_⟩
      rw [recaseField, if_neg names, parts.value_eq]
  rcases valueCase with ⟨otherAfter, sameValue, valueVariant, valueEq⟩
  have noCrlf : findCrlf (before.map recase ++ charColon :: otherAfter) = none := by
    have sameColon : SameLetters [charColon] [charColon] := rfl
    have same := sameName.append (sameColon.append sameValue)
    have lineNoCrlf := line.2
    rw [parts.line_eq] at lineNoCrlf
    exact same.findCrlf_eq.symm.trans lineNoCrlf
  have variant : CaseVariant line ⟨before.map recase ++ charColon :: otherAfter, noCrlf⟩ :=
    ⟨before, after, before.map recase, otherAfter, parts.line_eq, rfl, parts.first_colon, sameName,
      valueVariant⟩
  refine ⟨_, variant, ?_⟩
  rcases variant.exists_field isLine with ⟨otherField, isOther, _⟩
  have noColon : charColon ∉ before.map recase := by
    rw [← sameName.mem_iff (by decide)]
    exact parts.first_colon
  have otherEq : otherField = recaseField recase recaseValue field := by
    rw [isOther.field_eq rfl noColon, trim_map recasing, ← parts.name_eq, valueEq]
    rfl
  rw [← otherEq]
  exact isOther

theorem exists_variants {lines : List HttpLine} {fields : List (Bytes × Bytes)}
    {recase recaseValue : UInt8 → UInt8} (areLines : List.Forall₂ IsHeaderLine lines fields)
    (recasing : IsRecasing recase) (recasingValue : IsRecasing recaseValue) :
    ∃ others, List.Forall₂ CaseVariant lines others ∧
      List.Forall₂ IsHeaderLine others (fields.map (recaseField recase recaseValue)) := by
  induction areLines with
  | nil => exact ⟨[], List.Forall₂.nil, List.Forall₂.nil⟩
  | cons isLine areLines ih =>
      rcases exists_variant isLine recasing recasingValue with ⟨other, variant, isOther⟩
      rcases ih with ⟨others, variants, areOthers⟩
      exact ⟨other :: others, List.Forall₂.cons variant variants,
        List.Forall₂.cons isOther areOthers⟩

/-- The fields with one name in capitals and the others in small letters. -/
def singleOut (recaseValue : UInt8 → UInt8) (before : List (Bytes × Bytes))
    (field : Bytes × Bytes) (after : List (Bytes × Bytes)) : List (Bytes × Bytes) :=
  before.map (recaseField toLower recaseValue) ++
    recaseField toUpper recaseValue field :: after.map (recaseField toLower recaseValue)

theorem exists_singleOut {lines : List HttpLine} {before after : List (Bytes × Bytes)}
    {field : Bytes × Bytes} {recaseValue : UInt8 → UInt8}
    (areLines : List.Forall₂ IsHeaderLine lines (before ++ field :: after))
    (recasingValue : IsRecasing recaseValue) :
    ∃ others, List.Forall₂ CaseVariant lines others ∧
      List.Forall₂ IsHeaderLine others (singleOut recaseValue before field after) := by
  induction before generalizing lines with
  | nil =>
      rcases areLines with _ | ⟨isLine, areAfter⟩
      rcases exists_variant isLine isRecasing_toUpper recasingValue with ⟨other, variant, isOther⟩
      rcases exists_variants areAfter isRecasing_toLower recasingValue with
        ⟨others, variants, areOthers⟩
      exact ⟨other :: others, List.Forall₂.cons variant variants,
        List.Forall₂.cons isOther areOthers⟩
  | cons first before ih =>
      rcases areLines with _ | ⟨isLine, areLines⟩
      rcases exists_variant isLine isRecasing_toLower recasingValue with ⟨other, variant, isOther⟩
      rcases ih areLines with ⟨others, variants, areOthers⟩
      exact ⟨other :: others, List.Forall₂.cons variant variants,
        List.Forall₂.cons isOther areOthers⟩

/-! ## Looking up a name -/

theorem headersOf_eq_storeAll {lines : List HttpLine} {fields : List (Bytes × Bytes)}
    (areLines : List.Forall₂ IsHeaderLine lines fields) :
    headersOf lines = OrderedMap.storeAll ∅ fields :=
  foldl_addField_eq areLines ∅

theorem findHeader_eq_search (headers : HttpHeaders) (name : Bytes) :
    findHeader headers name = OrderedMap.search (fun key => decide (Names key name)) headers :=
  rfl

section Lookup

variable {lines : List HttpLine} {fields : List (Bytes × Bytes)} {name : Bytes}

theorem exists_of_findHeader {value : Bytes} (areLines : List.Forall₂ IsHeaderLine lines fields)
    (found : findHeader (headersOf lines) name = some value) :
    ∃ field ∈ fields, Names field.1 name ∧ field.2 = value := by
  rw [findHeader_eq_search, headersOf_eq_storeAll areLines] at found
  rcases OrderedMap.exists_of_search found with ⟨key, stored, passes⟩
  rcases OrderedMap.getElem?_storeAll stored with member | nothing
  · exact ⟨(key, value), member, of_decide_eq_true passes, rfl⟩
  · rw [Std.ExtTreeMap.getElem?_empty] at nothing
    cases nothing

theorem findHeader_eq_none_iff (areLines : List.Forall₂ IsHeaderLine lines fields) :
    findHeader (headersOf lines) name = none ↔ ∀ field ∈ fields, ¬ Names field.1 name := by
  rw [findHeader_eq_search, headersOf_eq_storeAll areLines, OrderedMap.search_eq_none_iff]
  constructor
  · intro none field member
    have stored := (OrderedMap.mem_storeAll_iff (∅ : HttpHeaders) fields field.1).mpr
      (Or.inr ⟨field, member, rfl⟩)
    exact of_decide_eq_false (none field.1 stored)
  · intro none key stored
    rcases (OrderedMap.mem_storeAll_iff (∅ : HttpHeaders) fields key).mp stored with
      nothing | ⟨field, member, rfl⟩
    · exact absurd nothing Std.ExtTreeMap.not_mem_empty
    · exact decide_eq_false (none field member)

end Lookup

/-- The field that is singled out is found under its name. -/
theorem findHeader_singleOut {others : List HttpLine} {before after : List (Bytes × Bytes)}
    {field : Bytes × Bytes} {recaseValue : UInt8 → UInt8} {name rest : Bytes} {initial : UInt8}
    (nameEq : name = initial :: rest) (capital : 65 ≤ initial.toNat ∧ initial.toNat ≤ 90)
    (names : Names field.1 name)
    (areOthers : List.Forall₂ IsHeaderLine others (singleOut recaseValue before field after)) :
    findHeader (headersOf others) name = some (recaseField toUpper recaseValue field).2 := by
  have namesUpper : Names (field.1.map toUpper) name :=
    (names_congr (sameLetters_map isRecasing_toUpper field.1) name).mp names
  have least {other : Bytes × Bytes} (namesOther : Names (other.1.map toLower) name) :
      compare (field.1.map toUpper) (other.1.map toLower) = .lt := by
    have namesSmall : Names other.1 name :=
      (names_congr (sameLetters_map isRecasing_toLower other.1) name).mpr namesOther
    exact compare_toUpper_toLower nameEq capital names namesSmall
  have different {other : Bytes × Bytes} : other.1.map toLower ≠ field.1.map toUpper := by
    intro same
    have namesOther := namesUpper
    rw [← same] at namesOther
    have less := least namesOther
    have equal : compare (field.1.map toUpper) (field.1.map toUpper) = .eq :=
      Std.ReflCmp.compare_self
    rw [same, equal] at less
    cases less
  have stored : (OrderedMap.storeAll (∅ : HttpHeaders) (singleOut recaseValue before field
      after))[field.1.map toUpper]? = some (recaseField toUpper recaseValue field).2 := by
    apply OrderedMap.getElem?_storeAll_of_last
    intro other member
    rcases List.mem_map.mp member with ⟨original, _, rfl⟩
    exact different
  rw [findHeader_eq_search, headersOf_eq_storeAll areOthers]
  apply OrderedMap.search_of_least stored (decide_eq_true namesUpper)
  intro key present passes distinct
  have namesKey : Names key name := of_decide_eq_true passes
  rcases (OrderedMap.mem_storeAll_iff (∅ : HttpHeaders) _ key).mp present with
    nothing | ⟨entry, member, rfl⟩
  · exact absurd nothing Std.ExtTreeMap.not_mem_empty
  · rcases List.mem_append.mp member with early | late
    · rcases List.mem_map.mp early with ⟨original, _, rfl⟩
      exact least namesKey
    · rcases List.mem_cons.mp late with rfl | later
      · exact absurd rfl distinct
      · rcases List.mem_map.mp later with ⟨original, _, rfl⟩
        exact least namesKey

end HttpsServerSim
