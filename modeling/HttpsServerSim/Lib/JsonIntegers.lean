import HttpsServerSim.Lib.IntegerRange
import HttpsServerSim.Lib.Json

/-!
# Integers in JSON values

A number without a fraction or an exponent that fits in 64 bits is an integer. Its conversion to a
machine type reduces it to the range of the type.
-/

namespace HttpsServerSim

namespace Json

def integer? : Json → Option ℤ
  | .numberInteger value => some value.toInt
  | .numberUnsigned value => some value.toNat
  | _ => none

/-- The elements of a value, if there is one. -/
def listed (found : Option Json) : List Json := found.elim [] elements

variable {json found : Json} {key parent : Bytes} {z : ℤ} {library : JsonLibrary}

theorem integer_cases (isInteger : found.integer? = some z) :
    (∃ value : Int64, found = .numberInteger value ∧ z = value.toInt) ∨
      ∃ value : UInt64, found = .numberUnsigned value ∧ z = value.toNat := by
  cases found with
  | numberInteger value =>
      left
      exact ⟨value, rfl, (Option.some.inj isInteger).symm⟩
  | numberUnsigned value =>
      right
      exact ⟨value, rfl, (Option.some.inj isInteger).symm⟩
  | null | boolean _ | numberFloat _ | string _ | array _ | object _ => cases isInteger

theorem isNumber_of_integer (isInteger : found.integer? = some z) : found.isNumber = true := by
  rcases integer_cases isInteger with ⟨value, rfl, _⟩ | ⟨value, rfl, _⟩
  · rfl
  · rfl

theorem getUInt16_of_integer {word : UInt16} (isInteger : found.integer? = some z)
    (given : found.getUInt16 library = some word) :
    (word.toNat : ℤ) = IntegerRange.uint16.reduce z := by
  rcases integer_cases isInteger with ⟨value, rfl, rfl⟩ | ⟨value, rfl, rfl⟩
  · cases given
    exact IntegerRange.toNat_toUInt64_toUInt16 value
  · cases given
    exact IntegerRange.toNat_toUInt16 value

theorem getUInt32_of_integer {word : UInt32} (isInteger : found.integer? = some z)
    (given : found.getUInt32 library = some word) :
    (word.toNat : ℤ) = IntegerRange.uint32.reduce z := by
  rcases integer_cases isInteger with ⟨value, rfl, rfl⟩ | ⟨value, rfl, rfl⟩
  · cases given
    exact IntegerRange.toNat_toUInt64_toUInt32 value
  · cases given
    exact IntegerRange.toNat_toUInt32 value

theorem getInt32_of_integer {word : Int32} (isInteger : found.integer? = some z)
    (given : found.getInt32 library = some word) :
    word.toInt = IntegerRange.int32.reduce z := by
  rcases integer_cases isInteger with ⟨value, rfl, rfl⟩ | ⟨value, rfl, rfl⟩
  · cases given
    exact IntegerRange.toInt_toInt32 value
  · cases given
    exact IntegerRange.toInt_toUInt32_toInt32 value

/-- A field that takes numbers takes an integer. -/
theorem Takes.of_integer {Value : Type} {get : Json → Option Value} {before after : Value}
    (takes : json.Takes key isNumber get before after)
    (written : (json.member key).bind integer? = some z) :
    ∃ found, found.integer? = some z ∧ get found = some after := by
  rcases Option.bind_eq_some_iff.mp written with ⟨found, isMember, isInteger⟩
  exact ⟨found, isInteger, takes.present found isMember (isNumber_of_integer isInteger)⟩

/-! ## Elements of members -/

/-- A value that has elements is an array. -/
theorem exists_array_of_listed {item : Json} {index : ℕ} {found : Option Json}
    (isItem : (listed found)[index]? = some item) :
    ∃ array, found = some array ∧ array.isArray = true ∧ array.elements[index]? = some item := by
  cases found with
  | none => simp [listed] at isItem
  | some array =>
      refine ⟨array, rfl, ?_, isItem⟩
      cases array with
      | array elements => rfl
      | null | boolean _ | numberInteger _ | numberUnsigned _ | numberFloat _ | string _
        | object _ => simp [listed, elements] at isItem

/-- A member of a member is in an object. -/
theorem exists_object_of_nested (isNested : json.nested parent key = some found) :
    ∃ inner, json.member parent = some inner ∧ inner.isObject = true ∧
      inner.member key = some found := by
  rcases Option.bind_eq_some_iff.mp isNested with ⟨inner, isInner, isMember⟩
  refine ⟨inner, isInner, ?_, isMember⟩
  cases inner with
  | object members => rfl
  | null | boolean _ | numberInteger _ | numberUnsigned _ | numberFloat _ | string _ | array _ =>
      cases isMember

end Json

end HttpsServerSim
