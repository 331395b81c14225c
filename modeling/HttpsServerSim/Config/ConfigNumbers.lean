import HttpsServerSim.Config.ConfigLoading
import HttpsServerSim.Lib.JsonIntegers

/-!
# The numbers of a configuration

All numbers of `config::Config` are in the elements of its three arrays. The conversion reduces
an integer to the range of the field's type before anything is validated, so a number is taken as
it is written exactly if it is in that range; `validate` sees what is left of it.
-/

namespace HttpsServerSim

namespace Configuration

/-! ## The numeric fields -/

/-- A numeric field of an element of an array. -/
inductive NumericField where
  | port
  | backlog
  | pointServerPort
  | delayMs
  | errorCode
  | probability
  | callbackServerPort
deriving DecidableEq

namespace NumericField

/-- The array in the text. -/
def items (j : Json) : NumericField → List Json
  | .port | .backlog => Json.listed (j.member (ascii "listens"))
  | .pointServerPort | .delayMs | .errorCode | .probability =>
      Json.listed (j.nested (ascii "debug") (ascii "debug_points"))
  | .callbackServerPort => Json.listed (j.nested (ascii "callbacks") (ascii "callbacks"))

def key : NumericField → Bytes
  | .port => ascii "port"
  | .backlog => ascii "backlog"
  | .pointServerPort | .callbackServerPort => ascii "server_port"
  | .delayMs => ascii "delay_ms"
  | .errorCode => ascii "error_code"
  | .probability => ascii "probability"

/-- The integers of the field's type. -/
def range : NumericField → IntegerRange
  | .port | .pointServerPort | .callbackServerPort => .uint16
  | .backlog | .delayMs | .probability => .uint32
  | .errorCode => .int32

/-- The integer that the text has for the field in an element. -/
def written (field : NumericField) (j : Json) (index : ℕ) : Option ℤ :=
  (field.items j)[index]?.bind fun item => (item.member field.key).bind Json.integer?

def stored (config : Config) (index : ℕ) : NumericField → Option ℤ
  | .port => config.listens[index]?.map fun listen => (listen.port.toNat : ℤ)
  | .backlog => config.listens[index]?.map fun listen => (listen.backlog.toNat : ℤ)
  | .pointServerPort => config.debug.debugPoints[index]?.map fun point =>
      (point.serverPort.toNat : ℤ)
  | .delayMs => config.debug.debugPoints[index]?.map fun point => (point.delayMs.toNat : ℤ)
  | .errorCode => config.debug.debugPoints[index]?.map fun point => point.errorCode.toInt
  | .probability => config.debug.debugPoints[index]?.map fun point => (point.probability.toNat : ℤ)
  | .callbackServerPort => config.callbacks.callbacks[index]?.map fun callback =>
      (callback.serverPort.toNat : ℤ)

end NumericField

variable {library : JsonLibrary} {j : Json} {jsonStr : Bytes} {config after : Config}

/-! ## What is stored -/

/-- The element that an item of an array has been loaded into. -/
theorem exists_element {Element : Type} {initial : Element}
    {Loaded : Json → Element → Element → Prop} {before after : List Element} {key : Bytes}
    {item : Json} {index : ℕ}
    (loads : j.LoadsMember key Json.isArray (ArrayLoaded initial Loaded) before after)
    (isItem : (Json.listed (j.member key))[index]? = some item) :
    ∃ element, after[index]? = some element ∧ Loaded item initial element := by
  rcases Json.exists_array_of_listed isItem with ⟨array, isMember, isArray, inArray⟩
  have loaded := loads.present array isMember isArray
  rcases List.getElem?_eq_some_iff.mp inArray with ⟨within, rfl⟩
  have alsoWithin : index < after.length := by
    rw [← loaded.length_eq]
    exact within
  refine ⟨after[index], List.getElem?_eq_getElem alsoWithin, ?_⟩
  exact loaded.get within alsoWithin

/-- The same where the array is in a section. -/
theorem exists_element_of_section {Section Element : Type} {initial : Element}
    {Loaded : Json → Element → Element → Prop} {SectionLoaded : Json → Section → Section → Prop}
    {before after : Section} {parent key : Bytes} {item : Json} {index : ℕ}
    (part : Section → List Element)
    (array : ∀ {found}, SectionLoaded found before after → found.LoadsMember key Json.isArray
      (ArrayLoaded initial Loaded) (part before) (part after))
    (loads : j.LoadsMember parent Json.isObject SectionLoaded before after)
    (isItem : (Json.listed (j.nested parent key))[index]? = some item) :
    ∃ element, (part after)[index]? = some element ∧ Loaded item initial element := by
  rcases Json.exists_array_of_listed isItem with ⟨_, isNested, _, _⟩
  rcases Json.exists_object_of_nested isNested with ⟨object, isMember, isObject, inner⟩
  apply exists_element (array (loads.present object isMember isObject))
  rw [inner, ← isNested]
  exact isItem

theorem listen_stored {index : ℕ} {item : Json} (loaded : Config.Loaded library j config after)
    (isItem : (Json.listed (j.member (ascii "listens")))[index]? = some item) :
    ∃ listen, after.listens[index]? = some listen ∧ ListenLoaded library item .construct listen :=
  exists_element loaded.listens isItem

theorem point_stored {index : ℕ} {item : Json} (loaded : Config.Loaded library j config after)
    (isItem : (Json.listed (j.nested (ascii "debug") (ascii "debug_points")))[index]? = some item) :
    ∃ point, after.debug.debugPoints[index]? = some point ∧
      DebugPointLoaded library item .construct point :=
  exists_element_of_section DebugConfig.debugPoints (fun section' => section'.debugPoints)
    loaded.debug isItem

theorem callback_stored {index : ℕ} {item : Json} (loaded : Config.Loaded library j config after)
    (isItem : (Json.listed (j.nested (ascii "callbacks") (ascii "callbacks")))[index]? =
      some item) :
    ∃ callback, after.callbacks.callbacks[index]? = some callback ∧
      CallbackLoaded library item .construct callback :=
  exists_element_of_section (fun loaded : CallbacksConfig × Bytes => loaded.1.callbacks)
    (fun section' => section'.callbacks.callbacks) loaded.callbacks isItem

/-- A load stores the integer of the field's type that the written one is reduced to. -/
theorem stored_of_written {field : NumericField} {index : ℕ} {z : ℤ}
    (loaded : Config.Loaded library j config after) (written : field.written j index = some z) :
    field.stored after index = some (field.range.reduce z) := by
  rcases Option.bind_eq_some_iff.mp written with ⟨item, isItem, isWritten⟩
  cases field with
  | port =>
      rcases listen_stored loaded isItem with ⟨listen, isListen, loads⟩
      rcases loads.port.of_integer isWritten with ⟨found, isInteger, given⟩
      simp [NumericField.stored, NumericField.range, isListen,
        Json.getUInt16_of_integer isInteger given]
  | backlog =>
      rcases listen_stored loaded isItem with ⟨listen, isListen, loads⟩
      rcases loads.backlog.of_integer isWritten with ⟨found, isInteger, given⟩
      simp [NumericField.stored, NumericField.range, isListen,
        Json.getUInt32_of_integer isInteger given]
  | pointServerPort =>
      rcases point_stored loaded isItem with ⟨point, isPoint, loads⟩
      rcases loads.serverPort.of_integer isWritten with ⟨found, isInteger, given⟩
      simp [NumericField.stored, NumericField.range, isPoint,
        Json.getUInt16_of_integer isInteger given]
  | delayMs =>
      rcases point_stored loaded isItem with ⟨point, isPoint, loads⟩
      rcases loads.delayMs.of_integer isWritten with ⟨found, isInteger, given⟩
      simp [NumericField.stored, NumericField.range, isPoint,
        Json.getUInt32_of_integer isInteger given]
  | errorCode =>
      rcases point_stored loaded isItem with ⟨point, isPoint, loads⟩
      rcases loads.errorCode.of_integer isWritten with ⟨found, isInteger, given⟩
      simp [NumericField.stored, NumericField.range, isPoint,
        Json.getInt32_of_integer isInteger given]
  | probability =>
      rcases point_stored loaded isItem with ⟨point, isPoint, loads⟩
      rcases loads.probability.of_integer isWritten with ⟨found, isInteger, given⟩
      simp [NumericField.stored, NumericField.range, isPoint,
        Json.getUInt32_of_integer isInteger given]
  | callbackServerPort =>
      rcases callback_stored loaded isItem with ⟨callback, isCallback, loads⟩
      rcases loads.serverPort.of_integer isWritten with ⟨found, isInteger, given⟩
      simp [NumericField.stored, NumericField.range, isCallback,
        Json.getUInt16_of_integer isInteger given]

/-! ## What is validated -/

/-- The port in an element, if there is a number for it, is not converted to zero. -/
def PortAccepted (library : JsonLibrary) (item : Json) : Prop :=
  ∀ port, item.member (ascii "port") = some port → port.isNumber = true →
    port.getUInt16 library ≠ some 0

/-- The text has an array of listens with ports, or none and the configuration is valid. -/
structure ListensAccepted (library : JsonLibrary) (j : Json) (config : Config) : Prop where
  given : ∀ listens, j.member (ascii "listens") = some listens → listens.isArray = true →
    listens.elements ≠ [] ∧ ∀ item ∈ listens.elements, PortAccepted library item
  kept : (∀ listens, j.member (ascii "listens") = some listens → listens.isArray = false) →
    config.validate = 0

/-- Two lists whose elements correspond, with properties that do. -/
theorem forall_mem_iff_of_forall₂ {Source Target : Type} {R : Source → Target → Prop}
    {P : Source → Prop} {Q : Target → Prop} {sources : List Source} {targets : List Target}
    (related : List.Forall₂ R sources targets)
    (agree : ∀ {source target}, R source target → (Q target ↔ P source)) :
    (∀ target ∈ targets, Q target) ↔ ∀ source ∈ sources, P source := by
  induction related with
  | nil => simp
  | cons first _ ih => simp [agree first, ih]

theorem ListenLoaded.port_ne_zero_iff {item : Json} {listen : ListenConfig}
    (loaded : ListenLoaded library item .construct listen) :
    listen.port ≠ 0 ↔ PortAccepted library item := by
  refine ⟨?_, ?_⟩
  · intro nonzero port isMember isNumber zero
    have given := loaded.port.present port isMember isNumber
    apply nonzero
    simpa [zero] using given.symm
  · intro accepted
    by_cases absent : ∀ port, item.member (ascii "port") = some port → port.isNumber = false
    · simp [loaded.port.absent absent, ListenConfig.construct]
    · simp only [not_forall, Bool.not_eq_false] at absent
      rcases absent with ⟨port, isMember, isNumber⟩
      intro zero
      apply accepted port isMember isNumber
      simpa [zero] using loaded.port.present port isMember isNumber

/-- `validate` after a load, from the text and from the configuration before. -/
theorem validate_eq_zero_iff_of_loaded (loaded : Config.Loaded library j config after) :
    after.validate = 0 ↔ ListensAccepted library j config := by
  by_cases absent : ∀ listens, j.member (ascii "listens") = some listens → listens.isArray = false
  · have same := loaded.listens.absent absent
    have sameValidation : after.validate = config.validate := by
      simp [Config.validate, same]
    rw [sameValidation]
    refine ⟨?_, fun accepted => accepted.kept absent⟩
    intro valid
    refine ⟨?_, fun _ => valid⟩
    intro listens isMember isArray
    simp [absent listens isMember] at isArray
  · simp only [not_forall, Bool.not_eq_false] at absent
    rcases absent with ⟨listens, isMember, isArray⟩
    have areLoaded := loaded.listens.present listens isMember isArray
    have sameLength := areLoaded.length_eq
    have ports : (∀ listen ∈ after.listens, listen.port ≠ 0) ↔
        ∀ item ∈ listens.elements, PortAccepted library item :=
      forall_mem_iff_of_forall₂ areLoaded fun loads => loads.port_ne_zero_iff
    have emptiness : after.listens ≠ [] ↔ listens.elements ≠ [] := by
      simp [← List.length_eq_zero_iff, sameLength]
    rw [Config.validate_eq_zero_iff, ports, emptiness]
    refine ⟨?_, ?_⟩
    · intro accepted
      refine ⟨?_, ?_⟩
      · intro other isOther _
        rw [isMember] at isOther
        cases isOther
        exact accepted
      · intro none
        simp [none listens isMember] at isArray
    · intro accepted
      exact accepted.given listens isMember isArray

/-! ## Numbers as they are written -/

/-- If the text is loaded and the configuration validated, every integer of the text is stored as
it is written. -/
def TakenAsWritten (library : JsonLibrary) (jsonStr : Bytes) (config : Config) : Prop :=
  ∀ j after, library.parse jsonStr = some j →
    config.loadFromString library jsonStr = (0, after) → after.validate = 0 →
      ∀ (field : NumericField) (index : ℕ) (z : ℤ), field.written j index = some z →
        field.stored after index = some z

/-- The text is not accepted, or its integers are in the ranges of their fields. -/
def NumbersFit (library : JsonLibrary) (jsonStr : Bytes) (config : Config) : Prop :=
  ∀ j, library.parse jsonStr = some j → ListensAccepted library j config →
    ∀ (field : NumericField) (index : ℕ) (z : ℤ), field.written j index = some z →
      field.range.Contains z

theorem takenAsWritten_iff (library : JsonLibrary) (jsonStr : Bytes) (config : Config) :
    TakenAsWritten library jsonStr config ↔ NumbersFit library jsonStr config := by
  refine ⟨?_, ?_⟩
  · intro taken j parsed accepted field index z written
    rcases Config.exists_loaded_of_parse config parsed with ⟨after, done, loaded⟩
    have valid := (validate_eq_zero_iff_of_loaded loaded).mpr accepted
    have asWritten := taken j after parsed done valid field index z written
    have reduced := stored_of_written loaded written
    apply IntegerRange.reduce_eq_iff.mp
    simpa [reduced] using asWritten
  · intro fit j after parsed done valid field index z written
    rcases Config.exists_loaded_of_parse config parsed with ⟨same, sameDone, loaded⟩
    have isSame : after = same := by simpa [done] using sameDone
    subst isSame
    have accepted := (validate_eq_zero_iff_of_loaded loaded).mp valid
    have inside := fit j parsed accepted field index z written
    simpa [IntegerRange.reduce_of_contains inside] using stored_of_written loaded written

end Configuration

end HttpsServerSim
