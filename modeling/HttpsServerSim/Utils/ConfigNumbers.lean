import HttpsServerSim.Config.ConfigNumbers
import HttpsServerSim.Utils.ConfigLoading

/-!
# The numbers of both configurations

Here too `get` reduces an integer to the range of the field's type before `validate` sees it: the
test whether the port is greater than 65535 is made on a number of 16 bits. At the end are the
results on `config::Config` and `utils::Config` together.
-/

namespace HttpsServerSim

namespace Utils

variable {library : JsonLibrary} {j : Json} {jsonStr : Bytes} {config after : Config}

/-! ## Numeric fields -/

namespace FieldKind

/-- The integers of a numeric type. -/
def range? : FieldKind → Option IntegerRange
  | .uint16 => some .uint16
  | .uint32 => some .uint32
  | .string | .boolean | .strings | .stringMap => none

def integer? : (kind : FieldKind) → kind.Value → Option ℤ
  | .uint16, value => some value.toNat
  | .uint32, value => some value.toNat
  | .string, _ | .boolean, _ | .strings, _ | .stringMap, _ => none

theorem integer_of_get {kind : FieldKind} {range : IntegerRange} {found : Json}
    {value : kind.Value} {z : ℤ} (numeric : kind.range? = some range)
    (isInteger : found.integer? = some z) (given : kind.get library found = some value) :
    kind.integer? value = some (range.reduce z) := by
  cases kind with
  | uint16 =>
      cases numeric
      exact congrArg some (Json.getUInt16_of_integer isInteger given)
  | uint32 =>
      cases numeric
      exact congrArg some (Json.getUInt32_of_integer isInteger given)
  | string | boolean | strings | stringMap => cases numeric

end FieldKind

namespace ConfigField

/-- The integer that the text has for the field. -/
def written (field : ConfigField) (j : Json) : Option ℤ :=
  (j.nested field.parent field.key).bind Json.integer?

def stored (field : ConfigField) (config : Config) : Option ℤ :=
  field.kind.integer? (field.read config)

/-- What the text gives for the field, or what the configuration has. -/
def settled (library : JsonLibrary) (j : Json) (config : Config) (field : ConfigField) :
    field.kind.Value :=
  system.settled (given library j) config field

end ConfigField

/-- The values that `validate` asks for. -/
structure ValidValues (listenPort : UInt16) (threadCount : UInt32) (level : Bytes) : Prop where
  port : listenPort ≠ 0
  threads : threadCount ≠ 0
  fewThreads : threadCount ≤ 1024
  level : level ∈ [ascii "DEBUG", ascii "INFO", ascii "WARN", ascii "ERROR"]

/-- Every field that is in the text is of the right kind, and the values are valid that the text
gives, or the configuration where the text does not. -/
structure Accepted (library : JsonLibrary) (j : Json) (config : Config) : Prop where
  converts : ∀ field, ConfigField.given library j field ≠ some none
  valid : ValidValues (ConfigField.settled library j config .listenPort)
    (ConfigField.settled library j config .threadCount)
    (ConfigField.settled library j config .level)

/-! ## What is stored and validated -/

/-- A load settles every field, or a conversion throws. -/
theorem loadFromString_cases (config : Config) (parsed : library.parse jsonStr = some j) :
    (∃ after, config.loadFromString library jsonStr = (.ok (), after) ∧
      (∀ field, ConfigField.given library j field ≠ some none) ∧
        ∀ field, field.read after = ConfigField.settled library j config field) ∨
      ∃ error after, config.loadFromString library jsonStr = (.error error, after) ∧
        ∃ field, ConfigField.given library j field = some none := by
  have threw : (ConfigField.system.load (ConfigField.given library j) ConfigField.all
      config).2 = true ↔ ∃ field ∈ ConfigField.all,
        ConfigField.given library j field = some none := FieldSystem.load_threw_iff
  have reads : (ConfigField.system.load (ConfigField.given library j) ConfigField.all
      config).2 = false → ∀ field : ConfigField, field.read
        (ConfigField.system.load (ConfigField.given library j) ConfigField.all config).1 =
          ConfigField.settled library j config field := fun done field =>
    FieldSystem.read_load_of_done done (ConfigField.mem_all field)
  simp only [Config.loadFromString, parsed, parseJsonToConfig_eq]
  rcases ran : ConfigField.system.load (ConfigField.given library j) ConfigField.all config with
    ⟨loaded, _ | _⟩
  · left
    simp only [ran, Bool.false_eq_true, false_iff, not_exists, not_and] at threw reads
    refine ⟨loaded, rfl, ?_, reads trivial⟩
    intro field
    exact threw field (ConfigField.mem_all field)
  · right
    simp only [ran, true_iff] at threw
    rcases threw with ⟨field, _, throws⟩
    exact ⟨.configInvalidValue, loaded, rfl, field, throws⟩

theorem validate_ok_iff : config.validate = .ok () ↔
    ValidValues config.server.listenPort config.server.threadCount config.logging.level := by
  have small := config.server.listenPort.toNat_lt
  unfold Config.validate
  split_ifs with port threads level
  · have bad : config.server.listenPort = 0 := by
      rcases port with zero | large
      · exact zero
      · omega
    refine ⟨nofun, fun valid => ?_⟩
    exact absurd bad valid.port
  · refine ⟨nofun, fun valid => ?_⟩
    rcases threads with zero | many
    · exact absurd zero valid.threads
    · exact absurd many (UInt32.not_lt.mpr valid.fewThreads)
  · refine ⟨nofun, fun valid => ?_⟩
    have known := valid.level
    simp [level] at known
  · simp only [not_or, UInt32.not_lt] at port threads
    refine ⟨fun _ => ⟨port.1, threads.1, threads.2, ?_⟩, fun _ => rfl⟩
    by_contra unknown
    apply level
    simpa using unknown

/-- The text is loaded and the configuration validated just if the text is accepted. -/
theorem accepted_iff (config : Config) (parsed : library.parse jsonStr = some j) :
    (∃ after, config.loadFromString library jsonStr = (.ok (), after) ∧
      after.validate = .ok ()) ↔ Accepted library j config := by
  rcases loadFromString_cases config parsed with
    ⟨loaded, done, converts, reads⟩ | ⟨error, loaded, failed, field, throws⟩
  · have port := reads .listenPort
    have threads := reads .threadCount
    have level := reads .level
    simp only [ConfigField.read] at port threads level
    simp only [done, Prod.mk.injEq, true_and, exists_eq_left', validate_ok_iff, port, threads,
      level]
    exact ⟨fun valid => ⟨converts, valid⟩, fun accepted => accepted.valid⟩
  · simp only [failed, Prod.mk.injEq, reduceCtorEq, false_and, exists_false, false_iff]
    intro accepted
    exact accepted.converts field throws

/-- A load stores the integer of the field's type that the written one is reduced to. -/
theorem stored_of_written {field : ConfigField} {range : IntegerRange} {z : ℤ}
    (parsed : library.parse jsonStr = some j)
    (loaded : config.loadFromString library jsonStr = (.ok (), after))
    (numeric : field.kind.range? = some range) (written : field.written j = some z) :
    field.stored after = some (range.reduce z) := by
  rcases Option.bind_eq_some_iff.mp written with ⟨found, isNested, isInteger⟩
  rcases loadFromString_cases config parsed with
    ⟨same, done, converts, reads⟩ | ⟨error, other, failed, _⟩
  · have isSame : after = same := by simpa [loaded] using done
    subst isSame
    have given : ConfigField.given library j field = some (field.kind.get library found) := by
      rw [ConfigField.given, isNested]
      rfl
    cases converted : field.kind.get library found with
    | none => exact absurd (given.trans (congrArg some converted)) (converts field)
    | some value =>
        have stored : field.read after = value := by
          rw [reads, ConfigField.settled, FieldSystem.settled, given, converted]
        rw [ConfigField.stored, stored]
        exact FieldKind.integer_of_get numeric isInteger converted
  · simp [loaded] at failed

/-! ## Numbers as they are written -/

/-- If the text is loaded and the configuration validated, every integer of the text is stored as
it is written. -/
def TakenAsWritten (library : JsonLibrary) (jsonStr : Bytes) (config : Config) : Prop :=
  ∀ j after, library.parse jsonStr = some j →
    config.loadFromString library jsonStr = (.ok (), after) → after.validate = .ok () →
      ∀ (field : ConfigField) (z : ℤ), field.kind.range?.isSome → field.written j = some z →
        field.stored after = some z

/-- The text is not accepted, or its integers are in the ranges of their fields. -/
def NumbersFit (library : JsonLibrary) (jsonStr : Bytes) (config : Config) : Prop :=
  ∀ j, library.parse jsonStr = some j → Accepted library j config →
    ∀ (field : ConfigField) (z : ℤ) (range : IntegerRange), field.kind.range? = some range →
      field.written j = some z → range.Contains z

theorem takenAsWritten_iff (library : JsonLibrary) (jsonStr : Bytes) (config : Config) :
    TakenAsWritten library jsonStr config ↔ NumbersFit library jsonStr config := by
  refine ⟨?_, ?_⟩
  · intro taken j parsed accepted field z range numeric written
    rcases (accepted_iff config parsed).mpr accepted with ⟨after, done, valid⟩
    have asWritten := taken j after parsed done valid field z (by simp [numeric]) written
    have reduced := stored_of_written parsed done numeric written
    apply IntegerRange.reduce_eq_iff.mp
    simpa [reduced] using asWritten
  · intro fit j after parsed done valid field z isNumeric written
    rcases Option.isSome_iff_exists.mp isNumeric with ⟨range, numeric⟩
    have accepted := (accepted_iff config parsed).mp ⟨after, done, valid⟩
    have inside := fit j parsed accepted field z range numeric written
    simpa [IntegerRange.reduce_of_contains inside] using
      stored_of_written parsed done numeric written

end Utils

/-- For every text and any two configurations that it is loaded into. -/
theorem configuredNumbers_iff (library : JsonLibrary) (jsonStr : Bytes)
    (config : Configuration.Config) (utilsConfig : Utils.Config) :
    (Configuration.TakenAsWritten library jsonStr config ↔
        Configuration.NumbersFit library jsonStr config) ∧
      (Utils.TakenAsWritten library jsonStr utilsConfig ↔
        Utils.NumbersFit library jsonStr utilsConfig) :=
  ⟨Configuration.takenAsWritten_iff library jsonStr config,
    Utils.takenAsWritten_iff library jsonStr utilsConfig⟩

/-- A port of 2^16 + 1 in the two layouts. -/
def largePortText : Bytes := ascii "\x7b\"listens\":[\x7b\"port\":65537\x7d]\x7d"

def largePortJson : Json :=
  .object [(ascii "listens", .array [.object [(ascii "port", .numberUnsigned 65537)]])]

def largeServerPortText : Bytes := ascii "\x7b\"server\":\x7b\"listen_port\":65537\x7d\x7d"

def largeServerPortJson : Json :=
  .object [(ascii "server", .object [(ascii "listen_port", .numberUnsigned 65537)])]

theorem configuredNumbers_fails :
    (¬∀ (library : JsonLibrary) (jsonStr : Bytes) (config : Configuration.Config),
        Configuration.TakenAsWritten library jsonStr config) ∧
      ¬∀ (library : JsonLibrary) (jsonStr : Bytes) (config : Utils.Config),
        Utils.TakenAsWritten library jsonStr config := by
  refine ⟨?_, ?_⟩
  · intro allAsWritten
    have stored := allAsWritten (Utils.readsOnly largePortText largePortJson) largePortText
      .construct largePortJson { Configuration.Config.construct with
        listens := [{ Configuration.ListenConfig.construct with port := 1 }] } rfl rfl rfl
      .port 0 65537 rfl
    exact absurd stored (by decide)
  · intro allAsWritten
    have stored := allAsWritten (Utils.readsOnly largeServerPortText largeServerPortJson)
      largeServerPortText {} largeServerPortJson { server := { listenPort := 1 } } rfl rfl rfl
      .listenPort 65537 rfl rfl
    exact absurd stored (by decide)

end HttpsServerSim
