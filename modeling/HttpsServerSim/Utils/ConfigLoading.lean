import HttpsServerSim.Utils.ConfigFields

/-!
# Loading and writing the configuration

A load that fails keeps what was assigned before the conversion that threw. A configuration that
is written and loaded again makes every other one equal to it, since all fields are in the text,
each in the place where the loader looks for it.
-/

namespace HttpsServerSim

namespace Utils

variable {library : JsonLibrary} {jsonStr : Bytes} {config other : Config}

/-! ## Loads that fail -/

/-- The text is no JSON value, or every conversion succeeds, or the values that are assigned before
the first conversion that throws are there already. -/
def FailsUnchanged (library : JsonLibrary) (jsonStr : Bytes) (config : Config) : Prop :=
  ∀ j, library.parse jsonStr = some j →
    (∃ field ∈ ConfigField.all, ConfigField.given library j field = some none) →
      ∀ field ∈ ConfigField.all.takeWhile
          (FieldSystem.Converts (ConfigField.given library j)),
        ∀ value, ConfigField.given library j field = some (some value) →
          value = field.read config

/-- For every configuration and every text. -/
theorem loadFromString_atomic_iff (library : JsonLibrary) (jsonStr : Bytes) (config : Config) :
    (∀ error after, config.loadFromString library jsonStr = (.error error, after) →
      after = config) ↔ FailsUnchanged library jsonStr config := by
  unfold FailsUnchanged Config.loadFromString
  cases parsed : library.parse jsonStr with
  | none => simp
  | some j =>
      have threw : (ConfigField.system.load (ConfigField.given library j) ConfigField.all
          config).2 = true ↔ ∃ field ∈ ConfigField.all,
            ConfigField.given library j field = some none := FieldSystem.load_threw_iff
      have unchanged : (ConfigField.system.load (ConfigField.given library j) ConfigField.all
          config).1 = config ↔ ∀ field ∈ ConfigField.all.takeWhile
            (FieldSystem.Converts (ConfigField.given library j)),
              ∀ value, ConfigField.given library j field = some (some value) →
                value = field.read config :=
        FieldSystem.load_unchanged_iff ConfigField.all_nodup
      simp only [parseJsonToConfig_eq, Option.some.injEq, forall_eq']
      rw [← threw, ← unchanged]
      rcases ConfigField.system.load (ConfigField.given library j) ConfigField.all config with
        ⟨after, _ | _⟩
      · simp
      · simp

/-- The text of a load that changes the port before it finds that the number of threads is a
string. -/
def mixedText : Bytes :=
  ascii "\x7b\"server\":\x7b\"listen_port\":9000,\"thread_count\":\"x\"\x7d\x7d"

def mixedJson : Json :=
  .object [(ascii "server", .object [(ascii "listen_port", .numberUnsigned 9000),
    (ascii "thread_count", .string (ascii "x"))])]

/-- A library that knows one text. -/
def readsOnly (text : Bytes) (json : Json) : JsonLibrary where
  parse := fun given => if given = text then some json else none
  dump := fun indent _ => if indent = 4 then some text else none
  floatToUInt16 := fun _ => 0
  floatToUInt32 := fun _ => 0
  floatToInt32 := fun _ => 0

theorem loadFromString_fails :
    ¬∀ (library : JsonLibrary) (jsonStr : Bytes) (config : Config) (error : ErrorCode)
      (after : Config), config.loadFromString library jsonStr = (.error error, after) →
        after = config := by
  intro atomic
  have same := atomic (readsOnly mixedText mixedJson) mixedText {} .configInvalidValue
    { server := { listenPort := 9000 } } rfl
  have port := congrArg (fun config => config.server.listenPort) same
  exact absurd port (by decide)

/-! ## Writing and loading again -/

namespace FieldKind

/-- Strings that are text. -/
def ValidUtf8 : (kind : FieldKind) → kind.Value → Prop
  | .string, value => Json.validUtf8 value = true
  | .strings, values => ∀ value ∈ values, Json.validUtf8 value = true
  | .stringMap, map => ∀ entry ∈ map.toList,
      Json.validUtf8 entry.1 = true ∧ Json.validUtf8 entry.2 = true
  | .uint16, _ | .uint32, _ | .boolean, _ => True

theorem utf8_toJson {kind : FieldKind} {value : kind.Value} (valid : kind.ValidUtf8 value) :
    (kind.toJson value).Utf8 := by
  cases kind with
  | string => exact Json.Utf8.string valid
  | uint16 | uint32 => exact Json.Utf8.numberUnsigned _
  | boolean => exact Json.Utf8.boolean _
  | strings => exact Json.utf8_ofStrings valid
  | stringMap => exact Json.utf8_ofStringMap valid

end FieldKind

def Config.ValidUtf8 (config : Config) : Prop :=
  ∀ field : ConfigField, field.kind.ValidUtf8 (field.read config)

/-- The assignments of `to_json_string`, field by field. -/
def entriesOf (config : Config) : List (Bytes × Bytes × Json) :=
  ConfigField.all.map fun field =>
    (field.parent, field.key, field.kind.toJson (field.read config))

/-- What is written has the fields, in the places where they are looked for. -/
theorem toJson_eq (config : Config) : config.toJson = Json.setAll .null (entriesOf config) :=
  rfl

theorem places_distinct (config : Config) :
    ((entriesOf config).map fun entry => (entry.1, entry.2.1)).Nodup := by
  have distinct : (ConfigField.all.map fun field => (field.parent, field.key)).Nodup := by
    decide +kernel
  rw [entriesOf, List.map_map]
  exact distinct

theorem places_validUtf8 (field : ConfigField) :
    Json.validUtf8 field.parent = true ∧ Json.validUtf8 field.key = true := by
  cases field <;> decide +kernel

/-- The value that is written, with every field found where it is looked for. -/
theorem exists_toJson (config : Config) (library : JsonLibrary) :
    ∃ j, config.toJson = some j ∧ ∀ field,
      ConfigField.given library j field = some (some (field.read config)) := by
  rcases Json.exists_setAll Json.table_null (entriesOf config) (places_distinct config) with
    ⟨j, assigned, found, _⟩
  refine ⟨j, (toJson_eq config).trans assigned, ?_⟩
  intro field
  have place := found _ (List.mem_map_of_mem (ConfigField.mem_all field))
  rw [ConfigField.given, place]
  exact congrArg some (FieldKind.get_toJson library field.kind (field.read config))

theorem utf8_toJson {j : Json} (valid : config.ValidUtf8) (written : config.toJson = some j) :
    j.Utf8 := by
  refine Json.utf8_setAll Json.Utf8.null ?_ ((toJson_eq config).symm.trans written)
  intro entry isEntry
  rcases List.mem_map.mp isEntry with ⟨field, _, rfl⟩
  rcases places_validUtf8 field with ⟨validParent, validKey⟩
  exact ⟨validParent, validKey, FieldKind.utf8_toJson (valid field)⟩

/-- For every configuration of text, and every other one that its text is loaded into. -/
theorem toJsonString_loadFromString (library : JsonLibrary) (config other : Config)
    (valid : config.ValidUtf8)
    (restores : ∀ j : Json, config.toJson = some j → j.Utf8 → j.Restored library 4) :
    ∃ text, config.toJsonString library = .ok text ∧
      other.loadFromString library text = (.ok (), config) := by
  rcases exists_toJson config library with ⟨j, written, given⟩
  rcases restores j written (utf8_toJson valid written) with ⟨text, dumped, parsed⟩
  refine ⟨text, ?_, ?_⟩
  · rw [Config.toJsonString, written, Option.bind_some, dumped]
  · have loaded : parseJsonToConfig library j other = (config, false) := by
      rw [parseJsonToConfig_eq]
      exact FieldSystem.load_eq_of_complete ConfigField.mem_all given
    rw [Config.loadFromString, parsed]
    simp only [loaded]

/-- A configuration with an entry in each of its collections, and its text. -/
def withEntries : Config where
  certificates := { cipherSuites := [ascii "A"] }
  callbacks := { portMapping := (∅ : StringMap).insert (ascii "443") (ascii "a") }

def withEntriesText : Bytes :=
  ascii <|
    "\x7b\n    \"callbacks\": \x7b\n        \"port_mapping\": \x7b\n" ++
    "            \"443\": \"a\"\n        \x7d,\n        \"strategy\": \"port_based\"\n" ++
    "    \x7d,\n    \"certificates\": \x7b\n        \"cert_file\": \"\",\n" ++
    "        \"cert_type\": \"international\",\n        \"cipher_suites\": [\n" ++
    "            \"A\"\n        ],\n        \"key_file\": \"\"\n    \x7d,\n" ++
    "    \"debug\": \x7b\n        \"enabled\": false,\n        \"log_packets\": false\n" ++
    "    \x7d,\n    \"http2\": \x7b\n        \"enabled\": true,\n" ++
    "        \"initial_window_size\": 65535,\n        \"max_concurrent_streams\": 100\n" ++
    "    \x7d,\n    \"logging\": \x7b\n        \"file\": \"\",\n" ++
    "        \"level\": \"INFO\",\n        \"max_files\": 10,\n" ++
    "        \"max_size_mb\": 100\n    \x7d,\n    \"server\": \x7b\n" ++
    "        \"listen_ip\": \"0.0.0.0\",\n        \"listen_port\": 8443,\n" ++
    "        \"thread_count\": 5,\n        \"timeout_seconds\": 30,\n" ++
    "        \"tls_version\": \"both\"\n    \x7d\n\x7d"

def withEntriesJson : Json :=
  .object
    [(ascii "callbacks", .object
        [(ascii "port_mapping", .object [(ascii "443", .string (ascii "a"))]),
          (ascii "strategy", .string (ascii "port_based"))]),
      (ascii "certificates", .object
        [(ascii "cert_file", .string []), (ascii "cert_type", .string (ascii "international")),
          (ascii "cipher_suites", .array [.string (ascii "A")]), (ascii "key_file", .string [])]),
      (ascii "debug", .object
        [(ascii "enabled", .boolean false), (ascii "log_packets", .boolean false)]),
      (ascii "http2", .object
        [(ascii "enabled", .boolean true), (ascii "initial_window_size", .numberUnsigned 65535),
          (ascii "max_concurrent_streams", .numberUnsigned 100)]),
      (ascii "logging", .object
        [(ascii "file", .string []), (ascii "level", .string (ascii "INFO")),
          (ascii "max_files", .numberUnsigned 10), (ascii "max_size_mb", .numberUnsigned 100)]),
      (ascii "server", .object
        [(ascii "listen_ip", .string (ascii "0.0.0.0")),
          (ascii "listen_port", .numberUnsigned 8443), (ascii "thread_count", .numberUnsigned 5),
          (ascii "timeout_seconds", .numberUnsigned 30),
          (ascii "tls_version", .string (ascii "both"))])]

theorem withEntries_validUtf8 : withEntries.ValidUtf8 := by
  intro field
  cases field with
  | portMapping =>
      have entries : withEntries.callbacks.portMapping.toList = [(ascii "443", ascii "a")] := by
        rfl
      intro entry isIn
      rw [ConfigField.read, entries, List.mem_singleton] at isIn
      subst isIn
      exact ⟨rfl, rfl⟩
  | cipherSuites =>
      intro value isIn
      cases List.mem_singleton.mp isIn
      rfl
  | _ => trivial

theorem toJson_withEntries : withEntries.toJson = some withEntriesJson := by
  rfl

theorem readsOnly_restores (text : Bytes) (json : Json) :
    json.Restored (readsOnly text json) 4 := by
  refine ⟨text, rfl, ?_⟩
  simp [readsOnly]

theorem toJsonString_loadFromString_withEntries :
    ∃ text, withEntries.toJsonString (readsOnly withEntriesText withEntriesJson) = .ok text ∧
      Config.loadFromString (readsOnly withEntriesText withEntriesJson) text
        { server := { listenPort := 1 }, callbacks := { strategy := [] } } =
          (.ok (), withEntries) := by
  refine toJsonString_loadFromString _ withEntries _ withEntries_validUtf8 ?_
  intro j written _
  rw [toJson_withEntries] at written
  cases written
  exact readsOnly_restores withEntriesText withEntriesJson

end Utils

end HttpsServerSim
