import HttpsServerSim.Lib.Bytes
import HttpsServerSim.Lib.FieldLoading
import HttpsServerSim.Lib.MapOverlay

/-!
# JSON values

The values of a JSON library, with the conversions to the types of a program, which throw if the
value is of another kind. The members of an object are in the order of its map. Reading a text,
writing a value, and cutting a floating point number to an integer are left to the library.
-/

namespace HttpsServerSim

/-- A number is an integer if it is written with a sign, unsigned without. -/
inductive Json where
  | null
  | boolean (value : Bool)
  | numberInteger (value : Int64)
  | numberUnsigned (value : UInt64)
  | numberFloat (bits : UInt64)
  | string (value : Bytes)
  | array (elements : List Json)
  | object (members : List (Bytes × Json))

/-- `none` is an exception. -/
structure JsonLibrary where
  parse : Bytes → Option Json
  dump : (indent : ℕ) → Json → Option Bytes
  floatToUInt16 : UInt64 → UInt16
  floatToUInt32 : UInt64 → UInt32
  floatToInt32 : UInt64 → Int32

/-- `std::unordered_map<std::string, std::string>`, as a set of entries. -/
abbrev StringMap := Std.ExtTreeMap Bytes Bytes compare

namespace Json

/-! ## Kinds and members -/

def isBoolean : Json → Bool
  | .boolean _ => true
  | _ => false

def isNumber : Json → Bool
  | .numberInteger _ | .numberUnsigned _ | .numberFloat _ => true
  | _ => false

def isString : Json → Bool
  | .string _ => true
  | _ => false

def isArray : Json → Bool
  | .array _ => true
  | _ => false

def isObject : Json → Bool
  | .object _ => true
  | _ => false

/-- `contains` and `operator[]`: a value that is no object has no member. -/
def member (key : Bytes) : Json → Option Json
  | .object members => members.lookup key
  | _ => none

def elements : Json → List Json
  | .array elements => elements
  | _ => []

/-- A member of a member. -/
def nested (parent key : Bytes) (json : Json) : Option Json :=
  (json.member parent).bind (member key)

/-! ## Conversions -/

def getBoolean : Json → Option Bool
  | .boolean value => some value
  | _ => none

def getString : Json → Option Bytes
  | .string value => some value
  | _ => none

def getStrings : Json → Option (List Bytes)
  | .array elements => elements.mapM getString
  | _ => none

def getStringMap : Json → Option StringMap
  | .object members =>
      (members.mapM fun (entry : Bytes × Json) =>
        entry.2.getString.map fun value => (entry.1, value)).map (OrderedMap.storeAll ∅)
  | _ => none

/-- Numbers and booleans are cast. -/
def getUInt16 (library : JsonLibrary) : Json → Option UInt16
  | .numberUnsigned value => some value.toUInt16
  | .numberInteger value => some value.toUInt64.toUInt16
  | .numberFloat bits => some (library.floatToUInt16 bits)
  | .boolean value => some (if value then 1 else 0)
  | _ => none

def getUInt32 (library : JsonLibrary) : Json → Option UInt32
  | .numberUnsigned value => some value.toUInt32
  | .numberInteger value => some value.toUInt64.toUInt32
  | .numberFloat bits => some (library.floatToUInt32 bits)
  | .boolean value => some (if value then 1 else 0)
  | _ => none

def getInt32 (library : JsonLibrary) : Json → Option Int32
  | .numberUnsigned value => some value.toUInt32.toInt32
  | .numberInteger value => some value.toInt32
  | .numberFloat bits => some (library.floatToInt32 bits)
  | .boolean value => some (if value then 1 else 0)
  | _ => none

def ofStrings (values : List Bytes) : Json :=
  .array (values.map .string)

def ofStringMap (map : StringMap) : Json :=
  .object (map.toList.map fun entry => (entry.1, .string entry.2))

theorem getUInt16_ofUInt16 (library : JsonLibrary) (value : UInt16) :
    getUInt16 library (.numberUnsigned value.toUInt64) = some value := by
  simp [getUInt16]

theorem getUInt32_ofUInt32 (library : JsonLibrary) (value : UInt32) :
    getUInt32 library (.numberUnsigned value.toUInt64) = some value := by
  simp [getUInt32]

theorem getStrings_ofStrings (values : List Bytes) :
    getStrings (ofStrings values) = some values := by
  unfold getStrings ofStrings
  induction values with
  | nil => rfl
  | cons value values ih => simp only [List.map_cons, List.mapM_cons, ih]; rfl

theorem getStringMap_ofStringMap (map : StringMap) : getStringMap (ofStringMap map) = some map := by
  have entries : ∀ entries : List (Bytes × Bytes),
      (entries.map fun entry => (entry.1, Json.string entry.2)).mapM
        (fun entry => entry.2.getString.map fun value => (entry.1, value)) = some entries := by
    intro entries
    induction entries with
    | nil => rfl
    | cons entry entries ih => simp only [List.map_cons, List.mapM_cons, ih]; rfl
  unfold getStringMap ofStringMap
  simp only [entries, Option.map_some]
  exact congrArg some (MapOverlay.overlay_empty_left map)

/-! ## Assignments of members -/

/-- The member is put into its place, over one that is there. -/
def insertMember (key : Bytes) (value : Json) : List (Bytes × Json) → List (Bytes × Json)
  | [] => [(key, value)]
  | entry :: members =>
      if key = entry.1 then (key, value) :: members
      else if compare key entry.1 = .lt then (key, value) :: entry :: members
      else entry :: insertMember key value members

/-- `json[key] = value`, where null becomes an object. -/
def setMember (json : Json) (key : Bytes) (value : Json) : Option Json :=
  match json with
  | .null => some (.object (insertMember key value []))
  | .object members => some (.object (insertMember key value members))
  | _ => none

/-- `json[parent][key] = value`. -/
def setNested (json : Json) (parent key : Bytes) (value : Json) : Option Json :=
  (((json.member parent).getD .null).setMember key value).bind fun inner =>
    json.setMember parent inner

/-- Assignments one after the other. -/
def setAll : Json → List (Bytes × Bytes × Json) → Option Json
  | json, [] => some json
  | json, (parent, key, value) :: entries =>
      (json.setNested parent key value).bind fun json => json.setAll entries

theorem lookup_cons (other : Bytes) (entry : Bytes × Json) (members : List (Bytes × Json)) :
    (entry :: members).lookup other =
      if other = entry.1 then some entry.2 else members.lookup other := by
  rcases entry with ⟨key, value⟩
  by_cases same : other = key
  · simp [same]
  · have differ : (other == key) = false := beq_eq_false_iff_ne.mpr same
    simp only [List.lookup_cons, differ, same, if_false]

theorem lookup_insertMember (key other : Bytes) (value : Json) (members : List (Bytes × Json)) :
    (insertMember key value members).lookup other =
      if other = key then some value else members.lookup other := by
  induction members with
  | nil => rw [insertMember, lookup_cons]
  | cons entry members ih =>
      unfold insertMember
      rw [lookup_cons other entry]
      split
      next here =>
        rw [lookup_cons, ← here]
        split
        · rfl
        · rfl
      next elsewhere =>
        split
        · rw [lookup_cons, lookup_cons]
        · rw [lookup_cons, ih]
          by_cases same : other = key
          · subst same
            simp [elsewhere]
          · simp [same]

theorem member_setMember {key other : Bytes} {value json after : Json}
    (assigned : json.setMember key value = some after) :
    after.member other = if other = key then some value else json.member other := by
  cases json with
  | null =>
      cases assigned
      rw [member, lookup_insertMember]
      rfl
  | object members =>
      cases assigned
      rw [member, lookup_insertMember]
      rfl
  | boolean _ | numberInteger _ | numberUnsigned _ | numberFloat _ | string _ | array _ =>
      cases assigned

/-- An object of objects, or null. -/
structure Table (json : Json) : Prop where
  assignable : json = .null ∨ ∃ members, json = .object members
  parents : ∀ parent inner, json.member parent = some inner → ∃ members, inner = .object members

theorem table_null : Table .null := ⟨Or.inl rfl, nofun⟩

theorem exists_setMember {json : Json} (key : Bytes) (value : Json)
    (assignable : json = .null ∨ ∃ members, json = .object members) :
    ∃ members, json.setMember key value = some (.object members) := by
  rcases assignable with rfl | ⟨members, rfl⟩
  · exact ⟨_, rfl⟩
  · exact ⟨_, rfl⟩

/-- One assignment to a table. -/
theorem exists_setNested {json : Json} (table : json.Table) (parent key : Bytes) (value : Json) :
    ∃ after, json.setNested parent key value = some after ∧ after.Table ∧
      ∀ otherParent other, after.nested otherParent other =
        if (otherParent, other) = (parent, key) then some value
        else json.nested otherParent other := by
  have inner : (json.member parent).getD .null = .null ∨
      ∃ members, (json.member parent).getD .null = .object members := by
    cases found : json.member parent with
    | none => exact Or.inl rfl
    | some member => exact Or.inr (table.parents parent member found)
  rcases exists_setMember key value inner with ⟨innerMembers, innerAssigned⟩
  rcases exists_setMember parent (.object innerMembers) table.assignable with ⟨members, assigned⟩
  refine ⟨.object members, ?_, ⟨Or.inr ⟨members, rfl⟩, ?_⟩, ?_⟩
  · rw [setNested, innerAssigned]
    exact assigned
  · intro other found isFound
    rw [member_setMember assigned] at isFound
    split at isFound
    · cases isFound
      exact ⟨innerMembers, rfl⟩
    · exact table.parents other found isFound
  · intro otherParent other
    unfold nested
    rw [member_setMember assigned]
    by_cases sameParent : otherParent = parent
    · subst sameParent
      simp only [if_true, Option.bind_some, member_setMember innerAssigned, Prod.mk.injEq,
        true_and]
      by_cases same : other = key
      · simp [same]
      · simp only [same, if_false]
        cases json.member otherParent <;> rfl
    · simp [sameParent]

/-- All assignments to a table, each to a place of its own. -/
theorem exists_setAll {json : Json} (table : json.Table) (entries : List (Bytes × Bytes × Json))
    (distinct : (entries.map fun entry => (entry.1, entry.2.1)).Nodup) :
    ∃ after, json.setAll entries = some after ∧
      (∀ entry ∈ entries, after.nested entry.1 entry.2.1 = some entry.2.2) ∧
        ∀ parent key, (parent, key) ∉ entries.map (fun entry => (entry.1, entry.2.1)) →
          after.nested parent key = json.nested parent key := by
  induction entries generalizing json with
  | nil => exact ⟨json, rfl, nofun, fun _ _ _ => rfl⟩
  | cons entry entries ih =>
      rcases entry with ⟨parent, key, value⟩
      rw [List.map_cons, List.nodup_cons] at distinct
      rcases distinct with ⟨notLater, laterDistinct⟩
      rcases exists_setNested table parent key value with ⟨next, assigned, nextTable, nested⟩
      rcases ih nextTable laterDistinct with ⟨after, later, found, kept⟩
      refine ⟨after, ?_, ?_, ?_⟩
      · rw [setAll, assigned]
        exact later
      · rw [List.forall_mem_cons]
        refine ⟨?_, found⟩
        rw [kept parent key notLater, nested, if_pos rfl]
      · intro otherParent other absent
        rw [List.map_cons, List.mem_cons, not_or] at absent
        rw [kept otherParent other absent.2, nested, if_neg absent.1]

/-! ## Text -/

def validUtf8 (text : Bytes) : Bool :=
  (ByteArray.mk text.toArray).validateUTF8

/-- A value that can be written: its strings and keys are text. -/
inductive Utf8 : Json → Prop where
  | null : Utf8 .null
  | boolean (value : Bool) : Utf8 (.boolean value)
  | numberInteger (value : Int64) : Utf8 (.numberInteger value)
  | numberUnsigned (value : UInt64) : Utf8 (.numberUnsigned value)
  | numberFloat (bits : UInt64) : Utf8 (.numberFloat bits)
  | string {value : Bytes} (valid : validUtf8 value = true) : Utf8 (.string value)
  | array {elements : List Json} (each : ∀ element ∈ elements, Utf8 element) :
      Utf8 (.array elements)
  | object {members : List (Bytes × Json)} (keys : ∀ entry ∈ members, validUtf8 entry.1 = true)
      (values : ∀ entry ∈ members, Utf8 entry.2) : Utf8 (.object members)

/-- The value is written, and reading the text gives it back. -/
def Restored (library : JsonLibrary) (indent : ℕ) (json : Json) : Prop :=
  ∃ text, library.dump indent json = some text ∧ library.parse text = some json

theorem utf8_ofStrings {values : List Bytes} (valid : ∀ value ∈ values, validUtf8 value = true) :
    (ofStrings values).Utf8 := by
  apply Utf8.array
  intro element isIn
  rcases List.mem_map.mp isIn with ⟨value, isValue, rfl⟩
  exact Utf8.string (valid value isValue)

theorem utf8_ofStringMap {map : StringMap}
    (valid : ∀ entry ∈ map.toList, validUtf8 entry.1 = true ∧ validUtf8 entry.2 = true) :
    (ofStringMap map).Utf8 := by
  apply Utf8.object
  · intro member isIn
    rcases List.mem_map.mp isIn with ⟨entry, isEntry, rfl⟩
    exact (valid entry isEntry).1
  · intro member isIn
    rcases List.mem_map.mp isIn with ⟨entry, isEntry, rfl⟩
    exact Utf8.string (valid entry isEntry).2

theorem mem_insertMember {key : Bytes} {value : Json} {members : List (Bytes × Json)}
    {entry : Bytes × Json} (isIn : entry ∈ insertMember key value members) :
    entry = (key, value) ∨ entry ∈ members := by
  induction members with
  | nil => exact Or.inl (List.mem_singleton.mp isIn)
  | cons first members ih =>
      unfold insertMember at isIn
      split at isIn
      · rcases List.mem_cons.mp isIn with here | later
        · exact Or.inl here
        · exact Or.inr (List.mem_cons_of_mem _ later)
      · split at isIn
        · exact List.mem_cons.mp isIn
        · rcases List.mem_cons.mp isIn with rfl | later
          · exact Or.inr List.mem_cons_self
          · rcases ih later with here | older
            · exact Or.inl here
            · exact Or.inr (List.mem_cons_of_mem _ older)

theorem utf8_insertMember {key : Bytes} {value : Json} {members : List (Bytes × Json)}
    (utf8 : (Json.object members).Utf8) (validKey : validUtf8 key = true)
    (validValue : value.Utf8) : (Json.object (insertMember key value members)).Utf8 := by
  cases utf8 with
  | object keys values =>
      apply Utf8.object
      · intro entry isIn
        rcases mem_insertMember isIn with rfl | older
        · exact validKey
        · exact keys entry older
      · intro entry isIn
        rcases mem_insertMember isIn with rfl | older
        · exact validValue
        · exact values entry older

theorem utf8_setMember {json after value : Json} {key : Bytes} (utf8 : json.Utf8)
    (validKey : validUtf8 key = true) (validValue : value.Utf8)
    (assigned : json.setMember key value = some after) : after.Utf8 := by
  cases json with
  | null =>
      cases assigned
      exact utf8_insertMember (Utf8.object nofun nofun) validKey validValue
  | object members =>
      cases assigned
      exact utf8_insertMember utf8 validKey validValue
  | boolean _ | numberInteger _ | numberUnsigned _ | numberFloat _ | string _ | array _ =>
      cases assigned

theorem utf8_member {json found : Json} {key : Bytes} (utf8 : json.Utf8)
    (isMember : json.member key = some found) : found.Utf8 := by
  cases utf8 with
  | object keys values =>
      rcases List.lookup_eq_some_iff.mp isMember with ⟨before, after, rfl, _⟩
      exact values (key, found) (by simp)
  | null | boolean _ | numberInteger _ | numberUnsigned _ | numberFloat _ | string _ | array _ =>
      cases isMember

/-- Assignments of text leave text. -/
theorem utf8_setAll {json after : Json} {entries : List (Bytes × Bytes × Json)} (utf8 : json.Utf8)
    (valid : ∀ entry ∈ entries, validUtf8 entry.1 = true ∧ validUtf8 entry.2.1 = true ∧
      entry.2.2.Utf8)
    (assigned : json.setAll entries = some after) : after.Utf8 := by
  induction entries generalizing json with
  | nil =>
      cases assigned
      exact utf8
  | cons entry entries ih =>
      rcases entry with ⟨parent, key, value⟩
      rcases List.forall_mem_cons.mp valid with ⟨⟨validParent, validKey, validValue⟩, later⟩
      rcases Option.bind_eq_some_iff.mp assigned with ⟨next, nested, rest⟩
      rcases Option.bind_eq_some_iff.mp nested with ⟨inner, innerAssigned, outerAssigned⟩
      have innerBefore : ((json.member parent).getD .null).Utf8 := by
        cases isMember : json.member parent with
        | none => exact Utf8.null
        | some found => exact utf8_member utf8 isMember
      have innerAfter := utf8_setMember innerBefore validKey validValue innerAssigned
      exact ih (utf8_setMember utf8 validParent innerAfter outerAssigned) later rest

/-! ## Members of a kind -/

universe u v

variable {State : Type u} {Value : Type v}

/-- `if (json.contains(key) && json[key].is_kind()) load(json[key]);` -/
def whenMember (json : Json) (key : Bytes) (kind : Json → Bool) (load : Json → Loader State) :
    Loader State :=
  match json.member key with
  | some found => if kind found then load found else Loader.skip
  | none => Loader.skip

/-- The same with `field = json[key].get<T>();`. -/
def takeField (json : Json) (key : Bytes) (kind : Json → Bool) (get : Json → Option Value)
    (write : Value → State → State) : Loader State :=
  json.whenMember key kind fun found => Loader.assign (get found) write

/-- A member of the kind is loaded; without one nothing changes. -/
structure LoadsMember (json : Json) (key : Bytes) (kind : Json → Bool)
    (Loaded : Json → Value → Value → Prop) (before after : Value) : Prop where
  present : ∀ found, json.member key = some found → kind found = true → Loaded found before after
  absent : (∀ found, json.member key = some found → kind found = false) → after = before

/-- The value is what the conversion gives. -/
abbrev Takes (json : Json) (key : Bytes) (kind : Json → Bool) (get : Json → Option Value) :
    Value → Value → Prop :=
  json.LoadsMember key kind fun found _ after => get found = some after

variable {json : Json} {key : Bytes} {kind : Json → Bool} {get : Json → Option Value}
  {Loaded : Json → Value → Value → Prop} {before after other : Value}

/-- What is loaded depends on the JSON value and on the state before, and a second time changes
nothing. -/
structure Settles (Loaded : Json → Value → Value → Prop) : Prop where
  again : ∀ {found before after}, Loaded found before after → Loaded found after after
  unique : ∀ {found before after other}, Loaded found before after → Loaded found before other →
    after = other

theorem get_settles (get : Json → Option Value) :
    Settles fun found (_ after : Value) => get found = some after where
  again := id
  unique := by
    intro found before after other given otherGiven
    rw [given] at otherGiven
    exact Option.some.inj otherGiven

theorem Settles.member (settles : Settles Loaded) (key : Bytes) (kind : Json → Bool) :
    Settles fun json before after => json.LoadsMember key kind Loaded before after where
  again := by
    intro json before after loads
    refine ⟨?_, fun _ => rfl⟩
    intro found isMember isKind
    exact settles.again (loads.present found isMember isKind)
  unique := by
    intro json before after other loads otherLoads
    by_cases absent : ∀ found, json.member key = some found → kind found = false
    · rw [loads.absent absent, otherLoads.absent absent]
    · simp only [not_forall, Bool.not_eq_false] at absent
      rcases absent with ⟨found, isMember, isKind⟩
      exact settles.unique (loads.present found isMember isKind)
        (otherLoads.present found isMember isKind)

theorem Takes.again (takes : json.Takes key kind get before after) :
    json.Takes key kind get after after :=
  ((get_settles get).member key kind).again takes

theorem Takes.unique (takes : json.Takes key kind get before after)
    (otherTakes : json.Takes key kind get before other) : after = other :=
  ((get_settles get).member key kind).unique takes otherTakes

theorem LoadsMember.of_present {found : Json} (isMember : json.member key = some found)
    (isKind : kind found = true) (loaded : Loaded found before after) :
    json.LoadsMember key kind Loaded before after where
  present := by
    intro same isSame _
    rw [isMember] at isSame
    cases isSame
    exact loaded
  absent := by
    intro absent
    rw [absent found isMember] at isKind
    cases isKind

theorem LoadsMember.of_absent
    (absent : ∀ found, json.member key = some found → kind found = false) :
    json.LoadsMember key kind Loaded before before where
  present := by
    intro found isMember isKind
    rw [absent found isMember] at isKind
    cases isKind
  absent := fun _ => rfl

/-- There is a member of the kind, or nothing happens. -/
theorem whenMember_cases (json : Json) (key : Bytes) (kind : Json → Bool)
    (load : Json → Loader State) :
    ((∀ found, json.member key = some found → kind found = false) ∧
      json.whenMember key kind load = Loader.skip) ∨
        ∃ found, json.member key = some found ∧ kind found = true ∧
          json.whenMember key kind load = load found := by
  unfold whenMember
  cases isMember : json.member key with
  | none => exact Or.inl ⟨nofun, rfl⟩
  | some found =>
      cases isKind : kind found with
      | false =>
          refine Or.inl ⟨?_, by simp [isKind]⟩
          intro same isSame
          cases isSame
          exact isKind
      | true => exact Or.inr ⟨found, rfl, isKind, by simp [isKind]⟩

/-- A loader that starts with a part that loads without a throw. -/
theorem all_whenMember {load : Json → Loader Value} {write : Value → State → State}
    {loaders : List (Loader State)} {Final : State → Prop} {state : State} (part : State → Value)
    (loads : ∀ found, kind found = true →
      ∃ after, load found (part state) = (after, false) ∧ Loaded found (part state) after)
    (same : write (part state) state = state)
    (later : ∀ value, json.LoadsMember key kind Loaded (part state) value →
      ∃ final, Loader.all loaders (write value state) = (final, false) ∧ Final final) :
    ∃ final, Loader.all
        (json.whenMember key kind (fun found => Loader.onPart part write (load found)) :: loaders)
        state = (final, false) ∧ Final final := by
  rcases json.whenMember_cases key kind fun found => Loader.onPart part write (load found) with
    ⟨absent, skips⟩ | ⟨found, isMember, isKind, loading⟩
  · rcases later (part state) (LoadsMember.of_absent absent) with ⟨final, loaded, holds⟩
    refine ⟨final, ?_, holds⟩
    rw [Loader.all, Loader.andThen_of_done (by rw [skips]; rfl), ← loaded, same]
  · rcases loads found isKind with ⟨value, done, isLoaded⟩
    rcases later value (LoadsMember.of_present isMember isKind isLoaded) with
      ⟨final, loaded, holds⟩
    refine ⟨final, ?_, holds⟩
    rw [Loader.all, Loader.andThen_of_done (by rw [loading, Loader.onPart, done]), loaded]

/-- A loader that starts with a field whose conversion does not throw on the kind. -/
theorem all_takeField {write : Value → State → State} {loaders : List (Loader State)}
    {Final : State → Prop} {state : State} (part : State → Value)
    (converts : ∀ found, kind found = true → (get found).isSome)
    (same : write (part state) state = state)
    (later : ∀ value, json.Takes key kind get (part state) value →
      ∃ final, Loader.all loaders (write value state) = (final, false) ∧ Final final) :
    ∃ final, Loader.all (json.takeField key kind get write :: loaders) state = (final, false) ∧
      Final final := by
  rcases json.whenMember_cases key kind fun found => Loader.assign (get found) write with
    ⟨absent, skips⟩ | ⟨found, isMember, isKind, loading⟩
  · rcases later (part state) (LoadsMember.of_absent absent) with ⟨final, loaded, holds⟩
    refine ⟨final, ?_, holds⟩
    rw [Loader.all, Loader.andThen_of_done (by rw [takeField, skips]; rfl), ← loaded, same]
  · rcases Option.isSome_iff_exists.mp (converts found isKind) with ⟨value, given⟩
    rcases later value (LoadsMember.of_present isMember isKind given) with ⟨final, loaded, holds⟩
    refine ⟨final, ?_, holds⟩
    rw [Loader.all, Loader.andThen_of_done (by rw [takeField, loading, given]; rfl), loaded]

theorem isSome_getBoolean {found : Json} (isKind : found.isBoolean = true) :
    found.getBoolean.isSome := by
  cases found <;> first | rfl | cases isKind

theorem isSome_getString {found : Json} (isKind : found.isString = true) :
    found.getString.isSome := by
  cases found <;> first | rfl | cases isKind

theorem isSome_getUInt16 (library : JsonLibrary) {found : Json} (isKind : found.isNumber = true) :
    (found.getUInt16 library).isSome := by
  cases found <;> first | rfl | cases isKind

theorem isSome_getUInt32 (library : JsonLibrary) {found : Json} (isKind : found.isNumber = true) :
    (found.getUInt32 library).isSome := by
  cases found <;> first | rfl | cases isKind

theorem isSome_getInt32 (library : JsonLibrary) {found : Json} (isKind : found.isNumber = true) :
    (found.getInt32 library).isSome := by
  cases found <;> first | rfl | cases isKind

end Json

end HttpsServerSim
