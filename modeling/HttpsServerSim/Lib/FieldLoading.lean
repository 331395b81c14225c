import Mathlib.Data.List.Forall2
import Mathlib.Data.List.TakeWhile

/-!
# Records that are loaded field by field

A loader changes a state and may throw in the middle; what it has changed until then stays
changed. A record is seen through its fields: each has a type, is read and written, and a write
leaves the other fields as they are. An input gives for each field nothing, a value, or a
conversion that throws.
-/

namespace HttpsServerSim

universe u v w

/-- What is left of the state, and whether the code threw. -/
abbrev Loader (State : Type u) := State → State × Bool

namespace Loader

variable {State : Type u}

def skip : Loader State := fun state => (state, false)

def andThen (first second : Loader State) : Loader State := fun state =>
  match first state with
  | (after, true) => (after, true)
  | (after, false) => second after

def all : List (Loader State) → Loader State
  | [] => skip
  | loader :: loaders => loader.andThen (all loaders)

/-- Assigns what a conversion gives. -/
def assign {Value : Type v} (converted : Option Value) (write : Value → State → State) :
    Loader State := fun state =>
  match converted with
  | some value => (write value state, false)
  | none => (state, true)

/-- Loads a part of the state. -/
def onPart {Part : Type v} (part : State → Part) (write : Part → State → State)
    (loader : Loader Part) : Loader State := fun state =>
  let loaded := loader (part state)
  (write loaded.1 state, loaded.2)

/-- Loads one new element after the other and pushes it back. -/
def pushEach {Source : Type v} (initial : State) (loader : Source → Loader State) :
    List Source → Loader (List State)
  | [], elements => (elements, false)
  | source :: sources, elements =>
      match loader source initial with
      | (_, true) => (elements, true)
      | (element, false) => pushEach initial loader sources (elements ++ [element])

theorem andThen_of_done {first second : Loader State} {state after : State}
    (done : first state = (after, false)) : first.andThen second state = second after := by
  rw [andThen, done]

theorem all_append (first second : List (Loader State)) :
    all (first ++ second) = (all first).andThen (all second) := by
  induction first with
  | nil => rfl
  | cons loader first ih =>
      rw [List.cons_append, all, all, ih]
      funext state
      unfold andThen
      rcases loader state with ⟨after, _ | _⟩ <;> rfl

theorem andThen_skip (loader : Loader State) : loader.andThen skip = loader := by
  funext state
  unfold andThen
  rcases loader state with ⟨after, _ | _⟩ <;> rfl

theorem all_eq_skip {loaders : List (Loader State)} (skips : ∀ loader ∈ loaders, loader = skip) :
    all loaders = skip := by
  induction loaders with
  | nil => rfl
  | cons loader loaders ih =>
      rw [List.forall_mem_cons] at skips
      rw [all, skips.1, ih skips.2, andThen_skip]

/-- Elements that are loaded without a throw, each as it should be. -/
theorem pushEach_spec {Source : Type v} {initial : State} {loader : Source → Loader State}
    {Loaded : Source → State → Prop}
    (loads : ∀ source, ∃ element, loader source initial = (element, false) ∧ Loaded source element)
    (sources : List Source) (elements : List State) :
    ∃ loaded, pushEach initial loader sources elements = (elements ++ loaded, false) ∧
      List.Forall₂ Loaded sources loaded := by
  induction sources generalizing elements with
  | nil => exact ⟨[], by simp [pushEach], List.Forall₂.nil⟩
  | cons source sources ih =>
      rcases loads source with ⟨element, done, isLoaded⟩
      rcases ih (elements ++ [element]) with ⟨loaded, pushed, areLoaded⟩
      refine ⟨element :: loaded, ?_, List.Forall₂.cons isLoaded areLoaded⟩
      rw [pushEach, done]
      simp only [pushed, List.append_assoc, List.singleton_append]

end Loader

/-! ## Records as fields -/

structure FieldSystem (State : Type u) (Field : Type v) where
  Value : Field → Type w
  read : (field : Field) → State → Value field
  write : (field : Field) → Value field → State → State
  read_write : ∀ field value state, read field (write field value state) = value
  read_write_of_ne : ∀ {field other} value state, field ≠ other →
    read field (write other value state) = read field state
  ext : ∀ {state other}, (∀ field, read field state = read field other) → state = other

namespace FieldSystem

variable {State : Type u} {Field : Type v} (system : FieldSystem.{u, v, w} State Field)

/-- Nothing, or a conversion, which may throw. -/
abbrev Input := (field : Field) → Option (Option (system.Value field))

/-- One assignment after the other, for the fields in the input. -/
def load (input : system.Input) (fields : List Field) : Loader State :=
  Loader.all (fields.map fun field =>
    match input field with
    | none => Loader.skip
    | some converted => Loader.assign converted (system.write field))

/-- What the input gives for a field, or what is there. -/
def settled (input : system.Input) (state : State) (field : Field) : system.Value field :=
  match input field with
  | some (some value) => value
  | _ => system.read field state

variable {system} {input : system.Input} {field : Field} {fields : List Field}
  {state other : State}

/-- The field is not one whose conversion throws. -/
def Converts (input : system.Input) (field : Field) : Bool :=
  match input field with
  | some none => false
  | _ => true

theorem write_read (field : Field) (state : State) :
    system.write field (system.read field state) state = state := by
  apply system.ext
  intro seen
  by_cases same : seen = field
  · subst same
    exact system.read_write _ _ _
  · exact system.read_write_of_ne _ _ same

theorem load_cons_of_absent (absent : input field = none) :
    system.load input (field :: fields) state = system.load input fields state := by
  simp only [load, List.map_cons, Loader.all, absent]
  rfl

theorem load_cons_of_throws (throws : input field = some none) :
    system.load input (field :: fields) state = (state, true) := by
  simp only [load, List.map_cons, Loader.all, throws]
  rfl

theorem load_cons_of_value {value : system.Value field} (found : input field = some (some value)) :
    system.load input (field :: fields) state =
      system.load input fields (system.write field value state) := by
  simp only [load, List.map_cons, Loader.all, found]
  rfl

theorem load_append (first second : List Field) :
    system.load input (first ++ second) =
      (system.load input first).andThen (system.load input second) := by
  rw [load, List.map_append, Loader.all_append]
  rfl

/-- Loading throws if the conversion of a field in the input does. -/
theorem load_threw_iff :
    (system.load input fields state).2 = true ↔ ∃ field ∈ fields, input field = some none := by
  induction fields generalizing state with
  | nil => simp [load, Loader.all, Loader.skip]
  | cons field fields ih =>
      match given : input field with
      | none => rw [load_cons_of_absent given, ih]; simp [given]
      | some none => rw [load_cons_of_throws given]; simp [given]
      | some (some value) => rw [load_cons_of_value given, ih]; simp [given]

theorem read_load_of_not_mem (absent : field ∉ fields) :
    system.read field (system.load input fields state).1 = system.read field state := by
  induction fields generalizing state with
  | nil => rfl
  | cons other fields ih =>
      rw [List.mem_cons, not_or] at absent
      rcases absent with ⟨different, later⟩
      match given : input other with
      | none => rw [load_cons_of_absent given, ih later]
      | some none => rw [load_cons_of_throws given]
      | some (some value) =>
          rw [load_cons_of_value given, ih later, system.read_write_of_ne _ _ different]

/-- A load without a throw settles every field. -/
theorem read_load_of_done (done : (system.load input fields state).2 = false)
    (isIn : field ∈ fields) :
    system.read field (system.load input fields state).1 = system.settled input state field := by
  induction fields generalizing state with
  | nil => cases isIn
  | cons first fields ih =>
      match given : input first with
      | none =>
          rw [load_cons_of_absent given] at done ⊢
          by_cases later : field ∈ fields
          · exact ih done later
          · have here : field = first := by simpa [later] using isIn
            subst here
            simp [read_load_of_not_mem later, settled, given]
      | some none =>
          rw [load_cons_of_throws given] at done
          cases done
      | some (some value) =>
          rw [load_cons_of_value given] at done ⊢
          by_cases here : field = first
          · subst here
            by_cases later : field ∈ fields
            · simp [ih done later, settled, given]
            · simp [read_load_of_not_mem later, system.read_write, settled, given]
          · have later : field ∈ fields := by simpa [here] using isIn
            -- The assignment to the first field changes no other.
            simp [ih done later, settled, system.read_write_of_ne value state here]

/-- Loading leaves the state as it is if every value that it assigns is there already. The fields
behind one that throws are not assigned. -/
theorem load_unchanged_iff (nodup : fields.Nodup) :
    (system.load input fields state).1 = state ↔
      ∀ field ∈ fields.takeWhile (Converts input), ∀ value, input field = some (some value) →
        value = system.read field state := by
  induction fields generalizing state with
  | nil => simp [load, Loader.all, Loader.skip]
  | cons field fields ih =>
      rcases List.nodup_cons.mp nodup with ⟨notLater, laterNodup⟩
      match given : input field with
      | none =>
          have converts : Converts input field = true := by simp [Converts, given]
          rw [load_cons_of_absent given, ih laterNodup, List.takeWhile_cons_of_pos converts,
            List.forall_mem_cons]
          simp [given]
      | some none =>
          have throws : ¬Converts input field = true := by simp [Converts, given]
          rw [load_cons_of_throws given, List.takeWhile_cons_of_neg throws]
          simp
      | some (some value) =>
          have converts : Converts input field = true := by simp [Converts, given]
          rw [load_cons_of_value given, List.takeWhile_cons_of_pos converts, List.forall_mem_cons]
          refine ⟨?_, ?_⟩
          · intro unchanged
            -- No later assignment can put the value back.
            have kept : system.read field
                (system.load input fields (system.write field value state)).1 =
                system.read field (system.write field value state) :=
              read_load_of_not_mem notLater
            rw [unchanged, system.read_write] at kept
            subst kept
            rw [write_read] at unchanged
            refine ⟨?_, (ih laterNodup).mp unchanged⟩
            intro other same
            rw [given] at same
            exact (Option.some.inj (Option.some.inj same)).symm
          · rintro ⟨own, later⟩
            have same := own value given
            subst same
            rw [write_read]
            exact (ih laterNodup).mpr later

/-- An input that has every field of a record makes any other equal to it. -/
theorem load_eq_of_complete (complete : ∀ field, field ∈ fields)
    (given : ∀ field, input field = some (some (system.read field other))) :
    system.load input fields state = (other, false) := by
  have reads : ∀ (fields : List Field) (state : State),
      (system.load input fields state).2 = false ∧ ∀ field ∈ fields,
        system.read field (system.load input fields state).1 = system.read field other := by
    intro fields
    induction fields with
    | nil =>
        intro state
        exact ⟨rfl, nofun⟩
    | cons first fields ih =>
        intro state
        rw [load_cons_of_value (given first)]
        rcases ih (system.write first (system.read first other) state) with ⟨done, later⟩
        refine ⟨done, ?_⟩
        rw [List.forall_mem_cons]
        refine ⟨?_, later⟩
        by_cases again : first ∈ fields
        · exact later first again
        · rw [read_load_of_not_mem again, system.read_write]
  rcases reads fields state with ⟨done, read⟩
  apply Prod.ext
  · exact system.ext fun field => read field (complete field)
  · exact done

end FieldSystem

end HttpsServerSim
