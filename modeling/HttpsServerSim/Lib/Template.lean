import Mathlib.Data.List.Basic
import Mathlib.Data.List.Infix

/-!
# Templates

A template is text with slots, each written as a name that starts with a sigil. Values are filled in
one after the other, each at the first place where its name is found. Where the names can be told
apart and no value but the last one brings in a sigil, all are filled in at once: each value comes
to the first slot of its name, and nothing that was filled in is looked at again.
-/

namespace HttpsServerSim

universe u

inductive Piece (Symbol : Type u) where
  | text (symbols : List Symbol)
  | slot (name : List Symbol)

namespace Template

variable {Symbol : Type u}

def render : List (Piece Symbol) → List Symbol
  | [] => []
  | .text symbols :: pieces => symbols ++ render pieces
  | .slot name :: pieces => name ++ render pieces

variable [DecidableEq Symbol]

/-- The first occurrence of a pattern is replaced. -/
def replaceFirst (pattern value : List Symbol) : List Symbol → List Symbol
  | [] => if pattern.isPrefixOf [] then value else []
  | symbol :: symbols =>
      if pattern.isPrefixOf (symbol :: symbols) then
        value ++ (symbol :: symbols).drop pattern.length
      else symbol :: replaceFirst pattern value symbols

/-- The values that are to be filled in, by their names; each is used once. -/
def fill : List (List Symbol × List Symbol) → List (Piece Symbol) → List Symbol
  | _, [] => []
  | values, .text symbols :: pieces => symbols ++ fill values pieces
  | values, .slot name :: pieces =>
      match values.lookup name with
      | some value => value ++ fill (values.eraseP fun entry => name == entry.1) pieces
      | none => name ++ fill values pieces

/-- The value comes to the first slot of the name. -/
def fillFirst (name value : List Symbol) : List (Piece Symbol) → List (Piece Symbol)
  | [] => []
  | .text symbols :: pieces => .text symbols :: fillFirst name value pieces
  | .slot other :: pieces =>
      if other = name then .text value :: pieces else .slot other :: fillFirst name value pieces

/-- One value after the other. -/
def fillEach (values : List (List Symbol × List Symbol)) (pieces : List (Piece Symbol)) :
    List (Piece Symbol) :=
  values.foldl (fun pieces entry => fillFirst entry.1 entry.2 pieces) pieces

/-- A name starts with the sigil and has no other one. -/
def IsName (sigil : Symbol) (name : List Symbol) : Prop :=
  ∃ letters, name = sigil :: letters ∧ sigil ∉ letters

omit [DecidableEq Symbol] in
theorem isName_iff {sigil : Symbol} {name : List Symbol} :
    IsName sigil name ↔ name.head? = some sigil ∧ sigil ∉ name.tail := by
  cases name with
  | nil => simp [IsName]
  | cons first letters => simp [IsName, eq_comm]

instance (sigil : Symbol) (name : List Symbol) : Decidable (IsName sigil name) :=
  decidable_of_iff _ isName_iff.symm

/-- Neither name is the beginning of the other one. -/
def Apart (name other : List Symbol) : Prop :=
  ¬name <+: other ∧ ¬other <+: name

instance (name other : List Symbol) : Decidable (Apart name other) :=
  inferInstanceAs (Decidable (_ ∧ _))

/-- Only a slot has a sigil, and it can be told from the names. -/
def Readable (sigil : Symbol) (names : List (List Symbol)) : Piece Symbol → Prop
  | .text symbols => sigil ∉ symbols
  | .slot slot => IsName sigil slot ∧ ∀ name ∈ names, slot = name ∨ Apart slot name

instance (sigil : Symbol) (names : List (List Symbol)) :
    DecidablePred (Readable sigil names)
  | .text symbols => inferInstanceAs (Decidable (sigil ∉ symbols))
  | .slot _ => inferInstanceAs (Decidable (_ ∧ _))

def WellFormed (sigil : Symbol) (names : List (List Symbol)) (pieces : List (Piece Symbol)) :
    Prop :=
  ∀ piece ∈ pieces, Readable sigil names piece

instance (sigil : Symbol) (names : List (List Symbol)) (pieces : List (Piece Symbol)) :
    Decidable (WellFormed sigil names pieces) :=
  inferInstanceAs (Decidable (∀ piece ∈ pieces, _))

variable {sigil : Symbol} {names : List (List Symbol)} {pieces : List (Piece Symbol)}
  {name value : List Symbol}

/-! ## One value -/

/-- A stretch without the sigil has nothing to replace. -/
theorem replaceFirst_append (isName : IsName sigil name) {symbols : List Symbol}
    (clean : sigil ∉ symbols) (rest : List Symbol) :
    replaceFirst name value (symbols ++ rest) = symbols ++ replaceFirst name value rest := by
  rcases isName with ⟨letters, rfl, _⟩
  induction symbols with
  | nil => rfl
  | cons symbol symbols ih =>
      rw [List.mem_cons, not_or] at clean
      have notHere : (sigil :: letters).isPrefixOf (symbol :: (symbols ++ rest)) = false := by
        simp [List.isPrefixOf, clean.1]
      rw [List.cons_append, replaceFirst, if_neg (by simp [notHere]), ih clean.2]
      rfl

theorem replaceFirst_here (isName : IsName sigil name) (rest : List Symbol) :
    replaceFirst name value (name ++ rest) = value ++ rest := by
  rcases isName with ⟨letters, rfl, _⟩
  have here : (sigil :: letters).isPrefixOf ((sigil :: letters) ++ rest) = true :=
    List.isPrefixOf_iff_prefix.mpr (List.prefix_append _ _)
  rw [List.cons_append] at here
  rw [List.cons_append, replaceFirst, if_pos here, ← List.cons_append, List.drop_left]

/-- A slot of another name is passed over. -/
theorem replaceFirst_slot (isName : IsName sigil name) {slot : List Symbol}
    (isSlot : IsName sigil slot) (apart : Apart slot name) (rest : List Symbol) :
    replaceFirst name value (slot ++ rest) = slot ++ replaceFirst name value rest := by
  have notHere : ¬name <+: slot ++ rest := by
    intro here
    rcases Nat.le_total name.length slot.length with shorter | longer
    · exact apart.2 (List.prefix_of_prefix_length_le here (List.prefix_append _ _) shorter)
    · exact apart.1 (List.prefix_of_prefix_length_le (List.prefix_append _ _) here longer)
  rcases isSlot with ⟨letters, rfl, clean⟩
  have notPrefix : ¬name.isPrefixOf (sigil :: (letters ++ rest)) = true := by
    rw [List.isPrefixOf_iff_prefix]
    exact notHere
  rw [List.cons_append, replaceFirst, if_neg notPrefix, replaceFirst_append isName clean]
  rfl

theorem replaceFirst_render (isName : IsName sigil name) (known : name ∈ names)
    (wellFormed : WellFormed sigil names pieces) :
    replaceFirst name value (render pieces) = render (fillFirst name value pieces) := by
  induction pieces with
  | nil =>
      rcases isName with ⟨letters, rfl, _⟩
      rfl
  | cons piece pieces ih =>
      have rest := ih fun other member => wellFormed other (List.mem_cons_of_mem _ member)
      have here := wellFormed piece List.mem_cons_self
      cases piece with
      | text symbols => rw [render, replaceFirst_append isName here, rest, fillFirst, render]
      | slot slot =>
          by_cases same : slot = name
          · rw [render, fillFirst, if_pos same, render, same, replaceFirst_here isName]
          · have apart := (here.2 name known).resolve_left same
            rw [render, fillFirst, if_neg same, render, replaceFirst_slot isName here.1 apart, rest]

theorem WellFormed.fillFirst (wellFormed : WellFormed sigil names pieces)
    (clean : sigil ∉ value) : WellFormed sigil names (fillFirst name value pieces) := by
  induction pieces with
  | nil => exact wellFormed
  | cons piece pieces ih =>
      have here := wellFormed piece List.mem_cons_self
      have later : WellFormed sigil names pieces :=
        fun other member => wellFormed other (List.mem_cons_of_mem _ member)
      cases piece with
      | text symbols => exact List.forall_mem_cons.mpr ⟨here, ih later⟩
      | slot slot =>
          rw [Template.fillFirst]
          split_ifs
          · exact List.forall_mem_cons.mpr ⟨clean, later⟩
          · exact List.forall_mem_cons.mpr ⟨here, ih later⟩

/-! ## All values -/

theorem fillEach_nil (values : List (List Symbol × List Symbol)) :
    fillEach values [] = [] := by
  induction values with
  | nil => rfl
  | cons entry values ih => exact ih

theorem fillEach_text (values : List (List Symbol × List Symbol)) (symbols : List Symbol)
    (pieces : List (Piece Symbol)) :
    fillEach values (.text symbols :: pieces) = .text symbols :: fillEach values pieces := by
  induction values generalizing pieces with
  | nil => rfl
  | cons entry values ih => exact ih (fillFirst entry.1 entry.2 pieces)

/-- A slot takes the first value of its name, which is then used up. -/
theorem fillEach_slot (values : List (List Symbol × List Symbol)) (slot : List Symbol)
    (pieces : List (Piece Symbol)) :
    fillEach values (.slot slot :: pieces) =
      match values.lookup slot with
      | some value =>
          .text value :: fillEach (values.eraseP fun entry => slot == entry.1) pieces
      | none => .slot slot :: fillEach values pieces := by
  induction values generalizing pieces with
  | nil => rfl
  | cons entry values ih =>
      rw [fillEach, List.foldl_cons, ← fillEach, fillFirst, List.lookup_cons]
      by_cases same : slot = entry.1
      · rw [if_pos same, fillEach_text, List.eraseP_cons_of_pos (by simp [same])]
        simp [same]
      · have differs : (slot == entry.1) = false := by simpa using same
        rw [if_neg same, ih, differs, List.eraseP_cons_of_neg (by simp [differs])]
        rfl

theorem render_fillEach (values : List (List Symbol × List Symbol))
    (pieces : List (Piece Symbol)) : render (fillEach values pieces) = fill values pieces := by
  induction pieces generalizing values with
  | nil => rw [fillEach_nil, fill, render]
  | cons piece pieces ih =>
      cases piece with
      | text symbols => rw [fillEach_text, render, fill, ih]
      | slot slot =>
          rw [fillEach_slot, fill]
          cases values.lookup slot with
          | some value =>
              simp only [render]
              rw [ih]
          | none =>
              simp only [render]
              rw [ih]

/-- One value after the other is put in, the last of which may be anything. -/
theorem foldl_replaceFirst {values : List (List Symbol × List Symbol)}
    {last : List Symbol × List Symbol}
    (areNames : ∀ name ∈ names, IsName sigil name)
    (known : ∀ entry ∈ values ++ [last], entry.1 ∈ names)
    (clean : ∀ entry ∈ values, sigil ∉ entry.2) (wellFormed : WellFormed sigil names pieces) :
    (values ++ [last]).foldl (fun text entry => replaceFirst entry.1 entry.2 text)
        (render pieces) =
      fill (values ++ [last]) pieces := by
  rw [← render_fillEach]
  induction values generalizing pieces with
  | nil =>
      have isKnown := known last List.mem_cons_self
      exact replaceFirst_render (areNames last.1 isKnown) isKnown wellFormed
  | cons entry values ih =>
      have isKnown := known entry List.mem_cons_self
      rw [List.cons_append, List.foldl_cons,
        replaceFirst_render (areNames entry.1 isKnown) isKnown wellFormed]
      apply ih
      · intro other member
        exact known other (List.mem_cons_of_mem _ member)
      · intro other member
        exact clean other (List.mem_cons_of_mem _ member)
      · exact wellFormed.fillFirst (clean entry List.mem_cons_self)

end Template

end HttpsServerSim
