import HttpsServerSim.Lib.Framing

/-!
# Prefix codes

A prefix code writes words so that a reader who knows the code sees where a word ends,
whatever follows it. The file has the ways in which such codes are put together: a list of
words up to a stop word, a text whose length is known, and a word that tells how the next
one is written. What is written in a prefix code can be read in one way only
(`encodeAll_injective`).
-/

namespace HttpsServerSim

universe u v w

/-- How words are written. The words that count are the valid ones. -/
structure PrefixCode (Word : Type u) (Letter : Type v) where
  encode : Word → List Letter
  Valid : Word → Prop
  unique : ∀ {word other rest otherRest}, Valid word → Valid other →
    encode word ++ rest = encode other ++ otherRest → word = other

namespace PrefixCode

variable {Word : Type u} {Letter : Type v} (code : PrefixCode Word Letter)

theorem rest_unique {word other : Word} {rest otherRest : List Letter} (valid : code.Valid word)
    (validOther : code.Valid other)
    (same : code.encode word ++ rest = code.encode other ++ otherRest) :
    word = other ∧ rest = otherRest := by
  have words := code.unique valid validOther same
  refine ⟨words, ?_⟩
  rw [words] at same
  exact List.append_cancel_left same

def encodeAll (words : List Word) : List Letter := (words.map code.encode).flatten

theorem encodeAll_cons (word : Word) (words : List Word) :
    code.encodeAll (word :: words) = code.encode word ++ code.encodeAll words :=
  rfl

/-- A text can be read in at most one way, if a word is never written as nothing. -/
theorem encodeAll_injective (nonempty : ∀ word, code.Valid word → code.encode word ≠ [])
    {words others : List Word} (valid : ∀ word ∈ words, code.Valid word)
    (validOthers : ∀ word ∈ others, code.Valid word)
    (same : code.encodeAll words = code.encodeAll others) : words = others := by
  induction words generalizing others with
  | nil =>
      cases others with
      | nil => rfl
      | cons other others =>
          have written := nonempty other (validOthers other List.mem_cons_self)
          exact absurd (List.append_eq_nil_iff.mp same.symm).1 written
  | cons word words ih =>
      rcases List.forall_mem_cons.mp valid with ⟨validWord, validWords⟩
      cases others with
      | nil => exact absurd (List.append_eq_nil_iff.mp same).1 (nonempty word validWord)
      | cons other others =>
          rcases List.forall_mem_cons.mp validOthers with ⟨validOther, validLater⟩
          rw [encodeAll_cons, encodeAll_cons] at same
          rcases code.rest_unique validWord validOther same with ⟨rfl, later⟩
          rw [ih validWords validLater later]

/-- What a framing writes is a prefix code. -/
def ofFraming (framing : Framing Letter Word) : PrefixCode Word Letter where
  encode := framing.encode
  Valid _ := True
  unique := by
    intro word other rest otherRest _ _ same
    have split := framing.split_encode word rest
    rw [same, framing.split_encode, Option.some.injEq, Prod.mk.injEq] at split
    exact split.1.symm

/-- A list of words up to a stop word. -/
def terminated (stop : Word) (validStop : code.Valid stop) : PrefixCode (List Word) Letter where
  encode words := code.encodeAll words ++ code.encode stop
  Valid words := ∀ word ∈ words, code.Valid word ∧ word ≠ stop
  unique := by
    intro words others rest otherRest valid validOthers same
    induction words generalizing others with
    | nil =>
        cases others with
        | nil => rfl
        | cons other others =>
            rcases validOthers other List.mem_cons_self with ⟨validOther, goesOn⟩
            simp only [encodeAll_cons, List.append_assoc] at same
            change code.encode stop ++ rest = _ at same
            exact absurd (code.unique validStop validOther same).symm goesOn
    | cons word words ih =>
        rcases List.forall_mem_cons.mp valid with ⟨⟨validWord, goesOn⟩, validWords⟩
        cases others with
        | nil =>
            simp only [encodeAll_cons, List.append_assoc] at same
            change _ = code.encode stop ++ otherRest at same
            exact absurd (code.unique validWord validStop same) goesOn
        | cons other others =>
            rcases List.forall_mem_cons.mp validOthers with ⟨⟨validOther, _⟩, validLater⟩
            simp only [encodeAll_cons, List.append_assoc] at same
            rcases code.rest_unique validWord validOther same with ⟨rfl, later⟩
            rw [← List.append_assoc, ← List.append_assoc] at later
            rw [ih validWords validLater later]

/-- Texts as they are, where the length is known. -/
def block (Valid : List Letter → Prop)
    (sameLength : ∀ text other, Valid text → Valid other → text.length = other.length) :
    PrefixCode (List Letter) Letter where
  encode := id
  Valid := Valid
  unique := by
    intro text other rest otherRest valid validOther same
    exact (List.append_inj same (sameLength text other valid validOther)).1

/-- A word that tells how the next one is written. -/
def bind {Next : Type w} (next : Word → PrefixCode Next Letter) :
    PrefixCode (Word × Next) Letter where
  encode pair := code.encode pair.1 ++ (next pair.1).encode pair.2
  Valid pair := code.Valid pair.1 ∧ (next pair.1).Valid pair.2
  unique := by
    rintro ⟨word, second⟩ ⟨other, otherSecond⟩ rest otherRest ⟨valid, validSecond⟩
      ⟨validOther, validOtherSecond⟩ same
    rw [List.append_assoc, List.append_assoc] at same
    rcases code.rest_unique valid validOther same with ⟨rfl, later⟩
    exact congrArg (Prod.mk word) ((next word).unique validSecond validOtherSecond later)

end PrefixCode

end HttpsServerSim
