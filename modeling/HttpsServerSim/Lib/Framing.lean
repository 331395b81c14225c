import Mathlib.Data.List.Basic

/-!
# Self-delimiting framing

A framing can take a first frame off any input that starts with a complete one,
and does so without looking at what follows it. Reading frame after frame until
none is complete splits an input into whole frames and an incomplete rest. The
two facts used later are that the split recovers what was written
(`parse_flatMap_append`) and that it does not depend on how the input was cut
into pieces (`parse_append`).

Only the writer's side of a round trip is asked for: a reader may accept several
spellings of one frame.
-/

namespace HttpsServerSim

universe u v

/-- A framing of `Frame` values over an alphabet. -/
structure Framing (Symbol : Type u) (Frame : Type v) where
  encode : Frame → List Symbol
  split : List Symbol → Option (Frame × List Symbol)
  split_encode : ∀ frame rest, split (encode frame ++ rest) = some (frame, rest)
  split_append : ∀ {input frame rest}, split input = some (frame, rest) →
    ∀ more, split (input ++ more) = some (frame, rest ++ more)
  length_lt_of_split : ∀ {input frame rest}, split input = some (frame, rest) →
    rest.length < input.length

namespace Framing

variable {Symbol : Type u} {Frame : Type v} (framing : Framing Symbol Frame)

/-- Take frames off the input until none is complete or the fuel is spent. -/
def parseFuel : ℕ → List Symbol → List Frame × List Symbol
  | 0, input => ([], input)
  | fuel + 1, input =>
      match framing.split input with
      | none => ([], input)
      | some (frame, rest) =>
          let parsed := parseFuel fuel rest
          (frame :: parsed.1, parsed.2)

/-- The whole frames at the front of the input, and the incomplete rest. -/
def parse (input : List Symbol) : List Frame × List Symbol :=
  framing.parseFuel input.length input

theorem split_nil : framing.split [] = none := by
  cases found : framing.split [] with
  | none => rfl
  | some result =>
      have shorter := framing.length_lt_of_split found
      simp at shorter

theorem parseFuel_eq_of_le {fuel more : ℕ} {input : List Symbol}
    (enough : input.length ≤ fuel) (le : fuel ≤ more) :
    framing.parseFuel more input = framing.parseFuel fuel input := by
  induction fuel generalizing more input with
  | zero =>
      have : input = [] := List.length_eq_zero_iff.mp (by omega)
      subst this
      cases more with
      | zero => rfl
      | succ more => simp [parseFuel, framing.split_nil]
  | succ fuel ih =>
      rcases more with _ | more
      · omega
      · simp only [parseFuel]
        cases found : framing.split input with
        | none => rfl
        | some result =>
            have shorter := framing.length_lt_of_split found
            simp only
            rw [ih (by omega) (by omega)]

theorem parse_of_split_none {input : List Symbol} (incomplete : framing.split input = none) :
    framing.parse input = ([], input) := by
  simp only [parse]
  cases input.length with
  | zero => rfl
  | succ fuel => simp [parseFuel, incomplete]

theorem parse_of_split_some {input rest : List Symbol} {frame : Frame}
    (found : framing.split input = some (frame, rest)) :
    framing.parse input = (frame :: (framing.parse rest).1, (framing.parse rest).2) := by
  have shorter := framing.length_lt_of_split found
  rcases length_eq : input.length with _ | fuel
  · omega
  · simp only [parse, length_eq, parseFuel, found]
    rw [framing.parseFuel_eq_of_le (Nat.le_refl _) (by omega : rest.length ≤ fuel)]

@[simp]
theorem parse_nil : framing.parse [] = ([], []) :=
  framing.parse_of_split_none framing.split_nil

/-- Reading back what was written yields the frames written, then those of the rest. -/
theorem parse_flatMap_append (frames : List Frame) (rest : List Symbol) :
    framing.parse (frames.flatMap framing.encode ++ rest) =
      (frames ++ (framing.parse rest).1, (framing.parse rest).2) := by
  induction frames with
  | nil => simp
  | cons frame frames ih =>
      rw [List.flatMap_cons, List.append_assoc,
        framing.parse_of_split_some (framing.split_encode frame _), ih]
      rfl

theorem parse_flatMap (frames : List Frame) :
    framing.parse (frames.flatMap framing.encode) = (frames, []) := by
  simpa using framing.parse_flatMap_append frames []

/-- The rest left by `parse` has no complete frame. -/
theorem split_parse_rest (input : List Symbol) :
    framing.split (framing.parse input).2 = none := by
  induction length_eq : input.length using Nat.strongRecOn generalizing input with
  | ind length ih =>
      cases found : framing.split input with
      | none => rw [framing.parse_of_split_none found, found]
      | some result =>
          have shorter := framing.length_lt_of_split found
          rw [framing.parse_of_split_some found]
          exact ih result.2.length (by omega) result.2 rfl

/-- Reading piece by piece, keeping the incomplete rest, reads the same frames. -/
theorem parse_append (left right : List Symbol) :
    framing.parse (left ++ right) =
      ((framing.parse left).1 ++ (framing.parse ((framing.parse left).2 ++ right)).1,
        (framing.parse ((framing.parse left).2 ++ right)).2) := by
  induction length_eq : left.length using Nat.strongRecOn generalizing left with
  | ind length ih =>
      cases found : framing.split left with
      | none => simp [framing.parse_of_split_none found]
      | some result =>
          have shorter := framing.length_lt_of_split found
          rw [framing.parse_of_split_some (framing.split_append found right),
            framing.parse_of_split_some found, ih result.2.length (by omega) result.2 rfl]
          rfl

section Canonical

/-! A framing with one spelling for each frame. -/

variable (canonical : ∀ {input frame rest}, framing.split input = some (frame, rest) →
  input = framing.encode frame ++ rest)

include canonical

/-- The frames read and the rest make up the input. -/
theorem flatMap_parse_append (input : List Symbol) :
    (framing.parse input).1.flatMap framing.encode ++ (framing.parse input).2 = input := by
  induction length_eq : input.length using Nat.strongRecOn generalizing input with
  | ind length ih =>
      cases found : framing.split input with
      | none => simp [framing.parse_of_split_none found]
      | some result =>
          have shorter := framing.length_lt_of_split found
          have rest := ih result.2.length (by omega) result.2 rfl
          rw [framing.parse_of_split_some found, List.flatMap_cons, List.append_assoc, rest]
          exact (canonical found).symm

/-- Of a list of frames that was cut anywhere, the frames before the cut are read from the first
part, and the rest of it starts the others. -/
theorem exists_later_of_append_eq {first second : List Symbol} {frames : List Frame}
    (cut : first ++ second = frames.flatMap framing.encode) :
    ∃ later, frames = (framing.parse first).1 ++ later ∧
      (framing.parse first).2 ++ second = later.flatMap framing.encode := by
  have whole := framing.parse_append first second
  rw [cut, framing.parse_flatMap, Prod.mk.injEq] at whole
  refine ⟨_, whole.1, ?_⟩
  have rest := framing.flatMap_parse_append canonical ((framing.parse first).2 ++ second)
  rw [← whole.2, List.append_nil] at rest
  exact rest.symm

end Canonical

end Framing

end HttpsServerSim
