import Mathlib.Data.List.Basic

/-!
# A stream in pieces

A stream arrives as a list of pieces. The piece in which a given position of the stream
is reached splits the list in two (`exists_piece_of_flatten_eq`), and what arrived before
it is determined by the position and the lengths of the pieces (`readBefore`). A part of
the stream may arrive within one piece (`Uncut`).
-/

namespace HttpsServerSim

universe u

variable {Symbol : Type u}

/-- What has arrived before the piece that brings symbol number `count`. -/
def readBefore (count : ℕ) : List (List Symbol) → List Symbol
  | [] => []
  | piece :: pieces =>
      if count ≤ piece.length then [] else piece ++ readBefore (count - piece.length) pieces

theorem readBefore_append {count : ℕ} {before : List (List Symbol)} {piece : List Symbol}
    (early : before.flatten.length < count)
    (reached : count ≤ before.flatten.length + piece.length) (after : List (List Symbol)) :
    readBefore count (before ++ piece :: after) = before.flatten := by
  induction before generalizing count with
  | nil =>
      rw [List.flatten_nil, List.length_nil, Nat.zero_add] at reached
      rw [List.nil_append, readBefore, if_pos reached]
      rfl
  | cons first before ih =>
      rw [List.flatten_cons, List.length_append] at early reached
      have later : ¬ count ≤ first.length := by omega
      rw [List.cons_append, readBefore, if_neg later, List.flatten_cons]
      rw [ih (by omega) (by omega)]

/-- The piece in which the first part of the stream becomes complete. -/
theorem exists_piece_of_flatten_eq {pieces : List (List Symbol)} {first rest : List Symbol}
    (nonempty : first ≠ []) (flattenEq : pieces.flatten = first ++ rest) :
    ∃ before piece after missing extra, pieces = before ++ piece :: after ∧
      before.flatten ++ missing = first ∧ missing ≠ [] ∧ piece = missing ++ extra ∧
      rest = extra ++ after.flatten := by
  induction pieces generalizing first with
  | nil =>
      have empty := List.append_eq_nil_iff.mp flattenEq.symm
      exact absurd empty.1 nonempty
  | cons piece pieces ih =>
      rw [List.flatten_cons, List.append_eq_append_iff] at flattenEq
      rcases flattenEq with ⟨missing, firstEq, laterEq⟩ | ⟨extra, pieceEq, restEq⟩
      · by_cases complete : missing = []
        · refine ⟨[], piece, pieces, piece, [], rfl, ?_, ?_, ?_, ?_⟩
          · simp [firstEq, complete]
          · rw [firstEq, complete, List.append_nil] at nonempty
            exact nonempty
          · simp
          · simp [laterEq, complete]
        · rcases ih complete laterEq with
            ⟨before, last, after, part, extra, piecesEq, partEq, partNonempty, lastEq, restEq⟩
          refine ⟨piece :: before, last, after, part, extra, ?_, ?_, partNonempty, lastEq, restEq⟩
          · rw [piecesEq]
            rfl
          · rw [List.flatten_cons, List.append_assoc, partEq, firstEq]
      · exact ⟨[], piece, pieces, first, extra, rfl, rfl, nonempty, pieceEq, restEq⟩

/-- No piece ends between the two positions: what is between them arrives in one piece. -/
def Uncut (pieces : List (List Symbol)) (start stop : ℕ) : Prop :=
  ∀ before after, pieces = before ++ after →
    before.flatten.length ≤ start ∨ stop ≤ before.flatten.length

theorem uncut_of_piece {before after : List (List Symbol)} {piece : List Symbol} {start stop : ℕ}
    (starts : before.flatten.length ≤ start)
    (stops : stop ≤ before.flatten.length + piece.length) :
    Uncut (before ++ piece :: after) start stop := by
  intro front back split
  rcases List.append_eq_append_iff.mp split with ⟨more, frontEq, restEq⟩ | ⟨more, beforeEq, _⟩
  · cases more with
    | nil =>
        left
        rw [frontEq, List.append_nil]
        exact starts
    | cons other more =>
        right
        rw [List.cons_append, List.cons.injEq] at restEq
        rw [frontEq, ← restEq.1, List.flatten_append, List.flatten_cons, List.length_append,
          List.length_append]
        omega
  · left
    rw [beforeEq, List.flatten_append, List.length_append] at starts
    omega

end HttpsServerSim
