import HttpsServerSim.Lib.AccessLog
import HttpsServerSim.Lib.ByteMemory
import Mathlib.Data.List.DropRight

/-!
# Scanning memory with a pointer

The two loops that a parser written with pointers is made of: one that goes forward while
the byte under the pointer passes a test, and one that goes back while the byte before it
does. Neither leaves its range, and they split the bytes of the range as `takeWhile`,
`dropWhile` and `rdropWhile` do.
-/

namespace HttpsServerSim

universe u

namespace ByteMemory

variable {Access : Type u} (read : ℕ → Access) (memory : ℕ → UInt8) (test : UInt8 → Bool)

/-- `while (pos < stop && test(memory[pos])) pos++;` -/
def scan (stop : ℕ) : ℕ → ℕ → LoggedRun Access ℕ
  | 0, pos => if pos < stop then none else .done pos
  | rounds + 1, pos =>
      if pos < stop then
        .access (read pos) (if test (memory pos) then scan stop rounds (pos + 1) else .done pos)
      else .done pos

/-- `while (pos > start && test(memory[pos - 1])) pos--;` -/
def scanBack (start : ℕ) : ℕ → ℕ → LoggedRun Access ℕ
  | 0, pos => if start < pos then none else .done pos
  | rounds + 1, pos =>
      if start < pos then
        .access (read (pos - 1))
          (if test (memory (pos - 1)) then scanBack start rounds (pos - 1) else .done pos)
      else .done pos

variable {read memory test} {Allowed : Access → Prop} {start stop rounds pos : ℕ}

/-- Where the forward loop stops: the bytes up to there pass the test, and those from there on start
with one that does not. -/
structure Scanned (memory : ℕ → UInt8) (test : UInt8 → Bool) (pos stop next : ℕ) : Prop where
  le : pos ≤ next
  le_stop : next ≤ stop
  passed : bytesAt memory pos (next - pos) = (bytesAt memory pos (stop - pos)).takeWhile test
  rest : bytesAt memory next (stop - next) = (bytesAt memory pos (stop - pos)).dropWhile test

theorem scanned_end (past : ¬ pos < stop) (inside : pos ≤ stop) :
    Scanned memory test pos stop pos := by
  have same : pos = stop := by omega
  subst same
  refine ⟨le_refl _, le_refl _, ?_, ?_⟩
  · rw [Nat.sub_self]
    rfl
  · rw [Nat.sub_self]
    rfl

theorem scanned_here (inside : pos < stop) (fails : test (memory pos) = false) :
    Scanned memory test pos stop pos := by
  refine ⟨le_refl _, inside.le, ?_, ?_⟩
  · rw [Nat.sub_self, bytesAt_cons memory inside, List.takeWhile_cons_of_neg (by simp [fails])]
    rfl
  · rw [bytesAt_cons memory inside, List.dropWhile_cons_of_neg (by simp [fails])]

theorem Scanned.later {next : ℕ} (inside : pos < stop) (passes : test (memory pos) = true)
    (scanned : Scanned memory test (pos + 1) stop next) : Scanned memory test pos stop next := by
  have behind : pos < next := scanned.le
  refine ⟨behind.le, scanned.le_stop, ?_, ?_⟩
  · rw [bytesAt_cons memory inside, bytesAt_cons memory behind,
      List.takeWhile_cons_of_pos passes, scanned.passed]
  · rw [bytesAt_cons memory inside, List.dropWhile_cons_of_pos passes, scanned.rest]

theorem scan_ends (allowed : ∀ address, pos ≤ address → address < stop → Allowed (read address))
    (inside : pos ≤ stop) (enough : stop ≤ pos + rounds) :
    (scan read memory test stop rounds pos).Ends Allowed (Scanned memory test pos stop) := by
  induction rounds generalizing pos with
  | zero =>
      have past : ¬ pos < stop := by omega
      simp only [scan, past, if_false]
      exact .done (scanned_end past inside)
  | succ rounds ih =>
      by_cases under : pos < stop
      · simp only [scan, under, if_true]
        apply LoggedRun.Ends.access (allowed pos (le_refl pos) under)
        cases passes : test (memory pos) with
        | false =>
            simp only [Bool.false_eq_true, if_false]
            exact .done (scanned_here under passes)
        | true =>
            simp only [if_true]
            have later := ih (fun address from_le => allowed address (by omega)) under (by omega)
            exact later.imp (fun _ ok => ok) fun _ scanned => scanned.later under passes
      · simp only [scan, under, if_false]
        exact .done (scanned_end under inside)

/-- Where the loop back stops: only bytes that pass the test have been left behind. -/
structure ScannedBack (memory : ℕ → UInt8) (test : UInt8 → Bool) (start pos next : ℕ) : Prop where
  start_le : start ≤ next
  le : next ≤ pos
  kept : bytesAt memory start (next - start) =
    (bytesAt memory start (pos - start)).rdropWhile test

theorem bytesAt_concat (under : start < pos) :
    bytesAt memory start (pos - start) =
      bytesAt memory start (pos - 1 - start) ++ [memory (pos - 1)] := by
  have lengths : pos - start = (pos - 1 - start) + 1 := by omega
  have address : start + (pos - 1 - start) = pos - 1 := by omega
  rw [lengths, bytesAt_add, address]
  rfl

theorem scanBack_ends
    (allowed : ∀ address, start ≤ address → address < pos → Allowed (read address))
    (inside : start ≤ pos) (enough : pos ≤ start + rounds) :
    (scanBack read memory test start rounds pos).Ends Allowed
      (ScannedBack memory test start pos) := by
  have atStart : ScannedBack memory test start start start := by
    refine ⟨le_refl _, le_refl _, ?_⟩
    rw [Nat.sub_self]
    rfl
  induction rounds generalizing pos with
  | zero =>
      have same : pos = start := by omega
      subst same
      simp only [scanBack, lt_irrefl, if_false]
      exact .done atStart
  | succ rounds ih =>
      by_cases under : start < pos
      · simp only [scanBack, under, if_true]
        apply LoggedRun.Ends.access (allowed (pos - 1) (by omega) (by omega))
        cases passes : test (memory (pos - 1)) with
        | false =>
            simp only [Bool.false_eq_true, if_false]
            refine .done ⟨inside, le_refl _, ?_⟩
            rw [bytesAt_concat under, List.rdropWhile_concat_neg _ _ _ (by simp [passes])]
        | true =>
            simp only [if_true]
            have back : (scanBack read memory test start rounds (pos - 1)).Ends Allowed
                (ScannedBack memory test start (pos - 1)) := by
              apply ih
              · intro address from_le to_lt
                exact allowed address from_le (by omega)
              · omega
              · omega
            apply back.imp fun _ ok => ok
            intro next scanned
            refine ⟨scanned.start_le, scanned.le.trans (Nat.sub_le pos 1), ?_⟩
            rw [bytesAt_concat under, List.rdropWhile_concat_pos _ _ _ passes, scanned.kept]
      · have same : pos = start := by omega
        subst same
        simp only [scanBack, lt_irrefl, if_false]
        exact .done atStart

end ByteMemory

end HttpsServerSim
