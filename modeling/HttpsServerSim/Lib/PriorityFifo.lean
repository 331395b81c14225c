import Mathlib.Algebra.BigOperators.Group.Finset.Basic
import Mathlib.Algebra.Order.BigOperators.Group.Finset
import Mathlib.Data.List.Basic

/-!
# Bounded priority queues

A queue with several priorities, a capacity and a closed bit. Items of one priority leave in
the order in which they came, and an item leaves only when nothing of a lower priority
number is left. The machine answers calls; a run of it is told by its history, the calls with
their answers. Whatever the run, the items of a priority that were accepted are those that
were delivered followed by those that still wait, in this order.
-/

namespace HttpsServerSim

universe u v

/-- A list of items for each priority, and the closed bit. -/
@[ext]
structure PriorityFifo (Priority : Type u) (Item : Type v) where
  waiting : Priority → List Item
  closed : Bool

namespace PriorityFifo

variable {Priority : Type u} {Item : Type v}

/-- The calls that the machine answers. -/
inductive Call (Item : Type v) where
  | push (item : Item)
  | pop
  | tryPop
  | popAll (count : ℕ)
  | size
  | empty
  | isClosed
  | close

/-- Its answers, and one that it never gives. -/
inductive Reply (Item : Type v) where
  | accepted
  | refused
  | item (item : Item)
  | nothing
  | shutdown
  | items (items : List Item)
  | count (count : ℕ)
  | flag (flag : Bool)
  | done
  | threw

def initial : PriorityFifo Priority Item := ⟨fun _ => [], false⟩

/-- Nothing waits. -/
def Exhausted (fifo : PriorityFifo Priority Item) : Prop := ∀ priority, fifo.waiting priority = []

section Removal

variable [DecidableEq Priority] [LT Priority]

def replace (fifo : PriorityFifo Priority Item) (priority : Priority) (items : List Item) :
    PriorityFifo Priority Item :=
  { fifo with waiting := Function.update fifo.waiting priority items }

omit [LT Priority] in
@[simp]
theorem waiting_replace (fifo : PriorityFifo Priority Item) (priority : Priority)
    (items : List Item) : (fifo.replace priority items).waiting priority = items := by
  simp [replace]

omit [LT Priority] in
theorem waiting_replace_of_ne (fifo : PriorityFifo Priority Item) {priority other : Priority}
    (different : other ≠ priority) (items : List Item) :
    (fifo.replace priority items).waiting other = fifo.waiting other := by
  simp [replace, Function.update_of_ne different]

/-- The oldest item of the first priority that has any is taken out. -/
structure Removes (fifo : PriorityFifo Priority Item) (priority : Priority) (item : Item)
    (after : PriorityFifo Priority Item) : Prop where
  before : ∀ other, other < priority → fifo.waiting other = []
  oldest : fifo.waiting priority = item :: after.waiting priority
  others : after = fifo.replace priority (after.waiting priority)

/-- What a number of calls of `tryPop` take out, one after the other. -/
inductive TryPops : ℕ → PriorityFifo Priority Item → List Item → PriorityFifo Priority Item → Prop
  | zero {fifo} : TryPops 0 fifo [] fifo
  | hit {count fifo priority item middle items after} (removes : fifo.Removes priority item middle)
      (later : TryPops count middle items after) : TryPops (count + 1) fifo (item :: items) after
  | miss {count fifo items after} (exhausted : fifo.Exhausted)
      (later : TryPops count fifo items after) : TryPops (count + 1) fifo items after

theorem tryPops_of_exhausted {fifo : PriorityFifo Priority Item} (exhausted : fifo.Exhausted)
    (count : ℕ) : TryPops count fifo [] fifo := by
  induction count with
  | zero => exact .zero
  | succ count ih => exact .miss exhausted ih

end Removal

section Machine

variable [Fintype Priority] [DecidableEq Priority] [LT Priority] (capacity : ℕ)
  (priorityOf : Item → Option Priority)

/-- The number of items that wait. -/
def total (fifo : PriorityFifo Priority Item) : ℕ := ∑ priority, (fifo.waiting priority).length

/-- One call with its answer. -/
inductive Step : PriorityFifo Priority Item → Call Item × Reply Item →
    PriorityFifo Priority Item → Prop
  | accept {fifo item priority} (isOpen : fifo.closed = false) (room : fifo.total < capacity)
      (known : priorityOf item = some priority) :
      Step fifo (.push item, .accepted)
        (fifo.replace priority (fifo.waiting priority ++ [item]))
  | refuse {fifo item}
      (cause : fifo.closed = true ∨ capacity ≤ fifo.total ∨ priorityOf item = none) :
      Step fifo (.push item, .refused) fifo
  | pop {fifo priority item after} (removes : fifo.Removes priority item after) :
      Step fifo (.pop, .item item) after
  | popShutdown {fifo} (closed : fifo.closed = true) (exhausted : fifo.Exhausted) :
      Step fifo (.pop, .shutdown) fifo
  | tryPop {fifo priority item after} (removes : fifo.Removes priority item after) :
      Step fifo (.tryPop, .item item) after
  | tryPopNothing {fifo} (exhausted : fifo.Exhausted) : Step fifo (.tryPop, .nothing) fifo
  | popAll {fifo count items after} (removes : TryPops count fifo items after) :
      Step fifo (.popAll count, .items items) after
  | size {fifo} : Step fifo (.size, .count fifo.total) fifo
  | empty {fifo} : Step fifo (.empty, .flag (decide (fifo.total = 0))) fifo
  | isClosed {fifo} : Step fifo (.isClosed, .flag fifo.closed) fifo
  | close {fifo} : Step fifo (.close, .done) { fifo with closed := true }

/-- A run with the history of its calls. -/
inductive Run : List (Call Item × Reply Item) → PriorityFifo Priority Item → Prop
  | initial : Run [] initial
  | step {history fifo answered after} (earlier : Run history fifo)
      (next : Step capacity priorityOf fifo answered after) :
      Run (history ++ [answered]) after

end Machine

/-! ## The number of items -/

section Total

variable [Fintype Priority] [DecidableEq Priority]

theorem total_replace (fifo : PriorityFifo Priority Item) (priority : Priority)
    (items : List Item) :
    (fifo.replace priority items).total + (fifo.waiting priority).length =
      fifo.total + items.length := by
  have others : ∑ other ∈ Finset.univ.erase priority,
      ((fifo.replace priority items).waiting other).length =
        ∑ other ∈ Finset.univ.erase priority, (fifo.waiting other).length := by
    apply Finset.sum_congr rfl
    intro other member
    rw [waiting_replace_of_ne fifo (Finset.ne_of_mem_erase member)]
  unfold total
  rw [← Finset.add_sum_erase _ _ (Finset.mem_univ priority), others, waiting_replace,
    ← Finset.add_sum_erase _ (fun other => (fifo.waiting other).length)
      (Finset.mem_univ priority)]
  omega

theorem Removes.total [LT Priority] {fifo after : PriorityFifo Priority Item}
    {priority : Priority} {item : Item} (removes : fifo.Removes priority item after) :
    fifo.total = after.total + 1 := by
  have replaced := fifo.total_replace priority (after.waiting priority)
  rw [← removes.others, removes.oldest, List.length_cons] at replaced
  omega

end Total

/-! ## Nothing is lost, doubled or overtaken -/

section Conservation

variable [DecidableEq Priority] (priorityOf : Item → Option Priority)

/-- The items of one priority that a call has brought in. -/
def accepts (priority : Priority) : Call Item × Reply Item → List Item
  | (.push item, .accepted) => if priorityOf item = some priority then [item] else []
  | _ => []

/-- The items that a call has taken out. -/
def delivers : Call Item × Reply Item → List Item
  | (_, .item item) => [item]
  | (_, .items items) => items
  | _ => []

def accepted (priority : Priority) (history : List (Call Item × Reply Item)) : List Item :=
  history.flatMap (accepts priorityOf priority)

def delivered (priority : Priority) (history : List (Call Item × Reply Item)) : List Item :=
  (history.flatMap delivers).filter fun item => priorityOf item = some priority

/-- Every item waits where it belongs. -/
def Sorted (fifo : PriorityFifo Priority Item) : Prop :=
  ∀ priority, ∀ item ∈ fifo.waiting priority, priorityOf item = some priority

variable {priorityOf} [LT Priority] {fifo after : PriorityFifo Priority Item}

theorem Removes.sorted {priority : Priority} {item : Item}
    (removes : fifo.Removes priority item after) (sorted : fifo.Sorted priorityOf) :
    after.Sorted priorityOf := by
  intro other waiting member
  rw [removes.others] at member
  by_cases same : other = priority
  · subst same
    rw [waiting_replace] at member
    apply sorted
    rw [removes.oldest]
    exact List.mem_cons_of_mem item member
  · rw [waiting_replace_of_ne fifo same] at member
    exact sorted other waiting member

theorem Removes.conserved {priority : Priority} {item : Item}
    (removes : fifo.Removes priority item after) (sorted : fifo.Sorted priorityOf)
    (other : Priority) :
    fifo.waiting other =
      [item].filter (fun item => priorityOf item = some other) ++ after.waiting other := by
  have belongs : priorityOf item = some priority := by
    apply sorted
    rw [removes.oldest]
    exact List.mem_cons_self
  by_cases same : other = priority
  · subst same
    simp [belongs, removes.oldest]
  · have stays : after.waiting other = fifo.waiting other := by
      rw [removes.others]
      exact waiting_replace_of_ne fifo same _
    simp [belongs, stays, Ne.symm same]

theorem TryPops.conserved {count : ℕ} {items : List Item}
    (removes : TryPops count fifo items after) (sorted : fifo.Sorted priorityOf) :
    after.Sorted priorityOf ∧ ∀ other, fifo.waiting other =
      items.filter (fun item => priorityOf item = some other) ++ after.waiting other := by
  induction removes with
  | zero => exact ⟨sorted, fun other => rfl⟩
  | @hit count fifo priority item middle items after removes later ih =>
      rcases ih (removes.sorted sorted) with ⟨afterSorted, rest⟩
      refine ⟨afterSorted, ?_⟩
      intro other
      rw [removes.conserved sorted other, rest other, ← List.append_assoc, ← List.filter_append,
        List.singleton_append]
  | miss exhausted later ih => exact ih sorted

variable [Fintype Priority] {capacity : ℕ}

theorem Step.conserved {answered : Call Item × Reply Item}
    (step : Step capacity priorityOf fifo answered after) (sorted : fifo.Sorted priorityOf) :
    after.Sorted priorityOf ∧ ∀ other, fifo.waiting other ++ accepts priorityOf other answered =
      (delivers answered).filter (fun item => priorityOf item = some other) ++
        after.waiting other := by
  cases step with
  | @accept item priority isOpen room known =>
      refine ⟨?_, ?_⟩
      · intro other waiting member
        by_cases same : other = priority
        · subst same
          simp only [waiting_replace, List.mem_append, List.mem_singleton] at member
          rcases member with old | rfl
          · exact sorted other waiting old
          · exact known
        · rw [waiting_replace_of_ne fifo same] at member
          exact sorted other waiting member
      · intro other
        by_cases same : other = priority
        · subst same
          simp [accepts, delivers, known]
        · simp [accepts, delivers, known, waiting_replace_of_ne fifo same, Ne.symm same]
  | pop removes =>
      refine ⟨removes.sorted sorted, ?_⟩
      intro other
      simpa [accepts, delivers] using removes.conserved sorted other
  | tryPop removes =>
      refine ⟨removes.sorted sorted, ?_⟩
      intro other
      simpa [accepts, delivers] using removes.conserved sorted other
  | popAll removes =>
      rcases removes.conserved sorted with ⟨afterSorted, rest⟩
      refine ⟨afterSorted, ?_⟩
      intro other
      simpa [accepts, delivers] using rest other
  | refuse | popShutdown | tryPopNothing | size | empty | isClosed =>
      exact ⟨sorted, fun other => by simp [accepts, delivers]⟩
  | close => exact ⟨sorted, fun other => by simp [accepts, delivers]⟩

/-- What was accepted is what was delivered and what still waits, in the order of the pushes. -/
theorem Run.conserved {history : List (Call Item × Reply Item)}
    (run : Run capacity priorityOf history fifo) :
    fifo.Sorted priorityOf ∧ ∀ priority, accepted priorityOf priority history =
      delivered priorityOf priority history ++ fifo.waiting priority := by
  induction run with
  | initial =>
      refine ⟨?_, fun priority => rfl⟩
      intro priority item member
      cases member
  | step earlier next ih =>
      rcases ih with ⟨sorted, soFar⟩
      rcases next.conserved sorted with ⟨afterSorted, now⟩
      refine ⟨afterSorted, ?_⟩
      intro priority
      rw [accepted, List.flatMap_append, ← accepted, soFar, List.flatMap_singleton,
        List.append_assoc, now, delivered, delivered, List.flatMap_append, List.filter_append,
        List.flatMap_singleton, List.append_assoc]

end Conservation

end PriorityFifo

end HttpsServerSim
