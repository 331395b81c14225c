import HttpsServerSim.Lib.PriorityFifo
import Mathlib.Data.List.FinRange

/-!
# The event queue

`Event` and `EventQueue`. Each function is what its critical section does; a `pop` that finds
nothing waits and has its turn again when it has been woken. `EventQueue.toFifo` forgets the
counter `size_`, and the functions are those of a bounded priority queue as long as the
counter is right (`Counted`).
-/

namespace HttpsServerSim

universe u

/-- `EventType`, a byte that need not be one of the enumerators. -/
structure EventType where
  code : UInt8
deriving DecidableEq, Repr

namespace EventType

def shutdown : EventType := ⟨0⟩

def error : EventType := ⟨1⟩

def accept : EventType := ⟨2⟩

def read : EventType := ⟨3⟩

def write : EventType := ⟨4⟩

def callbackDone : EventType := ⟨5⟩

def statistics : EventType := ⟨7⟩

end EventType

def kEventPriorityCount : ℕ := EventType.statistics.code.toNat + 1

abbrev EventPriority := Fin kEventPriorityCount

structure Event (Handler : Type u) where
  type : EventType
  connId : UInt64 := 0
  fd : ℤ := 0
  userData : Option ℕ := none
  handler : Option Handler := none
deriving DecidableEq, Repr

namespace Event

variable {Handler : Type u}

def makeShutdownEvent : Event Handler where
  type := .shutdown
  fd := -1

def makeCallbackDoneEvent : Event Handler where
  type := .callbackDone
  fd := -1

/-- The index that `push` checks. -/
def priority? (event : Event Handler) : Option EventPriority :=
  if known : event.type.code.toNat < kEventPriorityCount then some ⟨event.type.code.toNat, known⟩
  else none

end Event

structure EventQueue (Handler : Type u) where
  priorityQueues : EventPriority → List (Event Handler)
  maxSize : UInt64
  size : UInt64
  queueClosed : Bool

/-- What `pop` does when it has the mutex. -/
inductive PopTurn (Handler : Type u) where
  | returns (event : Event Handler)
  | returnsShutdown
  | waits

namespace EventQueue

variable {Handler : Type u}

def construct (maxSize : UInt64) : EventQueue Handler where
  priorityQueues := fun _ => []
  maxSize := maxSize
  size := 0
  queueClosed := false

/-- The first index with a queue that is not empty. -/
def getHighestPriorityQueue (queue : EventQueue Handler) : Option EventPriority :=
  (List.finRange kEventPriorityCount).find? fun idx => !(queue.priorityQueues idx).isEmpty

/-- The event is pushed on the queue of its priority. -/
def insert (queue : EventQueue Handler) (priority : EventPriority) (event : Event Handler) :
    EventQueue Handler :=
  { queue with
    priorityQueues :=
      Function.update queue.priorityQueues priority (queue.priorityQueues priority ++ [event])
    size := queue.size + 1 }

def push (queue : EventQueue Handler) (event : Event Handler) : Bool × EventQueue Handler :=
  if queue.queueClosed then (false, queue)
  else if queue.size ≥ queue.maxSize then (false, queue)
  else
    match event.priority? with
    | none => (false, queue)
    | some priority => (true, queue.insert priority event)

/-- The front of the queue with an index is moved out and popped. -/
def popFront (queue : EventQueue Handler) (idx : EventPriority) :
    Option (Event Handler) × EventQueue Handler :=
  ((queue.priorityQueues idx).head?,
    { queue with
      priorityQueues :=
        Function.update queue.priorityQueues idx (queue.priorityQueues idx).tail
      size := queue.size - 1 })

def tryPop (queue : EventQueue Handler) : Option (Event Handler) × EventQueue Handler :=
  match queue.getHighestPriorityQueue with
  | none => (none, queue)
  | some idx => queue.popFront idx

/-- One round of the loop of `pop`. -/
def popTurn (queue : EventQueue Handler) : PopTurn Handler × EventQueue Handler :=
  match queue.tryPop with
  | (some event, queue) => (.returns event, queue)
  | (none, queue) => (if queue.queueClosed then .returnsShutdown else .waits, queue)

/-- The loop of `pop_all`. -/
def popAllLoop : ℕ → EventQueue Handler → List (Event Handler) × EventQueue Handler
  | 0, queue => ([], queue)
  | count + 1, queue =>
      match queue.tryPop with
      | (none, queue) => ([], queue)
      | (some event, queue) =>
          let (rest, queue) := popAllLoop count queue
          (event :: rest, queue)

/-- `pop_all`. The call of `reserve` throws `std::length_error` if the count is greater than the
`max_size()` of the result. -/
def popAll (queue : EventQueue Handler) (maxElements : ℕ) (maxCount : UInt64) :
    Option (List (Event Handler)) × EventQueue Handler :=
  if maxElements < maxCount.toNat then (none, queue)
  else
    let (result, queue) := popAllLoop maxCount.toNat queue
    (some result, queue)

def empty (queue : EventQueue Handler) : Bool := queue.size == 0

/-- The critical section of `wake_up` and `close`. -/
def wakeUp (queue : EventQueue Handler) : EventQueue Handler := { queue with queueClosed := true }

/-! ## The queue as a bounded priority queue -/

def toFifo (queue : EventQueue Handler) : PriorityFifo EventPriority (Event Handler) where
  waiting := queue.priorityQueues
  closed := queue.queueClosed

/-- The counter is right and within the limit. -/
structure Counted (queue : EventQueue Handler) : Prop where
  size_eq : queue.size.toNat = queue.toFifo.total
  size_le : queue.size ≤ queue.maxSize

theorem counted_construct (maxSize : UInt64) :
    (construct maxSize : EventQueue Handler).Counted := by
  refine ⟨?_, ?_⟩
  · simp [construct, toFifo, PriorityFifo.total]
  · exact UInt64.zero_le

theorem getHighestPriorityQueue_eq_none_iff (queue : EventQueue Handler) :
    queue.getHighestPriorityQueue = none ↔ queue.toFifo.Exhausted := by
  simp [getHighestPriorityQueue, PriorityFifo.Exhausted, toFifo]

theorem getHighestPriorityQueue_eq_some {queue : EventQueue Handler} {idx : EventPriority}
    (found : queue.getHighestPriorityQueue = some idx) :
    queue.priorityQueues idx ≠ [] ∧ ∀ other < idx, queue.priorityQueues other = [] := by
  rcases List.find?_eq_some_iff_append.mp found with ⟨nonempty, before, after, split, passed⟩
  refine ⟨by simpa using nonempty, ?_⟩
  intro other less
  have sorted : (List.finRange kEventPriorityCount).Pairwise (· < ·) :=
    List.pairwise_lt_finRange _
  have member : other ∈ before ++ idx :: after := by
    rw [← split]
    exact List.mem_finRange other
  rw [split] at sorted
  rcases List.mem_append.mp member with early | late
  · simpa using passed other early
  · rcases List.mem_cons.mp late with rfl | behind
    · exact absurd less (lt_irrefl other)
    · have greater := (List.pairwise_cons.mp (List.pairwise_append.mp sorted).2.1).1 other behind
      exact absurd less (lt_asymm greater)

theorem removes_popFront {queue : EventQueue Handler} {idx : EventPriority}
    (found : queue.getHighestPriorityQueue = some idx) :
    ∃ event, (queue.popFront idx).1 = some event ∧
      queue.toFifo.Removes idx event (queue.popFront idx).2.toFifo := by
  rcases getHighestPriorityQueue_eq_some found with ⟨nonempty, before⟩
  rcases List.exists_cons_of_ne_nil nonempty with ⟨event, rest, shape⟩
  refine ⟨event, ?_, before, ?_, ?_⟩
  · simp [popFront, shape]
  · simp [toFifo, popFront, shape]
  · simp [toFifo, popFront, PriorityFifo.replace]

theorem counted_popFront {queue : EventQueue Handler} {idx : EventPriority}
    {event : Event Handler} (counted : queue.Counted)
    (removes : queue.toFifo.Removes idx event (queue.popFront idx).2.toFifo) :
    (queue.popFront idx).2.Counted := by
  have fewer := removes.total
  rw [← counted.size_eq] at fewer
  have positive : (1 : UInt64) ≤ queue.size := by
    rw [UInt64.le_iff_toNat_le]
    simp only [UInt64.toNat_one]
    omega
  have size_eq : (queue.size - 1).toNat = queue.size.toNat - 1 :=
    UInt64.toNat_sub_of_le queue.size 1 positive
  refine ⟨?_, ?_⟩
  · change (queue.size - 1).toNat = _
    omega
  · have limit := UInt64.le_iff_toNat_le.mp counted.size_le
    change queue.size - 1 ≤ queue.maxSize
    rw [UInt64.le_iff_toNat_le]
    omega

/-- `try_pop` takes out what the abstract queue takes out, or finds it empty. -/
theorem tryPop_spec {queue : EventQueue Handler} (counted : queue.Counted) :
    (queue.tryPop = (none, queue) ∧ queue.toFifo.Exhausted) ∨
      ∃ event priority after, queue.tryPop = (some event, after) ∧
        queue.toFifo.Removes priority event after.toFifo ∧ after.Counted ∧
          after.maxSize = queue.maxSize := by
  cases found : queue.getHighestPriorityQueue with
  | none =>
      left
      refine ⟨?_, queue.getHighestPriorityQueue_eq_none_iff.mp found⟩
      simp [tryPop, found]
  | some idx =>
      right
      rcases removes_popFront found with ⟨event, front, removes⟩
      refine ⟨event, idx, (queue.popFront idx).2, ?_, removes, counted_popFront counted removes,
        rfl⟩
      rw [← front]
      simp [tryPop, found]

/-- `pop_all` takes out what as many calls of `try_pop` would. -/
theorem popAllLoop_spec {queue : EventQueue Handler} (counted : queue.Counted) (count : ℕ) :
    PriorityFifo.TryPops count queue.toFifo (popAllLoop count queue).1
        (popAllLoop count queue).2.toFifo ∧
      (popAllLoop count queue).2.Counted ∧
        (popAllLoop count queue).2.maxSize = queue.maxSize := by
  induction count generalizing queue with
  | zero => exact ⟨.zero, counted, rfl⟩
  | succ count ih =>
      rcases tryPop_spec counted with
        ⟨popped, exhausted⟩ | ⟨event, priority, after, popped, removes, afterCounted, sameMax⟩
      · simp only [popAllLoop, popped]
        exact ⟨PriorityFifo.tryPops_of_exhausted exhausted (count + 1), counted, trivial⟩
      · rcases ih afterCounted with ⟨later, finallyCounted, finallyMax⟩
        simp only [popAllLoop, popped]
        exact ⟨.hit removes later, finallyCounted, finallyMax.trans sameMax⟩

/-- `push` accepts an event or changes nothing. -/
theorem push_spec {queue : EventQueue Handler} (counted : queue.Counted) (event : Event Handler) :
    (∃ after, queue.push event = (true, after) ∧
        PriorityFifo.Step queue.maxSize.toNat Event.priority? queue.toFifo
          (.push event, .accepted) after.toFifo ∧ after.Counted ∧
            after.maxSize = queue.maxSize) ∨
      (queue.push event = (false, queue) ∧
        PriorityFifo.Step queue.maxSize.toNat Event.priority? queue.toFifo
          (.push event, .refused) queue.toFifo) := by
  by_cases closed : queue.queueClosed = true
  · right
    exact ⟨by simp [push, closed], .refuse (Or.inl closed)⟩
  · by_cases full : queue.size ≥ queue.maxSize
    · right
      refine ⟨by simp [push, closed, full], .refuse (Or.inr (Or.inl ?_))⟩
      rw [← counted.size_eq]
      exact UInt64.le_iff_toNat_le.mp full
    · cases known : event.priority? with
      | none =>
          right
          exact ⟨by simp [push, closed, full, known], .refuse (Or.inr (Or.inr known))⟩
      | some priority =>
          left
          have below : queue.size < queue.maxSize := UInt64.not_le.mp full
          have room := UInt64.lt_iff_toNat_lt.mp below
          have bound := queue.maxSize.toNat_lt
          have size_eq : (queue.size + 1).toNat = queue.size.toNat + 1 := by
            rw [UInt64.toNat_add, UInt64.toNat_one, Nat.mod_eq_of_lt]
            omega
          refine ⟨queue.insert priority event, by simp [push, closed, full, known, insert], ?_, ?_,
            rfl⟩
          · apply PriorityFifo.Step.accept
            · simpa [toFifo] using closed
            · rw [← counted.size_eq]
              exact room
            · exact known
          · have more := queue.toFifo.total_replace priority
              (queue.priorityQueues priority ++ [event])
            refine ⟨?_, ?_⟩
            · change (queue.size + 1).toNat = (queue.toFifo.replace priority _).total
              have counts := counted.size_eq
              simp only [toFifo, List.length_append, List.length_singleton] at more counts ⊢
              omega
            · change queue.size + 1 ≤ queue.maxSize
              rw [UInt64.le_iff_toNat_le]
              omega

end EventQueue

end HttpsServerSim
