import HttpsServerSim.Lib.Interleaving
import HttpsServerSim.MsgCenter.EventQueue
import Mathlib.Data.Fintype.Basic

/-!
# The event queue and its threads

Any number of threads call the functions of an `EventQueue`. An action is one critical
section, with the return of the function where it ends there. A thread that waits in `pop` has
a place of its own: in the wait set, or woken and yet to take the mutex. `wake_up` notifies
after it has released the mutex.

`history` has the calls that have returned, with what they returned, in the order of their
last critical sections.
-/

namespace HttpsServerSim

universe u

open PriorityFifo (Call Reply)

/-- Where a thread is in `pop`. -/
inductive PopPc where
  | idle
  | waiting
  | woken
deriving DecidableEq, Repr

structure EventQueueThreads (numThreads : ℕ) (Handler : Type u) where
  queue : EventQueue Handler
  poppers : Fin numThreads → PopPc
  notifyAllsLeft : ℕ
  history : List (Call (Event Handler) × Reply (Event Handler))

inductive EventQueueAction (numThreads : ℕ) (Handler : Type u) where
  | push (event : Event Handler) (woken : Option (Fin numThreads))
  | pop (thread : Fin numThreads)
  | resume (thread : Fin numThreads)
  | spuriousWake (thread : Fin numThreads)
  | tryPop
  | popAll (maxCount : UInt64)
  | size
  | empty
  | isClosed
  | wakeUp
  | notifyAll

namespace EventQueueThreads

variable {numThreads : ℕ} {Handler : Type u}

def construct (numThreads : ℕ) (maxSize : UInt64) : EventQueueThreads numThreads Handler where
  queue := .construct maxSize
  poppers := fun _ => .idle
  notifyAllsLeft := 0
  history := []

/-- A call returns. -/
def answer (threads : EventQueueThreads numThreads Handler) (queue : EventQueue Handler)
    (call : Call (Event Handler)) (reply : Reply (Event Handler)) :
    EventQueueThreads numThreads Handler :=
  { threads with queue := queue, history := threads.history ++ [(call, reply)] }

@[simp]
theorem history_answer (threads : EventQueueThreads numThreads Handler)
    (queue : EventQueue Handler) (call : Call (Event Handler)) (reply : Reply (Event Handler)) :
    (threads.answer queue call reply).history = threads.history ++ [(call, reply)] :=
  rfl

def setPopper (threads : EventQueueThreads numThreads Handler) (thread : Fin numThreads)
    (pc : PopPc) : EventQueueThreads numThreads Handler :=
  { threads with poppers := Function.update threads.poppers thread pc }

@[simp]
theorem history_setPopper (threads : EventQueueThreads numThreads Handler)
    (thread : Fin numThreads) (pc : PopPc) :
    (threads.setPopper thread pc).history = threads.history :=
  rfl

/-- `notify_one`: a thread of the wait set is woken, if there is any. -/
def notifyOne (threads : EventQueueThreads numThreads Handler) :
    Option (Fin numThreads) → Option (EventQueueThreads numThreads Handler)
  | some thread =>
      if threads.poppers thread = .waiting then some (threads.setPopper thread .woken) else none
  | none => if ∃ thread, threads.poppers thread = .waiting then none else some threads

/-- The turn of a thread in `pop`: it returns or waits. -/
def popStep (threads : EventQueueThreads numThreads Handler) (thread : Fin numThreads) :
    EventQueueThreads numThreads Handler :=
  match threads.queue.popTurn with
  | (.returns event, queue) =>
      (threads.setPopper thread .idle).answer queue .pop (.item event)
  | (.returnsShutdown, queue) =>
      (threads.setPopper thread .idle).answer queue .pop .shutdown
  | (.waits, queue) => { threads.setPopper thread .waiting with queue := queue }

-- `max_size()` of the vector in `pop_all`. That `reserve` may find too little memory for a smaller
-- count and throw `std::bad_alloc` is left out.
variable (maxElements : ℕ)

def step (threads : EventQueueThreads numThreads Handler) :
    EventQueueAction numThreads Handler → Option (EventQueueThreads numThreads Handler)
  | .push event woken =>
      match threads.queue.push event with
      | (true, queue) => (threads.answer queue (.push event) .accepted).notifyOne woken
      | (false, queue) => some (threads.answer queue (.push event) .refused)
  | .pop thread => if threads.poppers thread = .idle then some (threads.popStep thread) else none
  | .resume thread =>
      if threads.poppers thread = .woken then some (threads.popStep thread) else none
  | .spuriousWake thread =>
      if threads.poppers thread = .waiting then some (threads.setPopper thread .woken) else none
  | .tryPop =>
      match threads.queue.tryPop with
      | (some event, queue) => some (threads.answer queue .tryPop (.item event))
      | (none, queue) => some (threads.answer queue .tryPop .nothing)
  | .popAll maxCount =>
      match threads.queue.popAll maxElements maxCount with
      | (some events, queue) =>
          some (threads.answer queue (.popAll maxCount.toNat) (.items events))
      | (none, queue) => some (threads.answer queue (.popAll maxCount.toNat) .threw)
  | .size => some (threads.answer threads.queue .size (.count threads.queue.size.toNat))
  | .empty => some (threads.answer threads.queue .empty (.flag threads.queue.empty))
  | .isClosed => some (threads.answer threads.queue .isClosed (.flag threads.queue.queueClosed))
  | .wakeUp =>
      some
        { threads.answer threads.queue.wakeUp .close .done with
          notifyAllsLeft := threads.notifyAllsLeft + 1 }
  | .notifyAll =>
      match threads.notifyAllsLeft with
      | 0 => none
      | left + 1 =>
          some
            { threads with
              notifyAllsLeft := left
              poppers := fun thread =>
                if threads.poppers thread = .waiting then .woken else threads.poppers thread }

/-- The threads after an interleaving. -/
def run (threads : EventQueueThreads numThreads Handler)
    (actions : List (EventQueueAction numThreads Handler)) :
    Option (EventQueueThreads numThreads Handler) :=
  Interleaving.run (step maxElements) threads actions

/-! ## Refinement -/

/-- The queue behaves as a bounded priority queue. -/
structure BehavesAs (maxSize : UInt64) (threads : EventQueueThreads numThreads Handler) :
    Prop where
  size_eq : threads.queue.size.toNat = threads.queue.toFifo.total
  size_le : threads.queue.size ≤ maxSize
  refines : PriorityFifo.Run maxSize.toNat Event.priority? threads.history threads.queue.toFifo
  delivered : ∀ priority, PriorityFifo.accepted Event.priority? priority threads.history =
    PriorityFifo.delivered Event.priority? priority threads.history ++
      threads.queue.priorityQueues priority

/-- The condition on a run: `reserve` can give what `pop_all` asks for. -/
def Reserves (action : EventQueueAction numThreads Handler) : Prop :=
  ∀ maxCount, action = .popAll maxCount → maxCount.toNat ≤ maxElements

variable {maxElements} {maxSize : UInt64} {threads next : EventQueueThreads numThreads Handler}
  {action : EventQueueAction numThreads Handler}

/-- The history is one of the abstract queue, and the counter is right. -/
structure Refined (maxSize : UInt64) (threads : EventQueueThreads numThreads Handler) : Prop where
  counted : threads.queue.Counted
  maxSize_eq : threads.queue.maxSize = maxSize
  history : PriorityFifo.Run maxSize.toNat Event.priority? threads.history threads.queue.toFifo

theorem refined_construct (numThreads : ℕ) (maxSize : UInt64) :
    (construct numThreads maxSize : EventQueueThreads numThreads Handler).Refined maxSize :=
  ⟨EventQueue.counted_construct maxSize, rfl, .initial⟩

/-- A call returns what the abstract queue returns. -/
theorem Refined.answer {queue : EventQueue Handler} {call : Call (Event Handler)}
    {reply : Reply (Event Handler)} (refined : threads.Refined maxSize) (counted : queue.Counted)
    (sameMax : queue.maxSize = threads.queue.maxSize)
    (answered : PriorityFifo.Step maxSize.toNat Event.priority? threads.queue.toFifo (call, reply)
      queue.toFifo) : (threads.answer queue call reply).Refined maxSize :=
  ⟨counted, sameMax.trans refined.maxSize_eq, refined.history.step answered⟩

/-- Where the threads are does not matter. -/
theorem Refined.of_poppers (refined : threads.Refined maxSize) (queue : next.queue = threads.queue)
    (history : next.history = threads.history) : next.Refined maxSize := by
  refine ⟨?_, ?_, ?_⟩
  · rw [queue]
    exact refined.counted
  · rw [queue]
    exact refined.maxSize_eq
  · rw [queue, history]
    exact refined.history

theorem Refined.notifyOne (refined : threads.Refined maxSize) {woken : Option (Fin numThreads)}
    (notified : threads.notifyOne woken = some next) : next.Refined maxSize := by
  cases woken with
  | none =>
      simp only [EventQueueThreads.notifyOne, Option.ite_none_left_eq_some,
        Option.some.injEq] at notified
      rcases notified with ⟨nobody, rfl⟩
      exact refined
  | some thread =>
      simp only [EventQueueThreads.notifyOne, Option.ite_none_right_eq_some,
        Option.some.injEq] at notified
      rcases notified with ⟨waiting, rfl⟩
      exact refined.of_poppers rfl rfl

theorem Refined.popStep (refined : threads.Refined maxSize) (thread : Fin numThreads) :
    (threads.popStep thread).Refined maxSize := by
  have moved (pc : PopPc) : (threads.setPopper thread pc).Refined maxSize :=
    refined.of_poppers rfl rfl
  rcases EventQueue.tryPop_spec refined.counted with
    ⟨popped, exhausted⟩ | ⟨event, priority, after, popped, removes, afterCounted, sameMax⟩
  · cases closed : threads.queue.queueClosed with
    | true =>
        simp only [EventQueueThreads.popStep, EventQueue.popTurn, popped, closed, if_true]
        exact (moved .idle).answer refined.counted rfl (.popShutdown closed exhausted)
    | false =>
        simp only [EventQueueThreads.popStep, EventQueue.popTurn, popped, closed,
          Bool.false_eq_true, if_false]
        exact (moved .waiting).of_poppers rfl rfl
  · simp only [EventQueueThreads.popStep, EventQueue.popTurn, popped]
    exact (moved .idle).answer afterCounted sameMax (.pop removes)

theorem step_refined (refined : threads.Refined maxSize)
    (condition : Reserves maxElements action)
    (stepped : threads.step maxElements action = some next) : next.Refined maxSize := by
  have size_eq := refined.counted.size_eq
  cases action with
  | push event woken =>
      rcases EventQueue.push_spec refined.counted event with
        ⟨after, pushed, answered, afterCounted, sameMax⟩ | ⟨pushed, answered⟩
      · rw [refined.maxSize_eq] at answered
        simp only [step, pushed] at stepped
        exact (refined.answer afterCounted sameMax answered).notifyOne stepped
      · rw [refined.maxSize_eq] at answered
        simp only [step, pushed, Option.some.injEq] at stepped
        subst stepped
        exact refined.answer refined.counted rfl answered
  | pop thread =>
      simp only [step, Option.ite_none_right_eq_some, Option.some.injEq] at stepped
      rcases stepped with ⟨idle, rfl⟩
      exact refined.popStep thread
  | resume thread =>
      simp only [step, Option.ite_none_right_eq_some, Option.some.injEq] at stepped
      rcases stepped with ⟨woken, rfl⟩
      exact refined.popStep thread
  | spuriousWake thread =>
      simp only [step, Option.ite_none_right_eq_some, Option.some.injEq] at stepped
      rcases stepped with ⟨waiting, rfl⟩
      exact refined.of_poppers rfl rfl
  | tryPop =>
      rcases EventQueue.tryPop_spec refined.counted with
        ⟨popped, exhausted⟩ | ⟨event, priority, after, popped, removes, afterCounted, sameMax⟩
      · simp only [step, popped, Option.some.injEq] at stepped
        subst stepped
        exact refined.answer refined.counted rfl (.tryPopNothing exhausted)
      · simp only [step, popped, Option.some.injEq] at stepped
        subst stepped
        exact refined.answer afterCounted sameMax (.tryPop removes)
  | popAll maxCount =>
      have fits : ¬maxElements < maxCount.toNat := Nat.not_lt.mpr (condition maxCount rfl)
      rcases EventQueue.popAllLoop_spec refined.counted maxCount.toNat with
        ⟨removes, afterCounted, sameMax⟩
      simp only [step, EventQueue.popAll, if_neg fits, Option.some.injEq] at stepped
      subst stepped
      exact refined.answer afterCounted sameMax (.popAll removes)
  | size =>
      simp only [step, Option.some.injEq] at stepped
      subst stepped
      rw [size_eq]
      exact refined.answer refined.counted rfl .size
  | empty =>
      have zero : threads.queue.empty = decide (threads.queue.toFifo.total = 0) := by
        rw [← size_eq, EventQueue.empty, Bool.eq_iff_iff, beq_iff_eq, decide_eq_true_iff,
          ← UInt64.toNat_inj]
        rfl
      simp only [step, Option.some.injEq] at stepped
      subst stepped
      rw [zero]
      exact refined.answer refined.counted rfl .empty
  | isClosed =>
      simp only [step, Option.some.injEq] at stepped
      subst stepped
      exact refined.answer refined.counted rfl .isClosed
  | wakeUp =>
      simp only [step, Option.some.injEq] at stepped
      subst stepped
      have counted : threads.queue.wakeUp.Counted := ⟨size_eq, refined.counted.size_le⟩
      exact (refined.answer counted rfl .close).of_poppers rfl rfl
  | notifyAll =>
      simp only [step] at stepped
      split at stepped
      · cases stepped
      · cases stepped
        exact refined.of_poppers rfl rfl

/-- The abstract queue never throws. -/
theorem not_threw_of_run {capacity : ℕ} {fifo : PriorityFifo EventPriority (Event Handler)}
    {history : List (Call (Event Handler) × Reply (Event Handler))}
    (ran : PriorityFifo.Run capacity Event.priority? history fifo) :
    ∀ answered ∈ history, answered.2 ≠ .threw := by
  induction ran with
  | initial =>
      intro answered member
      cases member
  | step earlier next ih =>
      intro answered member
      rcases List.mem_append.mp member with before | now
      · exact ih answered before
      · rw [List.mem_singleton.mp now]
        cases next <;> exact nofun

/-- Some call has thrown. -/
def Threw (threads : EventQueueThreads numThreads Handler) : Prop :=
  ∃ answered ∈ threads.history, answered.2 = .threw

theorem history_notifyOne {woken : Option (Fin numThreads)}
    (notified : threads.notifyOne woken = some next) : next.history = threads.history := by
  cases woken with
  | none =>
      simp only [notifyOne, Option.ite_none_left_eq_some, Option.some.injEq] at notified
      rcases notified with ⟨nobody, rfl⟩
      rfl
  | some thread =>
      simp only [notifyOne, Option.ite_none_right_eq_some, Option.some.injEq] at notified
      rcases notified with ⟨waiting, rfl⟩
      rfl

/-- The history only grows. -/
theorem history_step (stepped : threads.step maxElements action = some next) :
    threads.history <+: next.history := by
  have pops (thread : Fin numThreads) : threads.history <+: (threads.popStep thread).history := by
    simp only [popStep]
    split <;> simp
  cases action with
  | push event woken =>
      simp only [step] at stepped
      split at stepped
      · rw [history_notifyOne stepped]
        simp
      · cases stepped
        simp
  | pop thread | resume thread =>
      simp only [step, Option.ite_none_right_eq_some, Option.some.injEq] at stepped
      rcases stepped with ⟨_, rfl⟩
      exact pops thread
  | spuriousWake thread =>
      simp only [step, Option.ite_none_right_eq_some, Option.some.injEq] at stepped
      rcases stepped with ⟨_, rfl⟩
      exact List.prefix_rfl
  | tryPop | popAll maxCount =>
      simp only [step] at stepped
      split at stepped
      · cases stepped
        simp
      · cases stepped
        simp
  | size | empty | isClosed | wakeUp =>
      simp only [step, Option.some.injEq] at stepped
      subst stepped
      simp
  | notifyAll =>
      simp only [step] at stepped
      split at stepped
      · cases stepped
      · cases stepped
        exact List.prefix_rfl

theorem step_threw (threw : threads.Threw)
    (stepped : threads.step maxElements action = some next) : next.Threw := by
  rcases threw with ⟨answered, member, isThrow⟩
  exact ⟨answered, (history_step stepped).subset member, isThrow⟩

theorem threw_of_not_reserves (breaks : ¬Reserves maxElements action)
    (stepped : threads.step maxElements action = some next) : next.Threw := by
  simp only [Reserves, not_forall] at breaks
  rcases breaks with ⟨maxCount, rfl, tooMany⟩
  simp only [step, EventQueue.popAll, if_pos (Nat.not_le.mp tooMany), Option.some.injEq]
    at stepped
  subst stepped
  exact ⟨(.popAll maxCount.toNat, .threw), by simp, rfl⟩

theorem behavesAs_of_refined (refined : threads.Refined maxSize) : threads.BehavesAs maxSize :=
  ⟨refined.counted.size_eq, refined.maxSize_eq ▸ refined.counted.size_le, refined.history,
    refined.history.conserved.2⟩

/-- Whatever the interleaving, the queue behaves as a bounded priority queue if and only if no call
of `pop_all` asks for more than a vector can hold. -/
theorem behavesAs_iff {actions : List (EventQueueAction numThreads Handler)}
    (ran : (construct numThreads maxSize).run maxElements actions = some threads) :
    threads.BehavesAs maxSize ↔
      ∀ maxCount, .popAll maxCount ∈ actions → maxCount.toNat ≤ maxElements := by
  have initially : (construct numThreads maxSize : EventQueueThreads numThreads Handler).Refined
      maxSize := refined_construct numThreads maxSize
  have condition_iff : Interleaving.Along (step maxElements) (fun _ => Reserves maxElements)
      (construct numThreads maxSize) actions ↔
        ∀ maxCount, .popAll maxCount ∈ actions → maxCount.toNat ≤ maxElements := by
    rw [Interleaving.along_iff_forall ran]
    refine ⟨fun all maxCount member => all _ member maxCount rfl, ?_⟩
    rintro all _ member maxCount rfl
    exact all maxCount member
  rw [← condition_iff]
  refine ⟨?_, ?_⟩
  · intro behaves
    by_contra broken
    rcases Interleaving.exists_step_of_not_along ran broken with
      ⟨_, action, _, _, following, _, _, breaks, stepped, rest⟩
    have threw : threads.Threw :=
      Interleaving.invariant_run step_threw (threw_of_not_reserves breaks stepped) rest
    rcases threw with ⟨answered, member, isThrow⟩
    exact not_threw_of_run behaves.refines answered member isThrow
  · intro along
    exact behavesAs_of_refined (Interleaving.invariant_along step_refined initially along ran)

/-- The greatest number of events in a vector, where an event has 64 bytes. -/
def vectorLimit : ℕ := (2 ^ 63 - 1) / 64

/-- The thread of a run with one. -/
def onlyThread : Fin 1 := Fin.last 0

/-- A thread waits in `pop`, is woken by a push and returns; the queue is closed and drained. -/
def popDrainsClosed : List (EventQueueAction 1 Unit) :=
  [.pop onlyThread, .push .makeCallbackDoneEvent (some onlyThread),
    .push ⟨⟨9⟩, 0, 0, none, none⟩ none, .resume onlyThread, .push .makeCallbackDoneEvent none,
    .push .makeShutdownEvent none, .wakeUp, .push .makeShutdownEvent none, .pop onlyThread,
    .popAll 3, .pop onlyThread]

theorem behavesAs_popDrainsClosed :
    ∃ threads, (construct 1 10000).run vectorLimit popDrainsClosed = some threads ∧
      threads.history.length = 10 ∧ threads.BehavesAs 10000 := by
  have seen : ((construct 1 10000).run vectorLimit popDrainsClosed).map
      (fun threads => threads.history.length) = some 10 := by
    decide +kernel
  rcases Option.map_eq_some_iff.mp seen with ⟨threads, ran, length⟩
  refine ⟨threads, ran, length, (behavesAs_iff ran).mpr ?_⟩
  intro maxCount member
  simp [popDrainsClosed] at member
  subst member
  decide

theorem behavesAs_fails :
    ∃ threads : EventQueueThreads 0 Unit,
      (construct 0 10000).run vectorLimit [.popAll 0xFFFFFFFFFFFFFFFF] = some threads ∧
        ¬threads.BehavesAs 10000 := by
  have breaks : ¬Reserves vectorLimit
      (.popAll 0xFFFFFFFFFFFFFFFF : EventQueueAction 0 Unit) := by
    intro reserves
    exact absurd (reserves _ rfl) (by decide)
  refine ⟨_, rfl, ?_⟩
  intro behaves
  rcases threw_of_not_reserves breaks rfl with ⟨answered, member, isThrow⟩
  exact not_threw_of_run behaves.refines answered member isThrow

end EventQueueThreads

end HttpsServerSim
