import HttpsServerSim.MsgCenter.MsgCenter

/-!
# Stopping an event loop

`EventLoop` with one thread in `run`, one thread that calls `stop` when it likes, and any number
of others that post events to the queue or close it. `stop` gives two signals: it clears
`running_`, which `run` sets when it begins, and it pushes a `SHUTDOWN` event, which the queue may
refuse. Each step is one access to what the threads share.
-/

namespace HttpsServerSim

universe u

/-- Where the thread is that calls `EventLoop::stop`. -/
inductive LoopStopPc where
  | storeRunning
  | pushShutdown
  | returned
deriving DecidableEq, Repr

structure EventLoop (Handler : Type u) where
  eventQueue : EventQueue Handler
  run : LoopPc
  stop : LoopStopPc
  running : Bool
  started : Bool

inductive EventLoopAction (Handler : Type u) where
  | run
  | handlerReturns
  | stop
  | postEvent (event : Event Handler)
  | close
deriving DecidableEq

namespace EventLoop

variable {Handler : Type u}

/-- A loop over an empty queue of any size. -/
def construct (maxSize : UInt64) : EventLoop Handler where
  eventQueue := .construct maxSize
  run := .storeRunning
  stop := .storeRunning
  running := false
  started := false

def push (loop : EventLoop Handler) (event : Event Handler) : EventLoop Handler :=
  { loop with eventQueue := (loop.eventQueue.push event).2 }

def runStep (loop : EventLoop Handler) : Option (EventLoop Handler) :=
  match loop.run with
  | .storeRunning => some { loop with running := true, run := .storeStarted }
  | .storeStarted => some { loop with started := true, run := .loadRunning }
  | .loadRunning => some { loop with run := if loop.running then .tryPop else .leaving }
  | .tryPop =>
      match loop.eventQueue.tryPop with
      | (none, queue) => some { loop with eventQueue := queue, run := .loadRunning }
      | (some event, queue) =>
          some
            { loop with
              eventQueue := queue
              run :=
                if event.type ≠ .shutdown then
                  if event.handler.isSome then .handling else .loadRunning
                else .leaving }
  | .leaving => some { loop with running := false, run := .exited }
  | .unborn | .handling | .exited => none

def stopStep (loop : EventLoop Handler) : Option (EventLoop Handler) :=
  match loop.stop with
  | .storeRunning => some { loop with running := false, stop := .pushShutdown }
  | .pushShutdown => some { loop.push .makeShutdownEvent with stop := .returned }
  | .returned => none

def step (loop : EventLoop Handler) : EventLoopAction Handler → Option (EventLoop Handler)
  | .run => loop.runStep
  | .handlerReturns =>
      if loop.run = .handling then some { loop with run := .loadRunning } else none
  | .stop => loop.stopStep
  | .postEvent event => some (loop.push event)
  | .close => some { loop with eventQueue := loop.eventQueue.wakeUp }

/-- A `SHUTDOWN` event is in the queue. -/
def ShutdownQueued (queue : EventQueue Handler) : Prop :=
  ∃ priority, ∃ event ∈ queue.priorityQueues priority, event.type = .shutdown

instance (queue : EventQueue Handler) : Decidable (ShutdownQueued queue) :=
  inferInstanceAs (Decidable (∃ priority, ∃ event ∈ queue.priorityQueues priority, _))

/-- The thread is in the `while` loop of `run`. -/
def inLoop (loop : EventLoop Handler) : Bool :=
  match loop.run with
  | .loadRunning | .tryPop | .handling => true
  | _ => false

/-- `stop` has returned, and neither of its signals is left for a `run` that goes on. -/
def Forgotten (loop : EventLoop Handler) : Prop :=
  loop.stop = .returned ∧ loop.inLoop = true ∧ loop.running = true ∧
    ¬ShutdownQueued loop.eventQueue
deriving Decidable

/-- One of the signals is there, or is not needed: the loop has been left, a `SHUTDOWN` event is
in the queue, or `running_` is clear and will not be set any more. -/
def Signalled (loop : EventLoop Handler) : Prop :=
  loop.run.left = true ∨ ShutdownQueued loop.eventQueue ∨
    loop.run ≠ .storeRunning ∧ loop.running = false
deriving Decidable

/-- The queue takes the `SHUTDOWN` event that `stop` pushes, or the loop is signalled without
it. -/
def Heard (loop : EventLoop Handler) : EventLoopAction Handler → Prop
  | .stop =>
      loop.stop = .pushShutdown →
        loop.eventQueue.queueClosed = false ∧ loop.eventQueue.size < loop.eventQueue.maxSize ∨
          loop.Signalled
  | _ => True

instance (loop : EventLoop Handler) : DecidablePred loop.Heard
  | .stop => inferInstanceAs (Decidable (_ → _))
  | .run | .handlerReturns | .postEvent _ | .close => isTrue trivial

variable {loop next : EventLoop Handler} {action : EventLoopAction Handler}

/-! ## The event in the queue -/

theorem shutdownQueued_push {queue : EventQueue Handler} (queued : ShutdownQueued queue)
    (event : Event Handler) : ShutdownQueued (queue.push event).2 := by
  rcases queued with ⟨priority, shutdown, isIn, isShutdown⟩
  unfold EventQueue.push
  split
  next => exact ⟨priority, shutdown, isIn, isShutdown⟩
  next =>
    split
    next => exact ⟨priority, shutdown, isIn, isShutdown⟩
    next =>
      split
      next => exact ⟨priority, shutdown, isIn, isShutdown⟩
      next other _ =>
        refine ⟨priority, shutdown, ?_, isShutdown⟩
        by_cases same : priority = other
        · subst same
          simp [EventQueue.insert, isIn]
        · simpa [EventQueue.insert, Function.update_of_ne same] using isIn

theorem shutdownQueued_pushShutdown {queue : EventQueue Handler}
    (isOpen : queue.queueClosed = false) (room : queue.size < queue.maxSize) :
    ShutdownQueued (queue.push .makeShutdownEvent).2 := by
  have notFull : ¬queue.size ≥ queue.maxSize := UInt64.not_le.mpr room
  have known : (Event.makeShutdownEvent : Event Handler).priority? = some ⟨0, by decide⟩ := rfl
  refine ⟨⟨0, by decide⟩, .makeShutdownEvent, ?_, rfl⟩
  simp [EventQueue.push, isOpen, notFull, known, EventQueue.insert]

/-- A queue with a `SHUTDOWN` event gives it out, or another event. -/
theorem shutdownQueued_tryPop {queue : EventQueue Handler} (queued : ShutdownQueued queue) :
    ∃ event after, queue.tryPop = (some event, after) ∧
      (event.type = .shutdown ∨ ShutdownQueued after) := by
  rcases queued with ⟨priority, shutdown, isIn, isShutdown⟩
  cases found : queue.getHighestPriorityQueue with
  | none =>
      have empty := queue.getHighestPriorityQueue_eq_none_iff.mp found priority
      rw [show queue.priorityQueues priority = [] from empty] at isIn
      cases isIn
  | some idx =>
      rcases EventQueue.removes_popFront found with ⟨event, front, removes⟩
      refine ⟨event, (queue.popFront idx).2, ?_, ?_⟩
      · rw [← front, EventQueue.tryPop, found]
      · by_cases same : priority = idx
        · subst same
          have oldest : queue.priorityQueues priority =
              event :: (queue.popFront priority).2.priorityQueues priority := removes.oldest
          rw [oldest] at isIn
          rcases List.mem_cons.mp isIn with rfl | later
          · exact Or.inl isShutdown
          · exact Or.inr ⟨priority, shutdown, later, isShutdown⟩
        · refine Or.inr ⟨priority, shutdown, ?_, isShutdown⟩
          simpa [EventQueue.popFront, Function.update_of_ne same] using isIn

/-! ## The signals -/

/-- The invariant: when `stop` has returned, the loop is signalled. -/
def Remembered (loop : EventLoop Handler) : Prop :=
  loop.stop = .returned → loop.Signalled

theorem Remembered.not_forgotten (remembered : loop.Remembered) : ¬loop.Forgotten := by
  rintro ⟨returned, inside, running, none⟩
  rcases remembered returned with left | queued | ⟨_, clear⟩
  · cases place : loop.run <;> simp [inLoop, LoopPc.left, place] at inside left
  · exact none queued
  · rw [running] at clear
    cases clear

theorem signalled_runStep (signalled : loop.Signalled) (stepped : loop.runStep = some next) :
    next.Signalled := by
  cases place : loop.run with
  | storeRunning =>
      simp only [runStep, place] at stepped
      cases stepped
      rcases signalled with left | queued | ⟨different, _⟩
      · simp [place, LoopPc.left] at left
      · exact Or.inr (Or.inl queued)
      · exact absurd place different
  | storeStarted =>
      simp only [runStep, place] at stepped
      cases stepped
      rcases signalled with left | queued | ⟨_, clear⟩
      · simp [place, LoopPc.left] at left
      · exact Or.inr (Or.inl queued)
      · exact Or.inr (Or.inr ⟨by simp, clear⟩)
  | loadRunning =>
      simp only [runStep, place] at stepped
      cases stepped
      rcases signalled with left | queued | ⟨_, clear⟩
      · simp [place, LoopPc.left] at left
      · exact Or.inr (Or.inl queued)
      · left
        simp [clear, LoopPc.left]
  | tryPop =>
      rcases signalled with left | queued | ⟨_, clear⟩
      · simp [place, LoopPc.left] at left
      · rcases shutdownQueued_tryPop queued with ⟨event, after, popped, isShutdown | stays⟩
        · simp only [runStep, place, popped] at stepped
          cases stepped
          left
          simp [isShutdown, LoopPc.left]
        · simp only [runStep, place, popped] at stepped
          cases stepped
          exact Or.inr (Or.inl stays)
      · simp only [runStep, place] at stepped
        split at stepped
        · cases stepped
          exact Or.inr (Or.inr ⟨by simp, clear⟩)
        · cases stepped
          refine Or.inr (Or.inr ⟨?_, clear⟩)
          split_ifs <;> simp
  | leaving =>
      simp only [runStep, place] at stepped
      cases stepped
      exact Or.inl rfl
  | unborn | handling | exited => simp [runStep, place] at stepped

/-- What a step of another thread leaves: `run` and `running_`, and the events in the queue. -/
theorem Signalled.of_queue (signalled : loop.Signalled) (place : next.run = loop.run)
    (flag : next.running = loop.running)
    (queue : ShutdownQueued loop.eventQueue → ShutdownQueued next.eventQueue) :
    next.Signalled := by
  unfold Signalled
  rw [place, flag]
  rcases signalled with left | queued | clear
  · exact Or.inl left
  · exact Or.inr (Or.inl (queue queued))
  · exact Or.inr (Or.inr clear)

theorem runStep_stop (stepped : loop.runStep = some next) : next.stop = loop.stop := by
  unfold runStep at stepped
  split at stepped
  case h_4 =>
    split at stepped
    · cases stepped
      rfl
    · cases stepped
      rfl
  all_goals cases stepped
  all_goals rfl

theorem remembered_step (remembered : loop.Remembered) (heard : loop.Heard action)
    (stepped : loop.step action = some next) : next.Remembered := by
  intro returned
  cases action with
  | run =>
      rw [runStep_stop stepped] at returned
      exact signalled_runStep (remembered returned) stepped
  | handlerReturns =>
      simp only [step] at stepped
      split at stepped
      next handling =>
        cases stepped
        rcases remembered returned with left | queued | ⟨_, clear⟩
        · simp [handling, LoopPc.left] at left
        · exact Or.inr (Or.inl queued)
        · exact Or.inr (Or.inr ⟨by simp, clear⟩)
      next => cases stepped
  | stop =>
      cases place : loop.stop with
      | storeRunning =>
          simp only [step, stopStep, place] at stepped
          cases stepped
          cases returned
      | pushShutdown =>
          simp only [step, stopStep, place] at stepped
          cases stepped
          rcases heard place with ⟨isOpen, room⟩ | signalled
          · exact Or.inr (Or.inl (shutdownQueued_pushShutdown isOpen room))
          · exact signalled.of_queue rfl rfl fun queued => shutdownQueued_push queued _
      | returned => simp [step, stopStep, place] at stepped
  | postEvent event =>
      cases stepped
      exact (remembered returned).of_queue rfl rfl fun queued => shutdownQueued_push queued event
  | close =>
      cases stepped
      exact (remembered returned).of_queue rfl rfl id

/-! ## The condition is needed -/

/-- `stop` returns unheard: `run` can go on to a state that has forgotten it. -/
theorem forgotten_of_not_heard (born : loop.run ≠ .unborn) (unheard : ¬loop.Heard .stop)
    (stepped : loop.step .stop = some next) :
    ∃ later final, Interleaving.run step next later = some final ∧ final.Forgotten := by
  simp only [Heard, Signalled, Classical.not_imp, not_or, not_and] at unheard
  rcases unheard with ⟨place, refused, notLeft, none, set⟩
  have push : (loop.eventQueue.push .makeShutdownEvent).2 = loop.eventQueue := by
    unfold EventQueue.push
    cases closed : loop.eventQueue.queueClosed with
    | true => rfl
    | false => simp [UInt64.not_lt.mp (refused closed)]
  simp only [step, stopStep, place, EventLoop.push, push] at stepped
  cases stepped
  have isSet : ∀ {pc}, loop.run = pc → pc ≠ .storeRunning → loop.running = true := by
    intro pc at_pc different
    simpa using set (at_pc ▸ different)
  cases at_pc : loop.run with
  | unborn => exact absurd at_pc born
  | storeRunning =>
      refine ⟨[.run, .run], _, by simp [Interleaving.run, step, runStep]; rfl, ?_⟩
      exact ⟨rfl, rfl, rfl, none⟩
  | storeStarted =>
      refine ⟨[.run], _, by simp [Interleaving.run, step, runStep]; rfl, ?_⟩
      exact ⟨rfl, rfl, isSet at_pc (by simp), none⟩
  | loadRunning | tryPop | handling =>
      exact ⟨[], _, rfl, rfl, by simp [inLoop], isSet at_pc (by simp), none⟩
  | leaving | exited => simp [at_pc, LoopPc.left] at notLeft

theorem run_ne_unborn_step (born : loop.run ≠ .unborn) (stepped : loop.step action = some next) :
    next.run ≠ .unborn := by
  cases action with
  | run =>
      simp only [step, runStep] at stepped
      split at stepped
      case h_4 =>
        split at stepped
        · cases stepped
          simp
        · cases stepped
          split_ifs <;> simp
      case h_3 =>
        cases stepped
        split_ifs <;> simp
      all_goals cases stepped
      all_goals simp
  | handlerReturns =>
      simp only [step] at stepped
      split at stepped
      · cases stepped
        simp
      · cases stepped
  | stop =>
      simp only [step, stopStep] at stepped
      split at stepped
      all_goals cases stepped
      all_goals exact born
  | postEvent _ | close =>
      cases stepped
      exact born

/-- For every interleaving of `run`, `stop`, posts and closings: where the queue takes the event
of `stop`, or the loop is signalled without it, `stop` is not forgotten; and a `stop` that is not
heard may be. -/
theorem neverForgotten {maxSize : UInt64} {actions : List (EventLoopAction Handler)}
    (ran : Interleaving.run step (construct maxSize) actions = some loop) :
    (Interleaving.Along step Heard (construct maxSize) actions → ¬loop.Forgotten) ∧
      ∀ next, ¬loop.Heard .stop → loop.step .stop = some next →
        ∃ later final, Interleaving.run step next later = some final ∧ final.Forgotten := by
  refine ⟨?_, ?_⟩
  · intro along
    have initially : (construct maxSize : EventLoop Handler).Remembered := by
      intro returned
      cases returned
    exact (Interleaving.invariant_along remembered_step initially along ran).not_forgotten
  · intro next unheard stepped
    have initially : (construct maxSize : EventLoop Handler).run ≠ .unborn := by
      simp [construct]
    have born : loop.run ≠ .unborn := Interleaving.invariant_run run_ne_unborn_step initially ran
    exact forgotten_of_not_heard born unheard stepped

/-- `stop` before `run`, with room in the queue. -/
def stopsEarly : List (EventLoopAction Unit) :=
  [.postEvent .makeCallbackDoneEvent, .stop, .stop, .run, .run, .run, .run]

theorem neverForgotten_stopsEarly :
    ∃ loop, Interleaving.run step (construct 2) stopsEarly = some loop ∧ loop.run = .leaving ∧
      ¬loop.Forgotten := by
  have seen : (Interleaving.run step (construct 2) stopsEarly).map (fun loop => loop.run) =
      some .leaving := by
    decide +kernel
  have along : Interleaving.Along step Heard (construct 2) stopsEarly := by
    decide +kernel
  rcases Option.map_eq_some_iff.mp seen with ⟨loop, ran, leaving⟩
  exact ⟨loop, ran, leaving, (neverForgotten ran).1 along⟩

/-- `stop` before `run`, with a full queue. -/
def stopsEarlyWhenFull : List (EventLoopAction Unit) :=
  [.postEvent .makeCallbackDoneEvent, .stop, .stop, .run, .run]

theorem neverForgotten_fails :
    ∃ loop, Interleaving.run step (construct 1) stopsEarlyWhenFull = some loop ∧
      loop.Forgotten := by
  have seen : (Interleaving.run step (construct 1) stopsEarlyWhenFull).map
      (fun loop => decide loop.Forgotten) = some true := by
    decide +kernel
  rcases Option.map_eq_some_iff.mp seen with ⟨loop, ran, forgotten⟩
  exact ⟨loop, ran, of_decide_eq_true forgotten⟩

end EventLoop

end HttpsServerSim
