import HttpsServerSim.MsgCenter.IoThreadTables

/-!
# Waking an IO thread

The IO thread again, now with the pipe that `wake_up` writes to and with `stop()` in its three
parts: the look at `running_`, the store, and the wake-up. A thread that waits in `kevent` with
nothing in the pipe is asleep until its descriptors or the time-out wake it. It must not have
missed anything by then: neither a descriptor that has been added nor a call of `stop()`.

Both ends of the pipe do not block, so a wake-up is lost only where the pipe is full, and reading
ends when it is empty.
-/

namespace HttpsServerSim

universe u

variable {Handler : Type u}

def pipeCapacity : ℕ := 65536

/-- `writeEnd` says whether `wakeup_fd_` is the open end of the pipe and not -1, and `pipe` counts
the bytes in it. `changed` says whether a call has changed the tables since they were last handed
to the kernel. `checked` counts the calls of `stop()` that have found the thread running, and
`stored` those that have set `running_` and are about to call `wake_up`. -/
structure WakeLoop (Handler : Type u) extends IoLoop Handler where
  writeEnd : Bool
  pipe : ℕ
  changed : Bool
  checked : ℕ
  stored : ℕ

inductive WakeAction (Handler : Type u) where
  | io (action : IoAction Handler)
  | stopCheck
  | stopStore
  | stopWake

namespace WakeLoop

def construct (eventQueue : Option (EventQueue Handler)) : WakeLoop Handler where
  toIoLoop := .construct eventQueue
  writeEnd := false
  pipe := 0
  changed := false
  checked := 0
  stored := 0

def wakeUp (loop : WakeLoop Handler) : WakeLoop Handler :=
  if loop.writeEnd then { loop with pipe := min (loop.pipe + 1) pipeCapacity } else loop

/-- The next report is one on the pipe, which is read until it is empty. -/
def drains (loop : WakeLoop Handler) : Bool :=
  match loop.pc with
  | .dispatching (reported :: _) => decide (reported.ident = loop.wakeupReadFd)
  | _ => false

/-- What an action that took the thread to `next` does to the pipe. -/
def afterIo (loop : WakeLoop Handler) (next : IoLoop Handler) :
    IoAction Handler → WakeLoop Handler
  | .addListenFd _ _ | .addConnFd _ _ | .removeFd _ =>
      wakeUp { loop with toIoLoop := next, changed := true }
  | .createPipe (some _) => { loop with toIoLoop := next, writeEnd := true, pipe := 0 }
  | .registerPipe false => { loop with toIoLoop := next, writeEnd := false, pipe := 0 }
  | .register => { loop with toIoLoop := next, changed := false }
  | .dispatch => { loop with toIoLoop := next, pipe := if loop.drains then 0 else loop.pipe }
  | .leave => { loop with toIoLoop := next, writeEnd := false, pipe := 0 }
  | _ => { loop with toIoLoop := next }

def step (loop : WakeLoop Handler) : WakeAction Handler → Option (WakeLoop Handler)
  | .io .stop => none
  | .io action => (loop.toIoLoop.step action).map fun next => loop.afterIo next action
  | .stopCheck => some (if loop.running then { loop with checked := loop.checked + 1 } else loop)
  | .stopStore =>
      if 0 < loop.checked then
        some { loop with
          running := false
          checked := loop.checked - 1
          stored := loop.stored + 1 }
      else none
  | .stopWake =>
      if 0 < loop.stored then some (wakeUp { loop with stored := loop.stored - 1 }) else none

/-! ## The thread without its pipe -/

/-- The action of the thread that an action is. -/
def ioAction : WakeAction Handler → Option (IoAction Handler)
  | .io action => some action
  | .stopStore => some .stop
  | .stopCheck => none
  | .stopWake => none

@[simp]
theorem toIoLoop_wakeUp (loop : WakeLoop Handler) : loop.wakeUp.toIoLoop = loop.toIoLoop := by
  unfold wakeUp
  split_ifs <;> rfl

@[simp]
theorem toIoLoop_afterIo (loop : WakeLoop Handler) (next : IoLoop Handler)
    (action : IoAction Handler) : (loop.afterIo next action).toIoLoop = next := by
  unfold afterIo
  split <;> simp

/-- The steps of an action other than `stop()`. -/
theorem step_io {loop next : WakeLoop Handler} {action : IoAction Handler}
    (stepped : loop.step (.io action) = some next) :
    ∃ moved, loop.toIoLoop.step action = some moved ∧ next = loop.afterIo moved action := by
  cases action with
  | stop => simp [step] at stepped
  | _ =>
      simp only [step, Option.map_eq_some_iff] at stepped
      rcases stepped with ⟨moved, ioStep, rfl⟩
      exact ⟨moved, ioStep, rfl⟩

/-- The pipe apart, the thread runs as the thread without one does. -/
theorem run_toIoLoop {loop final : WakeLoop Handler} {actions : List (WakeAction Handler)}
    (ran : Interleaving.run step loop actions = some final) :
    Interleaving.run IoLoop.step loop.toIoLoop (actions.filterMap ioAction) =
      some final.toIoLoop := by
  apply Interleaving.run_project ?_ ran
  intro state action next stepped
  cases action with
  | io action =>
      rcases step_io stepped with ⟨moved, ioStep, rfl⟩
      simpa [ioAction] using ioStep
  | stopCheck =>
      cases stepped
      simp only [ioAction]
      split_ifs <;> rfl
  | stopStore =>
      simp only [step] at stepped
      split_ifs at stepped
      cases stepped
      rfl
  | stopWake =>
      simp only [step] at stepped
      split_ifs at stepped
      cases stepped
      simp [ioAction]

/-! ## What the thread has not missed -/

/-- An event that is pushed changes nothing that the thread itself uses. -/
theorem push_frame (loop : IoLoop Handler) (event : Option (Event Handler)) :
    (loop.push event).wakeupReadFd = loop.wakeupReadFd ∧
      (loop.push event).interest = loop.interest ∧ (loop.push event).running = loop.running := by
  unfold IoLoop.push
  split
  next => exact ⟨rfl, rfl, rfl⟩
  next => split <;> exact ⟨rfl, rfl, rfl⟩

/-- The thread has the pipe and has not left its loop. -/
def InLoop : IoPc → Prop
  | .loadRunning | .register | .wait | .dispatching _ => True
  | _ => False

/-- What holds at any time: in its loop the thread watches the pipe and can be written to; when it
waits, it watches all descriptors or there is something in the pipe; and a call of `stop()` that it
has not seen before it waits has still to wake it up, or has done so. -/
structure Alert (loop : WakeLoop Handler) : Prop where
  writeEnd : InLoop loop.pc ∨ loop.pc = .registerPipe → loop.writeEnd = true
  pipeWatched : InLoop loop.pc → (loop.wakeupReadFd, .read) ∈ loop.interest
  watched : loop.pc = .wait →
    (loop.changed = false ∧ ∀ entry ∈ loop.tables.registrations, entry ∈ loop.interest) ∨
      0 < loop.pipe
  told : loop.pc = .register ∨ loop.pc = .wait → loop.running = true ∨ 0 < loop.stored ∨
    0 < loop.pipe

variable {loop : WakeLoop Handler}

theorem alert_construct (eventQueue : Option (EventQueue Handler)) :
    (construct eventQueue).Alert := by
  refine ⟨?_, ?_, ?_, ?_⟩ <;> simp [construct, IoLoop.construct, InLoop]

theorem pipe_wakeUp (loop : WakeLoop Handler) (open_ : loop.writeEnd = true) :
    0 < loop.wakeUp.pipe := by
  have room : 0 < pipeCapacity := by decide
  simp only [wakeUp, open_, if_true]
  omega

/-- A change of the tables under the lock, which wakes the thread up. -/
theorem Alert.changed (alert : loop.Alert) (tables : FdTables) :
    (wakeUp { loop with tables := tables, changed := true }).Alert := by
  have place : (wakeUp { loop with tables := tables, changed := true }).toIoLoop =
      { loop.toIoLoop with tables := tables } := toIoLoop_wakeUp _
  have writable :
      (wakeUp { loop with tables := tables, changed := true }).writeEnd = loop.writeEnd := by
    unfold wakeUp
    split_ifs <;> rfl
  have woken (inLoop : InLoop loop.pc ∨ loop.pc = .registerPipe) :
      0 < (wakeUp { loop with tables := tables, changed := true }).pipe :=
    pipe_wakeUp { loop with tables := tables, changed := true } (alert.writeEnd inLoop)
  refine ⟨?_, ?_, ?_, ?_⟩
  · rw [writable, place]
    exact alert.writeEnd
  · rw [place]
    exact alert.pipeWatched
  · intro waits
    rw [place] at waits
    have here : loop.pc = .wait := waits
    right
    apply woken
    simp [here, InLoop]
  · intro soon
    rw [place] at soon
    have here : loop.pc = .register ∨ loop.pc = .wait := soon
    right
    right
    apply woken
    rcases here with here | here <;> simp [here, InLoop]

/-- A step that changes nothing that matters to a thread that waits. -/
theorem Alert.of_elsewhere {next : WakeLoop Handler} (notWait : next.pc ≠ .wait)
    (notRegister : next.pc ≠ .register)
    (writeEnd : InLoop next.pc ∨ next.pc = .registerPipe → next.writeEnd = true)
    (pipeWatched : InLoop next.pc → (next.wakeupReadFd, .read) ∈ next.interest) : next.Alert := by
  refine ⟨writeEnd, pipeWatched, ?_, ?_⟩
  · exact fun waits => absurd waits notWait
  · rintro (registers | waits)
    · exact absurd registers notRegister
    · exact absurd waits notWait

theorem alert_io {action : IoAction Handler} {moved : IoLoop Handler} (alert : loop.Alert)
    (notStop : action ≠ .stop) (stepped : loop.toIoLoop.step action = some moved) :
    (loop.afterIo moved action).Alert := by
  cases action with
  | stop => exact absurd rfl notStop
  | addListenFd fd port =>
      cases stepped
      exact alert.changed _
  | addConnFd fd connId =>
      cases stepped
      exact alert.changed _
  | removeFd fd =>
      cases stepped
      exact alert.changed _
  | start =>
      simp only [IoLoop.step] at stepped
      split_ifs at stepped with running unborn
      · cases stepped
        exact alert
      · cases stepped
        apply Alert.of_elsewhere <;> simp [afterIo, InLoop]
  | queueChanges queue =>
      simp only [IoLoop.step] at stepped
      split_ifs at stepped
      cases stepped
      exact ⟨alert.writeEnd, alert.pipeWatched, alert.watched, alert.told⟩
  | createQueue created =>
      simp only [IoLoop.step] at stepped
      split_ifs at stepped with here ok
      · cases stepped
        apply Alert.of_elsewhere <;> simp [afterIo, InLoop]
      · cases stepped
        apply Alert.of_elsewhere <;> simp [afterIo, InLoop]
  | createPipe readFd =>
      simp only [IoLoop.step] at stepped
      split_ifs at stepped with here
      cases readFd with
      | none =>
          cases stepped
          apply Alert.of_elsewhere <;> simp [afterIo, InLoop]
      | some fd =>
          cases stepped
          apply Alert.of_elsewhere <;> simp [afterIo, InLoop]
  | registerPipe registered =>
      simp only [IoLoop.step] at stepped
      split_ifs at stepped with here ok
      · cases stepped
        have writable := alert.writeEnd (Or.inr here)
        subst ok
        apply Alert.of_elsewhere <;> simp [afterIo, InLoop, writable]
      · cases stepped
        cases registered with
        | true => exact absurd rfl ok
        | false => apply Alert.of_elsewhere <;> simp [afterIo, InLoop]
  | loadRunning =>
      simp only [IoLoop.step] at stepped
      split at stepped
      next here =>
        cases stepped
        have inLoop : InLoop loop.pc := by simp [here, InLoop]
        have writable := alert.writeEnd (Or.inl inLoop)
        have watched := alert.pipeWatched inLoop
        cases running : loop.running with
        | true =>
            refine ⟨?_, ?_, ?_, ?_⟩ <;> simp [afterIo, writable, watched]
        | false => apply Alert.of_elsewhere <;> simp [afterIo, InLoop]
      next here =>
        cases stepped
        cases running : loop.running <;> apply Alert.of_elsewhere <;> simp [afterIo, InLoop]
      next => cases stepped
  | register =>
      simp only [IoLoop.step] at stepped
      split_ifs at stepped with here
      cases stepped
      have inLoop : InLoop loop.pc := by simp [here, InLoop]
      have writable := alert.writeEnd (Or.inl inLoop)
      have watched := alert.pipeWatched inLoop
      have told := alert.told (Or.inl here)
      refine ⟨?_, ?_, ?_, ?_⟩
      · exact fun _ => writable
      · exact fun _ => List.mem_append_left _ watched
      · exact fun _ => Or.inl ⟨rfl, fun entry member => List.mem_append_right _ member⟩
      · exact fun _ => told
  | wait reported =>
      simp only [IoLoop.step] at stepped
      split_ifs at stepped with here
      cases stepped
      have inLoop : InLoop loop.pc := by simp [here.1, InLoop]
      have writable := alert.writeEnd (Or.inl inLoop)
      have watched := alert.pipeWatched inLoop
      cases reported <;> apply Alert.of_elsewhere <;>
        simp [afterIo, IoLoop.nextPc, writable, watched]
  | dispatch =>
      simp only [IoLoop.step] at stepped
      split at stepped
      next reported later here =>
        cases stepped
        have inLoop : InLoop loop.pc := by simp [here, InLoop]
        have writable := alert.writeEnd (Or.inl inLoop)
        have watched := alert.pipeWatched inLoop
        rcases push_frame loop.toIoLoop (loop.tables.eventOf loop.wakeupReadFd reported) with
          ⟨sameFd, sameInterest, _⟩
        cases later <;> apply Alert.of_elsewhere <;>
          simp [afterIo, IoLoop.nextPc, writable, watched, sameFd, sameInterest]
      next => cases stepped
  | leave =>
      simp only [IoLoop.step] at stepped
      split_ifs at stepped
      cases stepped
      apply Alert.of_elsewhere <;> simp [afterIo, InLoop]

/-- The part of `stop()` that stores, and the part that wakes the thread up. -/
theorem Alert.stopStore (alert : loop.Alert) :
    Alert { loop with running := false, checked := loop.checked - 1, stored := loop.stored + 1 } :=
  ⟨alert.writeEnd, alert.pipeWatched, alert.watched, fun _ => Or.inr (Or.inl (Nat.succ_pos _))⟩

theorem Alert.stopWake (alert : loop.Alert) :
    (wakeUp { loop with stored := loop.stored - 1 }).Alert := by
  cases open_ : loop.writeEnd with
  | true =>
      have woken : 0 < (wakeUp { loop with stored := loop.stored - 1 }).pipe :=
        pipe_wakeUp { loop with stored := loop.stored - 1 } open_
      simp only [wakeUp, open_, if_true] at woken ⊢
      exact ⟨fun _ => rfl, alert.pipeWatched, fun _ => Or.inr woken,
        fun _ => Or.inr (Or.inr woken)⟩
  | false =>
      -- without its pipe the thread is not in its loop
      have outside : ¬InLoop loop.pc := by
        intro inLoop
        have writable := alert.writeEnd (Or.inl inLoop)
        rw [open_] at writable
        cases writable
      simp only [wakeUp, Bool.false_eq_true, if_false]
      apply Alert.of_elsewhere
      · intro waits
        apply outside
        simp only at waits
        simp [waits, InLoop]
      · intro registers
        apply outside
        simp only at registers
        simp [registers, InLoop]
      · intro place
        have writable := alert.writeEnd place
        rw [open_] at writable
        cases writable
      · exact alert.pipeWatched

theorem Alert.step {action : WakeAction Handler} {next : WakeLoop Handler} (alert : loop.Alert)
    (stepped : loop.step action = some next) : next.Alert := by
  cases action with
  | io action =>
      rcases step_io stepped with ⟨moved, ioStep, rfl⟩
      apply alert_io alert ?_ ioStep
      rintro rfl
      cases stepped
  | stopCheck =>
      cases stepped
      split_ifs
      · exact ⟨alert.writeEnd, alert.pipeWatched, alert.watched, alert.told⟩
      · exact alert
  | stopStore =>
      simp only [WakeLoop.step] at stepped
      split_ifs at stepped
      cases stepped
      exact alert.stopStore
  | stopWake =>
      simp only [WakeLoop.step] at stepped
      split_ifs at stepped
      cases stepped
      exact alert.stopWake

/-- The thread waits, and nothing has been written to wake it up. -/
def Asleep (loop : WakeLoop Handler) : Prop := loop.pc = .wait ∧ loop.pipe = 0

/-- While the thread is asleep no call has changed the tables since they were handed to the kernel,
which watches each listener for reading, each connection for both, and the pipe; and a `stop()` that
has set `running_` has still to call `wake_up`. -/
theorem asleep_misses_nothing (eventQueue : Option (EventQueue Handler))
    (actions : List (WakeAction Handler)) (loop : WakeLoop Handler)
    (ran : Interleaving.run step (construct eventQueue) actions = some loop)
    (asleep : loop.Asleep) :
    loop.changed = false ∧
      (∀ fd ∈ loop.tables.listenFdToPort, (fd, .read) ∈ loop.interest) ∧
        (∀ fd ∈ loop.tables.fdToConnId,
          (fd, .read) ∈ loop.interest ∧ (fd, .write) ∈ loop.interest) ∧
          (loop.wakeupReadFd, .read) ∈ loop.interest ∧
            (loop.running = true ∨ 0 < loop.stored) := by
  rcases asleep with ⟨waits, empty⟩
  have alert : loop.Alert :=
    Interleaving.invariant_run Alert.step (alert_construct eventQueue) ran
  have consistent : loop.tables.Consistent :=
    (IoLoop.tables_run FdTables.consistent_construct FdTables.represents_construct
      (run_toIoLoop ran)).1
  have quiet : ¬0 < loop.pipe := by omega
  rcases (alert.watched waits).resolve_right quiet with ⟨unchanged, watched⟩
  refine ⟨unchanged, ?_, ?_, ?_, ?_⟩
  · intro fd listens
    exact watched _ ((consistent.mem_registrations fd).1.mpr (Or.inl listens))
  · intro fd connected
    exact ⟨watched _ ((consistent.mem_registrations fd).1.mpr (Or.inr connected)),
      watched _ ((consistent.mem_registrations fd).2.mpr connected)⟩
  · apply alert.pipeWatched
    simp [waits, InLoop]
  · rcases alert.told (Or.inr waits) with running | waking | written
    · exact Or.inl running
    · exact Or.inr waking
    · exact absurd written quiet

/-- A connection that is added while the thread waits, and a `stop()` that has not yet called
`wake_up` when it waits again. -/
def addedWhileWaiting : List (WakeAction Handler) :=
  [.io .start, .io (.createQueue true), .io (.createPipe (some 3)), .io (.registerPipe true),
    .io (.addListenFd 5 80), .io .loadRunning, .io .register,
    .io (.wait [⟨3, .read, false, false⟩]), .io .dispatch, .io .loadRunning, .io .register,
    .io (.addConnFd 6 1001), .io (.wait [⟨3, .read, false, false⟩]), .io .dispatch, .stopCheck,
    .io .loadRunning, .stopStore, .io .register]

theorem asleep_misses_nothing_addedWhileWaiting :
    ∃ loop : WakeLoop Unit,
      Interleaving.run step (construct (some (.construct 10000))) addedWhileWaiting = some loop ∧
        loop.Asleep ∧ loop.changed = false ∧
          (∀ fd ∈ loop.tables.listenFdToPort, (fd, .read) ∈ loop.interest) ∧
            (∀ fd ∈ loop.tables.fdToConnId,
              (fd, .read) ∈ loop.interest ∧ (fd, .write) ∈ loop.interest) ∧
              (loop.wakeupReadFd, .read) ∈ loop.interest ∧
                (loop.running = true ∨ 0 < loop.stored) := by
  have seen : ((Interleaving.run step (construct (some (.construct 10000)))
      (addedWhileWaiting : List (WakeAction Unit))).any fun loop =>
        decide (loop.pc = .wait ∧ loop.pipe = 0)) = true := by
    decide +kernel
  rcases (Option.any_eq_true _ _).mp seen with ⟨loop, ran, holds⟩
  have asleep : loop.pc = .wait ∧ loop.pipe = 0 := of_decide_eq_true holds
  exact ⟨loop, ran, asleep, asleep_misses_nothing _ _ loop ran asleep⟩

/-! ## The way out -/

/-- The actions of the thread itself. -/
def own : WakeAction Handler → Bool
  | .io (.createQueue _) | .io (.createPipe _) | .io (.registerPipe _) | .io .loadRunning
  | .io .register | .io (.wait _) | .io .dispatch | .io .leave => true
  | _ => false

/-- The most steps that a thread which is no longer to run still takes. -/
def stepsLeft : IoPc → ℕ
  | .unborn | .exited => 0
  | .sleeping | .leaving => 1
  | .loadRunning => 2
  | .registerPipe => 3
  | .createPipe => 4
  | .createQueue => 5
  | .dispatching reported => 2 + reported.length
  | .wait => 3 + kMaxEvents
  | .register => 4 + kMaxEvents

@[simp]
theorem stepsLeft_nextPc (reported : List KernelEvent) :
    stepsLeft (IoLoop.nextPc reported) = 2 + reported.length := by
  cases reported <;> rfl

/-- The reports that are left are at least one, and no more than the kernel was given room for. -/
def FewReports (pc : IoPc) : Prop :=
  ∀ reported, pc = .dispatching reported → reported ≠ [] ∧ reported.length ≤ kMaxEvents

def Polled (loop : WakeLoop Handler) : Prop := FewReports loop.pc

/-- `running_` is false. -/
def Halted (loop : WakeLoop Handler) : Prop := loop.running = false

theorem stepsLeft_le {pc : IoPc} (few : FewReports pc) : stepsLeft pc ≤ 4 + kMaxEvents := by
  cases pc with
  | dispatching reported =>
      have room := (few reported rfl).2
      simp only [stepsLeft]
      omega
  | _ => simp [stepsLeft, kMaxEvents]

theorem nextPc_eq_dispatching {reported later : List KernelEvent}
    (dispatching : IoLoop.nextPc reported = .dispatching later) :
    later = reported ∧ later ≠ [] := by
  cases reported with
  | nil => cases dispatching
  | cons first others =>
      cases dispatching
      exact ⟨rfl, List.cons_ne_nil first others⟩

theorem fewReports_ioStep {action : IoAction Handler} {moved : IoLoop Handler}
    (few : FewReports loop.pc) (stepped : loop.toIoLoop.step action = some moved) :
    FewReports moved.pc := by
  cases action with
  | addListenFd | addConnFd | removeFd | stop =>
      cases stepped
      exact few
  | wait reported =>
      simp only [IoLoop.step] at stepped
      split_ifs at stepped with here
      cases stepped
      intro later dispatching
      rcases nextPc_eq_dispatching dispatching with ⟨same, some_⟩
      refine ⟨some_, ?_⟩
      rw [same]
      exact here.2
  | dispatch =>
      simp only [IoLoop.step] at stepped
      split at stepped
      next first others here =>
        cases stepped
        intro later dispatching
        have room := (few _ here).2
        rcases nextPc_eq_dispatching dispatching with ⟨same, some_⟩
        refine ⟨some_, ?_⟩
        rw [List.length_cons] at room
        rw [same]
        omega
      next => cases stepped
  | createPipe readFd =>
      simp only [IoLoop.step] at stepped
      split_ifs at stepped
      cases readFd <;> cases stepped <;> simp [FewReports]
  | loadRunning =>
      simp only [IoLoop.step] at stepped
      split at stepped <;> cases stepped <;> split_ifs <;> simp [FewReports]
  | start | queueChanges | createQueue | registerPipe | register | leave =>
      simp only [IoLoop.step] at stepped
      split_ifs at stepped <;> cases stepped <;> first | exact few | simp [FewReports]

theorem Polled.step {action : WakeAction Handler} {next : WakeLoop Handler} (few : loop.Polled)
    (stepped : loop.step action = some next) : next.Polled := by
  cases action with
  | io action =>
      rcases step_io stepped with ⟨moved, ioStep, rfl⟩
      unfold Polled
      rw [toIoLoop_afterIo]
      exact fewReports_ioStep few ioStep
  | stopCheck =>
      cases stepped
      split_ifs <;> exact few
  | stopStore =>
      simp only [WakeLoop.step] at stepped
      split_ifs at stepped
      cases stepped
      exact few
  | stopWake =>
      simp only [WakeLoop.step] at stepped
      split_ifs at stepped
      cases stepped
      unfold Polled
      rw [toIoLoop_wakeUp]
      exact few

/-- Where `running_` is false and nobody calls `start`, it stays so, no step of the others puts the
end further away, and each step of the thread brings it closer. -/
theorem closer_step {action : WakeAction Handler} {next : WakeLoop Handler}
    (notRunning : loop.Halted) (notStart : action ≠ .io .start)
    (stepped : loop.step action = some next) :
    next.Halted ∧
      stepsLeft next.pc + (if own action = true then 1 else 0) ≤ stepsLeft loop.pc := by
  unfold Halted at notRunning ⊢
  cases action with
  | io action =>
      rcases step_io stepped with ⟨moved, ioStep, rfl⟩
      cases action with
      | stop => cases stepped
      | start => exact absurd rfl notStart
      | addListenFd | addConnFd | removeFd =>
          cases ioStep
          simp [own, notRunning]
      | queueChanges queue =>
          simp only [IoLoop.step] at ioStep
          split_ifs at ioStep
          cases ioStep
          simp [own, notRunning]
      | createQueue created =>
          simp only [IoLoop.step] at ioStep
          split_ifs at ioStep with here <;> cases ioStep <;>
            simp [own, notRunning, here, stepsLeft]
      | createPipe readFd =>
          simp only [IoLoop.step] at ioStep
          split_ifs at ioStep with here
          cases readFd <;> cases ioStep <;> simp [own, notRunning, here, stepsLeft]
      | registerPipe registered =>
          simp only [IoLoop.step] at ioStep
          split_ifs at ioStep with here <;> cases ioStep <;>
            simp [own, notRunning, here, stepsLeft]
      | loadRunning =>
          simp only [IoLoop.step] at ioStep
          split at ioStep <;> cases ioStep
          next here => simp [own, notRunning, here, stepsLeft]
          next here => simp [own, notRunning, here, stepsLeft]
      | register =>
          simp only [IoLoop.step] at ioStep
          split_ifs at ioStep with here
          cases ioStep
          refine ⟨notRunning, ?_⟩
          simp only [toIoLoop_afterIo, own, if_true, here, stepsLeft]
          omega
      | wait reported =>
          simp only [IoLoop.step] at ioStep
          split_ifs at ioStep with here
          cases ioStep
          have before : stepsLeft loop.pc = 3 + kMaxEvents := by
            rw [here.1]
            rfl
          have after := stepsLeft_nextPc reported
          refine ⟨notRunning, ?_⟩
          simp only [toIoLoop_afterIo, own, if_true]
          omega
      | dispatch =>
          simp only [IoLoop.step] at ioStep
          split at ioStep
          next reported later here =>
            cases ioStep
            have before : stepsLeft loop.pc = 2 + (reported :: later).length := by
              rw [here]
              rfl
            have after := stepsLeft_nextPc later
            rw [List.length_cons] at before
            refine ⟨?_, ?_⟩
            · simpa [(push_frame loop.toIoLoop _).2.2] using notRunning
            · simp only [toIoLoop_afterIo, own, if_true]
              omega
          next => cases ioStep
      | leave =>
          simp only [IoLoop.step] at ioStep
          split_ifs at ioStep with here
          cases ioStep
          simp [own, notRunning, afterIo, here, stepsLeft]
  | stopCheck =>
      cases stepped
      simp [own, notRunning]
  | stopStore =>
      simp only [WakeLoop.step] at stepped
      split_ifs at stepped
      cases stepped
      simp [own]
  | stopWake =>
      simp only [WakeLoop.step] at stepped
      split_ifs at stepped
      cases stepped
      simp [own, notRunning]

/-- A thread that has not exited can take a step, whatever the others have done. -/
theorem exists_own_step (few : loop.Polled) (alive : stepsLeft loop.pc ≠ 0) :
    ∃ action, own action = true ∧ (loop.step action).isSome = true := by
  cases pc : loop.pc with
  | unborn | exited => simp [pc, stepsLeft] at alive
  | createQueue =>
      exact ⟨.io (.createQueue true), rfl, by simp [step, IoLoop.step, pc]⟩
  | createPipe =>
      exact ⟨.io (.createPipe none), rfl, by simp [step, IoLoop.step, pc]⟩
  | registerPipe =>
      exact ⟨.io (.registerPipe true), rfl, by simp [step, IoLoop.step, pc]⟩
  | sleeping | loadRunning =>
      exact ⟨.io .loadRunning, rfl, by simp [step, IoLoop.step, pc]⟩
  | register =>
      exact ⟨.io .register, rfl, by simp [step, IoLoop.step, pc]⟩
  | wait =>
      exact ⟨.io (.wait []), rfl, by simp [step, IoLoop.step, pc]⟩
  | dispatching reported =>
      cases reported with
      | nil => exact absurd rfl (few [] pc).1
      | cons first later =>
          exact ⟨.io .dispatch, rfl, by simp [step, IoLoop.step, pc]⟩
  | leaving =>
      exact ⟨.io .leave, rfl, by simp [step, IoLoop.step, pc]⟩

/-- Once `running_` is false and until `start` is called, the thread takes at most 68 steps,
whatever the others do in between, and none is left to it only when it has exited. -/
theorem stop_terminates (eventQueue : Option (EventQueue Handler))
    (before after : List (WakeAction Handler)) (stopping final : WakeLoop Handler)
    (ran : Interleaving.run step (construct eventQueue) before = some stopping)
    (notRunning : stopping.running = false) (noStart : ∀ action ∈ after, action ≠ .io .start)
    (later : Interleaving.run step stopping after = some final) :
    after.countP own ≤ 68 ∧
      ((∀ action, own action = true → final.step action = none) →
        final.pc = .unborn ∨ final.pc = .exited) := by
  have few : stopping.Polled := by
    apply Interleaving.invariant_run Polled.step ?_ ran
    simp [Polled, FewReports, construct, IoLoop.construct]
  have fewLater : final.Polled := Interleaving.invariant_run Polled.step few later
  refine ⟨?_, ?_⟩
  · have bounded : after.countP own + stepsLeft final.pc ≤ stepsLeft stopping.pc :=
      Interleaving.countP_le_of_decreasing closer_step notRunning noStart later
    have most := stepsLeft_le few
    simp only [kMaxEvents] at most
    omega
  · intro stuck
    by_contra alive
    have left : stepsLeft final.pc ≠ 0 := by
      intro none_
      apply alive
      cases pc : final.pc <;> simp_all [stepsLeft]
    rcases exists_own_step fewLater left with ⟨action, isOwn, possible⟩
    rw [stuck action isOwn] at possible
    cases possible

/-- A thread that is told to stop between its look at `running_` and `kevent`, where it then finds
the pipe and a connection. -/
def stoppedBeforeWait : List (WakeAction Handler) :=
  [.io .start, .io (.createQueue true), .io (.createPipe (some 3)), .io (.registerPipe true),
    .io (.addConnFd 6 1001), .io .loadRunning, .stopCheck, .stopStore]

def reportedThen : List (WakeAction Handler) :=
  [.io .register, .stopWake, .io (.wait [⟨6, .read, false, false⟩, ⟨3, .read, false, false⟩]),
    .io .dispatch, .io .dispatch, .io .loadRunning, .io .leave]

theorem stop_terminates_stoppedBeforeWait :
    ∃ stopping final : WakeLoop Unit,
      Interleaving.run step (construct (some (.construct 10000))) stoppedBeforeWait =
          some stopping ∧
        Interleaving.run step stopping reportedThen = some final ∧
          (reportedThen : List (WakeAction Unit)).countP own ≤ 68 ∧
            ((∀ action, own action = true → final.step action = none) →
              final.pc = .unborn ∨ final.pc = .exited) := by
  have seen : ((Interleaving.run step (construct (some (.construct 10000)))
      (stoppedBeforeWait : List (WakeAction Unit))).any fun stopping =>
        decide (stopping.running = false) &&
          (Interleaving.run step stopping reportedThen).isSome) = true := by
    decide +kernel
  rcases (Option.any_eq_true _ _).mp seen with ⟨stopping, ran, holds⟩
  rcases Bool.and_eq_true_iff.mp holds with ⟨notRunning, isSome⟩
  rcases Option.isSome_iff_exists.mp isSome with ⟨final, later⟩
  refine ⟨stopping, final, ran, later, ?_⟩
  apply stop_terminates _ _ _ stopping final ran (of_decide_eq_true notRunning) ?_ later
  simp [reportedThen]

end WakeLoop

end HttpsServerSim
