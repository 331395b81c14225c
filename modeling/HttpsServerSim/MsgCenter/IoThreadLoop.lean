import HttpsServerSim.Lib.Interleaving
import HttpsServerSim.MsgCenter.EventQueue
import HttpsServerSim.MsgCenter.ListenCenter

/-!
# An IO thread

`IoThread` with its four containers, the functions that change them from any thread, and the loop
over `kqueue`. A critical section of `fd_mutex_` is one step, and so is each event that the kernel
has reported. The kernel may report any events on any descriptors, also on those that have been
removed or used again since. What other threads do to the event queue is left open.
-/

namespace HttpsServerSim

universe u

/-! ## The containers -/

/-- The containers of an `IoThread`: to its listening half the one of the connections. -/
structure FdTables extends IoThread where
  fdToConnId : AList fun _ : ℤ => UInt64
  connFds : List ℤ

namespace FdTables

def construct : FdTables where
  toIoThread := .construct
  fdToConnId := ∅
  connFds := []

def addListenFd (fd : ℤ) (port : UInt16) (tables : FdTables) : FdTables :=
  { tables with toIoThread := tables.toIoThread.addListenFd fd port }

def addConnFd (fd : ℤ) (connId : UInt64) (tables : FdTables) : FdTables :=
  { tables with
    fdToConnId := tables.fdToConnId.insert fd connId
    connFds := pushNew fd tables.connFds }

/-- The second half of `remove_fd`. -/
def removeConnFd (fd : ℤ) (tables : FdTables) : FdTables :=
  if fd ∈ tables.fdToConnId then
    { tables with
      fdToConnId := tables.fdToConnId.erase fd
      connFds := tables.connFds.erase fd }
  else tables

def removeFd (fd : ℤ) (tables : FdTables) : FdTables :=
  removeConnFd fd { tables with toIoThread := tables.toIoThread.removeFd fd }

end FdTables

/-! ## Events -/

/-- `EVFILT_READ`, `EVFILT_WRITE`, or another filter. -/
inductive KernelFilter where
  | read
  | write
  | other
deriving DecidableEq, Repr

/-- A `struct kevent` that is reported, with its flags `EV_ERROR` and `EV_EOF`. -/
structure KernelEvent where
  ident : ℤ
  filter : KernelFilter
  error : Bool := false
  eof : Bool := false
deriving DecidableEq, Repr

namespace FdTables

variable {Handler : Type u}

/-- What is handed to the kernel at the start of a round. -/
def registrations (tables : FdTables) : List (ℤ × KernelFilter) :=
  tables.listenFds.map (fun fd => (fd, .read)) ++
    tables.connFds.flatMap fun fd => [(fd, .read), (fd, .write)]

/-- An event of a descriptor that is a connection. -/
def connEvent (type : EventType) (fd : ℤ) (tables : FdTables) : Option (Event Handler) :=
  (tables.fdToConnId.lookup fd).map fun connId => { type := type, connId := connId, fd := fd }

def readEvent (fd : ℤ) (tables : FdTables) : Option (Event Handler) :=
  if fd ∈ tables.listenFdToPort then some { type := .accept, connId := 0, fd := fd }
  else tables.connEvent .read fd

/-- The event that is made of one that the kernel has reported. -/
def eventOf (wakeupReadFd : ℤ) (reported : KernelEvent) (tables : FdTables) :
    Option (Event Handler) :=
  if reported.ident = wakeupReadFd then none
  else if reported.error then none
  else if reported.eof then tables.connEvent .error reported.ident
  else
    match reported.filter with
    | .read => tables.readEvent reported.ident
    | .write => tables.connEvent .write reported.ident
    | .other => none

end FdTables

/-! ## The loop -/

/-- Where the thread is in `event_loop_mac`; at `sleeping` it polls after a failure. -/
inductive IoPc where
  | unborn
  | createQueue
  | createPipe
  | registerPipe
  | sleeping
  | loadRunning
  | register
  | wait
  | dispatching (reported : List KernelEvent)
  | leaving
  | exited
deriving DecidableEq

/-- `interest` has what the kernel has been asked to watch, `pushed` the events that the thread
has pushed. -/
structure IoLoop (Handler : Type u) where
  tables : FdTables
  eventQueue : Option (EventQueue Handler)
  running : Bool
  wakeupReadFd : ℤ
  interest : List (ℤ × KernelFilter)
  pc : IoPc
  pushed : List (Event Handler)

inductive IoAction (Handler : Type u) where
  | start
  | stop
  | addListenFd (fd : ℤ) (port : UInt16)
  | addConnFd (fd : ℤ) (connId : UInt64)
  | removeFd (fd : ℤ)
  | queueChanges (queue : EventQueue Handler)
  | createQueue (created : Bool)
  | createPipe (readFd : Option ℤ)
  | registerPipe (registered : Bool)
  | loadRunning
  | register
  | wait (reported : List KernelEvent)
  | dispatch
  | leave

def kMaxEvents : ℕ := 64

namespace IoLoop

variable {Handler : Type u}

def construct (eventQueue : Option (EventQueue Handler)) : IoLoop Handler where
  tables := .construct
  eventQueue := eventQueue
  running := false
  wakeupReadFd := -1
  interest := []
  pc := .unborn
  pushed := []

/-- `event_queue_->push(event)`, where both are there. -/
def push (loop : IoLoop Handler) : Option (Event Handler) → IoLoop Handler
  | none => loop
  | some event =>
      match loop.eventQueue with
      | none => loop
      | some queue =>
          { loop with
            eventQueue := some (queue.push event).2
            pushed := loop.pushed ++ [event] }

/-- The rest of a round, or the next one. -/
def nextPc : List KernelEvent → IoPc
  | [] => .loadRunning
  | reported => .dispatching reported

/-- `stop()` returns when the thread has exited, and `start()` may be called again. A `wait` that is
interrupted, fails or times out reports nothing. -/
def step (loop : IoLoop Handler) : IoAction Handler → Option (IoLoop Handler)
  | .start =>
      if loop.running then some loop
      else if loop.pc = .unborn ∨ loop.pc = .exited then
        some { loop with running := true, pc := .createQueue }
      else none
  | .stop => some { loop with running := false }
  | .addListenFd fd port => some { loop with tables := loop.tables.addListenFd fd port }
  | .addConnFd fd connId => some { loop with tables := loop.tables.addConnFd fd connId }
  | .removeFd fd => some { loop with tables := loop.tables.removeFd fd }
  | .queueChanges queue =>
      if loop.eventQueue.isSome then some { loop with eventQueue := some queue } else none
  | .createQueue created =>
      if loop.pc = .createQueue then
        some { loop with pc := if created then .createPipe else .sleeping }
      else none
  | .createPipe readFd =>
      if loop.pc = .createPipe then
        match readFd with
        | some fd => some { loop with wakeupReadFd := fd, pc := .registerPipe }
        | none => some { loop with pc := .sleeping }
      else none
  | .registerPipe registered =>
      if loop.pc = .registerPipe then
        if registered then
          some { loop with
            interest := loop.interest ++ [(loop.wakeupReadFd, .read)]
            pc := .loadRunning }
        else some { loop with wakeupReadFd := -1, pc := .sleeping }
      else none
  | .loadRunning =>
      match loop.pc with
      | .loadRunning => some { loop with pc := if loop.running then .register else .leaving }
      | .sleeping => some { loop with pc := if loop.running then .sleeping else .exited }
      | _ => none
  | .register =>
      if loop.pc = .register then
        some { loop with interest := loop.interest ++ loop.tables.registrations, pc := .wait }
      else none
  | .wait reported =>
      if loop.pc = .wait ∧ reported.length ≤ kMaxEvents then
        some { loop with pc := nextPc reported }
      else none
  | .dispatch =>
      match loop.pc with
      | .dispatching (reported :: later) =>
          some { loop.push (loop.tables.eventOf loop.wakeupReadFd reported) with
            pc := nextPc later }
      | _ => none
  | .leave =>
      if loop.pc = .leaving then
        some { loop with wakeupReadFd := -1, interest := [], pc := .exited }
      else none

end IoLoop

end HttpsServerSim
