import HttpsServerSim.MsgCenter.EventQueue
import HttpsServerSim.MsgCenter.WorkerPoolSteps

/-!
# The message center

`MsgCenter` with its worker pool, its event queue and the thread of its event loop. One thread
calls `start()` and later `stop()`; any number of threads call `post_event` and
`post_callback_task`, and so do the tasks of the workers and the handlers of the events, as
often as they like. An action moves one thread by one access to what the threads share.

`stop()` holds `post_mutex_` from its second step to its return, and so over the joins of
`WorkerPool::stop` and of the event loop. A caller of `post_event` waits for that mutex, which
matters where the caller is a task or a handler, since `stop()` joins their threads. Workers
post their `CALLBACK_DONE` events without that mutex, as IO threads post theirs.

`history` has the calls of `push` and `try_pop` with their results.
-/

namespace HttpsServerSim

universe u

open PriorityFifo (Call Reply)

/-- Where the thread of the event loop is in `EventLoop::run`. -/
inductive LoopPc where
  | unborn
  | storeRunning
  | storeStarted
  | loadRunning
  | tryPop
  | handling
  | leaving
  | exited
deriving DecidableEq, Repr

namespace LoopPc

/-- The loop has been left. -/
def left : LoopPc → Bool
  | leaving | exited => true
  | _ => false

end LoopPc

/-- Where the thread is that calls `start()` and then `stop()`; at `stopLoad` the first has
returned, at `stopped` the second. -/
inductive CenterPc where
  | startLoad
  | poolStart
  | spawnLoop
  | waitStarted
  | setPostCallbackDone
  | storeRunning
  | startFailed
  | stopLoad
  | stopLock
  | stopStoreRunning
  | poolStop
  | loopStoreRunning
  | loopPushShutdown
  | joinLoop
  | stopIoThreads
  | stopped
deriving DecidableEq, Repr

namespace CenterPc

/-- The event queue has been created and not destroyed. -/
def hasQueue : CenterPc → Bool
  | startLoad | startFailed | stopped => false
  | _ => true

/-- The event loop has been joined. -/
def loopJoined : CenterPc → Bool
  | stopIoThreads | stopped => true
  | _ => false

end CenterPc

/-- The callers of `post_event`. -/
inductive PostCaller (numWorkers : ℕ) where
  | task (index : Fin numWorkers)
  | handler
  | poster
deriving DecidableEq, Repr

/-- Who holds `post_mutex_`; a caller of `post_event` has found `running_` set or has not looked
yet. -/
inductive PostMutexHolder (numWorkers : ℕ) (Handler : Type u) where
  | stop
  | caller (caller : PostCaller numWorkers) (event : Event Handler) (foundRunning : Bool)
deriving DecidableEq, Repr

structure MsgCenter (numWorkers : ℕ) (Handler : Type u) where
  ioThreadCount : ℕ
  pool : WorkerPool numWorkers
  queue : EventQueue Handler
  loop : LoopPc
  loopRunning : Bool
  loopStarted : Bool
  running : Bool
  postMutex : Option (PostMutexHolder numWorkers Handler)
  taskWants : Fin numWorkers → Option (Event Handler)
  handlerWants : Option (Event Handler)
  control : CenterPc
  history : List (Call (Event Handler) × Reply (Event Handler))

inductive CenterAction (numWorkers : ℕ) (Handler : Type u) where
  | control
  | startTimeout
  | loop
  | handlerReturns
  | pool (action : PoolAction numWorkers)
  | taskPosts (index : Fin numWorkers) (event : Event Handler)
  | handlerPosts (event : Event Handler)
  | taskLocks (index : Fin numWorkers)
  | handlerLocks
  | posterLocks (event : Event Handler)
  | postLoadRunning
  | postPush
  | directPush (event : Event Handler)

namespace MsgCenter

variable {numWorkers : ℕ} {Handler : Type u}

def construct (numWorkers ioThreadCount : ℕ) : MsgCenter numWorkers Handler where
  ioThreadCount := ioThreadCount
  pool := .construct numWorkers true
  queue := .construct 10000
  loop := .unborn
  loopRunning := false
  loopStarted := false
  running := false
  postMutex := none
  taskWants := fun _ => none
  handlerWants := none
  control := .startLoad
  history := []

/-- `EventQueue::push`, with its entry in the history. -/
def push (center : MsgCenter numWorkers Handler) (event : Event Handler) :
    MsgCenter numWorkers Handler :=
  let (accepted, queue) := center.queue.push event
  { center with
    queue := queue
    history := center.history ++ [(.push event, if accepted then .accepted else .refused)] }

/-- `start()` and `stop()`. Their calls of `WorkerPool::start` and `WorkerPool::stop` last until
these return. -/
def controlStep (center : MsgCenter numWorkers Handler) : Option (MsgCenter numWorkers Handler) :=
  match center.control with
  | .startLoad =>
      some
        { center with
          control :=
            if center.running then .stopLoad
            else if center.ioThreadCount = 0 ∨ numWorkers = 0 then .startFailed
            else .poolStart }
  | .poolStart =>
      if center.pool.control = .stopLoad then some { center with control := .spawnLoop }
      else center.pool.controlStep.map fun pool => { center with pool := pool }
  | .spawnLoop => some { center with loop := .storeRunning, control := .waitStarted }
  | .waitStarted =>
      if center.loopStarted then some { center with control := .setPostCallbackDone } else none
  | .setPostCallbackDone =>
      some
        { center with
          pool := { center.pool with postCallbackDone := true }
          control := .storeRunning }
  | .storeRunning => some { center with running := true, control := .stopLoad }
  | .startFailed => none
  | .stopLoad => some { center with control := if center.running then .stopLock else .stopped }
  | .stopLock =>
      if center.postMutex.isNone then
        some { center with postMutex := some .stop, control := .stopStoreRunning }
      else none
  | .stopStoreRunning => some { center with running := false, control := .poolStop }
  | .poolStop =>
      if center.pool.control = .stopped then some { center with control := .loopStoreRunning }
      else center.pool.controlStep.map fun pool => { center with pool := pool }
  | .loopStoreRunning => some { center with loopRunning := false, control := .loopPushShutdown }
  | .loopPushShutdown => some { center.push .makeShutdownEvent with control := .joinLoop }
  | .joinLoop =>
      if center.loop = .exited then some { center with control := .stopIoThreads } else none
  | .stopIoThreads => some { center with postMutex := none, control := .stopped }
  | .stopped => none

/-- `EventLoop::run` outside of a handler. -/
def loopStep (center : MsgCenter numWorkers Handler) : Option (MsgCenter numWorkers Handler) :=
  match center.loop with
  | .storeRunning => some { center with loopRunning := true, loop := .storeStarted }
  | .storeStarted => some { center with loopStarted := true, loop := .loadRunning }
  | .loadRunning =>
      some { center with loop := if center.loopRunning then .tryPop else .leaving }
  | .tryPop =>
      match center.queue.tryPop with
      | (none, queue) =>
          some
            { center with
              queue := queue
              loop := .loadRunning
              history := center.history ++ [(.tryPop, .nothing)] }
      | (some event, queue) =>
          some
            { center with
              queue := queue
              loop :=
                if event.type ≠ .shutdown then
                  if event.handler.isSome then .handling else .loadRunning
                else .leaving
              history := center.history ++ [(.tryPop, .item event)] }
  | .leaving => some { center with loopRunning := false, loop := .exited }
  | .unborn | .handling | .exited => none

/-- The caller does not have the mutex. -/
def outside (center : MsgCenter numWorkers Handler) (caller : PostCaller numWorkers) : Bool :=
  match center.postMutex with
  | some (.caller holder _ _) => holder ≠ caller
  | _ => true

/-- The task of a worker runs and is not in `post_event`. -/
def taskFree (center : MsgCenter numWorkers Handler) (index : Fin numWorkers) : Bool :=
  (center.pool.workers index).task?.isSome && (center.taskWants index).isNone &&
    center.outside (.task index)

/-- The handler of an event runs and is not in `post_event`. -/
def handlerFree (center : MsgCenter numWorkers Handler) : Bool :=
  decide (center.loop = .handling) && center.handlerWants.isNone && center.outside .handler

/-- The steps of the pool, but for those of the thread that starts and stops it. A worker that is
done with a task posts its event in the same step in which it looks whether it has to. -/
def poolStep (center : MsgCenter numWorkers Handler) :
    PoolAction numWorkers → Option (MsgCenter numWorkers Handler)
  | .control | .setPostCallbackDone _ => none
  | .finishTask index error =>
      if center.taskFree index then
        (center.pool.step (.finishTask index error)).map fun pool => { center with pool := pool }
      else none
  | .worker index =>
      (center.pool.step (.worker index)).map fun pool =>
        if center.pool.workers index = .executed ∧ center.pool.postCallbackDone ∧
            center.pool.eventLoopSet then
          { center.push .makeCallbackDoneEvent with pool := pool }
        else { center with pool := pool }
  | action => (center.pool.step action).map fun pool => { center with pool := pool }

def step (center : MsgCenter numWorkers Handler) :
    CenterAction numWorkers Handler → Option (MsgCenter numWorkers Handler)
  | .control => center.controlStep
  | .startTimeout =>
      if center.control = .waitStarted then some { center with control := .startFailed } else none
  | .loop => center.loopStep
  | .handlerReturns =>
      if center.handlerFree then some { center with loop := .loadRunning } else none
  | .pool action => center.poolStep action
  | .taskPosts index event =>
      if center.taskFree index then
        some { center with taskWants := Function.update center.taskWants index (some event) }
      else none
  | .handlerPosts event =>
      if center.handlerFree then some { center with handlerWants := some event } else none
  | .taskLocks index =>
      match center.taskWants index with
      | some event =>
          if center.postMutex.isNone then
            some
              { center with
                taskWants := Function.update center.taskWants index none
                postMutex := some (.caller (.task index) event false) }
          else none
      | none => none
  | .handlerLocks =>
      match center.handlerWants with
      | some event =>
          if center.postMutex.isNone then
            some
              { center with
                handlerWants := none
                postMutex := some (.caller .handler event false) }
          else none
      | none => none
  | .posterLocks event =>
      if center.postMutex.isNone then
        some { center with postMutex := some (.caller .poster event false) }
      else none
  | .postLoadRunning =>
      match center.postMutex with
      | some (.caller caller event false) =>
          some
            { center with
              postMutex := if center.running then some (.caller caller event true) else none }
      | _ => none
  | .postPush =>
      match center.postMutex with
      | some (.caller _ event true) => some { center.push event with postMutex := none }
      | _ => none
  | .directPush event => if center.control.hasQueue then some (center.push event) else none

/-- The message center after an interleaving. -/
def run (center : MsgCenter numWorkers Handler)
    (actions : List (CenterAction numWorkers Handler)) : Option (MsgCenter numWorkers Handler) :=
  Interleaving.run step center actions

/-- `start()` of a center with one worker, and a task that the worker has taken. -/
def oneTaskRuns : List (CenterAction 1 Handler) :=
  [.control, .control, .control, .control, .control, .control, .control, .control, .loop, .loop,
    .control, .control, .control, .pool .postLock, .pool .postLoadClosed, .pool .postPush,
    .pool (.worker onlyWorker), .pool (.worker onlyWorker), .pool (.worker onlyWorker)]

end MsgCenter

end HttpsServerSim
