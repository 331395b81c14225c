import HttpsServerSim.Lib.Interleaving
import Mathlib.Data.Fintype.Basic
import Mathlib.Logic.Function.Basic

/-!
# The worker pool

`WorkerPool` with its threads: one that calls `start()` and later `stop()`, the workers, and
any number of callers of `post_task`. An action moves one thread by one access to what the
threads share: taking the mutex, one atomic load or store, the accesses to the queue under
the mutex together with its release, or one call on the condition variable.

A caller of `post_task` has no state of its own before it takes the mutex; while it holds
the mutex its state is that of the mutex, and after that only its `notify_one` is left. A
worker that waits on the condition variable evaluates the predicate under the mutex, joins
the wait set in a later step, and takes the mutex again when it has been woken.

A task is known by its number in the order of the pushes. `pushed` and `executed` are history
variables, and what the tasks themselves do is left open but for what they throw.
-/

namespace HttpsServerSim

/-- What a task throws; both kinds are caught and logged. -/
inductive TaskError where
  | exception (what : String)
  | unknown
deriving DecidableEq, Repr

/-- Where a worker is in `worker_thread`. The loads from `evaluate` to `loadRunningAgain` are those
of the predicate, in order. -/
inductive WorkerPc where
  | unborn
  | enter
  | evaluate
  | loadClosed
  | loadRunning
  | loadRunningAgain
  | blocking
  | waiting
  | satisfied
  | noTask
  | executing (task : ℕ)
  | executed
  | exited
deriving DecidableEq, Repr

namespace WorkerPc

/-- The worker holds the mutex. -/
def inside : WorkerPc → Bool
  | evaluate | loadClosed | loadRunning | loadRunningAgain | blocking | satisfied | noTask => true
  | _ => false

/-- The worker has been created and has not left its loop. -/
def alive : WorkerPc → Bool
  | unborn | exited => false
  | _ => true

/-- The task that the worker has taken and not finished. -/
def task? : WorkerPc → Option ℕ
  | executing task => some task
  | _ => none

theorem alive_of_inside {pc : WorkerPc} (inside : pc.inside = true) : pc.alive = true := by
  cases pc <;> first | rfl | cases inside

theorem task?_of_inside {pc : WorkerPc} (inside : pc.inside = true) : pc.task? = none := by
  cases pc <;> first | rfl | cases inside

/-- A notification takes a worker out of the wait set. -/
def wake : WorkerPc → WorkerPc
  | waiting => enter
  | pc => pc

@[simp]
theorem inside_wake (pc : WorkerPc) : pc.wake.inside = pc.inside := by
  cases pc <;> rfl

@[simp]
theorem alive_wake (pc : WorkerPc) : pc.wake.alive = pc.alive := by
  cases pc <;> rfl

@[simp]
theorem task?_wake (pc : WorkerPc) : pc.wake.task? = pc.task? := by
  cases pc <;> rfl

end WorkerPc

/-- Where the thread is that calls `start()` and then `stop()`; at `stopLoad` the first has
returned, at `stopped` the second. -/
inductive ControlPc where
  | startLoad
  | startStoreRunning
  | startStoreClosed
  | startSpawn (count : ℕ)
  | stopLoad
  | stopStoreRunning
  | stopStoreClosed
  | stopNotify
  | stopJoin (count : ℕ)
  | stopped
deriving DecidableEq, Repr

/-- Who holds the mutex; a caller of `post_task` has found the queue open or has not looked yet. -/
inductive MutexHolder (numWorkers : ℕ) where
  | worker (index : Fin numWorkers)
  | poster (foundOpen : Bool)
deriving DecidableEq, Repr

structure WorkerPool (numWorkers : ℕ) where
  taskQueue : List ℕ
  running : Bool
  queueClosed : Bool
  eventLoopSet : Bool
  postCallbackDone : Bool
  mutex : Option (MutexHolder numWorkers)
  workers : Fin numWorkers → WorkerPc
  control : ControlPc
  notifiesLeft : ℕ
  callbackDoneEvents : ℕ
  errorLog : List TaskError
  pushed : ℕ
  executed : List ℕ

inductive PoolAction (numWorkers : ℕ) where
  | control
  | worker (index : Fin numWorkers)
  | finishTask (index : Fin numWorkers) (error : Option TaskError)
  | spuriousWake (index : Fin numWorkers)
  | postLock
  | postLoadClosed
  | postPush
  | postNotify (index : Option (Fin numWorkers))
  | setPostCallbackDone (enable : Bool)
deriving DecidableEq, Repr

/-- The worker of a pool that has one. -/
def onlyWorker : Fin 1 := Fin.last 0

namespace WorkerPool

variable {numWorkers : ℕ}

/-- The constructor; nothing has been called yet. -/
def construct (numWorkers : ℕ) (eventLoopSet : Bool) : WorkerPool numWorkers where
  taskQueue := []
  running := false
  queueClosed := false
  eventLoopSet := eventLoopSet
  postCallbackDone := false
  mutex := none
  workers := fun _ => .unborn
  control := .startLoad
  notifiesLeft := 0
  callbackDoneEvents := 0
  errorLog := []
  pushed := 0
  executed := []

def setWorker (pool : WorkerPool numWorkers) (index : Fin numWorkers) (pc : WorkerPc) :
    WorkerPool numWorkers :=
  { pool with workers := Function.update pool.workers index pc }

/-- `start()` and `stop()`. A join waits for the worker's exit. -/
def controlStep (pool : WorkerPool numWorkers) : Option (WorkerPool numWorkers) :=
  match pool.control with
  | .startLoad =>
      some { pool with control := if pool.running then .stopLoad else .startStoreRunning }
  | .startStoreRunning => some { pool with running := true, control := .startStoreClosed }
  | .startStoreClosed => some { pool with queueClosed := false, control := .startSpawn 0 }
  | .startSpawn count =>
      if more : count < numWorkers then
        some { pool.setWorker ⟨count, more⟩ .enter with control := .startSpawn (count + 1) }
      else some { pool with control := .stopLoad }
  | .stopLoad => some { pool with control := if pool.running then .stopStoreRunning else .stopped }
  | .stopStoreRunning => some { pool with running := false, control := .stopStoreClosed }
  | .stopStoreClosed => some { pool with queueClosed := true, control := .stopNotify }
  | .stopNotify =>
      some { pool with workers := fun index => (pool.workers index).wake, control := .stopJoin 0 }
  | .stopJoin count =>
      if more : count < numWorkers then
        if pool.workers ⟨count, more⟩ = .exited then
          some { pool with control := .stopJoin (count + 1) }
        else none
      else some { pool with workers := fun _ => .unborn, control := .stopped }
  | .stopped => none

/-- `worker_thread` outside of a task. -/
def workerStep (pool : WorkerPool numWorkers) (index : Fin numWorkers) :
    Option (WorkerPool numWorkers) :=
  match pool.workers index with
  | .enter =>
      if pool.mutex = none then
        some { pool.setWorker index .evaluate with mutex := some (.worker index) }
      else none
  | .evaluate =>
      some (pool.setWorker index (if pool.taskQueue.isEmpty then .loadClosed else .satisfied))
  | .loadClosed =>
      some (pool.setWorker index (if pool.queueClosed then .loadRunning else .loadRunningAgain))
  | .loadRunning =>
      some (pool.setWorker index (if pool.running then .loadRunningAgain else .satisfied))
  | .loadRunningAgain =>
      some (pool.setWorker index (if pool.running then .blocking else .satisfied))
  | .blocking => some { pool.setWorker index .waiting with mutex := none }
  | .satisfied =>
      match pool.taskQueue with
      | [] => some (pool.setWorker index .noTask)
      | task :: rest =>
          some { pool.setWorker index (.executing task) with taskQueue := rest, mutex := none }
  | .noTask =>
      some { pool.setWorker index (if pool.running then .enter else .exited) with mutex := none }
  | .executed =>
      some
        { pool.setWorker index .enter with
          callbackDoneEvents :=
            if pool.postCallbackDone ∧ pool.eventLoopSet then pool.callbackDoneEvents + 1
            else pool.callbackDoneEvents }
  | .unborn | .waiting | .executing _ | .exited => none

/-- The end of `task()`. -/
def finishTask (pool : WorkerPool numWorkers) (index : Fin numWorkers)
    (error : Option TaskError) : Option (WorkerPool numWorkers) :=
  match pool.workers index with
  | .executing task =>
      some
        { pool.setWorker index .executed with
          executed := pool.executed ++ [task]
          errorLog := pool.errorLog ++ error.toList }
  | _ => none

/-- `notify_one`: some worker of the wait set is woken, if there is any. -/
def notifyOne (pool : WorkerPool numWorkers) (index : Option (Fin numWorkers)) :
    Option (WorkerPool numWorkers) :=
  match pool.notifiesLeft, index with
  | 0, _ => none
  | left + 1, some index =>
      if pool.workers index = .waiting then
        some { pool.setWorker index .enter with notifiesLeft := left }
      else none
  | left + 1, none =>
      if ∃ index, pool.workers index = .waiting then none
      else some { pool with notifiesLeft := left }

def step (pool : WorkerPool numWorkers) : PoolAction numWorkers → Option (WorkerPool numWorkers)
  | .control => pool.controlStep
  | .worker index => pool.workerStep index
  | .finishTask index error => pool.finishTask index error
  | .spuriousWake index =>
      if pool.workers index = .waiting then some (pool.setWorker index .enter) else none
  | .postLock =>
      if pool.mutex = none then some { pool with mutex := some (.poster false) } else none
  | .postLoadClosed =>
      if pool.mutex = some (.poster false) then
        some { pool with mutex := if pool.queueClosed then none else some (.poster true) }
      else none
  | .postPush =>
      if pool.mutex = some (.poster true) then
        some
          { pool with
            taskQueue := pool.taskQueue ++ [pool.pushed]
            pushed := pool.pushed + 1
            mutex := none
            notifiesLeft := pool.notifiesLeft + 1 }
      else none
  | .postNotify index => pool.notifyOne index
  | .setPostCallbackDone enable => some { pool with postCallbackDone := enable }

/-- The pool after an interleaving. -/
def run (pool : WorkerPool numWorkers) (actions : List (PoolAction numWorkers)) :
    Option (WorkerPool numWorkers) :=
  Interleaving.run step pool actions

end WorkerPool

end HttpsServerSim
