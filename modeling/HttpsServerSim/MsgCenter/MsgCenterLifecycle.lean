import HttpsServerSim.Lib.Interleaving
import HttpsServerSim.MsgCenter.ListenCenter

/-!
# The life of a message center

`MsgCenter` with the components and the threads that `start` creates one after the other. Any of
these steps may throw, and the wait for the event loop may time out; the environment chooses
where. `start` then calls `stop`, which looks at `running_` first.

The parts of the facade that are not null or joinable are those marked here. What a thread left
behind does with an object that a later `start` replaces is not modelled.
-/

namespace HttpsServerSim

/-- An `IoThread` with its flag and its thread. -/
structure IoThreadLife extends IoThread where
  running : Bool
  hasThread : Bool

/-- A `WorkerPool` with its flag and its threads. -/
structure WorkerPoolLife where
  running : Bool
  workers : ℕ

structure MsgCenterLife where
  ioThreadCount : ℕ
  workerThreadCount : ℕ
  running : Bool
  eventQueue : Bool
  eventLoop : Bool
  workerPool : Option WorkerPoolLife
  ioThreads : List IoThreadLife
  eventLoopThread : Bool
  listenFds : List ℤ

/-- The places in `start` where an exception may come from, or the timeout. -/
inductive StartPoint where
  | eventQueue
  | eventLoop
  | workerPool
  | reserveIoThreads
  | ioThread (index : ℕ)
  | reserveWorkers
  | worker (index : ℕ)
  | startIoThread (index : ℕ)
  | eventLoopThread
  | waitForStarted
deriving DecidableEq

namespace MsgCenterLife

def construct (ioThreadCount workerThreadCount : ℕ) : MsgCenterLife where
  ioThreadCount := ioThreadCount
  workerThreadCount := workerThreadCount
  running := false
  eventQueue := false
  eventLoop := false
  workerPool := none
  ioThreads := []
  eventLoopThread := false
  listenFds := []

/-- The steps of `start`. An IO thread that a failed `start` has left running is passed over. -/
def startPoints (center : MsgCenterLife) : List StartPoint :=
  [.eventQueue, .eventLoop, .workerPool, .reserveIoThreads] ++
    (List.range center.ioThreadCount).map .ioThread ++ [.reserveWorkers] ++
      (List.range center.workerThreadCount).map .worker ++
        ((List.range (center.ioThreads.length + center.ioThreadCount)).filter fun index =>
          !center.ioThreads[index]?.any IoThreadLife.running).map .startIoThread ++
          [.eventLoopThread, .waitForStarted]

/-- What a step has done when it throws: the flags of a pool and of an IO thread are set before
their threads are created. -/
def enter (center : MsgCenterLife) : StartPoint → MsgCenterLife
  | .reserveWorkers =>
      { center with
        workerPool := center.workerPool.map fun pool => { pool with running := true } }
  | .startIoThread index =>
      { center with
        ioThreads := center.ioThreads.modify index fun thread => { thread with running := true } }
  | _ => center

/-- What a step does when it does not throw. -/
def complete (center : MsgCenterLife) : StartPoint → MsgCenterLife
  | .eventQueue => { center with eventQueue := true }
  | .eventLoop => { center with eventLoop := true }
  | .workerPool => { center with workerPool := some ⟨false, 0⟩ }
  | .ioThread _ =>
      { center with ioThreads := center.ioThreads ++ [⟨.construct, false, false⟩] }
  | .worker _ =>
      { center with
        workerPool := center.workerPool.map fun pool =>
          { pool with workers := pool.workers + 1 } }
  | .startIoThread index =>
      { center with
        ioThreads := center.ioThreads.modify index fun thread => { thread with hasThread := true } }
  | .eventLoopThread => { center with eventLoopThread := true }
  | .reserveIoThreads | .reserveWorkers | .waitForStarted => center

/-- The body of the `try` block. To assign a thread to one that is joinable terminates the
program. -/
def startFrom (throws : StartPoint → Bool) :
    List StartPoint → MsgCenterLife → Option (Bool × MsgCenterLife)
  | [], center => some (true, center)
  | point :: points, center =>
      if throws point then some (false, center.enter point)
      else if point = .eventLoopThread ∧ center.eventLoopThread then none
      else startFrom throws points ((center.enter point).complete point)

def stop (center : MsgCenterLife) : MsgCenterLife :=
  if center.running then
    { center with
      running := false
      eventLoopThread := false
      ioThreads := []
      workerPool := none
      eventLoop := false
      eventQueue := false }
  else center

def start (center : MsgCenterLife) (throws : StartPoint → Bool) :
    Option (MsgCenterError × MsgCenterLife) :=
  if center.running then some (.alreadyRunning, center)
  else if center.ioThreadCount = 0 ∨ center.workerThreadCount = 0 then
    some (.invalidParameter, center)
  else
    (startFrom throws center.startPoints center).map fun
      | (true, center) => (.success, { center with running := true })
      | (false, center) => (.threadCreateFailed, center.stop)

def addListenFd (center : MsgCenterLife) (fd : ℤ) (port : UInt16) :
    MsgCenterError × MsgCenterLife :=
  if fd < 0 then (.invalidParameter, center)
  else
    (.success,
      { center with
        listenFds := if fd ∈ center.listenFds then center.listenFds else center.listenFds ++ [fd]
        ioThreads := center.ioThreads.map fun thread =>
          { thread with toIoThread := thread.toIoThread.addListenFd fd port } })

def removeListenFd (center : MsgCenterLife) (fd : ℤ) : MsgCenterError × MsgCenterLife :=
  (if fd ∈ center.listenFds then .success else .notFound,
    { center with
      listenFds := center.listenFds.erase fd
      ioThreads := center.ioThreads.map fun thread =>
        { thread with toIoThread := thread.toIoThread.removeFd fd } })

end MsgCenterLife

inductive MsgCenterCall where
  | start (throws : StartPoint → Bool)
  | stop
  | addListenFd (fd : ℤ) (port : UInt16)
  | removeListenFd (fd : ℤ)

namespace MsgCenterLife

def step (center : MsgCenterLife) : MsgCenterCall → Option MsgCenterLife
  | .start throws => (center.start throws).map Prod.snd
  | .stop => some center.stop
  | .addListenFd fd port => some (center.addListenFd fd port).2
  | .removeListenFd fd => some (center.removeListenFd fd).2

/-! ## The steps of `start` -/

def isIoThread : StartPoint → Bool
  | .ioThread _ => true
  | _ => false

/-- The tables of the IO threads. -/
def tables (center : MsgCenterLife) : List IoThread :=
  center.ioThreads.map IoThreadLife.toIoThread

variable {center next : MsgCenterLife} {throws : StartPoint → Bool} {points : List StartPoint}
  {point : StartPoint} {created : Bool}

theorem tables_modify {change : IoThreadLife → IoThreadLife}
    (same : ∀ thread, (change thread).toIoThread = thread.toIoThread)
    (threads : List IoThreadLife) (index : ℕ) :
    (threads.modify index change).map IoThreadLife.toIoThread =
      threads.map IoThreadLife.toIoThread := by
  induction threads generalizing index with
  | nil => simp
  | cons thread threads ih =>
      cases index with
      | zero => simp [same]
      | succ index => simp [ih]

@[simp]
theorem tables_enter (center : MsgCenterLife) (point : StartPoint) :
    (center.enter point).tables = center.tables := by
  cases point with
  | startIoThread index =>
      apply tables_modify
      intro thread
      rfl
  | _ => rfl

theorem tables_complete (center : MsgCenterLife) (point : StartPoint) :
    (center.complete point).tables =
      center.tables ++ List.replicate (if isIoThread point then 1 else 0) .construct := by
  cases point with
  | ioThread index => simp [complete, tables, isIoThread]
  | startIoThread index =>
      have same : (center.complete (.startIoThread index)).tables = center.tables := by
        apply tables_modify
        intro thread
        rfl
      simp [same, isIoThread]
  | _ => simp [complete, tables, isIoThread]

/-- What the steps of `start` keep, and what they add. -/
structure StartedFrom (throws : StartPoint → Bool) (points : List StartPoint)
    (center : MsgCenterLife) (created : Bool) (next : MsgCenterLife) : Prop where
  ioThreadCount : next.ioThreadCount = center.ioThreadCount
  workerThreadCount : next.workerThreadCount = center.workerThreadCount
  running : next.running = center.running
  listenFds : next.listenFds = center.listenFds
  eventQueue : center.eventQueue = true → next.eventQueue = true
  all : created = true ↔ ∀ point ∈ points, throws point = false
  tables : ∃ count, next.tables = center.tables ++ List.replicate count .construct ∧
    (created = true → count = points.countP isIoThread)

theorem startedFrom_enter (thrown : throws point = true) :
    StartedFrom throws (point :: points) center false (center.enter point) := by
  refine ⟨?_, ?_, ?_, ?_, ?_, ?_, 0, ?_⟩
  case refine_6 => simp [thrown]
  case refine_7 => simp
  all_goals cases point
  all_goals first | rfl | exact id

theorem startedFrom_cons (passed : throws point = false)
    (later : StartedFrom throws points ((center.enter point).complete point) created next) :
    StartedFrom throws (point :: points) center created next := by
  rcases later.tables with ⟨count, tables, counted⟩
  refine ⟨later.ioThreadCount.trans ?_, later.workerThreadCount.trans ?_, later.running.trans ?_,
    later.listenFds.trans ?_, ?_, ?_, (if isIoThread point then 1 else 0) + count, ?_, ?_⟩
  case refine_5 =>
    intro before
    apply later.eventQueue
    cases point
    all_goals first | rfl | exact before
  case refine_6 => simp [later.all, passed]
  case refine_7 =>
    rw [tables, tables_complete, tables_enter, List.append_assoc, List.replicate_append_replicate]
  case refine_8 =>
    intro all
    rw [counted all, List.countP_cons]
    omega
  all_goals cases point
  all_goals rfl

theorem startFrom_spec (ran : startFrom throws points center = some (created, next)) :
    StartedFrom throws points center created next := by
  induction points generalizing center with
  | nil =>
      cases ran
      exact ⟨rfl, rfl, rfl, rfl, id, by simp, 0, by simp, by simp⟩
  | cons point points ih =>
      rw [startFrom] at ran
      split at ran
      next thrown =>
        cases ran
        exact startedFrom_enter thrown
      next passed =>
        split at ran
        next => cases ran
        next => exact startedFrom_cons (by simpa using passed) (ih ran)

theorem startPoints_ioThreads (center : MsgCenterLife) :
    center.startPoints.countP isIoThread = center.ioThreadCount := by
  have workers : ∀ indices : List ℕ, (indices.map StartPoint.worker).countP isIoThread = 0 := by
    intro indices
    simp [List.countP_map, isIoThread, Function.comp_def]
  have starts : ∀ indices : List ℕ,
      (indices.map StartPoint.startIoThread).countP isIoThread = 0 := by
    intro indices
    simp [List.countP_map, isIoThread, Function.comp_def]
  have ioThreads : ((List.range center.ioThreadCount).map StartPoint.ioThread).countP isIoThread =
      center.ioThreadCount := by
    simp [List.countP_map, isIoThread, Function.comp_def]
  simp only [startPoints, List.countP_append, workers, starts, ioThreads]
  simp [isIoThread]

/-- The three results of a call of `start`. -/
inductive StartOutcome (throws : StartPoint → Bool) (center : MsgCenterLife) :
    MsgCenterError → MsgCenterLife → Prop where
  | refused {error : MsgCenterError} (cause : center.running = true ∨
      center.ioThreadCount = 0 ∨ center.workerThreadCount = 0)
      (other : error = .alreadyRunning ∨ error = .invalidParameter) :
      StartOutcome throws center error center
  | failed {next : MsgCenterLife} (stopped : center.running = false)
      (ran : startFrom throws center.startPoints center = some (false, next)) :
      StartOutcome throws center .threadCreateFailed next
  | succeeded {next : MsgCenterLife} (stopped : center.running = false)
      (counts : center.ioThreadCount ≠ 0 ∧ center.workerThreadCount ≠ 0)
      (ran : startFrom throws center.startPoints center = some (true, next)) :
      StartOutcome throws center .success { next with running := true }

theorem start_outcome {error : MsgCenterError}
    (started : center.start throws = some (error, next)) :
    StartOutcome throws center error next := by
  unfold start at started
  split at started
  next running =>
    cases started
    exact .refused (Or.inl running) (Or.inl rfl)
  next stopped =>
    split at started
    next zero =>
      cases started
      exact .refused (Or.inr zero) (Or.inr rfl)
    next counts =>
      have stopped : center.running = false := by simpa using stopped
      rcases Option.map_eq_some_iff.mp started with ⟨⟨created, last⟩, ran, result⟩
      cases created with
      | true =>
          cases result
          exact .succeeded stopped (not_or.mp counts) ran
      | false =>
          -- The clean-up finds `running_` clear.
          have idle : last.stop = last := by
            rw [stop, if_neg]
            rw [(startFrom_spec ran).running, stopped]
            exact Bool.false_ne_true
          simp only [idle] at result
          cases result
          exact .failed stopped ran

/-! ## A failed start -/

/-- The center is as a new one, but for its list of listening descriptors: no component, no
thread. -/
def Stopped (center : MsgCenterLife) : Prop :=
  center = { construct center.ioThreadCount center.workerThreadCount with
    listenFds := center.listenFds }

theorem Stopped.eventQueue (stopped : center.Stopped) : center.eventQueue = false := by
  rw [stopped]
  rfl

/-- A failed `start` leaves the center stopped just if nothing was left over before and the first
step has failed. -/
theorem stopped_iff_of_failed (failed : center.start throws = some (.threadCreateFailed, next)) :
    next.Stopped ↔ center.Stopped ∧ throws .eventQueue = true := by
  have outcome := start_outcome failed
  generalize failure : MsgCenterError.threadCreateFailed = error at outcome failed
  cases outcome with
  | refused cause other =>
      rcases other with rfl | rfl
      · cases failure
      · cases failure
  | succeeded stopped counts ran => cases failure
  | failed stopped ran =>
      have first : ∃ points, center.startPoints = .eventQueue :: points := ⟨_, rfl⟩
      rcases first with ⟨points, first⟩
      rw [first, startFrom] at ran
      by_cases thrown : throws .eventQueue = true
      · rw [if_pos thrown] at ran
        cases ran
        simp [thrown, enter]
      · rw [if_neg thrown, if_neg (by simp)] at ran
        have created := (startFrom_spec ran).eventQueue rfl
        refine ⟨?_, fun both => absurd both.2 thrown⟩
        intro isStopped
        rw [isStopped.eventQueue] at created
        cases created

/-- The creation of the event queue fails on a new center. -/
theorem stopped_iff_of_failed_eventQueue :
    (construct 2 4).Stopped ↔
      (construct 2 4).Stopped ∧ decide (StartPoint.eventQueue = .eventQueue) = true :=
  stopped_iff_of_failed (show (construct 2 4).start (fun point => decide (point = .eventQueue)) =
    some (.threadCreateFailed, construct 2 4) from rfl)

/-- On a new center the wait for the event loop times out. -/
theorem stopped_of_failed_fails :
    ¬∀ (ioThreadCount workerThreadCount : ℕ) (throws : StartPoint → Bool) (next : MsgCenterLife),
      (construct ioThreadCount workerThreadCount).start throws =
          some (.threadCreateFailed, next) → next.Stopped := by
  intro alwaysStopped
  have stopped := alwaysStopped 1 1 (fun point => point = .waitForStarted) _ rfl
  have queue := stopped.eventQueue
  revert queue
  decide

end MsgCenterLife

end HttpsServerSim
