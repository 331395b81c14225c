import HttpsServerSim.MsgCenter.WorkerPool

/-!
# The steps of the worker pool

Everything that one step of a thread can do to the pool (`step_cases`), and what holds of
the threads in every interleaving (`Orderly`): the mutex has the owner that it says, a worker
that is about to leave its loop has found the queue empty and nobody has pushed since, and
`running_` and the workers are as far as `start()` and `stop()` have come.
-/

namespace HttpsServerSim

namespace ControlPc

/-- The number of workers that `start()` has yet to create. -/
def spawnsLeft (numWorkers : ℕ) : ControlPc → ℕ
  | startLoad | startStoreRunning | startStoreClosed => numWorkers
  | startSpawn count => numWorkers - count
  | _ => 0

/-- The value that `running_` has. -/
def runningNow : ControlPc → Bool
  | startStoreClosed | startSpawn _ | stopLoad | stopStoreRunning => true
  | _ => false

end ControlPc

namespace WorkerPool

variable {numWorkers : ℕ} {pool next : WorkerPool numWorkers} {action : PoolAction numWorkers}

/-! ## The moves of a worker -/

/-- What one step of a worker does to its place, the mutex, the queue and the finished tasks. -/
inductive WorkerMove (pool : WorkerPool numWorkers) (index : Fin numWorkers) :
    WorkerPc → Option (MutexHolder numWorkers) → List ℕ → List ℕ → Prop where
  | lock (was : pool.workers index = .enter) (free : pool.mutex = none) :
      WorkerMove pool index .evaluate (some (.worker index)) pool.taskQueue pool.executed
  | look {pc : WorkerPc} (was : (pool.workers index).inside = true) (stays : pc.inside = true)
      (emptyHanded : pc = .noTask → pool.taskQueue = []) :
      WorkerMove pool index pc pool.mutex pool.taskQueue pool.executed
  | release {pc : WorkerPc} (was : (pool.workers index).inside = true)
      (outside : pc.inside = false) (noTask : pc.task? = none)
      (exits : pc.alive = false → pool.workers index = .noTask) :
      WorkerMove pool index pc none pool.taskQueue pool.executed
  | take {task : ℕ} {rest : List ℕ} (was : pool.workers index = .satisfied)
      (first : pool.taskQueue = task :: rest) :
      WorkerMove pool index (.executing task) none rest pool.executed
  | finish {task : ℕ} (was : pool.workers index = .executing task) :
      WorkerMove pool index .executed pool.mutex pool.taskQueue (pool.executed ++ [task])
  | reenter (was : pool.workers index = .executed ∨ pool.workers index = .waiting) :
      WorkerMove pool index .enter pool.mutex pool.taskQueue pool.executed

/-- One worker moves; the rest of the pool keeps its place. -/
def Moves (pool next : WorkerPool numWorkers) : Prop :=
  ∃ index pc mutex taskQueue executed notifiesLeft callbackDoneEvents errorLog,
    pool.WorkerMove index pc mutex taskQueue executed ∧
      next =
        { pool with
          workers := Function.update pool.workers index pc
          mutex := mutex
          taskQueue := taskQueue
          executed := executed
          notifiesLeft := notifiesLeft
          callbackDoneEvents := callbackDoneEvents
          errorLog := errorLog }

theorem WorkerMove.alive {index : Fin numWorkers} {pc : WorkerPc}
    {mutex : Option (MutexHolder numWorkers)} {taskQueue executed : List ℕ}
    (move : pool.WorkerMove index pc mutex taskQueue executed) :
    (pool.workers index).alive = true := by
  cases move with
  | lock was free =>
      rw [was]
      rfl
  | look was stays emptyHanded => exact WorkerPc.alive_of_inside was
  | release was outside noTask exits => exact WorkerPc.alive_of_inside was
  | take was first =>
      rw [was]
      rfl
  | finish was =>
      rw [was]
      rfl
  | reenter was =>
      rcases was with was | was
      · rw [was]
        rfl
      · rw [was]
        rfl

/-- A worker that holds the mutex reads a variable and goes on. -/
theorem moves_look {index : Fin numWorkers} {was pc : WorkerPc}
    (place : pool.workers index = was) (inside : was.inside = true) (stays : pc.inside = true)
    (notYet : pc ≠ .noTask) : pool.Moves (pool.setWorker index pc) := by
  refine ⟨index, pc, _, _, _, _, _, _, .look ?_ stays ?_, rfl⟩
  · rw [place]
    exact inside
  · intro noTask
    exact absurd noTask notYet

theorem moves_of_workerStep {index : Fin numWorkers} (stepped : pool.workerStep index = some next) :
    pool.Moves next := by
  unfold workerStep at stepped
  cases was : pool.workers index with
  | unborn | waiting | executing | exited => simp [was] at stepped
  | enter =>
      simp only [was, Option.ite_none_right_eq_some, Option.some.injEq] at stepped
      rcases stepped with ⟨free, rfl⟩
      exact ⟨index, _, _, _, _, _, _, _, .lock was free, rfl⟩
  | evaluate | loadClosed | loadRunning | loadRunningAgain =>
      simp only [was, Option.some.injEq] at stepped
      subst stepped
      apply moves_look was rfl
      · split <;> rfl
      · split <;> simp
  | blocking =>
      simp only [was, Option.some.injEq] at stepped
      subst stepped
      refine ⟨index, _, _, _, _, _, _, _, .release (by rw [was]; rfl) rfl rfl ?_, rfl⟩
      intro dead
      cases dead
  | satisfied =>
      cases queue : pool.taskQueue with
      | nil =>
          simp only [was, queue, Option.some.injEq] at stepped
          subst stepped
          exact ⟨index, _, _, _, _, _, _, _, .look (by rw [was]; rfl) rfl fun _ => queue, rfl⟩
      | cons task rest =>
          simp only [was, queue, Option.some.injEq] at stepped
          subst stepped
          exact ⟨index, _, _, _, _, _, _, _, .take was queue, rfl⟩
  | noTask =>
      simp only [was, Option.some.injEq] at stepped
      subst stepped
      refine ⟨index, _, _, _, _, _, _, _, .release (by rw [was]; rfl) ?_ ?_ fun _ => was, rfl⟩
      · split <;> rfl
      · split <;> rfl
  | executed =>
      simp only [was, Option.some.injEq] at stepped
      subst stepped
      exact ⟨index, _, _, _, _, _, _, _, .reenter (Or.inl was), rfl⟩

/-! ## Where the threads are -/

/-- What holds in every state of every interleaving. -/
structure Orderly (pool : WorkerPool numWorkers) : Prop where
  owner : ∀ index, (pool.workers index).inside = true ↔ pool.mutex = some (.worker index)
  emptyHanded : ∀ index, pool.workers index = .noTask → pool.taskQueue = []
  running : pool.running = pool.control.runningNow
  unborn : ∀ index : Fin numWorkers,
    numWorkers - index.val ≤ pool.control.spawnsLeft numWorkers → pool.workers index = .unborn
  joined : ∀ {count}, pool.control = .stopJoin count →
    ∀ index : Fin numWorkers, index.val < count → pool.workers index = .exited
  stopped : pool.control = .stopped → ∀ index, pool.workers index = .unborn

theorem orderly_construct (numWorkers : ℕ) (eventLoopSet : Bool) :
    (construct numWorkers eventLoopSet).Orderly := by
  refine ⟨?_, ?_, rfl, ?_, ?_, ?_⟩
  · intro index
    simp [construct, WorkerPc.inside]
  · intro index leaving
    cases leaving
  · intro index left
    rfl
  · intro count joining
    cases joining
  · intro stopped
    cases stopped

/-- One worker moves, and the mutex changes hands only between it and nobody. -/
theorem owner_setWorker (orderly : pool.Orderly) {index : Fin numWorkers} {pc : WorkerPc}
    {mutex : Option (MutexHolder numWorkers)}
    (self : pc.inside = true ↔ mutex = some (.worker index))
    (others : ∀ other, other ≠ index →
      (pool.mutex = some (.worker other) ↔ mutex = some (.worker other))) (other : Fin numWorkers) :
    (Function.update pool.workers index pc other).inside = true ↔ mutex = some (.worker other) := by
  by_cases same : other = index
  · subst same
    rw [Function.update_self]
    exact self
  · rw [Function.update_of_ne same, orderly.owner other]
    exact others other same

theorem WorkerMove.owner {index : Fin numWorkers} {pc : WorkerPc}
    {mutex : Option (MutexHolder numWorkers)} {taskQueue executed : List ℕ}
    (move : pool.WorkerMove index pc mutex taskQueue executed) (orderly : pool.Orderly)
    (other : Fin numWorkers) :
    (Function.update pool.workers index pc other).inside = true ↔ mutex = some (.worker other) := by
  cases move with
  | lock was free =>
      apply owner_setWorker orderly
      · simp [WorkerPc.inside]
      · intro other different
        simp [free, different.symm]
  | look was stays emptyHanded =>
      apply owner_setWorker orderly
      · rw [stays, ← orderly.owner index, was]
      · intro other different
        exact Iff.rfl
  | release was outside noTask exits =>
      apply owner_setWorker orderly
      · simp [outside]
      · intro other different
        simp [(orderly.owner index).mp was, different.symm]
  | take was first =>
      have mine : pool.mutex = some (.worker index) := by
        apply (orderly.owner index).mp
        rw [was]
        rfl
      apply owner_setWorker orderly
      · simp [WorkerPc.inside]
      · intro other different
        simp [mine, different.symm]
  | finish was =>
      apply owner_setWorker orderly
      · rw [← orderly.owner index, was]
        rfl
      · intro other different
        exact Iff.rfl
  | reenter was =>
      apply owner_setWorker orderly
      · rw [← orderly.owner index]
        rcases was with was | was
        · rw [was]
          rfl
        · rw [was]
          rfl
      · intro other different
        exact Iff.rfl

theorem WorkerMove.emptyHanded {index : Fin numWorkers} {pc : WorkerPc}
    {mutex : Option (MutexHolder numWorkers)} {taskQueue executed : List ℕ}
    (move : pool.WorkerMove index pc mutex taskQueue executed) (orderly : pool.Orderly)
    {other : Fin numWorkers} (noTask : Function.update pool.workers index pc other = .noTask) :
    taskQueue = [] := by
  by_cases same : other = index
  · subst same
    rw [Function.update_self] at noTask
    subst noTask
    cases move with
    | look was stays emptyHanded => exact emptyHanded rfl
    | release was outside noTask exits => cases outside
  · rw [Function.update_of_ne same] at noTask
    have empty := orderly.emptyHanded other noTask
    cases move with
    | lock was free => exact empty
    | look was stays emptyHanded => exact empty
    | release was outside noTask exits => exact empty
    | take was first =>
        rw [first] at empty
        cases empty
    | finish was => exact empty
    | reenter was => exact empty

theorem Orderly.moves (orderly : pool.Orderly) (moves : pool.Moves next) : next.Orderly := by
  rcases moves with ⟨index, pc, mutex, taskQueue, executed, _, _, _, move, rfl⟩
  have alive := move.alive
  refine ⟨move.owner orderly, ?_, orderly.running, ?_, ?_, ?_⟩
  · intro other noTask
    exact move.emptyHanded orderly noTask
  · intro other left
    have unborn := orderly.unborn other left
    have different : other ≠ index := by
      intro same
      rw [← same, unborn] at alive
      cases alive
    simp only
    rw [Function.update_of_ne different]
    exact unborn
  · intro count joining other joined
    have exited := orderly.joined joining other joined
    have different : other ≠ index := by
      intro same
      rw [← same, exited] at alive
      cases alive
    simp only
    rw [Function.update_of_ne different]
    exact exited
  · intro stopped
    rw [orderly.stopped stopped index] at alive
    cases alive

/-- The steps of a caller of `post_task`, and of those who set the options, move no worker. -/
theorem Orderly.of_workers (orderly : pool.Orderly) (workers : next.workers = pool.workers)
    (control : next.control = pool.control) (running : next.running = pool.running)
    (outside : ∀ index, pool.mutex = some (.worker index) ↔ next.mutex = some (.worker index))
    (taskQueue : next.taskQueue = pool.taskQueue ∨ ∀ index, pool.mutex ≠ some (.worker index)) :
    next.Orderly := by
  refine ⟨?_, ?_, ?_, ?_, ?_, ?_⟩
  · intro index
    rw [workers, orderly.owner index]
    exact outside index
  · intro index noTask
    rw [workers] at noTask
    rcases taskQueue with same | free
    · rw [same]
      exact orderly.emptyHanded index noTask
    · apply absurd _ (free index)
      apply (orderly.owner index).mp
      rw [noTask]
      rfl
  · rw [running, control]
    exact orderly.running
  · rw [workers, control]
    exact orderly.unborn
  · rw [workers, control]
    exact orderly.joined
  · rw [workers, control]
    exact orderly.stopped

/-! ## The moves of `start()` and `stop()` -/

/-- What one step of `start()` or `stop()` does. -/
inductive ControlMove (pool : WorkerPool numWorkers) : WorkerPool numWorkers → Prop where
  | proceed {running queueClosed : Bool} {control : ControlPc}
      (runningNow : running = control.runningNow)
      (spawnsLeft : control.spawnsLeft numWorkers = pool.control.spawnsLeft numWorkers)
      (joined : ∀ {count}, control = .stopJoin count →
        ∀ index : Fin numWorkers, index.val < count → pool.workers index = .exited)
      (goesOn : control ≠ .stopped) :
      ControlMove pool
        { pool with running := running, queueClosed := queueClosed, control := control }
  | spawn {count : ℕ} (place : pool.control = .startSpawn count) (more : count < numWorkers) :
      ControlMove pool
        { pool.setWorker ⟨count, more⟩ .enter with control := .startSpawn (count + 1) }
  | notify (place : pool.control = .stopNotify) :
      ControlMove pool
        { pool with workers := fun index => (pool.workers index).wake, control := .stopJoin 0 }
  | finish {count : ℕ} (place : pool.control = .stopJoin count)
      (exited : ∀ index, pool.workers index = .exited) :
      ControlMove pool { pool with workers := fun _ => .unborn, control := .stopped }

theorem controlMove_of_controlStep (orderly : pool.Orderly)
    (stepped : pool.controlStep = some next) : pool.ControlMove next := by
  have running := orderly.running
  unfold controlStep at stepped
  cases place : pool.control with
  | startLoad =>
      have known : pool.running = false := by
        rw [running, place]
        rfl
      simp only [place, known, Option.some.injEq] at stepped
      subst stepped
      apply ControlMove.proceed
      · rfl
      · rw [place]
        rfl
      · simp
      · simp
  | startStoreRunning | stopStoreRunning =>
      simp only [place, Option.some.injEq] at stepped
      subst stepped
      apply ControlMove.proceed
      · rfl
      · rw [place]
        rfl
      · simp
      · simp
  | startStoreClosed | stopStoreClosed =>
      simp only [place, Option.some.injEq] at stepped
      subst stepped
      rw [place] at running
      apply ControlMove.proceed
      · exact running
      · rw [place]
        rfl
      · simp
      · simp
  | startSpawn count =>
      simp only [place] at stepped
      split at stepped
      · rename_i more
        cases stepped
        exact .spawn place more
      · rename_i noMore
        cases stepped
        rw [place] at running
        apply ControlMove.proceed
        · exact running
        · rw [place]
          simp only [ControlPc.spawnsLeft]
          omega
        · simp
        · simp
  | stopLoad =>
      have known : pool.running = true := by
        rw [running, place]
        rfl
      simp only [place, known, Option.some.injEq] at stepped
      subst stepped
      apply ControlMove.proceed
      · rfl
      · rw [place]
        rfl
      · simp
      · simp
  | stopNotify =>
      simp only [place, Option.some.injEq] at stepped
      subst stepped
      exact .notify place
  | stopJoin count =>
      rw [place] at running
      simp only [place] at stepped
      split at stepped
      · rename_i more
        simp only [Option.ite_none_right_eq_some, Option.some.injEq] at stepped
        rcases stepped with ⟨exited, rfl⟩
        apply ControlMove.proceed
        · exact running
        · rw [place]
          rfl
        · intro other joining index before
          cases joining
          rcases Nat.lt_succ_iff_lt_or_eq.mp before with earlier | now
          · exact orderly.joined place index earlier
          · have same : index = ⟨count, more⟩ := Fin.ext now
            rw [same]
            exact exited
        · simp
      · rename_i noMore
        cases stepped
        apply ControlMove.finish place
        intro index
        apply orderly.joined place index
        have bound := index.isLt
        omega
  | stopped => simp [place] at stepped

theorem Orderly.spawn (orderly : pool.Orderly) {count : ℕ}
    (place : pool.control = .startSpawn count) (more : count < numWorkers) :
    ({ pool.setWorker ⟨count, more⟩ .enter with control := .startSpawn (count + 1) } :
      WorkerPool numWorkers).Orderly := by
  have unborn : pool.workers ⟨count, more⟩ = .unborn := by
    apply orderly.unborn
    simp [place, ControlPc.spawnsLeft]
  have notRunning := orderly.running
  rw [place] at notRunning
  have others : ∀ {other : Fin numWorkers}, other ≠ ⟨count, more⟩ →
      (pool.setWorker ⟨count, more⟩ .enter).workers other = pool.workers other :=
    fun different => Function.update_of_ne different _ _
  refine ⟨?_, ?_, notRunning, ?_, ?_, ?_⟩
  · apply owner_setWorker orderly
    · change _ ↔ pool.mutex = _
      rw [← orderly.owner, unborn]
      rfl
    · intro other different
      exact Iff.rfl
  · intro other noTask
    by_cases same : other = ⟨count, more⟩
    · subst same
      simp [setWorker] at noTask
    · apply orderly.emptyHanded other
      rw [← others same]
      exact noTask
  · intro other left
    have bound := other.isLt
    have later : count + 1 ≤ other.val := by
      simp only [ControlPc.spawnsLeft] at left
      omega
    have different : other ≠ ⟨count, more⟩ := by
      intro same
      rw [same] at later
      exact absurd later (Nat.not_succ_le_self count)
    refine (others different).trans ?_
    apply orderly.unborn
    simp only [place, ControlPc.spawnsLeft]
    omega
  · intro joinCount joining
    cases joining
  · intro stopped
    cases stopped

theorem Orderly.controlMove (orderly : pool.Orderly) (move : pool.ControlMove next) :
    next.Orderly := by
  have running := orderly.running
  cases move with
  | proceed runningNow spawnsLeft joined goesOn =>
      refine ⟨orderly.owner, orderly.emptyHanded, runningNow, ?_, joined, ?_⟩
      · intro index left
        apply orderly.unborn index
        rw [← spawnsLeft]
        exact left
      · intro stopped
        exact absurd stopped goesOn
  | spawn place more => exact orderly.spawn place more
  | notify place =>
      rw [place] at running
      refine ⟨?_, ?_, running, ?_, ?_, ?_⟩
      · intro index
        rw [WorkerPc.inside_wake]
        exact orderly.owner index
      · intro index noTask
        apply orderly.emptyHanded index
        cases was : pool.workers index <;> simp_all [WorkerPc.wake]
      · intro index left
        have bound := index.isLt
        simp only [ControlPc.spawnsLeft] at left
        omega
      · intro count joining index before
        cases joining
        exact absurd before (Nat.not_lt_zero _)
      · intro stopped
        cases stopped
  | finish place exited =>
      rw [place] at running
      refine ⟨?_, ?_, running, ?_, ?_, ?_⟩
      · intro index
        rw [← orderly.owner index, exited index]
        rfl
      · intro index noTask
        cases noTask
      · intro index left
        rfl
      · intro other joining
        cases joining
      · intro stopped index
        rfl

/-! ## The other moves -/

/-- What the steps of the callers of `post_task` do, and the other steps that move no worker. -/
inductive PostMove (pool : WorkerPool numWorkers) :
    PoolAction numWorkers → WorkerPool numWorkers → Prop where
  | quiet {action : PoolAction numWorkers} {mutex : Option (MutexHolder numWorkers)}
      {notifiesLeft : ℕ} {postCallbackDone : Bool}
      (outside : ∀ index, pool.mutex = some (.worker index) ↔ mutex = some (.worker index)) :
      PostMove pool action
        { pool with
          mutex := mutex
          notifiesLeft := notifiesLeft
          postCallbackDone := postCallbackDone }
  | push (holds : pool.mutex = some (.poster true)) :
      PostMove pool .postPush
        { pool with
          taskQueue := pool.taskQueue ++ [pool.pushed]
          pushed := pool.pushed + 1
          mutex := none
          notifiesLeft := pool.notifiesLeft + 1 }

/-- Everything that a step can do. -/
theorem step_cases (orderly : pool.Orderly) (stepped : pool.step action = some next) :
    pool.Moves next ∨ pool.ControlMove next ∨ pool.PostMove action next := by
  cases action with
  | control =>
      right
      left
      exact controlMove_of_controlStep orderly stepped
  | worker index =>
      left
      exact moves_of_workerStep stepped
  | finishTask index error =>
      left
      simp only [step, finishTask] at stepped
      split at stepped
      · rename_i task was
        cases stepped
        exact ⟨index, _, _, _, _, _, _, _, .finish was, rfl⟩
      · cases stepped
  | spuriousWake index =>
      left
      simp only [step, Option.ite_none_right_eq_some, Option.some.injEq] at stepped
      rcases stepped with ⟨was, rfl⟩
      exact ⟨index, _, _, _, _, _, _, _, .reenter (Or.inr was), rfl⟩
  | postLock =>
      right
      right
      simp only [step, Option.ite_none_right_eq_some, Option.some.injEq] at stepped
      rcases stepped with ⟨free, rfl⟩
      apply PostMove.quiet
      simp [free]
  | postLoadClosed =>
      right
      right
      simp only [step, Option.ite_none_right_eq_some, Option.some.injEq] at stepped
      rcases stepped with ⟨holds, rfl⟩
      apply PostMove.quiet
      intro index
      split <;> simp [holds]
  | postPush =>
      right
      right
      simp only [step, Option.ite_none_right_eq_some, Option.some.injEq] at stepped
      rcases stepped with ⟨holds, rfl⟩
      exact .push holds
  | postNotify woken =>
      simp only [step, notifyOne] at stepped
      split at stepped
      · cases stepped
      · rename_i left index enough
        left
        simp only [Option.ite_none_right_eq_some, Option.some.injEq] at stepped
        rcases stepped with ⟨was, rfl⟩
        exact ⟨index, _, _, _, _, _, _, _, .reenter (Or.inr was), rfl⟩
      · right
        right
        simp only [Option.ite_none_left_eq_some, Option.some.injEq] at stepped
        rcases stepped with ⟨nobody, rfl⟩
        apply PostMove.quiet
        intro index
        exact Iff.rfl
  | setPostCallbackDone enable =>
      right
      right
      simp only [step, Option.some.injEq] at stepped
      subst stepped
      apply PostMove.quiet
      intro index
      exact Iff.rfl

theorem Orderly.step (orderly : pool.Orderly) (stepped : pool.step action = some next) :
    next.Orderly := by
  rcases step_cases orderly stepped with moves | move | move
  · exact orderly.moves moves
  · exact orderly.controlMove move
  · cases move with
    | quiet outside => exact orderly.of_workers rfl rfl rfl outside (Or.inl rfl)
    | push holds =>
        refine orderly.of_workers rfl rfl rfl ?_ ?_
        · simp [holds]
        · right
          simp [holds]

theorem orderly_run {eventLoopSet : Bool} {actions : List (PoolAction numWorkers)}
    (ran : (construct numWorkers eventLoopSet).run actions = some pool) : pool.Orderly :=
  Interleaving.invariant_run Orderly.step (orderly_construct numWorkers eventLoopSet) ran

end WorkerPool

end HttpsServerSim
