import HttpsServerSim.Lib.Ledger
import HttpsServerSim.MsgCenter.WorkerPoolSteps

/-!
# What becomes of the tasks

The tasks of a pool are kept in a ledger: a pushed task waits in the queue, a worker takes
it, and the worker finishes it. Whatever the interleaving, no task is lost or run twice on
this way (`step_ledger`).

A worker leaves its loop only when it has found the queue empty, and it holds the mutex from
then on. So tasks are left behind by the last worker only if they are pushed after it has
left. `stop()` stores `running_` and `queue_closed_` one after the other, and between the two
stores a caller of `post_task` still finds the queue open while the workers already leave.
-/

namespace HttpsServerSim

namespace WorkerPool

variable {numWorkers : ℕ} {pool next : WorkerPool numWorkers} {action : PoolAction numWorkers}

/-! ## The ledger of the tasks -/

/-- Where the tasks are. -/
def ledger (pool : WorkerPool numWorkers) : Ledger (Fin numWorkers) where
  waiting := pool.taskQueue
  held := fun index => (pool.workers index).task?
  finished := pool.executed
  issued := pool.pushed

/-- What the workers hold when one of them moves. -/
theorem held_update (workers : Fin numWorkers → WorkerPc) (index : Fin numWorkers)
    (pc : WorkerPc) :
    (fun other => (Function.update workers index pc other).task?) =
      Function.update (fun other => (workers other).task?) index pc.task? := by
  funext other
  by_cases same : other = index
  · subst same
    simp
  · simp [Function.update_of_ne same]

/-- A worker moves and holds the same task, or none, before and after. -/
theorem held_update_of_task? {workers : Fin numWorkers → WorkerPc} {index : Fin numWorkers}
    {pc : WorkerPc} (same : pc.task? = (workers index).task?) :
    (fun other => (Function.update workers index pc other).task?) =
      fun other => (workers other).task? := by
  rw [held_update, same]
  exact Function.update_eq_self index _

theorem WorkerMove.ledger {index : Fin numWorkers} {pc : WorkerPc}
    {mutex : Option (MutexHolder numWorkers)} {taskQueue executed : List ℕ}
    (move : pool.WorkerMove index pc mutex taskQueue executed) :
    pool.ledger.Move
      ⟨taskQueue, fun other => (Function.update pool.workers index pc other).task?, executed,
        pool.pushed⟩ := by
  cases move with
  | lock was free =>
      rw [held_update_of_task? (by rw [was]; rfl)]
      exact .stay
  | look was stays emptyHanded =>
      have same : pc.task? = (pool.workers index).task? := by
        rw [WorkerPc.task?_of_inside was, WorkerPc.task?_of_inside stays]
      rw [held_update_of_task? same]
      exact .stay
  | release was outside noTask exits =>
      have same : pc.task? = (pool.workers index).task? := by
        rw [WorkerPc.task?_of_inside was, noTask]
      rw [held_update_of_task? same]
      exact .stay
  | take was first =>
      rw [held_update]
      apply Ledger.Move.take first
      simp [WorkerPool.ledger, was, WorkerPc.task?]
  | finish was =>
      rw [held_update]
      apply Ledger.Move.finish
      simp [WorkerPool.ledger, was, WorkerPc.task?]
  | reenter was =>
      have same : WorkerPc.enter.task? = (pool.workers index).task? := by
        rcases was with was | was
        · rw [was]
          rfl
        · rw [was]
          rfl
      rw [held_update_of_task? same]
      exact .stay

theorem ControlMove.ledger (move : pool.ControlMove next) (orderly : pool.Orderly) :
    next.ledger = pool.ledger := by
  cases move with
  | proceed runningNow spawnsLeft joined goesOn => rfl
  | @spawn count place more =>
      have unborn : pool.workers ⟨count, more⟩ = .unborn := by
        apply orderly.unborn
        simp [place, ControlPc.spawnsLeft]
      simp only [WorkerPool.ledger, setWorker]
      rw [held_update_of_task? (by rw [unborn]; rfl)]
  | notify place => simp [WorkerPool.ledger]
  | finish place exited => simp [WorkerPool.ledger, exited, WorkerPc.task?]

/-- A step leaves every task where it is, or one task goes one place further. -/
theorem step_ledger (orderly : pool.Orderly) (stepped : pool.step action = some next) :
    pool.ledger.Move next.ledger := by
  rcases step_cases orderly stepped with moves | move | move
  · rcases moves with ⟨index, pc, mutex, taskQueue, executed, _, _, _, move, rfl⟩
    exact move.ledger
  · rw [move.ledger orderly]
    exact .stay
  · cases move with
    | quiet outside => exact .stay
    | push holds => exact .submit

theorem step_balanced (holds : pool.Orderly ∧ pool.ledger.Balanced)
    (stepped : pool.step action = some next) : next.Orderly ∧ next.ledger.Balanced := by
  rcases holds with ⟨orderly, balanced⟩
  exact ⟨orderly.step stepped, balanced.move (step_ledger orderly stepped)⟩

theorem balanced_run {eventLoopSet : Bool} {actions : List (PoolAction numWorkers)}
    (ran : (construct numWorkers eventLoopSet).run actions = some pool) :
    pool.ledger.Balanced := by
  have initially : (construct numWorkers eventLoopSet).Orderly ∧
      (construct numWorkers eventLoopSet).ledger.Balanced :=
    ⟨orderly_construct numWorkers eventLoopSet, Ledger.balanced_empty⟩
  exact (Interleaving.invariant_run step_balanced initially ran).2

/-! ## Who serves the queue -/

/-- Some worker will look at the queue again, if only when it has been created. -/
def Served (pool : WorkerPool numWorkers) : Prop :=
  (∃ index, (pool.workers index).alive = true) ∨ 0 < pool.control.spawnsLeft numWorkers

/-- Tasks that wait have somebody to wait for. -/
def Attended (pool : WorkerPool numWorkers) : Prop := pool.taskQueue ≠ [] → pool.Served

/-- Tasks wait for nobody. -/
def Deserted (pool : WorkerPool numWorkers) : Prop := pool.taskQueue ≠ [] ∧ ¬pool.Served

/-- A worker leaves its loop only when there is nothing to do. -/
theorem WorkerMove.noTask_of_dead {index : Fin numWorkers} {pc : WorkerPc}
    {mutex : Option (MutexHolder numWorkers)} {taskQueue executed : List ℕ}
    (move : pool.WorkerMove index pc mutex taskQueue executed) (dead : pc.alive = false) :
    pool.workers index = .noTask ∧ taskQueue = pool.taskQueue := by
  cases move with
  | lock was free => cases dead
  | look was stays emptyHanded =>
      rw [WorkerPc.alive_of_inside stays] at dead
      cases dead
  | release was outside noTask exits => exact ⟨exits dead, rfl⟩
  | take was first => cases dead
  | finish was => cases dead
  | reenter was => cases dead

theorem attended_of_moves (orderly : pool.Orderly) (moves : pool.Moves next) :
    next.Attended := by
  rcases moves with ⟨index, pc, mutex, taskQueue, executed, _, _, _, move, rfl⟩
  intro waiting
  cases alive : pc.alive with
  | true =>
      left
      refine ⟨index, ?_⟩
      simp [alive]
  | false =>
      rcases move.noTask_of_dead alive with ⟨leaves, same⟩
      apply absurd _ waiting
      rw [same]
      exact orderly.emptyHanded index leaves

/-- After `start()` has gone on, or `stop()`, the queue is served as before. -/
theorem ControlMove.served_iff (move : pool.ControlMove next) : next.Served ↔ pool.Served := by
  cases move with
  | proceed runningNow spawnsLeft joined goesOn =>
      unfold Served
      rw [spawnsLeft]
  | @spawn count place more =>
      refine iff_of_true ?_ ?_
      · left
        refine ⟨⟨count, more⟩, ?_⟩
        simp [setWorker, WorkerPc.alive]
      · right
        rw [place]
        exact Nat.sub_pos_of_lt more
  | notify place => simp [Served, place, ControlPc.spawnsLeft]
  | finish place exited => simp [Served, place, exited, WorkerPc.alive, ControlPc.spawnsLeft]

theorem ControlMove.taskQueue (move : pool.ControlMove next) :
    next.taskQueue = pool.taskQueue := by
  cases move <;> rfl

/-- The condition on a run: nobody pushes a task when the last worker has left its loop. -/
def PushServed (pool : WorkerPool numWorkers) (action : PoolAction numWorkers) : Prop :=
  action = .postPush → pool.Served

theorem step_attended (holds : pool.Orderly ∧ pool.Attended) (condition : pool.PushServed action)
    (stepped : pool.step action = some next) : next.Orderly ∧ next.Attended := by
  rcases holds with ⟨orderly, attended⟩
  refine ⟨orderly.step stepped, ?_⟩
  rcases step_cases orderly stepped with moves | move | move
  · exact attended_of_moves orderly moves
  · intro waiting
    rw [move.taskQueue] at waiting
    exact move.served_iff.mpr (attended waiting)
  · cases move with
    | quiet outside => exact attended
    | push holds =>
        intro waiting
        exact condition rfl

/-- Once the last worker has left, tasks that wait do so for ever. -/
theorem step_deserted (holds : pool.Orderly ∧ pool.Deserted)
    (stepped : pool.step action = some next) : next.Orderly ∧ next.Deserted := by
  rcases holds with ⟨orderly, waiting, unserved⟩
  refine ⟨orderly.step stepped, ?_⟩
  rcases step_cases orderly stepped with moves | move | move
  · rcases moves with ⟨index, pc, mutex, taskQueue, executed, _, _, _, move, rfl⟩
    exact absurd (Or.inl ⟨index, move.alive⟩) unserved
  · refine ⟨?_, ?_⟩
    · rw [move.taskQueue]
      exact waiting
    · rw [move.served_iff]
      exact unserved
  · cases move with
    | quiet outside => exact ⟨waiting, unserved⟩
    | push holds => exact ⟨List.append_ne_nil_of_left_ne_nil waiting _, unserved⟩

/-- Every pushed task has been executed once. -/
def AllExecutedOnce (pool : WorkerPool numWorkers) : Prop :=
  ∀ task < pool.pushed, pool.executed.count task = 1

theorem not_allExecutedOnce_of_waiting (balanced : pool.ledger.Balanced)
    (waiting : pool.taskQueue ≠ []) : ¬pool.AllExecutedOnce := by
  intro all
  rcases List.exists_mem_of_ne_nil _ waiting with ⟨task, waits⟩
  rcases balanced.not_finished waits with ⟨pushed, notFinished⟩
  have once := all task pushed
  rw [show pool.executed.count task = 0 from notFinished] at once
  cases once

/-- When `stop()` has returned, the pushed tasks have been executed, each exactly once, if and
only if each of them was pushed while some worker had not left its loop. -/
theorem allExecutedOnce_iff {eventLoopSet : Bool} {actions : List (PoolAction numWorkers)}
    (ran : (construct numWorkers eventLoopSet).run actions = some pool)
    (stopped : pool.control = .stopped) :
    pool.AllExecutedOnce ↔
      Interleaving.Along step PushServed (construct numWorkers eventLoopSet) actions := by
  have orderly := orderly_run ran
  have balanced := balanced_run ran
  have unborn := orderly.stopped stopped
  refine ⟨?_, ?_⟩
  · intro all
    by_contra broken
    rcases Interleaving.exists_step_of_not_along ran broken with
      ⟨before, action, after, middle, following, split, reached, fails, stepped, rest⟩
    rcases Classical.not_imp.mp fails with ⟨rfl, unserved⟩
    have middleOrderly := orderly_run reached
    have left : following.Orderly ∧ following.Deserted := by
      refine ⟨middleOrderly.step stepped, ?_⟩
      simp only [step, Option.ite_none_right_eq_some, Option.some.injEq] at stepped
      rcases stepped with ⟨holds, rfl⟩
      exact ⟨List.append_ne_nil_of_right_ne_nil _ (List.cons_ne_nil _ _), unserved⟩
    rcases Interleaving.invariant_run step_deserted left rest with ⟨-, waiting, -⟩
    exact not_allExecutedOnce_of_waiting balanced waiting all
  · intro along
    have initially : (construct numWorkers eventLoopSet).Orderly ∧
        (construct numWorkers eventLoopSet).Attended :=
      ⟨orderly_construct numWorkers eventLoopSet, fun waiting => absurd rfl waiting⟩
    rcases Interleaving.invariant_along step_attended initially along ran with ⟨-, attended⟩
    have unserved : ¬pool.Served := by
      simp [Served, stopped, unborn, WorkerPc.alive, ControlPc.spawnsLeft]
    have nothing : pool.taskQueue = [] := by
      by_contra waiting
      exact unserved (attended waiting)
    intro task pushed
    refine balanced.count_finished nothing ?_ pushed
    intro index
    simp [ledger, unborn, WorkerPc.task?]

/-- `start()` creates one worker; a task is posted and throws; then `stop()` runs, and the worker
leaves between its second store and its notification. -/
def postThenStop : List (PoolAction 1) :=
  [.control, .control, .control, .control, .control,
    .postLock, .postLoadClosed, .postPush,
    .worker 0, .worker 0, .worker 0, .finishTask 0 (some .unknown), .worker 0,
    .control, .control, .control,
    .worker 0, .worker 0, .worker 0, .worker 0, .worker 0, .worker 0,
    .control, .control, .control]

theorem allExecutedOnce_postThenStop :
    ∃ pool, (construct 1 false).run postThenStop = some pool ∧ pool.control = .stopped ∧
      pool.AllExecutedOnce ∧
        Interleaving.Along step PushServed (construct 1 false) postThenStop := by
  have seen : ((construct 1 false).run postThenStop).map
      (fun pool => (pool.control, pool.pushed, pool.executed)) = some (.stopped, 1, [0]) := by
    decide +kernel
  rcases Option.map_eq_some_iff.mp seen with ⟨pool, ran, fields⟩
  rcases Prod.mk.inj fields with ⟨stopped, counts⟩
  rcases Prod.mk.inj counts with ⟨pushed, executed⟩
  have all : pool.AllExecutedOnce := by
    rw [AllExecutedOnce, pushed, executed]
    decide
  exact ⟨pool, ran, stopped, all, (allExecutedOnce_iff ran stopped).mp all⟩

/-- Between the two stores of `stop()` the only worker leaves and a task is pushed. -/
def postBetweenStores : List (PoolAction 1) :=
  [.control, .control, .control, .control, .control,
    .control, .control,
    .worker 0, .worker 0, .worker 0, .worker 0, .worker 0, .worker 0,
    .postLock, .postLoadClosed, .postPush,
    .control, .control, .control, .control]

theorem allExecutedOnce_fails :
    ∃ pool, (construct 1 false).run postBetweenStores = some pool ∧ pool.control = .stopped ∧
      ¬pool.AllExecutedOnce := by
  have seen : ((construct 1 false).run postBetweenStores).map
      (fun pool => (pool.control, pool.pushed, pool.executed)) = some (.stopped, 1, []) := by
    decide +kernel
  rcases Option.map_eq_some_iff.mp seen with ⟨pool, ran, fields⟩
  rcases Prod.mk.inj fields with ⟨stopped, counts⟩
  rcases Prod.mk.inj counts with ⟨pushed, executed⟩
  refine ⟨pool, ran, stopped, ?_⟩
  rw [AllExecutedOnce, pushed, executed]
  decide

end WorkerPool

end HttpsServerSim
