import HttpsServerSim.MsgCenter.WorkerPoolSteps

/-!
# The wake-up of the workers

`stop()` changes the variables of the predicate without the mutex. A worker that has found the
predicate false, and has not joined the wait set yet, is not woken by a `notify_all` of that
moment; it joins the wait set afterwards and nobody notifies it again. Where no worker is at
that place when `stop()` notifies, none waits while `stop()` joins: the workers that look
later find `running_` false.
-/

namespace HttpsServerSim

namespace WorkerPc

/-- The worker has found its predicate false, and waits or is about to wait. -/
def settling : WorkerPc → Bool
  | blocking | waiting => true
  | _ => false

/-- The worker has found the queue empty and has not released the mutex since. -/
def sawEmpty : WorkerPc → Bool
  | loadClosed | loadRunning | loadRunningAgain | blocking => true
  | _ => false

theorem inside_of_sawEmpty {pc : WorkerPc} (saw : pc.sawEmpty = true) : pc.inside = true := by
  cases pc <;> first | rfl | cases saw

end WorkerPc

namespace WorkerPool

variable {numWorkers : ℕ} {pool next : WorkerPool numWorkers} {action : PoolAction numWorkers}

/-- `stop()` has notified and joins, while a worker waits for a notification that nobody sends. -/
def LostWakeup (pool : WorkerPool numWorkers) : Prop :=
  (∃ count, pool.control = .stopJoin count) ∧ pool.taskQueue = [] ∧ pool.notifiesLeft = 0 ∧
    ∃ index, pool.workers index = .waiting

/-- The condition on a run: `stop()` notifies when no worker is between its predicate and the wait
set. -/
def NotifiesAll (pool : WorkerPool numWorkers) (action : PoolAction numWorkers) : Prop :=
  action = .control → pool.control = .stopNotify → ∀ index, pool.workers index ≠ .blocking

instance (pool : WorkerPool numWorkers) (action : PoolAction numWorkers) :
    Decidable (pool.NotifiesAll action) :=
  inferInstanceAs (Decidable (_ → _ → ∀ _, _))

/-! ## Where a worker can come from -/

/-- How a worker comes to find the queue empty and its predicate false. -/
structure ComesFrom (pool : WorkerPool numWorkers) (was pc : WorkerPc) : Prop where
  settling : pc.settling = true → was.settling = true ∨ pool.running = true
  sawEmpty : pc.sawEmpty = true → was.sawEmpty = true ∨ pool.taskQueue = []

theorem comesFrom_of_quiet {was pc : WorkerPc} (settled : pc.settling = false)
    (notEmpty : pc.sawEmpty = false) : pool.ComesFrom was pc := by
  refine ⟨?_, ?_⟩
  · intro settling
    rw [settled] at settling
    cases settling
  · intro saw
    rw [notEmpty] at saw
    cases saw

theorem comesFrom_of_workerStep {index : Fin numWorkers}
    (stepped : pool.workerStep index = some next) :
    ∃ pc, next.workers = Function.update pool.workers index pc ∧
      pool.ComesFrom (pool.workers index) pc := by
  unfold workerStep at stepped
  cases was : pool.workers index with
  | unborn | waiting | executing | exited => simp [was] at stepped
  | enter =>
      simp only [was, Option.ite_none_right_eq_some, Option.some.injEq] at stepped
      rcases stepped with ⟨free, rfl⟩
      exact ⟨_, rfl, comesFrom_of_quiet rfl rfl⟩
  | evaluate =>
      simp only [was, Option.some.injEq] at stepped
      subst stepped
      refine ⟨_, rfl, ?_⟩
      split
      · rename_i empty
        exact ⟨nofun, fun _ => Or.inr (List.isEmpty_iff.mp empty)⟩
      · exact comesFrom_of_quiet rfl rfl
  | loadClosed | loadRunning =>
      simp only [was, Option.some.injEq] at stepped
      subst stepped
      refine ⟨_, rfl, ?_, fun _ => Or.inl rfl⟩
      split <;> simp [WorkerPc.settling]
  | loadRunningAgain =>
      simp only [was, Option.some.injEq] at stepped
      subst stepped
      refine ⟨_, rfl, ?_, fun _ => Or.inl rfl⟩
      split
      · rename_i running
        exact fun _ => Or.inr running
      · simp [WorkerPc.settling]
  | blocking =>
      simp only [was, Option.some.injEq] at stepped
      subst stepped
      exact ⟨_, rfl, fun _ => Or.inl rfl, fun _ => Or.inl rfl⟩
  | satisfied =>
      cases queue : pool.taskQueue with
      | nil =>
          simp only [was, queue, Option.some.injEq] at stepped
          subst stepped
          exact ⟨_, rfl, comesFrom_of_quiet rfl rfl⟩
      | cons task rest =>
          simp only [was, queue, Option.some.injEq] at stepped
          subst stepped
          exact ⟨_, rfl, comesFrom_of_quiet rfl rfl⟩
  | noTask =>
      simp only [was, Option.some.injEq] at stepped
      subst stepped
      refine ⟨_, rfl, ?_⟩
      split
      · exact comesFrom_of_quiet rfl rfl
      · exact comesFrom_of_quiet rfl rfl
  | executed =>
      simp only [was, Option.some.injEq] at stepped
      subst stepped
      exact ⟨_, rfl, comesFrom_of_quiet rfl rfl⟩

theorem comesFrom_self (pool : WorkerPool numWorkers) (pc : WorkerPc) : pool.ComesFrom pc pc :=
  ⟨Or.inl, Or.inl⟩

/-- One worker moves and the others stay. -/
theorem comesFrom_update {index : Fin numWorkers} {pc : WorkerPc}
    (comes : pool.ComesFrom (pool.workers index) pc) (other : Fin numWorkers) :
    pool.ComesFrom (pool.workers other) (Function.update pool.workers index pc other) := by
  by_cases same : other = index
  · subst same
    rw [Function.update_self]
    exact comes
  · rw [Function.update_of_ne same]
    exact pool.comesFrom_self (pool.workers other)

theorem comesFrom_of_controlStep (stepped : pool.controlStep = some next)
    (other : Fin numWorkers) : pool.ComesFrom (pool.workers other) (next.workers other) := by
  have stays := pool.comesFrom_self (pool.workers other)
  unfold controlStep at stepped
  cases place : pool.control with
  | startLoad | startStoreRunning | startStoreClosed | stopLoad | stopStoreRunning
  | stopStoreClosed =>
      simp only [place, Option.some.injEq] at stepped
      subst stepped
      exact stays
  | startSpawn count =>
      simp only [place] at stepped
      split at stepped
      · cases stepped
        exact comesFrom_update (comesFrom_of_quiet rfl rfl) other
      · cases stepped
        exact stays
  | stopNotify =>
      simp only [place, Option.some.injEq] at stepped
      subst stepped
      cases was : pool.workers other with
      | waiting =>
          simp only [was, WorkerPc.wake]
          exact comesFrom_of_quiet rfl rfl
      | _ => simpa [was, WorkerPc.wake] using stays
  | stopJoin count =>
      simp only [place] at stepped
      split at stepped
      · simp only [Option.ite_none_right_eq_some, Option.some.injEq] at stepped
        rcases stepped with ⟨exited, rfl⟩
        exact stays
      · cases stepped
        exact comesFrom_of_quiet rfl rfl
  | stopped => simp [place] at stepped

theorem comesFrom_of_step (stepped : pool.step action = some next) (other : Fin numWorkers) :
    pool.ComesFrom (pool.workers other) (next.workers other) := by
  have stays := pool.comesFrom_self (pool.workers other)
  cases action with
  | control => exact comesFrom_of_controlStep stepped other
  | worker index =>
      rcases comesFrom_of_workerStep stepped with ⟨pc, workers, comes⟩
      rw [workers]
      exact comesFrom_update comes other
  | finishTask index error =>
      simp only [step, finishTask] at stepped
      split at stepped
      · cases stepped
        exact comesFrom_update (comesFrom_of_quiet rfl rfl) other
      · cases stepped
  | spuriousWake index =>
      simp only [step, Option.ite_none_right_eq_some, Option.some.injEq] at stepped
      rcases stepped with ⟨was, rfl⟩
      exact comesFrom_update (comesFrom_of_quiet rfl rfl) other
  | postLock | postLoadClosed | postPush =>
      simp only [step, Option.ite_none_right_eq_some, Option.some.injEq] at stepped
      rcases stepped with ⟨holds, rfl⟩
      exact stays
  | postNotify woken =>
      simp only [step, notifyOne] at stepped
      split at stepped
      · cases stepped
      · simp only [Option.ite_none_right_eq_some, Option.some.injEq] at stepped
        rcases stepped with ⟨was, rfl⟩
        exact comesFrom_update (comesFrom_of_quiet rfl rfl) other
      · simp only [Option.ite_none_left_eq_some, Option.some.injEq] at stepped
        rcases stepped with ⟨nobody, rfl⟩
        exact stays
  | setPostCallbackDone enable =>
      simp only [step, Option.some.injEq] at stepped
      subst stepped
      exact stays

/-! ## After the notification -/

/-- Nobody waits while `stop()` joins. -/
def Awake (pool : WorkerPool numWorkers) : Prop :=
  ∀ {count}, pool.control = .stopJoin count → ∀ index, (pool.workers index).settling = false

/-- Only the thread that calls `start()` and `stop()` moves in them. -/
theorem control_of_step (stepped : pool.step action = some next) :
    next.control = pool.control ∨ action = .control := by
  cases action with
  | control => exact Or.inr rfl
  | worker index =>
      left
      rcases moves_of_workerStep stepped with ⟨_, _, _, _, _, _, _, _, _, rfl⟩
      rfl
  | finishTask index error =>
      left
      simp only [step, finishTask] at stepped
      split at stepped
      · cases stepped
        rfl
      · cases stepped
  | spuriousWake index | postLock | postLoadClosed | postPush =>
      left
      simp only [step, Option.ite_none_right_eq_some, Option.some.injEq] at stepped
      rcases stepped with ⟨_, rfl⟩
      rfl
  | postNotify woken =>
      left
      simp only [step, notifyOne] at stepped
      split at stepped
      · cases stepped
      · simp only [Option.ite_none_right_eq_some, Option.some.injEq] at stepped
        rcases stepped with ⟨_, rfl⟩
        rfl
      · simp only [Option.ite_none_left_eq_some, Option.some.injEq] at stepped
        rcases stepped with ⟨_, rfl⟩
        rfl
  | setPostCallbackDone enable =>
      left
      simp only [step, Option.some.injEq] at stepped
      subst stepped
      rfl

/-- `stop()` comes to its joins from its notification. -/
theorem stopJoin_of_controlStep {count : ℕ} (stepped : pool.controlStep = some next)
    (joining : next.control = .stopJoin count) :
    (pool.control = .stopNotify ∧ next.workers = fun index => (pool.workers index).wake) ∨
      ∃ before, pool.control = .stopJoin before := by
  unfold controlStep at stepped
  cases place : pool.control with
  | startLoad | stopLoad =>
      simp only [place, Option.some.injEq] at stepped
      subst stepped
      simp only at joining
      split at joining <;> cases joining
  | startStoreRunning | startStoreClosed | stopStoreRunning | stopStoreClosed =>
      simp only [place, Option.some.injEq] at stepped
      subst stepped
      cases joining
  | startSpawn before =>
      simp only [place] at stepped
      split at stepped
      · cases stepped
        cases joining
      · cases stepped
        cases joining
  | stopNotify =>
      simp only [place, Option.some.injEq] at stepped
      subst stepped
      exact Or.inl ⟨rfl, rfl⟩
  | stopJoin before => exact Or.inr ⟨before, rfl⟩
  | stopped => simp [place] at stepped

theorem step_awake (holds : pool.Orderly ∧ pool.Awake) (condition : pool.NotifiesAll action)
    (stepped : pool.step action = some next) : next.Orderly ∧ next.Awake := by
  rcases holds with ⟨orderly, awake⟩
  refine ⟨orderly.step stepped, ?_⟩
  intro count joining index
  -- a worker that settles now did so before the step, since `running_` is false
  have stays : ∀ {before}, pool.control = .stopJoin before →
      (next.workers index).settling = false := by
    intro before joiningBefore
    have notRunning : pool.running = false := by
      rw [orderly.running, joiningBefore]
      rfl
    apply Bool.eq_false_iff.mpr
    intro settling
    rcases (comesFrom_of_step stepped index).settling settling with already | running
    · rw [awake joiningBefore index] at already
      cases already
    · rw [notRunning] at running
      cases running
  rcases control_of_step stepped with same | rfl
  · rw [same] at joining
    exact stays joining
  · rcases stopJoin_of_controlStep stepped joining with ⟨notifying, woken⟩ | ⟨before, joiningBefore⟩
    · have outside := condition rfl notifying index
      rw [woken]
      cases was : pool.workers index <;> simp_all [WorkerPc.wake, WorkerPc.settling]
    · exact stays joiningBefore

/-- Where `stop()` always notifies outside of that gap, no wake-up is lost. -/
theorem not_lostWakeup_of_along {eventLoopSet : Bool} {actions : List (PoolAction numWorkers)}
    (along : Interleaving.Along step NotifiesAll (construct numWorkers eventLoopSet) actions)
    (ran : (construct numWorkers eventLoopSet).run actions = some pool) : ¬pool.LostWakeup := by
  have initially : (construct numWorkers eventLoopSet).Orderly ∧
      (construct numWorkers eventLoopSet).Awake := by
    refine ⟨orderly_construct numWorkers eventLoopSet, ?_⟩
    intro count joining
    cases joining
  rcases Interleaving.invariant_along step_awake initially along ran with ⟨-, awake⟩
  rintro ⟨⟨count, joining⟩, -, -, index, waiting⟩
  have settled := awake joining index
  rw [waiting] at settled
  cases settled

/-! ## A notification that comes too early -/

/-- Nothing is pushed while a worker that saw the queue empty holds the mutex. -/
def SeesEmpty (pool : WorkerPool numWorkers) : Prop :=
  ∀ index, (pool.workers index).sawEmpty = true → pool.taskQueue = []

theorem taskQueue_nil_of_step (orderly : pool.Orderly) (stepped : pool.step action = some next)
    (empty : pool.taskQueue = []) : next.taskQueue = [] ∨ next.mutex = none := by
  rcases step_cases orderly stepped with moves | move | move
  · rcases moves with ⟨index, pc, mutex, taskQueue, executed, _, _, _, move, rfl⟩
    cases move with
    | take was first =>
        rw [first] at empty
        cases empty
    | _ => exact Or.inl empty
  · left
    cases move <;> exact empty
  · cases move with
    | quiet outside => exact Or.inl empty
    | push holds => exact Or.inr rfl

theorem step_seesEmpty (holds : pool.Orderly ∧ pool.SeesEmpty)
    (stepped : pool.step action = some next) : next.Orderly ∧ next.SeesEmpty := by
  rcases holds with ⟨orderly, sees⟩
  have nextOrderly := orderly.step stepped
  refine ⟨nextOrderly, ?_⟩
  intro index saw
  have empty : pool.taskQueue = [] := by
    rcases (comesFrom_of_step stepped index).sawEmpty saw with already | empty
    · exact sees index already
    · exact empty
  rcases taskQueue_nil_of_step orderly stepped empty with still | free
  · exact still
  · have owns := (nextOrderly.owner index).mp (WorkerPc.inside_of_sawEmpty saw)
    rw [free] at owns
    cases owns

theorem seesEmpty_run {eventLoopSet : Bool} {actions : List (PoolAction numWorkers)}
    (ran : (construct numWorkers eventLoopSet).run actions = some pool) : pool.SeesEmpty := by
  have initially : (construct numWorkers eventLoopSet).Orderly ∧
      (construct numWorkers eventLoopSet).SeesEmpty := by
    refine ⟨orderly_construct numWorkers eventLoopSet, ?_⟩
    intro index saw
    cases saw
  exact (Interleaving.invariant_run step_seesEmpty initially ran).2

/-- The notifications that are still to come find nobody. -/
theorem run_postNotify {pool : WorkerPool numWorkers} {left : ℕ}
    (nobody : ∀ index, pool.workers index ≠ .waiting) (count : pool.notifiesLeft = left) :
    pool.run (List.replicate left (.postNotify none)) =
      some { pool with notifiesLeft := 0 } := by
  induction left generalizing pool with
  | zero =>
      have same : { pool with notifiesLeft := 0 } = pool := by rw [← count]
      rw [same]
      rfl
  | succ left ih =>
      have nobodyWaits : ¬∃ index, pool.workers index = .waiting := by
        rintro ⟨index, waiting⟩
        exact nobody index waiting
      have stepped : pool.step (.postNotify none) = some { pool with notifiesLeft := left } := by
        simp only [step, notifyOne, count, if_neg nobodyWaits]
      rw [List.replicate_succ, run, Interleaving.run, stepped]
      exact ih nobody rfl

/-- A worker that is about to wait when `stop()` notifies can be left waiting. -/
theorem lostWakeup_of_blocking {index : Fin numWorkers} (empty : pool.taskQueue = [])
    (notifying : pool.control = .stopNotify) (blocking : pool.workers index = .blocking)
    (stepped : pool.step .control = some next) :
    ∃ later final, next.run later = some final ∧ final.LostWakeup := by
  simp only [step, controlStep, notifying, Option.some.injEq] at stepped
  have nobody : ∀ other, next.workers other ≠ .waiting := by
    intro other
    rw [← stepped]
    cases was : pool.workers other <;> simp [was, WorkerPc.wake]
  have stillBlocking : next.workers index = .blocking := by
    rw [← stepped]
    simp [blocking, WorkerPc.wake]
  have drained := run_postNotify nobody rfl
  refine ⟨List.replicate next.notifiesLeft (.postNotify none) ++ [.worker index],
    { next with
      notifiesLeft := 0
      workers := Function.update next.workers index .waiting
      mutex := none }, ?_, ?_⟩
  · unfold run at drained ⊢
    rw [Interleaving.run_append, drained]
    simp [Interleaving.run, step, workerStep, stillBlocking, setWorker]
  · refine ⟨⟨0, ?_⟩, ?_, rfl, index, ?_⟩
    · rw [← stepped]
    · rw [← stepped]
      exact empty
    · simp

/-- Along a run in which `stop()` notifies while no worker is between its predicate and the wait
set, no wake-up is lost; and a notification that meets a worker there can be followed by such a
loss. -/
theorem noLostWakeup {eventLoopSet : Bool} {actions : List (PoolAction numWorkers)}
    (ran : (construct numWorkers eventLoopSet).run actions = some pool) :
    (Interleaving.Along step NotifiesAll (construct numWorkers eventLoopSet) actions →
        ¬pool.LostWakeup) ∧
      ∀ next, ¬pool.NotifiesAll .control → pool.step .control = some next →
        ∃ later final, next.run later = some final ∧ final.LostWakeup := by
  refine ⟨fun along => not_lostWakeup_of_along along ran, ?_⟩
  intro next meets stepped
  simp only [NotifiesAll, true_imp_iff, Classical.not_imp, not_forall, not_not] at meets
  rcases meets with ⟨notifying, index, blocking⟩
  have empty : pool.taskQueue = [] := by
    apply seesEmpty_run ran index
    rw [blocking]
    rfl
  exact lostWakeup_of_blocking empty notifying blocking stepped

/-- One worker is started and waits; `stop()` notifies and joins it. -/
def stopWhileWaiting : List (PoolAction 1) :=
  [.control, .control, .control, .control, .control, .worker onlyWorker, .worker onlyWorker,
    .worker onlyWorker, .worker onlyWorker, .worker onlyWorker, .control, .control, .control,
    .control]

theorem noLostWakeup_stopWhileWaiting :
    ∃ pool, (construct 1 false).run stopWhileWaiting = some pool ∧
      pool.control = .stopJoin 0 ∧ ¬pool.LostWakeup := by
  have seen : ((construct 1 false).run stopWhileWaiting).map (fun pool => pool.control) =
      some (.stopJoin 0) := by
    decide +kernel
  have along : Interleaving.Along step NotifiesAll (construct 1 false) stopWhileWaiting := by
    decide +kernel
  rcases Option.map_eq_some_iff.mp seen with ⟨pool, ran, joining⟩
  exact ⟨pool, ran, joining, (noLostWakeup ran).1 along⟩

/-- Here the worker looks before `stop()` stores `running_`, and waits after the notification. -/
def stopBeforeWaiting : List (PoolAction 1) :=
  [.control, .control, .control, .control, .control, .worker onlyWorker, .worker onlyWorker,
    .worker onlyWorker, .worker onlyWorker, .control, .control, .control, .control,
    .worker onlyWorker]

theorem noLostWakeup_fails :
    ∃ pool, (construct 1 false).run stopBeforeWaiting = some pool ∧ pool.LostWakeup := by
  have seen : ((construct 1 false).run stopBeforeWaiting).map
      (fun pool => (pool.control, pool.taskQueue, pool.notifiesLeft, pool.workers 0)) =
        some (.stopJoin 0, [], 0, .waiting) := by
    decide +kernel
  rcases Option.map_eq_some_iff.mp seen with ⟨pool, ran, fields⟩
  simp only [Prod.mk.injEq] at fields
  rcases fields with ⟨joining, empty, none, waiting⟩
  exact ⟨pool, ran, ⟨0, joining⟩, empty, none, 0, waiting⟩

end WorkerPool

end HttpsServerSim
