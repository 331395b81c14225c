import HttpsServerSim.MsgCenter.MsgCenter

/-!
# The steps of the message center

Everything that one step of a thread can do to the center (`effect_of_step`): only the thread
that calls `start()` and `stop()` moves in these, the event loop is entered once, `stop()`
gets the mutex at one place, and the queue changes by the pushes and by the turns of the
loop.
-/

namespace HttpsServerSim

universe u

namespace MsgCenter

variable {numWorkers : ℕ} {Handler : Type u} {center next : MsgCenter numWorkers Handler}
  {action : CenterAction numWorkers Handler}

/-! ## Pushes -/

/-- The event that a step pushes. -/
def pushedBy (center : MsgCenter numWorkers Handler) :
    CenterAction numWorkers Handler → Option (Event Handler)
  | .control => if center.control = .loopPushShutdown then some .makeShutdownEvent else none
  | .pool (.worker index) =>
      if center.pool.workers index = .executed ∧ center.pool.postCallbackDone ∧
          center.pool.eventLoopSet then
        some .makeCallbackDoneEvent
      else none
  | .postPush =>
      match center.postMutex with
      | some (.caller _ event true) => some event
      | _ => none
  | .directPush event => some event
  | _ => none

/-- The center after what the step pushes, if anything. -/
def afterPush (center : MsgCenter numWorkers Handler) (action : CenterAction numWorkers Handler) :
    MsgCenter numWorkers Handler :=
  match center.pushedBy action with
  | some event => center.push event
  | none => center

/-- The queue and its history are those after the push. -/
def Pushes (center : MsgCenter numWorkers Handler) (action : CenterAction numWorkers Handler)
    (next : MsgCenter numWorkers Handler) : Prop :=
  next.queue = (center.afterPush action).queue ∧ next.history = (center.afterPush action).history

theorem pushes_of_none (nothing : center.pushedBy action = none)
    (queue : next.queue = center.queue) (history : next.history = center.history) :
    center.Pushes action next := by
  unfold Pushes afterPush
  rw [nothing]
  exact ⟨queue, history⟩

theorem pushes_of_some {event : Event Handler} (pushed : center.pushedBy action = some event)
    (queue : next.queue = (center.push event).queue)
    (history : next.history = (center.push event).history) : center.Pushes action next := by
  unfold Pushes afterPush
  rw [pushed]
  exact ⟨queue, history⟩

/-! ## The effect of a step -/

structure Effect (center : MsgCenter numWorkers Handler) (action : CenterAction numWorkers Handler)
    (next : MsgCenter numWorkers Handler) : Prop where
  control : action ≠ .control → next.control = center.control ∨ next.control = .startFailed
  running : action ≠ .control → next.running = center.running
  loop : next.loop = center.loop ∨ (center.loop = .handling ∧ next.loop = .loadRunning) ∨
    action = .loop ∨ (action = .control ∧ center.control = .spawnLoop)
  queue : center.Pushes action next ∨ (action = .loop ∧ center.loop = .tryPop)
  mutex : next.postMutex = some .stop →
    center.postMutex = some .stop ∨ (action = .control ∧ center.control = .stopLock)
  task : ∀ index, next.taskWants index = center.taskWants index ∨ next.taskWants index = none ∨
    ∃ event, action = .taskPosts index event
  handler : next.handlerWants = center.handlerWants ∨ next.handlerWants = none ∨
    ∃ event, action = .handlerPosts event

/-- A step of `start()` or `stop()`. -/
theorem effect_of_control (loop : next.loop = center.loop ∨ center.control = .spawnLoop)
    (mutex : next.postMutex = some .stop →
      center.postMutex = some .stop ∨ center.control = .stopLock)
    (wants : next.taskWants = center.taskWants ∧ next.handlerWants = center.handlerWants)
    (pushes : center.Pushes .control next) : center.Effect .control next where
  control := fun other => absurd rfl other
  running := fun other => absurd rfl other
  loop := loop.imp_right fun spawning => Or.inr (Or.inr ⟨rfl, spawning⟩)
  queue := Or.inl pushes
  mutex := fun held => (mutex held).imp_right fun locking => ⟨rfl, locking⟩
  task := fun index => Or.inl (congrFun wants.1 index)
  handler := Or.inl wants.2

/-- A step that leaves the mutex and those who wait for it. -/
theorem effect_of_outside
    (control : next.control = center.control ∨ next.control = .startFailed)
    (running : next.running = center.running)
    (loop : next.loop = center.loop ∨ (center.loop = .handling ∧ next.loop = .loadRunning) ∨
      action = .loop)
    (queue : center.Pushes action next ∨ (action = .loop ∧ center.loop = .tryPop))
    (waits : next.postMutex = center.postMutex ∧ next.taskWants = center.taskWants ∧
      next.handlerWants = center.handlerWants) : center.Effect action next where
  control := fun _ => control
  running := fun _ => running
  loop := loop.imp_right (Or.imp_right Or.inl)
  queue := queue
  mutex := fun held => Or.inl (waits.1 ▸ held)
  task := fun index => Or.inl (congrFun waits.2.1 index)
  handler := Or.inl waits.2.2

theorem effect_of_controlStep (stepped : center.controlStep = some next) :
    center.Effect .control next := by
  unfold controlStep at stepped
  cases place : center.control with
  | startLoad | setPostCallbackDone | storeRunning | stopLoad | stopStoreRunning
  | loopStoreRunning =>
      simp only [place, Option.some.injEq] at stepped
      subst stepped
      refine effect_of_control (Or.inl rfl) Or.inl ⟨rfl, rfl⟩ ?_
      exact pushes_of_none (by simp [pushedBy, place]) rfl rfl
  | spawnLoop =>
      simp only [place, Option.some.injEq] at stepped
      subst stepped
      refine effect_of_control (Or.inr place) Or.inl ⟨rfl, rfl⟩ ?_
      exact pushes_of_none (by simp [pushedBy, place]) rfl rfl
  | stopIoThreads =>
      simp only [place, Option.some.injEq] at stepped
      subst stepped
      refine effect_of_control (Or.inl rfl) nofun ⟨rfl, rfl⟩ ?_
      exact pushes_of_none (by simp [pushedBy, place]) rfl rfl
  | poolStart | poolStop =>
      simp only [place] at stepped
      split at stepped
      · cases stepped
        refine effect_of_control (Or.inl rfl) Or.inl ⟨rfl, rfl⟩ ?_
        exact pushes_of_none (by simp [pushedBy, place]) rfl rfl
      · rcases Option.map_eq_some_iff.mp stepped with ⟨pool, _, rfl⟩
        refine effect_of_control (Or.inl rfl) Or.inl ⟨rfl, rfl⟩ ?_
        exact pushes_of_none (by simp [pushedBy, place]) rfl rfl
  | waitStarted | joinLoop =>
      simp only [place, Option.ite_none_right_eq_some, Option.some.injEq] at stepped
      rcases stepped with ⟨_, rfl⟩
      refine effect_of_control (Or.inl rfl) Or.inl ⟨rfl, rfl⟩ ?_
      exact pushes_of_none (by simp [pushedBy, place]) rfl rfl
  | stopLock =>
      simp only [place, Option.ite_none_right_eq_some, Option.some.injEq] at stepped
      rcases stepped with ⟨_, rfl⟩
      refine effect_of_control (Or.inl rfl) (fun _ => Or.inr place) ⟨rfl, rfl⟩ ?_
      exact pushes_of_none (by simp [pushedBy, place]) rfl rfl
  | loopPushShutdown =>
      simp only [place, Option.some.injEq] at stepped
      subst stepped
      refine effect_of_control (Or.inl rfl) Or.inl ⟨rfl, rfl⟩ ?_
      exact pushes_of_some (by simp [pushedBy, place]) rfl rfl
  | startFailed | stopped => simp [place] at stepped

theorem effect_of_loopStep (stepped : center.loopStep = some next) :
    center.Effect .loop next := by
  unfold loopStep at stepped
  cases place : center.loop with
  | tryPop =>
      simp only [place] at stepped
      split at stepped
      · cases stepped
        exact effect_of_outside (Or.inl rfl) rfl (Or.inr (Or.inr rfl)) (Or.inr ⟨rfl, place⟩)
          ⟨rfl, rfl, rfl⟩
      · cases stepped
        exact effect_of_outside (Or.inl rfl) rfl (Or.inr (Or.inr rfl)) (Or.inr ⟨rfl, place⟩)
          ⟨rfl, rfl, rfl⟩
  | storeRunning | storeStarted | loadRunning | leaving =>
      simp only [place, Option.some.injEq] at stepped
      subst stepped
      exact effect_of_outside (Or.inl rfl) rfl (Or.inr (Or.inr rfl))
        (Or.inl (pushes_of_none rfl rfl rfl)) ⟨rfl, rfl, rfl⟩
  | unborn | handling | exited => simp [place] at stepped

theorem effect_of_poolStep {action : PoolAction numWorkers}
    (stepped : center.poolStep action = some next) : center.Effect (.pool action) next := by
  cases action with
  | control | setPostCallbackDone => simp [poolStep] at stepped
  | finishTask index error =>
      simp only [poolStep, Option.ite_none_right_eq_some] at stepped
      rcases Option.map_eq_some_iff.mp stepped.2 with ⟨pool, _, rfl⟩
      exact effect_of_outside (Or.inl rfl) rfl (Or.inl rfl)
        (Or.inl (pushes_of_none rfl rfl rfl)) ⟨rfl, rfl, rfl⟩
  | worker index =>
      rcases Option.map_eq_some_iff.mp stepped with ⟨pool, _, rfl⟩
      dsimp only
      split
      · rename_i posts
        exact effect_of_outside (Or.inl rfl) rfl (Or.inl rfl)
          (Or.inl (pushes_of_some (if_pos posts) rfl rfl)) ⟨rfl, rfl, rfl⟩
      · rename_i silent
        exact effect_of_outside (Or.inl rfl) rfl (Or.inl rfl)
          (Or.inl (pushes_of_none (if_neg silent) rfl rfl)) ⟨rfl, rfl, rfl⟩
  | spuriousWake | postLock | postLoadClosed | postPush | postNotify =>
      rcases Option.map_eq_some_iff.mp stepped with ⟨pool, _, rfl⟩
      exact effect_of_outside (Or.inl rfl) rfl (Or.inl rfl)
        (Or.inl (pushes_of_none rfl rfl rfl)) ⟨rfl, rfl, rfl⟩

/-- The steps of a caller of `post_event`: they leave `start()`, `stop()` and the loop. -/
theorem effect_of_post (same : next.control = center.control ∧ next.running = center.running ∧
      next.loop = center.loop)
    (pushes : center.Pushes action next)
    (mutex : next.postMutex = some .stop → center.postMutex = some .stop)
    (task : ∀ index, next.taskWants index = center.taskWants index ∨
      next.taskWants index = none ∨ ∃ event, action = .taskPosts index event)
    (handler : next.handlerWants = center.handlerWants ∨ next.handlerWants = none ∨
      ∃ event, action = .handlerPosts event) : center.Effect action next where
  control := fun _ => Or.inl same.1
  running := fun _ => same.2.1
  loop := Or.inl same.2.2
  queue := Or.inl pushes
  mutex := fun held => Or.inl (mutex held)
  task := task
  handler := handler

theorem effect_of_step (stepped : center.step action = some next) :
    center.Effect action next := by
  cases action with
  | control => exact effect_of_controlStep stepped
  | loop => exact effect_of_loopStep stepped
  | pool action => exact effect_of_poolStep stepped
  | startTimeout =>
      simp only [step, Option.ite_none_right_eq_some, Option.some.injEq] at stepped
      rcases stepped with ⟨_, rfl⟩
      exact effect_of_outside (Or.inr rfl) rfl (Or.inl rfl)
        (Or.inl (pushes_of_none rfl rfl rfl)) ⟨rfl, rfl, rfl⟩
  | handlerReturns =>
      simp only [step, handlerFree, Bool.and_eq_true, decide_eq_true_eq,
        Option.ite_none_right_eq_some, Option.some.injEq] at stepped
      rcases stepped with ⟨⟨⟨handling, _⟩, _⟩, rfl⟩
      exact effect_of_outside (Or.inl rfl) rfl (Or.inr (Or.inl ⟨handling, rfl⟩))
        (Or.inl (pushes_of_none rfl rfl rfl)) ⟨rfl, rfl, rfl⟩
  | directPush event =>
      simp only [step, Option.ite_none_right_eq_some, Option.some.injEq] at stepped
      rcases stepped with ⟨_, rfl⟩
      exact effect_of_outside (Or.inl rfl) rfl (Or.inl rfl)
        (Or.inl (pushes_of_some rfl rfl rfl)) ⟨rfl, rfl, rfl⟩
  | taskPosts index event =>
      simp only [step, Option.ite_none_right_eq_some, Option.some.injEq] at stepped
      rcases stepped with ⟨_, rfl⟩
      refine effect_of_post ⟨rfl, rfl, rfl⟩ (pushes_of_none rfl rfl rfl) id ?_ (Or.inl rfl)
      intro other
      by_cases same : other = index
      · subst same
        exact Or.inr (Or.inr ⟨event, rfl⟩)
      · exact Or.inl (Function.update_of_ne same _ _)
  | handlerPosts event =>
      simp only [step, Option.ite_none_right_eq_some, Option.some.injEq] at stepped
      rcases stepped with ⟨_, rfl⟩
      exact effect_of_post ⟨rfl, rfl, rfl⟩ (pushes_of_none rfl rfl rfl) id
        (fun _ => Or.inl rfl) (Or.inr (Or.inr ⟨event, rfl⟩))
  | posterLocks event =>
      simp only [step, Option.ite_none_right_eq_some, Option.some.injEq] at stepped
      rcases stepped with ⟨_, rfl⟩
      exact effect_of_post ⟨rfl, rfl, rfl⟩ (pushes_of_none rfl rfl rfl) nofun
        (fun _ => Or.inl rfl) (Or.inl rfl)
  | taskLocks index =>
      simp only [step] at stepped
      split at stepped
      · simp only [Option.ite_none_right_eq_some, Option.some.injEq] at stepped
        rcases stepped with ⟨_, rfl⟩
        refine effect_of_post ⟨rfl, rfl, rfl⟩ (pushes_of_none rfl rfl rfl) nofun ?_ (Or.inl rfl)
        intro other
        by_cases same : other = index
        · subst same
          exact Or.inr (Or.inl (Function.update_self _ _ _))
        · exact Or.inl (Function.update_of_ne same _ _)
      · cases stepped
  | handlerLocks =>
      simp only [step] at stepped
      split at stepped
      · simp only [Option.ite_none_right_eq_some, Option.some.injEq] at stepped
        rcases stepped with ⟨_, rfl⟩
        exact effect_of_post ⟨rfl, rfl, rfl⟩ (pushes_of_none rfl rfl rfl) nofun
          (fun _ => Or.inl rfl) (Or.inr (Or.inl rfl))
      · cases stepped
  | postLoadRunning =>
      simp only [step] at stepped
      split at stepped
      · cases stepped
        refine effect_of_post ⟨rfl, rfl, rfl⟩ (pushes_of_none rfl rfl rfl) ?_
          (fun _ => Or.inl rfl) (Or.inl rfl)
        intro held
        simp only at held
        split at held <;> cases held
      · cases stepped
  | postPush =>
      simp only [step] at stepped
      split at stepped
      · rename_i caller event holds
        cases stepped
        exact effect_of_post ⟨rfl, rfl, rfl⟩
          (pushes_of_some (by simp [pushedBy, holds]) rfl rfl) nofun (fun _ => Or.inl rfl)
          (Or.inl rfl)
      · cases stepped

end MsgCenter

end HttpsServerSim
