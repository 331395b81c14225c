import HttpsServerSim.MsgCenter.MsgCenterSteps

/-!
# Posts during `stop()`

`stop()` joins the workers and the event loop while it has `post_mutex_`, and a task or a handler
that calls `post_event` then waits for that mutex: none of the two threads moves again. Where
no task and no handler is in `post_event`, or comes to call it, while `stop()` has the mutex,
every join waits for a thread that can go on.
-/

namespace HttpsServerSim

universe u

namespace MsgCenter

variable {numWorkers : ℕ} {Handler : Type u} {center next : MsgCenter numWorkers Handler}
  {action : CenterAction numWorkers Handler}

/-- `stop()` has the mutex and joins a thread that waits for it. -/
def Deadlock (center : MsgCenter numWorkers Handler) : Prop :=
  center.postMutex = some .stop ∧
    ((center.control = .poolStop ∧ ∃ index : Fin numWorkers,
        center.pool.control = .stopJoin index ∧ (center.taskWants index).isSome) ∨
      (center.control = .joinLoop ∧ center.handlerWants.isSome))

/-- No task and no handler waits for the mutex. -/
def NobodyWants (center : MsgCenter numWorkers Handler) : Prop :=
  (∀ index, center.taskWants index = none) ∧ center.handlerWants = none

instance [DecidableEq Handler] (center : MsgCenter numWorkers Handler) :
    Decidable center.NobodyWants :=
  inferInstanceAs (Decidable ((∀ _, _) ∧ _))

/-- The condition on a run: `stop()` takes the mutex when nobody waits for it, and no task and no
handler calls `post_event` while `stop()` has it. -/
def PostsOutsideStop (center : MsgCenter numWorkers Handler) :
    CenterAction numWorkers Handler → Prop
  | .control => center.control = .stopLock → center.NobodyWants
  | .taskPosts _ _ | .handlerPosts _ => center.postMutex ≠ some .stop
  | _ => True

instance [DecidableEq Handler] (center : MsgCenter numWorkers Handler)
    (action : CenterAction numWorkers Handler) : Decidable (center.PostsOutsideStop action) :=
  match action with
  | .control => inferInstanceAs (Decidable (_ → _))
  | .taskPosts _ _ | .handlerPosts _ => inferInstanceAs (Decidable (_ ≠ _))
  | .startTimeout | .loop | .handlerReturns | .pool _ | .taskLocks _ | .handlerLocks
  | .posterLocks _ | .postLoadRunning | .postPush | .directPush _ => isTrue trivial

/-! ## Runs -/

/-- Nobody waits for the mutex while `stop()` has it. -/
def StopUndisturbed (center : MsgCenter numWorkers Handler) : Prop :=
  center.postMutex = some .stop → center.NobodyWants

theorem StopUndisturbed.step (undisturbed : center.StopUndisturbed)
    (condition : center.PostsOutsideStop action) (stepped : center.step action = some next) :
    next.StopUndisturbed := by
  intro held
  have effect := effect_of_step stepped
  -- the mutex was held before, so no task and no handler has begun to wait in this step
  have nobody : center.NobodyWants := by
    rcases effect.mutex held with already | ⟨rfl, locking⟩
    · exact undisturbed already
    · exact condition locking
  refine ⟨?_, ?_⟩
  · intro index
    rcases effect.task index with same | gone | ⟨event, rfl⟩
    · rw [same]
      exact nobody.1 index
    · exact gone
    · rcases effect.mutex held with already | ⟨impossible, _⟩
      · exact absurd already condition
      · cases impossible
  · rcases effect.handler with same | gone | ⟨event, rfl⟩
    · rw [same]
      exact nobody.2
    · exact gone
    · rcases effect.mutex held with already | ⟨impossible, _⟩
      · exact absurd already condition
      · cases impossible

/-- Along a run in which nobody posts from a task or a handler while `stop()` has the mutex,
`stop()` never joins a thread that waits for the mutex. -/
theorem stopDoesNotDeadlock {ioThreadCount : ℕ} {actions : List (CenterAction numWorkers Handler)}
    (along : Interleaving.Along step PostsOutsideStop (construct numWorkers ioThreadCount) actions)
    (ran : (construct numWorkers ioThreadCount).run actions = some center) : ¬center.Deadlock := by
  have initially : (construct numWorkers ioThreadCount :
      MsgCenter numWorkers Handler).StopUndisturbed := by
    intro held
    cases held
  have undisturbed : center.StopUndisturbed :=
    Interleaving.invariant_along StopUndisturbed.step initially along ran
  rintro ⟨held, ⟨_, index, _, wants⟩ | ⟨_, wants⟩⟩
  · rw [(undisturbed held).1 index] at wants
    cases wants
  · rw [(undisturbed held).2] at wants
    cases wants

/-- The task posts and returns; then `stop()` comes to join the worker. -/
def postsThenStop : List (CenterAction 1 Unit) :=
  oneTaskRuns.append
    [.taskPosts onlyWorker .makeCallbackDoneEvent, .taskLocks onlyWorker, .postLoadRunning,
      .postPush, .pool (.finishTask onlyWorker none), .control, .control, .control, .control,
      .control, .control, .control]

theorem stopDoesNotDeadlock_postsThenStop :
    ∃ center, (construct 1 1).run postsThenStop = some center ∧ center.control = .poolStop ∧
      center.pool.control = .stopJoin 0 ∧ ¬center.Deadlock := by
  have seen : ((construct 1 1).run postsThenStop).map
      (fun center => (center.control, center.pool.control)) = some (.poolStop, .stopJoin 0) := by
    decide +kernel
  have along : Interleaving.Along step PostsOutsideStop (construct 1 1) postsThenStop := by
    decide +kernel
  rcases Option.map_eq_some_iff.mp seen with ⟨center, ran, places⟩
  simp only [Prod.mk.injEq] at places
  exact ⟨center, ran, places.1, places.2, stopDoesNotDeadlock along ran⟩

/-- Here the task posts when `stop()` has the mutex. -/
def postsDuringStop : List (CenterAction 1 Unit) :=
  oneTaskRuns.append
    [.control, .control, .control, .taskPosts onlyWorker .makeCallbackDoneEvent, .control,
      .control, .control, .control]

theorem stopDoesNotDeadlock_fails :
    ∃ center, (construct 1 1).run postsDuringStop = some center ∧ center.Deadlock := by
  have seen : ((construct 1 1).run postsDuringStop).map
      (fun center => (center.postMutex, center.control, center.pool.control,
        center.taskWants 0)) =
        some (some .stop, .poolStop, .stopJoin 0, some .makeCallbackDoneEvent) := by
    decide +kernel
  rcases Option.map_eq_some_iff.mp seen with ⟨center, ran, fields⟩
  simp only [Prod.mk.injEq] at fields
  rcases fields with ⟨held, stopping, joining, wants⟩
  refine ⟨center, ran, held, Or.inl ⟨stopping, 0, joining, ?_⟩⟩
  rw [wants]
  rfl

end MsgCenter

end HttpsServerSim
