import HttpsServerSim.MsgCenter.MsgCenterSteps

/-!
# Completions at the end

`stop()` stops the workers before the event loop so that the loop sees their `CALLBACK_DONE`
events. The loop looks at `running_` before each event, though, and an event `SHUTDOWN` passes
all others; it is left with whatever is queued then, and what comes later stays as well. So
the completions are taken if and only if none is queued when the loop is left and none is
accepted after that.
-/

namespace HttpsServerSim

universe u

theorem EventType.callbackDone_known : EventType.callbackDone.code.toNat < kEventPriorityCount := by
  decide

def callbackDonePriority : EventPriority :=
  ⟨EventType.callbackDone.code.toNat, EventType.callbackDone_known⟩

theorem Event.type_of_priority? {Handler : Type u} {event : Event Handler} :
    event.priority? = some callbackDonePriority ↔ event.type = .callbackDone := by
  unfold Event.priority? callbackDonePriority
  constructor
  · intro known
    split at known
    · simp only [Option.some.injEq, Fin.mk.injEq] at known
      cases type : event.type with
      | mk code =>
          rw [type] at known
          exact congrArg EventType.mk (UInt8.toNat_inj.mp known)
    · cases known
  · intro type
    rw [type]
    exact dif_pos EventType.callbackDone_known

namespace CenterPc

/-- The thread of the event loop has not been created. -/
def beforeLoop : CenterPc → Bool
  | startLoad | poolStart | spawnLoop => true
  | _ => false

end CenterPc

namespace MsgCenter

variable {numWorkers : ℕ} {Handler : Type u} {center next : MsgCenter numWorkers Handler}
  {action : CenterAction numWorkers Handler}

/-- The `CALLBACK_DONE` events that are queued. -/
def completions (center : MsgCenter numWorkers Handler) : List (Event Handler) :=
  center.queue.priorityQueues callbackDonePriority

/-- The loop has taken every `CALLBACK_DONE` event that the queue accepted. -/
def CompletionsTaken (center : MsgCenter numWorkers Handler) : Prop :=
  PriorityFifo.delivered Event.priority? callbackDonePriority center.history =
    PriorityFifo.accepted Event.priority? callbackDonePriority center.history

/-- The loop is left in this step: it finds `running_` unset, or takes an event `SHUTDOWN`. -/
def Leaves (center : MsgCenter numWorkers Handler) : CenterAction numWorkers Handler → Prop
  | .loop =>
      (center.loop = .loadRunning ∧ center.loopRunning = false) ∨
        (center.loop = .tryPop ∧
          center.queue.tryPop.1.any (fun event => event.type = .shutdown) = true)
  | _ => False

instance (center : MsgCenter numWorkers Handler) (action : CenterAction numWorkers Handler) :
    Decidable (center.Leaves action) :=
  match action with
  | .loop => inferInstanceAs (Decidable (_ ∨ _))
  | .control | .startTimeout | .handlerReturns | .pool _ | .taskPosts _ _ | .handlerPosts _
  | .taskLocks _ | .handlerLocks | .posterLocks _ | .postLoadRunning | .postPush
  | .directPush _ => isFalse id

/-- The condition on a run: no `CALLBACK_DONE` event is accepted after the loop has been left, and
none is queued when it is left. -/
def CompletionsKept (center : MsgCenter numWorkers Handler)
    (action : CenterAction numWorkers Handler) : Prop :=
  (∀ event ∈ center.pushedBy action, event.type = .callbackDone →
      (center.queue.push event).1 = true → center.loop.left = false) ∧
    (center.Leaves action → center.completions = [])

instance [DecidableEq Handler] (center : MsgCenter numWorkers Handler)
    (action : CenterAction numWorkers Handler) : Decidable (center.CompletionsKept action) :=
  inferInstanceAs (Decidable ((∀ _ ∈ _, _) ∧ (_ → _)))

/-! ## The history is one of a priority queue -/

structure Recorded (center : MsgCenter numWorkers Handler) : Prop where
  ran : PriorityFifo.Run center.queue.maxSize.toNat Event.priority? center.history
    center.queue.toFifo
  counted : center.queue.Counted

theorem Recorded.push (recorded : center.Recorded) (event : Event Handler) :
    (center.push event).Recorded := by
  rcases EventQueue.push_spec recorded.counted event with
    ⟨after, pushed, answered, counted, sameMax⟩ | ⟨pushed, answered⟩
  · have queue : (center.push event).queue = after := by simp [MsgCenter.push, pushed]
    have history : (center.push event).history =
        center.history ++ [(.push event, .accepted)] := by
      simp [MsgCenter.push, pushed]
    refine ⟨?_, ?_⟩
    · rw [queue, history, sameMax]
      exact recorded.ran.step answered
    · rw [queue]
      exact counted
  · have queue : (center.push event).queue = center.queue := by simp [MsgCenter.push, pushed]
    have history : (center.push event).history =
        center.history ++ [(.push event, .refused)] := by
      simp [MsgCenter.push, pushed]
    refine ⟨?_, ?_⟩
    · rw [queue, history]
      exact recorded.ran.step answered
    · rw [queue]
      exact recorded.counted

/-- What a turn of the loop takes from the queue. -/
theorem take_of_loopStep (recorded : center.Recorded) (place : center.loop = .tryPop)
    (stepped : center.loopStep = some next) :
    (center.queue.toFifo.Exhausted ∧
        next = { center with
          loop := .loadRunning
          history := center.history ++ [(.tryPop, .nothing)] }) ∨
      ∃ event priority after, center.queue.tryPop = (some event, after) ∧
        center.queue.toFifo.Removes priority event after.toFifo ∧ after.Counted ∧
          after.maxSize = center.queue.maxSize ∧
          next = { center with
            queue := after
            loop :=
              if event.type ≠ .shutdown then
                if event.handler.isSome then .handling else .loadRunning
              else .leaving
            history := center.history ++ [(.tryPop, .item event)] } := by
  unfold loopStep at stepped
  rcases EventQueue.tryPop_spec recorded.counted with
    ⟨popped, exhausted⟩ | ⟨event, priority, after, popped, removes, counted, sameMax⟩
  · simp only [place, popped, Option.some.injEq] at stepped
    exact Or.inl ⟨exhausted, stepped.symm⟩
  · simp only [place, popped, Option.some.injEq] at stepped
    exact Or.inr ⟨event, priority, after, popped, removes, counted, sameMax, stepped.symm⟩

theorem Recorded.step (recorded : center.Recorded) (stepped : center.step action = some next) :
    next.Recorded := by
  rcases (effect_of_step stepped).queue with ⟨queue, history⟩ | ⟨rfl, place⟩
  · have afterwards : (center.afterPush action).Recorded := by
      unfold afterPush
      split
      · exact recorded.push _
      · exact recorded
    refine ⟨?_, ?_⟩
    · rw [queue, history]
      exact afterwards.ran
    · rw [queue]
      exact afterwards.counted
  · rcases take_of_loopStep recorded place stepped with
      ⟨exhausted, rfl⟩ | ⟨event, priority, after, _, removes, counted, sameMax, rfl⟩
    · exact ⟨recorded.ran.step (.tryPopNothing exhausted), recorded.counted⟩
    · refine ⟨?_, counted⟩
      simp only [sameMax]
      exact recorded.ran.step (.tryPop removes)

theorem completionsTaken_iff_nil (recorded : center.Recorded) :
    center.CompletionsTaken ↔ center.completions = [] := by
  have conserved := recorded.ran.conserved.2 callbackDonePriority
  unfold CompletionsTaken
  rw [conserved]
  simp [completions, EventQueue.toFifo]

/-! ## The loop and those who wait for it -/

/-- How far the loop is when `start()` and `stop()` are at a place. -/
structure Ordered (center : MsgCenter numWorkers Handler) : Prop where
  unborn : center.control.beforeLoop = true → center.loop = .unborn
  notRunning : center.control = .startLoad → center.running = false
  running : center.control = .stopLoad → center.running = true
  exited : center.control.loopJoined = true → center.loop = .exited

theorem ordered_construct (numWorkers ioThreadCount : ℕ) :
    (construct numWorkers ioThreadCount : MsgCenter numWorkers Handler).Ordered :=
  ⟨fun _ => rfl, fun _ => rfl, nofun, nofun⟩

/-- `start()` and `stop()` at the places that are not between the creation of the loop and its
join. -/
theorem Ordered.controlStep (ordered : center.Ordered) (stepped : center.controlStep = some next) :
    next.Ordered := by
  unfold MsgCenter.controlStep at stepped
  cases place : center.control with
  | startLoad =>
      have unborn := ordered.unborn (by rw [place]; rfl)
      have notRunning := ordered.notRunning place
      simp only [place, notRunning, Option.some.injEq] at stepped
      subst stepped
      refine ⟨fun _ => unborn, fun _ => rfl, ?_, ?_⟩
      · intro stopping
        simp only [Bool.false_eq_true, if_false] at stopping
        split at stopping <;> cases stopping
      · intro joined
        simp only [Bool.false_eq_true, if_false] at joined
        split at joined <;> cases joined
  | poolStart =>
      have unborn := ordered.unborn (by rw [place]; rfl)
      simp only [place] at stepped
      split at stepped
      · cases stepped
        exact ⟨fun _ => unborn, nofun, nofun, nofun⟩
      · rcases Option.map_eq_some_iff.mp stepped with ⟨pool, _, rfl⟩
        exact ⟨fun _ => unborn, nofun, nofun, nofun⟩
  | poolStop =>
      simp only [place] at stepped
      split at stepped
      · cases stepped
        exact ⟨nofun, nofun, nofun, nofun⟩
      · rcases Option.map_eq_some_iff.mp stepped with ⟨pool, _, rfl⟩
        exact ⟨nofun, nofun, nofun, nofun⟩
  | storeRunning =>
      simp only [place, Option.some.injEq] at stepped
      subst stepped
      exact ⟨nofun, nofun, fun _ => rfl, nofun⟩
  | stopLoad =>
      have running := ordered.running place
      simp only [place, running, if_true, Option.some.injEq] at stepped
      subst stepped
      exact ⟨nofun, nofun, nofun, nofun⟩
  | spawnLoop | setPostCallbackDone | stopStoreRunning | loopStoreRunning | loopPushShutdown =>
      simp only [place, Option.some.injEq] at stepped
      subst stepped
      exact ⟨nofun, nofun, nofun, nofun⟩
  | waitStarted | stopLock =>
      simp only [place, Option.ite_none_right_eq_some, Option.some.injEq] at stepped
      rcases stepped with ⟨_, rfl⟩
      exact ⟨nofun, nofun, nofun, nofun⟩
  | joinLoop =>
      simp only [place, Option.ite_none_right_eq_some, Option.some.injEq] at stepped
      rcases stepped with ⟨exited, rfl⟩
      exact ⟨nofun, nofun, nofun, fun _ => exited⟩
  | stopIoThreads =>
      have exited := ordered.exited (by rw [place]; rfl)
      simp only [place, Option.some.injEq] at stepped
      subst stepped
      exact ⟨nofun, nofun, nofun, fun _ => exited⟩
  | startFailed | stopped => simp [place] at stepped

theorem Ordered.step (ordered : center.Ordered) (stepped : center.step action = some next) :
    next.Ordered := by
  by_cases isControl : action = .control
  · subst isControl
    exact ordered.controlStep stepped
  · have effect := effect_of_step stepped
    have running := effect.running isControl
    rcases effect.control isControl with sameControl | failed
    · have stays : center.loop = .unborn ∨ center.loop = .exited → next.loop = center.loop := by
        intro still
        rcases effect.loop with same | ⟨handling, _⟩ | rfl | ⟨rfl, _⟩
        · exact same
        · rw [handling] at still
          rcases still with impossible | impossible <;> cases impossible
        · rcases still with place | place <;>
            simp [MsgCenter.step, loopStep, place] at stepped
        · exact absurd rfl isControl
      refine ⟨?_, ?_, ?_, ?_⟩
      · intro before
        rw [sameControl] at before
        have unborn := ordered.unborn before
        rw [stays (Or.inl unborn)]
        exact unborn
      · rw [sameControl, running]
        exact ordered.notRunning
      · rw [sameControl, running]
        exact ordered.running
      · intro joined
        rw [sameControl] at joined
        have exited := ordered.exited joined
        rw [stays (Or.inr exited)]
        exact exited
    · refine ⟨?_, ?_, ?_, ?_⟩
      all_goals
        intro place
        rw [failed] at place
        cases place

/-- The loop is not entered again. -/
theorem left_of_step (ordered : center.Ordered) (stepped : center.step action = some next)
    (left : center.loop.left = true) : next.loop.left = true := by
  rcases (effect_of_step stepped).loop with same | ⟨handling, _⟩ | rfl | ⟨rfl, spawning⟩
  · rw [same]
    exact left
  · rw [handling] at left
    cases left
  · cases place : center.loop with
    | leaving =>
        simp only [step, loopStep, place, Option.some.injEq] at stepped
        subst stepped
        rfl
    | exited => simp [step, loopStep, place] at stepped
    | _ =>
        rw [place] at left
        cases left
  · rw [ordered.unborn (by rw [spawning]; rfl)] at left
    cases left

/-- The loop is left in a step of its own. -/
theorem leaves_of_loopStep (stepped : center.loopStep = some next)
    (left : next.loop.left = true) : center.loop.left = true ∨ center.Leaves .loop := by
  unfold loopStep at stepped
  cases place : center.loop with
  | unborn | handling | exited => simp [place] at stepped
  | leaving => exact Or.inl rfl
  | storeRunning | storeStarted =>
      simp only [place, Option.some.injEq] at stepped
      subst stepped
      cases left
  | loadRunning =>
      simp only [place, Option.some.injEq] at stepped
      subst stepped
      refine Or.inr (Or.inl ⟨place, ?_⟩)
      cases running : center.loopRunning with
      | false => rfl
      | true => simp [running, LoopPc.left] at left
  | tryPop =>
      refine Or.inr (Or.inr ⟨place, ?_⟩)
      simp only [place] at stepped
      split at stepped
      · cases stepped
        cases left
      · rename_i event queue popped
        cases stepped
        rw [popped]
        by_contra other
        have different : event.type ≠ .shutdown := by simpa using other
        simp only [ne_eq, different, not_false_eq_true, if_true] at left
        split at left <;> cases left

theorem leaves_of_step (stepped : center.step action = some next)
    (left : next.loop.left = true) : center.loop.left = true ∨ center.Leaves action := by
  rcases (effect_of_step stepped).loop with same | ⟨_, after⟩ | rfl | ⟨rfl, spawning⟩
  · rw [same] at left
    exact Or.inl left
  · rw [after] at left
    cases left
  · exact leaves_of_loopStep stepped left
  · simp only [step, MsgCenter.controlStep, spawning, Option.some.injEq] at stepped
    subst stepped
    cases left

/-! ## Completions that are queued -/

theorem completions_push (center : MsgCenter numWorkers Handler) (event : Event Handler) :
    (center.push event).completions =
      center.completions ++
        if event.type = .callbackDone ∧ (center.queue.push event).1 = true then [event]
        else [] := by
  unfold completions MsgCenter.push EventQueue.push
  by_cases closed : center.queue.queueClosed = true
  · simp [closed]
  · by_cases full : center.queue.size ≥ center.queue.maxSize
    · simp [closed, full]
    · cases known : event.priority? with
      | none =>
          have other : event.type ≠ .callbackDone := by
            intro same
            rw [Event.type_of_priority?.mpr same] at known
            cases known
          simp [closed, full, other]
      | some priority =>
          by_cases same : event.type = .callbackDone
          · have its : priority = callbackDonePriority := by
              rw [Event.type_of_priority?.mpr same] at known
              exact (Option.some.inj known).symm
            simp [closed, full, same, its, EventQueue.insert]
          · have other : callbackDonePriority ≠ priority := by
              rintro rfl
              exact same (Event.type_of_priority?.mp known)
            simp [closed, full, same, EventQueue.insert, Function.update_of_ne other]

/-- The completions after a step that takes nothing. -/
theorem completions_of_pushes (pushes : center.Pushes action next) :
    next.completions = center.completions ∨
      ∃ event, center.pushedBy action = some event ∧ event.type = .callbackDone ∧
        (center.queue.push event).1 = true ∧
          next.completions = center.completions ++ [event] := by
  rcases pushes with ⟨queue, _⟩
  have same : next.completions = (center.afterPush action).completions := by
    unfold completions
    rw [queue]
  rw [same]
  unfold afterPush
  cases pushed : center.pushedBy action with
  | none => exact Or.inl rfl
  | some event =>
      simp only [completions_push]
      by_cases counts : event.type = .callbackDone ∧ (center.queue.push event).1 = true
      · rw [if_pos counts]
        exact Or.inr ⟨event, rfl, counts.1, counts.2, rfl⟩
      · rw [if_neg counts, List.append_nil]
        exact Or.inl rfl

/-- The completions after a turn of the loop. -/
theorem completions_of_take (recorded : center.Recorded) (place : center.loop = .tryPop)
    (stepped : center.loopStep = some next) :
    (center.completions = [] → next.completions = []) ∧
      (center.Leaves .loop → next.loop.left = true ∧ next.completions = center.completions) := by
  rcases take_of_loopStep recorded place stepped with
    ⟨exhausted, rfl⟩ | ⟨event, priority, after, popped, removes, _, _, rfl⟩
  · refine ⟨id, ?_⟩
    intro leaves
    rcases leaves with ⟨other, _⟩ | ⟨_, shutdown⟩
    · rw [place] at other
      cases other
    · have nothing : center.queue.tryPop.1 = none := by
        unfold EventQueue.tryPop
        rw [center.queue.getHighestPriorityQueue_eq_none_iff.mpr exhausted]
      rw [nothing] at shutdown
      cases shutdown
  · have conserved := removes.conserved recorded.ran.conserved.1 callbackDonePriority
    refine ⟨?_, ?_⟩
    · intro none
      have split : center.completions = _ := conserved
      rw [none] at split
      exact (List.append_eq_nil_iff.mp split.symm).2
    · intro leaves
      rcases leaves with ⟨other, _⟩ | ⟨_, shutdown⟩
      · rw [place] at other
        cases other
      · have isShutdown : event.type = .shutdown := by simpa [popped] using shutdown
        have other : ¬event.priority? = some callbackDonePriority := by
          rw [Event.type_of_priority?, isShutdown]
          decide
        refine ⟨by simp [isShutdown, LoopPc.left], ?_⟩
        simp only [List.filter_cons, other, decide_false, Bool.false_eq_true, if_false,
          List.filter_nil, List.nil_append] at conserved
        exact conserved.symm

/-- The loop has been left, and no completion is queued. -/
def LeftClean (center : MsgCenter numWorkers Handler) : Prop :=
  center.loop.left = true → center.completions = []

/-- The loop has been left with a completion that nobody will take. -/
def LeftBehind (center : MsgCenter numWorkers Handler) : Prop :=
  center.loop.left = true ∧ center.completions ≠ []

theorem recorded_leftClean_step (holds : center.Recorded ∧ center.LeftClean)
    (condition : center.CompletionsKept action) (stepped : center.step action = some next) :
    next.Recorded ∧ next.LeftClean := by
  rcases holds with ⟨recorded, clean⟩
  rcases condition with ⟨notLater, notThen⟩
  refine ⟨recorded.step stepped, ?_⟩
  intro left
  have before : center.completions = [] := by
    rcases leaves_of_step stepped left with already | leaves
    · exact clean already
    · exact notThen leaves
  rcases (effect_of_step stepped).queue with pushes | ⟨rfl, place⟩
  · rcases completions_of_pushes pushes with same | ⟨event, pushed, type, accepted, _⟩
    · rw [same]
      exact before
    · -- an accepted completion means that the loop was not left before, and this step does not
      -- leave it
      have notLeft := notLater event pushed type accepted
      rcases leaves_of_step stepped left with already | leaves
      · rw [notLeft] at already
        cases already
      · cases action with
        | loop => cases pushed
        | _ => exact absurd leaves id
  · exact (completions_of_take recorded place stepped).1 before

theorem ordered_leftBehind_step (holds : center.Ordered ∧ center.LeftBehind)
    (stepped : center.step action = some next) : next.Ordered ∧ next.LeftBehind := by
  rcases holds with ⟨ordered, left, queued⟩
  refine ⟨ordered.step stepped, left_of_step ordered stepped left, ?_⟩
  rcases (effect_of_step stepped).queue with pushes | ⟨rfl, place⟩
  · rcases completions_of_pushes pushes with same | ⟨event, _, _, _, more⟩
    · rw [same]
      exact queued
    · rw [more]
      exact List.append_ne_nil_of_right_ne_nil _ (List.cons_ne_nil event [])
  · rw [place] at left
    cases left

/-- A step that does not meet the condition leaves a completion behind. -/
theorem leftBehind_of_broken (ordered : center.Ordered) (recorded : center.Recorded)
    (broken : ¬center.CompletionsKept action) (stepped : center.step action = some next) :
    next.LeftBehind := by
  unfold CompletionsKept at broken
  by_cases leaves : center.Leaves action
  · by_cases queued : center.completions = []
    · -- the loop takes a step of its own, and pushes nothing
      cases action with
      | loop =>
          apply absurd _ broken
          exact ⟨nofun, fun _ => queued⟩
      | _ => exact absurd leaves id
    · cases action with
      | loop =>
          rcases id leaves with ⟨place, notRunning⟩ | ⟨place, _⟩
          · simp only [step, loopStep, place, notRunning, Bool.false_eq_true, if_false,
              Option.some.injEq] at stepped
            subst stepped
            exact ⟨rfl, queued⟩
          · rcases (completions_of_take recorded place stepped).2 leaves with ⟨left, same⟩
            refine ⟨left, ?_⟩
            rw [same]
            exact queued
      | _ => exact absurd leaves id
  · have late : ¬∀ event ∈ center.pushedBy action, event.type = .callbackDone →
        (center.queue.push event).1 = true → center.loop.left = false := by
      intro notLater
      exact broken ⟨notLater, fun leaves' => absurd leaves' leaves⟩
    simp only [Option.mem_def, not_forall] at late
    rcases late with ⟨event, pushed, type, accepted, left⟩
    have isLeft : center.loop.left = true := Bool.of_not_eq_false left
    refine ⟨left_of_step ordered stepped isLeft, ?_⟩
    rcases (effect_of_step stepped).queue with pushes | ⟨rfl, _⟩
    · rcases pushes with ⟨queue, _⟩
      have after : next.completions = (center.push event).completions := by
        unfold completions
        rw [queue]
        unfold afterPush
        rw [pushed]
      rw [after, completions_push, if_pos ⟨type, accepted⟩]
      exact List.append_ne_nil_of_right_ne_nil _ (List.cons_ne_nil event [])
    · cases pushed

/-! ## Runs -/

theorem recorded_construct (numWorkers ioThreadCount : ℕ) :
    (construct numWorkers ioThreadCount : MsgCenter numWorkers Handler).Recorded :=
  ⟨.initial, EventQueue.counted_construct 10000⟩

theorem ordered_recorded_step (holds : center.Ordered ∧ center.Recorded)
    (stepped : center.step action = some next) : next.Ordered ∧ next.Recorded :=
  ⟨holds.1.step stepped, holds.2.step stepped⟩

theorem ordered_recorded_run {ioThreadCount : ℕ} {actions : List (CenterAction numWorkers Handler)}
    (ran : (construct numWorkers ioThreadCount).run actions = some center) :
    center.Ordered ∧ center.Recorded :=
  Interleaving.invariant_run ordered_recorded_step
    ⟨ordered_construct numWorkers ioThreadCount, recorded_construct numWorkers ioThreadCount⟩ ran

/-- When `stop()` has joined the event loop, the loop has taken every `CALLBACK_DONE` event that the
queue accepted if and only if none was queued when the loop was left and none was accepted after
that. -/
theorem completionsTaken_iff {ioThreadCount : ℕ} {actions : List (CenterAction numWorkers Handler)}
    (ran : (construct numWorkers ioThreadCount).run actions = some center)
    (joined : center.control.loopJoined = true) :
    center.CompletionsTaken ↔
      Interleaving.Along step CompletionsKept (construct numWorkers ioThreadCount) actions := by
  rcases ordered_recorded_run ran with ⟨ordered, recorded⟩
  rw [completionsTaken_iff_nil recorded]
  constructor
  · intro none
    by_contra broken
    rcases Interleaving.exists_step_of_not_along ran broken with
      ⟨before, action, after, middle, next, _, reached, fails, stepped, later⟩
    rcases ordered_recorded_run reached with ⟨middleOrdered, middleRecorded⟩
    have behind := leftBehind_of_broken middleOrdered middleRecorded fails stepped
    have atEnd : center.Ordered ∧ center.LeftBehind :=
      Interleaving.invariant_run ordered_leftBehind_step ⟨middleOrdered.step stepped, behind⟩ later
    exact atEnd.2.2 none
  · intro along
    have initially : (construct numWorkers ioThreadCount : MsgCenter numWorkers Handler).Recorded ∧
        (construct numWorkers ioThreadCount : MsgCenter numWorkers Handler).LeftClean :=
      ⟨recorded_construct numWorkers ioThreadCount, nofun⟩
    have atEnd : center.Recorded ∧ center.LeftClean :=
      Interleaving.invariant_along recorded_leftClean_step initially along ran
    apply atEnd.2
    rw [ordered.exited joined]
    rfl

/-- The task returns, the loop takes the event of its completion, and `stop()` runs to the join. -/
def completesThenStops : List (CenterAction 1 Unit) :=
  oneTaskRuns.append
    [.pool (.finishTask onlyWorker none), .pool (.worker onlyWorker), .loop, .loop, .control,
      .control, .control, .control, .control, .control, .control, .pool (.worker onlyWorker),
      .pool (.worker onlyWorker), .pool (.worker onlyWorker), .pool (.worker onlyWorker),
      .pool (.worker onlyWorker), .pool (.worker onlyWorker), .control, .control, .control,
      .control, .loop, .control, .loop, .control]

theorem completionsTaken_completesThenStops :
    ∃ center, (construct 1 1).run completesThenStops = some center ∧
      center.control = .stopIoThreads ∧ center.history.length = 3 ∧ center.CompletionsTaken := by
  have seen : ((construct 1 1).run completesThenStops).map
      (fun center => (center.control, center.history.length)) = some (.stopIoThreads, 3) := by
    decide +kernel
  have along : Interleaving.Along step CompletionsKept (construct 1 1) completesThenStops := by
    decide +kernel
  rcases Option.map_eq_some_iff.mp seen with ⟨center, ran, fields⟩
  simp only [Prod.mk.injEq] at fields
  rcases fields with ⟨place, length⟩
  have joined : center.control.loopJoined = true := by
    rw [place]
    rfl
  exact ⟨center, ran, place, length, (completionsTaken_iff ran joined).mpr along⟩

/-- Here the task returns during `stop()`, and the loop looks at `running_` before it looks at the
queue. -/
def completesDuringStop : List (CenterAction 1 Unit) :=
  oneTaskRuns.append
    [.control, .control, .control, .control, .control, .control, .control,
      .pool (.finishTask onlyWorker none), .pool (.worker onlyWorker), .pool (.worker onlyWorker),
      .pool (.worker onlyWorker), .pool (.worker onlyWorker), .pool (.worker onlyWorker),
      .pool (.worker onlyWorker), .pool (.worker onlyWorker), .control, .control, .control,
      .control, .loop, .loop, .control, .control]

theorem completionsTaken_fails :
    ∃ center, (construct 1 1).run completesDuringStop = some center ∧
      center.control = .stopIoThreads ∧ ¬center.CompletionsTaken := by
  have seen : ((construct 1 1).run completesDuringStop).map
      (fun center => (center.control,
        PriorityFifo.delivered Event.priority? callbackDonePriority center.history,
        PriorityFifo.accepted Event.priority? callbackDonePriority center.history)) =
        some (.stopIoThreads, [], [.makeCallbackDoneEvent]) := by
    decide +kernel
  rcases Option.map_eq_some_iff.mp seen with ⟨center, ran, fields⟩
  simp only [Prod.mk.injEq] at fields
  rcases fields with ⟨place, taken, accepted⟩
  refine ⟨center, ran, place, ?_⟩
  intro all
  unfold CompletionsTaken at all
  rw [taken, accepted] at all
  cases all

end MsgCenter

end HttpsServerSim
