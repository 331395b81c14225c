import Mathlib.Logic.Basic

/-!
# Scoped locks

A program of one thread that locks a mutex for the length of a block. The mutex is not recursive:
the thread that holds it must not lock it again, and does not get on if it does.

A program is proved to return by rules that follow its text. A block under the mutex returns if
the mutex is free and the block returns once it is not.
-/

namespace HttpsServerSim

universe u

/-- What a thread works on, and whether the thread holds the mutex. -/
structure Guarded (State : Type u) where
  state : State
  held : Bool

inductive LockError where
  /-- The thread locks the mutex that it holds. -/
  | selfDeadlock
deriving DecidableEq, Repr

/-- A program of one thread. -/
abbrev Locking (State : Type u) := StateT (Guarded State) (Except LockError)

namespace Locking

variable {State Value Other : Type u}

def read : Locking State State := fun guarded => .ok (guarded.state, guarded)

def update (change : State → State) : Locking State PUnit := fun guarded =>
  .ok (⟨⟩, { guarded with state := change guarded.state })

/-- A branch with nothing on its other side. -/
def onlyIf (condition : Bool) (program : Locking State PUnit) : Locking State PUnit :=
  if condition then program else pure ⟨⟩

/-- A block behind `std::lock_guard<std::mutex> lock(mutex)`. -/
def lockGuard (body : Locking State Value) : Locking State Value := fun guarded =>
  if guarded.held then .error .selfDeadlock
  else (body { guarded with held := true }).map fun result =>
    (result.1, { result.2 with held := false })

/-- The program returns and leaves the mutex as it was. -/
def Returns (program : Locking State Value) (guarded : Guarded State) : Prop :=
  ∃ value state, program guarded = .ok (value, { state, held := guarded.held })

/-- The program locks the mutex while the thread holds it. -/
def SelfDeadlocks (program : Locking State Value) (guarded : Guarded State) : Prop :=
  program guarded = .error .selfDeadlock

variable {program : Locking State Value} {next : Value → Locking State Other}
  {body : Locking State Value} {guarded : Guarded State}

theorem Returns.not_selfDeadlocks (returns : program.Returns guarded) :
    ¬program.SelfDeadlocks guarded := by
  rcases returns with ⟨value, state, returned⟩
  intro deadlock
  simp [SelfDeadlocks, returned] at deadlock

theorem bind_of_ok {value : Value} {after : Guarded State}
    (returned : program guarded = .ok (value, after)) :
    (program >>= next) guarded = next value after := by
  simp [bind, StateT.bind, Except.bind, returned]

/-! What the programs compute, one step at a time. -/

theorem pure_eq (value : Value) (guarded : Guarded State) :
    (pure value : Locking State Value) guarded = .ok (value, guarded) :=
  rfl

theorem read_bind {next : State → Locking State Other} (guarded : Guarded State) :
    (read >>= next) guarded = next guarded.state guarded :=
  rfl

theorem update_eq (change : State → State) (guarded : Guarded State) :
    update change guarded = .ok (⟨⟩, { guarded with state := change guarded.state }) :=
  rfl

theorem update_bind {next : PUnit → Locking State Other} (change : State → State)
    (guarded : Guarded State) :
    (update change >>= next) guarded =
      next ⟨⟩ { guarded with state := change guarded.state } :=
  rfl

theorem onlyIf_bind {condition : Bool} {program : Locking State PUnit}
    {next : PUnit → Locking State Other} (guarded : Guarded State) :
    (onlyIf condition program >>= next) guarded =
      if condition then (program >>= next) guarded else next ⟨⟩ guarded := by
  cases condition <;> rfl

theorem lockGuard_of_ok {state final : State} {value : Value}
    (returned : body ⟨state, true⟩ = .ok (value, ⟨final, true⟩)) :
    lockGuard body ⟨state, false⟩ = .ok (value, ⟨final, false⟩) := by
  simp [lockGuard, returned, Except.map]

/-! When programs return. -/

theorem returns_pure (value : Value) (guarded : Guarded State) :
    (pure value : Locking State Value).Returns guarded :=
  ⟨value, guarded.state, rfl⟩

theorem returns_update (change : State → State) (guarded : Guarded State) :
    (update change).Returns guarded :=
  ⟨⟨⟩, change guarded.state, rfl⟩

/-- Of what was read, only the state it was read in counts. -/
theorem returns_read_bind {next : State → Locking State Other} :
    (read >>= next).Returns guarded ↔ (next guarded.state).Returns guarded :=
  Iff.rfl

theorem Returns.bind (returns : program.Returns guarded)
    (later : ∀ value state, (next value).Returns { state, held := guarded.held }) :
    (program >>= next).Returns guarded := by
  rcases returns with ⟨value, state, returned⟩
  rcases later value state with ⟨other, final, done⟩
  refine ⟨other, final, ?_⟩
  rw [bind_of_ok returned]
  exact done

theorem returns_ite {condition : Prop} [Decidable condition] {first second : Locking State Value}
    (held : condition → first.Returns guarded) (failed : ¬condition → second.Returns guarded) :
    (if condition then first else second).Returns guarded := by
  split
  · apply held
    assumption
  · apply failed
    assumption

theorem returns_onlyIf {condition : Bool} {program : Locking State PUnit}
    (held : condition = true → program.Returns guarded) :
    (onlyIf condition program).Returns guarded :=
  returns_ite held fun _ => returns_pure _ _

theorem returns_lockGuard (free : guarded.held = false)
    (returns : body.Returns { guarded with held := true }) : (lockGuard body).Returns guarded := by
  rcases guarded with ⟨start, held⟩
  cases free
  rcases returns with ⟨value, state, returned⟩
  exact ⟨value, state, lockGuard_of_ok returned⟩

theorem selfDeadlocks_read_bind {next : State → Locking State Other} :
    (read >>= next).SelfDeadlocks guarded ↔ (next guarded.state).SelfDeadlocks guarded :=
  Iff.rfl

theorem SelfDeadlocks.bind (deadlocks : program.SelfDeadlocks guarded) :
    (program >>= next).SelfDeadlocks guarded := by
  unfold SelfDeadlocks at deadlocks ⊢
  simp [Bind.bind, StateT.bind, Except.bind, deadlocks]

theorem selfDeadlocks_onlyIf {condition : Bool} {program : Locking State PUnit}
    (held : condition = true) (deadlocks : program.SelfDeadlocks guarded) :
    (onlyIf condition program).SelfDeadlocks guarded := by
  simpa [onlyIf, held] using deadlocks

/-- A block under the mutex, inside another one. -/
theorem selfDeadlocks_lockGuard_of_held (held : guarded.held = true) (body : Locking State Value) :
    (lockGuard body).SelfDeadlocks guarded := by
  simp [SelfDeadlocks, lockGuard, held]

/-- What happens inside a block happens to it. -/
theorem selfDeadlocks_lockGuard (deadlocks : body.SelfDeadlocks { guarded with held := true }) :
    (lockGuard body).SelfDeadlocks guarded := by
  unfold SelfDeadlocks at deadlocks ⊢
  unfold lockGuard
  split
  next => rfl
  next => simp [deadlocks, Except.map]

end Locking

end HttpsServerSim
