import HttpsServerSim.Lib.Interleaving
import HttpsServerSim.Utils.Logger

/-!
# The mutex of the logger

Of the operations only `init` calls another one that takes the mutex, and it does so when the
logger is initialized. All others take the mutex once, or not at all.
-/

namespace HttpsServerSim

open Locking

/-- The operations of a logger, with what they find outside. -/
inductive LoggerCall where
  | init (level : LogLevel) (file : Bytes) (opens : Bool)
  | initByName (level file : Bytes) (opens : Bool)
  | setLevel (level : LogLevel)
  | setFile (file : Bytes) (opens : Bool)
  | setConsoleOutput (enabled : Bool)
  | setFormat (format : Bytes)
  | log (level : LogLevel) (record : LogRecord)
  | debug (record : LogRecord)
  | info (record : LogRecord)
  | warn (record : LogRecord)
  | error (record : LogRecord)
  | flush
  | shutdown
  | destroy

namespace Logger

/-- An operation, whatever it returns. -/
def perform : LoggerCall → Locking Logger PUnit
  | .init level file opens => do let _ ← init level file opens
  | .initByName level file opens => do let _ ← initByName level file opens
  | .setLevel level => setLevel level
  | .setFile file opens => do let _ ← setFile file opens
  | .setConsoleOutput enabled => setConsoleOutput enabled
  | .setFormat format => setFormat format
  | .log level record => log level record
  | .debug record => debug record
  | .info record => info record
  | .warn record => warn record
  | .error record => error record
  | .flush => flush
  | .shutdown => shutdown
  | .destroy => destroy

/-- An operation is over when it returns. -/
def step (guarded : Guarded Logger) (call : LoggerCall) : Option (Guarded Logger) :=
  match perform call guarded with
  | .ok (_, after) => some after
  | .error _ => none

/-- A new logger, with its mutex free. -/
def fresh : Guarded Logger := { state := construct, held := false }

/-- The operation does not lock the mutex while the thread holds it. -/
def LocksOnce (guarded : Guarded Logger) (call : LoggerCall) : Prop :=
  ¬(perform call).SelfDeadlocks guarded

/-- `init` finds `initialized_` unset. -/
def InitsUninitialized (guarded : Guarded Logger) : LoggerCall → Prop
  | .init .. | .initByName .. => guarded.state.initialized = false
  | _ => True

variable {guarded : Guarded Logger}

/-! ## One operation -/

theorem returns_shutdown (free : guarded.held = false) : shutdown.Returns guarded := by
  apply returns_lockGuard free
  apply returns_read_bind.mpr
  apply Returns.bind
  · exact returns_onlyIf fun _ => returns_update _ _
  · exact fun _ _ => returns_update _ _

theorem returns_init (free : guarded.held = false) (unset : guarded.state.initialized = false)
    (level : LogLevel) (file : Bytes) (opens : Bool) :
    (init level file opens).Returns guarded := by
  apply returns_lockGuard free
  apply returns_read_bind.mpr
  apply Returns.bind
  · apply returns_onlyIf
    intro set
    exact absurd set (by simp [unset])
  intro _ _
  apply Returns.bind (returns_update _ _)
  intro _ _
  apply Returns.bind
  · exact returns_onlyIf fun _ => returns_update _ _
  intro _ _
  apply returns_read_bind.mpr
  apply returns_ite
  · exact fun _ => returns_pure _ _
  · intro _
    apply Returns.bind (returns_update _ _)
    exact fun _ _ => returns_pure _ _

/-- `shutdown` locks the mutex that `init` holds. -/
theorem selfDeadlocks_init (set : guarded.state.initialized = true)
    (level : LogLevel) (file : Bytes) (opens : Bool) :
    (init level file opens).SelfDeadlocks guarded := by
  apply selfDeadlocks_lockGuard
  apply selfDeadlocks_read_bind.mpr
  apply SelfDeadlocks.bind
  apply selfDeadlocks_onlyIf set
  exact selfDeadlocks_lockGuard_of_held rfl _

theorem unset_of_not_selfDeadlocks {level : LogLevel} {file : Bytes} {opens : Bool}
    (once : ¬(init level file opens).SelfDeadlocks guarded) :
    guarded.state.initialized = false := by
  by_contra set
  apply once
  apply selfDeadlocks_init
  simpa using set

theorem returns_setFile (free : guarded.held = false) (file : Bytes) (opens : Bool) :
    (setFile file opens).Returns guarded := by
  apply returns_lockGuard free
  apply returns_read_bind.mpr
  apply Returns.bind
  · exact returns_onlyIf fun _ => returns_update _ _
  intro _ _
  apply returns_ite
  · exact fun _ => returns_pure _ _
  · intro _
    apply Returns.bind (returns_update _ _)
    intro _ _
    exact returns_read_bind.mpr (returns_pure _ _)

theorem returns_log (free : guarded.held = false) (level : LogLevel) (record : LogRecord) :
    (log level record).Returns guarded := by
  apply returns_read_bind.mpr
  apply returns_onlyIf
  exact fun _ => returns_lockGuard free (returns_update _ _)

/-- An operation that may be called returns. -/
theorem returns_perform (free : guarded.held = false) {call : LoggerCall}
    (inits : InitsUninitialized guarded call) : (perform call).Returns guarded := by
  cases call with
  | init level file opens =>
      exact (returns_init free inits level file opens).bind fun _ _ => returns_pure _ _
  | initByName level file opens =>
      exact (returns_init free inits _ file opens).bind fun _ _ => returns_pure _ _
  | setFile file opens =>
      exact (returns_setFile free file opens).bind fun _ _ => returns_pure _ _
  | log level record => exact returns_log free level record
  | debug record | info record | warn record | error record => exact returns_log free _ record
  | setLevel level => exact returns_update (fun logger => { logger with level }) guarded
  | setConsoleOutput | setFormat => exact returns_lockGuard free (returns_update _ _)
  | flush => exact returns_lockGuard free (returns_pure _ _)
  | shutdown | destroy => exact returns_shutdown free

theorem locksOnce_iff (free : guarded.held = false) (call : LoggerCall) :
    LocksOnce guarded call ↔ InitsUninitialized guarded call := by
  refine ⟨?_, fun inits => (returns_perform free inits).not_selfDeadlocks⟩
  intro once
  cases call with
  | init | initByName => exact unset_of_not_selfDeadlocks fun deadlocks => once deadlocks.bind
  | _ => trivial

/-! ## Runs -/

/-- An operation that returns leaves the mutex free. -/
theorem held_of_step {after : Guarded Logger} {call : LoggerCall} (free : guarded.held = false)
    (inits : InitsUninitialized guarded call) (stepped : step guarded call = some after) :
    after.held = false := by
  rcases returns_perform free inits with ⟨_, state, returned⟩
  simp only [step, returned, Option.some.injEq] at stepped
  rw [← stepped]
  exact free

/-- For every sequence of operations. -/
theorem neverSelfDeadlocks_iff (calls : List LoggerCall) :
    Interleaving.Along step LocksOnce fresh calls ↔
      Interleaving.Along step InitsUninitialized fresh calls := by
  have agree : ∀ {guarded : Guarded Logger} {call : LoggerCall}, guarded.held = false →
      (LocksOnce guarded call ↔ InitsUninitialized guarded call) := by
    intro guarded call free
    exact locksOnce_iff free call
  have kept : ∀ {guarded after : Guarded Logger} {call : LoggerCall}, guarded.held = false →
      InitsUninitialized guarded call → step guarded call = some after → after.held = false := by
    intro guarded after call free inits stepped
    exact held_of_step free inits stepped
  exact Interleaving.along_congr_of_invariant agree kept rfl calls

/-- The logger is initialized twice. -/
theorem neverSelfDeadlocks_fails :
    ¬∀ calls : List LoggerCall, Interleaving.Along step LocksOnce fresh calls := by
  intro locksOnce
  have along := locksOnce [.init .info [] true, .init .info [] true]
  rcases along.2 _ rfl with ⟨once, _⟩
  exact once rfl

end Logger

end HttpsServerSim
