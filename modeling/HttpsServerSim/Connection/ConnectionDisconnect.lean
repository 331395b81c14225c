import HttpsServerSim.Connection.Connection

/-!
# What a disconnected connection holds

A connection becomes `DISCONNECTED` in `close`, which closes the descriptor first, or by a call
of `transition_to` outside every `close`, which does not. In an operation with callbacks the
first of the calls that asks for the state decides, since nothing leaves it.
-/

namespace HttpsServerSim

/-- The calls that disconnect. -/
inductive Disconnection where
  | close
  | transitionTo
deriving DecidableEq

/-- The first call that asks for `DISCONNECTED`, the calls within a `close` left out. -/
def CallbackCalls.firstDisconnect : CallbackCalls → Option Disconnection
  | .returns => none
  | .close .. => some .close
  | .transitionTo _ newState onChange next =>
      if newState = .disconnected then some .transitionTo
      else onChange.firstDisconnect.or next.firstDisconnect

def ConnectionOperation.firstDisconnect : ConnectionOperation → Option Disconnection
  | .transitionTo now newState onChange =>
      (CallbackCalls.transitionTo now newState onChange .returns).firstDisconnect
  | .close .. => some .close
  | _ => none

namespace Connection

/-- No descriptor and no callback. -/
def HoldsNothing (connection : Connection) : Prop :=
  connection.state = .disconnected → connection.fd = -1 ∧ connection.inCallback = false
deriving Decidable

/-- An operation that disconnects finds no descriptor, or closes it, and no callback is started
after that. -/
def DisconnectsCleanly (connection : Connection) : ConnectionOperation → Prop
  | .setCallbackStartTime _ => connection.state ≠ .disconnected
  | operation =>
      connection.state = .disconnected ∨ connection.fd = -1 ∨
        operation.firstDisconnect = none ∨
          operation.firstDisconnect = some .close ∧ 0 ≤ connection.fd

/-- `DISCONNECTED` is final. -/
def StaysDisconnected (connection : Connection) (operation : ConnectionOperation) : Prop :=
  connection.state = .disconnected →
    ∀ next, connection.step operation = some next → next.state = .disconnected

@[simp] theorem closeFd_state (connection : Connection) :
    connection.closeFd.state = connection.state := by
  unfold closeFd
  split <;> rfl

@[simp] theorem closeFd_inCallback (connection : Connection) :
    connection.closeFd.inCallback = connection.inCallback := by
  unfold closeFd
  split <;> rfl

theorem closeFd_fd (connection : Connection) :
    connection.closeFd.fd = if 0 ≤ connection.fd then -1 else connection.fd := by
  unfold closeFd
  split <;> rfl

theorem closeFd_closeCalls (connection : Connection) :
    connection.closeFd.closeCalls =
      if 0 ≤ connection.fd then connection.closeCalls ++ [connection.fd]
      else connection.closeCalls := by
  unfold closeFd
  split <;> rfl

/-- The descriptor and what the system was told of it. -/
def descriptor (connection : Connection) : ℤ × List ℤ :=
  (connection.fd, connection.closeCalls)

theorem closeFd_descriptor {connection other : Connection}
    (same : connection.descriptor = other.descriptor) :
    connection.closeFd.descriptor = other.closeFd.descriptor := by
  rcases Prod.mk.inj same with ⟨sameFd, sameCalls⟩
  simp [descriptor, closeFd_fd, closeFd_closeCalls, sameFd, sameCalls]

theorem closeFd_closeFd (connection : Connection) :
    connection.closeFd.closeFd = connection.closeFd := by
  by_cases opened : 0 ≤ connection.fd
  · simp [closeFd, opened]
  · simp [closeFd, opened]

end Connection

/-! ## The outcome of a call -/

/-- What a disconnecting call leaves of the descriptor. -/
def Disconnection.leaves : Disconnection → Connection → Connection
  | .close, connection => connection.closeFd
  | .transitionTo, connection => connection

/-- What calls do to a connection that is not disconnected, by the first of them that
disconnects. -/
inductive CallOutcome (before : Connection) : Option Disconnection → Connection → Prop where
  | stays {after : Connection} (live : after.state ≠ .disconnected)
      (kept : after.descriptor = before.descriptor) : CallOutcome before none after
  | disconnects {after : Connection} {call : Disconnection} (ended : after.state = .disconnected)
      (cleared : after.inCallback = false)
      (left : after.descriptor = (call.leaves before).descriptor) :
      CallOutcome before (some call) after

/-- A callback with a given first disconnecting call. -/
structure CallbackReacts (callback : Connection → Option Connection)
    (first : Option Disconnection) : Prop where
  idle : ∀ {connection after : Connection}, connection.state = .disconnected →
    callback connection = some after → after = connection
  outcome : ∀ {connection after : Connection}, connection.state ≠ .disconnected →
    callback connection = some after → CallOutcome connection first after

namespace CallOutcome

variable {before middle after : Connection} {first second : Option Disconnection}

theorem congr (same : middle.descriptor = before.descriptor)
    (outcome : CallOutcome middle first after) : CallOutcome before first after := by
  cases outcome with
  | stays live kept => exact .stays live (kept.trans same)
  | @disconnects _ call ended cleared left =>
      refine .disconnects ended cleared (left.trans ?_)
      cases call with
      | close => exact Connection.closeFd_descriptor same
      | transitionTo => exact same

/-- Calls after calls. -/
theorem andThen {callback : Connection → Option Connection}
    (reacts : CallbackReacts callback second) (outcome : CallOutcome before first middle)
    (performed : callback middle = some after) :
    CallOutcome before (first.or second) after := by
  cases outcome with
  | stays live kept => exact (reacts.outcome live performed).congr kept
  | disconnects ended cleared left =>
      rw [reacts.idle ended performed]
      exact .disconnects ended cleared left

end CallOutcome

namespace Connection

variable {connection after : Connection} {now disconnectingAt disconnectedAt : UInt64}
  {newState : ConnectionState} {first second : Option Disconnection}
  {callback onDisconnecting onDisconnected : Connection → Option Connection}

theorem transitionTo_of_not_changes (unchanged : ¬connection.Changes newState) :
    connection.transitionTo now newState callback = some connection := by
  unfold Changes at unchanged
  unfold transitionTo
  by_cases same : connection.state = newState
  · simp [same]
  · by_cases ended : connection.state = .disconnected
    · simp [ended]
    · exact absurd ⟨same, ended⟩ unchanged

theorem transitionTo_outcome (reacts : CallbackReacts callback first)
    (changes : connection.Changes newState)
    (performed : connection.transitionTo now newState callback = some after) :
    CallOutcome connection (if newState = .disconnected then some .transitionTo else first)
      after := by
  rcases changes with ⟨different, live⟩
  unfold transitionTo at performed
  rw [if_neg different, if_neg live] at performed
  split at performed
  · cases performed
  · rcases Option.map_eq_some_iff.mp performed with ⟨middle, called, rfl⟩
    by_cases ends : newState = .disconnected
    · have idle := reacts.idle ends called
      subst idle
      rw [if_pos ends, if_pos ends]
      exact .disconnects ends rfl rfl
    · rw [if_neg ends, if_neg ends]
      have outcome := reacts.outcome ends called
      exact outcome.congr (by rfl)

theorem close_of_disconnected (ended : connection.state = .disconnected) :
    connection.close disconnectingAt disconnectedAt onDisconnecting onDisconnected =
      some connection := by
  simp [close, ended]

/-- Whatever the callbacks do, `close` closes the descriptor once. -/
theorem close_outcome (reactsFirst : CallbackReacts onDisconnecting first)
    (reactsSecond : CallbackReacts onDisconnected second)
    (live : connection.state ≠ .disconnected)
    (performed : connection.close disconnectingAt disconnectedAt onDisconnecting
      onDisconnected = some after) :
    CallOutcome connection (some .close) after := by
  unfold close at performed
  rw [if_neg live] at performed
  rcases Option.bind_eq_some_iff.mp performed with ⟨middle, disconnecting, disconnected⟩
  have reached : CallOutcome connection none middle ∨
      ∃ call, CallOutcome connection (some call) middle := by
    by_cases changes : connection.Changes .disconnecting
    · have outcome := transitionTo_outcome reactsFirst changes disconnecting
      cases first with
      | none => exact Or.inl outcome
      | some call => exact Or.inr ⟨call, outcome⟩
    · rw [transitionTo_of_not_changes changes] at disconnecting
      cases disconnecting
      exact Or.inl (.stays live rfl)
  rcases reached with stayed | ⟨call, left⟩
  · cases stayed with
    | stays middleLive kept =>
        have changes : middle.closeFd.Changes .disconnected := by
          simpa [Changes] using middleLive
        have outcome := transitionTo_outcome reactsSecond changes disconnected
        cases outcome with
        | disconnects ended cleared left =>
            exact .disconnects ended cleared (left.trans (closeFd_descriptor kept))
  · cases left with
    | disconnects ended cleared left =>
        -- A callback has disconnected already: what is left is to close the descriptor.
        have unchanged : ¬middle.closeFd.Changes .disconnected := by
          simp [Changes, ended]
        rw [transitionTo_of_not_changes unchanged] at disconnected
        cases disconnected
        refine .disconnects (by simpa using ended) (by simpa using cleared) ?_
        rw [closeFd_descriptor left]
        cases call with
        | close => exact congrArg descriptor connection.closeFd_closeFd
        | transitionTo => rfl

end Connection

theorem CallbackCalls.reacts (calls : CallbackCalls) :
    CallbackReacts calls.perform calls.firstDisconnect := by
  induction calls with
  | returns =>
      refine ⟨?_, ?_⟩
      · intro connection after _ performed
        cases performed
        rfl
      · intro connection after live performed
        cases performed
        exact .stays live rfl
  | close disconnectingAt disconnectedAt onDisconnecting onDisconnected next ihFirst ihSecond ih =>
      refine ⟨?_, ?_⟩
      · intro connection after ended performed
        rw [perform, Connection.close_of_disconnected ended] at performed
        exact ih.idle ended performed
      · intro connection after live performed
        rcases Option.bind_eq_some_iff.mp performed with ⟨middle, closed, continued⟩
        exact (Connection.close_outcome ihFirst ihSecond live closed).andThen ih continued
  | transitionTo now newState onChange next ihChange ih =>
      refine ⟨?_, ?_⟩
      · intro connection after ended performed
        have unchanged : ¬connection.Changes newState := fun changes => changes.2 ended
        rw [perform, Connection.transitionTo_of_not_changes unchanged] at performed
        split at performed
        · exact ih.idle ended performed
        · cases performed
      · intro connection after live performed
        rw [perform] at performed
        split at performed
        next heard =>
          rcases Option.bind_eq_some_iff.mp performed with ⟨middle, moved, continued⟩
          by_cases changes : connection.Changes newState
          · have outcome := (Connection.transitionTo_outcome ihChange changes moved).andThen ih
              continued
            rw [firstDisconnect]
            split
            next ends => simpa [ends] using outcome
            next goesOn => simpa [goesOn] using outcome
          · rw [Connection.transitionTo_of_not_changes changes] at moved
            cases moved
            have silent : onChange = .returns := by
              rcases heard with changed | silent
              · exact absurd changed changes
              · exact silent
            have goesOn : newState ≠ .disconnected := by
              intro ends
              apply changes
              rw [ends]
              exact ⟨live, live⟩
            subst silent
            rw [firstDisconnect, if_neg goesOn]
            exact ih.outcome live continued
        next => cases performed

/-! ## Sequences of operations -/

namespace Connection

variable {connection next : Connection} {operation : ConnectionOperation}

theorem step_outcome (live : connection.state ≠ .disconnected)
    (stepped : connection.step operation = some next) :
    CallOutcome connection operation.firstDisconnect next := by
  cases operation with
  | transitionTo now newState onChange =>
      exact (CallbackCalls.reacts _).outcome live stepped
  | close disconnectingAt disconnectedAt onDisconnecting onDisconnected =>
      exact (CallbackCalls.reacts _).outcome live stepped
  | setCallbackStartTime now | onCallbackComplete | updateLastActivity now =>
      cases stepped
      exact .stays live rfl

/-- A disconnected connection may only be told that a callback starts. -/
theorem step_of_disconnected (ended : connection.state = .disconnected)
    (stepped : connection.step operation = some next) :
    next.state = .disconnected ∧ next.descriptor = connection.descriptor ∧
      ((∀ now, operation ≠ .setCallbackStartTime now) → connection.inCallback = false →
        next.inCallback = false) := by
  cases operation with
  | transitionTo now newState onChange | close _ _ _ _ =>
      have same := (CallbackCalls.reacts _).idle ended stepped
      rw [same]
      exact ⟨ended, rfl, fun _ idle => idle⟩
  | setCallbackStartTime now =>
      cases stepped
      exact ⟨ended, rfl, fun starts => absurd rfl (starts now)⟩
  | onCallbackComplete =>
      cases stepped
      exact ⟨ended, rfl, fun _ _ => rfl⟩
  | updateLastActivity now =>
      cases stepped
      exact ⟨ended, rfl, fun _ idle => idle⟩

theorem staysDisconnected (connection : Connection) (operation : ConnectionOperation) :
    connection.StaysDisconnected operation := by
  intro ended next stepped
  exact (step_of_disconnected ended stepped).1

/-- One operation on a connection that holds nothing once it is disconnected. -/
theorem holdsNothing_step_iff (holds : connection.HoldsNothing)
    (stepped : connection.step operation = some next) :
    next.HoldsNothing ↔ connection.DisconnectsCleanly operation := by
  by_cases ended : connection.state = .disconnected
  · rcases holds ended with ⟨closed, idle⟩
    rcases step_of_disconnected ended stepped with ⟨disconnected, kept, silent⟩
    have stillClosed : next.fd = -1 := (Prod.mk.inj kept).1.trans closed
    cases operation with
    | setCallbackStartTime now =>
        cases stepped
        simp [HoldsNothing, DisconnectsCleanly, Connection.setCallbackStartTime, ended]
    | transitionTo _ _ _ | close _ _ _ _ | onCallbackComplete | updateLastActivity _ =>
        refine ⟨fun _ => Or.inl ended, ?_⟩
        intro _ _
        exact ⟨stillClosed, silent (by simp) idle⟩
  · have outcome := step_outcome ended stepped
    cases first : operation.firstDisconnect with
    | none =>
        rw [first] at outcome
        cases outcome with
        | stays live kept =>
            refine ⟨?_, ?_⟩
            · intro _
              cases operation with
              | setCallbackStartTime now => exact ended
              | transitionTo _ _ _ | close _ _ _ _ | onCallbackComplete | updateLastActivity _ =>
                  exact Or.inr (Or.inr (Or.inl first))
            · intro _ disconnected
              exact absurd disconnected live
    | some call =>
        rw [first] at outcome
        cases outcome with
        | disconnects disconnected cleared left =>
            have fdLeft : next.fd = (call.leaves connection).fd := (Prod.mk.inj left).1
            have clean : connection.DisconnectsCleanly operation ↔
                connection.fd = -1 ∨ call = .close ∧ 0 ≤ connection.fd := by
              cases operation with
              | setCallbackStartTime _ | onCallbackComplete | updateLastActivity _ => cases first
              | transitionTo _ _ _ | close _ _ _ _ =>
                  simp [DisconnectsCleanly, ended, first]
            have released : next.HoldsNothing ↔ (call.leaves connection).fd = -1 := by
              simp [HoldsNothing, disconnected, cleared, fdLeft]
            rw [clean, released]
            cases call with
            | close =>
                simp only [Disconnection.leaves, closeFd_fd, true_and]
                split <;> omega
            | transitionTo => simp [Disconnection.leaves]

/-- The descriptor is given to the system once at most, the destructor included. -/
def ClosedOnce (connection : Connection) : Prop :=
  connection.destroy.closeCalls.length ≤ 1
deriving Decidable

theorem closedOnce_of_descriptor {other : Connection} (once : connection.ClosedOnce)
    (same : other.descriptor = connection.descriptor) : other.ClosedOnce := by
  have closed := closeFd_descriptor same
  unfold ClosedOnce destroy at once ⊢
  rw [(Prod.mk.inj closed).2]
  exact once

theorem closedOnce_step (once : connection.ClosedOnce)
    (stepped : connection.step operation = some next) : next.ClosedOnce := by
  by_cases ended : connection.state = .disconnected
  · exact closedOnce_of_descriptor once (step_of_disconnected ended stepped).2.1
  · have outcome := step_outcome ended stepped
    cases first : operation.firstDisconnect with
    | none =>
        rw [first] at outcome
        cases outcome with
        | stays live kept => exact closedOnce_of_descriptor once kept
    | some call =>
        rw [first] at outcome
        cases outcome with
        | disconnects disconnected cleared left =>
            apply closedOnce_of_descriptor _ left
            cases call with
            | close =>
                unfold ClosedOnce destroy Disconnection.leaves
                rw [closeFd_closeFd]
                exact once
            | transitionTo => exact once

theorem closedOnce_construct (id : UInt64) (fd : ℤ) (now : UInt64) :
    (construct id fd now).ClosedOnce := by
  unfold ClosedOnce destroy
  rw [closeFd_closeCalls]
  split <;> simp [construct]

/-- For every sequence of operations, whatever the state callbacks do: the connection holds
nothing whenever it is disconnected, it stays disconnected and closes its descriptor once, just
if every operation that disconnects does so cleanly. -/
theorem holdsNothing_iff {id : UInt64} {fd : ℤ} {now : UInt64}
    {operations : List ConnectionOperation} {final : Connection}
    (ran : Interleaving.run step (construct id fd now) operations = some final) :
    (Interleaving.Throughout step HoldsNothing (construct id fd now) operations ∧
      Interleaving.Along step StaysDisconnected (construct id fd now) operations ∧
      final.ClosedOnce) ↔
        Interleaving.Along step DisconnectsCleanly (construct id fd now) operations := by
  have stays : Interleaving.Along step StaysDisconnected (construct id fd now) operations :=
    Interleaving.along_of_forall staysDisconnected _ _
  have once : final.ClosedOnce :=
    Interleaving.invariant_run closedOnce_step (closedOnce_construct id fd now) ran
  have agrees : Interleaving.Throughout step HoldsNothing (construct id fd now) operations ↔
      Interleaving.Along step DisconnectsCleanly (construct id fd now) operations := by
    refine Interleaving.throughout_iff_along_of_run holdsNothing_step_iff ?_ ?_ ran
    · intro state operation next holds clean stepped
      exact (holdsNothing_step_iff holds stepped).mpr clean
    · intro disconnected
      cases disconnected
  refine ⟨?_, ?_⟩
  · intro holds
    exact agrees.mp holds.1
  · intro clean
    exact ⟨agrees.mpr clean, stays, once⟩

/-- A connection with an open descriptor, closed from within a state callback. -/
theorem holdsNothing_iff_closedInCallback :
    (Interleaving.Throughout step HoldsNothing (construct 1 5 0)
        [.transitionTo 1 .disconnecting (.close 2 3 .returns .returns .returns)] ∧
      Interleaving.Along step StaysDisconnected (construct 1 5 0)
        [.transitionTo 1 .disconnecting (.close 2 3 .returns .returns .returns)] ∧
      ClosedOnce ⟨1, -1, .disconnected, 3, 0, false, [5]⟩) ↔
        Interleaving.Along step DisconnectsCleanly (construct 1 5 0)
          [.transitionTo 1 .disconnecting (.close 2 3 .returns .returns .returns)] :=
  holdsNothing_iff (by decide)

/-- The two transitions to `DISCONNECTED`, without `close`. -/
theorem holdsNothing_fails :
    ¬∀ (id : UInt64) (fd : ℤ) (now : UInt64) (operations : List ConnectionOperation)
      (final : Connection),
      Interleaving.run step (construct id fd now) operations = some final →
        Interleaving.Throughout step HoldsNothing (construct id fd now) operations ∧
          Interleaving.Along step StaysDisconnected (construct id fd now) operations ∧
            final.ClosedOnce := by
  intro alwaysHolds
  have holds := alwaysHolds 1 5 0
    [.transitionTo 1 .disconnecting .returns, .transitionTo 2 .disconnected .returns]
    ⟨1, 5, .disconnected, 2, 0, false, []⟩ (by decide)
  have afterFirst := holds.1.2 ⟨1, 5, .disconnecting, 1, 0, false, []⟩ (by decide)
  have afterSecond := afterFirst.1 ⟨1, 5, .disconnected, 2, 0, false, []⟩ (by decide)
  revert afterSecond
  decide

end Connection

end HttpsServerSim
