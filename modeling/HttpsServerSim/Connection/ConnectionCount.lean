import HttpsServerSim.Connection.ConnectionDisconnect
import HttpsServerSim.Connection.ConnectionManager
import Mathlib.Algebra.Group.Nat.Defs

/-!
# The count of pending connections

One thread's view of a connection manager and of the connections it has made, as objects in the
heap. `remove_connection` and `close_all` take connections out of the map;
`check_callback_timeouts` closes connections and leaves them there. The loop of
`wait_pending_requests` makes such a check in each turn, and leaves when the count is zero.
-/

namespace HttpsServerSim

structure ConnectionHeap where
  manager : ConnectionManager
  objects : ℕ → Connection

/-- What happens in a call of `close` on a connection. -/
structure Closing where
  disconnectingAt : UInt64
  disconnectedAt : UInt64
  onDisconnecting : CallbackCalls
  onDisconnected : CallbackCalls

def Closing.operation (closing : Closing) : ConnectionOperation :=
  .close closing.disconnectingAt closing.disconnectedAt closing.onDisconnecting
    closing.onDisconnected

/-- Other operations on a connection come from anywhere, but do not disconnect it. -/
inductive ManagerOperation where
  | createConnection (fd : ℤ) (now : UInt64)
  | removeConnection (id : UInt64)
  | checkCallbackTimeouts (order : IterationOrder) (timeoutSeconds : UInt32) (clock : ℕ → UInt64)
      (closing : ℕ → Closing)
  | closeAll (order : IterationOrder) (closing : ℕ → Closing)
  | waitPendingTurn (order : IterationOrder) (clock : ℕ → UInt64) (closing : ℕ → Closing)
  | connection (ref : ℕ) (operation : ConnectionOperation)

namespace ConnectionHeap

def construct : ConnectionHeap where
  manager := .construct
  objects := fun _ => .construct 0 (-1) 0

def createConnection (fd : ℤ) (now : UInt64) (heap : ConnectionHeap) : ConnectionHeap where
  manager := heap.manager.createConnection
  objects := Function.update heap.objects heap.manager.created
    (.construct heap.manager.nextConnectionId fd now)

def removeConnection (id : UInt64) (heap : ConnectionHeap) : ConnectionHeap :=
  { heap with manager := heap.manager.removeConnection id }

/-- `close` on one connection after the other. -/
def closeEach (closing : ℕ → Closing) : List ℕ → (ℕ → Connection) → Option (ℕ → Connection)
  | [], objects => some objects
  | ref :: refs, objects =>
      ((objects ref).step (closing ref).operation).bind fun closed =>
        closeEach closing refs (Function.update objects ref closed)

def isCallbackTimeout (timeoutSeconds : UInt32) (clock : ℕ → UInt64) (heap : ConnectionHeap)
    (ref : ℕ) : Bool :=
  (heap.objects ref).isCallbackTimeout (clock ref) (timeoutMs timeoutSeconds)

def checkCallbackTimeouts (order : IterationOrder) (timeoutSeconds : UInt32) (clock : ℕ → UInt64)
    (closing : ℕ → Closing) (heap : ConnectionHeap) : Option ConnectionHeap :=
  let timeoutConns := (order.arrange heap.manager.registered).filter
    (heap.isCallbackTimeout timeoutSeconds clock)
  (closeEach closing timeoutConns heap.objects).map fun objects => { heap with objects := objects }

def closeAll (order : IterationOrder) (closing : ℕ → Closing) (heap : ConnectionHeap) :
    Option ConnectionHeap :=
  let connsToClose := order.arrange heap.manager.registered
  (closeEach closing connsToClose heap.objects).map fun objects =>
    { manager := heap.manager.clear, objects := objects }

def maxCallbackTimeoutSeconds : UInt32 := 30

/-- The test of `wait_pending_requests` after its check. -/
def waitLeaves (heap : ConnectionHeap) : Bool :=
  heap.manager.getConnectionCount = 0

def step (heap : ConnectionHeap) : ManagerOperation → Option ConnectionHeap
  | .createConnection fd now => some (heap.createConnection fd now)
  | .removeConnection id => some (heap.removeConnection id)
  | .checkCallbackTimeouts order timeoutSeconds clock closing =>
      heap.checkCallbackTimeouts order timeoutSeconds clock closing
  | .closeAll order closing => heap.closeAll order closing
  | .waitPendingTurn order clock closing =>
      heap.checkCallbackTimeouts order maxCallbackTimeoutSeconds clock closing
  | .connection ref operation =>
      if operation.firstDisconnect = none then
        ((heap.objects ref).step operation).map fun connection =>
          { heap with objects := Function.update heap.objects ref connection }
      else none

/-- The registered connections that are not disconnected. -/
def live (heap : ConnectionHeap) : List ℕ :=
  heap.manager.registered.filter fun ref => (heap.objects ref).state ≠ .disconnected

/-- The count is that of the live connections, and the loop leaves when there is none. -/
def CountHonest (heap : ConnectionHeap) : Prop :=
  heap.manager.getConnectionCount.toNat = heap.live.length ∧
    (heap.waitLeaves = true ↔ heap.live = [])
deriving Decidable

/-- A check finds no timed out callback, and a creation does not overflow the count. -/
def KeepsCount (heap : ConnectionHeap) : ManagerOperation → Prop
  | .createConnection _ _ =>
      heap.manager.nextConnectionId ∈ heap.manager.connections ∨
        heap.manager.registered.length + 1 < 2 ^ 32
  | .checkCallbackTimeouts _ timeoutSeconds clock _ =>
      ∀ ref ∈ heap.manager.registered, ¬heap.isCallbackTimeout timeoutSeconds clock ref
  | .waitPendingTurn _ clock _ =>
      ∀ ref ∈ heap.manager.registered, ¬heap.isCallbackTimeout maxCallbackTimeoutSeconds clock ref
  | _ => True

/-- No registered connection is disconnected, and the count does not wrap. -/
structure AllLive (heap : ConnectionHeap) : Prop where
  live : ∀ ref ∈ heap.manager.registered, (heap.objects ref).state ≠ .disconnected
  old : ∀ ref ∈ heap.manager.registered, ref < heap.manager.created
  few : heap.manager.registered.length < 2 ^ 32

variable {heap next : ConnectionHeap} {operation : ManagerOperation}

theorem count_toNat (few : heap.manager.registered.length < 2 ^ 32) :
    heap.manager.getConnectionCount.toNat = heap.manager.registered.length := by
  rw [ConnectionManager.registered, List.length_map] at few ⊢
  exact UInt32.toNat_ofNat_of_lt' few

theorem live_length_iff : heap.live.length = heap.manager.registered.length ↔
    ∀ ref ∈ heap.manager.registered, (heap.objects ref).state ≠ .disconnected := by
  unfold live
  rw [List.length_filter_eq_length_iff]
  simp

/-- As long as it does not wrap, the count is honest if every registered connection is live. -/
theorem countHonest_iff_live (few : heap.manager.registered.length < 2 ^ 32) :
    heap.CountHonest ↔
      ∀ ref ∈ heap.manager.registered, (heap.objects ref).state ≠ .disconnected := by
  have count := count_toNat few
  rw [← live_length_iff]
  refine ⟨?_, ?_⟩
  · rintro ⟨same, _⟩
    rw [← same, count]
  · intro same
    refine ⟨count.trans same.symm, ?_⟩
    rw [waitLeaves, decide_eq_true_iff, ← UInt32.toNat_inj, count, ← same,
      ← List.length_eq_zero_iff]
    rfl

theorem closeEach_spec {closing : ℕ → Closing} {refs : List ℕ} {objects after : ℕ → Connection}
    (closed : closeEach closing refs objects = some after) (ref : ℕ) :
    (ref ∈ refs → (after ref).state = .disconnected) ∧ (ref ∉ refs → after ref = objects ref) := by
  induction refs generalizing objects with
  | nil =>
      cases closed
      simp
  | cons first refs ih =>
      rcases Option.bind_eq_some_iff.mp closed with ⟨connection, ended, rest⟩
      rcases ih rest with ⟨inside, outside⟩
      have disconnected : connection.state = .disconnected := by
        by_cases already : ((objects first).state = .disconnected)
        · exact (Connection.step_of_disconnected already ended).1
        · cases Connection.step_outcome already ended with
          | disconnects ended _ _ => exact ended
      by_cases same : ref = first
      · subst same
        refine ⟨?_, fun notIn => absurd List.mem_cons_self notIn⟩
        intro _
        by_cases again : ref ∈ refs
        · exact inside again
        · rw [outside again, Function.update_self]
          exact disconnected
      · refine ⟨?_, ?_⟩
        · intro isIn
          exact inside (List.mem_of_ne_of_mem same isIn)
        · intro notIn
          rw [outside (fun isIn => notIn (List.mem_cons_of_mem _ isIn)),
            Function.update_of_ne same]

/-! ## One operation -/

theorem countHonest_iff_few
    (live : ∀ ref ∈ heap.manager.registered, (heap.objects ref).state ≠ .disconnected) :
    heap.CountHonest ↔ heap.manager.registered.length < 2 ^ 32 := by
  refine ⟨?_, fun few => (countHonest_iff_live few).mpr live⟩
  rintro ⟨same, _⟩
  rw [← live_length_iff.mpr live, ← same]
  exact heap.manager.getConnectionCount.toNat_lt

theorem mem_registered_createConnection {manager : ConnectionManager} {ref : ℕ}
    (isIn : ref ∈ manager.createConnection.registered) :
    ref = manager.created ∨ ref ∈ manager.registered := by
  rcases List.mem_map.mp isIn with ⟨entry, isEntry, rfl⟩
  rw [ConnectionManager.createConnection, AList.entries_insert] at isEntry
  rcases List.mem_cons.mp isEntry with rfl | older
  · exact Or.inl rfl
  · exact Or.inr (List.mem_map_of_mem ((List.kerase_sublist _ _).subset older))

theorem registered_length (manager : ConnectionManager) :
    manager.registered.length = manager.connections.keys.length := by
  simp [ConnectionManager.registered, AList.keys, List.keys]

theorem createConnection_length (manager : ConnectionManager) :
    manager.createConnection.registered.length =
      if manager.nextConnectionId ∈ manager.connections then manager.registered.length
      else manager.registered.length + 1 := by
  rw [registered_length, registered_length, ConnectionManager.createConnection,
    AList.keys_insert, List.length_cons]
  split
  next known =>
    have found : manager.nextConnectionId ∈ manager.connections.keys := AList.mem_keys.mp known
    have nonempty := List.length_pos_of_mem found
    rw [List.length_erase_of_mem found]
    omega
  next fresh => rw [List.erase_of_not_mem fun found => fresh (AList.mem_keys.mpr found)]

theorem removeConnection_sublist (id : UInt64) (manager : ConnectionManager) :
    (manager.removeConnection id).registered.Sublist manager.registered :=
  (List.kerase_sublist _ _).map _

/-- The connections that a check closes. -/
theorem checkCallbackTimeouts_spec {order : IterationOrder} {timeoutSeconds : UInt32}
    {clock : ℕ → UInt64} {closing : ℕ → Closing}
    (checked : heap.checkCallbackTimeouts order timeoutSeconds clock closing = some next) :
    next.manager = heap.manager ∧ ∀ ref ∈ heap.manager.registered,
      if heap.isCallbackTimeout timeoutSeconds clock ref then
        (next.objects ref).state = .disconnected
      else next.objects ref = heap.objects ref := by
  rcases Option.map_eq_some_iff.mp checked with ⟨objects, closed, rfl⟩
  refine ⟨rfl, ?_⟩
  intro ref isRegistered
  rcases closeEach_spec closed ref with ⟨inside, outside⟩
  rw [List.mem_filter, (order.perm _).mem_iff] at inside outside
  split
  next timeout => exact inside ⟨isRegistered, timeout⟩
  next inTime => exact outside fun found => inTime found.2

theorem check_countHonest_iff {order : IterationOrder} {timeoutSeconds : UInt32}
    {clock : ℕ → UInt64} {closing : ℕ → Closing} (allLive : heap.AllLive)
    (checked : heap.checkCallbackTimeouts order timeoutSeconds clock closing = some next) :
    next.CountHonest ↔
      ∀ ref ∈ heap.manager.registered, ¬heap.isCallbackTimeout timeoutSeconds clock ref := by
  rcases checkCallbackTimeouts_spec checked with ⟨same, closed⟩
  rw [countHonest_iff_live (by rw [same]; exact allLive.few), same]
  refine forall₂_congr fun ref isRegistered => ?_
  have outcome := closed ref isRegistered
  by_cases timeout : heap.isCallbackTimeout timeoutSeconds clock ref = true
  · rw [if_pos timeout] at outcome
    simp [timeout, outcome]
  · rw [if_neg timeout] at outcome
    simp [timeout, outcome, allLive.live ref isRegistered]

theorem check_allLive {order : IterationOrder} {timeoutSeconds : UInt32}
    {clock : ℕ → UInt64} {closing : ℕ → Closing} (allLive : heap.AllLive)
    (none : ∀ ref ∈ heap.manager.registered, ¬heap.isCallbackTimeout timeoutSeconds clock ref)
    (checked : heap.checkCallbackTimeouts order timeoutSeconds clock closing = some next) :
    next.AllLive := by
  have honest := (check_countHonest_iff allLive checked).mpr none
  have same := (checkCallbackTimeouts_spec checked).1
  have few : next.manager.registered.length < 2 ^ 32 := by
    rw [same]
    exact allLive.few
  refine ⟨(countHonest_iff_live few).mp honest, ?_, few⟩
  rw [same]
  exact allLive.old

theorem createConnection_live {fd : ℤ} {now : UInt64} (allLive : heap.AllLive) :
    (∀ ref ∈ (heap.createConnection fd now).manager.registered,
      ((heap.createConnection fd now).objects ref).state ≠ .disconnected) ∧
      ∀ ref ∈ (heap.createConnection fd now).manager.registered,
        ref < (heap.createConnection fd now).manager.created := by
  refine ⟨?_, ?_⟩
  · intro ref isIn
    rcases mem_registered_createConnection isIn with rfl | older
    · simp [createConnection, Connection.construct]
    · have different := Nat.ne_of_lt (allLive.old ref older)
      simpa [createConnection, Function.update_of_ne different] using allLive.live ref older
  · intro ref isIn
    rcases mem_registered_createConnection isIn with rfl | older
    · exact Nat.lt_succ_self _
    · exact Nat.lt_succ_of_lt (allLive.old ref older)

theorem connection_live {ref : ℕ} {operation : ConnectionOperation} (allLive : heap.AllLive)
    (stepped : heap.step (.connection ref operation) = some next) :
    next.manager = heap.manager ∧
      ∀ ref ∈ heap.manager.registered, (next.objects ref).state ≠ .disconnected := by
  simp only [step] at stepped
  split at stepped
  next keeps =>
    rcases Option.map_eq_some_iff.mp stepped with ⟨connection, performed, rfl⟩
    refine ⟨rfl, ?_⟩
    intro other isRegistered
    by_cases same : other = ref
    · subst same
      have outcome := Connection.step_outcome (allLive.live other isRegistered) performed
      rw [keeps] at outcome
      cases outcome with
      | stays live kept => simpa using live
    · simpa [Function.update_of_ne same] using allLive.live other isRegistered
  next => cases stepped

theorem closeAll_registered {order : IterationOrder} {closing : ℕ → Closing}
    (closed : heap.closeAll order closing = some next) : next.manager.registered = [] := by
  rcases Option.map_eq_some_iff.mp closed with ⟨objects, _, rfl⟩
  rfl

theorem countHonest_step_iff (allLive : heap.AllLive) (stepped : heap.step operation = some next) :
    next.CountHonest ↔ heap.KeepsCount operation := by
  cases operation with
  | createConnection fd now =>
      cases stepped
      rw [countHonest_iff_few (createConnection_live allLive).1, createConnection,
        createConnection_length, KeepsCount]
      split
      next known => exact ⟨fun _ => Or.inl known, fun _ => allLive.few⟩
      next fresh => simp [fresh]
  | removeConnection id =>
      cases stepped
      have sublist := removeConnection_sublist id heap.manager
      refine ⟨fun _ => trivial, fun _ => ?_⟩
      apply (countHonest_iff_live (Nat.lt_of_le_of_lt sublist.length_le allLive.few)).mpr
      intro ref isIn
      exact allLive.live ref (sublist.subset isIn)
  | checkCallbackTimeouts order timeoutSeconds clock closing =>
      exact check_countHonest_iff allLive stepped
  | closeAll order closing =>
      have empty := closeAll_registered stepped
      refine ⟨fun _ => trivial, fun _ => ?_⟩
      apply (countHonest_iff_few _).mpr
      · rw [empty]
        decide
      · rw [empty]
        simp
  | waitPendingTurn order clock closing => exact check_countHonest_iff allLive stepped
  | connection ref operation =>
      rcases connection_live allLive stepped with ⟨same, live⟩
      refine ⟨fun _ => trivial, fun _ => ?_⟩
      apply (countHonest_iff_live _).mpr
      · rw [same]
        exact live
      · rw [same]
        exact allLive.few

theorem allLive_step (allLive : heap.AllLive) (keeps : heap.KeepsCount operation)
    (stepped : heap.step operation = some next) : next.AllLive := by
  have honest := (countHonest_step_iff allLive stepped).mpr keeps
  cases operation with
  | createConnection fd now =>
      cases stepped
      rcases createConnection_live allLive with ⟨live, old⟩
      exact ⟨live, old, (countHonest_iff_few live).mp honest⟩
  | removeConnection id =>
      cases stepped
      have sublist := removeConnection_sublist id heap.manager
      refine ⟨?_, ?_, Nat.lt_of_le_of_lt sublist.length_le allLive.few⟩
      · intro ref isIn
        exact allLive.live ref (sublist.subset isIn)
      · intro ref isIn
        exact allLive.old ref (sublist.subset isIn)
  | checkCallbackTimeouts order timeoutSeconds clock closing =>
      exact check_allLive allLive keeps stepped
  | closeAll order closing =>
      have empty := closeAll_registered stepped
      refine ⟨?_, ?_, ?_⟩
      all_goals rw [empty]; simp
  | waitPendingTurn order clock closing => exact check_allLive allLive keeps stepped
  | connection ref operation =>
      rcases connection_live allLive stepped with ⟨same, live⟩
      refine ⟨?_, ?_, ?_⟩
      · rw [same]
        exact live
      · rw [same]
        exact allLive.old
      · rw [same]
        exact allLive.few

/-! ## Runs -/

/-- For every run: the count is honest after each operation, and the loop leaves with the last
live connection, just if every operation keeps the count. -/
theorem countHonest_iff {operations : List ManagerOperation} {final : ConnectionHeap}
    (ran : Interleaving.run step construct operations = some final) :
    Interleaving.Throughout step CountHonest construct operations ↔
      Interleaving.Along step KeepsCount construct operations := by
  refine Interleaving.throughout_iff_along_of_run countHonest_step_iff allLive_step ?_ ran
  refine ⟨?_, ?_, ?_⟩
  all_goals simp [construct, ConnectionManager.construct, ConnectionManager.registered]

def plainClosing : ℕ → Closing := fun _ => ⟨0, 0, .returns, .returns⟩

def plainOrder : IterationOrder := ⟨fun refs => refs, fun _ => .refl _⟩

/-- A callback that has run for a second when the server waits. -/
def waitsForCallback : List ManagerOperation :=
  [.createConnection 5 0, .createConnection 6 0, .connection 0 (.setCallbackStartTime 0),
    .waitPendingTurn plainOrder (fun _ => 1000) plainClosing, .removeConnection 2,
    .closeAll plainOrder plainClosing]

theorem countHonest_iff_waitsForCallback :
    ∃ final, Interleaving.run step construct waitsForCallback = some final ∧
      final.waitLeaves = true ∧
        (Interleaving.Throughout step CountHonest construct waitsForCallback ↔
          Interleaving.Along step KeepsCount construct waitsForCallback) := by
  have seen : (Interleaving.run step construct waitsForCallback).map waitLeaves = some true := by
    decide +kernel
  rcases Option.map_eq_some_iff.mp seen with ⟨final, ran, leaves⟩
  exact ⟨final, ran, leaves, countHonest_iff ran⟩

/-- A callback that has run for more than thirty seconds: the turn of the loop closes the only
connection, and the loop does not leave. -/
def closesInWait : List ManagerOperation :=
  [.createConnection 5 0, .connection 0 (.setCallbackStartTime 0),
    .waitPendingTurn plainOrder (fun _ => 30001) plainClosing]

theorem countHonest_fails :
    ¬∀ (operations : List ManagerOperation) (final : ConnectionHeap),
      Interleaving.run step construct operations = some final →
        Interleaving.Throughout step CountHonest construct operations := by
  intro alwaysHonest
  have seen : (Interleaving.run step construct closesInWait).map (fun heap =>
      (heap.manager.getConnectionCount, heap.live, heap.waitLeaves)) = some (1, [], false) := by
    decide +kernel
  rcases Option.map_eq_some_iff.mp seen with ⟨final, ran, fields⟩
  simp only [Prod.mk.injEq] at fields
  rcases fields with ⟨_, none, stays⟩
  have honest : final.CountHonest :=
    Interleaving.invariant_along (fun _ honest stepped => honest _ stepped)
      (by decide) (alwaysHonest closesInWait final ran) ran
  rw [honest.2.mpr none] at stays
  cases stays

end ConnectionHeap

end HttpsServerSim
