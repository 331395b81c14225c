import HttpsServerSim.Connection.ConnectionClock
import HttpsServerSim.Connection.ConnectionCount
import Mathlib.Data.List.Count
import Mathlib.Tactic.ByContra

/-!
# Timeout checks of the manager

`check_timeouts` and `check_callback_timeouts` collect the expired connections of the map under
the mutex, and handle them after that: the first gives them to a function of the user, the second
closes them. They find the manager as any moves before them left it, on a clock that does not go
back.
-/

namespace HttpsServerSim

/-- Calls of the manager and of its connections. A call of `close_all` takes the connections out
of the map and closes them one after the other; a check closes them, or leaves them to user
code. -/
inductive HeapMove where
  | createConnection (fd : ℤ) (now : UInt64)
  | removeConnection (id : UInt64)
  | clear
  | connection (ref : ℕ) (operation : ConnectionOperation)

/-- The function given to `check_timeouts`. It may do anything to the manager, to its connections
and to a state of its own, and need not return. -/
abbrev OnTimeout (Own : Type) := ℕ → Own × ConnectionHeap → Option (Own × ConnectionHeap)

namespace ConnectionHeap

def move (heap : ConnectionHeap) : HeapMove → Option ConnectionHeap
  | .createConnection fd now => some (heap.createConnection fd now)
  | .removeConnection id => some (heap.removeConnection id)
  | .clear => some { heap with manager := heap.manager.clear }
  | .connection ref operation =>
      ((heap.objects ref).step operation).map fun connection =>
        { heap with objects := Function.update heap.objects ref connection }

def moveReadings (heap : ConnectionHeap) : HeapMove → List UInt64
  | .createConnection _ now => [now]
  | .removeConnection _ | .clear => []
  | .connection ref operation => (heap.objects ref).readings operation

/-! ## The checks -/

/-- The calls of the function, in turn, and what they leave if each of them returns. -/
def callEach {Own : Type} (onTimeout : OnTimeout Own) :
    List ℕ → Own × ConnectionHeap → List ℕ × Option (Own × ConnectionHeap)
  | [], world => ([], some world)
  | ref :: refs, world =>
      match onTimeout ref world with
      | none => ([ref], none)
      | some after =>
          let later := callEach onTimeout refs after
          (ref :: later.1, later.2)

def checkTimeouts {Own : Type} (order : IterationOrder)
    (idleTimeoutMs callbackTimeoutMs : UInt32) (idleClock callbackClock : ℕ → UInt64)
    (onTimeout : OnTimeout Own) (own : Own) (heap : ConnectionHeap) :
    List ℕ × Option (Own × ConnectionHeap) :=
  let timeoutConns := (order.arrange heap.manager.registered).filter
    (timedOut idleTimeoutMs callbackTimeoutMs heap.objects idleClock callbackClock)
  callEach onTimeout timeoutConns (own, heap)

/-- The connections that `check_callback_timeouts` closes, in turn. -/
def callbackTimeouts (order : IterationOrder) (timeoutSeconds : UInt32) (clock : ℕ → UInt64)
    (heap : ConnectionHeap) : List ℕ :=
  (order.arrange heap.manager.registered).filter (heap.isCallbackTimeout timeoutSeconds clock)

/-- The clock while `check_timeouts` collects. -/
def idleAndCallbackTimes (order : IterationOrder) (idleClock callbackClock : ℕ → UInt64)
    (heap : ConnectionHeap) : List UInt64 :=
  (order.arrange heap.manager.registered).flatMap fun ref => [idleClock ref, callbackClock ref]

/-- The clock while `check_callback_timeouts` collects. -/
def callbackTimes (order : IterationOrder) (clock : ℕ → UInt64) (heap : ConnectionHeap) :
    List UInt64 :=
  (order.arrange heap.manager.registered).map clock

/-- The clock while moves are made. -/
abbrev timesOf (moves : List HeapMove) : List UInt64 :=
  Interleaving.observed move moveReadings construct moves

/-! ## Moves -/

/-- The map holds every connection once at most. -/
structure MapsOnce (heap : ConnectionHeap) : Prop where
  once : heap.manager.registered.Nodup
  old : ∀ ref ∈ heap.manager.registered, ref < heap.manager.created

/-- The times stored in the connections. -/
def Stores (Property : UInt64 → Prop) (heap : ConnectionHeap) : Prop :=
  ∀ ref < heap.manager.created, (heap.objects ref).Stored Property

variable {heap next : ConnectionHeap} {heapMove : HeapMove} {moves : List HeapMove}
  {Property : UInt64 → Prop} {order : IterationOrder} {timeoutSeconds : UInt32}
  {clock idleClock callbackClock : ℕ → UInt64}

theorem registered_createConnection_nodup (maps : heap.MapsOnce) :
    heap.manager.createConnection.registered.Nodup := by
  unfold ConnectionManager.createConnection ConnectionManager.registered
  rw [AList.entries_insert, List.map_cons, List.nodup_cons]
  have others : ((heap.manager.connections.entries.kerase
      heap.manager.nextConnectionId).map Sigma.snd).Sublist heap.manager.registered :=
    (List.kerase_sublist _ _).map _
  refine ⟨?_, maps.once.sublist others⟩
  intro found
  exact Nat.lt_irrefl _ (maps.old _ (others.subset found))

theorem mapsOnce_move (maps : heap.MapsOnce) (moved : heap.move heapMove = some next) :
    next.MapsOnce := by
  cases heapMove with
  | createConnection fd now =>
      cases moved
      refine ⟨registered_createConnection_nodup maps, ?_⟩
      intro ref isIn
      rcases mem_registered_createConnection isIn with rfl | older
      · exact Nat.lt_succ_self _
      · exact Nat.lt_succ_of_lt (maps.old ref older)
  | removeConnection id =>
      cases moved
      have sublist := removeConnection_sublist id heap.manager
      refine ⟨maps.once.sublist sublist, ?_⟩
      intro ref isIn
      exact maps.old ref (sublist.subset isIn)
  | clear =>
      cases moved
      exact ⟨List.nodup_nil, nofun⟩
  | connection ref operation =>
      rcases Option.map_eq_some_iff.mp moved with ⟨connection, _, rfl⟩
      exact ⟨maps.once, maps.old⟩

theorem stores_move (stores : heap.Stores Property) (moved : heap.move heapMove = some next)
    (read : ∀ time ∈ heap.moveReadings heapMove, Property time) : next.Stores Property := by
  cases heapMove with
  | createConnection fd now =>
      cases moved
      intro ref isOld
      rcases Nat.lt_succ_iff_lt_or_eq.mp isOld with older | rfl
      · have different := Nat.ne_of_lt older
        simpa [createConnection, Function.update_of_ne different] using stores ref older
      · simp only [createConnection, Function.update_self]
        exact ⟨read now (by simp [moveReadings]), fun starts => absurd starts Bool.false_ne_true⟩
  | removeConnection id | clear =>
      cases moved
      exact stores
  | connection ref operation =>
      rcases Option.map_eq_some_iff.mp moved with ⟨connection, performed, rfl⟩
      intro other isOld
      by_cases same : other = ref
      · subst same
        simpa using Connection.step_stores (stores other isOld) performed read
      · simpa [Function.update_of_ne same] using stores other isOld

theorem mapsOnce_of_run (ran : Interleaving.run move construct moves = some heap) :
    heap.MapsOnce := by
  refine Interleaving.invariant_run mapsOnce_move ?_ ran
  constructor <;> simp [construct, ConnectionManager.construct, ConnectionManager.registered]

/-- On a clock that does not go back, no connection stores a time that is still to come. -/
theorem stores_of_monotone (ran : Interleaving.run move construct moves = some heap)
    {later : List UInt64} (monotone : (timesOf moves ++ later).Pairwise (· ≤ ·)) :
    heap.Stores fun time => ∀ now ∈ later, time ≤ now := by
  rcases List.pairwise_append.mp monotone with ⟨_, _, across⟩
  let Earlier : UInt64 → Prop := fun time => ∀ now ∈ later, time ≤ now
  have kept : ∀ {heap next : ConnectionHeap} {heapMove : HeapMove}, heap.Stores Earlier →
      heap.move heapMove = some next → (∀ time ∈ heap.moveReadings heapMove, Earlier time) →
        next.Stores Earlier := stores_move
  refine Interleaving.invariant_observed kept ?_ ran across
  intro ref isOld
  exact absurd isOld (Nat.not_lt_zero ref)

/-! ## Connections that time out -/

/-- Idle, or in a callback, for longer than the timeout, which is none if it is zero. -/
def Expired (idleTimeoutMs callbackTimeoutMs : UInt32) (idleNow callbackNow : UInt64)
    (connection : Connection) : Prop :=
  (connection.state ≠ .disconnected ∧ 0 < idleTimeoutMs.toNat ∧
      connection.lastActivityTime.toNat + idleTimeoutMs.toNat < idleNow.toNat) ∨
    (connection.inCallback = true ∧ 0 < callbackTimeoutMs.toNat ∧
      connection.callbackStartTime.toNat + callbackTimeoutMs.toNat < callbackNow.toNat)

theorem timedOut_iff {idleTimeoutMs callbackTimeoutMs : UInt32} {ref : ℕ}
    (idleForward : (heap.objects ref).lastActivityTime ≤ idleClock ref)
    (callbackForward : (heap.objects ref).inCallback = true →
      (heap.objects ref).callbackStartTime ≤ callbackClock ref) :
    timedOut idleTimeoutMs callbackTimeoutMs heap.objects idleClock callbackClock ref = true ↔
      Expired idleTimeoutMs callbackTimeoutMs (idleClock ref) (callbackClock ref)
        (heap.objects ref) := by
  unfold timedOut Expired
  rw [Bool.or_eq_true, Connection.isTimeout_iff _ idleForward,
    Connection.isCallbackTimeout_iff _ callbackForward]

theorem callEach_spec {Own : Type} (onTimeout : OnTimeout Own) (refs : List ℕ)
    (world : Own × ConnectionHeap) :
    (callEach onTimeout refs world).1 <+: refs ∧
      ((callEach onTimeout refs world).2.isSome → (callEach onTimeout refs world).1 = refs) := by
  induction refs generalizing world with
  | nil => simp [callEach]
  | cons ref refs ih =>
      unfold callEach
      cases returned : onTimeout ref world with
      | none => simp [List.cons_prefix_cons]
      | some after =>
          rcases ih after with ⟨starts, complete⟩
          refine ⟨List.cons_prefix_cons.mpr ⟨rfl, starts⟩, ?_⟩
          intro returns
          exact congrArg (ref :: ·) (complete returns)

/-- A connection that has expired when it is collected is given to the function once, and no
other connection is. If the function does not return the calls end with that one. -/
structure ReportsExpired (expired : ℕ → Prop) (registered : List ℕ) {World : Type}
    (outcome : List ℕ × Option World) : Prop where
  once : outcome.1.Nodup
  only : ∀ ref ∈ outcome.1, ref ∈ registered ∧ expired ref
  all : outcome.2.isSome → ∀ ref ∈ registered, expired ref → outcome.1.count ref = 1

/-- For every function, whatever it does to the connections that wait for their call. -/
theorem checkTimeouts_reportsExpired {Own : Type} {idleTimeoutMs callbackTimeoutMs : UInt32}
    (ran : Interleaving.run move construct moves = some heap)
    (monotone : (timesOf moves ++
      heap.idleAndCallbackTimes order idleClock callbackClock).Pairwise (· ≤ ·))
    (onTimeout : OnTimeout Own) (own : Own) :
    ReportsExpired
      (fun ref => Expired idleTimeoutMs callbackTimeoutMs (idleClock ref) (callbackClock ref)
        (heap.objects ref))
      heap.manager.registered
      (heap.checkTimeouts order idleTimeoutMs callbackTimeoutMs idleClock callbackClock onTimeout
        own) := by
  have maps := mapsOnce_of_run ran
  have stores := stores_of_monotone ran monotone
  have collects : ∀ ref, ref ∈ (order.arrange heap.manager.registered).filter
      (timedOut idleTimeoutMs callbackTimeoutMs heap.objects idleClock callbackClock) ↔
        ref ∈ heap.manager.registered ∧ Expired idleTimeoutMs callbackTimeoutMs (idleClock ref)
          (callbackClock ref) (heap.objects ref) := by
    intro ref
    rw [List.mem_filter, (order.perm _).mem_iff]
    apply and_congr_right
    intro isRegistered
    have collected := (order.perm _).mem_iff.mpr isRegistered
    rcases stores ref (maps.old ref isRegistered) with ⟨lastActivity, callbackStart⟩
    apply timedOut_iff
    · exact lastActivity _ (List.mem_flatMap.mpr ⟨ref, collected, by simp⟩)
    · intro starts
      exact callbackStart starts _ (List.mem_flatMap.mpr ⟨ref, collected, by simp⟩)
  have snapshot : ((order.arrange heap.manager.registered).filter (timedOut idleTimeoutMs
      callbackTimeoutMs heap.objects idleClock callbackClock)).Nodup :=
    ((order.perm _).nodup_iff.mpr maps.once).filter _
  rcases callEach_spec onTimeout ((order.arrange heap.manager.registered).filter (timedOut
    idleTimeoutMs callbackTimeoutMs heap.objects idleClock callbackClock)) (own, heap) with
    ⟨starts, complete⟩
  constructor
  case once => exact snapshot.sublist starts.sublist
  case only =>
    intro ref called
    exact (collects ref).mp (starts.sublist.subset called)
  case all =>
    intro returns ref isRegistered expired
    unfold checkTimeouts at returns ⊢
    rw [complete returns]
    exact List.count_eq_one_of_mem snapshot ((collects ref).mpr ⟨isRegistered, expired⟩)

def plainTwo : List HeapMove :=
  [.createConnection 5 0, .createConnection 6 10, .connection 0 (.setCallbackStartTime 20)]

/-- Both connections have expired, and the function takes both out of the map in its first call
and makes another. -/
def removesBoth : OnTimeout ℕ := fun _ world =>
  some (world.1 + 1,
    ((world.2.removeConnection 1).removeConnection 2).createConnection 7 60)

theorem checkTimeouts_reportsExpired_removesBoth :
    ∃ heap, Interleaving.run move construct plainTwo = some heap ∧
      (heap.checkTimeouts plainOrder 35 25 (fun _ => 50) (fun _ => 50) removesBoth 0).1 = [1, 0] ∧
        ReportsExpired
          (fun ref => Expired 35 25 50 50 (heap.objects ref)) heap.manager.registered
          (heap.checkTimeouts plainOrder 35 25 (fun _ => 50) (fun _ => 50) removesBoth 0) := by
  have seen : (Interleaving.run move construct plainTwo).map (fun heap =>
      ((heap.checkTimeouts plainOrder 35 25 (fun _ => 50) (fun _ => 50) removesBoth 0).1,
        decide ((timesOf plainTwo ++ heap.idleAndCallbackTimes plainOrder (fun _ => 50)
          (fun _ => 50)).Pairwise (· ≤ ·)))) = some ([1, 0], true) := by
    decide +kernel
  rcases Option.map_eq_some_iff.mp seen with ⟨heap, ran, fields⟩
  rcases Prod.mk.inj fields with ⟨calls, monotone⟩
  exact ⟨heap, ran, calls, checkTimeouts_reportsExpired ran (of_decide_eq_true monotone) _ _⟩

/-! ## Callbacks that time out -/

/-- In a callback for longer than the timeout. -/
def CallbackExpired (timeoutSeconds : UInt32) (now : UInt64) (connection : Connection) : Prop :=
  connection.inCallback = true ∧
    connection.callbackStartTime.toNat + 1000 * timeoutSeconds.toNat < now.toNat

/-- The expired connections are closed once each, and nothing else happens. -/
structure ClosesExpired (order : IterationOrder) (timeoutSeconds : UInt32) (clock : ℕ → UInt64)
    (closing : ℕ → Closing) (heap next : ConnectionHeap) : Prop where
  manager : next.manager = heap.manager
  expired : ∀ ref ∈ heap.manager.registered,
    CallbackExpired timeoutSeconds (clock ref) (heap.objects ref) →
      (heap.callbackTimeouts order timeoutSeconds clock).count ref = 1 ∧
        (heap.objects ref).step (closing ref).operation = some (next.objects ref) ∧
          (next.objects ref).state = .disconnected
  others : ∀ ref, ¬(ref ∈ heap.manager.registered ∧
      CallbackExpired timeoutSeconds (clock ref) (heap.objects ref)) →
    ref ∉ heap.callbackTimeouts order timeoutSeconds clock ∧ next.objects ref = heap.objects ref

/-- An age on one side both of the milliseconds of the timeout and of what is left of them in 32
bits, where zero is above every age. -/
def AgeUnambiguous (timeoutSeconds : UInt32) (age : ℕ) : Prop :=
  if 1000 * timeoutSeconds.toNat % 2 ^ 32 = 0 then age ≤ 1000 * timeoutSeconds.toNat
  else age ≤ 1000 * timeoutSeconds.toNat % 2 ^ 32 ∨ 1000 * timeoutSeconds.toNat < age
deriving Decidable

/-- The milliseconds fit 32 bits, or no callback runs for a time that shows the difference. -/
def TimeoutFits (timeoutSeconds : UInt32) (clock : ℕ → UInt64) (heap : ConnectionHeap) : Prop :=
  1000 * timeoutSeconds.toNat < 2 ^ 32 ∨ ∀ ref ∈ heap.manager.registered,
    (heap.objects ref).inCallback = true →
      AgeUnambiguous timeoutSeconds
        ((clock ref).toNat - (heap.objects ref).callbackStartTime.toNat)

theorem timeoutMs_toNat (timeoutSeconds : UInt32) :
    (timeoutMs timeoutSeconds).toNat = 1000 * timeoutSeconds.toNat % 2 ^ 32 := by
  rw [timeoutMs, UInt32.toNat_mul, Nat.mul_comm]
  rfl

theorem ageUnambiguous_of_fits (positive : 0 < timeoutSeconds.toNat)
    (fits : 1000 * timeoutSeconds.toNat < 2 ^ 32) (age : ℕ) :
    AgeUnambiguous timeoutSeconds age := by
  unfold AgeUnambiguous
  rw [Nat.mod_eq_of_lt fits]
  split <;> omega

/-- What is left of the milliseconds gives the right answer for just these ages. -/
theorem age_agrees_iff (timeoutSeconds : UInt32) (age : ℕ) :
    (0 < 1000 * timeoutSeconds.toNat % 2 ^ 32 ∧ 1000 * timeoutSeconds.toNat % 2 ^ 32 < age ↔
      1000 * timeoutSeconds.toNat < age) ↔ AgeUnambiguous timeoutSeconds age := by
  unfold AgeUnambiguous
  have less := Nat.mod_le (1000 * timeoutSeconds.toNat) (2 ^ 32)
  split
  next never =>
    rw [never]
    omega
  next wraps =>
    have positive := Nat.pos_of_ne_zero wraps
    simp only [positive, true_and]
    omega

theorem isCallbackTimeout_agrees_iff {ref : ℕ}
    (forward : (heap.objects ref).inCallback = true →
      (heap.objects ref).callbackStartTime ≤ clock ref) :
    (heap.isCallbackTimeout timeoutSeconds clock ref = true ↔
      CallbackExpired timeoutSeconds (clock ref) (heap.objects ref)) ↔
        ((heap.objects ref).inCallback = true → AgeUnambiguous timeoutSeconds
          ((clock ref).toNat - (heap.objects ref).callbackStartTime.toNat)) := by
  unfold isCallbackTimeout CallbackExpired
  rw [Connection.isCallbackTimeout_iff _ forward, timeoutMs_toNat]
  by_cases starts : (heap.objects ref).inCallback = true
  · have ordered := UInt64.le_iff_toNat_le.mp (forward starts)
    simp only [starts, true_and, true_imp_iff, ← age_agrees_iff, Nat.lt_sub_iff_add_lt']
  · simp [starts]

theorem closeEach_once {closing : ℕ → Closing} {refs : List ℕ} {objects after : ℕ → Connection}
    (once : refs.Nodup) (closed : closeEach closing refs objects = some after) {ref : ℕ}
    (isIn : ref ∈ refs) : (objects ref).step (closing ref).operation = some (after ref) := by
  induction refs generalizing objects with
  | nil => cases isIn
  | cons first refs ih =>
      rcases List.nodup_cons.mp once with ⟨notLater, laterOnce⟩
      rcases Option.bind_eq_some_iff.mp closed with ⟨connection, ended, rest⟩
      rcases List.mem_cons.mp isIn with rfl | isLater
      · rw [(closeEach_spec rest ref).2 notLater, Function.update_self]
        exact ended
      · have different : ref ≠ first := by
          rintro rfl
          exact notLater isLater
        have later := ih laterOnce rest isLater
        rwa [Function.update_of_ne different] at later

/-- A check closes what it collects. -/
theorem closesExpired_iff_agrees {closing : ℕ → Closing} (maps : heap.MapsOnce)
    (checked : heap.checkCallbackTimeouts order timeoutSeconds clock closing = some next) :
    ClosesExpired order timeoutSeconds clock closing heap next ↔
      ∀ ref ∈ heap.manager.registered, (heap.isCallbackTimeout timeoutSeconds clock ref = true ↔
        CallbackExpired timeoutSeconds (clock ref) (heap.objects ref)) := by
  rcases Option.map_eq_some_iff.mp checked with ⟨objects, closed, rfl⟩
  have collects : ∀ ref, ref ∈ heap.callbackTimeouts order timeoutSeconds clock ↔
      ref ∈ heap.manager.registered ∧
        heap.isCallbackTimeout timeoutSeconds clock ref = true := by
    intro ref
    rw [callbackTimeouts, List.mem_filter, (order.perm _).mem_iff]
  have snapshot : (heap.callbackTimeouts order timeoutSeconds clock).Nodup :=
    ((order.perm _).nodup_iff.mpr maps.once).filter _
  refine ⟨?_, ?_⟩
  · intro closes ref isRegistered
    refine ⟨?_, ?_⟩
    · intro timeout
      by_contra inTime
      have spared := (closes.others ref fun both => inTime both.2).1
      exact spared ((collects ref).mpr ⟨isRegistered, timeout⟩)
    · intro expired
      have counted := (closes.expired ref isRegistered expired).1
      have collected : ref ∈ heap.callbackTimeouts order timeoutSeconds clock := by
        apply List.count_pos_iff.mp
        omega
      exact ((collects ref).mp collected).2
  · intro agrees
    constructor
    case manager => rfl
    case expired =>
      intro ref isRegistered expired
      have collected := (collects ref).mpr
        ⟨isRegistered, (agrees ref isRegistered).mpr expired⟩
      exact ⟨List.count_eq_one_of_mem snapshot collected,
        closeEach_once snapshot closed collected, (closeEach_spec closed ref).1 collected⟩
    case others =>
      intro ref spared
      have notCollected : ref ∉ heap.callbackTimeouts order timeoutSeconds clock := by
        intro collected
        rcases (collects ref).mp collected with ⟨isRegistered, timeout⟩
        exact spared ⟨isRegistered, (agrees ref isRegistered).mp timeout⟩
      exact ⟨notCollected, (closeEach_spec closed ref).2 notCollected⟩

/-- For every set of connections and every clock that does not go back. -/
theorem closesExpired_iff {closing : ℕ → Closing} (positive : 0 < timeoutSeconds)
    (ran : Interleaving.run move construct moves = some heap)
    (monotone : (timesOf moves ++ heap.callbackTimes order clock).Pairwise (· ≤ ·))
    (checked : heap.checkCallbackTimeouts order timeoutSeconds clock closing = some next) :
    ClosesExpired order timeoutSeconds clock closing heap next ↔
      heap.TimeoutFits timeoutSeconds clock := by
  have maps := mapsOnce_of_run ran
  have stores := stores_of_monotone ran monotone
  rw [closesExpired_iff_agrees maps checked]
  have pointwise : (∀ ref ∈ heap.manager.registered,
      (heap.isCallbackTimeout timeoutSeconds clock ref = true ↔
        CallbackExpired timeoutSeconds (clock ref) (heap.objects ref))) ↔
      ∀ ref ∈ heap.manager.registered, (heap.objects ref).inCallback = true →
        AgeUnambiguous timeoutSeconds
          ((clock ref).toNat - (heap.objects ref).callbackStartTime.toNat) := by
    refine forall₂_congr fun ref isRegistered => ?_
    apply isCallbackTimeout_agrees_iff
    intro starts
    apply (stores ref (maps.old ref isRegistered)).callbackStart starts
    exact List.mem_map_of_mem ((order.perm _).mem_iff.mpr isRegistered)
  rw [pointwise]
  refine ⟨Or.inr, ?_⟩
  rintro (fits | unambiguous)
  · intro ref _ _
    exact ageUnambiguous_of_fits (UInt32.lt_iff_toNat_lt.mp positive) fits _
  · exact unambiguous

/-- A callback that has run for two of thirty seconds. -/
def oneCallback : List HeapMove :=
  [.createConnection 5 0, .connection 0 (.setCallbackStartTime 1000)]

theorem closesExpired_iff_oneCallback :
    ∃ heap next, Interleaving.run move construct oneCallback = some heap ∧
      heap.checkCallbackTimeouts plainOrder 30 (fun _ => 3000) plainClosing = some next ∧
        (ClosesExpired plainOrder 30 (fun _ => 3000) plainClosing heap next ↔
          heap.TimeoutFits 30 fun _ => 3000) := by
  have seen : (Interleaving.run move construct oneCallback).map (fun heap =>
      ((heap.checkCallbackTimeouts plainOrder 30 (fun _ => 3000) plainClosing).isSome,
        decide ((timesOf oneCallback ++ heap.callbackTimes plainOrder fun _ => 3000).Pairwise
          (· ≤ ·)))) = some (true, true) := by
    decide +kernel
  rcases Option.map_eq_some_iff.mp seen with ⟨heap, ran, fields⟩
  rcases Prod.mk.inj fields with ⟨returns, monotone⟩
  rcases Option.isSome_iff_exists.mp returns with ⟨next, checked⟩
  exact ⟨heap, next, ran, checked,
    closesExpired_iff (by decide) ran (of_decide_eq_true monotone) checked⟩

/-- `4294968` seconds are `704` milliseconds in 32 bits: the callback is closed after two
seconds. -/
theorem closesExpired_fails :
    ¬∀ (order : IterationOrder) (timeoutSeconds : UInt32) (clock : ℕ → UInt64)
      (closing : ℕ → Closing) (moves : List HeapMove) (heap next : ConnectionHeap),
      0 < timeoutSeconds → Interleaving.run move construct moves = some heap →
        (timesOf moves ++ heap.callbackTimes order clock).Pairwise (· ≤ ·) →
          heap.checkCallbackTimeouts order timeoutSeconds clock closing = some next →
            ClosesExpired order timeoutSeconds clock closing heap next := by
  intro alwaysCloses
  have seen : (Interleaving.run move construct oneCallback).map (fun heap =>
      ((heap.checkCallbackTimeouts plainOrder 4294968 (fun _ => 3000) plainClosing).isSome,
        decide ((timesOf oneCallback ++ heap.callbackTimes plainOrder fun _ => 3000).Pairwise
          (· ≤ ·)),
        decide (0 ∈ heap.callbackTimeouts plainOrder 4294968 fun _ => 3000),
        (heap.objects 0).callbackStartTime)) = some (true, true, true, 1000) := by
    decide +kernel
  rcases Option.map_eq_some_iff.mp seen with ⟨heap, ran, fields⟩
  simp only [Prod.mk.injEq] at fields
  rcases fields with ⟨returns, monotone, collected, started⟩
  rcases Option.isSome_iff_exists.mp returns with ⟨next, checked⟩
  have closes := alwaysCloses plainOrder 4294968 (fun _ => 3000) plainClosing oneCallback heap next
    (by decide) ran (of_decide_eq_true monotone) checked
  have young : ¬CallbackExpired 4294968 3000 (heap.objects 0) := by
    intro expired
    have late := expired.2
    rw [started] at late
    exact absurd late (by decide)
  exact (closes.others 0 fun both => young both.2).1 (of_decide_eq_true collected)

end ConnectionHeap

end HttpsServerSim
