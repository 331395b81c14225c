import HttpsServerSim.Connection.ConnectionDisconnect
import Mathlib.Algebra.Group.Nat.Defs
import Mathlib.Data.List.Pairwise

/-!
# Timeouts and the clock

A connection stores two readings of its time source, and a check compares the current reading
with one of them. The time source is the wall clock unless another one is given, so the readings
need not grow. An answer is honest where the unbounded age of the stored reading is above the
timeout.
-/

namespace HttpsServerSim

/-- What may happen to a connection between and in the checks. -/
inductive ClockEvent where
  | operation (operation : ConnectionOperation)
  | isTimeout (now : UInt64) (timeoutMs : UInt32)
  | isCallbackTimeout (now : UInt64) (timeoutMs : UInt32)

/-! ## The readings of an operation -/

namespace Connection

/-- A transition that changes the state reads the clock, and then its callback may. -/
def transitionReadings (now : UInt64) (newState : ConnectionState)
    (inCallback : Connection → List UInt64) (connection : Connection) : List UInt64 :=
  if connection.Changes newState then
    now :: inCallback { connection with state := newState, lastActivityTime := now }
  else []

def closeReadings (disconnectingAt disconnectedAt : UInt64)
    (onDisconnecting : Connection → Option Connection)
    (inDisconnecting inDisconnected : Connection → List UInt64) (connection : Connection) :
    List UInt64 :=
  if connection.state = .disconnected then []
  else
    connection.transitionReadings disconnectingAt .disconnecting inDisconnecting ++
      (connection.transitionTo disconnectingAt .disconnecting onDisconnecting).elim []
        fun connection =>
          connection.closeFd.transitionReadings disconnectedAt .disconnected inDisconnected

end Connection

namespace CallbackCalls

/-- The readings that are made when the calls are performed. -/
def readings : CallbackCalls → Connection → List UInt64
  | .returns, _ => []
  | .close disconnectingAt disconnectedAt onDisconnecting onDisconnected next, connection =>
      connection.closeReadings disconnectingAt disconnectedAt onDisconnecting.perform
          onDisconnecting.readings onDisconnected.readings ++
        (connection.close disconnectingAt disconnectedAt onDisconnecting.perform
          onDisconnected.perform).elim [] next.readings
  | .transitionTo now newState onChange next, connection =>
      connection.transitionReadings now newState onChange.readings ++
        (connection.transitionTo now newState onChange.perform).elim [] next.readings

end CallbackCalls

namespace Connection

def readings (connection : Connection) : ConnectionOperation → List UInt64
  | .transitionTo now newState onChange =>
      (CallbackCalls.transitionTo now newState onChange .returns).readings connection
  | .close disconnectingAt disconnectedAt onDisconnecting onDisconnected =>
      (CallbackCalls.close disconnectingAt disconnectedAt onDisconnecting onDisconnected
        .returns).readings connection
  | .setCallbackStartTime now => [now]
  | .onCallbackComplete => []
  | .updateLastActivity now => [now]

/-- The times that a check may use. -/
structure Stored (Property : UInt64 → Prop) (connection : Connection) : Prop where
  lastActivity : Property connection.lastActivityTime
  callbackStart : connection.inCallback = true → Property connection.callbackStartTime

end Connection

/-- After calls of a callback the stored times are those before or readings. -/
def CallbackStores (Property : UInt64 → Prop) (callback : Connection → Option Connection)
    (inCallback : Connection → List UInt64) : Prop :=
  ∀ {connection after : Connection}, connection.Stored Property →
    callback connection = some after → (∀ now ∈ inCallback connection, Property now) →
      after.Stored Property

namespace Connection

variable {Property : UInt64 → Prop} {connection after : Connection}
  {now disconnectingAt disconnectedAt : UInt64} {newState : ConnectionState}
  {callback onDisconnecting onDisconnected : Connection → Option Connection}
  {inCallback inDisconnecting inDisconnected : Connection → List UInt64}

theorem Stored.closeFd (stored : connection.Stored Property) :
    connection.closeFd.Stored Property := by
  unfold Connection.closeFd
  split
  · exact ⟨stored.lastActivity, stored.callbackStart⟩
  · exact stored

theorem Stored.imp {Other : UInt64 → Prop} (stored : connection.Stored Property)
    (weaker : ∀ time, Property time → Other time) : connection.Stored Other where
  lastActivity := weaker _ stored.lastActivity
  callbackStart := fun starts => weaker _ (stored.callbackStart starts)

theorem transitionTo_stores (stores : CallbackStores Property callback inCallback)
    (stored : connection.Stored Property)
    (performed : connection.transitionTo now newState callback = some after)
    (read : ∀ reading ∈ connection.transitionReadings now newState inCallback, Property reading) :
    after.Stored Property := by
  by_cases changes : connection.Changes newState
  · rw [transitionReadings, if_pos changes, List.forall_mem_cons] at read
    rcases read with ⟨own, inner⟩
    unfold transitionTo at performed
    rw [if_neg changes.1, if_neg changes.2] at performed
    split at performed
    · cases performed
    · rcases Option.map_eq_some_iff.mp performed with ⟨middle, called, rfl⟩
      have told : Stored Property
          { connection with state := newState, lastActivityTime := now } :=
        ⟨own, stored.callbackStart⟩
      have middleStored := stores told called inner
      split
      · exact ⟨middleStored.lastActivity, nofun⟩
      · exact middleStored
  · rw [transitionTo_of_not_changes changes] at performed
    cases performed
    exact stored

theorem close_stores (storesFirst : CallbackStores Property onDisconnecting inDisconnecting)
    (storesSecond : CallbackStores Property onDisconnected inDisconnected)
    (stored : connection.Stored Property)
    (performed : connection.close disconnectingAt disconnectedAt onDisconnecting onDisconnected =
      some after)
    (read : ∀ now ∈ connection.closeReadings disconnectingAt disconnectedAt onDisconnecting
      inDisconnecting inDisconnected, Property now) :
    after.Stored Property := by
  unfold close at performed
  unfold closeReadings at read
  split at performed
  · cases performed
    exact stored
  next live =>
    rcases Option.bind_eq_some_iff.mp performed with ⟨middle, disconnecting, disconnected⟩
    rw [if_neg live, disconnecting, List.forall_mem_append] at read
    rcases read with ⟨first, second⟩
    have middleStored := transitionTo_stores storesFirst stored disconnecting first
    exact transitionTo_stores storesSecond middleStored.closeFd disconnected second

end Connection

theorem CallbackCalls.stores (Property : UInt64 → Prop) (calls : CallbackCalls) :
    CallbackStores Property calls.perform calls.readings := by
  induction calls with
  | returns =>
      intro connection after stored performed _
      cases performed
      exact stored
  | close disconnectingAt disconnectedAt onDisconnecting onDisconnected next ihFirst ihSecond ih =>
      intro connection after stored performed read
      rcases Option.bind_eq_some_iff.mp performed with ⟨middle, closed, continued⟩
      rw [readings, closed, List.forall_mem_append] at read
      rcases read with ⟨own, later⟩
      exact ih (Connection.close_stores ihFirst ihSecond stored closed own) continued later
  | transitionTo now newState onChange next ihChange ih =>
      intro connection after stored performed read
      rw [perform] at performed
      split at performed
      · rcases Option.bind_eq_some_iff.mp performed with ⟨middle, moved, continued⟩
        rw [readings, moved, List.forall_mem_append] at read
        rcases read with ⟨own, later⟩
        exact ih (Connection.transitionTo_stores ihChange stored moved own) continued later
      · cases performed

namespace Connection

variable {connection next : Connection}

theorem step_stores {Property : UInt64 → Prop} {operation : ConnectionOperation}
    (stored : connection.Stored Property) (stepped : connection.step operation = some next)
    (read : ∀ now ∈ connection.readings operation, Property now) : next.Stored Property := by
  cases operation with
  | transitionTo _ _ _ | close _ _ _ _ => exact CallbackCalls.stores Property _ stored stepped read
  | setCallbackStartTime now =>
      cases stepped
      exact ⟨stored.lastActivity, fun _ => read now (by simp [readings])⟩
  | onCallbackComplete =>
      cases stepped
      exact ⟨stored.lastActivity, nofun⟩
  | updateLastActivity now =>
      cases stepped
      exact ⟨read now (by simp [readings]), stored.callbackStart⟩

/-! ## Checks -/

/-- A check reads the connection only. -/
def stepEvent (connection : Connection) : ClockEvent → Option Connection
  | .operation operation => connection.step operation
  | .isTimeout _ _ | .isCallbackTimeout _ _ => some connection

/-- A check that answers yes is right about the age. -/
def AnswersHonestly (connection : Connection) : ClockEvent → Prop
  | .operation _ => True
  | .isTimeout now timeoutMs =>
      connection.isTimeout now timeoutMs = true →
        connection.lastActivityTime.toNat + timeoutMs.toNat < now.toNat
  | .isCallbackTimeout now timeoutMs =>
      connection.isCallbackTimeout now timeoutMs = true →
        connection.callbackStartTime.toNat + timeoutMs.toNat < now.toNat

/-- The clock has not gone back behind the time, or so far that the age wraps to the timeout at
most. -/
def AgeBounded (time now : UInt64) (timeoutMs : UInt32) : Prop :=
  time ≤ now ∨ now.toNat + 2 ^ 64 ≤ time.toNat + timeoutMs.toNat
deriving Decidable

/-- The check does not look at the clock, or the clock has not gone back. -/
def ChecksForward (connection : Connection) : ClockEvent → Prop
  | .operation _ => True
  | .isTimeout now timeoutMs =>
      connection.state = .disconnected ∨ timeoutMs = 0 ∨
        AgeBounded connection.lastActivityTime now timeoutMs
  | .isCallbackTimeout now timeoutMs =>
      connection.inCallback = false ∨ timeoutMs = 0 ∨
        AgeBounded connection.callbackStartTime now timeoutMs

theorem age_lt_iff {time now : UInt64} (timeoutMs : UInt32) (forward : time ≤ now) :
    timeoutMs.toUInt64 < now - time ↔ time.toNat + timeoutMs.toNat < now.toNat := by
  rw [UInt64.lt_iff_toNat_lt, UInt64.toNat_sub_of_le _ _ forward, UInt32.toNat_toUInt64]
  have ordered := UInt64.le_iff_toNat_le.mp forward
  omega

/-- The age of a time that is still to come wraps. -/
theorem age_lt_iff_of_back {time now : UInt64} (timeoutMs : UInt32) (back : now < time) :
    timeoutMs.toUInt64 < now - time ↔ time.toNat + timeoutMs.toNat < now.toNat + 2 ^ 64 := by
  rw [UInt64.lt_iff_toNat_lt, UInt64.toNat_sub, UInt32.toNat_toUInt64]
  have ordered := UInt64.lt_iff_toNat_lt.mp back
  have timeFits := time.toNat_lt
  omega

theorem age_honest_iff (time now : UInt64) (timeoutMs : UInt32) :
    (timeoutMs.toUInt64 < now - time → time.toNat + timeoutMs.toNat < now.toNat) ↔
      AgeBounded time now timeoutMs := by
  unfold AgeBounded
  by_cases forward : time ≤ now
  · simp [age_lt_iff timeoutMs forward, forward]
  · have back := UInt64.not_le.mp forward
    have ordered := UInt64.lt_iff_toNat_lt.mp back
    rw [age_lt_iff_of_back timeoutMs back]
    simp only [forward, false_or]
    omega

theorem timeout_pos {timeoutMs : UInt32} (set : timeoutMs ≠ 0) : 0 < timeoutMs.toNat := by
  apply Nat.pos_of_ne_zero
  intro zero
  exact set (UInt32.toNat_inj.mp zero)

theorem isTimeout_iff {connection : Connection} {now : UInt64} (timeoutMs : UInt32)
    (forward : connection.lastActivityTime ≤ now) :
    connection.isTimeout now timeoutMs = true ↔ connection.state ≠ .disconnected ∧
      0 < timeoutMs.toNat ∧ connection.lastActivityTime.toNat + timeoutMs.toNat < now.toNat := by
  unfold isTimeout
  by_cases ended : connection.state = .disconnected
  · simp [ended]
  · by_cases never : timeoutMs = 0
    · simp [never]
    · have positive := timeout_pos never
      simp [ended, never, positive, age_lt_iff timeoutMs forward]

theorem isCallbackTimeout_iff {connection : Connection} {now : UInt64} (timeoutMs : UInt32)
    (forward : connection.inCallback = true → connection.callbackStartTime ≤ now) :
    connection.isCallbackTimeout now timeoutMs = true ↔ connection.inCallback = true ∧
      0 < timeoutMs.toNat ∧ connection.callbackStartTime.toNat + timeoutMs.toNat < now.toNat := by
  unfold isCallbackTimeout
  by_cases starts : connection.inCallback = true
  · by_cases never : timeoutMs = 0
    · simp [never]
    · have positive := timeout_pos never
      simp [starts, never, positive, age_lt_iff timeoutMs (forward starts)]
  · simp [starts]

theorem answersHonestly_iff (connection : Connection) (event : ClockEvent) :
    connection.AnswersHonestly event ↔ connection.ChecksForward event := by
  cases event with
  | operation operation => rfl
  | isTimeout now timeoutMs =>
      have age := age_honest_iff connection.lastActivityTime now timeoutMs
      unfold AnswersHonestly ChecksForward isTimeout
      by_cases ended : connection.state = .disconnected
      · simp [ended]
      · by_cases never : timeoutMs = 0
        · simp [never]
        · simp [ended, never, ← age]
  | isCallbackTimeout now timeoutMs =>
      have age := age_honest_iff connection.callbackStartTime now timeoutMs
      unfold AnswersHonestly ChecksForward isCallbackTimeout
      by_cases idle : connection.inCallback = false
      · simp [idle]
      · by_cases never : timeoutMs = 0
        · simp [never]
        · simp [idle, never, ← age]

/-! ## Histories -/

/-- For every history of a connection and every trace of readings in it. -/
theorem answersHonestly_along_iff (id : UInt64) (fd : ℤ) (now : UInt64)
    (events : List ClockEvent) :
    Interleaving.Along stepEvent AnswersHonestly (construct id fd now) events ↔
      Interleaving.Along stepEvent ChecksForward (construct id fd now) events :=
  Interleaving.along_congr answersHonestly_iff _ events

/-- One millisecond back. -/
theorem answersHonestly_fails :
    ¬∀ (id : UInt64) (fd : ℤ) (now : UInt64) (events : List ClockEvent),
      Interleaving.Along stepEvent AnswersHonestly (construct id fd now) events := by
  intro alwaysHonest
  have honest := (alwaysHonest 1 5 1000 [.isTimeout 999 30000]).1 (by decide)
  exact absurd honest (by decide)

/-- The readings of an operation or of a check. -/
def eventReadings (connection : Connection) : ClockEvent → List UInt64
  | .operation operation => connection.readings operation
  | .isTimeout now timeoutMs =>
      if connection.state = .disconnected ∨ timeoutMs = 0 then [] else [now]
  | .isCallbackTimeout now timeoutMs =>
      if connection.inCallback = false ∨ timeoutMs = 0 then [] else [now]

theorem checksForward_of_stored {event : ClockEvent} {later : List UInt64}
    (stored : connection.Stored fun time => ∀ now ∈ connection.eventReadings event ++ later,
      time ≤ now) : connection.ChecksForward event := by
  rcases stored with ⟨lastActivity, callbackStart⟩
  cases event with
  | operation operation => trivial
  | isTimeout now timeoutMs =>
      by_cases skips : connection.state = .disconnected ∨ timeoutMs = 0
      · rcases skips with ended | never
        · exact Or.inl ended
        · exact Or.inr (Or.inl never)
      · exact Or.inr (Or.inr (Or.inl (lastActivity now (by simp [eventReadings, skips]))))
  | isCallbackTimeout now timeoutMs =>
      by_cases skips : connection.inCallback = false ∨ timeoutMs = 0
      · rcases skips with idle | never
        · exact Or.inl idle
        · exact Or.inr (Or.inl never)
      · have starts : connection.inCallback = true := by
          rcases not_or.mp skips with ⟨starts, _⟩
          simpa using starts
        exact Or.inr (Or.inr (Or.inl (callbackStart starts now (by simp [eventReadings, skips]))))

theorem stepEvent_stores {Property : UInt64 → Prop} {event : ClockEvent}
    (stored : connection.Stored Property) (stepped : connection.stepEvent event = some next)
    (read : ∀ now ∈ connection.eventReadings event, Property now) : next.Stored Property := by
  cases event with
  | operation operation => exact step_stores stored stepped read
  | isTimeout now timeoutMs | isCallbackTimeout now timeoutMs =>
      cases stepped
      exact stored

/-- On a clock that does not go back every answer is honest. -/
theorem answersHonestly_of_monotone {events : List ClockEvent}
    (monotone : (Interleaving.observed stepEvent eventReadings connection events).Pairwise (· ≤ ·))
    (stored : connection.Stored fun time =>
      ∀ now ∈ Interleaving.observed stepEvent eventReadings connection events, time ≤ now) :
    Interleaving.Along stepEvent AnswersHonestly connection events := by
  induction events generalizing connection with
  | nil => trivial
  | cons event events ih =>
      refine ⟨(answersHonestly_iff _ _).mpr (checksForward_of_stored stored), ?_⟩
      intro next stepped
      rw [Interleaving.observed_of_step stepped] at monotone stored
      rcases List.pairwise_append.mp monotone with ⟨_, later, across⟩
      refine ih later (stepEvent_stores ?_ stepped across)
      refine stored.imp ?_
      intro time below now isLater
      exact below now (List.mem_append_right _ isLater)

end Connection

end HttpsServerSim
