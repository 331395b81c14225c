import HttpsServerSim.Lib.Interleaving
import Mathlib.Logic.Function.Basic

/-!
# The counters of the statistics manager

`StatisticsManager` is shared by the threads that record connections and requests and by one that
calls `update`. Each access to an atomic counter is a step of its own. A weak compare-and-exchange
may fail although the value is the expected one.

A call of `record_connection_close` names the connection that it closes, which the code does not
look at. The latencies and the counters of bytes are left out: no call here reads or writes them
but `update`, behind its last access to the counters.
-/

namespace HttpsServerSim

structure StatisticsManager where
  totalConnections : UInt64
  currentConnections : UInt32
  totalRequests : UInt64
  requestsLastSecond : UInt64
  requestsCurrentSecond : UInt64
  requestsPerSecond : UInt64

/-- What a thread does next. -/
inductive StatisticsPc where
  | idle
  | addTotalConnections
  | addCurrentConnections
  | loadCurrentConnections
  | exchangeCurrentConnections (current : UInt32)
  | addTotalRequests
  | addRequestsCurrentSecond
deriving DecidableEq

/-- Where `update` is. -/
inductive UpdatePc where
  | idle
  | storePerSecond (current : UInt64)
  | storeLastSecond (current : UInt64)

structure StatisticsThreads (Thread : Type) where
  manager : StatisticsManager
  threads : Thread → StatisticsPc
  updater : UpdatePc
  /-- The calls of `record_connection` that are over, numbered as they end. -/
  opened : ℕ
  /-- The connections that calls of `record_connection_close` have been made for. -/
  closings : List ℕ
  /-- The calls of `record_connection_close` that are over, and how often they have decremented. -/
  closed : ℕ
  decremented : ℕ
  /-- The increments of `requests_current_second_`. -/
  incremented : ℕ
  /-- What `update` has taken out of it, and what it has stored in `requests_per_second_`. -/
  taken : List UInt64
  stored : List UInt64

inductive StatisticsAction (Thread : Type) where
  | recordConnection (thread : Thread)
  | recordConnectionClose (thread : Thread) (connection : ℕ)
  | recordRequest (thread : Thread)
  | move (thread : Thread) (spurious : Bool)
  | update

namespace StatisticsManager

def construct : StatisticsManager where
  totalConnections := 0
  currentConnections := 0
  totalRequests := 0
  requestsLastSecond := 0
  requestsCurrentSecond := 0
  requestsPerSecond := 0

end StatisticsManager

namespace StatisticsThreads

variable {Thread : Type} [DecidableEq Thread]

def construct : StatisticsThreads Thread where
  manager := .construct
  threads := fun _ => .idle
  updater := .idle
  opened := 0
  closings := []
  closed := 0
  decremented := 0
  incremented := 0
  taken := []
  stored := []

def goto (state : StatisticsThreads Thread) (thread : Thread) (pc : StatisticsPc) :
    StatisticsThreads Thread :=
  { state with threads := Function.update state.threads thread pc }

/-- The loop of `record_connection_close` with a value of the counter. -/
def loop (state : StatisticsThreads Thread) (thread : Thread) (current : UInt32) :
    StatisticsThreads Thread :=
  if current > 0 then state.goto thread (.exchangeCurrentConnections current)
  else { state.goto thread .idle with closed := state.closed + 1 }

/-- The next access of a thread. -/
def move (state : StatisticsThreads Thread) (thread : Thread) (spurious : Bool) :
    Option (StatisticsThreads Thread) :=
  match state.threads thread with
  | .idle => none
  | .addTotalConnections =>
      some { state.goto thread .addCurrentConnections with
        manager := { state.manager with
          totalConnections := state.manager.totalConnections + 1 } }
  | .addCurrentConnections =>
      some { state.goto thread .idle with
        manager := { state.manager with
          currentConnections := state.manager.currentConnections + 1 }
        opened := state.opened + 1 }
  | .loadCurrentConnections => some (state.loop thread state.manager.currentConnections)
  | .exchangeCurrentConnections current =>
      if state.manager.currentConnections = current ∧ spurious = false then
        some { state.goto thread .idle with
          manager := { state.manager with currentConnections := current - 1 }
          closed := state.closed + 1
          decremented := state.decremented + 1 }
      else some (state.loop thread state.manager.currentConnections)
  | .addTotalRequests =>
      some { state.goto thread .addRequestsCurrentSecond with
        manager := { state.manager with totalRequests := state.manager.totalRequests + 1 } }
  | .addRequestsCurrentSecond =>
      some { state.goto thread .idle with
        manager := { state.manager with
          requestsCurrentSecond := state.manager.requestsCurrentSecond + 1 }
        incremented := state.incremented + 1 }

/-- The next access of `update`. -/
def update (state : StatisticsThreads Thread) : StatisticsThreads Thread :=
  match state.updater with
  | .idle =>
      { state with
        manager := { state.manager with requestsCurrentSecond := 0 }
        updater := .storePerSecond state.manager.requestsCurrentSecond
        taken := state.taken ++ [state.manager.requestsCurrentSecond] }
  | .storePerSecond current =>
      { state with
        manager := { state.manager with requestsPerSecond := current }
        updater := .storeLastSecond current
        stored := state.stored ++ [current] }
  | .storeLastSecond current =>
      { state with
        manager := { state.manager with requestsLastSecond := current }
        updater := .idle }

def step (state : StatisticsThreads Thread) :
    StatisticsAction Thread → Option (StatisticsThreads Thread)
  | .recordConnection thread =>
      if state.threads thread = .idle then some (state.goto thread .addTotalConnections) else none
  | .recordConnectionClose thread connection =>
      if state.threads thread = .idle then
        some { state.goto thread .loadCurrentConnections with
          closings := state.closings ++ [connection] }
      else none
  | .recordRequest thread =>
      if state.threads thread = .idle then some (state.goto thread .addTotalRequests) else none
  | .move thread spurious => state.move thread spurious
  | .update => some state.update

/-! ## What one step does -/

/-- A thread goes on, and these things change with it. -/
inductive Transition (state : StatisticsThreads Thread) :
    StatisticsAction Thread → StatisticsThreads Thread → Prop where
  | recordConnection {thread : Thread} (free : state.threads thread = .idle) :
      Transition state (.recordConnection thread) (state.goto thread .addTotalConnections)
  | recordConnectionClose {thread : Thread} {connection : ℕ}
      (free : state.threads thread = .idle) :
      Transition state (.recordConnectionClose thread connection)
        { state.goto thread .loadCurrentConnections with
          closings := state.closings ++ [connection] }
  | recordRequest {thread : Thread} (free : state.threads thread = .idle) :
      Transition state (.recordRequest thread) (state.goto thread .addTotalRequests)
  | addTotalConnections {thread : Thread} {spurious : Bool}
      (place : state.threads thread = .addTotalConnections) :
      Transition state (.move thread spurious) { state.goto thread .addCurrentConnections with
        manager := { state.manager with
          totalConnections := state.manager.totalConnections + 1 } }
  | addCurrentConnections {thread : Thread} {spurious : Bool}
      (place : state.threads thread = .addCurrentConnections) :
      Transition state (.move thread spurious) { state.goto thread .idle with
        manager := { state.manager with
          currentConnections := state.manager.currentConnections + 1 }
        opened := state.opened + 1 }
  /-- The counter was not zero when it was read, and the decrement is to be tried. -/
  | tries {thread : Thread} {spurious : Bool}
      (place : state.threads thread = .loadCurrentConnections ∨
        ∃ current, state.threads thread = .exchangeCurrentConnections current)
      (positive : 0 < state.manager.currentConnections.toNat) :
      Transition state (.move thread spurious)
        (state.goto thread (.exchangeCurrentConnections state.manager.currentConnections))
  /-- The counter was zero when it was read. -/
  | givesUp {thread : Thread} {spurious : Bool}
      (place : state.threads thread = .loadCurrentConnections ∨
        ∃ current, state.threads thread = .exchangeCurrentConnections current)
      (zero : state.manager.currentConnections.toNat = 0) :
      Transition state (.move thread spurious)
        { state.goto thread .idle with closed := state.closed + 1 }
  | decrements {thread : Thread} {spurious : Bool}
      (place : state.threads thread =
        .exchangeCurrentConnections state.manager.currentConnections) :
      Transition state (.move thread spurious) { state.goto thread .idle with
        manager := { state.manager with
          currentConnections := state.manager.currentConnections - 1 }
        closed := state.closed + 1
        decremented := state.decremented + 1 }
  | addTotalRequests {thread : Thread} {spurious : Bool}
      (place : state.threads thread = .addTotalRequests) :
      Transition state (.move thread spurious) { state.goto thread .addRequestsCurrentSecond with
        manager := { state.manager with totalRequests := state.manager.totalRequests + 1 } }
  | addRequestsCurrentSecond {thread : Thread} {spurious : Bool}
      (place : state.threads thread = .addRequestsCurrentSecond) :
      Transition state (.move thread spurious) { state.goto thread .idle with
        manager := { state.manager with
          requestsCurrentSecond := state.manager.requestsCurrentSecond + 1 }
        incremented := state.incremented + 1 }
  | update : Transition state .update state.update

variable {state next : StatisticsThreads Thread} {action : StatisticsAction Thread}

theorem transition_of_loop {thread : Thread} {spurious : Bool}
    (place : state.threads thread = .loadCurrentConnections ∨
      ∃ current, state.threads thread = .exchangeCurrentConnections current) :
    Transition state (.move thread spurious)
      (state.loop thread state.manager.currentConnections) := by
  unfold loop
  split
  next positive => exact .tries place (UInt32.lt_iff_toNat_lt.mp positive)
  next zero =>
    have notPositive : ¬0 < state.manager.currentConnections.toNat := fun positive =>
      zero (UInt32.lt_iff_toNat_lt.mpr positive)
    exact .givesUp place (by omega)

theorem step_transition (stepped : step state action = some next) :
    Transition state action next := by
  cases action with
  | recordConnection thread =>
      simp only [step] at stepped
      split at stepped
      next free =>
        cases stepped
        exact .recordConnection free
      next => cases stepped
  | recordConnectionClose thread connection =>
      simp only [step] at stepped
      split at stepped
      next free =>
        cases stepped
        exact .recordConnectionClose free
      next => cases stepped
  | recordRequest thread =>
      simp only [step] at stepped
      split at stepped
      next free =>
        cases stepped
        exact .recordRequest free
      next => cases stepped
  | move thread spurious =>
      simp only [step, move] at stepped
      cases place : state.threads thread with
      | idle => simp [place] at stepped
      | addTotalConnections =>
          simp only [place] at stepped
          cases stepped
          exact .addTotalConnections place
      | addCurrentConnections =>
          simp only [place] at stepped
          cases stepped
          exact .addCurrentConnections place
      | loadCurrentConnections =>
          simp only [place] at stepped
          cases stepped
          exact transition_of_loop (Or.inl place)
      | exchangeCurrentConnections current =>
          simp only [place] at stepped
          split at stepped
          next same =>
            cases stepped
            rcases same with ⟨rfl, _⟩
            exact .decrements place
          next =>
            cases stepped
            exact transition_of_loop (Or.inr ⟨current, place⟩)
      | addTotalRequests =>
          simp only [place] at stepped
          cases stepped
          exact .addTotalRequests place
      | addRequestsCurrentSecond =>
          simp only [place] at stepped
          cases stepped
          exact .addRequestsCurrentSecond place
  | update =>
      cases stepped
      exact .update

end StatisticsThreads

end HttpsServerSim
