import HttpsServerSim.Connection.Connection
import HttpsServerSim.Lib.Monitor
import Mathlib.Data.List.AList

/-!
# The connection manager

`ConnectionManager` keeps the connections that it has made in a map behind its mutex. A
connection is an object in the heap; here it is the number of the object among those made. The
order in which a loop goes through the hash map is not specified, and comes with the call, as does
what a loop under the mutex reads of the connections and of the clock.

The functions given to `for_each_connection` and `check_timeouts` are code of the user, and so are
the state callbacks that run in `close` of a connection.
-/

namespace HttpsServerSim

structure ConnectionManager where
  nextConnectionId : UInt64
  connections : AList fun _ : UInt64 => ℕ
  /-- The connections made so far. -/
  created : ℕ

namespace ConnectionManager

def construct : ConnectionManager where
  nextConnectionId := 1
  connections := ∅
  created := 0

def createConnection (manager : ConnectionManager) : ConnectionManager where
  nextConnectionId := manager.nextConnectionId + 1
  connections := manager.connections.insert manager.nextConnectionId manager.created
  created := manager.created + 1

def getConnection (id : UInt64) (manager : ConnectionManager) : Option ℕ :=
  manager.connections.lookup id

def removeConnection (id : UInt64) (manager : ConnectionManager) : ConnectionManager :=
  { manager with connections := manager.connections.erase id }

def getConnectionCount (manager : ConnectionManager) : UInt32 :=
  UInt32.ofNat manager.connections.entries.length

/-- The connections in the map. -/
def registered (manager : ConnectionManager) : List ℕ :=
  manager.connections.entries.map Sigma.snd

/-- `close_all` before it closes the connections. -/
def clear (manager : ConnectionManager) : ConnectionManager :=
  { manager with connections := ∅ }

end ConnectionManager

/-- An order in which a loop goes through the map. -/
structure IterationOrder where
  arrange : List ℕ → List ℕ
  perm : ∀ refs, (arrange refs).Perm refs

/-- What `check_timeouts` reads of a connection, and of the clock for each of its two tests. -/
def timedOut (idleTimeoutMs callbackTimeoutMs : UInt32) (seen : ℕ → Connection)
    (idleClock callbackClock : ℕ → UInt64) (ref : ℕ) : Bool :=
  let isIdleTimeout := (seen ref).isTimeout (idleClock ref) idleTimeoutMs
  let isCbTimeout := (seen ref).isCallbackTimeout (callbackClock ref) callbackTimeoutMs
  isIdleTimeout || isCbTimeout

/-- The milliseconds of `check_callback_timeouts`, which may wrap. -/
def timeoutMs (timeoutSeconds : UInt32) : UInt32 :=
  timeoutSeconds * 1000

/-! ## The calls -/

inductive ManagerCall where
  | createConnection
  | getConnection (id : UInt64)
  | removeConnection (id : UInt64)
  | getConnectionCount
  | forEachConnection (order : IterationOrder)
  | checkTimeouts (order : IterationOrder) (idleTimeoutMs callbackTimeoutMs : UInt32)
      (seen : ℕ → Connection) (idleClock callbackClock : ℕ → UInt64)
  | checkCallbackTimeouts (order : IterationOrder) (timeoutSeconds : UInt32)
      (seen : ℕ → Connection) (clock : ℕ → UInt64)
  | closeAll (order : IterationOrder)

/-- Code that may call the manager again. -/
inductive ManagerUse where
  | func (ref : ℕ)
  | onTimeout (ref : ℕ)
  | close (ref : ℕ)
deriving DecidableEq

inductive ManagerReply where
  | created (id : UInt64) (ref : ℕ)
  | found (ref : Option ℕ)
  | count (count : UInt32)
  | nothing
deriving DecidableEq

namespace ManagerCall

abbrev Program := Monitor.Program ConnectionManager ManagerUse Unit ManagerReply

/-- The loop over the connections after the mutex is released. -/
def callBack (code : ℕ → ManagerUse) : List ℕ → Program
  | [] => .done .nothing
  | ref :: refs => .use (code ref) fun _ => callBack code refs

def body : ManagerCall → Program
  | .createConnection =>
      .acquire <| .access ConnectionManager.createConnection fun manager =>
        .release <| .done (.created manager.nextConnectionId manager.created)
  | .getConnection connId =>
      .acquire <| .access id fun manager =>
        .release <| .done (.found (manager.getConnection connId))
  | .removeConnection id =>
      .acquire <| .access (ConnectionManager.removeConnection id) fun _ =>
        .release <| .done .nothing
  | .getConnectionCount =>
      .acquire <| .access id fun manager =>
        .release <| .done (.count manager.getConnectionCount)
  | .forEachConnection order =>
      .acquire <| .access id fun manager =>
        .release <| callBack .func (order.arrange manager.registered)
  | .checkTimeouts order idleTimeoutMs callbackTimeoutMs seen idleClock callbackClock =>
      .acquire <| .access id fun manager =>
        .release <| callBack .onTimeout <| (order.arrange manager.registered).filter
          (timedOut idleTimeoutMs callbackTimeoutMs seen idleClock callbackClock)
  | .checkCallbackTimeouts order timeoutSeconds seen clock =>
      .acquire <| .access id fun manager =>
        .release <| callBack .close <| (order.arrange manager.registered).filter fun ref =>
          (seen ref).isCallbackTimeout (clock ref) (timeoutMs timeoutSeconds)
  | .closeAll order =>
      .acquire <| .access ConnectionManager.clear fun manager =>
        .release <| callBack .close (order.arrange manager.registered)

/-- What a call does to the manager. -/
def effect : ManagerCall → ConnectionManager → ConnectionManager
  | .createConnection => ConnectionManager.createConnection
  | .removeConnection id => ConnectionManager.removeConnection id
  | .closeAll _ => ConnectionManager.clear
  | _ => id

theorem callBack_applies (update : ConnectionManager → ConnectionManager) (code : ℕ → ManagerUse)
    (refs : List ℕ) : (callBack code refs).Applies update := by
  induction refs with
  | nil => trivial
  | cons ref refs ih =>
      intro _
      exact ih

theorem callBack_disciplined (code : ℕ → ManagerUse) (refs : List ℕ) :
    (callBack code refs).Disciplined false := by
  induction refs with
  | nil => trivial
  | cons ref refs ih =>
      intro _
      exact ih

theorem body_applies (call : ManagerCall) : call.body.Applies call.effect := by
  cases call with
  | createConnection | getConnection _ | removeConnection _ | getConnectionCount =>
      exact ⟨rfl, fun _ => trivial⟩
  | forEachConnection _ | checkTimeouts _ _ _ _ _ _ | checkCallbackTimeouts _ _ _ _ | closeAll _ =>
      exact ⟨rfl, fun _ => callBack_applies _ _ _⟩

theorem body_disciplined (call : ManagerCall) : call.body.Disciplined false := by
  cases call with
  | createConnection | getConnection _ | removeConnection _ | getConnectionCount =>
      exact fun _ => trivial
  | forEachConnection _ | checkTimeouts _ _ _ _ _ _ | checkCallbackTimeouts _ _ _ _ | closeAll _ =>
      exact fun _ => callBack_disciplined _ _

end ManagerCall

/-- Threads that share a connection manager. -/
abbrev ManagerThreads (Thread : Type) :=
  Monitor.System Thread ManagerCall ConnectionManager ManagerUse Unit ManagerReply

namespace ManagerThreads

variable {Thread : Type} [DecidableEq Thread]

abbrev construct : ManagerThreads Thread := Monitor.initial ConnectionManager.construct

abbrev step (threads : ManagerThreads Thread) (action : Monitor.Action Thread ManagerCall Unit) :
    Option (ManagerThreads Thread) :=
  Monitor.step ManagerCall.body threads action

end ManagerThreads

end HttpsServerSim
