import HttpsServerSim.Lib.Interleaving
import Mathlib.Data.Int.Notation

/-!
# Connections

`Connection` with its state machine, its descriptor and its callback flag. A state callback is
user code that may call `close` and `transition_to` on the connection again, and a callback runs
within these calls too. What the callbacks do in an operation is recorded with it, so that every
behaviour of every callback is some record; without a callback the record is empty.

The clock is read by the operations and arrives as an argument.
-/

namespace HttpsServerSim

inductive ConnectionState where
  | accepting
  | tlsHandshaking
  | connected
  | receiving
  | processing
  | sending
  | disconnecting
  | disconnected
deriving DecidableEq, Repr

def isValidStateTransition : ConnectionState → ConnectionState → Bool
  | .accepting, target => target = .accepting || target = .tlsHandshaking || target = .disconnecting
  | .tlsHandshaking, target =>
      target = .tlsHandshaking || target = .connected || target = .disconnecting
  | .connected, target => target = .connected || target = .receiving || target = .disconnecting
  | .receiving, target => target = .receiving || target = .processing || target = .disconnecting
  | .processing, target => target = .processing || target = .sending || target = .disconnecting
  | .sending, target => target = .sending || target = .connected || target = .disconnecting
  | .disconnecting, target => target = .disconnecting || target = .disconnected
  | .disconnected, target => target = .disconnected

structure Connection where
  connectionId : UInt64
  fd : ℤ
  state : ConnectionState
  lastActivityTime : UInt64
  callbackStartTime : UInt64
  inCallback : Bool
  /-- The descriptors given to the system's `close`, in turn. -/
  closeCalls : List ℤ
deriving DecidableEq, Repr

namespace Connection

def construct (id : UInt64) (fd : ℤ) (now : UInt64) : Connection where
  connectionId := id
  fd := fd
  state := .accepting
  lastActivityTime := now
  callbackStartTime := 0
  inCallback := false
  closeCalls := []

def closeFd (connection : Connection) : Connection :=
  if 0 ≤ connection.fd then
    { connection with fd := -1, closeCalls := connection.closeCalls ++ [connection.fd] }
  else connection

/-- The destructor. -/
def destroy (connection : Connection) : Connection :=
  connection.closeFd

def updateLastActivity (now : UInt64) (connection : Connection) : Connection :=
  { connection with lastActivityTime := now }

/-- The unsigned difference wraps when the clock went back. -/
def isTimeout (now : UInt64) (timeoutMs : UInt32) (connection : Connection) : Bool :=
  if connection.state = .disconnected then false
  else if timeoutMs = 0 then false
  else timeoutMs.toUInt64 < now - connection.lastActivityTime

def setCallbackStartTime (now : UInt64) (connection : Connection) : Connection :=
  { connection with callbackStartTime := now, inCallback := true }

def isCallbackTimeout (now : UInt64) (timeoutMs : UInt32) (connection : Connection) : Bool :=
  if !connection.inCallback then false
  else if timeoutMs = 0 then false
  else timeoutMs.toUInt64 < now - connection.callbackStartTime

def onCallbackComplete (connection : Connection) : Connection :=
  { connection with inCallback := false }

/-- A transition that is not in the matrix fails the assertion. -/
def transitionTo (now : UInt64) (newState : ConnectionState)
    (onStateChange : Connection → Option Connection) (connection : Connection) :
    Option Connection :=
  if connection.state = newState then some connection
  else if connection.state = .disconnected then some connection
  else if !isValidStateTransition connection.state newState then none
  else
    (onStateChange { connection with state := newState, lastActivityTime := now }).map
      fun connection =>
        if newState = .disconnected then { connection with inCallback := false } else connection

/-- The protocol handler is closed between the two transitions and does not touch the
connection. -/
def close (disconnectingAt disconnectedAt : UInt64)
    (onDisconnecting onDisconnected : Connection → Option Connection) (connection : Connection) :
    Option Connection :=
  if connection.state = .disconnected then some connection
  else
    (connection.transitionTo disconnectingAt .disconnecting onDisconnecting).bind
      fun connection =>
        connection.closeFd.transitionTo disconnectedAt .disconnected onDisconnected

/-- A call of `transition_to` that changes the state, and so calls the state callback. -/
def Changes (connection : Connection) (newState : ConnectionState) : Prop :=
  connection.state ≠ newState ∧ connection.state ≠ .disconnected
deriving Decidable

end Connection

/-! ## Callbacks that call the connection again -/

/-- What a state callback does with its connection, call by call. -/
inductive CallbackCalls where
  | returns
  | close (disconnectingAt disconnectedAt : UInt64)
      (onDisconnecting onDisconnected next : CallbackCalls)
  | transitionTo (now : UInt64) (newState : ConnectionState) (onChange next : CallbackCalls)
deriving DecidableEq

namespace CallbackCalls

/-- A callback that is not called makes no calls. -/
def perform : CallbackCalls → Connection → Option Connection
  | .returns, connection => some connection
  | .close disconnectingAt disconnectedAt onDisconnecting onDisconnected next, connection =>
      (connection.close disconnectingAt disconnectedAt onDisconnecting.perform
        onDisconnected.perform).bind next.perform
  | .transitionTo now newState onChange next, connection =>
      if connection.Changes newState ∨ onChange = .returns then
        (connection.transitionTo now newState onChange.perform).bind next.perform
      else none

end CallbackCalls

/-- The operations of the connection, each with what the callbacks do in it. -/
inductive ConnectionOperation where
  | transitionTo (now : UInt64) (newState : ConnectionState) (onChange : CallbackCalls)
  | close (disconnectingAt disconnectedAt : UInt64) (onDisconnecting onDisconnected : CallbackCalls)
  | setCallbackStartTime (now : UInt64)
  | onCallbackComplete
  | updateLastActivity (now : UInt64)
deriving DecidableEq

namespace Connection

def step (connection : Connection) : ConnectionOperation → Option Connection
  | .transitionTo now newState onChange =>
      (CallbackCalls.transitionTo now newState onChange .returns).perform connection
  | .close disconnectingAt disconnectedAt onDisconnecting onDisconnected =>
      (CallbackCalls.close disconnectingAt disconnectedAt onDisconnecting onDisconnected
        .returns).perform connection
  | .setCallbackStartTime now => some (connection.setCallbackStartTime now)
  | .onCallbackComplete => some connection.onCallbackComplete
  | .updateLastActivity now => some (connection.updateLastActivity now)

end Connection

end HttpsServerSim
