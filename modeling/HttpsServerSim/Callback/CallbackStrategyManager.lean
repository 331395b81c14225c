import HttpsServerSim.Lib.CString
import HttpsServerSim.Lib.Monitor
import Mathlib.Data.List.AList

/-!
# The callback strategy manager

`CallbackStrategyManager` keeps the callback strategies of the ports in a map behind its mutex. A
strategy in the map is a copy that nobody writes to, so it is given out by its value. The two
functions of a strategy are code of the user; they run after the mutex is released, may call the
manager again, and may throw.
-/

namespace HttpsServerSim

inductive CallbackError where
  | success
  | portExists
  | portNotFound
  | strategyNotFound
  | invalidParam
  | callbackException
deriving DecidableEq

structure CallbackStrategy where
  name : Option Bytes
  port : UInt16
  parse : Pointer
  reply : Pointer

def callbackMaxStrategyNameLength : ℕ := 1024

def validateStrategy : Option CallbackStrategy → Bool
  | none => false
  | some strategy =>
      match strategy.name with
      | none => false
      | some name =>
          let nameLen := strnlen name callbackMaxStrategyNameLength
          if nameLen = 0 ∨ nameLen ≥ callbackMaxStrategyNameLength then false
          else if strategy.port = 0 then false
          else if strategy.parse = nullptr ∨ strategy.reply = nullptr then false
          else true

def validateParseInvokeParams (ctx input : Pointer) (inLen : UInt32) (outResult : Pointer) :
    Bool :=
  if ctx = nullptr then false
  else if inLen > 0 ∧ input = nullptr then false
  else if outResult = nullptr then false
  else true

def validateReplyInvokeParams (ctx out outLen outResult : Pointer) : Bool :=
  if ctx = nullptr then false
  else if out = nullptr then false
  else if outLen = nullptr then false
  else if outResult = nullptr then false
  else true

structure CallbackStrategyManager where
  callbackMap : AList fun _ : UInt16 => CallbackStrategy

namespace CallbackStrategyManager

def construct : CallbackStrategyManager where
  callbackMap := ∅

/-- `register_callback` under the mutex. -/
def registerCallback (strategy : CallbackStrategy) (manager : CallbackStrategyManager) :
    CallbackError × CallbackStrategyManager :=
  match manager.callbackMap.lookup strategy.port with
  | some _ => (.portExists, manager)
  | none => (.success, ⟨manager.callbackMap.insert strategy.port strategy⟩)

def getCallback (port : UInt16) (manager : CallbackStrategyManager) : Option CallbackStrategy :=
  manager.callbackMap.lookup port

def deregisterCallback (port : UInt16) (manager : CallbackStrategyManager) :
    CallbackError × CallbackStrategyManager :=
  match manager.callbackMap.lookup port with
  | none => (.portNotFound, manager)
  | some _ => (.success, ⟨manager.callbackMap.erase port⟩)

def clear (_ : CallbackStrategyManager) : CallbackStrategyManager where
  callbackMap := ∅

def getCallbackCount (manager : CallbackStrategyManager) : UInt64 :=
  UInt64.ofNat manager.callbackMap.entries.length

end CallbackStrategyManager

/-! ## The calls -/

inductive CallbackCall where
  | registerCallback (strategy : Option CallbackStrategy)
  | getCallback (port : UInt16)
  | deregisterCallback (port : UInt16)
  | clear
  | getCallbackCount
  | invokeParseCallback (port : UInt16) (ctx input : Pointer) (inLen : UInt32)
      (outResult : Pointer)
  | invokeReplyCallback (port : UInt16) (ctx out outLen outResult : Pointer)

/-- A function of a strategy, called with these arguments. -/
inductive CallbackUse where
  | parse (code ctx input : Pointer) (inLen : UInt32)
  | reply (code ctx out outLen : Pointer)
deriving DecidableEq

/-- What a function of a strategy does in the end. -/
inductive CallbackOutcome where
  | returns (result : UInt32)
  | throws
deriving DecidableEq

/-- What a call returns; an invocation with what it stores last, in turn. -/
inductive CallbackReply where
  | status (error : CallbackError)
  | strategy (found : Option CallbackStrategy)
  | nothing
  | count (count : UInt64)
  | invoked (error : CallbackError) (stores : List (Pointer × UInt32))

namespace CallbackCall

abbrev Program :=
  Monitor.Program CallbackStrategyManager CallbackUse CallbackOutcome CallbackReply

/-- The `try` block of `invoke_parse_callback` and its handler. -/
def parseAnswer (outResult : Pointer) : CallbackOutcome → CallbackReply
  | .returns result => .invoked .success [(outResult, result)]
  | .throws => .invoked .callbackException [(outResult, 0)]

/-- The `try` block of `invoke_reply_callback` and its handler. -/
def replyAnswer (outLen outResult : Pointer) : CallbackOutcome → CallbackReply
  | .returns result => .invoked .success [(outResult, result)]
  | .throws => .invoked .callbackException [(outResult, 0), (outLen, 0)]

/-- An invocation with the strategy that it has found. -/
def invoke (function : CallbackStrategy → CallbackUse) (answer : CallbackOutcome → CallbackReply) :
    Option CallbackStrategy → Program
  | none => .done (.invoked .strategyNotFound [])
  | some strategy => .use (function strategy) fun outcome => .done (answer outcome)

def parseFunction (ctx input : Pointer) (inLen : UInt32) (strategy : CallbackStrategy) :
    CallbackUse :=
  .parse strategy.parse ctx input inLen

def replyFunction (ctx out outLen : Pointer) (strategy : CallbackStrategy) : CallbackUse :=
  .reply strategy.reply ctx out outLen

def body : CallbackCall → Program
  | .registerCallback none => .done (.status .invalidParam)
  | .registerCallback (some strategy) =>
      if validateStrategy (some strategy) then
        .acquire <| .access (fun manager => (manager.registerCallback strategy).2) fun manager =>
          .release <| .done (.status (manager.registerCallback strategy).1)
      else .done (.status .invalidParam)
  | .getCallback port =>
      .acquire <| .access id fun manager =>
        .release <| .done (.strategy (manager.getCallback port))
  | .deregisterCallback port =>
      .acquire <| .access (fun manager => (manager.deregisterCallback port).2) fun manager =>
        .release <| .done (.status (manager.deregisterCallback port).1)
  | .clear =>
      .acquire <| .access CallbackStrategyManager.clear fun _ => .release <| .done .nothing
  | .getCallbackCount =>
      .acquire <| .access id fun manager => .release <| .done (.count manager.getCallbackCount)
  | .invokeParseCallback port ctx input inLen outResult =>
      if validateParseInvokeParams ctx input inLen outResult then
        .acquire <| .access id fun manager => .release <|
          invoke (parseFunction ctx input inLen) (parseAnswer outResult)
            (manager.callbackMap.lookup port)
      else .done (.invoked .invalidParam [])
  | .invokeReplyCallback port ctx out outLen outResult =>
      if validateReplyInvokeParams ctx out outLen outResult then
        .acquire <| .access id fun manager => .release <|
          invoke (replyFunction ctx out outLen) (replyAnswer outLen outResult)
            (manager.callbackMap.lookup port)
      else .done (.invoked .invalidParam [])

/-- What a call does to the manager. -/
def effect : CallbackCall → CallbackStrategyManager → CallbackStrategyManager
  | .registerCallback (some strategy) => fun manager =>
      if validateStrategy (some strategy) then (manager.registerCallback strategy).2 else manager
  | .deregisterCallback port => fun manager => (manager.deregisterCallback port).2
  | .clear => CallbackStrategyManager.clear
  | _ => id

theorem invoke_within (update : CallbackStrategyManager → CallbackStrategyManager)
    (function : CallbackStrategy → CallbackUse) (answer : CallbackOutcome → CallbackReply)
    (found : Option CallbackStrategy) :
    (invoke function answer found).Applies update ∧
      (invoke function answer found).Disciplined false := by
  cases found with
  | none => exact ⟨trivial, trivial⟩
  | some strategy => exact ⟨fun _ => trivial, fun _ => trivial⟩

theorem body_applies (call : CallbackCall) : call.body.Applies call.effect := by
  cases call with
  | registerCallback strategy =>
      cases strategy with
      | none => trivial
      | some strategy =>
          simp only [body, effect]
          split
          · exact ⟨rfl, fun _ => trivial⟩
          · trivial
  | getCallback _ | deregisterCallback _ | clear | getCallbackCount =>
      exact ⟨rfl, fun _ => trivial⟩
  | invokeParseCallback port ctx input inLen outResult =>
      simp only [body]
      split
      · exact ⟨rfl, fun _ => (invoke_within _ ..).1⟩
      · trivial
  | invokeReplyCallback port ctx out outLen outResult =>
      simp only [body]
      split
      · exact ⟨rfl, fun _ => (invoke_within _ ..).1⟩
      · trivial

theorem body_disciplined (call : CallbackCall) : call.body.Disciplined false := by
  cases call with
  | registerCallback strategy =>
      cases strategy with
      | none => trivial
      | some strategy =>
          simp only [body]
          split
          · exact fun _ => trivial
          · trivial
  | getCallback _ | deregisterCallback _ | clear | getCallbackCount => exact fun _ => trivial
  | invokeParseCallback port ctx input inLen outResult =>
      simp only [body]
      split
      · exact fun _ => (invoke_within id ..).2
      · trivial
  | invokeReplyCallback port ctx out outLen outResult =>
      simp only [body]
      split
      · exact fun _ => (invoke_within id ..).2
      · trivial

end CallbackCall

/-- Threads that share a callback strategy manager. -/
abbrev CallbackThreads (Thread : Type) :=
  Monitor.System Thread CallbackCall CallbackStrategyManager CallbackUse CallbackOutcome
    CallbackReply

namespace CallbackThreads

variable {Thread : Type} [DecidableEq Thread]

abbrev construct : CallbackThreads Thread := Monitor.initial CallbackStrategyManager.construct

abbrev step (threads : CallbackThreads Thread)
    (action : Monitor.Action Thread CallbackCall CallbackOutcome) :
    Option (CallbackThreads Thread) :=
  Monitor.step CallbackCall.body threads action

end CallbackThreads

end HttpsServerSim
