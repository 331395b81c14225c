import HttpsServerSim.Callback.CallbackStrategyManager
import HttpsServerSim.Lib.SharedPointer

/-!
# Callbacks behind shared pointers

The callback registry once more, now with the strategies that its map points at and with its C
functions. A strategy counts the shared pointers to it: one in the map, and one for each function
that has looked it up and uses it behind the critical section. Meanwhile other calls may take the
strategy out of the map, or destroy the registry.

`callback_registry_get_strategy` returns a plain pointer, which counts for nothing.
-/

namespace HttpsServerSim

inductive SharedReply where
  | reply (reply : CallbackReply)
  /-- `callback_registry_get_strategy_copy`, with what it stores. -/
  | copied (error : CallbackError) (out : Option CallbackStrategy)
  /-- `callback_registry_get_strategy`. -/
  | address (id : Option ℕ)

/-- What is left to do for a function with a shared pointer: to read the strategy, to run code of
the user, and to return, which drops the pointer. -/
inductive HolderProgram where
  | read (next : CallbackStrategy → HolderProgram)
  | use (code : CallbackUse) (next : CallbackOutcome → HolderProgram)
  | done (reply : SharedReply)

/-- The functions that look up a strategy. What the caller of `get_callback` does with the shared
pointer is a program of its own. -/
inductive StrategyLookup where
  | getCallback (later : HolderProgram)
  | getStrategy
  | getStrategyCopy (outStrategy : Pointer)
  | invokeParse (ctx input : Pointer) (inLen : UInt32) (outResult : Pointer)
  | invokeReply (ctx out outLen outResult : Pointer)

namespace StrategyLookup

/-- The arguments pass the checks in front of the critical section. -/
def accepted : StrategyLookup → Bool
  | .getCallback _ | .getStrategy => true
  | .getStrategyCopy outStrategy => decide (outStrategy ≠ nullptr)
  | .invokeParse ctx input inLen outResult => validateParseInvokeParams ctx input inLen outResult
  | .invokeReply ctx out outLen outResult => validateReplyInvokeParams ctx out outLen outResult

/-- The function behind its critical section, when there was a strategy. -/
def found (id : ℕ) : StrategyLookup → HolderProgram
  | .getCallback later => later
  | .getStrategy => .done (.address (some id))
  | .getStrategyCopy _ => .read fun strategy => .done (.copied .success (some strategy))
  | .invokeParse ctx input inLen outResult =>
      .read fun strategy =>
        .use (CallbackCall.parseFunction ctx input inLen strategy) fun outcome =>
          .done (.reply (CallbackCall.parseAnswer outResult outcome))
  | .invokeReply ctx out outLen outResult =>
      .read fun strategy =>
        .use (CallbackCall.replyFunction ctx out outLen strategy) fun outcome =>
          .done (.reply (CallbackCall.replyAnswer outLen outResult outcome))

/-- What the function returns when there was none. -/
def notFound : StrategyLookup → SharedReply
  | .getCallback _ => .reply (.strategy none)
  | .getStrategy => .address none
  | .getStrategyCopy _ => .copied .strategyNotFound none
  | .invokeParse .. | .invokeReply .. => .reply (.invoked .strategyNotFound [])

end StrategyLookup

inductive SharedCall where
  | registerStrategy (strategy : Option CallbackStrategy)
  | deregisterStrategy (port : UInt16)
  | clear
  | lookUp (lookup : StrategyLookup) (port : UInt16)

namespace SharedCall

def accepted : SharedCall → Bool
  | .registerStrategy strategy => validateStrategy strategy
  | .deregisterStrategy _ | .clear => true
  | .lookUp lookup _ => lookup.accepted

/-- The function of the manager that does it. -/
def managerCall : SharedCall → CallbackCall
  | .registerStrategy strategy => .registerCallback strategy
  | .deregisterStrategy port => .deregisterCallback port
  | .clear => .clear
  | .lookUp (.getCallback _) port | .lookUp .getStrategy port
  | .lookUp (.getStrategyCopy _) port => .getCallback port
  | .lookUp (.invokeParse ctx input inLen outResult) port =>
      .invokeParseCallback port ctx input inLen outResult
  | .lookUp (.invokeReply ctx out outLen outResult) port =>
      .invokeReplyCallback port ctx out outLen outResult

end SharedCall

/-- A function with a shared pointer. `position` is the place of its critical section. -/
structure Holder where
  lookup : StrategyLookup
  port : UInt16
  position : ℕ
  id : ℕ
  program : HolderProgram
  runs : List (CallbackUse × CallbackOutcome)

structure SharedReturn where
  call : SharedCall
  position : ℕ
  runs : List (CallbackUse × CallbackOutcome)
  reply : SharedReply

/-- The map is there until the registry is destroyed. `accesses` are the calls that have had their
critical section, in turn. -/
structure SharedCallbacks where
  callbackMap : Option (AList fun _ : UInt16 => ℕ)
  heap : SharedHeap CallbackStrategy
  holders : List Holder
  accesses : List CallbackCall
  returned : List SharedReturn

inductive SharedAction where
  | call (call : SharedCall)
  | destroy
  | move (index : ℕ)
  | userReturns (index : ℕ) (outcome : CallbackOutcome)

namespace SharedCallbacks

def create : SharedCallbacks where
  callbackMap := some ∅
  heap := .empty
  holders := []
  accesses := []
  returned := []

/-- The shared pointers in a map. -/
def addresses (map : AList fun _ : UInt16 => ℕ) : List ℕ :=
  map.entries.map fun entry => entry.2

/-- A critical section with its effect, behind which nothing is left to do. -/
def answer (callbacks : SharedCallbacks) (call : SharedCall)
    (map : AList fun _ : UInt16 => ℕ) (heap : SharedHeap CallbackStrategy) (reply : SharedReply) :
    SharedCallbacks :=
  { callbacks with
    callbackMap := some map
    heap := heap
    accesses := callbacks.accesses ++ [call.managerCall]
    returned := callbacks.returned ++ [⟨call, callbacks.accesses.length, [], reply⟩] }

/-- The critical section of a call. -/
def enter (callbacks : SharedCallbacks) (map : AList fun _ : UInt16 => ℕ) :
    SharedCall → Option SharedCallbacks
  | .registerStrategy none => some callbacks
  | .registerStrategy (some strategy) =>
      some <| match map.lookup strategy.port with
      | some _ =>
          callbacks.answer (.registerStrategy (some strategy)) map callbacks.heap
            (.reply (.status .portExists))
      | none =>
          callbacks.answer (.registerStrategy (some strategy))
            (map.insert strategy.port callbacks.heap.made) (callbacks.heap.makeShared strategy)
            (.reply (.status .success))
  | .deregisterStrategy port =>
      match map.lookup port with
      | none =>
          some <| callbacks.answer (.deregisterStrategy port) map callbacks.heap
            (.reply (.status .portNotFound))
      | some id =>
          (callbacks.heap.drop id).map fun heap =>
            callbacks.answer (.deregisterStrategy port) (map.erase port) heap
              (.reply (.status .success))
  | .clear =>
      (callbacks.heap.dropAll (addresses map)).map fun heap =>
        callbacks.answer .clear ∅ heap (.reply .nothing)
  | .lookUp lookup port =>
      match map.lookup port with
      | none =>
          some <| callbacks.answer (.lookUp lookup port) map callbacks.heap lookup.notFound
      | some id =>
          (callbacks.heap.copy id).map fun heap =>
            { callbacks with
              heap := heap
              accesses := callbacks.accesses ++ [(SharedCall.lookUp lookup port).managerCall]
              holders := callbacks.holders ++
                [⟨lookup, port, callbacks.accesses.length, id, lookup.found id, []⟩] }

/-- There is no step where a function cannot do this, and none where it uses an object that is
gone. -/
def step (callbacks : SharedCallbacks) : SharedAction → Option SharedCallbacks
  | .call call =>
      callbacks.callbackMap.bind fun map =>
        if call.accepted then callbacks.enter map call else some callbacks
  | .destroy =>
      callbacks.callbackMap.bind fun map =>
        (callbacks.heap.dropAll (addresses map)).map fun heap =>
          { callbacks with callbackMap := none, heap := heap }
  | .move index =>
      callbacks.holders[index]?.bind fun holder =>
        match holder.program with
        | .read next =>
            (callbacks.heap.deref holder.id).map fun strategy =>
              { callbacks with
                holders := callbacks.holders.set index
                  { holder with program := next strategy } }
        | .use _ _ => none
        | .done reply =>
            (callbacks.heap.drop holder.id).map fun heap =>
              { callbacks with
                heap := heap
                holders := callbacks.holders.eraseIdx index
                returned := callbacks.returned ++
                  [⟨.lookUp holder.lookup holder.port, holder.position, holder.runs, reply⟩] }
  | .userReturns index outcome =>
      callbacks.holders[index]?.bind fun holder =>
        match holder.program with
        | .use code next =>
            some { callbacks with
              holders := callbacks.holders.set index
                { holder with
                  program := next outcome
                  runs := holder.runs ++ [(code, outcome)] } }
        | .read _ | .done _ => none

/-- All shared pointers: those in the map, and those of the functions. -/
def pointers (callbacks : SharedCallbacks) : List ℕ :=
  callbacks.callbackMap.elim [] addresses ++ callbacks.holders.map Holder.id

end SharedCallbacks

end HttpsServerSim
