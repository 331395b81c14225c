import HttpsServerSim.Lib.CString
import HttpsServerSim.Lib.Interleaving
import HttpsServerSim.Lib.Sorting

/-!
# The debug chain

`DebugChain` with the handler objects that its user makes. An object is known by a number of its
own, so an address that is used again is another object; the destroy function of a handler ends
its object. To read an object that is not there is a fault, which has no result.

The functions of the handlers are code of the user. What they return and what they do to the
handler objects comes with the call, and may depend on the calls made before in the same
processing. `assert` is compiled out.
-/

namespace HttpsServerSim

structure DebugHandler where
  name : Option Bytes
  priority : ℤ
  handleRequest : Pointer
  handleResponse : Pointer
  destroy : Pointer

/-- The handler objects that there are. -/
abbrev HandlerMemory := Pointer → Option DebugHandler

/-- A name that is given to the chain; the name of a handler may lie in its object. -/
inductive NameArgument where
  | null
  | text (bytes : Bytes)
  | nameOf (handler : Pointer)
deriving DecidableEq

def NameArgument.read (memory : HandlerMemory) : NameArgument → Option Bytes
  | .null => none
  | .text bytes => some bytes
  | .nameOf handler => (memory handler).bind DebugHandler.name

structure DebugConfig where
  enabled : Bool

structure DebugChain where
  handlers : List Pointer
  sorted : Bool

/-- A function of a handler is called. -/
structure HandlerCall where
  handler : Pointer
  code : Pointer
deriving DecidableEq

/-- What the functions of the handlers do: the result of the last of these calls, and the handler
objects after it. -/
abbrev HandlerBehaviour := List HandlerCall → HandlerMemory → ℤ × HandlerMemory

namespace DebugChain

def errSuccess : ℤ := 0

def errInvalidParam : ℤ := -1

def errNotFound : ℤ := -2

def errAlreadyExists : ℤ := -3

def errContinueChain : ℤ := 0

def errNotExecuted : ℤ := 2

def construct : DebugChain where
  handlers := []
  sorted := false

/-- The first handler of the name. -/
def findIf (memory : HandlerMemory) (name : NameArgument) :
    List Pointer → Option (Option Pointer)
  | [] => some none
  | handler :: handlers =>
      if handler = nullptr then findIf memory name handlers
      else (memory handler).bind fun object =>
        match object.name with
        | none => findIf memory name handlers
        | some own => (name.read memory).bind fun given =>
            if strcmp own given = .eq then some (some handler) else findIf memory name handlers

def hasHandler (chain : DebugChain) (memory : HandlerMemory) (name : NameArgument) :
    Option Bool :=
  if name = .null then some false
  else (findIf memory name chain.handlers).map Option.isSome

def registerHandler (chain : DebugChain) (memory : HandlerMemory) (handler : Pointer) :
    Option (ℤ × DebugChain) :=
  if handler = nullptr then some (errInvalidParam, chain)
  else (memory handler).bind fun object =>
    if object.name.isNone then some (errInvalidParam, chain)
    else (chain.hasHandler memory (.nameOf handler)).map fun
      | true => (errAlreadyExists, chain)
      | false => (errSuccess, { handlers := chain.handlers ++ [handler], sorted := false })

/-- The comparison of `sort_handlers`. -/
def comesBefore (memory : HandlerMemory) (a b : Pointer) : Bool :=
  match memory a, memory b with
  | some first, some second =>
      if first.priority ≠ second.priority then first.priority < second.priority
      else
        match first.name, second.name with
        | some firstName, some secondName => strcmp firstName secondName = .lt
        | _, _ => false
  | _, _ => false

/-- The comparison can read the handler. -/
def Named (memory : HandlerMemory) (handler : Pointer) : Prop :=
  ∃ object name, memory handler = some object ∧ object.name = some name

instance (memory : HandlerMemory) : DecidablePred (Named memory) := fun handler =>
  decidable_of_iff ((memory handler).any fun object => object.name.isSome) <| by
    simp [Named, Option.any_eq_true, Option.isSome_iff_exists]

def sortHandlers (sorting : UnstableSort Pointer) (chain : DebugChain) (memory : HandlerMemory) :
    Option DebugChain :=
  if chain.handlers.length ≤ 1 ∨ ∀ handler ∈ chain.handlers, Named memory handler then
    some { handlers := sorting.sort (comesBefore memory) chain.handlers, sorted := true }
  else none

/-- What comes out of a processing. -/
structure Outcome where
  result : ℤ
  calls : List HandlerCall
  memory : HandlerMemory

/-- The loop of `process_internal`, after some calls. -/
def runHandlers (function : DebugHandler → Pointer) (behaviour : HandlerBehaviour) :
    List Pointer → List HandlerCall → HandlerMemory → Option Outcome
  | [], calls, memory => some ⟨errContinueChain, calls, memory⟩
  | handler :: handlers, calls, memory =>
      if handler = nullptr then runHandlers function behaviour handlers calls memory
      else (memory handler).bind fun object =>
        if function object = nullptr then runHandlers function behaviour handlers calls memory
        else
          let made := calls ++ [⟨handler, function object⟩]
          let (result, after) := behaviour made memory
          if result ≠ errContinueChain then some ⟨result, made, after⟩
          else runHandlers function behaviour handlers made after

end DebugChain

/-! ## The chain and its handler objects -/

structure DebugWorld where
  chain : DebugChain
  memory : HandlerMemory
  /-- The handlers whose registration has succeeded, and those whose registration has failed. -/
  registered : List Pointer
  refused : List Pointer
  /-- The handlers whose destroy function was called. -/
  destroyed : List Pointer
  /-- The handlers that had no destroy function when they left the chain. -/
  released : List Pointer

/-- The arguments of `process_request` and `process_response`. -/
structure ProcessArguments where
  ctx : Pointer
  config : Option DebugConfig
  debugCtx : Pointer

inductive DebugAction where
  | userChanges (memory : HandlerMemory)
  | registerHandler (handler : Pointer)
  | unregisterHandler (name : NameArgument)
  | processRequest (arguments : ProcessArguments) (behaviour : HandlerBehaviour)
  | processResponse (arguments : ProcessArguments) (behaviour : HandlerBehaviour)

namespace DebugWorld

def construct (memory : HandlerMemory) : DebugWorld where
  chain := .construct
  memory := memory
  registered := []
  refused := []
  destroyed := []
  released := []

def registerHandler (world : DebugWorld) (handler : Pointer) : Option (ℤ × DebugWorld) :=
  (world.chain.registerHandler world.memory handler).map fun (result, chain) =>
    (result,
      if result = DebugChain.errSuccess then
        { world with chain := chain, registered := world.registered ++ [handler] }
      else { world with chain := chain, refused := world.refused ++ [handler] })

/-- A handler leaves the chain, and is destroyed if it has a function for it. -/
def letGo (world : DebugWorld) (handler : Pointer) : Option DebugWorld :=
  (world.memory handler).map fun object =>
    if object.destroy ≠ nullptr then
      { world with
        memory := Function.update world.memory handler none
        destroyed := world.destroyed ++ [handler] }
    else { world with released := world.released ++ [handler] }

def unregisterHandler (world : DebugWorld) (name : NameArgument) : Option (ℤ × DebugWorld) :=
  if name = .null then some (DebugChain.errInvalidParam, world)
  else (DebugChain.findIf world.memory name world.chain.handlers).bind fun
    | none => some (DebugChain.errNotFound, world)
    | some handler => (world.letGo handler).map fun after =>
        (DebugChain.errSuccess,
          { after with
            chain := { world.chain with handlers := world.chain.handlers.erase handler } })

def processInternal (sorting : UnstableSort Pointer) (world : DebugWorld)
    (function : DebugHandler → Pointer) (arguments : ProcessArguments)
    (behaviour : HandlerBehaviour) : Option (ℤ × List HandlerCall × DebugWorld) :=
  match arguments.config with
  | none => some (DebugChain.errInvalidParam, [], world)
  | some config =>
      if arguments.ctx = nullptr ∨ arguments.debugCtx = nullptr then
        some (DebugChain.errInvalidParam, [], world)
      else if !config.enabled then some (DebugChain.errNotExecuted, [], world)
      else
        let sorted := if world.chain.sorted then some world.chain
          else world.chain.sortHandlers sorting world.memory
        sorted.bind fun chain =>
          (DebugChain.runHandlers function behaviour chain.handlers [] world.memory).map
            fun outcome => (outcome.result, outcome.calls,
              { world with chain := chain, memory := outcome.memory })

def processRequest (sorting : UnstableSort Pointer) (world : DebugWorld)
    (arguments : ProcessArguments) (behaviour : HandlerBehaviour) :
    Option (ℤ × List HandlerCall × DebugWorld) :=
  world.processInternal sorting DebugHandler.handleRequest arguments behaviour

def processResponse (sorting : UnstableSort Pointer) (world : DebugWorld)
    (arguments : ProcessArguments) (behaviour : HandlerBehaviour) :
    Option (ℤ × List HandlerCall × DebugWorld) :=
  world.processInternal sorting DebugHandler.handleResponse arguments behaviour

/-- The loop of the destructor. -/
def letGoAll : List Pointer → DebugWorld → Option DebugWorld
  | [], world => some world
  | handler :: handlers, world =>
      if handler = nullptr then letGoAll handlers world
      else (world.letGo handler).bind (letGoAll handlers)

def destruct (world : DebugWorld) : Option DebugWorld :=
  (letGoAll world.chain.handlers world).map fun after =>
    { after with chain := { world.chain with handlers := [] } }

def step (sorting : UnstableSort Pointer) (world : DebugWorld) : DebugAction → Option DebugWorld
  | .userChanges memory => some { world with memory := memory }
  | .registerHandler handler => (world.registerHandler handler).map Prod.snd
  | .unregisterHandler name => (world.unregisterHandler name).map Prod.snd
  | .processRequest arguments behaviour =>
      (world.processRequest sorting arguments behaviour).map fun outcome => outcome.2.2
  | .processResponse arguments behaviour =>
      (world.processResponse sorting arguments behaviour).map fun outcome => outcome.2.2

end DebugWorld

end HttpsServerSim
