import HttpsServerSim.DebugChain.DebugHandlers
import HttpsServerSim.Lib.Transducer
import Mathlib.Data.Finset.Dedup
import Mathlib.Data.Finset.Insert

/-!
# The registry of debug handlers

The C interface of the debug chain with the default handlers. A registry that is given default
handlers, in whatever order and however often, is a set of them: what every call returns, what every
processing does and what it leaves in the context follow from which handlers are in the set, and not
from the addresses of the objects, the order of the registrations, or earlier calls.
-/

namespace HttpsServerSim

open DebugChain

/-- The chain behind a registry, and where the next object will be. -/
structure DebugRegistry where
  world : DebugWorld
  next : Pointer

/-- A call of the interface on a registry; `create` makes the handler that is registered. -/
inductive RegistryCall where
  | register (kind : DefaultHandler)
  | unregister (name : Option Bytes)
  | process (direction : Direction) (ctx : Option ClientContext) (config : Option DebugSettings)
      (debugCtx : Option DebugContext)

/-- What the caller gets. -/
inductive RegistryReply where
  | returned (result : ℤ)
  | processed (done : HandlerReturn)
deriving DecidableEq

namespace DebugRegistry

section Code

variable (sorting : UnstableSort Pointer) (program : DebugProgram)

def debugHandlerRegistryCreateEmpty : DebugRegistry where
  world := .construct fun _ => none
  next := nullptr + 1

/-- `new DebugHandler()` with these fields. -/
def allocate (registry : DebugRegistry) (object : DebugHandler) : DebugRegistry where
  world :=
    { registry.world with
      memory := Function.update registry.world.memory registry.next (some object) }
  next := registry.next + 1

/-- `debug_handler_registry_register` on a registry that is there. -/
def debugHandlerRegistryRegister (world : DebugWorld) (handler : Pointer) :
    Option (ℤ × DebugWorld) :=
  if handler = nullptr then some (errInvalidParam, world)
  else (world.memory handler).bind fun object =>
    if object.name.isNone then some (errInvalidParam, world)
    else if object.handleRequest = nullptr ∧ object.handleResponse = nullptr then
      some (errInvalidParam, world)
    else (world.chain.hasHandler world.memory (.nameOf handler)).bind fun
      | true => some (errAlreadyExists, world)
      | false => world.registerHandler handler

/-- A default handler is made and given to the registry. -/
def register (registry : DebugRegistry) (kind : DefaultHandler) : Option (ℤ × DebugRegistry) :=
  let made := registry.allocate (program.create kind)
  (debugHandlerRegistryRegister made.world registry.next).map fun (result, world) =>
    (result, { made with world := world })

/-- One of the lines of `debug_handler_registry_create`. -/
def registerDefault (registry : DebugRegistry) (kind : DefaultHandler) : Option DebugRegistry :=
  let made := registry.allocate (program.create kind)
  (made.world.registerHandler registry.next).map fun (_, world) => { made with world := world }

def debugHandlerRegistryCreate : Option DebugRegistry :=
  (registerDefault program debugHandlerRegistryCreateEmpty .delay).bind fun registry =>
    (registry.registerDefault program .disconnect).bind fun registry =>
      (registry.registerDefault program .log).bind fun registry =>
        registry.registerDefault program .errorcode

/-- `debug_handler_registry_unregister` on a registry that is there. -/
def debugHandlerRegistryUnregister (registry : DebugRegistry) (name : NameArgument) :
    Option (ℤ × DebugRegistry) :=
  (registry.world.unregisterHandler name).map fun (result, world) =>
    (result, { registry with world := world })

/-- `process_request` and `process_response` on the chain of the registry. -/
def process (registry : DebugRegistry) (direction : Direction) (ctx : Option ClientContext)
    (config : Option DebugSettings) (debugCtx : Option DebugContext) :
    Option (HandlerReturn × DebugRegistry) :=
  let arguments : ProcessArguments :=
    { ctx := if ctx.isSome then 1 else nullptr
      config := config.map DebugSettings.toDebugConfig
      debugCtx := if debugCtx.isSome then 1 else nullptr }
  (registry.world.processInternal sorting direction.pointer arguments
    (program.behaviour ctx config debugCtx)).map fun (result, calls, world) =>
      ({ program.replay ctx config debugCtx calls with result := result },
        { registry with world := world })

def onCall (registry : DebugRegistry) : RegistryCall → Option (RegistryReply × DebugRegistry)
  | .register kind =>
      (registry.register program kind).map fun (result, after) => (.returned result, after)
  | .unregister name =>
      (registry.debugHandlerRegistryUnregister
        (match name with
        | none => .null
        | some text => .text text)).map fun (result, after) => (.returned result, after)
  | .process direction ctx config debugCtx =>
      (registry.process sorting program direction ctx config debugCtx).map fun (done, after) =>
        (.processed done, after)

/-- A registry that is given calls. A call that faults says nothing, and no call after it does. -/
def machine : Transducer (Option DebugRegistry) RegistryCall RegistryReply where
  step registry call :=
    match registry.bind fun registry => registry.onCall sorting program call with
    | none => (none, [])
    | some (reply, after) => (some after, [reply])

end Code

end DebugRegistry

/-! ## The set of handlers that a registry is -/

namespace DefaultHandler

def name : DefaultHandler → Bytes
  | .delay => ascii "DelayHandler"
  | .disconnect => ascii "DisconnectHandler"
  | .log => ascii "LogHandler"
  | .errorcode => ascii "ErrorCodeHandler"

/-- What a call comes to, and the set after it. -/
def onCall (handlers : Finset DefaultHandler) :
    RegistryCall → RegistryReply × Finset DefaultHandler
  | .register kind =>
      if kind ∈ handlers then (.returned errAlreadyExists, handlers)
      else (.returned errSuccess, insert kind handlers)
  | .unregister none => (.returned errInvalidParam, handlers)
  | .unregister (some text) =>
      match all.find? fun kind => kind ∈ handlers ∧ kind.name = cString text with
      | none => (.returned errNotFound, handlers)
      | some kind => (.returned errSuccess, handlers.erase kind)
  | .process direction (some ctx) (some config) (some context) =>
      (.processed
        (if config.enabled then processDefaults handlers direction ctx config context
        else ⟨errNotExecuted, [], some context⟩),
        handlers)
  | .process _ _ _ debugCtx => (.processed ⟨errInvalidParam, [], debugCtx⟩, handlers)

def machine : Transducer (Finset DefaultHandler) RegistryCall RegistryReply where
  step handlers call := ((onCall handlers call).2, [(onCall handlers call).1])

end DefaultHandler

/-! ## The names and the order of the handlers -/

section Objects

variable (program : DebugProgram) {memory : HandlerMemory} {handler : Pointer}
  {kind : DefaultHandler}

theorem name_create (kind : DefaultHandler) : (program.create kind).name = some kind.name := by
  cases kind <;> rfl

theorem isNone_name_create (kind : DefaultHandler) : (program.create kind).name.isNone = false := by
  rw [name_create]
  rfl

theorem cString_name (kind : DefaultHandler) : cString kind.name = kind.name := by
  cases kind <;> decide

theorem name_injective {kind other : DefaultHandler} (same : kind.name = other.name) :
    kind = other := by
  revert same
  cases kind <;> cases other <;> decide

theorem create_injective {kind other : DefaultHandler}
    (same : program.create kind = program.create other) : kind = other := by
  have names := congrArg DebugHandler.name same
  rw [name_create, name_create, Option.some.injEq] at names
  exact name_injective names

theorem nameOf_create (isKind : memory handler = some (program.create kind)) :
    nameOf memory handler = some kind.name := by
  rw [nameOf_eq_some isKind (name_create program kind), cString_name]

theorem named_create (isKind : memory handler = some (program.create kind)) :
    Named memory handler :=
  ⟨_, _, isKind, name_create program kind⟩

theorem rank_lt_of_precedes {other : Pointer} {otherKind : DefaultHandler}
    (isKind : memory handler = some (program.create kind))
    (isOther : memory other = some (program.create otherKind))
    (precedes : Precedes memory handler other) : kind.rank < otherKind.rank := by
  rcases precedes with ⟨priority, name, otherPriority, otherName, isKey, isOtherKey, before⟩
  rw [key, isKind, Option.map_some, Option.some.injEq, Prod.mk.injEq] at isKey
  rw [key, isOther, Option.map_some, Option.some.injEq, Prod.mk.injEq] at isOtherKey
  rcases isKey with ⟨rfl, rfl⟩
  rcases isOtherKey with ⟨rfl, rfl⟩
  rcases before with less | ⟨same, text, otherText, isText, isOtherText, inOrder⟩
  · revert less
    cases kind <;> cases otherKind <;> simp [DebugProgram.create, DebugProgram.createDelayHandler,
      DebugProgram.createDisconnectHandler, DebugProgram.createLogHandler,
      DebugProgram.createErrorcodeHandler, DebugProgram.createHandler, DefaultHandler.rank]
  · have sameKind : kind = otherKind := by
      revert same
      cases kind <;> cases otherKind <;> simp [DebugProgram.create,
        DebugProgram.createDelayHandler, DebugProgram.createDisconnectHandler,
        DebugProgram.createLogHandler, DebugProgram.createErrorcodeHandler,
        DebugProgram.createHandler]
    subst sameKind
    rw [isText] at isOtherText
    cases isOtherText
    rw [strcmp_self] at inOrder
    cases inOrder

/-- Handlers in order, and what kinds they are. -/
theorem exists_kinds {order : List Pointer}
    (each : ∀ handler ∈ order, ∃ kind, memory handler = some (program.create kind))
    (ordered : order.Pairwise (Precedes memory)) :
    ∃ kinds, program.Holds memory order kinds ∧
      (kinds.Pairwise fun a b => a.rank < b.rank) ∧
        ∀ kind, kind ∈ kinds ↔ ∃ handler ∈ order, memory handler = some (program.create kind) := by
  induction order with
  | nil => exact ⟨[], .nil, .nil, by simp⟩
  | cons handler order ih =>
      rcases List.pairwise_cons.mp ordered with ⟨first, rest⟩
      rcases ih (fun other isIn => each other (List.mem_cons_of_mem _ isIn)) rest with
        ⟨kinds, holds, pairwise, mem_kinds⟩
      rcases each handler List.mem_cons_self with ⟨kind, isKind⟩
      refine ⟨kind :: kinds, .cons isKind holds, ?_, ?_⟩
      · refine List.pairwise_cons.mpr ⟨?_, pairwise⟩
        intro other isOther
        rcases (mem_kinds other).mp isOther with ⟨pointer, isIn, isObject⟩
        exact rank_lt_of_precedes program isKind isObject (first pointer isIn)
      · intro other
        rw [List.mem_cons, mem_kinds]
        constructor
        · rintro (rfl | ⟨pointer, isIn, isObject⟩)
          · exact ⟨handler, List.mem_cons_self, isKind⟩
          · exact ⟨pointer, List.mem_cons_of_mem _ isIn, isObject⟩
        · rintro ⟨pointer, isIn, isObject⟩
          rcases List.mem_cons.mp isIn with rfl | later
          · rw [isKind, Option.some.injEq] at isObject
            exact Or.inl (create_injective program isObject).symm
          · exact Or.inr ⟨pointer, later, isObject⟩

end Objects

namespace DebugRegistry

/-- The handlers in the chain are one of each kind in the set. -/
structure Represents (program : DebugProgram) (registry : DebugRegistry)
    (handlers : Finset DefaultHandler) : Prop where
  tidy : Tidy registry.world.memory registry.world.chain
  kinds : ∀ handler ∈ registry.world.chain.handlers, ∃ kind ∈ handlers,
    registry.world.memory handler = some (program.create kind)
  each : ∀ kind ∈ handlers, ∃ handler ∈ registry.world.chain.handlers,
    registry.world.memory handler = some (program.create kind)
  below : ∀ handler ∈ registry.world.chain.handlers, handler < registry.next
  next_ne : registry.next ≠ nullptr

variable {program : DebugProgram} {registry : DebugRegistry} {handlers : Finset DefaultHandler}
  {sorting : UnstableSort Pointer}

@[simp]
theorem memory_allocate_next (registry : DebugRegistry) (object : DebugHandler) :
    (registry.allocate object).world.memory registry.next = some object :=
  Function.update_self _ _ _

theorem represents_createEmpty (program : DebugProgram) :
    Represents program debugHandlerRegistryCreateEmpty ∅ := by
  refine ⟨DebugWorld.tidy_construct _, ?_, ?_, ?_, Nat.succ_ne_zero _⟩
  · exact fun _ isIn => absurd isIn List.not_mem_nil
  · exact fun _ isIn => absurd isIn (Finset.notMem_empty _)
  · exact fun _ isIn => absurd isIn List.not_mem_nil

section Registering

variable (represents : Represents program registry handlers)
include represents

/-- A new object leaves the others as they are. -/
theorem Represents.memory_allocate (object : DebugHandler) {handler : Pointer}
    (isIn : handler ∈ registry.world.chain.handlers) :
    (registry.allocate object).world.memory handler = registry.world.memory handler :=
  Function.update_of_ne (Nat.ne_of_lt (represents.below handler isIn)) _ _

theorem Represents.allocate (object : DebugHandler) :
    Represents program (registry.allocate object) handlers := by
  refine ⟨?_, ?_, ?_, ?_, Nat.succ_ne_zero _⟩
  · apply represents.tidy.of_keys
    intro handler isIn
    rw [key, key, represents.memory_allocate object isIn]
  · intro handler isIn
    rw [represents.memory_allocate object isIn]
    exact represents.kinds handler isIn
  · intro kind isKind
    rcases represents.each kind isKind with ⟨handler, isIn, isObject⟩
    exact ⟨handler, isIn, (represents.memory_allocate object isIn).trans isObject⟩
  · intro handler isIn
    exact (represents.below handler isIn).trans (Nat.lt_succ_self _)

theorem Represents.hasHandler_allocate (kind : DefaultHandler) :
    registry.world.chain.hasHandler (registry.allocate (program.create kind)).world.memory
      (.nameOf registry.next) = some (decide (kind ∈ handlers)) := by
  have made := represents.allocate (program.create kind)
  have own := registry.memory_allocate_next (program.create kind)
  rcases hasHandler_spec made.tidy.named (named_create program own) with ⟨found, search, spec⟩
  have taken : found = true ↔ kind ∈ handlers := by
    rw [spec, nameOf_create program own]
    constructor
    · rintro ⟨other, isIn, sameName⟩
      rcases made.kinds other isIn with ⟨otherKind, isKind, isObject⟩
      rw [nameOf_create program isObject, Option.some.injEq] at sameName
      exact name_injective sameName ▸ isKind
    · intro isKind
      rcases made.each kind isKind with ⟨other, isIn, isObject⟩
      exact ⟨other, isIn, nameOf_create program isObject⟩
  refine search.trans ?_
  rw [Option.some.injEq, Bool.eq_iff_iff, taken, decide_eq_true_iff]

/-- A handler of a new kind is accepted, and stands behind the others. -/
theorem Represents.registerHandler {kind : DefaultHandler} (absent : kind ∉ handlers) :
    ∃ world, (registry.allocate (program.create kind)).world.registerHandler registry.next =
        some (errSuccess, world) ∧
      Represents program ⟨world, registry.next + 1⟩ (insert kind handlers) := by
  have made := represents.allocate (program.create kind)
  have own := registry.memory_allocate_next (program.create kind)
  have search := represents.hasHandler_allocate kind
  rw [decide_eq_false absent] at search
  have named := isNone_name_create program kind
  have registered : (registry.allocate (program.create kind)).world.chain.registerHandler
      (registry.allocate (program.create kind)).world.memory registry.next =
        some (errSuccess, ⟨registry.world.chain.handlers ++ [registry.next], false⟩) := by
    have found : (registry.allocate (program.create kind)).world.chain.hasHandler
        (registry.allocate (program.create kind)).world.memory (.nameOf registry.next) =
          some false := search
    simp only [DebugChain.registerHandler, represents.next_ne, if_false, own, Option.bind_some,
      named, Bool.false_eq_true, found, Option.map_some]
    rfl
  let world : DebugWorld :=
    { (registry.allocate (program.create kind)).world with
      chain := ⟨registry.world.chain.handlers ++ [registry.next], false⟩
      registered := registry.world.registered ++ [registry.next] }
  refine ⟨world, ?_, ?_⟩
  · rw [DebugWorld.registerHandler, registered]
    rfl
  · refine ⟨made.tidy.register represents.next_ne (named_create program own) search, ?_, ?_, ?_,
      Nat.succ_ne_zero _⟩
    · intro handler isIn
      rcases List.mem_append.mp isIn with older | new
      · rcases made.kinds handler older with ⟨other, isKind, isObject⟩
        exact ⟨other, Finset.mem_insert_of_mem isKind, isObject⟩
      · rw [List.mem_singleton.mp new]
        exact ⟨kind, Finset.mem_insert_self _ _, own⟩
    · intro other isKind
      rcases Finset.mem_insert.mp isKind with rfl | older
      · exact ⟨registry.next, List.mem_append_right _ List.mem_cons_self, own⟩
      · rcases made.each other older with ⟨handler, isIn, isObject⟩
        exact ⟨handler, List.mem_append_left _ isIn, isObject⟩
    · intro handler isIn
      rcases List.mem_append.mp isIn with older | new
      · exact made.below handler older
      · rw [List.mem_singleton.mp new]
        exact Nat.lt_succ_self _

/-- To register is to put into the set, unless it is there. -/
theorem Represents.register (kind : DefaultHandler) :
    ∃ after, registry.register program kind =
        some (if kind ∈ handlers then errAlreadyExists else errSuccess, after) ∧
      Represents program after (if kind ∈ handlers then handlers else insert kind handlers) := by
  have own := registry.memory_allocate_next (program.create kind)
  have named := isNone_name_create program kind
  have hasCode : ¬ ((program.create kind).handleRequest = nullptr ∧
      (program.create kind).handleResponse = nullptr) := by
    have isAddress := program.pointer_create kind .request
    rintro ⟨null, _⟩
    exact program.address_ne kind .request (isAddress.symm.trans null)
  have search : (registry.allocate (program.create kind)).world.chain.hasHandler
      (registry.allocate (program.create kind)).world.memory (.nameOf registry.next) =
        some (decide (kind ∈ handlers)) :=
    represents.hasHandler_allocate kind
  have called : debugHandlerRegistryRegister (registry.allocate (program.create kind)).world
      registry.next =
        if kind ∈ handlers then
          some (errAlreadyExists, (registry.allocate (program.create kind)).world)
        else (registry.allocate (program.create kind)).world.registerHandler registry.next := by
    simp only [debugHandlerRegistryRegister, represents.next_ne, if_false, own, Option.bind_some,
      named, Bool.false_eq_true, hasCode, search]
    by_cases isIn : kind ∈ handlers
    · simp only [isIn, decide_true, if_true]
    · simp only [isIn, decide_false, if_false]
  by_cases isIn : kind ∈ handlers
  · rw [if_pos isIn] at called
    simp only [isIn, if_true]
    refine ⟨registry.allocate (program.create kind), ?_, represents.allocate _⟩
    rw [DebugRegistry.register, called]
    rfl
  · rw [if_neg isIn] at called
    simp only [isIn, if_false]
    rcases represents.registerHandler isIn with ⟨world, registered, after⟩
    refine ⟨_, ?_, after⟩
    rw [DebugRegistry.register, called, registered]
    rfl

/-- The handlers of a set are registered, one after the other. -/
theorem Represents.registerDefault {kind : DefaultHandler} (absent : kind ∉ handlers) :
    ∃ after, registry.registerDefault program kind = some after ∧
      Represents program after (insert kind handlers) := by
  rcases represents.registerHandler absent with ⟨world, registered, after⟩
  refine ⟨_, ?_, after⟩
  rw [DebugRegistry.registerDefault, registered]
  rfl

end Registering

theorem represents_create (program : DebugProgram) :
    ∃ registry, debugHandlerRegistryCreate program = some registry ∧
      Represents program registry DefaultHandler.all.toFinset := by
  rcases (represents_createEmpty program).registerDefault (Finset.notMem_empty .delay) with
    ⟨first, made, represents⟩
  rcases represents.registerDefault (show DefaultHandler.disconnect ∉ _ by decide) with
    ⟨second, alsoMade, represents⟩
  rcases represents.registerDefault (show DefaultHandler.log ∉ _ by decide) with
    ⟨third, thirdMade, represents⟩
  rcases represents.registerDefault (show DefaultHandler.errorcode ∉ _ by decide) with
    ⟨registry, lastMade, represents⟩
  refine ⟨registry, ?_, ?_⟩
  · rw [debugHandlerRegistryCreate, made, Option.bind_some, alsoMade, Option.bind_some, thirdMade,
      Option.bind_some, lastMade]
  · have all : insert DefaultHandler.errorcode (insert DefaultHandler.log
        (insert DefaultHandler.disconnect (insert DefaultHandler.delay ∅))) =
          DefaultHandler.all.toFinset := by
      decide
    rwa [all] at represents

theorem tidy_of_processInternal {world next : DebugWorld} {function : DebugHandler → Pointer}
    {arguments : ProcessArguments} {behaviour : HandlerBehaviour} {result : ℤ}
    {calls : List HandlerCall} (tidy : Tidy world.memory world.chain)
    (keeps : BehaviourKeeps world.chain.handlers behaviour)
    (called : world.processInternal sorting function arguments behaviour =
      some (result, calls, next)) : Tidy next.memory next.chain := by
  rcases DebugWorld.processInternal_cases called with rfl | ⟨_, _, sorted, ran, rfl⟩
  · exact tidy
  · exact DebugWorld.tidy_process tidy keeps sorted ran

section Calling

variable (represents : Represents program registry handlers)
include represents

/-- A handler leaves the chain, and with it its kind the set. -/
theorem Represents.erase {handler : Pointer} {kind : DefaultHandler}
    (isIn : handler ∈ registry.world.chain.handlers)
    (isObject : registry.world.memory handler = some (program.create kind))
    (destroyed : List Pointer) :
    Represents program
      { registry with
        world :=
          { registry.world with
            memory := Function.update registry.world.memory handler none
            destroyed := destroyed
            chain :=
              { registry.world.chain with
                handlers := registry.world.chain.handlers.erase handler } } }
      (handlers.erase kind) := by
  have others {other : Pointer} (isOther : other ∈ registry.world.chain.handlers.erase handler) :
      other ≠ handler ∧ other ∈ registry.world.chain.handlers :=
    represents.tidy.nodup.mem_erase_iff.mp isOther
  refine ⟨?_, ?_, ?_, ?_, represents.next_ne⟩
  · apply (represents.tidy.erase handler).of_keys
    intro other isOther
    exact key_update_of_ne (others isOther).1 none
  · intro other isOther
    rcases others isOther with ⟨different, isThere⟩
    rcases represents.kinds other isThere with ⟨otherKind, isKind, isOtherObject⟩
    refine ⟨otherKind, Finset.mem_erase.mpr ⟨?_, isKind⟩, ?_⟩
    · rintro rfl
      apply different
      apply List.inj_on_of_nodup_map represents.tidy.distinct isThere isIn
      rw [nameOf_create program isOtherObject, nameOf_create program isObject]
    · exact (Function.update_of_ne different _ _).trans isOtherObject
  · intro otherKind isOther
    rcases Finset.mem_erase.mp isOther with ⟨differentKind, isKind⟩
    rcases represents.each otherKind isKind with ⟨other, isThere, isOtherObject⟩
    have different : other ≠ handler := by
      rintro rfl
      apply differentKind
      apply name_injective
      have same := nameOf_create program isOtherObject
      rw [nameOf_create program isObject, Option.some.injEq] at same
      exact same.symm
    exact ⟨other, represents.tidy.nodup.mem_erase_iff.mpr ⟨different, isThere⟩,
      (Function.update_of_ne different _ _).trans isOtherObject⟩
  · intro other isOther
    exact represents.below other (others isOther).2

/-- No handler of this name is in the chain, and none in the set. -/
theorem Represents.find_none {text : Bytes}
    (absent : registry.world.chain.handlers.find? (fun handler =>
      nameOf registry.world.memory handler = some (cString text)) = none) :
    DefaultHandler.all.find? (fun kind => kind ∈ handlers ∧ kind.name = cString text) = none := by
  rw [List.find?_eq_none] at absent ⊢
  intro kind _ both
  rcases of_decide_eq_true both with ⟨isKind, sameName⟩
  rcases represents.each kind isKind with ⟨handler, isIn, isObject⟩
  apply absent handler isIn
  rw [decide_eq_true_iff, nameOf_create program isObject, sameName]

/-- The handler of this name is the one of its kind. -/
theorem Represents.find_some {text : Bytes} {handler : Pointer}
    (found : registry.world.chain.handlers.find? (fun handler =>
      nameOf registry.world.memory handler = some (cString text)) = some handler) :
    handler ∈ registry.world.chain.handlers ∧ ∃ kind,
      registry.world.memory handler = some (program.create kind) ∧
      DefaultHandler.all.find? (fun kind => kind ∈ handlers ∧ kind.name = cString text) =
        some kind := by
  have isIn := List.mem_of_find?_eq_some found
  have isNamed : nameOf registry.world.memory handler = some (cString text) := by
    simpa using List.find?_some found
  rcases represents.kinds handler isIn with ⟨kind, isKind, isObject⟩
  rw [nameOf_create program isObject, Option.some.injEq] at isNamed
  refine ⟨isIn, kind, isObject, ?_⟩
  cases search : DefaultHandler.all.find?
      (fun kind => kind ∈ handlers ∧ kind.name = cString text) with
  | none =>
      rw [List.find?_eq_none] at search
      exact absurd (decide_eq_true ⟨isKind, isNamed⟩) (search kind kind.mem_all)
  | some other =>
      have isOther : other ∈ handlers ∧ other.name = cString text := by
        simpa using List.find?_some search
      have otherNamed := isOther.2
      rw [name_injective (otherNamed.trans isNamed.symm)]

/-- To unregister is to take out of the set. -/
theorem Represents.unregister (name : Option Bytes) :
    ∃ after,
      registry.onCall sorting program (.unregister name) =
        some ((DefaultHandler.onCall handlers (.unregister name)).1, after) ∧
      Represents program after (DefaultHandler.onCall handlers (.unregister name)).2 := by
  cases name with
  | none => exact ⟨registry, rfl, represents⟩
  | some text =>
      have search := findIf_eq represents.tidy.named
        (show (NameArgument.text text).read registry.world.memory = some text from rfl)
      have notNull : NameArgument.text text ≠ .null := nofun
      cases found : registry.world.chain.handlers.find? (fun handler =>
          nameOf registry.world.memory handler = some (cString text)) with
      | none =>
          rw [found] at search
          have absent := represents.find_none found
          simp only [onCall, debugHandlerRegistryUnregister, DebugWorld.unregisterHandler, notNull,
            if_false, search, Option.bind_some, Option.map_some, DefaultHandler.onCall, absent]
          exact ⟨_, rfl, represents⟩
      | some handler =>
          rw [found] at search
          rcases represents.find_some found with ⟨isIn, kind, isObject, isFound⟩
          have hasDestroy : (program.create kind).destroy ≠ nullptr := by
            rw [program.destroy_create]
            exact program.destroy_ne kind
          simp only [onCall, debugHandlerRegistryUnregister, DebugWorld.unregisterHandler, notNull,
            if_false, search, Option.bind_some, DebugWorld.letGo, isObject, Option.map_some,
            hasDestroy, ne_eq, not_false_eq_true, if_true, DefaultHandler.onCall, isFound]
          exact ⟨_, rfl, represents.erase isIn isObject _⟩

/-- A processing that is enabled is that of the set. -/
theorem Represents.process_enabled (sorting : UnstableSort Pointer) (direction : Direction)
    (ctx : ClientContext) (config : DebugSettings) (context : DebugContext)
    (enabled : config.enabled = true) :
    ∃ after,
      registry.process sorting program direction (some ctx) (some config) (some context) =
        some (processDefaults handlers direction ctx config context, after) ∧
      Represents program after handlers := by
  rcases DebugWorld.processesInOrder_of_tidy represents.tidy sorting with
    ⟨order, isIn, ordered, processes⟩
  have keeps : BehaviourKeeps registry.world.chain.handlers
      (program.behaviour (some ctx) (some config) (some context)) := fun _ _ _ _ => rfl
  rcases processes direction.pointer 1 config.toDebugConfig 1 _ Nat.one_ne_zero Nat.one_ne_zero
    enabled keeps with ⟨chain, outcome, rfl, called, executes⟩
  have each : ∀ handler ∈ chain.handlers, ∃ kind,
      registry.world.memory handler = some (program.create kind) := by
    intro handler isHandler
    rcases represents.kinds handler ((isIn handler).mp isHandler) with ⟨kind, _, isObject⟩
    exact ⟨kind, isObject⟩
  rcases exists_kinds program each ordered with ⟨kinds, holds, pairwise, mem_kinds⟩
  rcases program.executes_runFunctions holds executes with ⟨memoryEq, runEq⟩
  have kindsEq : kinds = DefaultHandler.inOrder handlers := by
    apply DefaultHandler.eq_inOrder pairwise
    intro kind
    rw [mem_kinds]
    constructor
    · rintro ⟨handler, isHandler, isObject⟩
      rcases represents.kinds handler ((isIn handler).mp isHandler) with ⟨other, isKind, isOther⟩
      rw [isObject, Option.some.injEq] at isOther
      exact create_injective program isOther ▸ isKind
    · intro isKind
      rcases represents.each kind isKind with ⟨handler, isHandler, isObject⟩
      exact ⟨handler, (isIn handler).mpr isHandler, isObject⟩
  let next : DebugWorld := { registry.world with chain := chain, memory := outcome.memory }
  have tidy : Tidy next.memory next.chain := tidy_of_processInternal represents.tidy keeps called
  refine ⟨{ registry with world := next }, ?_, tidy, ?_, ?_, ?_, represents.next_ne⟩
  · rw [kindsEq] at runEq
    have done := runEq.trans (runFunctions_inOrder handlers direction ctx config context)
    rw [← done]
    exact congrArg (Option.map _) called
  · intro handler isHandler
    rw [show next.memory = registry.world.memory from memoryEq]
    exact represents.kinds handler ((isIn handler).mp isHandler)
  · intro kind isKind
    rw [show next.memory = registry.world.memory from memoryEq]
    rcases represents.each kind isKind with ⟨handler, isHandler, isObject⟩
    exact ⟨handler, (isIn handler).mpr isHandler, isObject⟩
  · intro handler isHandler
    exact represents.below handler ((isIn handler).mp isHandler)

/-- A processing is that of the set, and changes nothing if it is not carried out. -/
theorem Represents.process (direction : Direction) (ctx : Option ClientContext)
    (config : Option DebugSettings) (debugCtx : Option DebugContext) :
    ∃ after,
      registry.onCall sorting program (.process direction ctx config debugCtx) =
        some ((DefaultHandler.onCall handlers (.process direction ctx config debugCtx)).1, after) ∧
      Represents program after
        (DefaultHandler.onCall handlers (.process direction ctx config debugCtx)).2 := by
  match ctx, config, debugCtx with
  | some ctx, some config, some context =>
      by_cases enabled : config.enabled = true
      · rcases represents.process_enabled sorting direction ctx config context enabled with
          ⟨after, called, later⟩
        refine ⟨after, ?_, later⟩
        simp only [onCall, called, Option.map_some, DefaultHandler.onCall, enabled, if_true]
      · refine ⟨registry, ?_, represents⟩
        simp only [onCall, DebugRegistry.process, DebugWorld.processInternal, Option.map_some,
          Option.isSome_some, if_true, Bool.not_eq_true] at enabled ⊢
        simp only [enabled, nullptr, Nat.one_ne_zero, or_self, if_false, Bool.not_false, if_true,
          Option.map_some, DefaultHandler.onCall, Bool.false_eq_true]
        rfl
  | none, none, _ => exact ⟨registry, rfl, represents⟩
  | none, some _, _ => exact ⟨registry, rfl, represents⟩
  | some _, none, _ => exact ⟨registry, rfl, represents⟩
  | some _, some _, none => exact ⟨registry, rfl, represents⟩

end Calling

/-- Call for call, a registry says what the set of its handlers says. -/
theorem simulates (sorting : UnstableSort Pointer) (program : DebugProgram) :
    (machine sorting program).Simulates DefaultHandler.machine (fun _ _ => True)
      fun registry handlers => ∃ there, registry = some there ∧
        Represents program there handlers := by
  rintro _ handlers call ⟨registry, rfl, represents⟩ _
  have answered : ∃ after,
      registry.onCall sorting program call =
        some ((DefaultHandler.onCall handlers call).1, after) ∧
      Represents program after (DefaultHandler.onCall handlers call).2 := by
    cases call with
    | register kind =>
        rcases represents.register kind with ⟨after, called, later⟩
        refine ⟨after, ?_, ?_⟩
        · simp only [onCall, called, Option.map_some, DefaultHandler.onCall]
          split_ifs <;> rfl
        · simp only [DefaultHandler.onCall]
          split_ifs at later ⊢ <;> exact later
    | unregister name => exact represents.unregister name
    | process direction ctx config debugCtx =>
        exact represents.process direction ctx config debugCtx
  rcases answered with ⟨after, called, later⟩
  simp only [machine, Option.bind_some, called, DefaultHandler.machine]
  exact ⟨trivial, after, rfl, later⟩

/-- Whatever calls a registry is given after `debug_handler_registry_create`: no call touches an
object that is not there, and the calls say what they say of a set of handlers that has all four of
them at first. -/
theorem registry_refines (sorting : UnstableSort Pointer) (program : DebugProgram)
    (calls : List RegistryCall) :
    ((machine sorting program).run (debugHandlerRegistryCreate program) calls).2 =
        (DefaultHandler.machine.run DefaultHandler.all.toFinset calls).2 ∧
      ((machine sorting program).run (some debugHandlerRegistryCreateEmpty) calls).2 =
        (DefaultHandler.machine.run ∅ calls).2 := by
  have meets (handlers : Finset DefaultHandler) :=
    DefaultHandler.machine.meets_of_forall (fun _ _ => trivial) handlers calls
  rcases represents_create program with ⟨registry, created, represents⟩
  constructor
  · exact ((simulates sorting program).run_eq ⟨registry, created, represents⟩ (meets _)).1
  · exact ((simulates sorting program).run_eq ⟨_, rfl, represents_createEmpty program⟩
      (meets _)).1

/-! ## A program -/

/-- The functions of the default handlers one after the other. -/
def functionTable : List HandlerFunction :=
  DefaultHandler.all.flatMap fun kind => [kind.function .request, kind.function .response]

/-- What is at an address, if the table is from address 1 on. -/
def codeAt (pointer : Pointer) : HandlerFunction :=
  functionTable.getD (pointer - 1) fun _ _ debugCtx => ⟨errContinueChain, [], debugCtx⟩

def functionAddress (kind : DefaultHandler) : Direction → Pointer
  | .request => 2 * kind.rank + 1
  | .response => 2 * kind.rank + 2

/-- The destroy functions are behind the table. -/
def destroyAddress (kind : DefaultHandler) : Pointer := kind.rank + 9

theorem functionAddress_ne (kind : DefaultHandler) (direction : Direction) :
    functionAddress kind direction ≠ nullptr := by
  cases direction <;> exact Nat.succ_ne_zero _

theorem destroyAddress_ne (kind : DefaultHandler) : destroyAddress kind ≠ nullptr :=
  Nat.succ_ne_zero _

theorem codeAt_functionAddress (kind : DefaultHandler) (direction : Direction) :
    codeAt (functionAddress kind direction) = kind.function direction := by
  cases kind <;> cases direction <;> rfl

def tableProgram : DebugProgram where
  code := codeAt
  address := functionAddress
  destroy := destroyAddress
  address_ne := functionAddress_ne
  destroy_ne := destroyAddress_ne
  code_address := codeAt_functionAddress

/-- A request is to be answered with status 503, and its connection to be closed. -/
def closing : DebugSettings :=
  { initDebugConfig with enabled := true, forceDisconnect := true, httpStatus := 503 }

/-- The handlers are registered against the order of their priorities, one of them twice. -/
def disconnectFirst : List RegistryCall :=
  [.register .errorcode, .register .disconnect, .register .errorcode,
    .process .request (some ⟨7, none, 4433, 443⟩) (some closing) (some {}),
    .unregister (some (ascii "DisconnectHandler")),
    .process .request (some ⟨7, none, 4433, 443⟩) (some closing) (some {})]

/-- As long as the handler that disconnects is there, the status is not overridden. -/
theorem registry_refines_disconnectFirst :
    ((machine (insertionSort Pointer) tableProgram).run (some debugHandlerRegistryCreateEmpty)
        disconnectFirst).2 =
      [.returned errSuccess, .returned errSuccess, .returned errAlreadyExists,
        .processed ⟨errStopChain, [], some { disconnectAfter := true }⟩, .returned errSuccess,
        .processed ⟨errContinueChain, [], some { overrideHttpStatus := 503 }⟩] :=
  (registry_refines (insertionSort Pointer) tableProgram disconnectFirst).2.trans
    (by decide +kernel)

end DebugRegistry

end HttpsServerSim
