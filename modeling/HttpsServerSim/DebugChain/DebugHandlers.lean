import HttpsServerSim.DebugChain.DebugChainProcessing
import Mathlib.Data.Finset.Basic

/-!
# The default handlers of the debug chain

The four handlers that come with `DebugChain`, with what their functions do to the caller's
`DebugContext` and to the world: sleeping and writing to the log. A processing that goes through a
chain calls the functions of its handlers one after the other on the same context, until one of them
does not return `ERR_CONTINUE_CHAIN` (`executes_runFunctions`).
-/

namespace HttpsServerSim

/-- What the debug chain reads of a `ClientContext`. -/
structure ClientContext where
  connectionId : UInt64
  clientIp : Option Bytes
  clientPort : UInt16
  serverPort : UInt16
deriving DecidableEq

/-- The fields of a `DebugConfig`. -/
structure DebugSettings extends DebugConfig where
  delayMs : UInt32
  forceDisconnect : Bool
  logPacket : Bool
  httpStatus : UInt16

/-- `InitDebugConfig`, and the constructor. -/
def initDebugConfig : DebugSettings where
  enabled := false
  delayMs := 0
  forceDisconnect := false
  logPacket := false
  httpStatus := 200

structure DebugContext where
  overrideHttpStatus : UInt16 := 0
  skipCallback : Bool := false
  disconnectAfter : Bool := false
deriving DecidableEq

/-- What a handler does besides: it sleeps, or gives the logger a message of a module. -/
inductive DebugEffect where
  | sleepFor (ms : UInt32)
  | info (module message : Bytes)
deriving DecidableEq

/-- What a function of a handler leaves behind its pointers, and does besides. -/
structure HandlerReturn where
  result : ℤ
  effects : List DebugEffect
  debugCtx : Option DebugContext
deriving DecidableEq

/-- `handle_request` or `handle_response`, on pointers that may be null. -/
abbrev HandlerFunction :=
  Option ClientContext → Option DebugSettings → Option DebugContext → HandlerReturn

namespace DebugChain

def errStopChain : ℤ := 1

def kLoggerName : Bytes := ascii "DebugChain"

/-! ## The functions of the default handlers -/

def delayCommon (config : Option DebugSettings) : List DebugEffect :=
  match config with
  | none => []
  | some config => if 0 < config.delayMs then [.sleepFor config.delayMs] else []

def delayHandlerHandleRequest : HandlerFunction := fun _ config debugCtx =>
  match config with
  | none => ⟨errContinueChain, [], debugCtx⟩
  | some _ => ⟨errContinueChain, delayCommon config, debugCtx⟩

def delayHandlerHandleResponse : HandlerFunction := fun _ config debugCtx =>
  match config with
  | none => ⟨errContinueChain, [], debugCtx⟩
  | some _ => ⟨errContinueChain, delayCommon config, debugCtx⟩

def disconnectCommon (config : Option DebugSettings) (debugCtx : Option DebugContext) :
    HandlerReturn :=
  match config, debugCtx with
  | some config, some context =>
      if config.forceDisconnect then
        ⟨errStopChain, [], some { context with disconnectAfter := true }⟩
      else ⟨errContinueChain, [], debugCtx⟩
  | _, _ => ⟨errContinueChain, [], debugCtx⟩

def disconnectHandlerHandleRequest : HandlerFunction := fun _ config debugCtx =>
  disconnectCommon config debugCtx

def disconnectHandlerHandleResponse : HandlerFunction := fun _ config debugCtx =>
  disconnectCommon config debugCtx

/-- The message for the log. -/
def logMessage (ctx : ClientContext) (direction : Bytes) : Bytes :=
  ascii "[Debug] " ++ direction ++ ascii ": conn_id=" ++ toDecimal ctx.connectionId.toNat ++
    ascii ", client=" ++ ((ctx.clientIp.map cString).getD (ascii "unknown")) ++ ascii ":" ++
    toDecimal ctx.clientPort.toNat ++ ascii ", server_port=" ++ toDecimal ctx.serverPort.toNat

def logCommon (ctx : Option ClientContext) (direction : Bytes) : List DebugEffect :=
  match ctx with
  | none => []
  | some ctx => [.info kLoggerName (logMessage ctx direction)]

/-- The two functions differ in the direction that they write. -/
def logHandlerHandle (direction : Bytes) : HandlerFunction := fun ctx config debugCtx =>
  match config, ctx with
  | some config, some _ =>
      ⟨errContinueChain, if config.logPacket then logCommon ctx direction else [], debugCtx⟩
  | _, _ => ⟨errContinueChain, [], debugCtx⟩

def logHandlerHandleRequest : HandlerFunction := logHandlerHandle (ascii "Request")

def logHandlerHandleResponse : HandlerFunction := logHandlerHandle (ascii "Response")

def errorcodeHandlerHandleRequest : HandlerFunction := fun _ config debugCtx =>
  match config, debugCtx with
  | some config, some context =>
      ⟨errContinueChain, [], some { context with overrideHttpStatus := config.httpStatus }⟩
  | _, _ => ⟨errContinueChain, [], debugCtx⟩

/-- A status that the request has set is left as it is. -/
def errorcodeHandlerHandleResponse : HandlerFunction := fun _ config debugCtx =>
  match config, debugCtx with
  | some config, some context =>
      ⟨errContinueChain, [],
        if context.overrideHttpStatus = 0 then
          some { context with overrideHttpStatus := config.httpStatus }
        else debugCtx⟩
  | _, _ => ⟨errContinueChain, [], debugCtx⟩

end DebugChain

/-! ## The handler objects -/

inductive DefaultHandler where
  | delay
  | disconnect
  | log
  | errorcode
deriving DecidableEq, Repr

/-- The handlers in the order of their priorities. -/
def DefaultHandler.all : List DefaultHandler := [.delay, .disconnect, .log, .errorcode]

/-- Which of its two functions of a handler the chain calls. -/
inductive Direction where
  | request
  | response
deriving DecidableEq, Repr

open DebugChain in
/-- The functions of the handlers. -/
def DefaultHandler.function : DefaultHandler → Direction → HandlerFunction
  | .delay, .request => delayHandlerHandleRequest
  | .delay, .response => delayHandlerHandleResponse
  | .disconnect, .request => disconnectHandlerHandleRequest
  | .disconnect, .response => disconnectHandlerHandleResponse
  | .log, .request => logHandlerHandleRequest
  | .log, .response => logHandlerHandleResponse
  | .errorcode, .request => errorcodeHandlerHandleRequest
  | .errorcode, .response => errorcodeHandlerHandleResponse

/-- A program: what the function at an address does, and where the functions of the default handlers
are. A destroy function deletes its object. -/
structure DebugProgram where
  code : Pointer → HandlerFunction
  address : DefaultHandler → Direction → Pointer
  destroy : DefaultHandler → Pointer
  address_ne : ∀ kind direction, address kind direction ≠ nullptr
  destroy_ne : ∀ kind, destroy kind ≠ nullptr
  code_address : ∀ kind direction, code (address kind direction) = kind.function direction

namespace DebugProgram

variable (program : DebugProgram)

/-- A handler of this name and priority. -/
def createHandler (kind : DefaultHandler) (name : Bytes) (priority : ℤ) : DebugHandler where
  name := some name
  priority := priority
  handleRequest := program.address kind .request
  handleResponse := program.address kind .response
  destroy := program.destroy kind

def createDelayHandler : DebugHandler :=
  program.createHandler .delay (ascii "DelayHandler") 100

def createDisconnectHandler : DebugHandler :=
  program.createHandler .disconnect (ascii "DisconnectHandler") 200

def createLogHandler : DebugHandler :=
  program.createHandler .log (ascii "LogHandler") 300

def createErrorcodeHandler : DebugHandler :=
  program.createHandler .errorcode (ascii "ErrorCodeHandler") 400

def create : DefaultHandler → DebugHandler
  | .delay => program.createDelayHandler
  | .disconnect => program.createDisconnectHandler
  | .log => program.createLogHandler
  | .errorcode => program.createErrorcodeHandler

/-- The calls of a processing one after the other on the same context: what the last one returned,
and what they have done. -/
def replay (ctx : Option ClientContext) (config : Option DebugSettings)
    (debugCtx : Option DebugContext) (calls : List HandlerCall) : HandlerReturn :=
  calls.foldl (fun before call =>
    let after := program.code call.code ctx config before.debugCtx
    { after with effects := before.effects ++ after.effects })
    ⟨DebugChain.errContinueChain, [], debugCtx⟩

/-- The functions of the handlers return what they are programmed to, and leave the handler objects
alone. -/
def behaviour (ctx : Option ClientContext) (config : Option DebugSettings)
    (debugCtx : Option DebugContext) : HandlerBehaviour := fun calls memory =>
  ((program.replay ctx config debugCtx calls).result, memory)

end DebugProgram

/-! ## What a chain of handlers does -/

/-- Which of the pointers of an object the chain calls. -/
def Direction.pointer : Direction → DebugHandler → Pointer
  | .request => DebugHandler.handleRequest
  | .response => DebugHandler.handleResponse

/-- Functions in turn on one context, up to the first one that does not continue. -/
def runFunctions (ctx : Option ClientContext) (config : Option DebugSettings) :
    List HandlerFunction → HandlerReturn → HandlerReturn
  | [], before => { before with result := DebugChain.errContinueChain }
  | function :: functions, before =>
      let after := function ctx config before.debugCtx
      let after := { after with effects := before.effects ++ after.effects }
      if after.result ≠ DebugChain.errContinueChain then after
      else runFunctions ctx config functions after

namespace DebugProgram

variable (program : DebugProgram) {ctx : Option ClientContext} {config : Option DebugSettings}
  {debugCtx : Option DebugContext}

theorem replay_concat (calls : List HandlerCall) (call : HandlerCall) :
    program.replay ctx config debugCtx (calls ++ [call]) =
      let before := program.replay ctx config debugCtx calls
      let after := program.code call.code ctx config before.debugCtx
      { after with effects := before.effects ++ after.effects } := by
  simp only [replay, List.foldl_append, List.foldl_cons, List.foldl_nil]

@[simp]
theorem pointer_create (kind : DefaultHandler) (direction : Direction) :
    direction.pointer (program.create kind) = program.address kind direction := by
  cases kind <;> cases direction <;> rfl

theorem destroy_create (kind : DefaultHandler) :
    (program.create kind).destroy = program.destroy kind := by
  cases kind <;> rfl

/-- The handler objects are those of default handlers, one after the other. -/
def Holds (memory : HandlerMemory) : List Pointer → List DefaultHandler → Prop :=
  List.Forall₂ fun handler kind => memory handler = some (program.create kind)

/-- A processing of default handlers calls their functions in turn. -/
theorem executes_runFunctions {direction : Direction} {handlers : List Pointer}
    {kinds : List DefaultHandler} {calls : List HandlerCall} {memory : HandlerMemory}
    {outcome : DebugChain.Outcome} (holds : program.Holds memory handlers kinds)
    (executes : DebugChain.Executes direction.pointer (program.behaviour ctx config debugCtx)
      handlers calls memory outcome) :
    outcome.memory = memory ∧
      { program.replay ctx config debugCtx outcome.calls with result := outcome.result } =
        runFunctions ctx config (kinds.map fun kind => kind.function direction)
          (program.replay ctx config debugCtx calls) := by
  induction executes generalizing kinds with
  | finished calls memory =>
      cases holds
      exact ⟨rfl, rfl⟩
  | @skipped handler _ _ _ object _ present null later ih =>
      cases holds with
      | cons isKind rest =>
          rw [isKind, Option.some.injEq] at present
          rw [← present, pointer_create] at null
          exact absurd null (program.address_ne _ _)
  | @continued handler _ calls memory after object _ present code returned later ih =>
      cases holds with
      | @cons _ kind _ kinds isKind rest =>
          rw [isKind, Option.some.injEq] at present
          simp only [behaviour, Prod.mk.injEq] at returned
          rcases returned with ⟨continues, rfl⟩
          rcases ih rest with ⟨memoryEq, runEq⟩
          refine ⟨memoryEq, runEq.trans ?_⟩
          rw [← present, pointer_create, replay_concat, program.code_address] at continues ⊢
          exact (if_neg (not_not.mpr continues)).symm
  | @stopped handler _ calls memory after object result present code returned stops =>
      cases holds with
      | @cons _ kind _ kinds isKind rest =>
          rw [isKind, Option.some.injEq] at present
          simp only [behaviour, Prod.mk.injEq] at returned
          rcases returned with ⟨stopped, rfl⟩
          refine ⟨rfl, ?_⟩
          rw [← present, pointer_create, replay_concat, program.code_address] at stopped ⊢
          simp only at stopped
          subst stopped
          simp only [List.map_cons, runFunctions, stops, ne_eq, not_false_eq_true, if_true]

end DebugProgram

/-! ## What a set of default handlers is for -/

def Direction.word : Direction → Bytes
  | .request => ascii "Request"
  | .response => ascii "Response"

/-- What becomes of a message where these default handlers are: it is delayed, and then either the
connection is to be closed, and nothing else is done, or the message is logged and the status is
overridden, by the response only if the request has not done it. -/
def processDefaults (handlers : Finset DefaultHandler) (direction : Direction) (ctx : ClientContext)
    (config : DebugSettings) (context : DebugContext) : HandlerReturn :=
  let slept :=
    if .delay ∈ handlers ∧ 0 < config.delayMs then [DebugEffect.sleepFor config.delayMs] else []
  if .disconnect ∈ handlers ∧ config.forceDisconnect = true then
    ⟨DebugChain.errStopChain, slept, some { context with disconnectAfter := true }⟩
  else
    let logged :=
      if .log ∈ handlers ∧ config.logPacket = true then
        [DebugEffect.info DebugChain.kLoggerName (DebugChain.logMessage ctx direction.word)]
      else []
    let status :=
      if .errorcode ∈ handlers ∧ (direction = .request ∨ context.overrideHttpStatus = 0) then
        config.httpStatus
      else context.overrideHttpStatus
    ⟨DebugChain.errContinueChain, slept ++ logged,
      some { context with overrideHttpStatus := status }⟩

namespace DefaultHandler

theorem mem_all (kind : DefaultHandler) : kind ∈ all := by
  cases kind <;> decide

/-- The place of a handler in the order of priorities. -/
def rank : DefaultHandler → ℕ
  | .delay => 0
  | .disconnect => 1
  | .log => 2
  | .errorcode => 3

theorem pairwise_all : all.Pairwise fun a b => a.rank < b.rank := by
  decide

/-- The handlers of a set in the order of their priorities. -/
def inOrder (handlers : Finset DefaultHandler) : List DefaultHandler :=
  all.filter fun kind => kind ∈ handlers

/-- Handlers that are in order are determined by which they are. -/
theorem eq_inOrder {handlers : Finset DefaultHandler} {kinds : List DefaultHandler}
    (ordered : kinds.Pairwise fun a b => a.rank < b.rank)
    (same : ∀ kind, kind ∈ kinds ↔ kind ∈ handlers) : kinds = inOrder handlers := by
  have alsoOrdered : (inOrder handlers).Pairwise fun a b => a.rank < b.rank :=
    pairwise_all.sublist List.filter_sublist
  have nodup {kinds : List DefaultHandler}
      (ordered : kinds.Pairwise fun a b => a.rank < b.rank) : kinds.Nodup :=
    ordered.imp fun less same => (Nat.ne_of_lt less) (congrArg rank same)
  have perm : kinds.Perm (inOrder handlers) := by
    rw [List.perm_ext_iff_of_nodup (nodup ordered) (nodup alsoOrdered)]
    intro kind
    simp [same, inOrder, mem_all]
  apply perm.eq_of_pairwise _ ordered alsoOrdered
  intro a b _ _ before behind
  exact absurd (before.trans behind) (lt_irrefl _)

end DefaultHandler

section Processing

open DebugChain

variable (handlers : Finset DefaultHandler) (direction : Direction) (ctx : ClientContext)
  (config : DebugSettings)

/-- The functions of those of these handlers that are in the set. -/
def runKinds (kinds : List DefaultHandler) (before : HandlerReturn) : HandlerReturn :=
  runFunctions (some ctx) (some config)
    ((kinds.filter fun kind => kind ∈ handlers).map fun kind => kind.function direction) before

variable (kinds : List DefaultHandler) (effects : List DebugEffect) (context : DebugContext)

theorem runKinds_of_not_mem {kind : DefaultHandler} (absent : kind ∉ handlers)
    (before : HandlerReturn) :
    runKinds handlers direction ctx config (kind :: kinds) before =
      runKinds handlers direction ctx config kinds before := by
  rw [runKinds, List.filter_cons_of_neg (by simpa using absent)]
  rfl

/-- A handler of the set is called. -/
theorem runKinds_of_mem {kind : DefaultHandler} (isIn : kind ∈ handlers)
    (before : HandlerReturn) :
    runKinds handlers direction ctx config (kind :: kinds) before =
      let after := kind.function direction (some ctx) (some config) before.debugCtx
      let after := { after with effects := before.effects ++ after.effects }
      if after.result ≠ errContinueChain then after
      else runKinds handlers direction ctx config kinds after := by
  rw [runKinds, List.filter_cons_of_pos (by simpa using isIn)]
  rfl

theorem runKinds_delay :
    runKinds handlers direction ctx config (.delay :: kinds)
        ⟨errContinueChain, effects, some context⟩ =
      runKinds handlers direction ctx config kinds
        ⟨errContinueChain,
          effects ++ (if .delay ∈ handlers ∧ 0 < config.delayMs then
            [DebugEffect.sleepFor config.delayMs] else []), some context⟩ := by
  by_cases isIn : .delay ∈ handlers
  · rw [runKinds_of_mem _ _ _ _ _ isIn]
    cases direction <;> simp [DefaultHandler.function, delayHandlerHandleRequest,
      delayHandlerHandleResponse, delayCommon, isIn]
  · rw [runKinds_of_not_mem _ _ _ _ _ isIn]
    simp [isIn]

theorem runKinds_disconnect :
    runKinds handlers direction ctx config (.disconnect :: kinds)
        ⟨errContinueChain, effects, some context⟩ =
      if .disconnect ∈ handlers ∧ config.forceDisconnect = true then
        ⟨errStopChain, effects, some { context with disconnectAfter := true }⟩
      else
        runKinds handlers direction ctx config kinds
          ⟨errContinueChain, effects, some context⟩ := by
  have stops : errStopChain ≠ errContinueChain := by decide
  by_cases isIn : .disconnect ∈ handlers
  · rw [runKinds_of_mem _ _ _ _ _ isIn]
    cases direction <;> cases forced : config.forceDisconnect <;>
      simp [DefaultHandler.function, disconnectHandlerHandleRequest,
        disconnectHandlerHandleResponse, disconnectCommon, isIn, forced, stops]
  · rw [runKinds_of_not_mem _ _ _ _ _ isIn]
    simp [isIn]

theorem runKinds_log :
    runKinds handlers direction ctx config (.log :: kinds)
        ⟨errContinueChain, effects, some context⟩ =
      runKinds handlers direction ctx config kinds
        ⟨errContinueChain,
          effects ++ (if .log ∈ handlers ∧ config.logPacket = true then
            [DebugEffect.info kLoggerName (logMessage ctx direction.word)] else []),
          some context⟩ := by
  by_cases isIn : .log ∈ handlers
  · rw [runKinds_of_mem _ _ _ _ _ isIn]
    cases direction <;> simp [DefaultHandler.function, logHandlerHandleRequest,
      logHandlerHandleResponse, logHandlerHandle, logCommon, Direction.word, isIn]
  · rw [runKinds_of_not_mem _ _ _ _ _ isIn]
    simp [isIn]

theorem runKinds_errorcode :
    runKinds handlers direction ctx config (.errorcode :: kinds)
        ⟨errContinueChain, effects, some context⟩ =
      runKinds handlers direction ctx config kinds
        ⟨errContinueChain, effects,
          some { context with
            overrideHttpStatus :=
              if .errorcode ∈ handlers ∧
                (direction = .request ∨ context.overrideHttpStatus = 0) then config.httpStatus
              else context.overrideHttpStatus }⟩ := by
  by_cases isIn : .errorcode ∈ handlers
  · rw [runKinds_of_mem _ _ _ _ _ isIn]
    cases direction with
    | request => simp [DefaultHandler.function, errorcodeHandlerHandleRequest, isIn]
    | response =>
        by_cases unset : context.overrideHttpStatus = 0 <;>
          simp [DefaultHandler.function, errorcodeHandlerHandleResponse, isIn, unset]
  · rw [runKinds_of_not_mem _ _ _ _ _ isIn]
    simp [isIn]

/-- The functions of a set of default handlers, one after the other. -/
theorem runFunctions_inOrder :
    runFunctions (some ctx) (some config)
        ((DefaultHandler.inOrder handlers).map fun kind => kind.function direction)
        ⟨errContinueChain, [], some context⟩ =
      processDefaults handlers direction ctx config context := by
  change runKinds handlers direction ctx config DefaultHandler.all _ = _
  rw [DefaultHandler.all, runKinds_delay, runKinds_disconnect, runKinds_log, runKinds_errorcode]
  rfl

end Processing

end HttpsServerSim
