import HttpsServerSim.DebugChain.DebugChainOwnership

/-!
# Processing does not depend on the history of the chain

Whatever handlers were registered, removed and run before, a processing goes through those that
are in the chain now in the order of priority and name.
-/

namespace HttpsServerSim

namespace DebugChain

variable {behaviour : HandlerBehaviour} {memory : HandlerMemory} {handlers : List Pointer}

/-- The functions of the handlers leave these names and priorities alone. -/
def BehaviourKeeps (handlers : List Pointer) (behaviour : HandlerBehaviour) : Prop :=
  ∀ calls memory, SameKeys handlers memory (behaviour calls memory).2

/-- Handlers in order are given by which they are. -/
theorem order_unique {after : HandlerMemory} {order : List Pointer}
    (ordered : handlers.Pairwise (Precedes memory)) (alsoOrdered : order.Pairwise (Precedes after))
    (same : ∀ handler, handler ∈ handlers ↔ handler ∈ order)
    (keys : SameKeys handlers memory after) : handlers = order := by
  have nodup : ∀ {memory : HandlerMemory} {handlers : List Pointer},
      handlers.Pairwise (Precedes memory) → handlers.Nodup := by
    intro memory handlers ordered
    apply ordered.imp
    rintro a b precedes rfl
    exact not_precedes_self precedes
  have perm := (List.perm_ext_iff_of_nodup (nodup ordered) (nodup alsoOrdered)).mpr same
  have kept : handlers.Pairwise (Precedes after) := by
    apply ordered.imp_of_mem
    intro a b isA isB precedes
    exact precedes.of_keys (keys a isA) (keys b isB)
  apply List.Perm.eq_of_pairwise _ kept alsoOrdered perm
  intro a b _ _ before behind
  exact absurd (before.trans behind) not_precedes_self

end DebugChain

namespace DebugWorld

open DebugChain

/-- The user leaves the names and priorities of the handlers in the chain alone. -/
def KeepsKeys (world : DebugWorld) : DebugAction → Prop
  | .userChanges memory => SameKeys world.chain.handlers world.memory memory
  | .processRequest _ behaviour | .processResponse _ behaviour =>
      BehaviourKeeps world.chain.handlers behaviour
  | _ => True

/-! ## Which handlers are registered -/

/-- The handler can be registered: it has a name that none in the chain has. -/
def Accepts (world : DebugWorld) (handler : Pointer) : Prop :=
  handler ≠ nullptr ∧ Named world.memory handler ∧
    ∀ other ∈ world.chain.handlers, nameOf world.memory other ≠ nameOf world.memory handler

/-- The call leaves the handler registered. -/
def LeavesRegistered (world : DebugWorld) (handler : Pointer) : DebugAction → Prop
  | .registerHandler new =>
      handler ∈ world.chain.handlers ∨ handler = new ∧ world.Accepts new
  | .unregisterHandler name =>
      handler ∈ world.chain.handlers ∧ ¬GoesBy world.memory name handler
  | _ => handler ∈ world.chain.handlers

/-- The call succeeds where there is a handler to register or to unregister. -/
def AnswersRight (world : DebugWorld) : DebugAction → Prop
  | .registerHandler handler => ∀ result next,
      world.registerHandler handler = some (result, next) →
        (result = errSuccess ↔ world.Accepts handler)
  | .unregisterHandler name => ∀ result next,
      world.unregisterHandler name = some (result, next) →
        (result = errSuccess ↔ ∃ handler ∈ world.chain.handlers, GoesBy world.memory name handler)
  | _ => True

/-- The handlers of the chain are those that are registered. -/
def KeepsRegister (sorting : UnstableSort Pointer) (world : DebugWorld) (action : DebugAction) :
    Prop :=
  world.AnswersRight action ∧ ∀ next, step sorting world action = some next →
    ∀ handler, handler ∈ next.chain.handlers ↔ world.LeavesRegistered handler action

/-! ## The order of a processing -/

/-- Every processing that is enabled goes through the handlers in this order. -/
def ProcessesInOrder (sorting : UnstableSort Pointer) (world : DebugWorld)
    (order : List Pointer) : Prop :=
  ∀ function ctx config debugCtx behaviour, ctx ≠ nullptr → debugCtx ≠ nullptr →
    config.enabled = true → BehaviourKeeps world.chain.handlers behaviour →
      ∃ chain outcome, chain.handlers = order ∧ world.processInternal sorting function
          ⟨ctx, some config, debugCtx⟩ behaviour = some (outcome.result, outcome.calls,
            { world with chain := chain, memory := outcome.memory }) ∧
        Executes function behaviour order [] world.memory outcome

variable {sorting : UnstableSort Pointer} {world next : DebugWorld} {action : DebugAction}

/-- A processing that has sorted the chain. -/
theorem tidy_process {chain : DebugChain} {function : DebugHandler → Pointer}
    {behaviour : HandlerBehaviour} {outcome : Outcome} (tidy : Tidy world.memory world.chain)
    (keeps : BehaviourKeeps world.chain.handlers behaviour)
    (sorted : chain = world.chain ∧ chain.sorted = true ∨
      world.chain.sortHandlers sorting world.memory = some chain)
    (ran : runHandlers function behaviour chain.handlers [] world.memory = some outcome) :
    Tidy outcome.memory chain := by
  have kept : SameKeys world.chain.handlers world.memory outcome.memory := by
    apply runHandlers_keeps _ ran
    · intro handler _
      rfl
    · intro calls memory same handler isIn
      exact (keeps calls memory handler isIn).trans (same handler isIn)
  rcases sorted with ⟨rfl, _⟩ | sorted
  · exact tidy.of_keys kept
  · rcases tidy.sortHandlers with ⟨next, alsoSorted, nextTidy, _, perm⟩
    rw [sorted] at alsoSorted
    cases alsoSorted
    apply nextTidy.of_keys
    intro handler isIn
    exact kept handler (perm.mem_iff.mp isIn)

theorem tidy_step (tidy : Tidy world.memory world.chain) (keeps : world.KeepsKeys action)
    (stepped : step sorting world action = some next) : Tidy next.memory next.chain := by
  cases step_transition stepped with
  | nothing | refuses => exact tidy
  | userChanges => exact tidy.of_keys keeps
  | registers notNull isNamed fresh => exact tidy.register notNull isNamed fresh
  | @unregisters _ handler _ isIn letGo =>
      have erased := tidy.erase handler
      rcases letGo_cases letGo with rfl | rfl
      · apply erased.of_keys
        intro other isOther
        have different : other ≠ handler := (tidy.nodup.mem_erase_iff.mp isOther).1
        exact key_update_of_ne different none
      · exact erased
  | processes isProcess sorted ran =>
      rcases isProcess with rfl | rfl
      · exact tidy_process tidy keeps sorted ran
      · exact tidy_process tidy keeps sorted ran

theorem notGoesBy_of_in_vain {name : NameArgument}
    (named : AllNamed world.memory world.chain.handlers)
    (inVain : name = .null ∨ findIf world.memory name world.chain.handlers = some none) :
    ∀ handler ∈ world.chain.handlers, ¬GoesBy world.memory name handler := by
  rcases inVain with rfl | search
  · rintro handler _ ⟨text, read, _⟩
    cases read
  · exact findIf_in_vain named search

/-- A processing keeps the handlers. -/
theorem mem_of_process {arguments : ProcessArguments} {behaviour : HandlerBehaviour}
    (isProcess : action = .processRequest arguments behaviour ∨
      action = .processResponse arguments behaviour)
    (stepped : step sorting world action = some next) (handler : Pointer) :
    handler ∈ next.chain.handlers ↔ handler ∈ world.chain.handlers := by
  cases step_transition stepped with
  | nothing => exact Iff.rfl
  | userChanges | refuses | registers | unregisters =>
      rcases isProcess with isProcess | isProcess
      · cases isProcess
      · cases isProcess
  | processes _ sorted _ =>
      rcases sorted with ⟨rfl, _⟩ | sorted
      · exact Iff.rfl
      · exact (sortHandlers_perm sorted).mem_iff

theorem registerHandler_accepts {handler : Pointer} {result : ℤ} {after : DebugWorld}
    (named : AllNamed world.memory world.chain.handlers)
    (called : world.registerHandler handler = some (result, after)) :
    result = errSuccess ↔ world.Accepts handler := by
  constructor
  · intro succeeded
    rcases registerHandler_cases called with ⟨failed, _⟩ | ⟨_, _, notNull, isNamed, search⟩
    · exact absurd succeeded failed
    · refine ⟨notNull, isNamed, ?_⟩
      intro other isIn same
      rcases hasHandler_spec named isNamed with ⟨found, alsoSearch, spec⟩
      rw [search] at alsoSearch
      cases alsoSearch
      exact Bool.false_ne_true (spec.mpr ⟨other, isIn, same⟩)
  · rintro ⟨notNull, isNamed, fresh⟩
    rcases hasHandler_spec named isNamed with ⟨found, search, spec⟩
    have notFound : found = false := by
      rw [Bool.eq_false_iff]
      intro isFound
      rcases spec.mp isFound with ⟨other, isIn, same⟩
      exact fresh other isIn same
    rcases isNamed with ⟨object, own, present, isNamed⟩
    simp only [DebugWorld.registerHandler, DebugChain.registerHandler, if_neg notNull, present,
      Option.bind_some, isNamed, Option.isNone_some, Bool.false_eq_true, if_false, search, notFound,
      Option.map_some, Option.some.injEq, Prod.mk.injEq] at called
    exact called.1.symm

/-- The names differ, so that the one handler that leaves is all that goes by the name. -/
theorem mem_erase_iff_goesBy {name : NameArgument} {handler other : Pointer}
    (tidy : Tidy world.memory world.chain) (isIn : handler ∈ world.chain.handlers)
    (goesBy : GoesBy world.memory name handler) :
    other ∈ world.chain.handlers.erase handler ↔
      other ∈ world.chain.handlers ∧ ¬GoesBy world.memory name other := by
  rw [tidy.nodup.mem_erase_iff, and_comm]
  apply and_congr_right
  intro isOther
  rcases goesBy with ⟨text, read, same⟩
  apply not_congr
  constructor
  · rintro rfl
    exact ⟨text, read, same⟩
  · rintro ⟨otherText, otherRead, otherSame⟩
    rw [read] at otherRead
    cases otherRead
    exact List.inj_on_of_nodup_map tidy.distinct isOther isIn (otherSame.trans same.symm)

theorem keepsRegister_of_tidy (tidy : Tidy world.memory world.chain) :
    KeepsRegister sorting world action := by
  cases action with
  | userChanges memory =>
      refine ⟨trivial, ?_⟩
      intro next stepped handler
      cases stepped
      exact Iff.rfl
  | registerHandler new =>
      refine ⟨fun result next => registerHandler_accepts tidy.named, ?_⟩
      intro next stepped handler
      rcases Option.map_eq_some_iff.mp stepped with ⟨⟨result, after⟩, called, rfl⟩
      have accepts := registerHandler_accepts tidy.named called
      rcases registerHandler_cases called with ⟨failed, rfl⟩ | ⟨rfl, rfl, _⟩
      · simp [LeavesRegistered, ← accepts, failed]
      · simp [LeavesRegistered, ← accepts]
  | unregisterHandler name =>
      refine ⟨?_, ?_⟩
      · intro result next called
        rcases unregisterHandler_cases called with
          ⟨failed, _, inVain⟩ | ⟨succeeded, handler, isIn, goesBy, _⟩
        · refine iff_of_false failed ?_
          rintro ⟨handler, isIn, goesBy⟩
          exact notGoesBy_of_in_vain tidy.named inVain handler isIn goesBy
        · exact iff_of_true succeeded ⟨handler, isIn, goesBy⟩
      · intro next stepped other
        rcases Option.map_eq_some_iff.mp stepped with ⟨⟨result, after⟩, called, rfl⟩
        rcases unregisterHandler_cases called with
          ⟨_, rfl, inVain⟩ | ⟨_, handler, isIn, goesBy, gone, _, rfl⟩
        · exact (and_iff_left_of_imp
            (notGoesBy_of_in_vain tidy.named inVain other)).symm
        · exact mem_erase_iff_goesBy tidy isIn goesBy
  | processRequest arguments behaviour =>
      refine ⟨trivial, ?_⟩
      intro next stepped handler
      exact mem_of_process (Or.inl rfl) stepped handler
  | processResponse arguments behaviour =>
      refine ⟨trivial, ?_⟩
      intro next stepped handler
      exact mem_of_process (Or.inr rfl) stepped handler

theorem tidy_construct (memory : HandlerMemory) :
    Tidy (construct memory).memory (construct memory).chain :=
  ⟨fun _ isIn => absurd isIn List.not_mem_nil, List.nodup_nil, nofun⟩

/-- In a tidy chain there is one order, which any sort finds. -/
theorem processesInOrder_of_tidy (tidy : Tidy world.memory world.chain)
    (sorting : UnstableSort Pointer) :
    ∃ order, (∀ handler, handler ∈ order ↔ handler ∈ world.chain.handlers) ∧
      order.Pairwise (Precedes world.memory) ∧ world.ProcessesInOrder sorting order := by
  have sorted : ∃ chain, (if world.chain.sorted then some world.chain
      else world.chain.sortHandlers sorting world.memory) = some chain ∧
        chain.handlers.Perm world.chain.handlers ∧
          chain.handlers.Pairwise (Precedes world.memory) := by
    by_cases already : world.chain.sorted = true
    · rw [if_pos already]
      exact ⟨world.chain, rfl, .refl _, tidy.ordered already⟩
    · rw [if_neg already]
      rcases tidy.sortHandlers with ⟨chain, same, chainTidy, flag, perm⟩
      exact ⟨chain, same, perm, chainTidy.ordered flag⟩
  rcases sorted with ⟨chain, same, perm, ordered⟩
  refine ⟨chain.handlers, fun handler => perm.mem_iff, ordered, ?_⟩
  intro function ctx config debugCtx behaviour hasCtx hasDebugCtx enabled keeps
  have within : ∀ memory, AllNamed memory world.chain.handlers → AllNamed memory chain.handlers :=
    fun memory named handler isIn => named handler (perm.mem_iff.mp isIn)
  rcases runHandlers_executes (fun calls memory named => named.of_keys (keeps calls memory)) within
    tidy.named [] with ⟨outcome, ran, executes⟩
  refine ⟨chain, outcome, rfl, ?_, executes⟩
  simp only [processInternal, hasCtx, hasDebugCtx, or_self, if_false, enabled, Bool.not_true,
    Bool.false_eq_true, same, Option.bind_some, ran, Option.map_some]

/-- For every two histories of two chains: every call keeps the register, and a processing goes
through the handlers that are in the chain in the order of priority and name, and as it would go
through the other chain if the same handlers are in that one. -/
theorem historyIndependent {sorting otherSorting : UnstableSort Pointer}
    {memory otherMemory : HandlerMemory} {actions otherActions : List DebugAction}
    {world other : DebugWorld}
    (ran : Interleaving.run (step sorting) (construct memory) actions = some world)
    (keeps : Interleaving.Along (step sorting) KeepsKeys (construct memory) actions)
    (otherRan : Interleaving.run (step otherSorting) (construct otherMemory) otherActions =
      some other)
    (otherKeeps : Interleaving.Along (step otherSorting) KeepsKeys (construct otherMemory)
      otherActions) :
    Interleaving.Along (step sorting) (KeepsRegister sorting) (construct memory) actions ∧
      world.registered.Perm (world.chain.handlers ++ (world.destroyed ++ world.released)) ∧
      (world.chain.handlers.map (nameOf world.memory)).Nodup ∧
      ∃ order, (∀ handler, handler ∈ order ↔ handler ∈ world.chain.handlers) ∧
        order.Pairwise (Precedes world.memory) ∧ world.ProcessesInOrder sorting order ∧
          ((∀ handler, handler ∈ other.chain.handlers ↔ handler ∈ world.chain.handlers) →
            SameKeys world.chain.handlers world.memory other.memory →
              other.ProcessesInOrder otherSorting order) := by
  have tidy := Interleaving.invariant_along tidy_step (tidy_construct memory) keeps ran
  have otherTidy :=
    Interleaving.invariant_along tidy_step (tidy_construct otherMemory) otherKeeps otherRan
  rcases processesInOrder_of_tidy tidy sorting with ⟨order, isIn, ordered, processes⟩
  rcases processesInOrder_of_tidy otherTidy otherSorting with
    ⟨otherOrder, otherIsIn, otherOrdered, otherProcesses⟩
  have register : Interleaving.Along (step sorting) (KeepsRegister sorting) (construct memory)
      actions := by
    refine Interleaving.along_of_invariant ?_ tidy_step (tidy_construct memory) keeps
    intro world action tidy _
    exact keepsRegister_of_tidy tidy
  refine ⟨register, accounted_run ran, tidy.distinct, order, isIn, ordered, processes, ?_⟩
  intro same keys
  have sameOrder : order = otherOrder := by
    apply order_unique ordered otherOrdered
    · intro handler
      rw [isIn, otherIsIn, same]
    · intro handler isHandler
      exact keys handler ((isIn handler).mp isHandler)
  rw [sameOrder]
  exact otherProcesses

/-- Two handlers in one order, and in the other one where the second was removed before. -/
theorem historyIndependent_twoHandlers :
    ∃ world other order, Interleaving.run (step (insertionSort Pointer)) (construct threeHandlers)
        [.registerHandler 1, .registerHandler 2] = some world ∧
      Interleaving.run (step (insertionSort Pointer)) (construct threeHandlers)
        [.registerHandler 2, .unregisterHandler (.text [66]), .registerHandler 2,
          .registerHandler 1] = some other ∧
        world.ProcessesInOrder (insertionSort Pointer) order ∧
          other.ProcessesInOrder (insertionSort Pointer) order := by
  have ran : Interleaving.run (step (insertionSort Pointer)) (construct threeHandlers)
      [.registerHandler 1, .registerHandler 2] =
        some ⟨⟨[1, 2], false⟩, threeHandlers, [1, 2], [], [], []⟩ := rfl
  have otherRan : Interleaving.run (step (insertionSort Pointer)) (construct threeHandlers)
      [.registerHandler 2, .unregisterHandler (.text [66]), .registerHandler 2,
        .registerHandler 1] =
          some ⟨⟨[2, 1], false⟩, threeHandlers, [2, 2, 1], [], [], [2]⟩ := rfl
  have keeps := historyIndependent ran
    ⟨trivial, fun _ _ => ⟨trivial, fun _ _ => trivial⟩⟩ otherRan
    ⟨trivial, fun _ _ => ⟨trivial, fun _ _ => ⟨trivial, fun _ _ => ⟨trivial, fun _ _ => trivial⟩⟩⟩⟩
  rcases keeps with ⟨_, _, _, order, _, _, processes, same⟩
  refine ⟨_, _, order, ran, otherRan, processes, same ?_ fun _ _ => rfl⟩
  intro handler
  simp [or_comm]

end DebugWorld

end HttpsServerSim
