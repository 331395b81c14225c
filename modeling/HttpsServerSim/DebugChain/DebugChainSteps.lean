import HttpsServerSim.DebugChain.DebugChain

/-!
# What each call of a debug chain does

The ways out of each call, whatever the handlers are. A search does not fault where the handlers
of the chain can be read; it finds the first one of the name.
-/

namespace HttpsServerSim

namespace DebugChain

/-- The name of a handler, as `strcmp` sees it. -/
def nameOf (memory : HandlerMemory) (handler : Pointer) : Option Bytes :=
  ((memory handler).bind DebugHandler.name).map cString

variable {memory : HandlerMemory} {handlers : List Pointer} {handler : Pointer}
  {name : NameArgument} {text : Bytes} {chain : DebugChain}

theorem nameOf_eq_some {object : DebugHandler} {own : Bytes}
    (present : memory handler = some object) (named : object.name = some own) :
    nameOf memory handler = some (cString own) := by
  simp [nameOf, present, named]

/-- The handler goes by the name that is given. -/
def GoesBy (memory : HandlerMemory) (name : NameArgument) (handler : Pointer) : Prop :=
  ∃ text, name.read memory = some text ∧ nameOf memory handler = some (cString text)

/-- The handlers can be read. -/
def AllNamed (memory : HandlerMemory) (handlers : List Pointer) : Prop :=
  ∀ handler ∈ handlers, handler ≠ nullptr ∧ Named memory handler

theorem findIf_eq (named : AllNamed memory handlers) (given : name.read memory = some text) :
    findIf memory name handlers =
      some (handlers.find? fun handler => nameOf memory handler = some (cString text)) := by
  induction handlers with
  | nil => rfl
  | cons handler handlers ih =>
      have rest : AllNamed memory handlers := fun other isIn =>
        named other (List.mem_cons_of_mem _ isIn)
      rcases named handler List.mem_cons_self with ⟨notNull, object, own, present, isNamed⟩
      simp only [findIf, if_neg notNull, present, Option.bind_some, isNamed, given]
      have same : strcmp own text = .eq ↔ nameOf memory handler = some (cString text) := by
        rw [strcmp_eq_iff, nameOf_eq_some present isNamed, Option.some.injEq]
      by_cases found : strcmp own text = .eq
      · have isFirst := same.mp found
        simp [found, isFirst]
      · have notFirst : nameOf memory handler ≠ some (cString text) := found ∘ same.mpr
        simp [found, notFirst, ih rest]

/-- The handler that a search finds is in the chain, is there and goes by the name. -/
theorem findIf_found (found : findIf memory name handlers = some (some handler)) :
    handler ∈ handlers ∧ GoesBy memory name handler := by
  induction handlers with
  | nil => cases found
  | cons first handlers ih =>
      have later : findIf memory name handlers = some (some handler) →
          handler ∈ first :: handlers ∧ GoesBy memory name handler := by
        intro continued
        rcases ih continued with ⟨isIn, goesBy⟩
        exact ⟨List.mem_cons_of_mem _ isIn, goesBy⟩
      unfold findIf at found
      split at found
      next => exact later found
      next notNull =>
        rcases Option.bind_eq_some_iff.mp found with ⟨object, present, found⟩
        split at found
        next => exact later found
        next own isNamed =>
          rcases Option.bind_eq_some_iff.mp found with ⟨given, read, found⟩
          split at found
          next same =>
            cases found
            refine ⟨List.mem_cons_self, given, read, ?_⟩
            rw [nameOf_eq_some present isNamed, strcmp_eq_iff.mp same]
          next => exact later found

/-- The handlers are not those of the name that a search in vain was for. -/
theorem findIf_in_vain (named : AllNamed memory handlers)
    (search : findIf memory name handlers = some none) :
    ∀ handler ∈ handlers, ¬GoesBy memory name handler := by
  rintro handler isIn ⟨text, read, same⟩
  rw [findIf_eq named read, Option.some.injEq, List.find?_eq_none] at search
  exact search handler isIn (decide_eq_true same)

/-- A handler that can be read is looked for by its own name. -/
theorem hasHandler_spec (named : AllNamed memory chain.handlers) (own : Named memory handler) :
    ∃ found, chain.hasHandler memory (.nameOf handler) = some found ∧
      (found = true ↔ ∃ other ∈ chain.handlers, nameOf memory other = nameOf memory handler) := by
  rcases own with ⟨object, text, present, isNamed⟩
  have given : (NameArgument.nameOf handler).read memory = some text := by
    simp [NameArgument.read, present, isNamed]
  rw [hasHandler, if_neg (by simp), findIf_eq named given, nameOf_eq_some present isNamed]
  refine ⟨_, rfl, ?_⟩
  simp

/-- What `register_handler` can do. -/
theorem registerHandler_cases {result : ℤ} {after : DebugChain}
    (called : chain.registerHandler memory handler = some (result, after)) :
    (result ≠ errSuccess ∧ after = chain) ∨
      (result = errSuccess ∧ after = ⟨chain.handlers ++ [handler], false⟩ ∧
        handler ≠ nullptr ∧ Named memory handler ∧
          chain.hasHandler memory (.nameOf handler) = some false) := by
  unfold registerHandler at called
  split at called
  next =>
    cases called
    exact Or.inl ⟨by decide, rfl⟩
  next notNull =>
    rcases Option.bind_eq_some_iff.mp called with ⟨object, present, called⟩
    split at called
    next =>
      cases called
      exact Or.inl ⟨by decide, rfl⟩
    next isNamed =>
      rcases Option.map_eq_some_iff.mp called with ⟨found, search, answer⟩
      cases found with
      | true =>
          cases answer
          exact Or.inl ⟨by decide, rfl⟩
      | false =>
          cases answer
          rcases Option.ne_none_iff_exists'.mp (by simpa using isNamed) with ⟨own, isNamed⟩
          exact Or.inr ⟨rfl, rfl, notNull, ⟨object, own, present, isNamed⟩, search⟩

/-- To register a handler that is there does not fault. -/
theorem registerHandler_returns (named : AllNamed memory chain.handlers)
    (present : handler ≠ nullptr → ∃ object, memory handler = some object) :
    ∃ result after, chain.registerHandler memory handler = some (result, after) := by
  unfold registerHandler
  by_cases null : handler = nullptr
  · rw [if_pos null]
    exact ⟨_, _, rfl⟩
  · rcases present null with ⟨object, present⟩
    rw [if_neg null, present, Option.bind_some]
    cases isNamed : object.name with
    | none => exact ⟨_, _, rfl⟩
    | some own =>
        rcases hasHandler_spec named ⟨object, own, present, isNamed⟩ with ⟨found, search, _⟩
        rw [search]
        cases found with
        | true => exact ⟨_, _, rfl⟩
        | false => exact ⟨_, _, rfl⟩

section Processing

/-- The functions of these handlers that are not null are called in turn, up to the first result
that does not continue the chain. -/
inductive Executes (function : DebugHandler → Pointer) (behaviour : HandlerBehaviour) :
    List Pointer → List HandlerCall → HandlerMemory → Outcome → Prop where
  | finished (calls : List HandlerCall) (memory : HandlerMemory) :
      Executes function behaviour [] calls memory ⟨errContinueChain, calls, memory⟩
  | skipped {handler : Pointer} {handlers : List Pointer} {calls : List HandlerCall}
      {memory : HandlerMemory} {object : DebugHandler} {outcome : Outcome}
      (present : memory handler = some object) (null : function object = nullptr)
      (later : Executes function behaviour handlers calls memory outcome) :
      Executes function behaviour (handler :: handlers) calls memory outcome
  | continued {handler : Pointer} {handlers : List Pointer} {calls : List HandlerCall}
      {memory after : HandlerMemory} {object : DebugHandler} {outcome : Outcome}
      (present : memory handler = some object) (code : function object ≠ nullptr)
      (returned : behaviour (calls ++ [⟨handler, function object⟩]) memory =
        (errContinueChain, after))
      (later : Executes function behaviour handlers (calls ++ [⟨handler, function object⟩]) after
        outcome) :
      Executes function behaviour (handler :: handlers) calls memory outcome
  | stopped {handler : Pointer} {handlers : List Pointer} {calls : List HandlerCall}
      {memory after : HandlerMemory} {object : DebugHandler} {result : ℤ}
      (present : memory handler = some object) (code : function object ≠ nullptr)
      (returned : behaviour (calls ++ [⟨handler, function object⟩]) memory = (result, after))
      (stops : result ≠ errContinueChain) :
      Executes function behaviour (handler :: handlers) calls memory
        ⟨result, calls ++ [⟨handler, function object⟩], after⟩

variable {function : DebugHandler → Pointer} {behaviour : HandlerBehaviour}
  {calls : List HandlerCall} {outcome : Outcome}

/-- What each call keeps of the handler objects, the processing keeps. -/
theorem runHandlers_keeps {Good : HandlerMemory → Prop}
    (keeps : ∀ calls memory, Good memory → Good (behaviour calls memory).2)
    (ran : runHandlers function behaviour handlers calls memory = some outcome)
    (good : Good memory) : Good outcome.memory := by
  induction handlers generalizing calls memory with
  | nil =>
      cases ran
      exact good
  | cons handler handlers ih =>
      unfold runHandlers at ran
      split at ran
      next => exact ih ran good
      next =>
        rcases Option.bind_eq_some_iff.mp ran with ⟨object, present, ran⟩
        split at ran
        next => exact ih ran good
        next =>
          have after := keeps (calls ++ [⟨handler, function object⟩]) memory good
          simp only at ran
          split at ran
          next =>
            cases ran
            exact after
          next => exact ih ran after

/-- The loop goes through handlers that can be read without a fault. -/
theorem runHandlers_executes {Good : HandlerMemory → Prop}
    (keeps : ∀ calls memory, Good memory → Good (behaviour calls memory).2)
    (readable : ∀ memory, Good memory → AllNamed memory handlers) (good : Good memory)
    (calls : List HandlerCall) :
    ∃ outcome, runHandlers function behaviour handlers calls memory = some outcome ∧
      Executes function behaviour handlers calls memory outcome := by
  induction handlers generalizing calls memory with
  | nil => exact ⟨_, rfl, .finished calls memory⟩
  | cons handler handlers ih =>
      have rest : ∀ memory, Good memory → AllNamed memory handlers := fun memory good other isIn =>
        readable memory good other (List.mem_cons_of_mem _ isIn)
      rcases readable memory good handler List.mem_cons_self with
        ⟨notNull, object, _, present, _⟩
      simp only [runHandlers, if_neg notNull, present, Option.bind_some]
      by_cases null : function object = nullptr
      · rw [if_pos null]
        rcases ih rest good calls with ⟨outcome, ran, executes⟩
        exact ⟨outcome, ran, .skipped present null executes⟩
      · rw [if_neg null]
        have kept := keeps (calls ++ [⟨handler, function object⟩]) memory good
        cases returned : behaviour (calls ++ [⟨handler, function object⟩]) memory with
        | mk result after =>
            rw [returned] at kept
            by_cases continues : result = errContinueChain
            · subst continues
              rcases ih rest kept (calls ++ [⟨handler, function object⟩]) with
                ⟨outcome, ran, executes⟩
              exact ⟨outcome, ran, .continued present null returned executes⟩
            · exact ⟨_, if_pos continues, .stopped present null returned continues⟩

end Processing

end DebugChain

namespace DebugWorld

variable {world after : DebugWorld} {handler : Pointer} {result : ℤ}

theorem registerHandler_cases (called : world.registerHandler handler = some (result, after)) :
    (result ≠ DebugChain.errSuccess ∧
        after = { world with refused := world.refused ++ [handler] }) ∨
      (result = DebugChain.errSuccess ∧ after = { world with
          chain := ⟨world.chain.handlers ++ [handler], false⟩
          registered := world.registered ++ [handler] } ∧
        handler ≠ nullptr ∧ DebugChain.Named world.memory handler ∧
          world.chain.hasHandler world.memory (.nameOf handler) = some false) := by
  rcases Option.map_eq_some_iff.mp called with ⟨⟨answer, chain⟩, registered, same⟩
  cases same
  rcases DebugChain.registerHandler_cases registered with
    ⟨failed, rfl⟩ | ⟨rfl, rfl, notNull, named, search⟩
  · rw [if_neg failed]
    exact Or.inl ⟨failed, rfl⟩
  · rw [if_pos rfl]
    exact Or.inr ⟨rfl, rfl, notNull, named, search⟩

theorem letGo_cases (called : world.letGo handler = some after) :
    after = { world with
        memory := Function.update world.memory handler none
        destroyed := world.destroyed ++ [handler] } ∨
      after = { world with released := world.released ++ [handler] } := by
  rcases Option.map_eq_some_iff.mp called with ⟨object, present, same⟩
  split at same
  next => exact Or.inl same.symm
  next => exact Or.inr same.symm

/-- What `unregister_handler` can do. -/
theorem unregisterHandler_cases {name : NameArgument}
    (called : world.unregisterHandler name = some (result, after)) :
    (result ≠ DebugChain.errSuccess ∧ after = world ∧ (name = .null ∨
        DebugChain.findIf world.memory name world.chain.handlers = some none)) ∨
      (result = DebugChain.errSuccess ∧ ∃ handler ∈ world.chain.handlers,
        DebugChain.GoesBy world.memory name handler ∧ ∃ gone, world.letGo handler = some gone ∧
          after = { gone with
            chain := { world.chain with handlers := world.chain.handlers.erase handler } }) := by
  unfold unregisterHandler at called
  split at called
  next null =>
    cases called
    exact Or.inl ⟨by decide, rfl, Or.inl null⟩
  next =>
    rcases Option.bind_eq_some_iff.mp called with ⟨found, search, called⟩
    cases found with
    | none =>
        cases called
        exact Or.inl ⟨by decide, rfl, Or.inr search⟩
    | some handler =>
        rcases Option.map_eq_some_iff.mp called with ⟨gone, letGo, same⟩
        cases same
        rcases DebugChain.findIf_found search with ⟨isIn, goesBy⟩
        exact Or.inr ⟨rfl, handler, isIn, goesBy, gone, letGo, rfl⟩

variable {sorting : UnstableSort Pointer} {function : DebugHandler → Pointer}
  {arguments : ProcessArguments} {behaviour : HandlerBehaviour} {calls : List HandlerCall}

/-- The chain is sorted after a processing that calls handlers. -/
theorem processInternal_cases
    (called : world.processInternal sorting function arguments behaviour =
      some (result, calls, after)) :
    after = world ∨ ∃ chain outcome,
      (chain = world.chain ∧ chain.sorted = true ∨
        world.chain.sortHandlers sorting world.memory = some chain) ∧
      DebugChain.runHandlers function behaviour chain.handlers [] world.memory = some outcome ∧
        after = { world with chain := chain, memory := outcome.memory } := by
  unfold processInternal at called
  split at called
  next =>
    cases called
    exact Or.inl rfl
  next =>
    split at called
    next =>
      cases called
      exact Or.inl rfl
    next =>
      split at called
      next =>
        cases called
        exact Or.inl rfl
      next =>
        rcases Option.bind_eq_some_iff.mp called with ⟨chain, sorted, called⟩
        rcases Option.map_eq_some_iff.mp called with ⟨outcome, ran, same⟩
        cases same
        refine Or.inr ⟨chain, outcome, ?_, ran, rfl⟩
        split at sorted
        next already =>
          cases sorted
          exact Or.inl ⟨rfl, already⟩
        next => exact Or.inr sorted

/-- What one call can change. -/
inductive Transition (sorting : UnstableSort Pointer) (world : DebugWorld) :
    DebugAction → DebugWorld → Prop where
  | nothing {action : DebugAction} : Transition sorting world action world
  | userChanges {memory : HandlerMemory} :
      Transition sorting world (.userChanges memory) { world with memory := memory }
  | refuses {handler : Pointer} :
      Transition sorting world (.registerHandler handler)
        { world with refused := world.refused ++ [handler] }
  | registers {handler : Pointer} (notNull : handler ≠ nullptr)
      (isNamed : DebugChain.Named world.memory handler)
      (fresh : world.chain.hasHandler world.memory (.nameOf handler) = some false) :
      Transition sorting world (.registerHandler handler) { world with
        chain := ⟨world.chain.handlers ++ [handler], false⟩
        registered := world.registered ++ [handler] }
  | unregisters {name : NameArgument} {handler : Pointer} {gone : DebugWorld}
      (isIn : handler ∈ world.chain.handlers) (letGo : world.letGo handler = some gone) :
      Transition sorting world (.unregisterHandler name) { gone with
        chain := { world.chain with handlers := world.chain.handlers.erase handler } }
  /-- The handlers run, and before that they are sorted unless they were. -/
  | processes {action : DebugAction} {function : DebugHandler → Pointer}
      {arguments : ProcessArguments} {behaviour : HandlerBehaviour} {chain : DebugChain}
      {outcome : DebugChain.Outcome} (isProcess : action = .processRequest arguments behaviour ∨
        action = .processResponse arguments behaviour)
      (sorted : chain = world.chain ∧ chain.sorted = true ∨
        world.chain.sortHandlers sorting world.memory = some chain)
      (ran : DebugChain.runHandlers function behaviour chain.handlers [] world.memory =
        some outcome) :
      Transition sorting world action { world with chain := chain, memory := outcome.memory }

theorem transition_of_process {action : DebugAction} {next : DebugWorld}
    (isProcess : action = .processRequest arguments behaviour ∨
      action = .processResponse arguments behaviour)
    (stepped : (world.processInternal sorting function arguments behaviour).map
      (fun outcome => outcome.2.2) = some next) : Transition sorting world action next := by
  rcases Option.map_eq_some_iff.mp stepped with ⟨⟨result, calls, after⟩, called, rfl⟩
  rcases processInternal_cases called with rfl | ⟨chain, outcome, sorted, ran, rfl⟩
  · exact .nothing
  · exact .processes isProcess sorted ran

theorem step_transition {action : DebugAction} {next : DebugWorld}
    (stepped : step sorting world action = some next) : Transition sorting world action next := by
  cases action with
  | userChanges memory =>
      cases stepped
      exact .userChanges
  | registerHandler handler =>
      rcases Option.map_eq_some_iff.mp stepped with ⟨⟨result, after⟩, called, rfl⟩
      rcases registerHandler_cases called with ⟨_, rfl⟩ | ⟨_, rfl, notNull, isNamed, fresh⟩
      · exact .refuses
      · exact .registers notNull isNamed fresh
  | unregisterHandler name =>
      rcases Option.map_eq_some_iff.mp stepped with ⟨⟨result, after⟩, called, rfl⟩
      rcases unregisterHandler_cases called with
        ⟨_, rfl, _⟩ | ⟨_, handler, isIn, _, gone, letGo, rfl⟩
      · exact .nothing
      · exact .unregisters isIn letGo
  | processRequest arguments behaviour => exact transition_of_process (Or.inl rfl) stepped
  | processResponse arguments behaviour => exact transition_of_process (Or.inr rfl) stepped

end DebugWorld

end HttpsServerSim
