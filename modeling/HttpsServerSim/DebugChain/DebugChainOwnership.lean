import HttpsServerSim.DebugChain.DebugChainOrder

/-!
# Who owns the handlers

A handler whose registration succeeds belongs to the chain, until it is unregistered or the chain
is destroyed. The account is of handlers registered against handlers in the chain, destroyed and
released; a handler that was destroyed is not in the memory any more, so to touch it would be a
fault.
-/

namespace HttpsServerSim

namespace DebugWorld

open DebugChain

open scoped List

/-! ## The account -/

/-- The handlers that were registered are in the chain or have left it. -/
def Accounted (world : DebugWorld) : Prop :=
  world.registered.Perm (world.chain.handlers ++ (world.destroyed ++ world.released))

variable {sorting : UnstableSort Pointer} {world gone next : DebugWorld} {action : DebugAction}
  {handler : Pointer} {handlers rest : List Pointer}

/-- A handler that leaves is counted as destroyed or as released. -/
theorem letGo_perm (called : world.letGo handler = some gone) :
    (handler :: (world.destroyed ++ world.released)).Perm (gone.destroyed ++ gone.released) := by
  rcases letGo_cases called with rfl | rfl
  · rw [List.append_assoc]
    exact List.perm_middle.symm
  · rw [← List.append_assoc]
    exact (List.perm_append_singleton handler _).symm

theorem letGo_same (called : world.letGo handler = some gone) :
    gone.registered = world.registered ∧ gone.refused = world.refused ∧
      gone.chain = world.chain := by
  rcases letGo_cases called with rfl | rfl
  · exact ⟨rfl, rfl, rfl⟩
  · exact ⟨rfl, rfl, rfl⟩

theorem letGo_destroyed (called : world.letGo handler = some gone) :
    ∀ other ∈ gone.destroyed, other = handler ∨ other ∈ world.destroyed := by
  intro other isDestroyed
  rcases letGo_cases called with rfl | rfl
  · rcases List.mem_append.mp isDestroyed with earlier | latest
    · exact Or.inr earlier
    · exact Or.inl (List.mem_singleton.mp latest)
  · exact Or.inr isDestroyed

theorem Accounted.register (accounted : world.Accounted) (handler : Pointer) :
    (world.registered ++ [handler]).Perm
      ((world.chain.handlers ++ [handler]) ++ (world.destroyed ++ world.released)) := by
  refine (List.Perm.append_right [handler] accounted).trans ?_
  rw [List.append_assoc, List.append_assoc world.chain.handlers [handler]]
  exact List.perm_append_comm.append_left world.chain.handlers

theorem Accounted.letGo (accounted : world.Accounted) (isIn : handler ∈ world.chain.handlers)
    (called : world.letGo handler = some gone) :
    gone.registered.Perm
      (world.chain.handlers.erase handler ++ (gone.destroyed ++ gone.released)) := by
  rw [(letGo_same called).1]
  calc world.registered
    _ ~ world.chain.handlers ++ (world.destroyed ++ world.released) := accounted
    _ ~ handler :: world.chain.handlers.erase handler ++ (world.destroyed ++ world.released) :=
      (List.perm_cons_erase isIn).append_right _
    _ ~ world.chain.handlers.erase handler ++ handler :: (world.destroyed ++ world.released) :=
      List.perm_middle.symm
    _ ~ world.chain.handlers.erase handler ++ (gone.destroyed ++ gone.released) :=
      (letGo_perm called).append_left _

theorem accounted_step (accounted : world.Accounted)
    (stepped : step sorting world action = some next) : next.Accounted := by
  cases step_transition stepped with
  | nothing | userChanges | refuses => exact accounted
  | registers notNull isNamed fresh => exact accounted.register _
  | unregisters isIn letGo =>
      have kept := accounted.letGo isIn letGo
      exact kept
  | processes isProcess sorted ran =>
      rcases sorted with ⟨rfl, _⟩ | sorted
      · exact accounted
      · exact accounted.trans ((sortHandlers_perm sorted).symm.append_right _)

theorem accounted_run {memory : HandlerMemory} {actions : List DebugAction}
    (ran : Interleaving.run (step sorting) (construct memory) actions = some world) :
    world.Accounted := by
  apply Interleaving.invariant_run accounted_step _ ran
  exact .refl []

/-! ## The user of the chain -/

/-- The handlers in the chain are there, and those destroyed are not. -/
def Sound (world : DebugWorld) (memory : HandlerMemory) : Prop :=
  AllNamed memory world.chain.handlers ∧ ∀ handler ∈ world.destroyed, memory handler = none

/-- The user keeps the handlers in the chain, and gives handlers and names that are there. -/
def Permitted (world : DebugWorld) : DebugAction → Prop
  | .userChanges memory => world.Sound memory
  | .registerHandler handler => handler ≠ nullptr → ∃ object, world.memory handler = some object
  | .unregisterHandler name => name ≠ .null → ∃ text, name.read world.memory = some text
  | .processRequest _ behaviour | .processResponse _ behaviour =>
      ∀ calls memory, world.Sound memory → world.Sound (behaviour calls memory).2

/-- A handler is registered again only after it was unregistered. -/
def RegistersAgain (world : DebugWorld) : DebugAction → Prop
  | .registerHandler handler => handler ∉ world.refused ∧ handler ∉ world.chain.handlers
  | _ => True

/-! ## No fault -/

/-- These handlers are in the chain, and each handler is in it or destroyed once. -/
structure Owns (handlers : List Pointer) (world : DebugWorld) : Prop where
  named : AllNamed world.memory handlers
  ended : ∀ handler ∈ world.destroyed, handler ≠ nullptr ∧ world.memory handler = none
  nodup : (handlers ++ world.destroyed).Nodup

theorem Owns.perm (owns : Owns handlers world) (perm : handlers ~ rest) : Owns rest world := by
  refine ⟨?_, owns.ended, ?_⟩
  · intro handler isIn
    exact owns.named handler (perm.mem_iff.mpr isIn)
  · exact (perm.append_right _).nodup_iff.mp owns.nodup

theorem Owns.sound (owns : Owns world.chain.handlers world) : world.Sound world.memory :=
  ⟨owns.named, fun handler isDestroyed => (owns.ended handler isDestroyed).2⟩

/-- A handler of the chain can be let go of. -/
theorem Owns.letGo (owns : Owns (handler :: handlers) world) :
    ∃ gone, world.letGo handler = some gone ∧ Owns handlers gone := by
  rcases owns.named handler List.mem_cons_self with ⟨notNull, object, name, present, isNamed⟩
  have distinct := owns.nodup
  rw [List.cons_append, List.nodup_cons] at distinct
  have rest : AllNamed world.memory handlers := fun other isIn =>
    owns.named other (List.mem_cons_of_mem _ isIn)
  unfold DebugWorld.letGo
  rw [present, Option.map_some]
  by_cases destroy : object.destroy ≠ nullptr
  · rw [if_pos destroy]
    refine ⟨_, rfl, ?_, ?_, ?_⟩
    · intro other isIn
      have different : other ≠ handler := by
        rintro rfl
        exact distinct.1 (List.mem_append_left _ isIn)
      rcases rest other isIn with ⟨otherNotNull, otherNamed⟩
      refine ⟨otherNotNull, ?_⟩
      rw [named_iff_key, key_update_of_ne different]
      exact named_iff_key.mp otherNamed
    · intro other isDestroyed
      rcases List.mem_append.mp isDestroyed with earlier | latest
      · have different : other ≠ handler := by
          rintro rfl
          exact distinct.1 (List.mem_append_right _ earlier)
        rcases owns.ended other earlier with ⟨otherNotNull, absent⟩
        exact ⟨otherNotNull, (Function.update_of_ne different ..).trans absent⟩
      · rw [List.mem_singleton.mp latest]
        exact ⟨notNull, Function.update_self ..⟩
    · rw [← List.append_assoc]
      exact (List.perm_append_singleton handler _).nodup_iff.mpr owns.nodup
  · rw [if_neg destroy]
    exact ⟨_, rfl, rest, owns.ended, distinct.2⟩

/-- The destructor lets go of all handlers. -/
theorem Owns.letGoAll (owns : Owns handlers world) :
    ∃ final, letGoAll handlers world = some final ∧ Owns [] final ∧
      final.registered = world.registered ∧ final.refused = world.refused ∧
        (handlers ++ (world.destroyed ++ world.released)) ~ (final.destroyed ++ final.released) ∧
          ∀ handler ∈ final.destroyed, handler ∈ handlers ∨ handler ∈ world.destroyed := by
  induction handlers generalizing world with
  | nil => exact ⟨world, rfl, owns, rfl, rfl, .refl _, fun _ => Or.inr⟩
  | cons handler handlers ih =>
      rcases owns.letGo with ⟨gone, letGo, owned⟩
      rcases ih owned with ⟨final, rest, empty, registered, refused, perm, from_⟩
      rcases letGo_same letGo with ⟨sameRegistered, sameRefused, _⟩
      have notNull := (owns.named handler List.mem_cons_self).1
      refine ⟨final, ?_, empty, registered.trans sameRegistered, refused.trans sameRefused, ?_, ?_⟩
      · rw [DebugWorld.letGoAll, if_neg notNull, letGo]
        exact rest
      · calc handler :: handlers ++ (world.destroyed ++ world.released)
          _ ~ handlers ++ handler :: (world.destroyed ++ world.released) := List.perm_middle.symm
          _ ~ handlers ++ (gone.destroyed ++ gone.released) := (letGo_perm letGo).append_left _
          _ ~ final.destroyed ++ final.released := perm
      · intro other isDestroyed
        rcases from_ other isDestroyed with isIn | earlier
        · exact Or.inl (List.mem_cons_of_mem _ isIn)
        · rcases letGo_destroyed letGo other earlier with rfl | older
          · exact Or.inl List.mem_cons_self
          · exact Or.inr older

theorem Owns.register (owns : Owns world.chain.handlers world)
    (present : handler ≠ nullptr → ∃ object, world.memory handler = some object) :
    ∃ result next, world.registerHandler handler = some (result, next) ∧
      Owns next.chain.handlers next := by
  rcases registerHandler_returns owns.named present with ⟨result, chain, called⟩
  have returns : ∃ next, world.registerHandler handler = some (result, next) := by
    rw [registerHandler, called]
    exact ⟨_, rfl⟩
  rcases returns with ⟨next, returns⟩
  refine ⟨result, next, returns, ?_⟩
  rcases registerHandler_cases returns with ⟨_, same⟩ | ⟨_, same, notNull, isNamed, fresh⟩
  · rw [same]
    exact ⟨owns.named, owns.ended, owns.nodup⟩
  · rw [same]
    have notIn : handler ∉ world.chain.handlers := by
      intro isIn
      rcases hasHandler_spec owns.named isNamed with ⟨found, search, spec⟩
      rw [fresh] at search
      cases search
      exact Bool.false_ne_true (spec.mpr ⟨handler, isIn, rfl⟩)
    have notEnded : handler ∉ world.destroyed := by
      intro isDestroyed
      rcases isNamed with ⟨object, name, isThere, _⟩
      rw [(owns.ended handler isDestroyed).2] at isThere
      cases isThere
    refine ⟨?_, owns.ended, ?_⟩
    · intro other isIn
      rcases List.mem_append.mp isIn with older | latest
      · exact owns.named other older
      · rw [List.mem_singleton.mp latest]
        exact ⟨notNull, isNamed⟩
    · have more : (handler :: (world.chain.handlers ++ world.destroyed)).Nodup := by
        refine List.nodup_cons.mpr ⟨?_, owns.nodup⟩
        intro isIn
        rcases List.mem_append.mp isIn with inChain | isDestroyed
        · exact notIn inChain
        · exact notEnded isDestroyed
      apply (List.Perm.nodup_iff _).mp more
      exact (List.perm_append_singleton handler _).symm.append_right world.destroyed

theorem Owns.unregister (owns : Owns world.chain.handlers world) {name : NameArgument}
    (given : name ≠ .null → ∃ text, name.read world.memory = some text) :
    ∃ result next, world.unregisterHandler name = some (result, next) ∧
      Owns next.chain.handlers next := by
  unfold unregisterHandler
  by_cases null : name = .null
  · rw [if_pos null]
    exact ⟨_, world, rfl, owns⟩
  · rcases given null with ⟨text, read⟩
    rw [if_neg null]
    cases search : findIf world.memory name world.chain.handlers with
    | none =>
        rw [findIf_eq owns.named read] at search
        cases search
    | some found =>
        cases found with
        | none => exact ⟨_, world, rfl, owns⟩
        | some handler =>
            have moved := owns.perm (List.perm_cons_erase (findIf_found search).1)
            rcases moved.letGo with ⟨gone, letGo, owned⟩
            refine ⟨errSuccess,
              { gone with chain :=
                { world.chain with handlers := world.chain.handlers.erase handler } }, ?_, ?_⟩
            · simp only [Option.bind_some, letGo, Option.map_some]
            · exact ⟨owned.named, owned.ended, owned.nodup⟩

theorem Owns.process (owns : Owns world.chain.handlers world) {behaviour : HandlerBehaviour}
    (sound : ∀ calls memory, world.Sound memory → world.Sound (behaviour calls memory).2)
    (sorting : UnstableSort Pointer) (function : DebugHandler → Pointer)
    (arguments : ProcessArguments) :
    ∃ result calls next, world.processInternal sorting function arguments behaviour =
      some (result, calls, next) ∧ Owns next.chain.handlers next := by
  rcases sorted_of_named owns.named sorting with ⟨chain, sorted, perm⟩
  have readable : ∀ memory, world.Sound memory → AllNamed memory chain.handlers := by
    intro memory good handler isIn
    exact good.1 handler (perm.mem_iff.mp isIn)
  have executes : ∃ outcome, runHandlers function behaviour chain.handlers [] world.memory =
      some outcome ∧ Executes function behaviour chain.handlers [] world.memory outcome :=
    runHandlers_executes sound readable owns.sound []
  rcases executes with ⟨outcome, ran, _⟩
  have kept := runHandlers_keeps sound ran owns.sound
  have owned : Owns chain.handlers { world with chain := chain, memory := outcome.memory } := by
    refine ⟨readable outcome.memory kept, ?_, (perm.append_right _).nodup_iff.mpr owns.nodup⟩
    intro handler isDestroyed
    exact ⟨(owns.ended handler isDestroyed).1, kept.2 handler isDestroyed⟩
  unfold processInternal
  split
  next => exact ⟨_, _, world, rfl, owns⟩
  next config _ =>
    split
    next => exact ⟨_, _, world, rfl, owns⟩
    next =>
      split
      next => exact ⟨_, _, world, rfl, owns⟩
      next =>
        refine ⟨outcome.result, outcome.calls,
          { world with chain := chain, memory := outcome.memory }, ?_, owned⟩
        simp only [sorted, Option.bind_some, ran, Option.map_some]

/-- One call that the user may make. -/
theorem owns_step (owns : Owns world.chain.handlers world) (permitted : world.Permitted action) :
    ∃ next, step sorting world action = some next ∧ Owns next.chain.handlers next := by
  cases action with
  | userChanges memory =>
      refine ⟨_, rfl, permitted.1, ?_, owns.nodup⟩
      intro handler isDestroyed
      exact ⟨(owns.ended handler isDestroyed).1, permitted.2 handler isDestroyed⟩
  | registerHandler handler =>
      rcases owns.register permitted with ⟨result, next, called, owned⟩
      exact ⟨next, Option.map_eq_some_iff.mpr ⟨_, called, rfl⟩, owned⟩
  | unregisterHandler name =>
      rcases owns.unregister permitted with ⟨result, next, called, owned⟩
      exact ⟨next, Option.map_eq_some_iff.mpr ⟨_, called, rfl⟩, owned⟩
  | processRequest arguments behaviour =>
      rcases owns.process permitted sorting DebugHandler.handleRequest arguments with
        ⟨result, calls, next, called, owned⟩
      exact ⟨next, Option.map_eq_some_iff.mpr ⟨_, called, rfl⟩, owned⟩
  | processResponse arguments behaviour =>
      rcases owns.process permitted sorting DebugHandler.handleResponse arguments with
        ⟨result, calls, next, called, owned⟩
      exact ⟨next, Option.map_eq_some_iff.mpr ⟨_, called, rfl⟩, owned⟩

/-! ## Whole lives -/

/-- No handler that was refused is in the chain or was destroyed. -/
def RefusedApart (world : DebugWorld) : Prop :=
  ∀ handler ∈ world.refused, handler ∉ world.chain.handlers ∧ handler ∉ world.destroyed

theorem refusedApart_step (owns : Owns world.chain.handlers world) (apart : world.RefusedApart)
    (permitted : world.Permitted action) (again : world.RegistersAgain action)
    (stepped : step sorting world action = some next) : next.RefusedApart := by
  cases step_transition stepped with
  | nothing | userChanges => exact apart
  | @refuses handler =>
      intro other isRefused
      rcases List.mem_append.mp isRefused with older | latest
      · exact apart other older
      · rw [List.mem_singleton.mp latest]
        refine ⟨again.2, ?_⟩
        intro isDestroyed
        rcases owns.ended handler isDestroyed with ⟨notNull, absent⟩
        rcases permitted notNull with ⟨object, present⟩
        rw [absent] at present
        cases present
  | registers notNull isNamed fresh =>
      intro other isRefused
      rcases apart other isRefused with ⟨notIn, notEnded⟩
      refine ⟨?_, notEnded⟩
      intro isIn
      rcases List.mem_append.mp isIn with older | latest
      · exact notIn older
      · rw [List.mem_singleton.mp latest] at isRefused
        exact again.1 isRefused
  | unregisters isIn letGo =>
      intro other isRefused
      rw [(letGo_same letGo).2.1] at isRefused
      rcases apart other isRefused with ⟨notIn, notEnded⟩
      refine ⟨fun isOther => notIn (List.mem_of_mem_erase isOther), ?_⟩
      intro isDestroyed
      rcases letGo_destroyed letGo other isDestroyed with rfl | earlier
      · exact notIn isIn
      · exact notEnded earlier
  | @processes _ _ _ _ chain _ isProcess sorted ran =>
      have perm : chain.handlers ~ world.chain.handlers := by
        rcases sorted with ⟨rfl, _⟩ | sorted
        · exact .refl _
        · exact sortHandlers_perm sorted
      intro handler isRefused
      rcases apart handler isRefused with ⟨notIn, notEnded⟩
      exact ⟨fun isIn => notIn (perm.mem_iff.mp isIn), notEnded⟩

/-- The handlers that are not in the chain any more. -/
def left (world next : DebugWorld) : List Pointer :=
  world.chain.handlers.filter (· ∉ next.chain.handlers)

/-- The handler is there, and its destroy function is null, or is not. -/
def destroyIsNull (memory : HandlerMemory) (isNull : Bool) (handler : Pointer) : Bool :=
  (memory handler).any fun object => (object.destroy = nullptr) = isNull

/-- Of the handlers that leave the chain those that have a destroy function are destroyed. -/
structure LetsGo (world next : DebugWorld) : Prop where
  destroyed : next.destroyed =
    world.destroyed ++ (world.left next).filter (destroyIsNull world.memory false)
  released : next.released =
    world.released ++ (world.left next).filter (destroyIsNull world.memory true)

theorem left_eq_nil (kept : ∀ handler ∈ world.chain.handlers, handler ∈ next.chain.handlers) :
    world.left next = [] :=
  List.filter_eq_nil_iff.mpr fun handler isIn => by simp [kept handler isIn]

theorem letsGo_of_kept (kept : ∀ handler ∈ world.chain.handlers, handler ∈ next.chain.handlers)
    (destroyed : next.destroyed = world.destroyed) (released : next.released = world.released) :
    world.LetsGo next := by
  refine ⟨?_, ?_⟩
  · rw [left_eq_nil kept, destroyed]
    exact (List.append_nil _).symm
  · rw [left_eq_nil kept, released]
    exact (List.append_nil _).symm

/-- One handler leaves. -/
theorem letGo_lists (called : world.letGo handler = some gone) :
    gone.destroyed = world.destroyed ++ [handler].filter (destroyIsNull world.memory false) ∧
      gone.released = world.released ++ [handler].filter (destroyIsNull world.memory true) ∧
        ∀ other ≠ handler, gone.memory other = world.memory other := by
  rcases Option.map_eq_some_iff.mp called with ⟨object, present, same⟩
  by_cases null : object.destroy = nullptr
  · rw [if_neg (not_not_intro null)] at same
    rw [← same]
    simp [destroyIsNull, present, null]
  · rw [if_pos null] at same
    rw [← same]
    simp +contextual [destroyIsNull, present, null, Function.update_of_ne]

theorem letsGo_step (owns : Owns world.chain.handlers world)
    (stepped : step sorting world action = some next) : world.LetsGo next := by
  cases step_transition stepped with
  | nothing | userChanges | refuses => exact letsGo_of_kept (fun _ => id) rfl rfl
  | registers notNull isNamed fresh =>
      exact letsGo_of_kept (fun _ isIn => List.mem_append_left _ isIn) rfl rfl
  | @unregisters _ handler gone isIn letGo =>
      have nodup : world.chain.handlers.Nodup := owns.nodup.of_append_left
      have onlyOne : world.left { gone with
          chain := { world.chain with handlers := world.chain.handlers.erase handler } } =
            [handler] := by
        apply List.perm_singleton.mp
        apply (List.perm_ext_iff_of_nodup (nodup.filter _) (List.nodup_singleton handler)).mpr
        intro other
        rw [List.mem_filter, List.mem_singleton, decide_eq_true_eq, nodup.mem_erase_iff]
        constructor
        · rintro ⟨isOther, stays⟩
          by_contra different
          exact stays ⟨different, isOther⟩
        · rintro rfl
          exact ⟨isIn, fun stays => stays.1 rfl⟩
      rcases letGo_lists letGo with ⟨destroyed, released, _⟩
      refine ⟨?_, ?_⟩
      · rw [onlyOne]
        exact destroyed
      · rw [onlyOne]
        exact released
  | processes isProcess sorted ran =>
      refine letsGo_of_kept ?_ rfl rfl
      intro handler isIn
      rcases sorted with ⟨rfl, _⟩ | sorted
      · exact isIn
      · exact (sortHandlers_perm sorted).mem_iff.mpr isIn

theorem destroyIsNull_congr {memory after : HandlerMemory} (same : ∀ handler ∈ handlers,
    after handler = memory handler) (isNull : Bool) :
    handlers.filter (destroyIsNull after isNull) =
      handlers.filter (destroyIsNull memory isNull) := by
  apply List.filter_congr
  intro handler isIn
  rw [destroyIsNull, same handler isIn, destroyIsNull]

/-- The destructor calls the destroy functions that there are, each as it was before the first. -/
theorem Owns.letGoAll_lists {final : DebugWorld} (owns : Owns handlers world)
    (called : DebugWorld.letGoAll handlers world = some final) :
    final.destroyed =
        world.destroyed ++ handlers.filter (destroyIsNull world.memory false) ∧
      final.released =
        world.released ++ handlers.filter (destroyIsNull world.memory true) := by
  induction handlers generalizing world with
  | nil =>
      cases called
      exact ⟨(List.append_nil _).symm, (List.append_nil _).symm⟩
  | cons handler handlers ih =>
      have notNull := (owns.named handler List.mem_cons_self).1
      rw [DebugWorld.letGoAll, if_neg notNull] at called
      rcases Option.bind_eq_some_iff.mp called with ⟨gone, letGo, called⟩
      rcases owns.letGo with ⟨alsoGone, alsoLetGo, owned⟩
      rw [letGo] at alsoLetGo
      cases alsoLetGo
      rcases letGo_lists letGo with ⟨destroyed, released, others⟩
      have distinct := owns.nodup
      rw [List.cons_append, List.nodup_cons] at distinct
      have same : ∀ other ∈ handlers, gone.memory other = world.memory other := by
        intro other isIn
        apply others
        rintro rfl
        exact distinct.1 (List.mem_append_left _ isIn)
      rcases ih owned called with ⟨laterDestroyed, laterReleased⟩
      rw [laterDestroyed, laterReleased, destroyed, released, destroyIsNull_congr same,
        destroyIsNull_congr same, List.append_assoc, List.append_assoc, ← List.filter_append,
        ← List.filter_append]
      exact ⟨rfl, rfl⟩

theorem letsGo_destruct {final : DebugWorld} (owns : Owns world.chain.handlers world)
    (destructed : world.destruct = some final) : world.LetsGo final := by
  rcases Option.map_eq_some_iff.mp destructed with ⟨last, letGo, rfl⟩
  have all : world.left { last with chain := { world.chain with handlers := [] } } =
      world.chain.handlers :=
    List.filter_eq_self.mpr fun _ _ => rfl
  rcases owns.letGoAll_lists letGo with ⟨destroyed, released⟩
  refine ⟨?_, ?_⟩
  · rw [all]
    exact destroyed
  · rw [all]
    exact released

theorem owns_construct (memory : HandlerMemory) :
    Owns (construct memory).chain.handlers (construct memory) :=
  ⟨fun _ isIn => absurd isIn List.not_mem_nil, fun _ isIn => absurd isIn List.not_mem_nil,
    List.nodup_nil⟩

theorem owns_of_step (owns : Owns world.chain.handlers world) (permitted : world.Permitted action)
    (stepped : step sorting world action = some next) : Owns next.chain.handlers next := by
  rcases owns_step owns permitted with ⟨after, same, owned⟩
  rw [stepped] at same
  cases same
  exact owned

theorem letsGo_along {memory : HandlerMemory} {actions : List DebugAction}
    (permitted : Interleaving.Along (step sorting) Permitted (construct memory) actions) :
    Interleaving.Along (step sorting)
      (fun world action => ∀ next, step sorting world action = some next → world.LetsGo next)
      (construct memory) actions := by
  refine Interleaving.along_of_invariant ?_ owns_of_step (owns_construct memory) permitted
  intro world action owns _ next stepped
  exact letsGo_step owns stepped

/-- Handlers that are not registered again after they were refused stay apart. -/
theorem refusedApart_run {memory : HandlerMemory} {actions : List DebugAction}
    (permitted : Interleaving.Along (step sorting) Permitted (construct memory) actions)
    (again : Interleaving.Along (step sorting) RegistersAgain (construct memory) actions)
    (ran : Interleaving.run (step sorting) (construct memory) actions = some world) :
    world.RefusedApart := by
  have kept : ∀ {world action next}, Owns world.chain.handlers world ∧ world.RefusedApart →
      world.Permitted action ∧ world.RegistersAgain action →
        step sorting world action = some next →
          Owns next.chain.handlers next ∧ next.RefusedApart := by
    intro world action next invariant allowed stepped
    exact ⟨owns_of_step invariant.1 allowed.1 stepped,
      refusedApart_step invariant.1 invariant.2 allowed.1 allowed.2 stepped⟩
  have initially : (construct memory).RefusedApart := fun _ isIn => absurd isIn List.not_mem_nil
  exact (Interleaving.invariant_along kept ⟨owns_construct memory, initially⟩
    (Interleaving.along_and permitted again) ran).2

/-- The chain has destroyed what it owned. -/
structure OwnedOnce (final : DebugWorld) : Prop where
  /-- A handler that was registered and did not lack a destroy function when it left. -/
  exactlyOnce : ∀ handler ∈ final.registered, handler ∉ final.released →
    final.destroyed.count handler = 1
  atMostOnce : final.destroyed.Nodup
  onlyRegistered : ∀ handler ∈ final.destroyed, handler ∈ final.registered
  accounted : final.registered ~ final.destroyed ++ final.released

theorem ownedOnce_of_accounted {final : DebugWorld} (nodup : final.destroyed.Nodup)
    (accounted : final.registered ~ final.destroyed ++ final.released) : final.OwnedOnce := by
  refine ⟨?_, nodup, ?_, accounted⟩
  · intro handler isRegistered notReleased
    rcases List.mem_append.mp (accounted.mem_iff.mp isRegistered) with isDestroyed | isReleased
    · exact List.count_eq_one_of_mem nodup isDestroyed
    · exact absurd isReleased notReleased
  · intro handler isDestroyed
    exact accounted.mem_iff.mpr (List.mem_append_left _ isDestroyed)

/-- For every life of a chain, from its constructor through any calls that its user may make to its
destructor: nothing touches a handler that was destroyed, for the run would stop there; the handlers
that were registered are destroyed once, all but those whose destroy function was null when they
left the chain, and those that were refused are not destroyed. -/
theorem ownedOnce {memory : HandlerMemory} {actions : List DebugAction}
    (permitted : Interleaving.Along (step sorting) Permitted (construct memory) actions) :
    ∃ world final, Interleaving.run (step sorting) (construct memory) actions = some world ∧
      (∀ handler ∈ world.destroyed, world.memory handler = none) ∧
        Interleaving.Along (step sorting)
          (fun world action => ∀ next, step sorting world action = some next → world.LetsGo next)
          (construct memory) actions ∧
        world.destruct = some final ∧ world.LetsGo final ∧ final.OwnedOnce ∧
          (Interleaving.Along (step sorting) RegistersAgain (construct memory) actions →
            ∀ handler ∈ final.refused, handler ∉ final.destroyed) := by
  rcases Interleaving.exists_run_along owns_step (owns_construct memory) permitted with
    ⟨world, ran, owns⟩
  rcases owns.letGoAll with ⟨last, letGo, empty, registered, refused, perm, from_⟩
  have destructed : world.destruct =
      some { last with chain := { world.chain with handlers := [] } } := by
    rw [destruct, letGo]
    rfl
  refine ⟨world, _, ran, owns.sound.2, letsGo_along permitted, destructed,
    letsGo_destruct owns destructed, ?_, ?_⟩
  · apply ownedOnce_of_accounted
    · exact empty.nodup
    · exact registered ▸ (accounted_run ran).trans perm
  · intro again handler isRefused isDestroyed
    have apart : world.RefusedApart := refusedApart_run permitted again ran
    rw [refused] at isRefused
    rcases apart handler isRefused with ⟨notIn, notEnded⟩
    rcases from_ handler isDestroyed with isIn | earlier
    · exact notIn isIn
    · exact notEnded earlier

/-- Three handlers; the first and the third have one name, the second has no destroy function. -/
def threeHandlers : HandlerMemory := fun handler =>
  if handler = 1 then some ⟨some [65], 20, 11, 0, 13⟩
  else if handler = 2 then some ⟨some [66], 10, 21, 22, 0⟩
  else if handler = 3 then some ⟨some [65], 5, 31, 0, 33⟩
  else none

/-- The third handler is refused, the first one is removed by the name in its object, and the second
one is left to the destructor. -/
def registersAndRemoves : List DebugAction :=
  [.registerHandler 1, .registerHandler 2, .registerHandler 3,
    .processRequest ⟨5, some ⟨true⟩, 6⟩ fun _ memory => (0, memory), .unregisterHandler (.nameOf 1)]

theorem ownedOnce_registersAndRemoves :
    ∃ world final, Interleaving.run (step (insertionSort Pointer)) (construct threeHandlers)
      registersAndRemoves = some world ∧ world.destruct = some final ∧ final.OwnedOnce := by
  have permitted : Interleaving.Along (step (insertionSort Pointer)) Permitted
      (construct threeHandlers) registersAndRemoves := by
    refine ⟨fun _ => ⟨_, rfl⟩, ?_⟩
    intro next stepped
    change some _ = some next at stepped
    cases stepped
    refine ⟨fun _ => ⟨_, rfl⟩, ?_⟩
    intro next stepped
    change some _ = some next at stepped
    cases stepped
    refine ⟨fun _ => ⟨_, rfl⟩, ?_⟩
    intro next stepped
    change some _ = some next at stepped
    cases stepped
    refine ⟨fun _ _ sound => sound, ?_⟩
    intro next stepped
    change some _ = some next at stepped
    cases stepped
    exact ⟨fun _ => ⟨_, rfl⟩, fun _ _ => trivial⟩
  rcases ownedOnce permitted with ⟨world, final, ran, _, _, destructed, _, once, _⟩
  exact ⟨world, final, ran, destructed, once⟩

end DebugWorld

end HttpsServerSim
