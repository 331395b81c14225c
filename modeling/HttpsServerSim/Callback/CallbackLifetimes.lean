import HttpsServerSim.Callback.CallbackRefinement
import HttpsServerSim.Callback.SharedCallbacks

/-!
# The lifetimes of strategies

A strategy lives as long as a shared pointer leads to it, so no function uses one that is gone, and
each answers as the registry of values does at its critical section. A plain pointer is good for as
long as the strategy stays at its port.
-/

namespace HttpsServerSim

/-! ## What a call comes to -/

/-- What is left of a program, and the code that it has run, when its strategy is this one. -/
inductive HolderProgram.Goes (strategy : CallbackStrategy) (program : HolderProgram) :
    List (CallbackUse × CallbackOutcome) → HolderProgram → Prop where
  | start : Goes strategy program [] program
  | read {runs : List (CallbackUse × CallbackOutcome)} {next : CallbackStrategy → HolderProgram}
      (before : Goes strategy program runs (.read next)) :
      Goes strategy program runs (next strategy)
  | used {runs : List (CallbackUse × CallbackOutcome)} {code : CallbackUse}
      {next : CallbackOutcome → HolderProgram} (outcome : CallbackOutcome)
      (before : Goes strategy program runs (.use code next)) :
      Goes strategy program (runs ++ [(code, outcome)]) (next outcome)

/-- What a registry answers to a call with shared pointers. -/
def SharedCall.Answered (registry : CallbackRegistry) (call : SharedCall)
    (runs : List (CallbackUse × CallbackOutcome)) (reply : SharedReply) : Prop :=
  match call with
  | .lookUp (.getCallback later) port =>
      match registry.lookup port with
      | none => runs = [] ∧ reply = .reply (.strategy none)
      | some strategy => later.Goes strategy runs (.done reply)
  | .lookUp .getStrategy port =>
      runs = [] ∧ ∃ id, reply = .address id ∧ (id = none ↔ registry.lookup port = none)
  | .lookUp (.getStrategyCopy _) port =>
      runs = [] ∧ reply = match registry.lookup port with
        | none => .copied .strategyNotFound none
        | some strategy => .copied .success (some strategy)
  | .registerStrategy _ | .deregisterStrategy _ | .clear | .lookUp (.invokeParse ..) _
  | .lookUp (.invokeReply ..) _ =>
      ∃ given, reply = .reply given ∧ registry.Answers call.managerCall runs given

/-- The call takes the strategy of a port out of the map, if there is one. -/
def CallbackCall.Frees (port : UInt16) : CallbackCall → Prop
  | .deregisterCallback other => other = port
  | .clear => True
  | _ => False

open HolderProgram

variable {strategy : CallbackStrategy} {runs : List (CallbackUse × CallbackOutcome)}
  {program : HolderProgram}

/-- A program that returns at once. -/
theorem goes_done {given : SharedReply}
    (goes : (HolderProgram.done given).Goes strategy runs program) :
    runs = [] ∧ program = .done given := by
  induction goes with
  | start => exact ⟨rfl, rfl⟩
  | read _ ih => cases ih.2
  | used _ _ ih => cases ih.2

/-- A program that copies the strategy. -/
theorem goes_copy {reply : CallbackStrategy → SharedReply}
    (goes : (HolderProgram.read fun strategy => .done (reply strategy)).Goes strategy runs
      program) :
    runs = [] ∧ (program = .read (fun strategy => .done (reply strategy)) ∨
      program = .done (reply strategy)) := by
  induction goes with
  | start => exact ⟨rfl, Or.inl rfl⟩
  | read _ ih =>
      rcases ih with ⟨noRuns, same | same⟩
      · cases same
        exact ⟨noRuns, Or.inr rfl⟩
      · cases same
  | used _ _ ih => rcases ih.2 with same | same <;> cases same

/-- An invocation. -/
theorem goes_invoke {function : CallbackStrategy → CallbackUse}
    {answer : CallbackOutcome → SharedReply}
    (goes : (HolderProgram.read fun strategy => .use (function strategy) fun outcome =>
      .done (answer outcome)).Goes strategy runs program) :
    (runs = [] ∧ ∀ reply, program ≠ .done reply) ∧
        (∀ code next, program = .use code next → code = function strategy ∧
          next = fun outcome => .done (answer outcome)) ∧
        (∀ next, program = .read next → next = fun strategy => .use (function strategy)
          fun outcome => .done (answer outcome)) ∨
      ∃ outcome, runs = [(function strategy, outcome)] ∧ program = .done (answer outcome) := by
  induction goes with
  | start =>
      refine Or.inl ⟨⟨rfl, nofun⟩, nofun, ?_⟩
      intro next same
      cases same
      rfl
  | read _ ih =>
      rcases ih with ⟨⟨noRuns, _⟩, _, reads⟩ | ⟨_, _, same⟩
      · rw [reads _ rfl]
        refine Or.inl ⟨⟨noRuns, nofun⟩, ?_, nofun⟩
        intro code next same
        cases same
        exact ⟨rfl, rfl⟩
      · cases same
  | used outcome _ ih =>
      rcases ih with ⟨⟨noRuns, _⟩, uses, _⟩ | ⟨_, _, same⟩
      · rcases uses _ _ rfl with ⟨rfl, rfl⟩
        exact Or.inr ⟨outcome, by rw [noRuns]; rfl, rfl⟩
      · cases same

/-- What a function that has found a strategy returns in the end. -/
theorem answered_found {registry : CallbackRegistry} {lookup : StrategyLookup} {port : UInt16}
    {id : ℕ} {reply : SharedReply} (bound : registry.lookup port = some strategy)
    (goes : (lookup.found id).Goes strategy runs (.done reply)) :
    (SharedCall.lookUp lookup port).Answered registry runs reply ∧
      ∀ other, lookup = .getStrategy → reply = .address (some other) → other = id := by
  cases lookup with
  | getCallback later =>
      refine ⟨?_, nofun⟩
      simp only [SharedCall.Answered, bound]
      exact goes
  | getStrategy =>
      rcases goes_done goes with ⟨noRuns, same⟩
      cases same
      refine ⟨⟨noRuns, some id, rfl, by simp [bound]⟩, ?_⟩
      rintro other - same
      cases same
      rfl
  | getStrategyCopy outStrategy =>
      rcases goes_copy goes with ⟨noRuns, same | same⟩
      · cases same
      · cases same
        refine ⟨⟨noRuns, by rw [bound]⟩, nofun⟩
  | invokeParse ctx input inLen outResult =>
      rcases goes_invoke goes with ⟨⟨_, notDone⟩, _⟩ | ⟨outcome, same, returns⟩
      · exact absurd rfl (notDone reply)
      · cases returns
        subst same
        refine ⟨⟨_, rfl, ?_⟩, nofun⟩
        cases outcome with
        | returns result => exact .parsed bound result
        | throws => exact .parseThrew bound
  | invokeReply ctx out outLen outResult =>
      rcases goes_invoke goes with ⟨⟨_, notDone⟩, _⟩ | ⟨outcome, same, returns⟩
      · exact absurd rfl (notDone reply)
      · cases returns
        subst same
        refine ⟨⟨_, rfl, ?_⟩, nofun⟩
        cases outcome with
        | returns result => exact .replied bound result
        | throws => exact .replyThrew bound

theorem answered_notFound {registry : CallbackRegistry} {port : UInt16}
    (free : registry.lookup port = none) (lookup : StrategyLookup) :
    (SharedCall.lookUp lookup port).Answered registry [] lookup.notFound := by
  cases lookup with
  | getCallback later => simp [SharedCall.Answered, free, StrategyLookup.notFound]
  | getStrategy => exact ⟨rfl, none, rfl, by simp [free]⟩
  | getStrategyCopy outStrategy => simp [SharedCall.Answered, free, StrategyLookup.notFound]
  | invokeParse ctx input inLen outResult => exact ⟨_, rfl, .noParse free⟩
  | invokeReply ctx out outLen outResult => exact ⟨_, rfl, .noReply free⟩

namespace SharedCallbacks

/-! ## The pointers in a map -/

section Addresses

variable {map : AList fun _ : UInt16 => ℕ} {port : UInt16} {id : ℕ}

theorem mem_addresses : id ∈ addresses map ↔ ∃ port, map.lookup port = some id := by
  simp only [addresses, List.mem_map]
  refine ⟨?_, ?_⟩
  · rintro ⟨⟨port, address⟩, member, rfl⟩
    exact ⟨port, AList.mem_lookup_iff.mpr member⟩
  · rintro ⟨port, found⟩
    exact ⟨⟨port, id⟩, AList.mem_lookup_iff.mp found, rfl⟩

theorem addresses_insert (free : map.lookup port = none) :
    addresses (map.insert port id) = id :: addresses map := by
  rw [addresses, AList.entries_insert_of_notMem (AList.lookup_eq_none.mp free)]
  rfl

theorem addresses_erase (found : map.lookup port = some id) :
    (addresses map).Perm (id :: addresses (map.erase port)) := by
  have isKey : port ∈ map.entries.keys := by
    apply AList.lookup_isSome.mp
    rw [found]
    rfl
  rcases List.exists_of_kerase isKey with ⟨address, before, after, _, whole, erased⟩
  have here : map.lookup port = some address := by
    apply AList.mem_lookup_iff.mpr
    rw [whole]
    simp
  rw [found] at here
  cases here
  have erasedMap : addresses (map.erase port) = (before ++ after).map fun entry => entry.2 := by
    rw [← erased]
    rfl
  rw [erasedMap, addresses, whole, List.map_append, List.map_cons, List.map_append]
  exact List.perm_middle

end Addresses

/-! ## What holds at any time -/

/-- A strategy has been at this port since a call found it there, as long as no call has taken it
out of the map. -/
structure Since (callbacks : SharedCallbacks) (port : UInt16) (id position : ℕ) : Prop where
  position_lt : position < callbacks.accesses.length
  id_lt : id < callbacks.heap.made
  only : ∀ map, callbacks.callbackMap = some map → ∀ other, map.lookup other = some id →
    other = port
  bound_iff : ∀ map, callbacks.callbackMap = some map → (map.lookup port = some id ↔
    ∀ call ∈ callbacks.accesses.drop (position + 1), ¬call.Frees port)

/-- The registry that the critical section at this place finds. -/
noncomputable abbrev registryAt (callbacks : SharedCallbacks) (position : ℕ) : CallbackRegistry :=
  registryAfter (callbacks.accesses.take position)

/-- A function uses the strategy that it has found. -/
structure Holds (callbacks : SharedCallbacks) (holder : Holder) : Prop where
  since : callbacks.Since holder.port holder.id holder.position
  goes : ∃ strategy, callbacks.heap.deref holder.id = some strategy ∧
    (callbacks.registryAt holder.position).lookup holder.port = some strategy ∧
      (holder.lookup.found holder.id).Goes strategy holder.runs holder.program

structure WellAnswered (callbacks : SharedCallbacks) (ended : SharedReturn) : Prop where
  position_lt : ended.position < callbacks.accesses.length
  answered : ended.call.Answered (callbacks.registryAt ended.position) ended.runs
    ended.reply
  since : ∀ port id, ended.call = .lookUp .getStrategy port →
    ended.reply = .address (some id) → callbacks.Since port id ended.position

structure Sound (callbacks : SharedCallbacks) : Prop where
  owned : callbacks.heap.Owned callbacks.pointers
  represents : ∀ map, callbacks.callbackMap = some map → ∀ port,
    (map.lookup port).bind callbacks.heap.deref =
      (registryAfter callbacks.accesses).lookup port
  apart : ∀ map, callbacks.callbackMap = some map → ∀ port other id,
    map.lookup port = some id → map.lookup other = some id → other = port
  holds : ∀ holder ∈ callbacks.holders, callbacks.Holds holder
  returned : ∀ ended ∈ callbacks.returned, callbacks.WellAnswered ended

theorem sound_create : create.Sound where
  owned := SharedHeap.owned_empty
  represents := by
    intro map isMap port
    cases isMap
    rfl
  apart := by
    intro map isMap port other id found
    cases isMap
    cases found
  holds holder member := by cases member
  returned ended member := by cases member

/-! ### Critical sections -/

/-- A critical section makes this of the map and the heap. -/
structure Section (callbacks : SharedCallbacks) (map : AList fun _ : UInt16 => ℕ)
    (call : CallbackCall) (nextMap : AList fun _ : UInt16 => ℕ)
    (nextHeap : SharedHeap CallbackStrategy) : Prop where
  made_le : callbacks.heap.made ≤ nextHeap.made
  deref_eq : ∀ holder ∈ callbacks.holders,
    nextHeap.deref holder.id = callbacks.heap.deref holder.id
  represents : ∀ port, (nextMap.lookup port).bind nextHeap.deref =
    ((registryAfter callbacks.accesses).after call).lookup port
  apart : ∀ port other id, nextMap.lookup port = some id → nextMap.lookup other = some id →
    other = port
  lookup_iff : ∀ port id, id < callbacks.heap.made →
    (nextMap.lookup port = some id ↔ map.lookup port = some id ∧ ¬call.Frees port)

/-- The state behind a critical section. -/
def advanced (callbacks : SharedCallbacks) (call : CallbackCall)
    (map : AList fun _ : UInt16 => ℕ) (heap : SharedHeap CallbackStrategy)
    (holders : List Holder) (returned : List SharedReturn) : SharedCallbacks where
  callbackMap := some map
  heap := heap
  holders := holders
  accesses := callbacks.accesses ++ [call]
  returned := returned

section Sections

variable {callbacks : SharedCallbacks} {map nextMap : AList fun _ : UInt16 => ℕ}
  {call : CallbackCall} {nextHeap : SharedHeap CallbackStrategy} {holders : List Holder}
  {returned : List SharedReturn} {port : UInt16} {id position : ℕ}

theorem Since.advanced (since : callbacks.Since port id position)
    (isMap : callbacks.callbackMap = some map)
    (critical : callbacks.Section map call nextMap nextHeap) :
    (callbacks.advanced call nextMap nextHeap holders returned).Since port id position where
  position_lt := by
    simp only [SharedCallbacks.advanced, List.length_append, List.length_singleton]
    have before := since.position_lt
    omega
  id_lt := lt_of_lt_of_le since.id_lt critical.made_le
  only := by
    intro given isGiven other found
    cases isGiven
    exact since.only map isMap other ((critical.lookup_iff other id since.id_lt).mp found).1
  bound_iff := by
    intro given isGiven
    cases isGiven
    have room : position + 1 ≤ callbacks.accesses.length := since.position_lt
    rw [critical.lookup_iff port id since.id_lt, since.bound_iff map isMap]
    simp only [SharedCallbacks.advanced, List.drop_append_of_le_length room, List.forall_mem_append,
      List.forall_mem_singleton]

theorem registryAt_advanced (within : position < callbacks.accesses.length) :
    (callbacks.advanced call nextMap nextHeap holders returned).registryAt position =
      callbacks.registryAt position := by
  simp only [registryAt, SharedCallbacks.advanced, List.take_append_of_le_length (le_of_lt within)]

/-- The functions that were under way and the calls that had returned, and the new ones. -/
theorem Sound.advanced (sound : callbacks.Sound) (isMap : callbacks.callbackMap = some map)
    (critical : callbacks.Section map call nextMap nextHeap)
    (owned : nextHeap.Owned (addresses nextMap ++ holders.map Holder.id))
    (holds : ∀ holder ∈ holders, holder ∈ callbacks.holders ∨
      (callbacks.advanced call nextMap nextHeap holders returned).Holds holder)
    (answered : ∀ ended ∈ returned, ended ∈ callbacks.returned ∨
      (callbacks.advanced call nextMap nextHeap holders returned).WellAnswered ended) :
    (callbacks.advanced call nextMap nextHeap holders returned).Sound where
  owned := owned
  represents := by
    intro given isGiven
    cases isGiven
    rw [SharedCallbacks.advanced, registryAfter_snoc]
    exact critical.represents
  apart := by
    intro given isGiven
    cases isGiven
    exact critical.apart
  holds := by
    intro holder member
    rcases holds holder member with old | new
    · have before := sound.holds holder old
      rcases before.goes with ⟨strategy, found, bound, goes⟩
      refine ⟨before.since.advanced isMap critical, strategy, ?_, ?_, goes⟩
      · exact (critical.deref_eq holder old).trans found
      · rw [registryAt_advanced before.since.position_lt]
        exact bound
    · exact new
  returned := by
    intro ended member
    rcases answered ended member with old | new
    · have before := sound.returned ended old
      refine ⟨?_, ?_, ?_⟩
      · exact lt_of_lt_of_le before.position_lt (by simp [SharedCallbacks.advanced])
      · rw [registryAt_advanced before.position_lt]
        exact before.answered
      · intro port id isLookup isAddress
        exact (before.since port id isLookup isAddress).advanced isMap critical
    · exact new

theorem mem_pointers (isMap : callbacks.callbackMap = some map)
    (found : map.lookup port = some id) : id ∈ callbacks.pointers := by
  rw [pointers, isMap]
  exact List.mem_append_left _ (mem_addresses.mpr ⟨port, found⟩)

theorem Sound.owned_map (sound : callbacks.Sound) (isMap : callbacks.callbackMap = some map) :
    callbacks.heap.Owned (addresses map ++ callbacks.holders.map Holder.id) := by
  have owned := sound.owned
  rw [pointers, isMap] at owned
  exact owned

theorem Sound.exists_bound (sound : callbacks.Sound) (isMap : callbacks.callbackMap = some map)
    (found : map.lookup port = some id) :
    ∃ strategy, callbacks.heap.deref id = some strategy ∧
      (registryAfter callbacks.accesses).lookup port = some strategy := by
  rcases sound.owned.exists_object (mem_pointers isMap found) with ⟨strategy, isStrategy⟩
  refine ⟨strategy, isStrategy, ?_⟩
  rw [← sound.represents map isMap port, found]
  exact isStrategy

theorem Sound.lookup_eq_none (sound : callbacks.Sound) (isMap : callbacks.callbackMap = some map)
    (free : map.lookup port = none) : (registryAfter callbacks.accesses).lookup port = none := by
  rw [← sound.represents map isMap port, free]
  rfl

/-- The map stays as it is. -/
theorem Sound.section_same (sound : callbacks.Sound) (isMap : callbacks.callbackMap = some map)
    (made : nextHeap.made = callbacks.heap.made)
    (derefs : ∀ pointer ∈ callbacks.pointers,
      nextHeap.deref pointer = callbacks.heap.deref pointer)
    (same : ∀ port, ((registryAfter callbacks.accesses).after call).lookup port =
      (registryAfter callbacks.accesses).lookup port)
    (keeps : ∀ port id, map.lookup port = some id → ¬call.Frees port) :
    callbacks.Section map call map nextHeap where
  made_le := le_of_eq made.symm
  deref_eq := by
    intro holder member
    exact derefs holder.id (List.mem_append_right _ (List.mem_map_of_mem member))
  represents := by
    intro port
    rw [same, ← sound.represents map isMap port]
    cases found : map.lookup port with
    | none => rfl
    | some id => exact derefs id (mem_pointers isMap found)
  apart := sound.apart map isMap
  lookup_iff := by
    intro port id _
    refine ⟨fun found => ⟨found, keeps port id found⟩, And.left⟩

/-- A new strategy is put at a port that was free. -/
theorem Sound.section_insert (sound : callbacks.Sound) (isMap : callbacks.callbackMap = some map)
    {strategy : CallbackStrategy} (valid : strategy.Valid)
    (free : map.lookup strategy.port = none) :
    callbacks.Section map (.registerCallback (some strategy))
      (map.insert strategy.port callbacks.heap.made) (callbacks.heap.makeShared strategy) where
  made_le := Nat.le_succ _
  deref_eq := by
    intro holder member
    have before := (sound.holds holder member).since.id_lt
    rw [SharedHeap.deref_makeShared, if_neg (by omega)]
  represents := by
    intro port
    have registryFree := sound.lookup_eq_none isMap free
    rw [CallbackRegistry.after_registered valid registryFree, CallbackRegistry.lookup,
      CallbackRegistry.strategies_bind]
    by_cases here : port = strategy.port
    · rw [here, AList.lookup_insert, Finmap.lookup_insert, Option.bind_some,
        SharedHeap.deref_makeShared, if_pos rfl]
    · rw [AList.lookup_insert_ne here, Finmap.lookup_insert_of_ne _ here,
        ← CallbackRegistry.lookup, ← sound.represents map isMap port]
      cases found : map.lookup port with
      | none => rfl
      | some id =>
          have old := sound.owned.lt_made (mem_pointers isMap found)
          rw [Option.bind_some, Option.bind_some, SharedHeap.deref_makeShared, if_neg (by omega)]
  apart := by
    have new (port : UInt16) (found : map.lookup port = some callbacks.heap.made) : False :=
      absurd (sound.owned.lt_made (mem_pointers isMap found)) (Nat.lt_irrefl _)
    intro port other id found foundOther
    by_cases here : port = strategy.port
    · rw [here, AList.lookup_insert] at found
      cases found
      by_cases there : other = strategy.port
      · rw [here, there]
      · rw [AList.lookup_insert_ne there] at foundOther
        exact (new other foundOther).elim
    · rw [AList.lookup_insert_ne here] at found
      by_cases there : other = strategy.port
      · rw [there, AList.lookup_insert] at foundOther
        cases foundOther
        exact (new port found).elim
      · rw [AList.lookup_insert_ne there] at foundOther
        exact sound.apart map isMap port other id found foundOther
  lookup_iff := by
    intro port id old
    by_cases here : port = strategy.port
    · rw [here, AList.lookup_insert, free]
      refine ⟨?_, ?_⟩
      · intro same
        cases same
        exact absurd old (Nat.lt_irrefl _)
      · rintro ⟨impossible, _⟩
        cases impossible
    · rw [AList.lookup_insert_ne here]
      exact ⟨fun found => ⟨found, fun frees => frees⟩, And.left⟩

/-- The strategy of a port is taken out. -/
theorem Sound.section_erase (sound : callbacks.Sound) (isMap : callbacks.callbackMap = some map)
    (made : nextHeap.made = callbacks.heap.made)
    (derefs : ∀ pointer ∈ addresses (map.erase port) ++ callbacks.holders.map Holder.id,
      nextHeap.deref pointer = callbacks.heap.deref pointer) :
    callbacks.Section map (.deregisterCallback port) (map.erase port) nextHeap where
  made_le := le_of_eq made.symm
  deref_eq := by
    intro holder member
    exact derefs holder.id (List.mem_append_right _ (List.mem_map_of_mem member))
  represents := by
    intro other
    rw [CallbackRegistry.after, CallbackRegistry.lookup, CallbackRegistry.strategies_unbind]
    by_cases here : other = port
    · rw [here, AList.lookup_erase, Finmap.lookup_erase]
      rfl
    · rw [Finmap.lookup_erase_ne here, ← CallbackRegistry.lookup,
        ← sound.represents map isMap other, AList.lookup_erase_ne here]
      cases found : map.lookup other with
      | none => rfl
      | some id =>
          apply derefs
          refine List.mem_append_left _ (mem_addresses.mpr ⟨other, ?_⟩)
          rw [AList.lookup_erase_ne here]
          exact found
  apart := by
    intro first second id found foundSecond
    by_cases here : first = port
    · rw [here, AList.lookup_erase] at found
      cases found
    · by_cases there : second = port
      · rw [there, AList.lookup_erase] at foundSecond
        cases foundSecond
      · rw [AList.lookup_erase_ne here] at found
        rw [AList.lookup_erase_ne there] at foundSecond
        exact sound.apart map isMap first second id found foundSecond
  lookup_iff := by
    intro other id _
    by_cases here : other = port
    · subst here
      simp [CallbackCall.Frees]
    · rw [AList.lookup_erase_ne here]
      exact ⟨fun found => ⟨found, fun same => here same.symm⟩, And.left⟩

theorem Sound.section_clear (made : nextHeap.made = callbacks.heap.made)
    (derefs : ∀ pointer ∈ callbacks.holders.map Holder.id,
      nextHeap.deref pointer = callbacks.heap.deref pointer) :
    callbacks.Section map .clear ∅ nextHeap where
  made_le := le_of_eq made.symm
  deref_eq holder member := derefs holder.id (List.mem_map_of_mem member)
  represents port := rfl
  apart := by
    intro port other id found
    cases found
  lookup_iff := by
    intro port id _
    simp [CallbackCall.Frees]

/-! ### Calls -/

theorem after_managerCall_lookUp (registry : CallbackRegistry) (lookup : StrategyLookup)
    (port : UInt16) : registry.after (SharedCall.lookUp lookup port).managerCall = registry := by
  cases lookup <;> rfl

theorem not_frees_lookUp (lookup : StrategyLookup) (port other : UInt16) :
    ¬(SharedCall.lookUp lookup other).managerCall.Frees port := by
  cases lookup <;> exact fun frees => frees

/-- A call that has returned behind its critical section. -/
theorem Sound.answer (sound : callbacks.Sound) (isMap : callbacks.callbackMap = some map)
    {call : SharedCall} {reply : SharedReply}
    (critical : callbacks.Section map call.managerCall nextMap nextHeap)
    (owned : nextHeap.Owned (addresses nextMap ++ callbacks.holders.map Holder.id))
    (answered : call.Answered (registryAfter callbacks.accesses) [] reply)
    (noAddress : ∀ id, reply ≠ .address (some id)) :
    (callbacks.answer call nextMap nextHeap reply).Sound := by
  refine sound.advanced isMap critical owned (fun _ member => Or.inl member) ?_
  intro ended member
  rcases List.mem_append.mp member with old | new
  · exact Or.inl old
  · rw [List.mem_singleton.mp new]
    refine Or.inr ⟨?_, ?_, ?_⟩
    · simp [SharedCallbacks.advanced]
    · simpa only [registryAt, SharedCallbacks.advanced, List.take_left] using answered
    · intro port id _ isAddress
      exact absurd isAddress (noAddress id)

theorem Sound.enter_registerStrategy (sound : callbacks.Sound)
    (isMap : callbacks.callbackMap = some map) {strategy : CallbackStrategy}
    (valid : validateStrategy (some strategy) = true) :
    ∃ next, callbacks.enter map (.registerStrategy (some strategy)) = some next ∧
      next.Sound := by
  have owned := sound.owned_map isMap
  have isValid := (validateStrategy_iff strategy).mp valid
  refine ⟨_, rfl, ?_⟩
  cases found : map.lookup strategy.port with
  | some id =>
      rcases sound.exists_bound isMap found with ⟨bound, _, taken⟩
      refine sound.answer isMap ?_ owned ⟨_, rfl, .portExists taken⟩ nofun
      refine sound.section_same isMap rfl (fun _ _ => rfl) ?_ (fun _ _ _ frees => frees)
      intro port
      rw [SharedCall.managerCall, CallbackRegistry.after_refused]
      rintro ⟨_, free⟩
      rw [taken] at free
      cases free
  | none =>
      refine sound.answer isMap (sound.section_insert isMap isValid found) ?_
        ⟨_, rfl, .registered (sound.lookup_eq_none isMap found)⟩ nofun
      rw [addresses_insert found]
      exact owned.makeShared strategy

theorem Sound.enter_deregisterStrategy (sound : callbacks.Sound)
    (isMap : callbacks.callbackMap = some map) (port : UInt16) :
    ∃ next, callbacks.enter map (.deregisterStrategy port) = some next ∧ next.Sound := by
  have owned := sound.owned_map isMap
  simp only [enter]
  cases found : map.lookup port with
  | none =>
      have free := sound.lookup_eq_none isMap found
      refine ⟨_, rfl, sound.answer isMap ?_ owned ⟨_, rfl, .portNotFound free⟩
        fun _ same => by cases same⟩
      refine sound.section_same isMap rfl (fun _ _ => rfl) ?_ ?_
      · intro other
        by_cases here : other = port
        · rw [here, free]
          simp [SharedCall.managerCall, CallbackRegistry.after, CallbackRegistry.lookup]
        · simp [SharedCall.managerCall, CallbackRegistry.after, CallbackRegistry.lookup,
            Finmap.lookup_erase_ne here]
      · intro other id foundOther frees
        have same : port = other := frees
        rw [← same, found] at foundOther
        cases foundOther
  | some id =>
      have split : callbacks.heap.Owned
          (id :: (addresses (map.erase port) ++ callbacks.holders.map Holder.id)) :=
        owned.perm ((addresses_erase found).append_right _)
      rcases split.drop with ⟨heap, dropped, ownedNext, made, derefs⟩
      rcases sound.exists_bound isMap found with ⟨bound, _, taken⟩
      refine ⟨callbacks.answer (.deregisterStrategy port) (map.erase port) heap
        (.reply (.status .success)), by simp only [dropped, Option.map_some], ?_⟩
      exact sound.answer isMap (sound.section_erase isMap made derefs) ownedNext
        ⟨_, rfl, .deregistered taken⟩ fun _ same => by cases same

theorem Sound.enter_clear (sound : callbacks.Sound) (isMap : callbacks.callbackMap = some map) :
    ∃ next, callbacks.enter map .clear = some next ∧ next.Sound := by
  have owned := sound.owned_map isMap
  rcases owned.dropAll with ⟨heap, dropped, ownedNext, made, derefs⟩
  refine ⟨callbacks.answer .clear ∅ heap (.reply .nothing),
    by simp only [enter, dropped, Option.map_some], ?_⟩
  exact sound.answer isMap (section_clear made derefs) ownedNext ⟨_, rfl, .cleared⟩ nofun

theorem Sound.enter_lookUp (sound : callbacks.Sound) (isMap : callbacks.callbackMap = some map)
    (lookup : StrategyLookup) (port : UInt16) :
    ∃ next, callbacks.enter map (.lookUp lookup port) = some next ∧ next.Sound := by
  have owned := sound.owned_map isMap
  have same (other : UInt16) : ((registryAfter callbacks.accesses).after
      (SharedCall.lookUp lookup port).managerCall).lookup other =
        (registryAfter callbacks.accesses).lookup other := by
    rw [after_managerCall_lookUp]
  simp only [enter]
  cases found : map.lookup port with
  | none =>
      refine ⟨_, rfl, sound.answer isMap ?_ owned
        (answered_notFound (sound.lookup_eq_none isMap found) lookup) ?_⟩
      · exact sound.section_same isMap rfl (fun _ _ => rfl) same
          (fun other _ _ => not_frees_lookUp lookup other port)
      · intro id
        cases lookup <;> exact nofun
  | some id =>
      have pointer := mem_pointers isMap found
      rcases sound.owned.copy pointer with ⟨heap, copied, ownedNext, made, derefs⟩
      rcases sound.exists_bound isMap found with ⟨bound, isBound, taken⟩
      have critical := sound.section_same isMap made derefs same
        (fun other _ _ => not_frees_lookUp lookup other port)
      refine ⟨callbacks.advanced (SharedCall.lookUp lookup port).managerCall map heap
        (callbacks.holders ++
          [⟨lookup, port, callbacks.accesses.length, id, lookup.found id, []⟩])
        callbacks.returned, ?_, ?_⟩
      · simp only [copied, Option.map_some, SharedCallbacks.advanced, isMap]
      · refine sound.advanced isMap critical ?_ ?_ (fun _ member => Or.inl member)
        · rw [List.map_append]
          apply ownedNext.perm
          rw [pointers, isMap]
          exact (List.perm_append_singleton _ _).symm.trans (by simp)
        · intro holder member
          rcases List.mem_append.mp member with old | new
          · exact Or.inl old
          · rw [List.mem_singleton.mp new]
            refine Or.inr ⟨⟨?_, ?_, ?_, ?_⟩, bound, ?_, ?_, .start⟩
            · simp [SharedCallbacks.advanced]
            · exact made.symm ▸ sound.owned.lt_made pointer
            · intro given isGiven other foundOther
              cases isGiven
              exact sound.apart map isMap port other id found foundOther
            · intro given isGiven
              cases isGiven
              simp [SharedCallbacks.advanced, found]
            · exact (derefs id pointer).trans isBound
            · simpa only [registryAt, SharedCallbacks.advanced, List.take_left] using taken

theorem Sound.step_call (sound : callbacks.Sound) (isMap : callbacks.callbackMap = some map)
    (call : SharedCall) : ∃ next, callbacks.step (.call call) = some next ∧ next.Sound := by
  simp only [step, isMap, Option.bind_some]
  by_cases accepted : call.accepted = true
  · rw [if_pos accepted]
    cases call with
    | registerStrategy strategy =>
        cases strategy with
        | none => exact ⟨callbacks, rfl, sound⟩
        | some strategy => exact sound.enter_registerStrategy isMap accepted
    | deregisterStrategy port => exact sound.enter_deregisterStrategy isMap port
    | clear => exact sound.enter_clear isMap
    | lookUp lookup port => exact sound.enter_lookUp isMap lookup port
  · rw [if_neg accepted]
    exact ⟨callbacks, rfl, sound⟩

end Sections

/-! ### Outside the critical sections -/

section Moves

variable {callbacks next : SharedCallbacks} {holder : Holder} {index : ℕ}

theorem Since.of_eq {port : UInt16} {id position : ℕ}
    (since : callbacks.Since port id position)
    (map : ∀ map, next.callbackMap = some map → callbacks.callbackMap = some map)
    (accesses : next.accesses = callbacks.accesses) (made : next.heap.made = callbacks.heap.made) :
    next.Since port id position where
  position_lt := by
    rw [accesses]
    exact since.position_lt
  id_lt := by
    rw [made]
    exact since.id_lt
  only given isGiven := since.only given (map given isGiven)
  bound_iff given isGiven := by
    rw [accesses]
    exact since.bound_iff given (map given isGiven)

/-- A step outside the critical sections, which may drop pointers. -/
theorem Sound.of_eq (sound : callbacks.Sound)
    (map : ∀ map, next.callbackMap = some map → callbacks.callbackMap = some map)
    (accesses : next.accesses = callbacks.accesses) (made : next.heap.made = callbacks.heap.made)
    (owned : next.heap.Owned next.pointers)
    (derefs : ∀ pointer ∈ next.pointers,
      next.heap.deref pointer = callbacks.heap.deref pointer)
    (holds : ∀ holder ∈ next.holders, ∃ before ∈ callbacks.holders, ∃ program runs,
      holder = { before with program := program, runs := runs } ∧
        ∀ strategy, callbacks.heap.deref before.id = some strategy →
          (before.lookup.found before.id).Goes strategy before.runs before.program →
            (before.lookup.found before.id).Goes strategy runs program)
    (returned : ∀ ended ∈ next.returned, ended ∈ callbacks.returned ∨
      next.WellAnswered ended) : next.Sound where
  owned := owned
  represents := by
    intro given isGiven port
    rw [accesses, ← sound.represents given (map given isGiven) port]
    cases found : given.lookup port with
    | none => rfl
    | some id => exact derefs id (mem_pointers isGiven found)
  apart given isGiven := sound.apart given (map given isGiven)
  holds := by
    intro holder member
    rcases holds holder member with ⟨before, wasHolder, program, runs, rfl, goesOn⟩
    have beforeHolds := sound.holds before wasHolder
    rcases beforeHolds.goes with ⟨strategy, isStrategy, bound, goes⟩
    refine ⟨beforeHolds.since.of_eq map accesses made, strategy, ?_, ?_, ?_⟩
    · refine (derefs before.id (List.mem_append_right _ ?_)).trans isStrategy
      exact List.mem_map.mpr ⟨_, member, rfl⟩
    · rw [registryAt, accesses]
      exact bound
    · exact goesOn strategy isStrategy goes
  returned := by
    intro ended member
    rcases returned ended member with old | new
    · have before := sound.returned ended old
      refine ⟨?_, ?_, ?_⟩
      · rw [accesses]
        exact before.position_lt
      · rw [registryAt, accesses]
        exact before.answered
      · intro port id isLookup isAddress
        exact (before.since port id isLookup isAddress).of_eq map accesses made
    · exact new

/-- The program of one function goes on. -/
theorem Sound.set (sound : callbacks.Sound) (found : callbacks.holders[index]? = some holder)
    (program : HolderProgram) (runs : List (CallbackUse × CallbackOutcome))
    (goesOn : ∀ strategy, callbacks.heap.deref holder.id = some strategy →
      (holder.lookup.found holder.id).Goes strategy holder.runs holder.program →
        (holder.lookup.found holder.id).Goes strategy runs program) :
    { callbacks with
      holders := callbacks.holders.set index
        { holder with program := program, runs := runs } }.Sound := by
  have isHolder := List.mem_of_getElem? found
  have ids : (callbacks.holders.set index { holder with program := program, runs := runs }).map
      Holder.id = callbacks.holders.map Holder.id := by
    rcases List.getElem?_eq_some_iff.mp found with ⟨within, isAt⟩
    have inMap : index < (callbacks.holders.map Holder.id).length := by
      rw [List.length_map]
      exact within
    have here : (callbacks.holders.map Holder.id)[index] = holder.id := by
      rw [List.getElem_map, isAt]
    rw [List.map_set, ← here, List.set_getElem_self]
  refine sound.of_eq (fun _ isMap => isMap) rfl rfl ?_ (fun _ _ => rfl) ?_
    (fun _ member => Or.inl member)
  · simp only [pointers, ids]
    exact sound.owned
  · intro other member
    rcases List.mem_or_eq_of_mem_set member with old | rfl
    · exact ⟨other, old, other.program, other.runs, rfl, fun _ _ goes => goes⟩
    · exact ⟨holder, isHolder, program, runs, rfl, goesOn⟩

theorem Sound.step_read (sound : callbacks.Sound) (found : callbacks.holders[index]? = some holder)
    {later : CallbackStrategy → HolderProgram} (reads : holder.program = .read later) :
    ∃ next, callbacks.step (.move index) = some next ∧ next.Sound := by
  rcases (sound.holds holder (List.mem_of_getElem? found)).goes with ⟨strategy, isStrategy, _⟩
  refine ⟨_, by simp only [step, found, Option.bind_some, reads, isStrategy, Option.map_some],
    sound.set found (later strategy) holder.runs ?_⟩
  intro other isOther goes
  rw [isStrategy] at isOther
  cases isOther
  rw [reads] at goes
  exact goes.read

theorem Sound.step_userReturns (sound : callbacks.Sound)
    (found : callbacks.holders[index]? = some holder) {code : CallbackUse}
    {later : CallbackOutcome → HolderProgram} (uses : holder.program = .use code later)
    (outcome : CallbackOutcome) :
    ∃ next, callbacks.step (.userReturns index outcome) = some next ∧ next.Sound := by
  refine ⟨_, by simp only [step, found, Option.bind_some, uses],
    sound.set found (later outcome) (holder.runs ++ [(code, outcome)]) ?_⟩
  intro strategy _ goes
  rw [uses] at goes
  exact goes.used outcome

/-- A function returns and drops its pointer. -/
theorem Sound.step_done (sound : callbacks.Sound) (found : callbacks.holders[index]? = some holder)
    {reply : SharedReply} (done : holder.program = .done reply) :
    ∃ next, callbacks.step (.move index) = some next ∧ next.Sound := by
  have isHolder := List.mem_of_getElem? found
  rcases List.getElem?_eq_some_iff.mp found with ⟨within, isAt⟩
  have rest : (callbacks.holders.map Holder.id).Perm
      (holder.id :: (callbacks.holders.eraseIdx index).map Holder.id) := by
    rw [← List.map_cons, ← isAt]
    exact ((List.getElem_cons_eraseIdx_perm within).map Holder.id).symm
  have split : callbacks.heap.Owned (holder.id :: (callbacks.callbackMap.elim [] addresses ++
      (callbacks.holders.eraseIdx index).map Holder.id)) :=
    sound.owned.perm ((rest.append_left _).trans List.perm_middle)
  rcases split.drop with ⟨heap, dropped, ownedNext, made, derefs⟩
  refine ⟨_, by simp only [step, found, Option.bind_some, done, dropped, Option.map_some]; rfl,
    ?_⟩
  refine sound.of_eq (fun _ isMap => isMap) rfl made ownedNext derefs ?_ ?_
  · intro other member
    exact ⟨other, List.mem_of_mem_eraseIdx member, other.program, other.runs, rfl,
      fun _ _ goes => goes⟩
  · intro ended member
    rcases List.mem_append.mp member with old | new
    · exact Or.inl old
    · have holds := sound.holds holder isHolder
      rcases holds.goes with ⟨strategy, _, bound, goes⟩
      rw [done] at goes
      rcases answered_found bound goes with ⟨answered, isId⟩
      rw [List.mem_singleton.mp new]
      refine Or.inr ⟨holds.since.position_lt, answered, ?_⟩
      intro port id isLookup isAddress
      simp only [SharedCall.lookUp.injEq] at isLookup
      rw [isId id isLookup.1 isAddress, ← isLookup.2]
      exact holds.since.of_eq (fun _ isMap => isMap) rfl made

theorem Sound.step_destroy (sound : callbacks.Sound) {map : AList fun _ : UInt16 => ℕ}
    (isMap : callbacks.callbackMap = some map) :
    ∃ next, callbacks.step .destroy = some next ∧ next.Sound := by
  rcases (sound.owned_map isMap).dropAll with ⟨heap, dropped, ownedNext, made, derefs⟩
  refine ⟨_, by simp only [step, isMap, Option.bind_some, dropped, Option.map_some]; rfl, ?_⟩
  refine sound.of_eq nofun rfl made ownedNext derefs ?_ (fun _ member => Or.inl member)
  intro holder member
  exact ⟨holder, member, holder.program, holder.runs, rfl, fun _ _ goes => goes⟩

end Moves

/-! ## Over whole runs -/

/-- What a registry and the functions on it can do, and what they have done. A call of a registry
that is there, its destruction, and each function under way can go on: nothing that they use is
gone. A strategy is there exactly as long as it is at a port or a function has a pointer to it. -/
structure Safe (callbacks : SharedCallbacks) : Prop where
  calls : callbacks.callbackMap ≠ none → ∀ call, (callbacks.step (.call call)).isSome = true
  destroyed : callbacks.callbackMap ≠ none → (callbacks.step .destroy).isSome = true
  goesOn : ∀ (index : ℕ) (holder : Holder), callbacks.holders[index]? = some holder →
    match holder.program with
    | .use _ _ => ∀ outcome, (callbacks.step (.userReturns index outcome)).isSome = true
    | .read _ | .done _ => (callbacks.step (.move index)).isSome = true
  reads : ∀ holder ∈ callbacks.holders, ∃ strategy,
    callbacks.heap.deref holder.id = some strategy ∧
      (callbacks.registryAt holder.position).lookup holder.port = some strategy
  alive_iff : ∀ id, callbacks.heap.Alive id ↔
    (∃ map port, callbacks.callbackMap = some map ∧ map.lookup port = some id) ∨
      ∃ holder ∈ callbacks.holders, holder.id = id
  answered : ∀ ended ∈ callbacks.returned,
    ended.call.Answered (callbacks.registryAt ended.position) ended.runs ended.reply

variable {callbacks final : SharedCallbacks}

theorem Sound.alive_iff (sound : callbacks.Sound) (id : ℕ) :
    callbacks.heap.Alive id ↔
      (∃ map port, callbacks.callbackMap = some map ∧ map.lookup port = some id) ∨
        ∃ holder ∈ callbacks.holders, holder.id = id := by
  rw [sound.owned.alive_iff, pointers, List.mem_append, List.mem_map]
  apply or_congr_left
  cases isMap : callbacks.callbackMap with
  | none => simp
  | some map =>
      rw [Option.elim_some, mem_addresses]
      refine ⟨?_, ?_⟩
      · rintro ⟨port, found⟩
        exact ⟨map, port, rfl, found⟩
      · rintro ⟨_, port, same, found⟩
        cases same
        exact ⟨port, found⟩

theorem Sound.safe (sound : callbacks.Sound) : callbacks.Safe where
  calls := by
    intro there call
    rcases Option.ne_none_iff_exists'.mp there with ⟨map, isMap⟩
    rcases sound.step_call isMap call with ⟨next, stepped, _⟩
    rw [stepped]
    rfl
  destroyed := by
    intro there
    rcases Option.ne_none_iff_exists'.mp there with ⟨map, isMap⟩
    rcases sound.step_destroy isMap with ⟨next, stepped, _⟩
    rw [stepped]
    rfl
  goesOn := by
    intro index holder found
    cases place : holder.program with
    | read later =>
        rcases sound.step_read found place with ⟨next, stepped, _⟩
        simp [stepped]
    | use code later =>
        intro outcome
        rcases sound.step_userReturns found place outcome with ⟨next, stepped, _⟩
        rw [stepped]
        rfl
    | done reply =>
        rcases sound.step_done found place with ⟨next, stepped, _⟩
        simp [stepped]
  reads := by
    intro holder member
    rcases (sound.holds holder member).goes with ⟨strategy, isStrategy, bound, _⟩
    exact ⟨strategy, isStrategy, bound⟩
  alive_iff := sound.alive_iff
  answered ended member := (sound.returned ended member).answered

theorem Sound.step (sound : callbacks.Sound) {action : SharedAction} {next : SharedCallbacks}
    (stepped : callbacks.step action = some next) : next.Sound := by
  have only {given : SharedCallbacks}
      (isGiven : callbacks.step action = some given ∧ given.Sound) : next.Sound := by
    rw [stepped] at isGiven
    cases isGiven.1
    exact isGiven.2
  cases action with
  | call call =>
      cases isMap : callbacks.callbackMap with
      | none => simp [SharedCallbacks.step, isMap] at stepped
      | some map =>
          rcases sound.step_call isMap call with ⟨given, isGiven⟩
          exact only isGiven
  | destroy =>
      cases isMap : callbacks.callbackMap with
      | none => simp [SharedCallbacks.step, isMap] at stepped
      | some map =>
          rcases sound.step_destroy isMap with ⟨given, isGiven⟩
          exact only isGiven
  | move index =>
      cases found : callbacks.holders[index]? with
      | none => simp [SharedCallbacks.step, found] at stepped
      | some holder =>
          cases place : holder.program with
          | read later =>
              rcases sound.step_read found place with ⟨given, isGiven⟩
              exact only isGiven
          | use code later => simp [SharedCallbacks.step, found, place] at stepped
          | done reply =>
              rcases sound.step_done found place with ⟨given, isGiven⟩
              exact only isGiven
  | userReturns index outcome =>
      cases found : callbacks.holders[index]? with
      | none => simp [SharedCallbacks.step, found] at stepped
      | some holder =>
          cases place : holder.program with
          | use code later =>
              rcases sound.step_userReturns found place outcome with ⟨given, isGiven⟩
              exact only isGiven
          | read later => simp [SharedCallbacks.step, found, place] at stepped
          | done reply => simp [SharedCallbacks.step, found, place] at stepped

theorem sound_run {actions : List SharedAction}
    (ran : Interleaving.run SharedCallbacks.step create actions = some final) : final.Sound := by
  refine Interleaving.invariant_run ?_ sound_create ran
  intro state action next sound stepped
  exact sound.step stepped

/-- Whatever calls are made of a registry, in any order, and whatever comes between the steps of
those that use a strategy: no function ever uses a strategy that is gone, each uses the one that was
at its port when it looked, and a strategy goes with the last pointer to it. -/
theorem strategies_outlive_calls {actions : List SharedAction}
    (ran : Interleaving.run SharedCallbacks.step create actions = some final) : final.Safe :=
  (sound_run ran).safe

def onPort443 : CallbackStrategy where
  name := some (ascii "echo")
  port := 443
  parse := 1
  reply := 2

/-- A strategy is taken out and the registry destroyed while its function runs. -/
def destroyedMeanwhile : List SharedAction :=
  [.call (.registerStrategy (some onPort443)), .call (.lookUp (.invokeParse 3 4 5 6) 443), .move 0,
    .call (.deregisterStrategy 443), .destroy, .userReturns 0 (.returns 7), .move 0]

theorem strategies_outlive_calls_destroyedMeanwhile :
    ∃ final, Interleaving.run SharedCallbacks.step create destroyedMeanwhile = some final ∧
      final.Safe := by
  have runs : (Interleaving.run SharedCallbacks.step create destroyedMeanwhile).isSome = true := rfl
  rcases Option.isSome_iff_exists.mp runs with ⟨final, ran⟩
  exact ⟨final, ran, strategies_outlive_calls ran⟩

/-- The plain pointer that `callback_registry_get_strategy` has returned is good as long as the port
has not been set free and the registry is there, and then as long as somebody else has a shared
pointer to the strategy. -/
theorem address_alive_iff {actions : List SharedAction}
    (ran : Interleaving.run SharedCallbacks.step create actions = some final)
    {ended : SharedReturn} (isReturn : ended ∈ final.returned) {port : UInt16} {id : ℕ}
    (isLookup : ended.call = .lookUp .getStrategy port)
    (isAddress : ended.reply = .address (some id)) :
    final.heap.Alive id ↔
      (final.callbackMap ≠ none ∧
          ∀ call ∈ final.accesses.drop (ended.position + 1), ¬call.Frees port) ∨
        ∃ holder ∈ final.holders, holder.id = id := by
  have sound := sound_run ran
  have since := (sound.returned ended isReturn).since port id isLookup isAddress
  rw [sound.alive_iff]
  apply or_congr_left
  refine ⟨?_, ?_⟩
  · rintro ⟨map, other, isMap, found⟩
    have same := since.only map isMap other found
    subst same
    exact ⟨by simp [isMap], (since.bound_iff map isMap).mp found⟩
  · rintro ⟨there, kept⟩
    rcases Option.ne_none_iff_exists'.mp there with ⟨map, isMap⟩
    exact ⟨map, port, isMap, (since.bound_iff map isMap).mpr kept⟩

/-- The port is set free between the look-up and the return. -/
def freedBeforeReturn : List SharedAction :=
  [.call (.registerStrategy (some onPort443)), .call (.lookUp .getStrategy 443),
    .call (.deregisterStrategy 443), .move 0]

/-- The pointer that is returned there was never good. -/
theorem address_alive_iff_freedBeforeReturn :
    ∃ final, Interleaving.run SharedCallbacks.step create freedBeforeReturn = some final ∧
      ¬final.heap.Alive 0 := by
  have runs : (Interleaving.run SharedCallbacks.step create freedBeforeReturn).map
      (fun final => (final.holders, final.accesses, final.returned.getLast?)) =
        some ([], [.registerCallback (some onPort443), .getCallback 443, .deregisterCallback 443],
          some ⟨.lookUp .getStrategy 443, 1, [], .address (some 0)⟩) := rfl
  rcases Option.map_eq_some_iff.mp runs with ⟨final, ran, facts⟩
  simp only [Prod.mk.injEq] at facts
  rcases facts with ⟨holders, accesses, last⟩
  refine ⟨final, ran, ?_⟩
  rw [address_alive_iff ran (List.mem_of_getLast? last) rfl rfl, holders, accesses]
  rintro (⟨_, kept⟩ | ⟨_, member, _⟩)
  · exact kept (.deregisterCallback 443) (List.mem_singleton.mpr rfl) rfl
  · cases member

end SharedCallbacks

end HttpsServerSim
