import HttpsServerSim.Callback.CallbackRegistry
import Mathlib.Data.List.Induction

/-!
# Every interleaving of the calls refines the registry

A strategy that runs was looked up in the registry at the access of its call; what other calls, or
the strategy itself, make of the registry meanwhile does not matter to it.
-/

namespace HttpsServerSim

/-- The registry after a sequence of calls. -/
noncomputable def registryAfter (calls : List CallbackCall) : CallbackRegistry :=
  calls.foldl CallbackRegistry.after .empty

theorem registryAfter_snoc (calls : List CallbackCall) (call : CallbackCall) :
    registryAfter (calls ++ [call]) = (registryAfter calls).after call := by
  simp [registryAfter]

namespace CallbackStrategyManager

/-- The manager has the map of the registry. -/
def Represents (manager : CallbackStrategyManager) (registry : CallbackRegistry) : Prop :=
  manager.callbackMap.toFinmap = registry.strategies

variable {manager : CallbackStrategyManager} {registry : CallbackRegistry}

theorem Represents.lookup (represents : manager.Represents registry) (port : UInt16) :
    manager.callbackMap.lookup port = registry.lookup port := by
  rw [CallbackRegistry.lookup, ← represents, Finmap.lookup_toFinmap]

theorem Represents.registerCallback (represents : manager.Represents registry)
    {strategy : CallbackStrategy} (valid : strategy.Valid) :
    (manager.registerCallback strategy).2.Represents
      (registry.after (.registerCallback (some strategy))) := by
  have found := represents.lookup strategy.port
  unfold CallbackStrategyManager.registerCallback
  cases taken : registry.lookup strategy.port with
  | some bound =>
      rw [taken] at found
      rw [found, CallbackRegistry.after_refused (by simp [taken])]
      exact represents
  | none =>
      rw [taken] at found
      rw [found, CallbackRegistry.after_registered valid taken]
      unfold Represents
      rw [CallbackRegistry.strategies_bind, ← represents, Finmap.insert_toFinmap]

theorem Represents.deregisterCallback (represents : manager.Represents registry) (port : UInt16) :
    (manager.deregisterCallback port).2.Represents (registry.unbind port) := by
  have erased : (manager.callbackMap.erase port).toFinmap = (registry.unbind port).strategies := by
    rw [CallbackRegistry.strategies_unbind, ← represents, Finmap.erase_toFinmap]
  unfold CallbackStrategyManager.deregisterCallback
  cases found : manager.callbackMap.lookup port with
  | some bound => exact erased
  | none =>
      have absent : port ∉ manager.callbackMap.keys := AList.lookup_eq_none.mp found
      have same : manager.callbackMap.erase port = manager.callbackMap :=
        AList.ext (List.kerase_of_notMem_keys absent)
      rw [same] at erased
      exact erased

/-- One call. -/
theorem Represents.effect (represents : manager.Represents registry) (call : CallbackCall) :
    (call.effect manager).Represents (registry.after call) := by
  cases call with
  | registerCallback strategy =>
      cases strategy with
      | none => exact represents
      | some strategy =>
          simp only [CallbackCall.effect]
          split
          next valid => exact represents.registerCallback ((validateStrategy_iff strategy).mp valid)
          next invalid =>
            have refused : ¬strategy.Valid := fun valid =>
              invalid ((validateStrategy_iff strategy).mpr valid)
            rw [CallbackRegistry.after_refused (fun both => refused both.1)]
            exact represents
  | deregisterCallback port => exact represents.deregisterCallback port
  | clear => rfl
  | _ => exact represents

end CallbackStrategyManager

abbrev callbackManagerAfter (calls : List CallbackCall) : CallbackStrategyManager :=
  Monitor.stateAfter CallbackCall.effect .construct calls

theorem represents_after (calls : List CallbackCall) :
    (callbackManagerAfter calls).Represents (registryAfter calls) := by
  induction calls using List.reverseRecOn with
  | nil => rfl
  | append_singleton calls call ih =>
      rw [registryAfter_snoc, callbackManagerAfter, Monitor.stateAfter_snoc]
      exact ih.effect call

theorem CallbackStrategyManager.Represents.getCallbackCount {manager : CallbackStrategyManager}
    {registry : CallbackRegistry} (represents : manager.Represents registry) :
    manager.getCallbackCount.toNat = registry.size := by
  have keys : manager.callbackMap.entries.length = manager.callbackMap.keys.length :=
    (List.length_map _).symm
  have size : manager.callbackMap.keys.length = registry.size := by
    unfold CallbackRegistry.size
    rw [← represents]
    rfl
  have few : manager.callbackMap.keys.length ≤ 2 ^ 16 := by
    have distinct : (manager.callbackMap.keys.map UInt16.toNat).Nodup :=
      manager.callbackMap.keys_nodup.map fun _ _ => UInt16.toNat_inj.mp
    have within : manager.callbackMap.keys.map UInt16.toNat ⊆ List.range (2 ^ 16) := by
      intro port isPort
      rcases List.mem_map.mp isPort with ⟨key, _, rfl⟩
      exact List.mem_range.mpr key.toNat_lt
    have counted := (distinct.subperm within).length_le
    rwa [List.length_map, List.length_range] at counted
  have fits : manager.callbackMap.keys.length < UInt64.size := Nat.lt_of_le_of_lt few (by decide)
  unfold CallbackStrategyManager.getCallbackCount
  rw [keys, UInt64.toNat_ofNat_of_lt' fits, size]

/-! ## What a call does -/

namespace CallbackCall

theorem validateParseInvokeParams_iff {ctx input outResult : Pointer} {inLen : UInt32} :
    validateParseInvokeParams ctx input inLen outResult = true ↔
      ctx ≠ nullptr ∧ (inLen > 0 → input ≠ nullptr) ∧ outResult ≠ nullptr := by
  simp only [validateParseInvokeParams]
  grind

theorem validateReplyInvokeParams_iff {ctx out outLen outResult : Pointer} :
    validateReplyInvokeParams ctx out outLen outResult = true ↔
      ctx ≠ nullptr ∧ out ≠ nullptr ∧ outLen ≠ nullptr ∧ outResult ≠ nullptr := by
  simp only [validateReplyInvokeParams]
  grind

/-- A call after its critical section. -/
def rest (manager : CallbackStrategyManager) : CallbackCall → Program
  | .registerCallback none => .done (.status .invalidParam)
  | .registerCallback (some strategy) => .done (.status (manager.registerCallback strategy).1)
  | .getCallback port => .done (.strategy (manager.getCallback port))
  | .deregisterCallback port => .done (.status (manager.deregisterCallback port).1)
  | .clear => .done .nothing
  | .getCallbackCount => .done (.count manager.getCallbackCount)
  | .invokeParseCallback port ctx input inLen outResult =>
      invoke (parseFunction ctx input inLen) (parseAnswer outResult)
        (manager.callbackMap.lookup port)
  | .invokeReplyCallback port ctx out outLen outResult =>
      invoke (replyFunction ctx out outLen) (replyAnswer outLen outResult)
        (manager.callbackMap.lookup port)

variable {call : CallbackCall} {manager : CallbackStrategyManager} {registry : CallbackRegistry}
  {trace : List (Monitor.Move CallbackStrategyManager CallbackUse CallbackOutcome)}

theorem body_of_accepted (accepted : call.Accepted) :
    call.body = .acquire (.access call.effect fun manager => .release (call.rest manager)) := by
  cases call with
  | registerCallback strategy =>
      rcases accepted with ⟨given, rfl, valid⟩
      have passed := (validateStrategy_iff given).mpr valid
      simp only [body, effect, if_pos passed, rest]
  | getCallback _ | deregisterCallback _ | clear | getCallbackCount => rfl
  | invokeParseCallback _ _ _ _ _ => exact if_pos (validateParseInvokeParams_iff.mpr accepted)
  | invokeReplyCallback _ _ _ _ _ => exact if_pos (validateReplyInvokeParams_iff.mpr accepted)

theorem body_of_refused (refused : ¬call.Accepted) : call.body = .done call.refusal := by
  cases call with
  | registerCallback strategy =>
      cases strategy with
      | none => rfl
      | some given =>
          apply if_neg
          intro passed
          exact refused ⟨given, rfl, (validateStrategy_iff given).mp passed⟩
  | getCallback _ | deregisterCallback _ | clear | getCallbackCount => exact absurd trivial refused
  | invokeParseCallback _ _ _ _ _ => exact if_neg (refused ∘ validateParseInvokeParams_iff.mp)
  | invokeReplyCallback _ _ _ _ _ => exact if_neg (refused ∘ validateReplyInvokeParams_iff.mp)

theorem registerCallback_accepted_iff {strategy : Option CallbackStrategy} :
    (CallbackCall.registerCallback strategy).Accepted ↔ validateStrategy strategy = true := by
  cases strategy with
  | none => simp [Accepted, validateStrategy]
  | some given => simp [Accepted, validateStrategy_iff]

/-- The port that an invocation looks up, and the function of the strategy that it runs. -/
def invocation : CallbackCall → Option (UInt16 × (CallbackStrategy → CallbackUse))
  | .invokeParseCallback port ctx input inLen _ => some (port, parseFunction ctx input inLen)
  | .invokeReplyCallback port ctx out outLen _ => some (port, replyFunction ctx out outLen)
  | _ => none

/-- An invocation behind its look-up. -/
theorem invoke_follows {function : CallbackStrategy → CallbackUse}
    {answer : CallbackOutcome → CallbackReply} {found : Option CallbackStrategy}
    {program : Program} (follows : Monitor.Follows (invoke function answer found) trace program) :
    (found = none ∧ trace = [] ∧ program = .done (.invoked .strategyNotFound [])) ∨
      ∃ bound, found = some bound ∧
        ((trace = [] ∧ ∃ next, program = .use (function bound) next) ∨
          ∃ outcome, trace = [.used (function bound) outcome] ∧
            program = .done (answer outcome)) := by
  cases found with
  | none => exact Or.inl ⟨rfl, follows.of_done⟩
  | some bound =>
      refine Or.inr ⟨bound, rfl, ?_⟩
      rcases follows.of_last_use (fun _ => rfl) with ⟨same, place⟩ | ended
      · exact Or.inl ⟨same, _, place⟩
      · exact Or.inr ended

/-- A call that runs no strategy. -/
theorem answers_of_done {given reply : CallbackReply}
    (follows : Monitor.Follows (.done given) trace (.done reply))
    (answers : registry.Answers call [] given) :
    registry.Answers call (Monitor.runsOf trace) reply ∧
      ∀ position seen, .accessed position seen ∉ trace := by
  rcases follows.of_done with ⟨rfl, same⟩
  cases same
  exact ⟨answers, fun _ _ => List.not_mem_nil⟩

/-- The call accesses the manager no more. -/
theorem rest_answers (represents : manager.Represents registry) {reply : CallbackReply}
    (follows : Monitor.Follows (call.rest manager) trace (.done reply)) (accepted : call.Accepted) :
    registry.Answers call (Monitor.runsOf trace) reply ∧
      ∀ position seen, .accessed position seen ∉ trace := by
  cases call with
  | registerCallback strategy =>
      rcases accepted with ⟨given, rfl, valid⟩
      apply answers_of_done follows
      have found := represents.lookup given.port
      unfold CallbackStrategyManager.registerCallback
      cases taken : registry.lookup given.port with
      | none =>
          rw [found, taken]
          exact .registered taken
      | some bound =>
          rw [found, taken]
          exact .portExists taken
  | getCallback port =>
      apply answers_of_done follows
      rw [CallbackStrategyManager.getCallback, represents.lookup]
      exact .got port
  | deregisterCallback port =>
      apply answers_of_done follows
      have found := represents.lookup port
      unfold CallbackStrategyManager.deregisterCallback
      cases taken : registry.lookup port with
      | none =>
          rw [found, taken]
          exact .portNotFound taken
      | some bound =>
          rw [found, taken]
          exact .deregistered taken
  | clear => exact answers_of_done follows .cleared
  | getCallbackCount =>
      apply answers_of_done follows
      exact .counted represents.getCallbackCount
  | invokeParseCallback port ctx input inLen outResult =>
      rw [rest, represents.lookup] at follows
      rcases invoke_follows follows with ⟨free, rfl, same⟩ | ⟨bound, found, runs | ended⟩
      · cases same
        exact ⟨.noParse free, fun _ _ => List.not_mem_nil⟩
      · rcases runs with ⟨_, next, impossible⟩
        cases impossible
      · rcases ended with ⟨outcome, rfl, same⟩
        cases same
        refine ⟨?_, by simp⟩
        cases outcome with
        | returns result => exact .parsed found result
        | throws => exact .parseThrew found
  | invokeReplyCallback port ctx out outLen outResult =>
      rw [rest, represents.lookup] at follows
      rcases invoke_follows follows with ⟨free, rfl, same⟩ | ⟨bound, found, runs | ended⟩
      · cases same
        exact ⟨.noReply free, fun _ _ => List.not_mem_nil⟩
      · rcases runs with ⟨_, next, impossible⟩
        cases impossible
      · rcases ended with ⟨outcome, rfl, same⟩
        cases same
        refine ⟨?_, by simp⟩
        cases outcome with
        | returns result => exact .replied found result
        | throws => exact .replyThrew found

/-- A function runs that the registry has for the port. -/
theorem rest_uses (represents : manager.Represents registry) {code : CallbackUse}
    {next : CallbackOutcome → Program}
    (follows : Monitor.Follows (call.rest manager) trace (.use code next)) :
    trace = [] ∧ ∃ port function bound, call.invocation = some (port, function) ∧
      registry.lookup port = some bound ∧ code = function bound := by
  have running : ∀ {port function answer}, call.invocation = some (port, function) →
      Monitor.Follows (invoke function answer (registry.lookup port)) trace (.use code next) →
        trace = [] ∧ ∃ port function bound, call.invocation = some (port, function) ∧
          registry.lookup port = some bound ∧ code = function bound := by
    intro port function answer invokes continued
    rcases invoke_follows continued with ⟨_, _, impossible⟩ | ⟨bound, found, runs | ended⟩
    · cases impossible
    · rcases runs with ⟨rfl, _, same⟩
      cases same
      exact ⟨rfl, port, function, bound, invokes, found, rfl⟩
    · rcases ended with ⟨_, _, impossible⟩
      cases impossible
  cases call with
  | registerCallback strategy =>
      cases strategy with
      | none => cases follows.of_done.2
      | some given => cases follows.of_done.2
  | getCallback _ | deregisterCallback _ | clear | getCallbackCount => cases follows.of_done.2
  | invokeParseCallback port ctx input inLen outResult =>
      rw [rest, represents.lookup] at follows
      exact running rfl follows
  | invokeReplyCallback port ctx out outLen outResult =>
      rw [rest, represents.lookup] at follows
      exact running rfl follows

/-- Where an invocation stores what comes out of it. -/
def outputs : CallbackCall → List Pointer
  | .invokeParseCallback _ _ _ _ outResult => [outResult]
  | .invokeReplyCallback _ _ _ outLen outResult => [outResult, outLen]
  | _ => []

end CallbackCall

namespace CallbackReply

/-- The reply is an error. -/
def Failed : CallbackReply → Prop
  | .status error | .invoked error _ => error ≠ .success
  | _ => False

end CallbackReply

/-- Memory after some stores. -/
def store (stores : List (Pointer × UInt32)) (memory : Pointer → UInt32) : Pointer → UInt32 :=
  stores.foldl (fun memory store => Function.update memory store.1 store.2) memory

namespace CallbackRegistry

variable {registry : CallbackRegistry} {call : CallbackCall}
  {runs : List (CallbackUse × CallbackOutcome)} {reply : CallbackReply}

theorem Answers.unchanged (answers : registry.Answers call runs reply) (failed : reply.Failed) :
    registry.after call = registry := by
  cases answers with
  | registered _ | deregistered _ => exact absurd rfl failed
  | portExists taken =>
      apply after_refused
      rintro ⟨_, free⟩
      rw [taken] at free
      cases free
  | @portNotFound port free =>
      apply ext
      apply Finmap.ext_lookup
      intro other
      rw [after, strategies_unbind]
      by_cases same : other = port
      · rw [same, Finmap.lookup_erase]
        exact free.symm
      · exact Finmap.lookup_erase_ne same
  | cleared => exact failed.elim
  | got | counted _ | noParse _ | parsed _ _ | parseThrew _ | noReply _ | replied _ _
  | replyThrew _ => rfl

theorem Answers.registered_iff {strategy : Option CallbackStrategy}
    (answers : registry.Answers (.registerCallback strategy) runs reply) :
    reply = .status .success ↔
      ∀ given ∈ strategy, registry.lookup given.port = none := by
  cases answers with
  | registered free => simpa using free
  | portExists taken => simp [taken]

theorem Answers.threw {code : CallbackUse} (answers : registry.Answers call runs reply)
    (threw : (code, .throws) ∈ runs) :
    ∃ stores, reply = .invoked .callbackException stores ∧
      ∀ memory, ∀ output ∈ call.outputs, store stores memory output = 0 := by
  cases answers with
  | parseThrew found => exact ⟨_, rfl, by simp [CallbackCall.outputs, store]⟩
  | replyThrew found =>
      refine ⟨_, rfl, ?_⟩
      intro memory output isOutput
      simp only [CallbackCall.outputs, List.mem_cons, List.not_mem_nil, or_false] at isOutput
      simp only [store, List.foldl_cons, List.foldl_nil, Function.update_apply]
      split
      · rfl
      · rcases isOutput with rfl | rfl
        · simp
        · contradiction
  | parsed _ _ | replied _ _ => simp at threw
  | _ => cases threw

end CallbackRegistry

/-! ## Runs -/

namespace CallbackThreads

variable {Thread : Type} (threads : CallbackThreads Thread)

/-- The registry that the access at this place in the sequence finds. -/
noncomputable abbrev registryAt (position : ℕ) : CallbackRegistry :=
  registryAfter (Monitor.callsBefore threads.accesses position)

/-- The manager behaves as a finite map from ports to valid strategies, changed and read by each
call at its access. -/
structure RefinesMap : Prop where
  map : threads.state.Represents (registryAfter (threads.accesses.map Prod.snd))
  refused : ∀ call ∈ threads.returned, ¬call.call.Accepted →
    call.trace = [] ∧ call.reply = call.call.refusal
  answered : ∀ call ∈ threads.returned, call.call.Accepted → ∃ position,
    Monitor.AccessedAt threads.accesses call.serial call.call call.trace position ∧
      (∀ other, Monitor.AccessedAt threads.accesses call.serial call.call call.trace other →
        other = position) ∧
        (threads.registryAt position).Answers call.call (Monitor.runsOf call.trace) call.reply
  registered : ∀ call ∈ threads.returned, ∀ strategy, call.call = .registerCallback strategy →
    (call.reply = .status .success ↔ validateStrategy strategy = true ∧ ∃ position,
      Monitor.AccessedAt threads.accesses call.serial call.call call.trace position ∧
        ∀ given ∈ strategy, (threads.registryAt position).lookup given.port = none)
  unchanged : ∀ call ∈ threads.returned, call.reply.Failed → ∀ position,
    Monitor.AccessedAt threads.accesses call.serial call.call call.trace position →
      threads.registryAt (position + 1) = threads.registryAt position
  /-- The function that runs is the one that the access has found. -/
  running : ∀ thread, ∀ call ∈ threads.callStacks thread, ∀ code next,
    call.program = .use code next → Monitor.runsOf call.trace = [] ∧
      ∃ port function, call.call.invocation = some (port, function) ∧ ∃ position,
        Monitor.AccessedAt threads.accesses call.serial call.call call.trace position ∧
          ∃ bound, (threads.registryAt position).lookup port = some bound ∧ code = function bound
  threw : ∀ call ∈ threads.returned, ∀ code, (code, .throws) ∈ Monitor.runsOf call.trace →
    ∃ stores, call.reply = .invoked .callbackException stores ∧
      ∀ memory, ∀ output ∈ call.call.outputs, store stores memory output = 0
  /-- A call whose function runs is not in its critical section, nor is its thread in another. -/
  unlocked : ∀ thread, ∀ call ∈ threads.callStacks thread, call.program.Uses →
    Monitor.holding false call.trace = false ∧
      (call ∈ (threads.callStacks thread).head? → threads.holder ≠ some thread)

variable {threads} {serial : ℕ} {call : CallbackCall}
  {trace : List (Monitor.Move CallbackStrategyManager CallbackUse CallbackOutcome)}

/-- The calls recorded for the threads. -/
abbrev Recorded (threads : CallbackThreads Thread) (serial : ℕ) (call : CallbackCall)
    (trace : List (Monitor.Move CallbackStrategyManager CallbackUse CallbackOutcome)) : Prop :=
  Monitor.Recorded CallbackCall.effect .construct threads.accesses serial call trace

theorem answered_of_follows (recorded : threads.Recorded serial call trace)
    {reply : CallbackReply} (follows : Monitor.Follows call.body trace (.done reply))
    (accepted : call.Accepted) :
    ∃ position, Monitor.AccessedAt threads.accesses serial call trace position ∧
      (∀ other, Monitor.AccessedAt threads.accesses serial call trace other → other = position) ∧
        (threads.registryAt position).Answers call (Monitor.runsOf trace) reply := by
  rw [CallbackCall.body_of_accepted accepted] at follows
  rcases recorded.of_section follows trivial with ⟨position, later, place, only, runs, continued⟩
  rcases CallbackCall.rest_answers (represents_after _) continued accepted with ⟨answers, silent⟩
  refine ⟨position, place, ?_, ?_⟩
  · intro other accessed
    rcases only other accessed with same | ⟨seen, impossible⟩
    · exact same
    · exact absurd impossible (silent other seen)
  · rw [runs]
    exact answers

/-- For every interleaving of the calls, those made from within the strategies included. -/
theorem refinesMap [DecidableEq Thread]
    {actions : List (Monitor.Action Thread CallbackCall CallbackOutcome)}
    (ran : Interleaving.run step construct actions = some threads) : threads.RefinesMap := by
  have accounted := Monitor.accounted_run CallbackCall.body_applies ran
  have exclusive := Monitor.exclusive_run CallbackCall.body_disciplined ran
  have refused : ∀ call ∈ threads.returned, ¬call.call.Accepted →
      call.trace = [] ∧ call.reply = call.call.refusal := by
    intro call isReturned bad
    have follows := (accounted.returned call isReturned).1
    rw [CallbackCall.body_of_refused bad] at follows
    rcases follows.of_done with ⟨same, reply⟩
    exact ⟨same, Monitor.Program.done.inj reply⟩
  have answered : ∀ call ∈ threads.returned, call.call.Accepted → ∃ position,
      Monitor.AccessedAt threads.accesses call.serial call.call call.trace position ∧
        (∀ other, Monitor.AccessedAt threads.accesses call.serial call.call call.trace other →
          other = position) ∧
          (threads.registryAt position).Answers call.call (Monitor.runsOf call.trace)
            call.reply := by
    intro call isReturned good
    rcases accounted.returned call isReturned with ⟨follows, recorded⟩
    exact answered_of_follows recorded follows good
  refine ⟨?_, refused, answered, ?_, ?_, ?_, ?_, ?_⟩
  · have represents := represents_after (threads.accesses.map Prod.snd)
    rw [callbackManagerAfter, ← accounted.reached] at represents
    exact represents
  · intro call isReturned strategy registers
    rw [← CallbackCall.registerCallback_accepted_iff, ← registers]
    by_cases good : call.call.Accepted
    · rcases answered call isReturned good with ⟨p, place, only, answers⟩
      rw [registers] at answers
      rw [answers.registered_iff]
      refine ⟨fun free => ⟨good, p, place, free⟩, ?_⟩
      rintro ⟨_, position, access, free⟩
      rw [only position access] at free
      exact free
    · refine ⟨?_, fun both => absurd both.1 good⟩
      intro success
      rw [(refused call isReturned good).2, registers] at success
      cases success
  · intro call isReturned failed position place
    by_cases good : call.call.Accepted
    · rcases answered call isReturned good with ⟨p, _, only, answers⟩
      cases only position place
      rw [registryAt, Monitor.callsBefore_succ place.1, registryAfter_snoc]
      exact answers.unchanged failed
    · rcases place.2 with ⟨seen, accessed⟩
      rw [(refused call isReturned good).1] at accessed
      cases accessed
  · intro thread call isRunning code next place
    have runs := accounted.running thread call isRunning
    have follows := runs.follows
    rw [place] at follows
    by_cases good : call.call.Accepted
    · rw [CallbackCall.body_of_accepted good] at follows
      rcases runs.recorded.of_section follows trivial with
        ⟨position, later, access, _, same, continued⟩
      rcases CallbackCall.rest_uses (represents_after _) continued with
        ⟨rfl, port, function, bound, invokes, found, code⟩
      exact ⟨same, port, function, invokes, position, access, bound, found, code⟩
    · rw [CallbackCall.body_of_refused good] at follows
      cases follows.of_done.2
  · intro call isReturned code threw
    by_cases good : call.call.Accepted
    · rcases answered call isReturned good with ⟨_, _, _, answers⟩
      exact answers.threw threw
    · rw [(refused call isReturned good).1] at threw
      cases threw
  · intro thread call isRunning uses
    refine ⟨?_, fun isTop => exclusive.not_holder isTop uses⟩
    exact (accounted.running thread call isRunning).not_holding
      (CallbackCall.body_disciplined call.call) uses

/-- A strategy deregisters its own port and throws. -/
def deregistersInParse : List (Monitor.Action Bool CallbackCall CallbackOutcome) :=
  [.call true (.registerCallback (some ⟨some [65], 8443, 1, 2⟩)), .move true, .move true,
    .move true, .move true,
    .call true (.invokeParseCallback 8443 3 0 0 4), .move true, .move true, .move true,
    .call true (.deregisterCallback 8443), .move true, .move true, .move true, .move true,
    .call false (.invokeReplyCallback 8443 3 5 6 7), .move false, .move false, .move false,
    .move false, .userReturns true .throws, .move true]

theorem refinesMap_deregistersInParse :
    ∃ threads, Interleaving.run step construct deregistersInParse = some threads ∧
      threads.returned.map (fun call => Monitor.runsOf call.trace) =
        [[], [], [], [(.parse 1 3 0 0, .throws)]] ∧ threads.RefinesMap := by
  have seen : (Interleaving.run step construct deregistersInParse).map (fun threads =>
      threads.returned.map fun call => Monitor.runsOf call.trace) =
        some [[], [], [], [(.parse 1 3 0 0, .throws)]] := by
    decide +kernel
  rcases Option.map_eq_some_iff.mp seen with ⟨threads, ran, runs⟩
  exact ⟨threads, ran, runs, refinesMap ran⟩

end CallbackThreads

end HttpsServerSim
