import HttpsServerSim.Callback.CallbackStrategyManager
import Mathlib.Data.Finmap

/-!
# The callback strategy manager as a finite map

A registry is a finite map from ports other than zero to valid strategies. The manager refines it:
the accesses of all calls, in the order of their critical sections, are a sequence of operations
on a registry, and each call answers as the registry does at its access.
-/

namespace HttpsServerSim

/-- What a strategy in a registry is. -/
structure CallbackStrategy.Valid (strategy : CallbackStrategy) : Prop where
  named : ∃ name, strategy.name = some name ∧ 0 < (cString name).length ∧
    (cString name).length < callbackMaxStrategyNameLength
  port : strategy.port ≠ 0
  parse : strategy.parse ≠ nullptr
  reply : strategy.reply ≠ nullptr

theorem validateStrategy_iff (strategy : CallbackStrategy) :
    validateStrategy (some strategy) = true ↔ strategy.Valid := by
  refine ⟨?_, ?_⟩
  · intro passed
    cases given : strategy.name with
    | none => simp [validateStrategy, given] at passed
    | some name =>
        simp only [validateStrategy, given, strnlen_eq_min] at passed
        split at passed
        next => cases passed
        next length =>
          split at passed
          next => cases passed
          next port =>
            split at passed
            next => cases passed
            next functions =>
              refine ⟨⟨name, given, ?_, ?_⟩, port, (not_or.mp functions).1, (not_or.mp functions).2⟩
              · omega
              · omega
  · rintro ⟨⟨name, given, named, short⟩, port, parse, reply⟩
    simp only [validateStrategy, given, strnlen_eq_min]
    rw [if_neg (by omega), if_neg port, if_neg (not_or.mpr ⟨parse, reply⟩)]

/-! ## The registry -/

structure CallbackRegistry where
  strategies : Finmap fun _ : UInt16 => CallbackStrategy
  bound : ∀ {port : UInt16} {strategy : CallbackStrategy},
    strategies.lookup port = some strategy → port ≠ 0 ∧ strategy.port = port ∧ strategy.Valid

namespace CallbackRegistry

@[ext]
theorem ext {first second : CallbackRegistry} (same : first.strategies = second.strategies) :
    first = second := by
  cases first
  cases second
  cases same
  rfl

def empty : CallbackRegistry where
  strategies := ∅
  bound found := by simp at found

def lookup (registry : CallbackRegistry) (port : UInt16) : Option CallbackStrategy :=
  registry.strategies.lookup port

/-- A strategy is bound to its port. -/
def bind (registry : CallbackRegistry) (strategy : CallbackStrategy) (valid : strategy.Valid) :
    CallbackRegistry where
  strategies := registry.strategies.insert strategy.port strategy
  bound := by
    intro port other found
    by_cases same : port = strategy.port
    · subst same
      rw [Finmap.lookup_insert] at found
      cases found
      exact ⟨valid.port, rfl, valid⟩
    · rw [Finmap.lookup_insert_of_ne _ same] at found
      exact registry.bound found

/-- A port is set free. -/
def unbind (registry : CallbackRegistry) (port : UInt16) : CallbackRegistry where
  strategies := registry.strategies.erase port
  bound := by
    intro other strategy found
    by_cases same : other = port
    · subst same
      simp at found
    · rw [Finmap.lookup_erase_ne same] at found
      exact registry.bound found

@[simp]
theorem strategies_bind (registry : CallbackRegistry) (strategy : CallbackStrategy)
    (valid : strategy.Valid) :
    (registry.bind strategy valid).strategies =
      registry.strategies.insert strategy.port strategy :=
  rfl

@[simp]
theorem strategies_unbind (registry : CallbackRegistry) (port : UInt16) :
    (registry.unbind port).strategies = registry.strategies.erase port :=
  rfl

/-- How many ports are bound. -/
def size (registry : CallbackRegistry) : ℕ :=
  registry.strategies.keys.card

end CallbackRegistry

namespace CallbackCall

/-- The arguments of a call are as it asks for. -/
def Accepted : CallbackCall → Prop
  | .registerCallback strategy => ∃ given, strategy = some given ∧ given.Valid
  | .invokeParseCallback _ ctx input inLen outResult =>
      ctx ≠ nullptr ∧ (inLen > 0 → input ≠ nullptr) ∧ outResult ≠ nullptr
  | .invokeReplyCallback _ ctx out outLen outResult =>
      ctx ≠ nullptr ∧ out ≠ nullptr ∧ outLen ≠ nullptr ∧ outResult ≠ nullptr
  | _ => True

/-- The answer to arguments that are not. -/
def refusal : CallbackCall → CallbackReply
  | .registerCallback _ => .status .invalidParam
  | _ => .invoked .invalidParam []

end CallbackCall

namespace CallbackRegistry

open Classical in
/-- What a call makes of a registry. -/
noncomputable def after (registry : CallbackRegistry) : CallbackCall → CallbackRegistry
  | .registerCallback (some strategy) =>
      if free : strategy.Valid ∧ registry.lookup strategy.port = none then
        registry.bind strategy free.1
      else registry
  | .deregisterCallback port => registry.unbind port
  | .clear => empty
  | _ => registry

theorem after_registered {registry : CallbackRegistry} {strategy : CallbackStrategy}
    (valid : strategy.Valid) (free : registry.lookup strategy.port = none) :
    registry.after (.registerCallback (some strategy)) = registry.bind strategy valid :=
  dif_pos ⟨valid, free⟩

theorem after_refused {registry : CallbackRegistry} {strategy : CallbackStrategy}
    (refused : ¬(strategy.Valid ∧ registry.lookup strategy.port = none)) :
    registry.after (.registerCallback (some strategy)) = registry :=
  dif_neg refused

/-- What a registry answers to a call, and the functions that run for it. -/
inductive Answers (registry : CallbackRegistry) : CallbackCall →
    List (CallbackUse × CallbackOutcome) → CallbackReply → Prop where
  | registered {strategy : CallbackStrategy} (free : registry.lookup strategy.port = none) :
      Answers registry (.registerCallback (some strategy)) [] (.status .success)
  | portExists {strategy bound : CallbackStrategy}
      (taken : registry.lookup strategy.port = some bound) :
      Answers registry (.registerCallback (some strategy)) [] (.status .portExists)
  | got (port : UInt16) :
      Answers registry (.getCallback port) [] (.strategy (registry.lookup port))
  | deregistered {port : UInt16} {bound : CallbackStrategy}
      (found : registry.lookup port = some bound) :
      Answers registry (.deregisterCallback port) [] (.status .success)
  | portNotFound {port : UInt16} (free : registry.lookup port = none) :
      Answers registry (.deregisterCallback port) [] (.status .portNotFound)
  | cleared : Answers registry .clear [] .nothing
  | counted {count : UInt64} (counts : count.toNat = registry.size) :
      Answers registry .getCallbackCount [] (.count count)
  | noParse {port : UInt16} {ctx input : Pointer} {inLen : UInt32} {outResult : Pointer}
      (free : registry.lookup port = none) :
      Answers registry (.invokeParseCallback port ctx input inLen outResult) []
        (.invoked .strategyNotFound [])
  | parsed {port : UInt16} {ctx input : Pointer} {inLen : UInt32} {outResult : Pointer}
      {bound : CallbackStrategy} (found : registry.lookup port = some bound) (result : UInt32) :
      Answers registry (.invokeParseCallback port ctx input inLen outResult)
        [(.parse bound.parse ctx input inLen, .returns result)]
        (.invoked .success [(outResult, result)])
  | parseThrew {port : UInt16} {ctx input : Pointer} {inLen : UInt32} {outResult : Pointer}
      {bound : CallbackStrategy} (found : registry.lookup port = some bound) :
      Answers registry (.invokeParseCallback port ctx input inLen outResult)
        [(.parse bound.parse ctx input inLen, .throws)]
        (.invoked .callbackException [(outResult, 0)])
  | noReply {port : UInt16} {ctx out outLen outResult : Pointer}
      (free : registry.lookup port = none) :
      Answers registry (.invokeReplyCallback port ctx out outLen outResult) []
        (.invoked .strategyNotFound [])
  | replied {port : UInt16} {ctx out outLen outResult : Pointer} {bound : CallbackStrategy}
      (found : registry.lookup port = some bound) (result : UInt32) :
      Answers registry (.invokeReplyCallback port ctx out outLen outResult)
        [(.reply bound.reply ctx out outLen, .returns result)]
        (.invoked .success [(outResult, result)])
  | replyThrew {port : UInt16} {ctx out outLen outResult : Pointer} {bound : CallbackStrategy}
      (found : registry.lookup port = some bound) :
      Answers registry (.invokeReplyCallback port ctx out outLen outResult)
        [(.reply bound.reply ctx out outLen, .throws)]
        (.invoked .callbackException [(outResult, 0), (outLen, 0)])

end CallbackRegistry

end HttpsServerSim
