import Mathlib.Data.List.Basic

/-!
# Runs of transducers

A transducer takes an input and answers with a new state and a list of outputs.
The file has the run of a transducer over a list of inputs and the projection of a run
onto one component: if the inputs of others neither touch what the component is nor what
it says, then the component behaves as if it had been given its own inputs alone.
-/

namespace HttpsServerSim

universe u v w x y

/-- A deterministic machine with outputs. -/
structure Transducer (State : Type u) (Input : Type v) (Output : Type w) where
  step : State → Input → State × List Output

namespace Transducer

variable {State : Type u} {Input : Type v} {Output : Type w}

/-- The state after a list of inputs and the outputs on the way. -/
def run (machine : Transducer State Input Output) (state : State) :
    List Input → State × List Output
  | [] => (state, [])
  | input :: inputs =>
      let next := machine.step state input
      let later := machine.run next.1 inputs
      (later.1, next.2 ++ later.2)

variable (machine : Transducer State Input Output)

theorem run_append (state : State) (first second : List Input) :
    machine.run state (first ++ second) =
      ((machine.run (machine.run state first).1 second).1,
        (machine.run state first).2 ++ (machine.run (machine.run state first).1 second).2) := by
  induction first generalizing state with
  | nil => simp [run]
  | cons input first ih => simp [run, ih]

theorem run_concat (state : State) (inputs : List Input) (input : Input) :
    machine.run state (inputs ++ [input]) =
      ((machine.step (machine.run state inputs).1 input).1,
        (machine.run state inputs).2 ++ (machine.step (machine.run state inputs).1 input).2) := by
  simp [run_append, run]

section Operations

variable {Operation : Type x}

/-- Where every operation amounts to some inputs, the run of operations is the run of all of
them. -/
theorem run_flatMap {machine : Transducer State Input Output}
    {coarse : Transducer State Operation Output} {inputs : Operation → List Input}
    (amounts : ∀ state operation,
      machine.run state (inputs operation) = coarse.step state operation)
    (state : State) (operations : List Operation) :
    machine.run state (operations.flatMap inputs) = coarse.run state operations := by
  induction operations generalizing state with
  | nil => rfl
  | cons operation operations ih => rw [List.flatMap_cons, run_append, amounts, ih, run]

end Operations

section Projection

variable {Part : Type x} (component : Transducer Part Input Output)

/-- A component of a machine: which inputs are its own, which outputs are visible as its own, and
what part of the machine's state it is. Both kinds of input act on it as they should, in every
state that satisfies the invariant. -/
structure ComponentOf (Invariant : State → Prop) where
  part : State → Part
  own : Input → Bool
  visible : Output → Bool
  preserved : ∀ state input, Invariant state → Invariant (machine.step state input).1
  step_own : ∀ state input, Invariant state → own input = true →
    part (machine.step state input).1 = (component.step (part state) input).1 ∧
      (machine.step state input).2.filter visible = (component.step (part state) input).2
  step_other : ∀ state input, Invariant state → own input = false →
    part (machine.step state input).1 = part state ∧
      (machine.step state input).2.filter visible = []

/-- A run of the machine shows of a component the component's run on its own inputs. -/
theorem ComponentOf.run_eq {machine : Transducer State Input Output}
    {component : Transducer Part Input Output} {Invariant : State → Prop}
    (projection : machine.ComponentOf component Invariant) {state : State}
    (initially : Invariant state) (inputs : List Input) :
    projection.part (machine.run state inputs).1 =
        (component.run (projection.part state) (inputs.filter projection.own)).1 ∧
      (machine.run state inputs).2.filter projection.visible =
        (component.run (projection.part state) (inputs.filter projection.own)).2 := by
  induction inputs generalizing state with
  | nil => exact ⟨rfl, rfl⟩
  | cons input inputs ih =>
      rcases ih (projection.preserved state input initially) with ⟨part_eq, outputs_eq⟩
      simp only [run, List.filter_append]
      cases owned : projection.own input with
      | true =>
          rcases projection.step_own state input initially owned with ⟨part_step, outputs_step⟩
          rw [part_step] at part_eq outputs_eq
          rw [List.filter_cons_of_pos owned, part_eq, outputs_eq, outputs_step]
          exact ⟨rfl, rfl⟩
      | false =>
          rcases projection.step_other state input initially owned with ⟨part_step, outputs_step⟩
          rw [part_step] at part_eq outputs_eq
          rw [List.filter_cons_of_neg (by simp [owned]), part_eq, outputs_eq, outputs_step]
          exact ⟨rfl, rfl⟩

end Projection

section Simulation

variable {Model : Type x}

/-- Every input of a run meets a condition on the state that it is given in. -/
def Meets (condition : State → Input → Prop) : State → List Input → Prop
  | _, [] => True
  | state, input :: inputs =>
      condition state input ∧ Meets condition (machine.step state input).1 inputs

theorem meets_of_forall {condition : State → Input → Prop}
    (always : ∀ state input, condition state input) (state : State) (inputs : List Input) :
    machine.Meets condition state inputs := by
  induction inputs generalizing state with
  | nil => trivial
  | cons input inputs ih => exact ⟨always state input, ih _⟩

/-- A relation that a step of one machine and the same step of another keep, with the same outputs,
where the other's state allows the step. -/
def Simulates (model : Transducer Model Input Output) (condition : Model → Input → Prop)
    (related : State → Model → Prop) : Prop :=
  ∀ state modelState input, related state modelState → condition modelState input →
    (machine.step state input).2 = (model.step modelState input).2 ∧
      related (machine.step state input).1 (model.step modelState input).1

/-- Related machines stay related, and say the same. -/
theorem Simulates.run_eq {machine : Transducer State Input Output}
    {model : Transducer Model Input Output} {condition : Model → Input → Prop}
    {related : State → Model → Prop} (simulates : machine.Simulates model condition related)
    {state : State} {modelState : Model} (initially : related state modelState)
    {inputs : List Input} (meets : model.Meets condition modelState inputs) :
    (machine.run state inputs).2 = (model.run modelState inputs).2 ∧
      related (machine.run state inputs).1 (model.run modelState inputs).1 := by
  induction inputs generalizing state modelState with
  | nil => exact ⟨rfl, initially⟩
  | cons input inputs ih =>
      rcases simulates state modelState input initially meets.1 with ⟨outputs_eq, next⟩
      rcases ih next meets.2 with ⟨later_eq, final⟩
      refine ⟨?_, final⟩
      rw [run, run, outputs_eq, later_eq]

end Simulation

section Abstraction

variable {Model : Type x} {ModelInput : Type y}

/-- What the inputs of a run are to a model, each by the state that it is given in. -/
def inputsAlong (inputs : State → Input → List ModelInput) :
    State → List Input → List ModelInput
  | _, [] => []
  | state, input :: later =>
      inputs state input ++ inputsAlong inputs (machine.step state input).1 later

/-- Where every step is what a model does, under an abstraction of the states, with the inputs
that the step is to it, every run is too. -/
theorem run_inputsAlong {model : Transducer Model ModelInput Output} {Invariant : State → Prop}
    {abstraction : State → Model} {inputs : State → Input → List ModelInput}
    (preserved : ∀ state input, Invariant state → Invariant (machine.step state input).1)
    (steps : ∀ state input, Invariant state →
      model.run (abstraction state) (inputs state input) =
        (abstraction (machine.step state input).1, (machine.step state input).2))
    {state : State} (initially : Invariant state) (later : List Input) :
    model.run (abstraction state) (machine.inputsAlong inputs state later) =
      (abstraction (machine.run state later).1, (machine.run state later).2) := by
  induction later generalizing state with
  | nil => rfl
  | cons input later ih =>
      have after := ih (preserved state input initially)
      rw [inputsAlong, run_append, steps state input initially, after]
      rfl

end Abstraction

end Transducer

/-- Every input of a run satisfies a condition that may depend on the inputs before it. -/
def EveryStep {Input : Type v} (condition : List Input → Input → Prop) (inputs : List Input) :
    Prop :=
  ∀ before input after, inputs = before ++ input :: after → condition before input

section Steps

variable {Input : Type v} {condition : List Input → Input → Prop}

theorem everyStep_nil : EveryStep condition [] := by
  intro before input after split
  simp at split

theorem everyStep_concat {inputs : List Input} {input : Input} :
    EveryStep condition (inputs ++ [input]) ↔
      EveryStep condition inputs ∧ condition inputs input := by
  constructor
  · intro every
    refine ⟨?_, every inputs input [] rfl⟩
    intro before earlier after split
    apply every before earlier (after ++ [input])
    simp [split]
  · rintro ⟨every, last⟩ before other after split
    rcases List.eq_nil_or_concat after with rfl | ⟨middle, final, rfl⟩
    · rcases List.append_inj' split rfl with ⟨rfl, same⟩
      cases same
      exact last
    · have split : inputs ++ [input] = (before ++ other :: middle) ++ [final] := by
        simpa using split
      exact every before other middle (List.append_inj' split rfl).1

end Steps

end HttpsServerSim
