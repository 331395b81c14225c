import Mathlib.Data.List.Basic

/-!
# Interleavings

A concurrent program is a step function over the joint state of its threads. An action names
the thread that moves, with whatever is chosen in the move, and need not be possible in every
state. An interleaving is a list of actions.

Safety is proved by an invariant that every step keeps, or every step that meets a condition
on the action and on the state it is taken in.
-/

namespace HttpsServerSim

universe u v w x

namespace Interleaving

variable {State : Type u} {Action : Type v} (step : State → Action → Option State)

/-- The state after a list of actions, if each of them is possible. -/
def run : State → List Action → Option State
  | state, [] => some state
  | state, action :: actions => (step state action).bind fun next => run next actions

/-- Every action is taken in a state in which the condition holds of it. -/
def Along (condition : State → Action → Prop) : State → List Action → Prop
  | _, [] => True
  | state, action :: actions =>
      condition state action ∧ ∀ next, step state action = some next → Along condition next actions

/-- Every state that one of the actions leads to is good. -/
def Throughout (Good : State → Prop) (state : State) (actions : List Action) : Prop :=
  Along step (fun state action => ∀ next, step state action = some next → Good next) state actions

/-- What the actions show, each in the state it is taken in. -/
def observed {Shown : Type w} (observe : State → Action → List Shown) :
    State → List Action → List Shown
  | _, [] => []
  | state, action :: actions =>
      observe state action ++
        (step state action).elim [] fun next => observed observe next actions

variable {step}

theorem run_cons_eq_some_iff {state final : State} {action : Action} {actions : List Action} :
    run step state (action :: actions) = some final ↔
      ∃ next, step state action = some next ∧ run step next actions = some final := by
  simp [run, Option.bind_eq_some_iff]

theorem run_append (state : State) (first second : List Action) :
    run step state (first ++ second) =
      (run step state first).bind fun next => run step next second := by
  induction first generalizing state with
  | nil => rfl
  | cons action first ih =>
      simp only [List.cons_append, run]
      cases step state action with
      | none => rfl
      | some next => exact ih next

theorem along_cons_of_step {condition : State → Action → Prop} {state next : State}
    {action : Action} {actions : List Action} (stepped : step state action = some next) :
    Along step condition state (action :: actions) ↔
      condition state action ∧ Along step condition next actions := by
  simp [Along, stepped]

theorem along_cons_of_stuck {condition : State → Action → Prop} {state : State}
    {action : Action} {actions : List Action} (stuck : step state action = none) :
    Along step condition state (action :: actions) ↔ condition state action := by
  simp [Along, stuck]

instance decidableAlong (condition : State → Action → Prop)
    [∀ state action, Decidable (condition state action)] :
    ∀ state actions, Decidable (Along step condition state actions)
  | _, [] => isTrue trivial
  | state, action :: actions =>
      match moved : step state action with
      | none => decidable_of_iff _ (along_cons_of_stuck moved).symm
      | some next =>
          have := decidableAlong condition next actions
          decidable_of_iff _ (along_cons_of_step moved).symm

/-- What every step that meets the condition keeps holds at the end of a run along it. -/
theorem invariant_along {condition : State → Action → Prop} {Invariant : State → Prop}
    (kept : ∀ {state action next}, Invariant state → condition state action →
      step state action = some next → Invariant next)
    {state final : State} {actions : List Action} (initially : Invariant state)
    (along : Along step condition state actions)
    (ran : run step state actions = some final) : Invariant final := by
  induction actions generalizing state with
  | nil =>
      cases ran
      exact initially
  | cons action actions ih =>
      rcases run_cons_eq_some_iff.mp ran with ⟨next, stepped, later⟩
      rcases along with ⟨holds, laterAlong⟩
      exact ih (kept initially holds stepped) (laterAlong next stepped) later

theorem along_and {condition other : State → Action → Prop} {state : State}
    {actions : List Action} (along : Along step condition state actions)
    (otherAlong : Along step other state actions) :
    Along step (fun state action => condition state action ∧ other state action) state actions := by
  induction actions generalizing state with
  | nil => trivial
  | cons action actions ih =>
      refine ⟨⟨along.1, otherAlong.1⟩, ?_⟩
      intro next stepped
      exact ih (along.2 next stepped) (otherAlong.2 next stepped)

/-- Where the invariant and the condition make a step possible, the actions along the condition are
a run. -/
theorem exists_run_along {condition : State → Action → Prop} {Invariant : State → Prop}
    (possible : ∀ {state action}, Invariant state → condition state action →
      ∃ next, step state action = some next ∧ Invariant next)
    {state : State} {actions : List Action} (initially : Invariant state)
    (along : Along step condition state actions) :
    ∃ final, run step state actions = some final ∧ Invariant final := by
  induction actions generalizing state with
  | nil => exact ⟨state, rfl, initially⟩
  | cons action actions ih =>
      rcases along with ⟨holds, later⟩
      rcases possible initially holds with ⟨next, stepped, kept⟩
      rcases ih kept (later next stepped) with ⟨final, ran, invariant⟩
      exact ⟨final, run_cons_eq_some_iff.mpr ⟨next, stepped, ran⟩, invariant⟩

/-- A condition that follows from another one and an invariant. -/
theorem along_of_invariant {condition other : State → Action → Prop} {Invariant : State → Prop}
    (shows : ∀ {state action}, Invariant state → condition state action → other state action)
    (kept : ∀ {state action next}, Invariant state → condition state action →
      step state action = some next → Invariant next)
    {state : State} {actions : List Action} (initially : Invariant state)
    (along : Along step condition state actions) : Along step other state actions := by
  induction actions generalizing state with
  | nil => trivial
  | cons action actions ih =>
      refine ⟨shows initially along.1, ?_⟩
      intro next stepped
      exact ih (kept initially along.1 stepped) (along.2 next stepped)

theorem along_of_forall {condition : State → Action → Prop}
    (always : ∀ state action, condition state action) (state : State) (actions : List Action) :
    Along step condition state actions := by
  induction actions generalizing state with
  | nil => trivial
  | cons action actions ih => exact ⟨always state action, fun next _ => ih next⟩

/-- Conditions that agree on every step from a state in which an invariant holds. -/
theorem along_congr_of_invariant {condition other : State → Action → Prop}
    {Invariant : State → Prop}
    (agree : ∀ {state action}, Invariant state → (condition state action ↔ other state action))
    (kept : ∀ {state action next}, Invariant state → other state action →
      step state action = some next → Invariant next)
    {state : State} (initially : Invariant state) (actions : List Action) :
    Along step condition state actions ↔ Along step other state actions := by
  induction actions generalizing state with
  | nil => rfl
  | cons action actions ih =>
      rw [Along, Along, agree initially]
      apply and_congr_right
      intro holds
      apply forall₂_congr
      intro next stepped
      exact ih (kept initially holds stepped)

/-- Where a step to a good state is one that meets the condition, the runs through good states are
those along the condition. -/
theorem throughout_iff_along {condition : State → Action → Prop} {Good Invariant : State → Prop}
    (agrees : ∀ {state action}, Invariant state →
      ((∀ next, step state action = some next → Good next) ↔ condition state action))
    (kept : ∀ {state action next}, Invariant state → condition state action →
      step state action = some next → Invariant next)
    {state : State} (initially : Invariant state) (actions : List Action) :
    Throughout step Good state actions ↔ Along step condition state actions :=
  along_congr_of_invariant agrees kept initially actions

/-- The same of a run, where only the steps it takes are to be compared. -/
theorem throughout_iff_along_of_run {condition : State → Action → Prop}
    {Good Invariant : State → Prop}
    (agrees : ∀ {state action next}, Invariant state → step state action = some next →
      (Good next ↔ condition state action))
    (kept : ∀ {state action next}, Invariant state → condition state action →
      step state action = some next → Invariant next)
    {state final : State} (initially : Invariant state) {actions : List Action}
    (ran : run step state actions = some final) :
    Throughout step Good state actions ↔ Along step condition state actions := by
  induction actions generalizing state with
  | nil => rfl
  | cons action actions ih =>
      rcases run_cons_eq_some_iff.mp ran with ⟨next, stepped, later⟩
      unfold Throughout at ih ⊢
      rw [along_cons_of_step stepped, along_cons_of_step stepped]
      have single : (∀ reached, step state action = some reached → Good reached) ↔
          condition state action := by
        simp [stepped, agrees initially stepped]
      rw [single]
      apply and_congr_right
      intro holds
      exact ih (kept initially holds stepped) later

/-- Conditions that agree on every step. -/
theorem along_congr {condition other : State → Action → Prop}
    (agree : ∀ state action, condition state action ↔ other state action) (state : State)
    (actions : List Action) :
    Along step condition state actions ↔ Along step other state actions :=
  along_congr_of_invariant (fun {state action} (_ : True) => agree state action)
    (fun _ _ _ => trivial) trivial actions

theorem observed_of_step {Shown : Type w} {observe : State → Action → List Shown}
    {state next : State} {action : Action} {actions : List Action}
    (stepped : step state action = some next) :
    observed step observe state (action :: actions) =
      observe state action ++ observed step observe next actions := by
  simp [observed, stepped]

/-- An invariant that steps keep if what they show has a property. -/
theorem invariant_observed {Shown : Type w} {observe : State → Action → List Shown}
    {Property : Shown → Prop} {Invariant : State → Prop}
    (kept : ∀ {state action next}, Invariant state → step state action = some next →
      (∀ shown ∈ observe state action, Property shown) → Invariant next)
    {state final : State} {actions : List Action} (initially : Invariant state)
    (ran : run step state actions = some final)
    (shown : ∀ shown ∈ observed step observe state actions, Property shown) : Invariant final := by
  induction actions generalizing state with
  | nil =>
      cases ran
      exact initially
  | cons action actions ih =>
      rcases run_cons_eq_some_iff.mp ran with ⟨next, stepped, later⟩
      rw [observed_of_step stepped, List.forall_mem_append] at shown
      exact ih (kept initially stepped shown.1) later shown.2

/-- A condition on the actions alone. -/
theorem along_iff_forall {condition : Action → Prop} {state final : State}
    {actions : List Action} (ran : run step state actions = some final) :
    Along step (fun _ => condition) state actions ↔ ∀ action ∈ actions, condition action := by
  induction actions generalizing state with
  | nil => simp [Along]
  | cons action actions ih =>
      rcases run_cons_eq_some_iff.mp ran with ⟨next, stepped, later⟩
      rw [along_cons_of_step stepped, ih later, List.forall_mem_cons]

/-- What every step keeps holds at the end of every run. -/
theorem invariant_run {Invariant : State → Prop}
    (kept : ∀ {state action next}, Invariant state → step state action = some next →
      Invariant next)
    {state final : State} {actions : List Action} (initially : Invariant state)
    (ran : run step state actions = some final) : Invariant final := by
  refine invariant_along ?_ initially (along_of_forall (fun _ _ => trivial) state actions) ran
  intro state action next holds _ stepped
  exact kept holds stepped

section Projection

variable {Model : Type w} {Move : Type x} {modelStep : Model → Move → Option Model}

/-- A program whose steps are moves of a simpler one, or nothing to it, runs as that one does. -/
theorem run_project {project : State → Model} {move : Action → Option Move}
    (projects : ∀ {state action next}, step state action = some next →
      match move action with
      | none => project next = project state
      | some made => modelStep (project state) made = some (project next))
    {state final : State} {actions : List Action} (ran : run step state actions = some final) :
    run modelStep (project state) (actions.filterMap move) = some (project final) := by
  induction actions generalizing state with
  | nil =>
      cases ran
      rfl
  | cons action actions ih =>
      rcases run_cons_eq_some_iff.mp ran with ⟨next, stepped, later⟩
      have projected := projects stepped
      cases moved : move action with
      | none =>
          simp only [moved] at projected
          rw [List.filterMap_cons_none moved, ← projected]
          exact ih later
      | some made =>
          simp only [moved] at projected
          rw [List.filterMap_cons_some moved]
          exact run_cons_eq_some_iff.mpr ⟨_, projected, ih later⟩

end Projection

/-- A measure that no step increases, and that the steps of one kind decrease, bounds the number of
these steps. -/
theorem countP_le_of_decreasing {condition : Action → Prop} {Invariant : State → Prop}
    {measure : State → ℕ} {own : Action → Bool}
    (kept : ∀ {state action next}, Invariant state → condition action →
      step state action = some next → Invariant next ∧
        measure next + (if own action = true then 1 else 0) ≤ measure state)
    {state final : State} {actions : List Action} (initially : Invariant state)
    (allowed : ∀ action ∈ actions, condition action)
    (ran : run step state actions = some final) :
    actions.countP own + measure final ≤ measure state := by
  induction actions generalizing state with
  | nil =>
      cases ran
      simp
  | cons action actions ih =>
      rcases run_cons_eq_some_iff.mp ran with ⟨next, stepped, later⟩
      rcases List.forall_mem_cons.mp allowed with ⟨first, others⟩
      rcases kept initially first stepped with ⟨invariant, less⟩
      have rest := ih invariant others later
      rw [List.countP_cons]
      omega

/-- A run that does not keep to a condition has a first step that breaks it. -/
theorem exists_step_of_not_along {condition : State → Action → Prop} {state final : State}
    {actions : List Action} (ran : run step state actions = some final)
    (broken : ¬Along step condition state actions) :
    ∃ before action after middle next, actions = before ++ action :: after ∧
      run step state before = some middle ∧ ¬condition middle action ∧
        step middle action = some next ∧ run step next after = some final := by
  induction actions generalizing state with
  | nil => exact absurd trivial broken
  | cons action actions ih =>
      rcases run_cons_eq_some_iff.mp ran with ⟨next, stepped, later⟩
      by_cases holds : condition state action
      · have laterBroken : ¬Along step condition next actions := by
          intro laterAlong
          apply broken
          refine ⟨holds, ?_⟩
          intro other otherStepped
          rw [stepped] at otherStepped
          cases otherStepped
          exact laterAlong
        rcases ih later laterBroken with
          ⟨before, bad, after, middle, final, split, reached, fails, badStepped, rest⟩
        refine ⟨action :: before, bad, after, middle, final, ?_, ?_, fails, badStepped, rest⟩
        · rw [split]
          rfl
        · exact run_cons_eq_some_iff.mpr ⟨next, stepped, reached⟩
      · exact ⟨[], action, actions, state, next, rfl, rfl, holds, stepped, later⟩

end Interleaving

end HttpsServerSim
