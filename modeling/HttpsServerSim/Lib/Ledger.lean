import Mathlib.Algebra.BigOperators.Group.Finset.Basic
import Mathlib.Data.Multiset.Range
import Mathlib.Tactic.Abel

/-!
# Ledgers

Items are numbered as they are submitted. An item waits, is then taken by one of several
agents, and is finished by that agent. A ledger is balanced if the numbers found in these
places are exactly those given out, each once; submitting, taking and finishing keep it
so. When nothing waits and nobody holds an item, every item has been finished exactly once.
-/

namespace HttpsServerSim

universe u v

/-- A sum over some agents, when what one of them has changes. -/
theorem sum_update {Agent : Type u} {Holding : Type v} {M : Type*} [DecidableEq Agent]
    [AddCommMonoid M] (weight : Holding → M) (holds : Agent → Holding) {agents : Finset Agent}
    {agent : Agent} (member : agent ∈ agents) (holding : Holding) :
    ∑ other ∈ agents, weight (Function.update holds agent holding other) + weight (holds agent) =
      ∑ other ∈ agents, weight (holds other) + weight holding := by
  have others : ∑ other ∈ agents.erase agent,
      weight (Function.update holds agent holding other) =
        ∑ other ∈ agents.erase agent, weight (holds other) := by
    apply Finset.sum_congr rfl
    intro other member
    rw [Function.update_of_ne (Finset.ne_of_mem_erase member)]
  rw [← Finset.add_sum_erase _ _ member, others,
    ← Finset.add_sum_erase _ (fun other => weight (holds other)) member, Function.update_self]
  abel

/-- Where the items are: waiting in order, with an agent, or finished. -/
structure Ledger (Agent : Type u) where
  waiting : List ℕ
  held : Agent → Option ℕ
  finished : List ℕ
  issued : ℕ

namespace Ledger

/-- The items in one hand. -/
def inHand : Option ℕ → Multiset ℕ
  | none => 0
  | some item => {item}

@[simp]
theorem inHand_none : inHand none = 0 :=
  rfl

@[simp]
theorem inHand_some (item : ℕ) : inHand (some item) = {item} :=
  rfl

variable {Agent : Type u} [Fintype Agent]

/-- All items in all places. -/
def items (ledger : Ledger Agent) : Multiset ℕ :=
  (ledger.waiting : Multiset ℕ) + ∑ agent, inHand (ledger.held agent) +
    (ledger.finished : Multiset ℕ)

def Balanced (ledger : Ledger Agent) : Prop := ledger.items = Multiset.range ledger.issued

theorem balanced_empty : (⟨[], fun _ => none, [], 0⟩ : Ledger Agent).Balanced := by
  simp [Balanced, items]

/-- A new item is put at the end of those that wait. -/
def submit (ledger : Ledger Agent) : Ledger Agent :=
  { ledger with waiting := ledger.waiting ++ [ledger.issued], issued := ledger.issued + 1 }

theorem Balanced.submit {ledger : Ledger Agent} (balanced : ledger.Balanced) :
    ledger.submit.Balanced := by
  have added : ledger.submit.items = ledger.items + {ledger.issued} := by
    simp only [items, Ledger.submit, ← Multiset.coe_add, Multiset.coe_singleton]
    abel
  rw [Balanced, added, balanced, Ledger.submit, Multiset.range_succ, Multiset.add_comm]
  rfl

/-- Nothing is counted twice. -/
theorem Balanced.count_items_le {ledger : Ledger Agent} (balanced : ledger.Balanced) (item : ℕ) :
    ledger.items.count item ≤ 1 := by
  rw [balanced]
  exact Multiset.nodup_iff_count_le_one.mp (Multiset.nodup_range _) item

/-- When nothing is left to do, every item has been finished once. -/
theorem Balanced.count_finished {ledger : Ledger Agent} (balanced : ledger.Balanced)
    (nothing : ledger.waiting = []) (nobody : ∀ agent, ledger.held agent = none) {item : ℕ}
    (given : item < ledger.issued) : ledger.finished.count item = 1 := by
  have all : (ledger.finished : Multiset ℕ) = Multiset.range ledger.issued := by
    rw [← balanced, items, nothing]
    simp [nobody]
  rw [← Multiset.coe_count, all]
  exact Multiset.count_eq_one_of_mem (Multiset.nodup_range _) (Multiset.mem_range.mpr given)

/-- An item that waits has been given out and is not finished. -/
theorem Balanced.not_finished {ledger : Ledger Agent} (balanced : ledger.Balanced) {item : ℕ}
    (waits : item ∈ ledger.waiting) :
    item < ledger.issued ∧ ledger.finished.count item = 0 := by
  have counted : 0 < ledger.waiting.count item := List.count_pos_iff.mpr waits
  have once := balanced.count_items_le item
  have present : item ∈ ledger.items :=
    Multiset.mem_add.mpr (Or.inl (Multiset.mem_add.mpr (Or.inl waits)))
  rw [balanced, Multiset.mem_range] at present
  refine ⟨present, ?_⟩
  rw [items, Multiset.count_add, Multiset.count_add, Multiset.coe_count, Multiset.coe_count]
    at once
  omega

variable [DecidableEq Agent]

/-- An agent takes an item that waits. -/
def take (ledger : Ledger Agent) (agent : Agent) (item : ℕ) (rest : List ℕ) : Ledger Agent :=
  { ledger with waiting := rest, held := Function.update ledger.held agent (some item) }

/-- An agent finishes an item. -/
def finish (ledger : Ledger Agent) (agent : Agent) (item : ℕ) : Ledger Agent :=
  { ledger with
    held := Function.update ledger.held agent none
    finished := ledger.finished ++ [item] }

theorem Balanced.take {ledger : Ledger Agent} (balanced : ledger.Balanced) {agent : Agent}
    {item : ℕ} {rest : List ℕ} (next : ledger.waiting = item :: rest)
    (free : ledger.held agent = none) : (ledger.take agent item rest).Balanced := by
  have hands := sum_update inHand ledger.held (Finset.mem_univ agent) (some item)
  rw [free, inHand_none, add_zero, inHand_some] at hands
  have same : (ledger.take agent item rest).items = ledger.items := by
    simp only [items, Ledger.take, next, hands, ← Multiset.cons_coe, ← Multiset.singleton_add]
    abel
  rw [Balanced, same]
  exact balanced

theorem Balanced.finish {ledger : Ledger Agent} (balanced : ledger.Balanced) {agent : Agent}
    {item : ℕ} (holds : ledger.held agent = some item) :
    (ledger.finish agent item).Balanced := by
  have hands := sum_update inHand ledger.held (Finset.mem_univ agent) none
  rw [holds, inHand_none, add_zero, inHand_some] at hands
  have same : (ledger.finish agent item).items = ledger.items := by
    simp only [items, Ledger.finish, ← hands, ← Multiset.coe_add, Multiset.coe_singleton]
    abel
  rw [Balanced, same]
  exact balanced

/-- One thing happens to a ledger, or nothing. -/
inductive Move (ledger : Ledger Agent) : Ledger Agent → Prop where
  | stay : Move ledger ledger
  | submit : Move ledger ledger.submit
  | take {agent : Agent} {item : ℕ} {rest : List ℕ} (next : ledger.waiting = item :: rest)
      (free : ledger.held agent = none) : Move ledger (ledger.take agent item rest)
  | finish {agent : Agent} {item : ℕ} (holds : ledger.held agent = some item) :
      Move ledger (ledger.finish agent item)

theorem Balanced.move {ledger after : Ledger Agent} (balanced : ledger.Balanced)
    (move : Move ledger after) : after.Balanced := by
  cases move with
  | stay => exact balanced
  | submit => exact balanced.submit
  | take next free => exact balanced.take next free
  | finish holds => exact balanced.finish holds

end Ledger

end HttpsServerSim
