import Mathlib.Data.List.Nodup
import Mathlib.Logic.Function.Basic

/-!
# Heaps of list nodes

Nodes with a link and an item, as `new` and `delete` make and unmake them. A node is known by
the number of its allocation; its address may be one that an earlier node had, and two
pointers are compared by their addresses. An access to a node that has been deleted gives no
result.

`Linked` says that nodes follow one another, `Carries` which items they have.
-/

namespace HttpsServerSim

universe u v

structure Cell (Item : Type v) where
  next : Option ℕ
  data : Option Item
deriving DecidableEq, Repr

structure NodeHeap (Addr : Type u) (Item : Type v) where
  cells : ℕ → Option (Cell Item)
  address : ℕ → Addr
  allocated : ℕ

namespace NodeHeap

variable {Addr : Type u} {Item : Type v}

/-- One node, without an item. -/
def single (address : Addr) : NodeHeap Addr Item where
  cells := fun node => if node = 0 then some ⟨none, none⟩ else none
  address := fun _ => address
  allocated := 1

/-- The link of a node. -/
def load (heap : NodeHeap Addr Item) (node : ℕ) : Option (Option ℕ) :=
  (heap.cells node).map Cell.next

/-- The item of a node, if it has not been moved out. -/
def peek (heap : NodeHeap Addr Item) (node : ℕ) : Option Item :=
  (heap.cells node).bind Cell.data

def write (heap : NodeHeap Addr Item) (node : ℕ) (cell : Option (Cell Item)) :
    NodeHeap Addr Item :=
  { heap with cells := Function.update heap.cells node cell }

def store (heap : NodeHeap Addr Item) (node : ℕ) (next : Option ℕ) :
    Option (NodeHeap Addr Item) :=
  (heap.cells node).map fun cell => heap.write node (some { cell with next := next })

/-- The item is moved out. -/
def take (heap : NodeHeap Addr Item) (node : ℕ) : Option (Item × NodeHeap Addr Item) :=
  match heap.cells node with
  | some ⟨next, some item⟩ => some (item, heap.write node (some ⟨next, none⟩))
  | _ => none

def delete (heap : NodeHeap Addr Item) (node : ℕ) : Option (NodeHeap Addr Item) :=
  (heap.cells node).map fun _ => heap.write node none

/-- No node is at the address. -/
def free [DecidableEq Addr] (heap : NodeHeap Addr Item) (address : Addr) : Bool :=
  (List.range heap.allocated).all fun node =>
    (heap.cells node).isNone || heap.address node ≠ address

/-- `new`, at an address that the allocator chooses. -/
def allocate (heap : NodeHeap Addr Item) (address : Addr) (item : Item) : NodeHeap Addr Item where
  cells := Function.update heap.cells heap.allocated (some ⟨none, some item⟩)
  address := Function.update heap.address heap.allocated address
  allocated := heap.allocated + 1

/-- Two pointers are the same. -/
def same [DecidableEq Addr] (heap : NodeHeap Addr Item) (node other : ℕ) : Bool :=
  heap.address node = heap.address other

/-- Nodes have been allocated, and no two of them are at one address. -/
structure WellFormed (heap : NodeHeap Addr Item) : Prop where
  allocated : ∀ {node}, (heap.load node).isSome → node < heap.allocated
  addresses : ∀ {node other}, (heap.load node).isSome → (heap.load other).isSome →
    heap.address node = heap.address other → node = other

/-! ## What the operations do -/

section Operations

variable {heap after : NodeHeap Addr Item} {node : ℕ}

theorem load_write (heap : NodeHeap Addr Item) (node : ℕ) (cell : Option (Cell Item)) :
    (heap.write node cell).load = Function.update heap.load node (cell.map Cell.next) := by
  funext other
  by_cases here : other = node
  · subst here
    simp [load, write]
  · simp [load, write, Function.update_of_ne here]

theorem peek_write (heap : NodeHeap Addr Item) (node : ℕ) (cell : Option (Cell Item)) :
    (heap.write node cell).peek = Function.update heap.peek node (cell.bind Cell.data) := by
  funext other
  by_cases here : other = node
  · subst here
    simp [peek, write]
  · simp [peek, write, Function.update_of_ne here]

theorem wellFormed_write (wellFormed : heap.WellFormed) (alive : (heap.load node).isSome)
    (cell : Option (Cell Item)) : (heap.write node cell).WellFormed := by
  have live : ∀ {other}, ((heap.write node cell).load other).isSome → (heap.load other).isSome := by
    intro other aliveNow
    rw [load_write] at aliveNow
    by_cases here : other = node
    · subst here
      exact alive
    · rw [Function.update_of_ne here] at aliveNow
      exact aliveNow
  refine ⟨?_, ?_⟩
  · intro other aliveNow
    exact wellFormed.allocated (live aliveNow)
  · intro one other oneAlive otherAlive equal
    exact wellFormed.addresses (live oneAlive) (live otherAlive) equal

theorem wellFormed_single (address : Addr) : (single address : NodeHeap Addr Item).WellFormed := by
  have zero : ∀ {node}, ((single address : NodeHeap Addr Item).load node).isSome → node = 0 := by
    intro node alive
    by_contra other
    simp [single, load, other] at alive
  refine ⟨?_, ?_⟩
  · intro node alive
    rw [zero alive]
    exact Nat.zero_lt_one
  · intro node other alive otherAlive _
    rw [zero alive, zero otherAlive]

/-- What a successful `store` changes. -/
theorem store_spec {old : Option ℕ} (wellFormed : heap.WellFormed)
    (alive : heap.load node = some old) (next : Option ℕ) :
    ∃ after, heap.store node next = some after ∧
      after.load = Function.update heap.load node (some next) ∧ after.peek = heap.peek ∧
        after.allocated = heap.allocated ∧ after.WellFormed := by
  rcases Option.map_eq_some_iff.mp alive with ⟨cell, found, rfl⟩
  have data : heap.peek node = cell.data := by simp [peek, found]
  refine ⟨heap.write node (some { cell with next := next }), by simp [store, found], ?_, ?_, rfl,
    wellFormed_write wellFormed (by simp [alive]) _⟩
  · rw [load_write, Option.map_some]
  · rw [peek_write, Option.bind_some, ← data, Function.update_eq_self]

/-- What a successful move of an item changes. -/
theorem take_spec {item : Item} (wellFormed : heap.WellFormed)
    (carries : heap.peek node = some item) :
    ∃ after, heap.take node = some (item, after) ∧ after.load = heap.load ∧
      after.peek = Function.update heap.peek node none ∧ after.allocated = heap.allocated ∧
        after.WellFormed := by
  rcases Option.bind_eq_some_iff.mp carries with ⟨⟨next, data⟩, found, rfl⟩
  have alive : heap.load node = some next := by simp [load, found]
  refine ⟨heap.write node (some ⟨next, none⟩), by simp [take, found], ?_, ?_, rfl,
    wellFormed_write wellFormed (by simp [alive]) _⟩
  · rw [load_write, Option.map_some, ← alive, Function.update_eq_self]
  · rw [peek_write, Option.bind_some]

/-- What a successful `delete` changes. -/
theorem delete_spec {old : Option ℕ} (wellFormed : heap.WellFormed)
    (alive : heap.load node = some old) :
    ∃ after, heap.delete node = some after ∧ after.load = Function.update heap.load node none ∧
      after.peek = Function.update heap.peek node none ∧ after.allocated = heap.allocated ∧
        after.WellFormed := by
  rcases Option.map_eq_some_iff.mp alive with ⟨cell, found, rfl⟩
  refine ⟨heap.write node none, by simp [delete, found], ?_, ?_, rfl,
    wellFormed_write wellFormed (by simp [alive]) _⟩
  · rw [load_write, Option.map_none]
  · rw [peek_write, Option.bind_none]

theorem load_allocated (wellFormed : heap.WellFormed) : heap.load heap.allocated = none := by
  by_contra alive
  exact Nat.lt_irrefl _ (wellFormed.allocated (Option.isSome_iff_ne_none.mpr alive))

theorem load_allocate (heap : NodeHeap Addr Item) (address : Addr) (item : Item) :
    (heap.allocate address item).load = Function.update heap.load heap.allocated (some none) := by
  funext other
  by_cases here : other = heap.allocated
  · subst here
    simp [load, allocate]
  · simp [load, allocate, Function.update_of_ne here]

theorem peek_allocate (heap : NodeHeap Addr Item) (address : Addr) (item : Item) :
    (heap.allocate address item).peek = Function.update heap.peek heap.allocated (some item) := by
  funext other
  by_cases here : other = heap.allocated
  · subst here
    simp [peek, allocate]
  · simp [peek, allocate, Function.update_of_ne here]

theorem wellFormed_allocate [DecidableEq Addr] {address : Addr} (wellFormed : heap.WellFormed)
    (free : heap.free address = true) (item : Item) :
    (heap.allocate address item).WellFormed := by
  have away : ∀ {node}, (heap.load node).isSome → heap.address node ≠ address := by
    intro node alive equal
    have bound := wellFormed.allocated alive
    have taken := List.all_eq_true.mp free node (List.mem_range.mpr bound)
    simp only [load, Option.isSome_map] at alive
    simp [equal, Option.isSome_iff_ne_none.mp alive] at taken
  have old : ∀ {node}, node ≠ heap.allocated →
      ((heap.allocate address item).load node).isSome → (heap.load node).isSome := by
    intro node other
    rw [load_allocate, Function.update_of_ne other]
    exact id
  refine ⟨?_, ?_⟩
  · intro node alive
    by_cases new : node = heap.allocated
    · rw [new]
      exact Nat.lt_succ_self _
    · exact Nat.lt_succ_of_lt (wellFormed.allocated (old new alive))
  · intro node other alive otherAlive equal
    by_cases new : node = heap.allocated
    · by_cases otherNew : other = heap.allocated
      · rw [new, otherNew]
      · simp only [allocate, new, Function.update_self, Function.update_of_ne otherNew] at equal
        exact absurd equal.symm (away (old otherNew otherAlive))
    · by_cases otherNew : other = heap.allocated
      · simp only [allocate, otherNew, Function.update_self, Function.update_of_ne new] at equal
        exact absurd equal (away (old new alive))
      · simp only [allocate, Function.update_of_ne new, Function.update_of_ne otherNew] at equal
        exact wellFormed.addresses (old new alive) (old otherNew otherAlive) equal

end Operations

/-! ## Chains -/

section Chains

variable {links : ℕ → Option (Option ℕ)} {items : ℕ → Option Item} {nodes : List ℕ}

/-- Each node leads to the one behind it, and the last of them beyond. -/
def Linked (links : ℕ → Option (Option ℕ)) : List ℕ → Option ℕ → Prop
  | [], _ => True
  | node :: rest, beyond => links node = some (rest.head?.or beyond) ∧ Linked links rest beyond

theorem linked_append {front back : List ℕ} {beyond : Option ℕ} :
    Linked links (front ++ back) beyond ↔
      Linked links front (back.head?.or beyond) ∧ Linked links back beyond := by
  induction front with
  | nil => simp [Linked]
  | cons node front ih =>
      have ahead : (front ++ back).head?.or beyond = front.head?.or (back.head?.or beyond) := by
        cases front with
        | nil => rfl
        | cons first front => rfl
      simp only [List.cons_append, Linked, ih, ahead, and_assoc]

theorem linked_update {node : ℕ} {value : Option (Option ℕ)} {beyond : Option ℕ}
    (outside : node ∉ nodes) :
    Linked (Function.update links node value) nodes beyond ↔ Linked links nodes beyond := by
  induction nodes with
  | nil => rfl
  | cons first rest ih =>
      simp only [List.mem_cons, not_or] at outside
      simp only [Linked, Function.update_of_ne (Ne.symm outside.1), ih outside.2]

theorem Linked.isSome {node : ℕ} {beyond : Option ℕ} (linked : Linked links nodes beyond)
    (member : node ∈ nodes) : (links node).isSome := by
  induction nodes with
  | nil => cases member
  | cons first rest ih =>
      rcases List.mem_cons.mp member with rfl | later
      · rw [linked.1]
        rfl
      · exact ih linked.2 later

/-- A chain is appended to another one by one store to the last node of the first. -/
theorem Linked.extend {front back : List ℕ} {last : ℕ}
    (linked : Linked links (front ++ [last]) none) (backLinked : Linked links back none)
    (distinct : (front ++ last :: back).Nodup) :
    Linked (Function.update links last (some back.head?)) (front ++ last :: back) none := by
  have outside : last ∉ front ∧ last ∉ back := by
    rcases List.nodup_middle.mp distinct with distinct
    simpa using (List.nodup_cons.mp distinct).1
  rw [linked_append] at linked ⊢
  refine ⟨(linked_update outside.1).mpr linked.1, ?_, (linked_update outside.2).mpr backLinked⟩
  rw [Function.update_self, Option.or_none]

/-- The items of the nodes, in order. -/
def Carries (items : ℕ → Option Item) (nodes : List ℕ) (values : List Item) : Prop :=
  nodes.map items = values.map some

theorem carries_update {node : ℕ} {value : Option Item} {values : List Item}
    (outside : node ∉ nodes) :
    Carries (Function.update items node value) nodes values ↔ Carries items nodes values := by
  have unchanged : nodes.map (Function.update items node value) = nodes.map items := by
    apply List.map_congr_left
    intro other member
    apply Function.update_of_ne
    rintro rfl
    exact outside member
  rw [Carries, unchanged, Carries]

theorem Carries.append {front back : List ℕ} {values others : List Item}
    (carries : Carries items front values) (backCarries : Carries items back others) :
    Carries items (front ++ back) (values ++ others) := by
  unfold Carries at *
  rw [List.map_append, List.map_append, carries, backCarries]

theorem carries_cons {node : ℕ} {values : List Item}
    (carries : Carries items (node :: nodes) values) :
    ∃ value rest, values = value :: rest ∧ items node = some value ∧ Carries items nodes rest := by
  cases values with
  | nil => cases carries
  | cons value rest =>
      simp only [Carries, List.map_cons, List.cons.injEq] at carries
      exact ⟨value, rest, rfl, carries.1, carries.2⟩

end Chains

end NodeHeap

end HttpsServerSim
