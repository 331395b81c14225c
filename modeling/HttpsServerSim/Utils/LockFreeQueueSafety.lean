import HttpsServerSim.Utils.LockFreeQueue

/-!
# Safety of the lock-free queue

The nodes that have been linked in and not deleted are a chain: those that the consumer has
done with and not deleted yet, the node whose item it took last, and those whose items are
still to come. A second chain has the nodes of the producer's call. The two have no node in
common, so neither thread touches what the other one relies on, but for the last node of the
first chain: the producer stores to its link, which is null until then. `tail_` is that node
except between the two stores at the end of a call.
-/

namespace HttpsServerSim

universe u v

open NodeHeap (Linked Carries)

namespace LockFreeQueue

variable {Addr : Type u} {Item : Type v}

/-- Where the nodes are. The consumer has emptied `done` and `current`, and `fresh` has the items
`values`; the producer's call has made `batch` and a node that is `spare`, with the items
`built`. -/
structure Layout (Item : Type v) where
  done : List ℕ
  current : ℕ
  fresh : List ℕ
  values : List Item
  batch : List ℕ
  spare : List ℕ
  built : List Item

namespace Layout

/-- The chain that has been linked in. -/
def chain (layout : Layout Item) : List ℕ := layout.done ++ layout.current :: layout.fresh

/-- Its last node. -/
def last (layout : Layout Item) : ℕ :=
  (layout.current :: layout.fresh).getLast (List.cons_ne_nil _ _)

/-- The consumer takes the item of the next node. -/
def take (layout : Layout Item) (next : ℕ) : Layout Item :=
  { layout with
    done := layout.done ++ [layout.current]
    current := next
    fresh := layout.fresh.tail
    values := layout.values.tail }

/-- The oldest node is deleted. -/
def delete (layout : Layout Item) : Layout Item := { layout with done := layout.done.tail }

/-- A node is allocated. -/
def allocate (layout : Layout Item) (node : ℕ) (item : Item) : Layout Item :=
  { layout with spare := [node], built := layout.built ++ [item] }

/-- The spare node becomes a part of the batch. -/
def append (layout : Layout Item) : Layout Item :=
  { layout with batch := layout.batch ++ layout.spare, spare := [] }

/-- The batch is linked in. -/
def link (layout : Layout Item) : Layout Item :=
  { layout with
    fresh := layout.fresh ++ layout.batch
    values := layout.values ++ layout.built
    batch := []
    built := [] }

theorem chain_eq (layout : Layout Item) : ∃ front, layout.chain = front ++ [layout.last] := by
  have split := List.dropLast_append_getLast (List.cons_ne_nil layout.current layout.fresh)
  refine ⟨layout.done ++ (layout.current :: layout.fresh).dropLast, ?_⟩
  rw [List.append_assoc, last, split, chain]

end Layout

/-! ## The layout of a heap -/

structure Layout.Of (layout : Layout Item) (heap : NodeHeap Addr Item) : Prop where
  wellFormed : heap.WellFormed
  distinct : (layout.chain ++ (layout.batch ++ layout.spare)).Nodup
  chain : Linked heap.load layout.chain none
  batch : Linked heap.load layout.batch none
  spare : Linked heap.load layout.spare none
  values : Carries heap.peek layout.fresh layout.values
  built : Carries heap.peek (layout.batch ++ layout.spare) layout.built

/-- The node has been allocated and deleted. -/
def Dead (heap : NodeHeap Addr Item) (node : ℕ) : Prop :=
  heap.load node = none ∧ node < heap.allocated

section Heap

variable {heap after : NodeHeap Addr Item} {layout : Layout Item} {node : ℕ}

/-- An access to a node that is alive leaves the dead ones dead. -/
theorem dead_of_update {target : ℕ} {value : Option (Option ℕ)}
    (alive : (heap.load target).isSome) (load : after.load = Function.update heap.load target value)
    (allocated : after.allocated = heap.allocated) (dead : Dead heap node) : Dead after node := by
  rcases dead with ⟨gone, bound⟩
  have other : node ≠ target := by
    rintro rfl
    rw [gone] at alive
    cases alive
  refine ⟨?_, ?_⟩
  · rw [load, Function.update_of_ne other]
    exact gone
  · rw [allocated]
    exact bound

theorem Layout.Of.take {next : ℕ} (of : layout.Of heap) (fresh : layout.fresh.head? = some next) :
    ∃ item after, heap.take next = some (item, after) ∧
      layout.values = item :: (layout.take next).values ∧ (layout.take next).Of after ∧
        ∀ {node}, Dead heap node → Dead after node := by
  rcases List.head?_eq_some_iff.mp fresh with ⟨rest, shape⟩
  have carries := of.values
  rw [shape] at carries
  rcases NodeHeap.carries_cons carries with ⟨item, values, valuesShape, here, restCarries⟩
  rcases NodeHeap.take_spec of.wellFormed here with
    ⟨after, taken, load, peek, allocated, wellFormed⟩
  have sameChain : (layout.take next).chain = layout.chain := by
    simp [Layout.chain, Layout.take, shape]
  have outside : next ∉ rest ∧ next ∉ layout.batch ++ layout.spare := by
    have distinct := of.distinct
    rw [Layout.chain, shape, List.append_assoc, List.cons_append, List.cons_append] at distinct
    have tail := (List.nodup_cons.mp (List.nodup_append.mp distinct).2.1).2
    simpa [not_or] using (List.nodup_cons.mp tail).1
  refine ⟨item, after, taken, by simp [Layout.take, valuesShape], ?_, ?_⟩
  · refine ⟨wellFormed, ?_, ?_, ?_, ?_, ?_, ?_⟩
    · rw [sameChain]
      exact of.distinct
    · rw [sameChain, load]
      exact of.chain
    · rw [load]
      exact of.batch
    · rw [load]
      exact of.spare
    · rw [peek]
      simp only [Layout.take, shape, valuesShape, List.tail_cons]
      exact (NodeHeap.carries_update outside.1).mpr restCarries
    · rw [peek]
      exact (NodeHeap.carries_update outside.2).mpr of.built
  · intro node dead
    unfold Dead
    rw [load, allocated]
    exact dead

theorem Layout.Of.delete (of : layout.Of heap) (first : layout.done.head? = some node) :
    ∃ after, heap.delete node = some after ∧ layout.delete.Of after ∧ Dead after node ∧
      (heap.load node).isSome ∧ ∀ {other}, Dead heap other → Dead after other := by
  rcases List.head?_eq_some_iff.mp first with ⟨rest, shape⟩
  have chainShape : layout.chain = node :: layout.delete.chain := by
    simp [Layout.chain, Layout.delete, shape]
  have chain := of.chain
  rw [chainShape] at chain
  have distinct := of.distinct
  rw [chainShape, List.cons_append] at distinct
  rcases List.nodup_cons.mp distinct with ⟨outside, restDistinct⟩
  simp only [List.mem_append, not_or] at outside
  have freshOutside : node ∉ layout.fresh := by
    intro member
    apply outside.1
    simp [Layout.chain, Layout.delete, member]
  have alive : (heap.load node).isSome := by
    rw [chain.1]
    rfl
  rcases NodeHeap.delete_spec of.wellFormed chain.1 with
    ⟨after, deleted, load, peek, allocated, wellFormed⟩
  refine ⟨after, deleted, ?_, ?_, alive, dead_of_update alive load allocated⟩
  · refine ⟨wellFormed, restDistinct, ?_, ?_, ?_, ?_, ?_⟩
    · rw [load]
      exact (NodeHeap.linked_update outside.1).mpr chain.2
    · rw [load]
      exact (NodeHeap.linked_update outside.2.1).mpr of.batch
    · rw [load]
      exact (NodeHeap.linked_update outside.2.2).mpr of.spare
    · rw [peek]
      exact (NodeHeap.carries_update freshOutside).mpr of.values
    · rw [peek]
      refine (NodeHeap.carries_update ?_).mpr of.built
      simp [Layout.delete, outside.2]
  · refine ⟨?_, ?_⟩
    · rw [load, Function.update_self]
    · rw [allocated]
      exact of.wellFormed.allocated alive

theorem Layout.Of.allocate [DecidableEq Addr] {address : Addr} (of : layout.Of heap)
    (noSpare : layout.spare = []) (free : heap.free address = true) (item : Item) :
    (layout.allocate heap.allocated item).Of (heap.allocate address item) ∧
      ∀ {node}, Dead heap node → Dead (heap.allocate address item) node := by
  have gone := NodeHeap.load_allocated of.wellFormed
  have outsideOf : ∀ {nodes : List ℕ}, Linked heap.load nodes none → heap.allocated ∉ nodes := by
    intro nodes linked member
    have alive := linked.isSome member
    rw [gone] at alive
    cases alive
  have outsideChain := outsideOf of.chain
  have outsideBatch := outsideOf of.batch
  have outsideFresh : heap.allocated ∉ layout.fresh := by
    intro member
    apply outsideChain
    simp [Layout.chain, member]
  have distinct := of.distinct
  have built := of.built
  simp only [noSpare, List.append_nil] at distinct built
  refine ⟨⟨NodeHeap.wellFormed_allocate of.wellFormed free item, ?_, ?_, ?_, ?_, ?_, ?_⟩, ?_⟩
  · change (layout.chain ++ (layout.batch ++ [heap.allocated])).Nodup
    rw [← List.append_assoc, List.nodup_append]
    refine ⟨distinct, List.nodup_singleton _, ?_⟩
    intro one member other new equal
    rw [List.mem_singleton.mp new] at equal
    subst equal
    rcases List.mem_append.mp member with inChain | inBatch
    · exact outsideChain inChain
    · exact outsideBatch inBatch
  · rw [NodeHeap.load_allocate]
    exact (NodeHeap.linked_update outsideChain).mpr of.chain
  · rw [NodeHeap.load_allocate]
    exact (NodeHeap.linked_update outsideBatch).mpr of.batch
  · rw [NodeHeap.load_allocate]
    exact ⟨Function.update_self _ _ _, trivial⟩
  · rw [NodeHeap.peek_allocate]
    exact (NodeHeap.carries_update outsideFresh).mpr of.values
  · rw [NodeHeap.peek_allocate]
    refine Carries.append ((NodeHeap.carries_update outsideBatch).mpr built) ?_
    simp [NodeHeap.Carries, Layout.allocate]
  · rintro node ⟨none, bound⟩
    refine ⟨?_, Nat.lt_succ_of_lt bound⟩
    rw [NodeHeap.load_allocate, Function.update_of_ne (Nat.ne_of_lt bound)]
    exact none

/-- The first node of a batch. -/
theorem Layout.Of.adopt (of : layout.Of heap) (empty : layout.batch = []) :
    layout.append.Of heap := by
  have spare := of.spare
  have append : layout.append = { layout with batch := layout.spare, spare := [] } := by
    simp [Layout.append, empty]
  rw [append]
  have distinct := of.distinct
  have built := of.built
  simp only [empty, List.nil_append] at distinct built
  refine ⟨of.wellFormed, ?_, of.chain, spare, trivial, of.values, ?_⟩
  · simpa [Layout.chain] using distinct
  · simpa using built

/-- A store to the last node of a batch. -/
theorem Layout.Of.append {batchTail : ℕ} (of : layout.Of heap)
    (tail : layout.batch.getLast? = some batchTail) :
    ∃ after, heap.store batchTail layout.spare.head? = some after ∧ layout.append.Of after ∧
      after.allocated = heap.allocated ∧ ∀ {node}, Dead heap node → Dead after node := by
  rcases List.getLast?_eq_some_iff.mp tail with ⟨front, shape⟩
  have batch := of.batch
  rw [shape] at batch
  have member : batchTail ∈ layout.batch := by simp [shape]
  rcases Option.isSome_iff_exists.mp (of.batch.isSome member) with ⟨old, found⟩
  rcases NodeHeap.store_spec of.wellFormed found layout.spare.head? with
    ⟨after, stored, load, peek, allocated, wellFormed⟩
  have distinct := of.distinct
  have outsideChain : batchTail ∉ layout.chain := by
    intro inChain
    exact (List.nodup_append.mp distinct).2.2 _ inChain _ (List.mem_append_left _ member) rfl
  have together : layout.batch ++ layout.spare = front ++ batchTail :: layout.spare := by
    simp [shape]
  have alive : (heap.load batchTail).isSome := of.batch.isSome member
  refine ⟨after, stored, ?_, allocated, dead_of_update alive load allocated⟩
  refine ⟨wellFormed, ?_, ?_, ?_, trivial, ?_, ?_⟩
  · simpa [Layout.append, Layout.chain] using distinct
  · rw [load]
    exact (NodeHeap.linked_update outsideChain).mpr of.chain
  · change Linked after.load (layout.batch ++ layout.spare) none
    rw [load, together]
    apply NodeHeap.Linked.extend batch of.spare
    rw [← together]
    exact (List.nodup_append.mp distinct).2.1
  · rw [peek]
    exact of.values
  · rw [peek]
    simpa [Layout.append] using of.built

/-- The node that `current` leads to, if it leads to one. -/
theorem Layout.Of.load_current (of : layout.Of heap) :
    heap.load layout.current = some layout.fresh.head? := by
  have chain := of.chain
  rw [Layout.chain, NodeHeap.linked_append] at chain
  rw [chain.2.1, Option.or_none]

/-- The node that the oldest one leads to, the last of them to `current`. -/
theorem Layout.Of.load_oldest (of : layout.Of heap) (oldest : layout.done.head? = some node) :
    heap.load node = some (layout.done.tail ++ [layout.current]).head? := by
  rcases List.head?_eq_some_iff.mp oldest with ⟨rest, shape⟩
  have chain := of.chain
  rw [Layout.chain, shape, List.cons_append] at chain
  rw [chain.1, shape, List.tail_cons]
  cases rest <;> rfl

/-- The store that links a batch in. -/
theorem Layout.Of.link (of : layout.Of heap) (noSpare : layout.spare = []) :
    ∃ after, heap.store layout.last layout.batch.head? = some after ∧ layout.link.Of after ∧
      after.allocated = heap.allocated ∧ ∀ {node}, Dead heap node → Dead after node := by
  rcases layout.chain_eq with ⟨front, shape⟩
  have chain := of.chain
  rw [shape] at chain
  have member : layout.last ∈ layout.chain := by simp [shape]
  have alive : (heap.load layout.last).isSome := of.chain.isSome member
  rcases Option.isSome_iff_exists.mp alive with ⟨old, found⟩
  rcases NodeHeap.store_spec of.wellFormed found layout.batch.head? with
    ⟨after, stored, load, peek, allocated, wellFormed⟩
  have distinct := of.distinct
  have built := of.built
  simp only [noSpare, List.append_nil] at distinct built
  have together : layout.link.chain = front ++ layout.last :: layout.batch := by
    have assoc : layout.link.chain = layout.chain ++ layout.batch := by
      simp [Layout.link, Layout.chain]
    rw [assoc, shape, List.append_assoc, List.singleton_append]
  refine ⟨after, stored, ?_, allocated, dead_of_update alive load allocated⟩
  refine ⟨wellFormed, ?_, ?_, trivial, ?_, ?_, ?_⟩
  · simpa [Layout.link, Layout.chain, noSpare] using distinct
  · rw [load, together]
    apply NodeHeap.Linked.extend chain of.batch
    rw [shape] at distinct
    simpa using distinct
  · simp only [Layout.link, noSpare]
    trivial
  · rw [peek]
    exact of.values.append built
  · simp [Layout.link, noSpare, NodeHeap.Carries]

end Heap

/-! ## The places of the two threads -/

/-- What the consumer knows at each place. -/
def ConsumerAt (head : ℕ) (layout : Layout Item) : ConsumerPc → Prop
  | .idle | .popLoadHead | .batchLoadHead _ | .emptyLoadHead =>
      layout.done = [] ∧ head = layout.current
  | .popLoadNext oldHead | .emptyLoadNext oldHead =>
      layout.done = [] ∧ head = layout.current ∧ oldHead = layout.current
  | .popTake oldHead next =>
      layout.done = [] ∧ oldHead = layout.current ∧ layout.fresh.head? = some next
  | .popStoreHead oldHead next => layout.done = [oldHead] ∧ next = layout.current
  | .popDelete oldHead => layout.done = [oldHead] ∧ head = layout.current
  | .batchLoadNext oldHead curr count _ =>
      head = oldHead ∧ curr = layout.current ∧ count = layout.done.length ∧
        (layout.done ++ [layout.current]).head? = some oldHead
  | .batchTake oldHead next count _ =>
      head = oldHead ∧ count = layout.done.length ∧
        (layout.done ++ [layout.current]).head? = some oldHead ∧ layout.fresh.head? = some next
  | .batchStoreHead oldHead lastDataNode =>
      lastDataNode = layout.current ∧ layout.done.head? = some oldHead
  | .batchLoadNode nodeToDelete lastDataNode =>
      head = layout.current ∧ lastDataNode = layout.current ∧
        layout.done.head? = some nodeToDelete
  | .batchDelete nodeToDelete nextNode lastDataNode =>
      head = layout.current ∧ lastDataNode = layout.current ∧
        layout.done.head? = some nodeToDelete ∧
          (layout.done.tail ++ [layout.current]).head? = nextNode

/-- The batch is not empty, and the producer knows its ends. -/
def Layout.Building (layout : Layout Item) (batchHead batchTail : ℕ) : Prop :=
  layout.batch.head? = some batchHead ∧ layout.batch.getLast? = some batchTail

/-- There are no nodes but those that have been linked in. -/
def Layout.Resting (layout : Layout Item) : Prop :=
  layout.batch = [] ∧ layout.spare = [] ∧ layout.built = []

/-- What the producer knows at each place. -/
def ProducerAt (tail : ℕ) (layout : Layout Item) : ProducerPc Item → Prop
  | .idle | .allocFirst _ _ => tail = layout.last ∧ layout.Resting
  | .allocNext items batchHead batchTail item rest =>
      tail = layout.last ∧ layout.Building batchHead batchTail ∧ layout.spare = [] ∧
        items = layout.built ++ item :: rest
  | .linkNext items batchHead batchTail newNode rest =>
      tail = layout.last ∧ layout.Building batchHead batchTail ∧ layout.spare = [newNode] ∧
        items = layout.built ++ rest
  | .endBatch items batchHead batchTail | .loadTail items batchHead batchTail =>
      tail = layout.last ∧ layout.Building batchHead batchTail ∧ layout.spare = [] ∧
        items = layout.built
  | .link items batchHead batchTail oldTail =>
      oldTail = layout.last ∧ layout.Building batchHead batchTail ∧ layout.spare = [] ∧
        items = layout.built
  | .storeTail batchTail => batchTail = layout.last ∧ layout.Resting

/-- The consumer does not see what the producer does behind the nodes that it knows. -/
theorem consumerAt_congr {head : ℕ} {layout other : Layout Item} {consumer : ConsumerPc}
    (done : other.done = layout.done) (current : other.current = layout.current)
    (fresh : ∀ {next}, layout.fresh.head? = some next → other.fresh.head? = some next)
    (holds : ConsumerAt head layout consumer) : ConsumerAt head other consumer := by
  cases consumer with
  | popTake oldHead next =>
      simp only [ConsumerAt, done, current]
      exact ⟨holds.1, holds.2.1, fresh holds.2.2⟩
  | batchTake oldHead next count maxCount =>
      simp only [ConsumerAt, done, current]
      exact ⟨holds.1, holds.2.1, holds.2.2.1, fresh holds.2.2.2⟩
  | _ => simpa only [ConsumerAt, done, current] using holds

/-- The producer does not see what the consumer does before the last node. -/
theorem producerAt_congr {tail : ℕ} {layout other : Layout Item} {producer : ProducerPc Item}
    (last : other.last = layout.last) (batch : other.batch = layout.batch)
    (spare : other.spare = layout.spare) (built : other.built = layout.built)
    (holds : ProducerAt tail layout producer) : ProducerAt tail other producer := by
  cases producer <;>
    simpa only [ProducerAt, Layout.Building, Layout.Resting, last, batch, spare, built] using holds

theorem producerAt_nextItem {tail batchHead batchTail : ℕ} {layout : Layout Item}
    {items rest : List Item} (atLast : tail = layout.last)
    (building : layout.Building batchHead batchTail) (noSpare : layout.spare = [])
    (split : items = layout.built ++ rest) :
    ProducerAt tail layout (nextItem items batchHead batchTail rest) := by
  cases rest with
  | nil =>
      rw [List.append_nil] at split
      exact ⟨atLast, building, noSpare, split⟩
  | cons item rest => exact ⟨atLast, building, noSpare, split⟩

theorem consumerAt_collect {oldHead count : ℕ} {layout : Layout Item}
    (counted : count = layout.done.length)
    (first : (layout.done ++ [layout.current]).head? = some oldHead) (maxCount : ℕ) :
    ConsumerAt oldHead layout (collect oldHead layout.current count maxCount) := by
  unfold collect
  split
  · exact ⟨rfl, rfl, counted, first⟩
  · cases shape : layout.done with
    | nil =>
        rw [shape] at counted first
        subst counted
        exact ⟨shape, (Option.some.inj first).symm⟩
    | cons node rest =>
        rw [shape] at counted first
        rw [if_pos (by simp [counted])]
        refine ⟨rfl, ?_⟩
        rw [shape]
        exact first

/-- The loop of `pop_batch` that deletes ends at the node that the queue keeps. -/
theorem consumerAt_release [DecidableEq Addr] {heap : NodeHeap Addr Item} {layout : Layout Item}
    {node : ℕ} (of : layout.Of heap)
    (first : (layout.done ++ [layout.current]).head? = some node) :
    ConsumerAt layout.current layout (release heap node layout.current) := by
  have alive : ∀ {other}, other ∈ layout.done ++ [layout.current] → (heap.load other).isSome := by
    intro other member
    apply of.chain.isSome
    simp only [List.mem_append, List.mem_singleton] at member
    rcases member with inDone | rfl <;> simp [Layout.chain, *]
  unfold release
  split
  · rename_i equal
    have same : node = layout.current :=
      of.wellFormed.addresses (alive (List.mem_of_head? first)) (alive (by simp))
        (of_decide_eq_true equal)
    cases shape : layout.done with
    | nil => exact ⟨shape, rfl⟩
    | cons oldest rest =>
        rw [shape] at first
        have twice : layout.current = oldest := by
          rw [← same]
          exact (Option.some.inj first).symm
        have distinct := (List.nodup_append.mp of.distinct).1
        rw [Layout.chain, shape] at distinct
        exact absurd (by simp [twice]) (List.nodup_cons.mp distinct).1
  · rename_i different
    cases shape : layout.done with
    | nil =>
        rw [shape] at first
        have same := Option.some.inj first
        rw [same] at different
        exact absurd (decide_eq_true rfl) different
    | cons oldest rest =>
        refine ⟨rfl, rfl, ?_⟩
        rw [shape] at first ⊢
        exact first

/-! ## The invariant -/

structure Sound (queue : LockFreeQueue Addr Item) (layout : Layout Item) : Prop where
  of : layout.Of queue.heap
  order : queue.received ++ layout.values = queue.linked
  consumer : ConsumerAt queue.head layout queue.consumer
  producer : ProducerAt queue.tail layout queue.producer
  dead : ∀ node ∈ queue.deleted, Dead queue.heap node
  once : queue.deleted.Nodup
  reports : ∀ report ∈ queue.emptyReports, report.2 = report.1
  healthy : queue.faulted = false

section Steps

variable {queue next : LockFreeQueue Addr Item} {layout : Layout Item}

theorem sound_construct (address : Addr) :
    (construct address : LockFreeQueue Addr Item).Sound ⟨[], 0, [], [], [], [], []⟩ := by
  refine ⟨⟨NodeHeap.wellFormed_single address, ?_, ⟨rfl, trivial⟩, trivial, trivial, rfl, rfl⟩, rfl,
    ⟨rfl, rfl⟩, ⟨rfl, rfl, rfl, rfl⟩, nofun, List.nodup_nil, nofun, rfl⟩
  exact List.nodup_singleton 0

theorem last_link {batchTail : ℕ} (tail : layout.batch.getLast? = some batchTail) :
    layout.link.last = batchTail := by
  rcases List.getLast?_eq_some_iff.mp tail with ⟨front, shape⟩
  simp [Layout.last, Layout.link, shape]

/-- A step of the producer at nodes that it has not linked in. -/
theorem Sound.build {heap : NodeHeap Addr Item} {producer : ProducerPc Item} {other : Layout Item}
    (sound : queue.Sound layout) (of : other.Of heap)
    (dead : ∀ {node}, Dead queue.heap node → Dead heap node) (done : other.done = layout.done)
    (current : other.current = layout.current) (fresh : other.fresh = layout.fresh)
    (values : other.values = layout.values) (place : ProducerAt queue.tail other producer) :
    ({ queue with heap := heap, producer := producer } : LockFreeQueue Addr Item).Sound other := by
  have order : queue.received ++ other.values = queue.linked := by
    rw [values]
    exact sound.order
  have consumer : ConsumerAt queue.head other queue.consumer := by
    refine consumerAt_congr done current ?_ sound.consumer
    intro node first
    rw [fresh]
    exact first
  exact ⟨of, order, consumer, place, fun node member => dead (sound.dead node member), sound.once,
    sound.reports, sound.healthy⟩

theorem Sound.allocateStep [DecidableEq Addr] {address : Addr} (sound : queue.Sound layout)
    (free : queue.heap.free address = true) (stepped : queue.allocateStep address = some next) :
    ∃ layout, next.Sound layout := by
  have producer := sound.producer
  unfold LockFreeQueue.allocateStep at stepped
  cases place : queue.producer with
  | allocFirst first rest =>
      simp only [place, Option.some.injEq] at stepped
      subst stepped
      rw [place] at producer
      rcases producer with ⟨atLast, noBatch, noSpare, noBuilt⟩
      rcases sound.of.allocate noSpare free first with ⟨allocated, dead⟩
      refine ⟨_, sound.build (allocated.adopt noBatch) dead rfl rfl rfl rfl ?_⟩
      refine producerAt_nextItem ?_ ?_ rfl ?_
      · exact atLast
      · simp [Layout.Building, Layout.append, Layout.allocate, noBatch]
      · simp [Layout.append, Layout.allocate, noBuilt]
  | allocNext items batchHead batchTail item rest =>
      simp only [place, Option.some.injEq] at stepped
      subst stepped
      rw [place] at producer
      rcases producer with ⟨atLast, building, noSpare, split⟩
      rcases sound.of.allocate noSpare free item with ⟨allocated, dead⟩
      refine ⟨_, sound.build allocated dead rfl rfl rfl rfl ⟨atLast, building, rfl, ?_⟩⟩
      simp [Layout.allocate, split]
  | _ => simp [place] at stepped

theorem Sound.producerStep (sound : queue.Sound layout)
    (stepped : queue.producerStep = some next) : ∃ layout, next.Sound layout := by
  have producer := sound.producer
  unfold LockFreeQueue.producerStep at stepped
  cases place : queue.producer with
  | idle | allocFirst | allocNext => simp [place] at stepped
  | linkNext items batchHead batchTail newNode rest =>
      rw [place] at producer
      rcases producer with ⟨atLast, ⟨isHead, isTail⟩, spare, split⟩
      rcases sound.of.append isTail with ⟨after, stored, of, _, dead⟩
      rw [spare, List.head?_cons] at stored
      simp only [place, stored, Option.some.injEq] at stepped
      subst stepped
      refine ⟨_, sound.build of dead rfl rfl rfl rfl ?_⟩
      refine producerAt_nextItem ?_ ⟨?_, ?_⟩ rfl ?_
      · exact atLast
      · simp [Layout.append, isHead]
      · simp [Layout.append, spare]
      · exact split
  | endBatch items batchHead batchTail =>
      rw [place] at producer
      rcases producer with ⟨atLast, ⟨isHead, isTail⟩, noSpare, built⟩
      rcases sound.of.append isTail with ⟨after, stored, of, _, dead⟩
      rw [noSpare, List.head?_nil] at stored
      simp only [place, stored, Option.some.injEq] at stepped
      subst stepped
      refine ⟨_, sound.build of dead rfl rfl rfl rfl ⟨atLast, ⟨?_, ?_⟩, rfl, built⟩⟩
      · simp [Layout.append, noSpare, isHead]
      · simp [Layout.append, noSpare, isTail]
  | loadTail items batchHead batchTail =>
      rw [place] at producer
      simp only [place, Option.some.injEq] at stepped
      subst stepped
      exact ⟨layout, sound.of, sound.order, sound.consumer, producer, sound.dead, sound.once,
        sound.reports, sound.healthy⟩
  | link items batchHead batchTail oldTail =>
      rw [place] at producer
      rcases producer with ⟨atLast, ⟨isHead, isTail⟩, noSpare, built⟩
      rcases sound.of.link noSpare with ⟨after, stored, of, _, dead⟩
      rw [isHead, ← atLast] at stored
      simp only [place, stored, Option.some.injEq] at stepped
      subst stepped
      have consumer : ConsumerAt queue.head layout.link queue.consumer := by
        refine consumerAt_congr ?_ ?_ ?_ sound.consumer
        · rfl
        · rfl
        · intro node first
          simp [Layout.link, first]
      refine ⟨layout.link, of, ?_, consumer, ⟨(last_link isTail).symm, rfl, noSpare, rfl⟩,
        fun node member => dead (sound.dead node member), sound.once, sound.reports,
        sound.healthy⟩
      simp only [Layout.link, built, ← List.append_assoc, sound.order]
  | storeTail batchTail =>
      rw [place] at producer
      simp only [place, Option.some.injEq] at stepped
      subst stepped
      exact ⟨layout, sound.of, sound.order, sound.consumer, producer, sound.dead, sound.once,
        sound.reports, sound.healthy⟩

/-- A step of the consumer that only looks. -/
theorem Sound.look {consumer : ConsumerPc} (sound : queue.Sound layout)
    (place : ConsumerAt queue.head layout consumer) :
    ({ queue with consumer := consumer } : LockFreeQueue Addr Item).Sound layout :=
  ⟨sound.of, sound.order, place, sound.producer, sound.dead, sound.once, sound.reports,
    sound.healthy⟩

/-- The consumer finds no node behind the one whose item it took last. -/
theorem Sound.reportEmpty {consumer : ConsumerPc} (sound : queue.Sound layout)
    (nothing : layout.fresh.head? = none) (place : ConsumerAt queue.head layout consumer) :
    (queue.reportEmpty consumer).Sound layout := by
  refine ⟨sound.of, sound.order, place, sound.producer, sound.dead, sound.once, ?_, sound.healthy⟩
  have noValues : layout.values = [] := by
    have values := sound.of.values
    rw [List.head?_eq_none_iff.mp nothing] at values
    exact List.map_eq_nil_iff.mp values.symm
  have all := sound.order
  rw [noValues, List.append_nil] at all
  intro report member
  rcases List.mem_append.mp member with old | new
  · exact sound.reports report old
  · rw [List.mem_singleton.mp new]
    exact all

/-- The consumer loads the link of that node: it reports that there is none behind it, or goes on
with the one it has found. -/
theorem Sound.loadNext {node : ℕ} {atEnd : ConsumerPc} {further : ℕ → ConsumerPc}
    (sound : queue.Sound layout) (isCurrent : node = layout.current)
    (stepped : (match queue.heap.load node with
      | none => some queue.fault
      | some none => some (queue.reportEmpty atEnd)
      | some (some first) => some { queue with consumer := further first }) = some next)
    (ends : ConsumerAt queue.head layout atEnd)
    (goesOn : ∀ first, layout.fresh.head? = some first →
      ConsumerAt queue.head layout (further first)) : next.Sound layout := by
  rw [isCurrent, sound.of.load_current] at stepped
  cases found : layout.fresh.head? with
  | none =>
      simp only [found, Option.some.injEq] at stepped
      subst stepped
      exact sound.reportEmpty found ends
  | some first =>
      simp only [found, Option.some.injEq] at stepped
      subst stepped
      exact sound.look (goesOn first found)

theorem last_take {node : ℕ} (first : layout.fresh.head? = some node) :
    (layout.take node).last = layout.last := by
  rcases List.head?_eq_some_iff.mp first with ⟨rest, shape⟩
  simp [Layout.last, Layout.take, shape]

/-- The consumer moves the item of the next node out. -/
theorem Sound.take {node : ℕ} {consumer : ConsumerPc} (sound : queue.Sound layout)
    (first : layout.fresh.head? = some node)
    (place : ConsumerAt queue.head (layout.take node) consumer) :
    ∃ item heap, queue.heap.take node = some (item, heap) ∧
      ({ queue with
        heap := heap
        consumer := consumer
        received := queue.received ++ [item] } : LockFreeQueue Addr Item).Sound
          (layout.take node) := by
  rcases sound.of.take first with ⟨item, after, taken, values, of, dead⟩
  refine ⟨item, after, taken, of, ?_, place,
    producerAt_congr (last_take first) rfl rfl rfl sound.producer,
    fun node member => dead (sound.dead node member), sound.once, sound.reports, sound.healthy⟩
  rw [← sound.order, values, List.append_assoc, List.singleton_append]

/-- The consumer deletes the oldest node. -/
theorem Sound.delete {node : ℕ} (sound : queue.Sound layout)
    (first : layout.done.head? = some node) :
    ∃ heap, queue.heap.delete node = some heap ∧ layout.delete.Of heap ∧
      ∀ {consumer}, ConsumerAt queue.head layout.delete consumer →
        ({ queue with
          heap := heap
          consumer := consumer
          deleted := queue.deleted ++ [node] } : LockFreeQueue Addr Item).Sound layout.delete := by
  rcases sound.of.delete first with ⟨after, deleted, of, gone, alive, dead⟩
  refine ⟨after, deleted, of, ?_⟩
  intro consumer place
  refine ⟨of, sound.order, place, producerAt_congr rfl rfl rfl rfl sound.producer, ?_, ?_,
    sound.reports, sound.healthy⟩
  · intro other member
    rcases List.mem_append.mp member with old | new
    · exact dead (sound.dead other old)
    · rw [List.mem_singleton.mp new]
      exact gone
  · rw [List.nodup_append]
    refine ⟨sound.once, List.nodup_singleton node, ?_⟩
    intro other old new isNew equal
    rw [equal, List.mem_singleton.mp isNew] at old
    rw [(sound.dead node old).1] at alive
    cases alive

theorem Sound.consumerStep [DecidableEq Addr] (sound : queue.Sound layout)
    (stepped : queue.consumerStep = some next) : ∃ layout, next.Sound layout := by
  have consumer := sound.consumer
  unfold LockFreeQueue.consumerStep at stepped
  cases place : queue.consumer with
  | idle => simp [place] at stepped
  | popLoadHead | emptyLoadHead =>
      rw [place] at consumer
      simp only [place, Option.some.injEq] at stepped
      subst stepped
      exact ⟨layout, sound.look ⟨consumer.1, consumer.2, consumer.2⟩⟩
  | popLoadNext oldHead =>
      rw [place] at consumer
      rcases consumer with ⟨noDone, isHead, isOld⟩
      simp only [place] at stepped
      refine ⟨layout, sound.loadNext isOld stepped ⟨noDone, isHead⟩ ?_⟩
      intro node first
      exact ⟨noDone, isOld, first⟩
  | emptyLoadNext head =>
      rw [place] at consumer
      rcases consumer with ⟨noDone, isHead, isOld⟩
      simp only [place] at stepped
      refine ⟨layout, sound.loadNext isOld stepped ⟨noDone, isHead⟩ ?_⟩
      intro node first
      exact ⟨noDone, isHead⟩
  | popTake oldHead node =>
      rw [place] at consumer
      rcases consumer with ⟨noDone, isOld, first⟩
      have after : ConsumerAt queue.head (layout.take node) (.popStoreHead oldHead node) := by
        refine ⟨?_, rfl⟩
        simp [Layout.take, noDone, isOld]
      rcases sound.take first after with ⟨item, heap, taken, sound⟩
      simp only [place, taken, Option.some.injEq] at stepped
      subst stepped
      exact ⟨_, sound⟩
  | popStoreHead oldHead node =>
      rw [place] at consumer
      simp only [place, Option.some.injEq] at stepped
      subst stepped
      exact ⟨layout, sound.of, sound.order, consumer, sound.producer, sound.dead, sound.once,
        sound.reports, sound.healthy⟩
  | popDelete oldHead =>
      rw [place] at consumer
      rcases consumer with ⟨oneDone, isHead⟩
      have first : layout.done.head? = some oldHead := by
        rw [oneDone]
        rfl
      rcases sound.delete first with ⟨heap, deleted, _, sound⟩
      simp only [place, deleted, Option.some.injEq] at stepped
      subst stepped
      refine ⟨_, sound ⟨?_, isHead⟩⟩
      simp [Layout.delete, oneDone]
  | batchLoadHead maxCount =>
      rw [place] at consumer
      rcases consumer with ⟨noDone, isHead⟩
      simp only [place, Option.some.injEq] at stepped
      subst stepped
      refine ⟨layout, sound.look ?_⟩
      rw [isHead]
      apply consumerAt_collect
      · rw [noDone]
        rfl
      · rw [noDone]
        rfl
  | batchLoadNext oldHead curr count maxCount =>
      rw [place] at consumer
      rcases consumer with ⟨isHead, isCurr, counted, oldest⟩
      simp only [place] at stepped
      refine ⟨layout, sound.loadNext isCurr stepped ?_ ?_⟩
      · -- the loop ends as it does when it has collected enough
        have ends := consumerAt_collect counted oldest 0
        rw [isHead, isCurr]
        simpa only [collect, Nat.not_lt_zero, if_false] using ends
      · intro node first
        exact ⟨isHead, counted, oldest, first⟩
  | batchTake oldHead node count maxCount =>
      rw [place] at consumer
      rcases consumer with ⟨isHead, counted, oldest, first⟩
      have after : ConsumerAt queue.head (layout.take node)
          (collect oldHead node (count + 1) maxCount) := by
        rw [isHead]
        apply consumerAt_collect
        · simp [Layout.take, counted]
        · simp only [Layout.take, List.head?_append, oldest, Option.some_or]
      rcases sound.take first after with ⟨item, heap, taken, sound⟩
      simp only [place, taken, Option.some.injEq] at stepped
      subst stepped
      exact ⟨_, sound⟩
  | batchStoreHead oldHead lastDataNode =>
      rw [place] at consumer
      rcases consumer with ⟨isLast, oldest⟩
      simp only [place, Option.some.injEq] at stepped
      subst stepped
      rw [isLast]
      refine ⟨layout, sound.of, sound.order, consumerAt_release sound.of ?_, sound.producer,
        sound.dead, sound.once, sound.reports, sound.healthy⟩
      rw [List.head?_append, oldest, Option.some_or]
  | batchLoadNode nodeToDelete lastDataNode =>
      rw [place] at consumer
      rcases consumer with ⟨isHead, isLast, oldest⟩
      simp only [place, sound.of.load_oldest oldest, Option.some.injEq] at stepped
      subst stepped
      exact ⟨layout, sound.look ⟨isHead, isLast, oldest, rfl⟩⟩
  | batchDelete nodeToDelete nextNode lastDataNode =>
      rw [place] at consumer
      rcases consumer with ⟨isHead, isLast, oldest, isNext⟩
      rcases sound.delete oldest with ⟨heap, deleted, of, sound⟩
      cases nextNode with
      | none => simp at isNext
      | some node =>
          simp only [place, deleted, Option.some.injEq] at stepped
          subst stepped
          refine ⟨_, sound ?_⟩
          rw [isHead, isLast]
          exact consumerAt_release of isNext

theorem sound_step [DecidableEq Addr] {action : QueueAction Addr Item}
    (sound : ∃ layout, queue.Sound layout) (stepped : queue.step action = some next) :
    ∃ layout, next.Sound layout := by
  rcases sound with ⟨layout, sound⟩
  have producer := sound.producer
  have consumer := sound.consumer
  have begins : ∀ {items}, queue.producer = .idle → next = queue.beginBatch items →
      ∃ layout, next.Sound layout := by
    intro items idle begun
    rw [idle] at producer
    cases items with
    | nil => exact ⟨layout, begun ▸ sound⟩
    | cons first rest =>
        rw [begun]
        exact ⟨layout, sound.of, sound.order, sound.consumer, producer, sound.dead, sound.once,
          sound.reports, sound.healthy⟩
  have working : ¬queue.faulted = true := by
    rw [sound.healthy]
    exact Bool.false_ne_true
  unfold step at stepped
  rw [if_neg working] at stepped
  cases action with
  | push | pushBatch | pushBatchMove =>
      simp only at stepped
      split at stepped
      · rename_i idle
        exact begins idle (Option.some.inj stepped).symm
      · cases stepped
  | allocate address =>
      simp only [Option.ite_none_right_eq_some] at stepped
      exact sound.allocateStep stepped.1 stepped.2
  | producer => exact sound.producerStep stepped
  | consumer => exact sound.consumerStep stepped
  | pop | popBatch | empty =>
      simp only at stepped
      split at stepped
      · rename_i idle
        rw [idle] at consumer
        cases stepped
        exact ⟨layout, Sound.look sound consumer⟩
      · cases stepped

end Steps

/-- The node that the producer is about to link its batch to is alive. -/
def TailAlive (queue : LockFreeQueue Addr Item) : Prop :=
  ∀ {items batchHead batchTail oldTail},
    queue.producer = .link items batchHead batchTail oldTail → (queue.heap.load oldTail).isSome

theorem Sound.tailAlive {queue : LockFreeQueue Addr Item} {layout : Layout Item}
    (sound : queue.Sound layout) : queue.TailAlive := by
  intro items batchHead batchTail oldTail place
  have producer := sound.producer
  rw [place] at producer
  rcases layout.chain_eq with ⟨front, shape⟩
  rw [producer.1]
  apply sound.of.chain.isSome
  simp [shape]

/-- In every interleaving of the producer and the consumer, the items that the consumer has received
are the first of those that the producer has linked in, the queue is found empty only when
all of these had been received, no node is deleted twice, and nobody touches a deleted node. -/
theorem isSpscQueue [DecidableEq Addr] {address : Addr} {actions : List (QueueAction Addr Item)}
    {queue : LockFreeQueue Addr Item} (ran : (construct address).run actions = some queue) :
    queue.received <+: queue.linked ∧
      (∀ report ∈ queue.emptyReports, report.2 = report.1) ∧ queue.deleted.Nodup ∧
        queue.faulted = false ∧ queue.TailAlive := by
  have invariant : ∃ layout, queue.Sound layout :=
    Interleaving.invariant_run sound_step ⟨_, sound_construct address⟩ ran
  rcases invariant with ⟨layout, sound⟩
  exact ⟨⟨layout.values, sound.order⟩, sound.reports, sound.once, sound.healthy, sound.tailAlive⟩

/-- A batch of two is linked in while the consumer looks; the first node's place is used again. -/
def pushesAndPops : List (QueueAction (Fin 4) ℕ) :=
  [.empty, .consumer, .consumer, .pushBatch [7, 8], .allocate 1, .allocate 2, .producer, .producer,
    .producer, .producer, .pop, .consumer, .consumer, .consumer, .consumer, .consumer, .producer,
    .push 9, .allocate 0, .producer, .producer, .producer, .popBatch 5, .consumer, .consumer,
    .consumer, .consumer, .consumer, .consumer, .consumer, .consumer, .consumer, .consumer,
    .consumer]

theorem isSpscQueue_pushesAndPops :
    ∃ queue, (construct 0).run pushesAndPops = some queue ∧ queue.received = [7, 8, 9] ∧
      queue.deleted.length = 3 ∧ queue.received <+: queue.linked ∧ queue.faulted = false := by
  have seen : ((construct 0).run pushesAndPops).map
      (fun queue => (queue.received, queue.deleted.length)) = some ([7, 8, 9], 3) := by
    decide +kernel
  rcases Option.map_eq_some_iff.mp seen with ⟨queue, ran, fields⟩
  simp only [Prod.mk.injEq] at fields
  have spsc := isSpscQueue ran
  exact ⟨queue, ran, fields.1, fields.2, spsc.1, spsc.2.2.2.1⟩

end LockFreeQueue

end HttpsServerSim
