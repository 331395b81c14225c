import HttpsServerSim.Lib.Interleaving
import HttpsServerSim.Lib.NodeHeap

/-!
# The lock-free queue

`LockFreeQueue` with its two threads: a producer that calls `push`, `push_batch` and
`push_batch_move`, and a consumer that calls `pop`, `pop_batch` and `empty`, each as often as
it likes. An action moves one of them by one atomic load or store, one `new` or `delete`, or
one move of an item out of a node.

The three functions of the producer build a chain of their items and link it in with one
store; `push` has a chain of one node. An access to a deleted node, or a second `delete`,
ends in the state `faulted`. `linked`, `received`, `emptyReports` and `deleted` are history
variables: the items that the producer has linked in, those that the consumer has moved out,
both of these at each load by which the consumer found the queue empty, and the deleted nodes.
-/

namespace HttpsServerSim

universe u v

/-- Where the producer is; `items` are the arguments of its call. -/
inductive ProducerPc (Item : Type v) where
  | idle
  | allocFirst (first : Item) (rest : List Item)
  | allocNext (items : List Item) (batchHead batchTail : ℕ) (item : Item) (rest : List Item)
  | linkNext (items : List Item) (batchHead batchTail newNode : ℕ) (rest : List Item)
  | endBatch (items : List Item) (batchHead batchTail : ℕ)
  | loadTail (items : List Item) (batchHead batchTail : ℕ)
  | link (items : List Item) (batchHead batchTail oldTail : ℕ)
  | storeTail (batchTail : ℕ)
deriving DecidableEq, Repr

/-- Where the consumer is. In `pop_batch`, `last_data_node` is `curr` as soon as `count` is
positive. -/
inductive ConsumerPc where
  | idle
  | popLoadHead
  | popLoadNext (oldHead : ℕ)
  | popTake (oldHead next : ℕ)
  | popStoreHead (oldHead next : ℕ)
  | popDelete (oldHead : ℕ)
  | batchLoadHead (maxCount : ℕ)
  | batchLoadNext (oldHead curr count maxCount : ℕ)
  | batchTake (oldHead next count maxCount : ℕ)
  | batchStoreHead (oldHead lastDataNode : ℕ)
  | batchLoadNode (nodeToDelete lastDataNode : ℕ)
  | batchDelete (nodeToDelete : ℕ) (nextNode : Option ℕ) (lastDataNode : ℕ)
  | emptyLoadHead
  | emptyLoadNext (head : ℕ)
deriving DecidableEq, Repr

structure LockFreeQueue (Addr : Type u) (Item : Type v) where
  heap : NodeHeap Addr Item
  head : ℕ
  tail : ℕ
  producer : ProducerPc Item
  consumer : ConsumerPc
  faulted : Bool
  linked : List Item
  received : List Item
  emptyReports : List (List Item × List Item)
  deleted : List ℕ

inductive QueueAction (Addr : Type u) (Item : Type v) where
  | push (item : Item)
  | pushBatch (items : List Item)
  | pushBatchMove (items : List Item)
  | allocate (address : Addr)
  | producer
  | pop
  | popBatch (maxCount : ℕ)
  | empty
  | consumer

namespace LockFreeQueue

variable {Addr : Type u} {Item : Type v}

def construct (address : Addr) : LockFreeQueue Addr Item where
  heap := .single address
  head := 0
  tail := 0
  producer := .idle
  consumer := .idle
  faulted := false
  linked := []
  received := []
  emptyReports := []
  deleted := []

/-- The state after an access to a node that has been deleted. -/
def fault (queue : LockFreeQueue Addr Item) : LockFreeQueue Addr Item :=
  { queue with faulted := true }

/-- The beginning of `push_batch` and `push_batch_move`. -/
def beginBatch (queue : LockFreeQueue Addr Item) : List Item → LockFreeQueue Addr Item
  | [] => queue
  | first :: rest => { queue with producer := .allocFirst first rest }

/-- The head of the loop over the items. -/
def nextItem (items : List Item) (batchHead batchTail : ℕ) : List Item → ProducerPc Item
  | [] => .endBatch items batchHead batchTail
  | item :: rest => .allocNext items batchHead batchTail item rest

/-- `new Node`. -/
def allocateStep (queue : LockFreeQueue Addr Item) (address : Addr) :
    Option (LockFreeQueue Addr Item) :=
  match queue.producer with
  | .allocFirst first rest =>
      some
        { queue with
          heap := queue.heap.allocate address first
          producer := nextItem (first :: rest) queue.heap.allocated queue.heap.allocated rest }
  | .allocNext items batchHead batchTail item rest =>
      some
        { queue with
          heap := queue.heap.allocate address item
          producer := .linkNext items batchHead batchTail queue.heap.allocated rest }
  | _ => none

/-- The loads and stores of the producer. -/
def producerStep (queue : LockFreeQueue Addr Item) : Option (LockFreeQueue Addr Item) :=
  match queue.producer with
  | .linkNext items batchHead batchTail newNode rest =>
      match queue.heap.store batchTail (some newNode) with
      | none => some queue.fault
      | some heap =>
          some { queue with heap := heap, producer := nextItem items batchHead newNode rest }
  | .endBatch items batchHead batchTail =>
      match queue.heap.store batchTail none with
      | none => some queue.fault
      | some heap =>
          some { queue with heap := heap, producer := .loadTail items batchHead batchTail }
  | .loadTail items batchHead batchTail =>
      some { queue with producer := .link items batchHead batchTail queue.tail }
  | .link items batchHead batchTail oldTail =>
      match queue.heap.store oldTail (some batchHead) with
      | none => some queue.fault
      | some heap =>
          some
            { queue with
              heap := heap
              producer := .storeTail batchTail
              linked := queue.linked ++ items }
  | .storeTail batchTail => some { queue with tail := batchTail, producer := .idle }
  | .idle | .allocFirst _ _ | .allocNext _ _ _ _ _ => none

/-- The head of the loop of `pop_batch` that collects. -/
def collect (oldHead curr count maxCount : ℕ) : ConsumerPc :=
  if count < maxCount then .batchLoadNext oldHead curr count maxCount
  else if count > 0 then .batchStoreHead oldHead curr
  else .idle

/-- The head of the loop of `pop_batch` that deletes. -/
def release [DecidableEq Addr] (heap : NodeHeap Addr Item) (nodeToDelete lastDataNode : ℕ) :
    ConsumerPc :=
  if heap.same nodeToDelete lastDataNode then .idle else .batchLoadNode nodeToDelete lastDataNode

/-- A load of the consumer that finds no node behind the last one. -/
def reportEmpty (queue : LockFreeQueue Addr Item) (consumer : ConsumerPc) :
    LockFreeQueue Addr Item :=
  { queue with
    consumer := consumer
    emptyReports := queue.emptyReports ++ [(queue.linked, queue.received)] }

/-- `pop`, `pop_batch` and `empty`. -/
def consumerStep [DecidableEq Addr] (queue : LockFreeQueue Addr Item) :
    Option (LockFreeQueue Addr Item) :=
  match queue.consumer with
  | .idle => none
  | .popLoadHead => some { queue with consumer := .popLoadNext queue.head }
  | .popLoadNext oldHead =>
      match queue.heap.load oldHead with
      | none => some queue.fault
      | some none => some (queue.reportEmpty .idle)
      | some (some next) => some { queue with consumer := .popTake oldHead next }
  | .popTake oldHead next =>
      match queue.heap.take next with
      | none => some queue.fault
      | some (item, heap) =>
          some
            { queue with
              heap := heap
              consumer := .popStoreHead oldHead next
              received := queue.received ++ [item] }
  | .popStoreHead oldHead next =>
      some { queue with head := next, consumer := .popDelete oldHead }
  | .popDelete oldHead =>
      match queue.heap.delete oldHead with
      | none => some queue.fault
      | some heap =>
          some
            { queue with
              heap := heap
              consumer := .idle
              deleted := queue.deleted ++ [oldHead] }
  | .batchLoadHead maxCount =>
      some { queue with consumer := collect queue.head queue.head 0 maxCount }
  | .batchLoadNext oldHead curr count maxCount =>
      match queue.heap.load curr with
      | none => some queue.fault
      | some none =>
          some (queue.reportEmpty (if count > 0 then .batchStoreHead oldHead curr else .idle))
      | some (some next) => some { queue with consumer := .batchTake oldHead next count maxCount }
  | .batchTake oldHead next count maxCount =>
      match queue.heap.take next with
      | none => some queue.fault
      | some (item, heap) =>
          some
            { queue with
              heap := heap
              consumer := collect oldHead next (count + 1) maxCount
              received := queue.received ++ [item] }
  | .batchStoreHead oldHead lastDataNode =>
      some
        { queue with
          head := lastDataNode
          consumer := release queue.heap oldHead lastDataNode }
  | .batchLoadNode nodeToDelete lastDataNode =>
      match queue.heap.load nodeToDelete with
      | none => some queue.fault
      | some nextNode =>
          some { queue with consumer := .batchDelete nodeToDelete nextNode lastDataNode }
  | .batchDelete nodeToDelete nextNode lastDataNode =>
      match queue.heap.delete nodeToDelete, nextNode with
      | some heap, some next =>
          some
            { queue with
              heap := heap
              consumer := release heap next lastDataNode
              deleted := queue.deleted ++ [nodeToDelete] }
      -- a null pointer differs from `last_data_node` and is followed next
      | _, _ => some queue.fault
  | .emptyLoadHead => some { queue with consumer := .emptyLoadNext queue.head }
  | .emptyLoadNext head =>
      match queue.heap.load head with
      | none => some queue.fault
      | some none => some (queue.reportEmpty .idle)
      | some (some _) => some { queue with consumer := .idle }

def step [DecidableEq Addr] (queue : LockFreeQueue Addr Item) (action : QueueAction Addr Item) :
    Option (LockFreeQueue Addr Item) :=
  if queue.faulted then none
  else
    match action with
    | .push item =>
        match queue.producer with
        | .idle => some (queue.beginBatch [item])
        | _ => none
    | .pushBatch items | .pushBatchMove items =>
        match queue.producer with
        | .idle => some (queue.beginBatch items)
        | _ => none
    | .allocate address => if queue.heap.free address then queue.allocateStep address else none
    | .producer => queue.producerStep
    | .pop =>
        match queue.consumer with
        | .idle => some { queue with consumer := .popLoadHead }
        | _ => none
    | .popBatch maxCount =>
        match queue.consumer with
        | .idle => some { queue with consumer := .batchLoadHead maxCount }
        | _ => none
    | .empty =>
        match queue.consumer with
        | .idle => some { queue with consumer := .emptyLoadHead }
        | _ => none
    | .consumer => queue.consumerStep

/-- The queue after an interleaving. -/
def run [DecidableEq Addr] (queue : LockFreeQueue Addr Item)
    (actions : List (QueueAction Addr Item)) : Option (LockFreeQueue Addr Item) :=
  Interleaving.run step queue actions

end LockFreeQueue

end HttpsServerSim
