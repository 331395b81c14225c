import HttpsServerSim.Lib.Transducer
import HttpsServerSim.Utils.BufferQueue

/-!
# The buffer refines a byte queue

A byte queue is the bytes that can be read, together with the bytes that were taken off
since it was last changed in another way, which `unskip` puts back. The operations of
`utils::Buffer` are simulated by those of the queue one for one, on any number of buffers
that are moved into one another, as long as no request exceeds `MAX_CAPACITY`.
-/

namespace HttpsServerSim

universe u

/-- The result of an operation. A character counts as the number of its byte. -/
inductive BufferOutput where
  | done
  | count (number : ℕ)
  | bytes (bytes : Bytes)
  | flag (answer : Bool)
  | number (success : Bool) (value : ℕ)
deriving DecidableEq

/-- The operations on one buffer. The typed ones are given the width of their type in bytes. -/
inductive BufferOp where
  | construct (initialCapacity : ℕ)
  | write (bytes : Bytes)
  | writeNull (len : ℕ)
  | writeUint8 (value : UInt8)
  | writeChar (value : Int8)
  | writeUintBe (width value : ℕ)
  -- `reserve`, bytes stored at the pointer, and `commit` of some of them
  | fill (len : ℕ) (bytes : Bytes) (committed : ℕ)
  | read (len : ℕ)
  | readToString (len : ℕ)
  | readUint8
  | readUint8Checked
  | readChar
  | readCharChecked
  | readUintBe (width : ℕ)
  | readUintBeChecked (width : ℕ)
  | peek (len : ℕ)
  | peekUint8 (offset : ℕ)
  | peekUint8Checked (offset : ℕ)
  | skip (len : ℕ)
  | unskip (len : ℕ)
  | readableBytes
  | ensureWritable (len : ℕ)
  | reserveCapacity (newCapacity : ℕ)
  | shrinkToFit
  | compact
  | clear
  | reset
deriving DecidableEq

/-! ## The two machines -/

namespace Buffer

/-- What is stored at the pointer that `reserve` has returned, and committed. -/
def fill (alloc : Alloc) (buffer : Buffer) (len : ℕ) (bytes : Bytes) (committed : ℕ) :
    Bool × Buffer :=
  match buffer.reserve alloc len with
  | (none, room) => (false, room)
  | (some _, room) => (true, (room.store bytes).commit committed)

/-- One operation of the buffer, where every allocation succeeds. -/
def run (buffer : Buffer) : BufferOp → BufferOutput × Buffer
  | .construct initialCapacity => (.done, construct initialCapacity)
  | .write bytes =>
      let (written, after) := buffer.write .always bytes
      (.count written, after)
  | .writeNull _ => (.count 0, buffer)
  | .writeUint8 value =>
      let (written, after) := buffer.writeUint8 .always value
      (.count written, after)
  | .writeChar value =>
      let (written, after) := buffer.writeChar .always value
      (.count written, after)
  | .writeUintBe width value =>
      let (written, after) := buffer.writeUintBe .always width value
      (.count written, after)
  | .fill len bytes committed =>
      let (answer, after) := buffer.fill .always len bytes committed
      (.flag answer, after)
  | .read len =>
      let (bytes, after) := buffer.read len
      (.bytes bytes, after)
  | .readToString len =>
      let (bytes, after) := buffer.readToString len
      (.bytes bytes, after)
  | .readUint8 =>
      let (value, after) := buffer.readUint8
      (.number true value.toNat, after)
  | .readUint8Checked =>
      let (success, value, after) := buffer.readUint8Checked
      (.number success value.toNat, after)
  | .readChar =>
      let (value, after) := buffer.readChar
      (.number true value.toUInt8.toNat, after)
  | .readCharChecked =>
      let (success, value, after) := buffer.readCharChecked
      (.number success value.toUInt8.toNat, after)
  | .readUintBe width =>
      let (value, after) := buffer.readUintBe width
      (.number true value, after)
  | .readUintBeChecked width =>
      let (success, value, after) := buffer.readUintBeChecked width
      (.number success value, after)
  | .peek len => (.bytes (buffer.peek len), buffer)
  | .peekUint8 offset => (.number true (buffer.peekUint8 offset).toNat, buffer)
  | .peekUint8Checked offset =>
      let (success, value) := buffer.peekUint8Checked offset
      (.number success value.toNat, buffer)
  | .skip len => (.done, buffer.skip len)
  | .unskip len => (.done, buffer.unskip len)
  | .readableBytes => (.count buffer.readableBytes, buffer)
  | .ensureWritable len =>
      let (answer, after) := buffer.ensureWritable .always len
      (.flag answer, after)
  | .reserveCapacity newCapacity =>
      let (answer, after) := buffer.reserveCapacity .always newCapacity
      (.flag answer, after)
  | .shrinkToFit => (.done, buffer.shrinkToFit)
  | .compact => (.done, buffer.compact)
  | .clear => (.done, buffer.clear)
  | .reset => (.done, buffer.reset)

end Buffer

/-- A queue of bytes, and the bytes taken off its front since it was last changed otherwise. -/
structure ByteQueue where
  contents : Bytes := []
  taken : Bytes := []
deriving DecidableEq

namespace ByteQueue

/-- Bytes are appended. -/
def push (queue : ByteQueue) (bytes : Bytes) : ByteQueue := { contents := queue.contents ++ bytes }

/-- Bytes are taken off the front, as many as there are. -/
def take (queue : ByteQueue) (len : ℕ) : ByteQueue where
  contents := queue.contents.drop len
  taken := queue.taken ++ queue.contents.take len

/-- The last bytes that were taken off are put back. -/
def putBack (queue : ByteQueue) (len : ℕ) : ByteQueue where
  contents := queue.taken.drop (queue.taken.length - len) ++ queue.contents
  taken := queue.taken.take (queue.taken.length - len)

/-- The storage is reorganised, which does not concern the queue. -/
def settle (queue : ByteQueue) : ByteQueue := { contents := queue.contents }

/-- The front of the queue as a number, padded with zero bytes. -/
def frontValue (queue : ByteQueue) (width : ℕ) : ℕ :=
  BigEndian.decode
    (queue.contents.take width ++ List.replicate (width - queue.contents.length) 0)

/-- A read that takes as many bytes as asked for, or none. -/
def takeChecked (queue : ByteQueue) (width value : ℕ) : BufferOutput × ByteQueue :=
  if queue.contents.length < width then (.number false 0, queue)
  else (.number true value, queue.take width)

/-- One operation of the queue. -/
def run (queue : ByteQueue) : BufferOp → BufferOutput × ByteQueue
  | .construct _ => (.done, {})
  | .write bytes => (.count bytes.length, queue.push bytes)
  | .writeNull _ => (.count 0, queue)
  | .writeUint8 value => (.count 1, queue.push [value])
  | .writeChar value => (.count 1, queue.push [value.toUInt8])
  | .writeUintBe width value => (.count width, queue.push (BigEndian.encode width value))
  | .fill _ bytes committed => (.flag true, queue.push (bytes.take committed))
  | .read len => (.bytes (queue.contents.take len), queue.take len)
  | .readToString len =>
      if len = 0 then (.bytes queue.contents, queue.take queue.contents.length)
      else (.bytes (queue.contents.take len), queue.take len)
  | .readUint8 | .readChar => (.number true (queue.contents.headD 0).toNat, queue.take 1)
  | .readUint8Checked | .readCharChecked =>
      queue.takeChecked 1 (queue.contents.headD 0).toNat
  | .readUintBe width => (.number true (queue.frontValue width), queue.take width)
  | .readUintBeChecked width =>
      queue.takeChecked width (BigEndian.decode (queue.contents.take width))
  | .peek len => (.bytes (queue.contents.take len), queue)
  | .peekUint8 offset => (.number true (queue.contents.getD offset 0).toNat, queue)
  | .peekUint8Checked offset =>
      (.number (decide (offset < queue.contents.length)) (queue.contents.getD offset 0).toNat,
        queue)
  | .skip len => (.done, queue.take len)
  | .unskip len => (.done, queue.putBack len)
  | .readableBytes => (.count queue.contents.length, queue)
  | .ensureWritable _ => (.flag true, queue.settle)
  | .reserveCapacity newCapacity =>
      (.flag (decide (newCapacity ≤ Buffer.maxCapacity)), queue.settle)
  | .shrinkToFit => (.done, queue.settle)
  | .compact => (.done, queue.settle)
  | .clear => (.done, {})
  | .reset => (.done, {})

/-- The operation is within the limits: no request exceeds `MAX_CAPACITY` together with what is in
the queue, no more is committed than was stored and no more stored than reserved, and no more is put
back than was taken off just before. -/
def Admits (queue : ByteQueue) : BufferOp → Prop
  | .write bytes => queue.contents.length + bytes.length ≤ Buffer.maxCapacity
  | .writeUint8 _ | .writeChar _ => queue.contents.length + 1 ≤ Buffer.maxCapacity
  | .writeUintBe width _ => queue.contents.length + width ≤ Buffer.maxCapacity
  | .fill len bytes committed =>
      queue.contents.length + len ≤ Buffer.maxCapacity ∧ bytes.length ≤ len ∧
        committed ≤ bytes.length
  | .ensureWritable len => queue.contents.length + len ≤ Buffer.maxCapacity
  | .unskip len => len ≤ queue.taken.length
  | _ => True

end ByteQueue

/-! ## Representation -/

namespace Buffer

/-- The buffer holds the queue; what was taken off last is still in front of the read index. -/
structure Represents (buffer : Buffer) (queue : ByteQueue) : Prop where
  contents : buffer.contents = queue.contents
  taken : queue.taken <:+ buffer.data.take buffer.readIdx

theorem Represents.of_contents {buffer : Buffer} {contents : Bytes}
    (contentsEq : buffer.contents = contents) : Represents buffer { contents := contents } :=
  ⟨contentsEq, List.nil_suffix⟩

theorem Represents.readableBytes {buffer : Buffer} {queue : ByteQueue}
    (represents : Represents buffer queue) : buffer.readableBytes = queue.contents.length := by
  rw [← length_contents, represents.contents]

theorem take_append_contents (buffer : Buffer) :
    buffer.data.take buffer.readIdx ++ buffer.contents = buffer.data.take buffer.writeIdx := by
  have first : buffer.data.take buffer.readIdx =
      (buffer.data.take buffer.writeIdx).take buffer.readIdx := by
    rw [List.take_take, Nat.min_eq_left buffer.read_le_write]
  rw [first, contents, List.take_append_drop]

theorem length_take_readIdx (buffer : Buffer) :
    (buffer.data.take buffer.readIdx).length = buffer.readIdx := by
  have := buffer.read_le_write.trans buffer.write_le_size
  rw [List.length_take]
  omega

/-- What `skip` moves past is in front of the read index afterwards. -/
theorem take_readIdx_skip (buffer : Buffer) (len : ℕ) :
    (buffer.skip len).data.take (buffer.skip len).readIdx =
      buffer.data.take buffer.readIdx ++ buffer.contents.take len := by
  have inside : buffer.readIdx + min len buffer.readableBytes ≤ buffer.writeIdx := by
    have := buffer.read_le_write
    simp only [Buffer.readableBytes]
    omega
  change buffer.data.take (buffer.readIdx + min len buffer.readableBytes) = _
  calc buffer.data.take (buffer.readIdx + min len buffer.readableBytes)
      = (buffer.data.take buffer.writeIdx).take
          (buffer.readIdx + min len buffer.readableBytes) := by
        rw [List.take_take, Nat.min_eq_left inside]
    _ = buffer.data.take buffer.readIdx ++
          buffer.contents.take (min len buffer.readableBytes) := by
        rw [← take_append_contents, List.take_append, length_take_readIdx,
          Nat.add_sub_cancel_left, List.take_of_length_le]
        rw [length_take_readIdx]
        exact Nat.le_add_right _ _
    _ = buffer.data.take buffer.readIdx ++ buffer.contents.take len := by
        rw [← length_contents, ← List.take_eq_take_min]

theorem Represents.skip {buffer : Buffer} {queue : ByteQueue}
    (represents : Represents buffer queue) (len : ℕ) :
    Represents (buffer.skip len) (queue.take len) := by
  refine ⟨?_, ?_⟩
  · rw [contents_skip, represents.contents]
    rfl
  · rw [take_readIdx_skip, represents.contents]
    rcases represents.taken with ⟨before, split⟩
    exact ⟨before, by rw [← split, List.append_assoc]; rfl⟩

/-- `unskip` puts back what was taken off last. -/
theorem Represents.unskip {buffer : Buffer} {queue : ByteQueue}
    (represents : Represents buffer queue) {len : ℕ} (available : len ≤ queue.taken.length) :
    Represents (buffer.unskip len) (queue.putBack len) := by
  rcases represents.taken with ⟨before, split⟩
  have lengths := congrArg List.length split
  rw [List.length_append, length_take_readIdx] at lengths
  have readIdxEq : (buffer.unskip len).readIdx = buffer.readIdx - len := if_pos (by omega)
  have whole := buffer.take_append_contents
  rw [← split] at whole
  have position : buffer.readIdx - len = before.length + (queue.taken.length - len) := by omega
  refine ⟨?_, ?_⟩
  · change (buffer.data.take buffer.writeIdx).drop (buffer.unskip len).readIdx = _
    rw [readIdxEq, ← whole, position, List.append_assoc, List.drop_append,
      List.drop_of_length_le (Nat.le_add_right _ _), Nat.add_sub_cancel_left, List.nil_append,
      List.drop_append_of_le_length (Nat.sub_le _ _), represents.contents]
    rfl
  · change queue.taken.take (queue.taken.length - len) <:+ buffer.data.take _
    have front : buffer.data.take (buffer.readIdx - len) =
        (buffer.data.take buffer.readIdx).take (buffer.readIdx - len) := by
      rw [List.take_take, Nat.min_eq_left (Nat.sub_le _ _)]
    rw [readIdxEq, front, ← split, position, List.take_length_add_append]
    exact List.suffix_append _ _

/-! ## What the operations leave of the contents -/

theorem contents_shrinkToFit (buffer : Buffer) : buffer.shrinkToFit.contents = buffer.contents := by
  simp only [shrinkToFit]
  split_ifs with empty
  · rw [contents_reset]
    apply Eq.symm
    rw [← List.length_eq_zero_iff, length_contents]
    exact empty
  · have packed := buffer.contents_compact
    have whole : (vectorResize buffer.compact.data buffer.compact.writeIdx).take
        buffer.compact.writeIdx = buffer.compact.data.take buffer.compact.writeIdx := by
      have within := buffer.compact.write_le_size
      rw [vectorResize, List.take_append_of_le_length, List.take_take, Nat.min_self]
      rw [List.length_take]
      omega
    rw [← packed, contents, contents, whole]

theorem contents_reserveCapacity (buffer : Buffer) (newCapacity : ℕ) :
    (buffer.reserveCapacity .always newCapacity).2.contents = buffer.contents := by
  simp only [reserveCapacity]
  split_ifs
  · rfl
  · rfl
  · exact contents_resize _ _ _ _

theorem reserveCapacity_answer (buffer : Buffer) (newCapacity : ℕ) :
    (buffer.reserveCapacity .always newCapacity).1 = decide (newCapacity ≤ maxCapacity) := by
  simp only [reserveCapacity]
  split_ifs with fits exceeds
  · exact (decide_eq_true (fits.trans buffer.size_le_max)).symm
  · exact (decide_eq_false (Nat.not_le.mpr exceeds)).symm
  · rw [decide_eq_true (Nat.not_lt.mp exceeds)]
    exact (buffer.resize_always _ (Nat.not_lt.mp exceeds)).1

/-- What is stored within the free space is appended as far as it is committed. -/
theorem contents_store_commit_of_le (buffer : Buffer) {bytes : Bytes} {committed : ℕ}
    (stored : committed ≤ bytes.length) (room : bytes.length ≤ buffer.writableBytes) :
    ((buffer.store bytes).commit committed).contents =
      buffer.contents ++ bytes.take committed := by
  have all := contents_store_commit buffer bytes
  rw [List.take_of_length_le room] at all
  have size : (buffer.store bytes).writableBytes = buffer.writableBytes := by
    simp only [writableBytes, Buffer.store, length_storeAt _ buffer.write_le_size]
  have writeIdxEq (count : ℕ) (fits : count ≤ bytes.length) :
      ((buffer.store bytes).commit count).writeIdx = buffer.writeIdx + count := by
    change buffer.writeIdx + min count (buffer.store bytes).writableBytes = _
    rw [size, Nat.min_eq_left (fits.trans room)]
  have readLe := buffer.read_le_write
  calc ((buffer.store bytes).commit committed).contents
      = ((buffer.store bytes).commit bytes.length).contents.take
          (buffer.readableBytes + committed) := by
        rw [contents, contents, writeIdxEq _ stored, writeIdxEq _ (Nat.le_refl _), List.take_drop,
          List.take_take]
        change ((buffer.store bytes).data.take (buffer.writeIdx + committed)).drop buffer.readIdx =
          ((buffer.store bytes).data.take
            (min (buffer.readIdx + (buffer.readableBytes + committed))
              (buffer.writeIdx + bytes.length))).drop buffer.readIdx
        have position : min (buffer.readIdx + (buffer.readableBytes + committed))
            (buffer.writeIdx + bytes.length) = buffer.writeIdx + committed := by
          simp only [Buffer.readableBytes]
          omega
        rw [position]
    _ = buffer.contents ++ bytes.take committed := by
        rw [all, List.take_append, length_contents, Nat.add_sub_cancel_left,
          List.take_of_length_le]
        rw [length_contents]
        exact Nat.le_add_right _ _

theorem fill_of_fits (buffer : Buffer) {len committed : ℕ} {bytes : Bytes}
    (within : buffer.readableBytes + len ≤ maxCapacity) (reserved : bytes.length ≤ len)
    (stored : committed ≤ bytes.length) :
    (buffer.fill .always len bytes committed).1 = true ∧
      (buffer.fill .always len bytes committed).2.contents =
        buffer.contents ++ bytes.take committed := by
  have answer := buffer.ensureWritable_always len
  have room := (buffer.ensureWritable_room_iff len).mpr within
  have filled : buffer.fill .always len bytes committed =
      (true, (((buffer.ensureWritable .always len).2).store bytes).commit committed) := by
    simp only [fill, reserve, answer, if_true]
  rw [filled]
  refine ⟨rfl, ?_⟩
  rw [contents_store_commit_of_le _ stored (reserved.trans room), contents_ensureWritable]

/-! ## What is read -/

theorem peek_eq (buffer : Buffer) (len : ℕ) : buffer.peek len = buffer.contents.take len := by
  rw [peek, ← length_contents, ← List.take_eq_take_min]

theorem peekUint8_eq (buffer : Buffer) (offset : ℕ) :
    buffer.peekUint8 offset = buffer.contents.getD offset 0 := by
  rw [peekUint8]
  split_ifs with beyond
  · have nothing : buffer.contents[offset]? = none :=
      List.getElem?_eq_none (by rw [length_contents]; exact beyond)
    rw [List.getD_eq_getElem?_getD, nothing]
    rfl
  · have inside : buffer.readIdx + offset < buffer.writeIdx := by
      simp only [Buffer.readableBytes] at beyond
      omega
    rw [List.getD_eq_getElem?_getD, List.getD_eq_getElem?_getD, contents, List.getElem?_drop,
      List.getElem?_take_of_lt inside]

theorem peekUint8Checked_eq (buffer : Buffer) (offset : ℕ) :
    buffer.peekUint8Checked offset =
      (decide (offset < buffer.contents.length), buffer.contents.getD offset 0) := by
  have value := buffer.peekUint8_eq offset
  rw [peekUint8] at value
  rw [peekUint8Checked, length_contents]
  split_ifs at value ⊢ with beyond
  · rw [decide_eq_false (Nat.not_lt.mpr beyond), ← value]
  · rw [decide_eq_true (Nat.not_le.mp beyond), ← value]

end Buffer

namespace ByteQueue

/-- Asking for more than there is makes no difference. -/
theorem take_min (queue : ByteQueue) (len : ℕ) :
    queue.take (min len queue.contents.length) = queue.take len := by
  have dropEq : queue.contents.drop (min len queue.contents.length) = queue.contents.drop len := by
    rcases Nat.le_total len queue.contents.length with short | long
    · rw [Nat.min_eq_left short]
    · rw [Nat.min_eq_right long, List.drop_length, List.drop_eq_nil_of_le long]
  rw [take, take, dropEq, ← List.take_eq_take_min]

end ByteQueue

namespace Buffer

theorem Represents.write {buffer : Buffer} {queue : ByteQueue} {bytes : Bytes}
    (represents : Represents buffer queue)
    (fits : queue.contents.length + bytes.length ≤ maxCapacity) :
    (buffer.write .always bytes).1 = bytes.length ∧
      Represents (buffer.write .always bytes).2 (queue.push bytes) := by
  rw [← represents.readableBytes] at fits
  rcases buffer.write_of_fits fits with ⟨count, contentsEq⟩
  rw [represents.contents] at contentsEq
  exact ⟨count, Represents.of_contents contentsEq⟩

theorem Represents.read {buffer : Buffer} {queue : ByteQueue}
    (represents : Represents buffer queue) (len : ℕ) :
    (buffer.read len).1 = queue.contents.take len ∧
      Represents (buffer.read len).2 (queue.take len) := by
  refine ⟨?_, ?_⟩
  · rw [← represents.contents, ← peek_eq]
    rfl
  · rw [← queue.take_min, ← represents.readableBytes]
    exact represents.skip _

theorem Represents.readToString {buffer : Buffer} {queue : ByteQueue}
    (represents : Represents buffer queue) (len : ℕ) :
    BufferOutput.bytes (buffer.readToString len).1 = (queue.run (.readToString len)).1 ∧
      Represents (buffer.readToString len).2 (queue.run (.readToString len)).2 := by
  have upTo (count : ℕ) :
      (if count = 0 then ([], buffer) else buffer.read count).1 = queue.contents.take count ∧
        Represents (if count = 0 then ([], buffer) else buffer.read count).2
          (queue.take count) := by
    split_ifs with nothing
    · have untouched : queue.take count = queue := by
        rw [nothing, ByteQueue.take, List.take_zero, List.append_nil, List.drop_zero]
      rw [untouched, nothing, List.take_zero]
      exact ⟨rfl, represents⟩
    · exact represents.read count
  by_cases all : len = 0
  · simp only [Buffer.readToString, ByteQueue.run, represents.readableBytes, all, if_true]
    rcases upTo queue.contents.length with ⟨bytesEq, after⟩
    rw [List.take_length] at bytesEq
    exact ⟨congrArg BufferOutput.bytes bytesEq, after⟩
  · simp only [Buffer.readToString, ByteQueue.run, represents.readableBytes, all, if_false]
    rcases upTo (min len queue.contents.length) with ⟨bytesEq, after⟩
    rw [queue.take_min] at after
    rw [← List.take_eq_take_min] at bytesEq
    exact ⟨congrArg BufferOutput.bytes bytesEq, after⟩

theorem Represents.readUintBe {buffer : Buffer} {queue : ByteQueue}
    (represents : Represents buffer queue) (width : ℕ) :
    (buffer.readUintBe width).1 = queue.frontValue width ∧
      Represents (buffer.readUintBe width).2 (queue.take width) := by
  rcases represents.read width with ⟨bytesEq, after⟩
  refine ⟨?_, after⟩
  have padding : width - (queue.contents.take width).length = width - queue.contents.length := by
    rw [List.length_take]
    omega
  change BigEndian.decode ((buffer.read width).1 ++
    List.replicate (width - (buffer.read width).1.length) 0) = _
  rw [bytesEq, padding]
  rfl

theorem Represents.readByte {buffer : Buffer} {queue : ByteQueue}
    (represents : Represents buffer queue) :
    (buffer.read 1).1.headD 0 = queue.contents.headD 0 ∧
      Represents (buffer.read 1).2 (queue.take 1) := by
  rcases represents.read 1 with ⟨bytesEq, after⟩
  refine ⟨?_, after⟩
  rw [bytesEq]
  cases queue.contents <;> rfl

/-- The success-flag form of a typed read, by what its plain form does where it is called. -/
theorem Represents.readChecked {Value : Type} {zero : Value} {plain : Buffer → Value × Buffer}
    {buffer : Buffer} {queue : ByteQueue} (represents : Represents buffer queue) {width : ℕ}
    (number : Value → ℕ) (zeroEq : number zero = 0) {value : ℕ}
    (plainEq : width ≤ queue.contents.length →
      number (plain buffer).1 = value ∧ Represents (plain buffer).2 (queue.take width)) :
    BufferOutput.number (buffer.readChecked width zero plain).1
        (number (buffer.readChecked width zero plain).2.1) = (queue.takeChecked width value).1 ∧
      Represents (buffer.readChecked width zero plain).2.2 (queue.takeChecked width value).2 := by
  simp only [Buffer.readChecked, ByteQueue.takeChecked, represents.readableBytes]
  split_ifs with short
  · exact ⟨congrArg (BufferOutput.number false) zeroEq, represents⟩
  · rcases plainEq (Nat.not_lt.mp short) with ⟨valueEq, after⟩
    exact ⟨congrArg (BufferOutput.number true) valueEq, after⟩

theorem Represents.readUintBeChecked {buffer : Buffer} {queue : ByteQueue}
    (represents : Represents buffer queue) (width : ℕ) :
    BufferOutput.number (buffer.readUintBeChecked width).1
        (buffer.readUintBeChecked width).2.1 = (queue.run (.readUintBeChecked width)).1 ∧
      Represents (buffer.readUintBeChecked width).2.2 (queue.run (.readUintBeChecked width)).2 := by
  apply represents.readChecked id rfl
  intro enough
  rcases represents.readUintBe width with ⟨valueEq, after⟩
  refine ⟨?_, after⟩
  have full : width - queue.contents.length = 0 := by omega
  rw [id_eq, valueEq, ByteQueue.frontValue, full, List.replicate_zero, List.append_nil]

/-- The operations of the buffer do what those of the queue do. -/
theorem Represents.run {buffer : Buffer} {queue : ByteQueue}
    (represents : Represents buffer queue) {op : BufferOp} (admits : queue.Admits op) :
    (buffer.run op).1 = (queue.run op).1 ∧ Represents (buffer.run op).2 (queue.run op).2 := by
  have unread := represents.readableBytes
  cases op with
  | construct initialCapacity => exact ⟨rfl, Represents.of_contents (contents_construct _)⟩
  | write bytes =>
      rcases represents.write admits with ⟨count, after⟩
      exact ⟨congrArg BufferOutput.count count, after⟩
  | writeNull len => exact ⟨rfl, represents⟩
  | writeUint8 value =>
      have fits : queue.contents.length + [value].length ≤ maxCapacity := admits
      rcases represents.write fits with ⟨count, after⟩
      exact ⟨congrArg BufferOutput.count count, after⟩
  | writeChar value =>
      have fits : queue.contents.length + [value.toUInt8].length ≤ maxCapacity := admits
      rcases represents.write fits with ⟨count, after⟩
      exact ⟨congrArg BufferOutput.count count, after⟩
  | writeUintBe width value =>
      have size : (BigEndian.encode width value).length = width := BigEndian.length_encode _ _
      have fits : queue.contents.length + (BigEndian.encode width value).length ≤ maxCapacity := by
        rw [size]
        exact admits
      rcases represents.write fits with ⟨count, after⟩
      exact ⟨congrArg BufferOutput.count (count.trans size), after⟩
  | fill len bytes committed =>
      rcases admits with ⟨within, reserved, stored⟩
      rw [← unread] at within
      rcases buffer.fill_of_fits within reserved stored with ⟨answer, contentsEq⟩
      rw [represents.contents] at contentsEq
      exact ⟨congrArg BufferOutput.flag answer, Represents.of_contents contentsEq⟩
  | read len =>
      rcases represents.read len with ⟨bytesEq, after⟩
      exact ⟨congrArg BufferOutput.bytes bytesEq, after⟩
  | readToString len =>
      exact represents.readToString len
  | readUint8 =>
      rcases represents.readByte with ⟨byteEq, after⟩
      exact ⟨congrArg (fun byte : UInt8 => BufferOutput.number true byte.toNat) byteEq, after⟩
  | readUint8Checked =>
      rcases represents.readByte with ⟨byteEq, after⟩
      exact represents.readChecked UInt8.toNat rfl
        fun _ => ⟨congrArg UInt8.toNat byteEq, after⟩
  | readChar =>
      rcases represents.readByte with ⟨byteEq, after⟩
      refine ⟨?_, after⟩
      change BufferOutput.number true ((buffer.read 1).1.headD 0).toInt8.toUInt8.toNat = _
      rw [UInt8.toUInt8_toInt8, byteEq]
      rfl
  | readCharChecked =>
      rcases represents.readByte with ⟨byteEq, after⟩
      apply represents.readChecked (fun value : Int8 => value.toUInt8.toNat) rfl
      intro _
      refine ⟨?_, after⟩
      change ((buffer.read 1).1.headD 0).toInt8.toUInt8.toNat = _
      rw [UInt8.toUInt8_toInt8, byteEq]
  | readUintBe width =>
      rcases represents.readUintBe width with ⟨valueEq, after⟩
      exact ⟨congrArg (BufferOutput.number true) valueEq, after⟩
  | readUintBeChecked width => exact represents.readUintBeChecked width
  | peek len =>
      refine ⟨?_, represents⟩
      change BufferOutput.bytes (buffer.peek len) = _
      rw [peek_eq, represents.contents]
      rfl
  | peekUint8 offset =>
      refine ⟨?_, represents⟩
      change BufferOutput.number true (buffer.peekUint8 offset).toNat = _
      rw [peekUint8_eq, represents.contents]
      rfl
  | peekUint8Checked offset =>
      refine ⟨?_, represents⟩
      simp only [Buffer.run, ByteQueue.run, peekUint8Checked_eq, represents.contents]
  | skip len => exact ⟨rfl, represents.skip len⟩
  | unskip len => exact ⟨rfl, represents.unskip admits⟩
  | readableBytes => exact ⟨congrArg BufferOutput.count unread, represents⟩
  | ensureWritable len =>
      refine ⟨congrArg BufferOutput.flag (buffer.ensureWritable_always len), ?_⟩
      exact Represents.of_contents ((contents_ensureWritable _ _ _).trans represents.contents)
  | reserveCapacity newCapacity =>
      refine ⟨congrArg BufferOutput.flag (buffer.reserveCapacity_answer newCapacity), ?_⟩
      exact Represents.of_contents ((buffer.contents_reserveCapacity _).trans represents.contents)
  | shrinkToFit =>
      exact ⟨rfl, Represents.of_contents (buffer.contents_shrinkToFit.trans represents.contents)⟩
  | compact =>
      exact ⟨rfl, Represents.of_contents (buffer.contents_compact.trans represents.contents)⟩
  | clear => exact ⟨rfl, Represents.of_contents (contents_clear buffer)⟩
  | reset => exact ⟨rfl, Represents.of_contents (contents_reset buffer)⟩

end Buffer

/-! ## Several buffers -/

/-- An operation on one of several buffers, or a move between two of them. -/
inductive BufferCall (Slot : Type u) where
  | on (slot : Slot) (op : BufferOp)
  | moveConstruct (target source : Slot)
  | moveAssign (target source : Slot)

section Slots

variable {Slot : Type u} [DecidableEq Slot]

namespace Buffer

/-- The buffers under their names. -/
def machine : Transducer (Slot → Buffer) (BufferCall Slot) BufferOutput where
  step buffers
    | .on slot op =>
        let (output, after) := (buffers slot).run op
        (Function.update buffers slot after, [output])
    | .moveConstruct target source =>
        let (created, emptied) := moveConstruct (buffers source)
        (Function.update (Function.update buffers source emptied) target created, [])
    | .moveAssign target source =>
        if target = source then (buffers, [])
        else
          let (assigned, emptied) := moveAssign (buffers target) (buffers source)
          (Function.update (Function.update buffers source emptied) target assigned, [])

end Buffer

namespace ByteQueue

/-- The queues under the same names. -/
def machine : Transducer (Slot → ByteQueue) (BufferCall Slot) BufferOutput where
  step queues
    | .on slot op =>
        let (output, after) := (queues slot).run op
        (Function.update queues slot after, [output])
    | .moveConstruct target source =>
        (Function.update (Function.update queues source {}) target (queues source), [])
    | .moveAssign target source =>
        if target = source then (queues, [])
        else (Function.update (Function.update queues source {}) target (queues source), [])

/-- The call is within the limits of the queue that it is about. -/
def AdmitsCall (queues : Slot → ByteQueue) : BufferCall Slot → Prop
  | .on slot op => (queues slot).Admits op
  | _ => True

end ByteQueue

namespace Buffer

/-- Each buffer holds its queue. -/
def RepresentAll (buffers : Slot → Buffer) (queues : Slot → ByteQueue) : Prop :=
  ∀ slot, Represents (buffers slot) (queues slot)

theorem RepresentAll.update {buffers : Slot → Buffer} {queues : Slot → ByteQueue}
    (represent : RepresentAll buffers queues) {buffer : Buffer} {queue : ByteQueue}
    (represents : Represents buffer queue) (slot : Slot) :
    RepresentAll (Function.update buffers slot buffer) (Function.update queues slot queue) := by
  intro other
  by_cases same : other = slot
  · rw [same, Function.update_self, Function.update_self]
    exact represents
  · rw [Function.update_of_ne same, Function.update_of_ne same]
    exact represent other

theorem machine_simulates :
    (machine : Transducer (Slot → Buffer) _ _).Simulates ByteQueue.machine
      ByteQueue.AdmitsCall RepresentAll := by
  have moved : Represents movedFrom {} := Represents.of_contents rfl
  intro buffers queues call represent admits
  cases call with
  | on slot op =>
      rcases (represent slot).run admits with ⟨output, after⟩
      exact ⟨congrArg (fun output => [output]) output, represent.update after slot⟩
  | moveConstruct target source =>
      exact ⟨rfl, (represent.update moved source).update (represent source) target⟩
  | moveAssign target source =>
      simp only [machine, ByteQueue.machine]
      split_ifs
      · exact ⟨rfl, represent⟩
      · exact ⟨rfl, (represent.update moved source).update (represent source) target⟩

/-- Over every run of calls within the limits, buffers answer as queues do and hold what these hold,
with their indices in order. Reorganising the storage never concerns the contents, and `unskip` puts
back what has just been consumed. -/
theorem refines_byteQueue (buffers : Slot → Buffer) (calls : List (BufferCall Slot))
    (admits : ByteQueue.machine.Meets ByteQueue.AdmitsCall
      (fun slot => { contents := (buffers slot).contents }) calls) :
    (machine.run buffers calls).2 =
        (ByteQueue.machine.run (fun slot => { contents := (buffers slot).contents }) calls).2 ∧
      (∀ slot, ((machine.run buffers calls).1 slot).contents =
        ((ByteQueue.machine.run (fun slot => { contents := (buffers slot).contents })
          calls).1 slot).contents) ∧
      (∀ slot, ((machine.run buffers calls).1 slot).readIdx ≤
          ((machine.run buffers calls).1 slot).writeIdx ∧
        ((machine.run buffers calls).1 slot).writeIdx ≤
          ((machine.run buffers calls).1 slot).capacity ∧
        ((machine.run buffers calls).1 slot).capacity ≤ maxCapacity) := by
  have initially : RepresentAll buffers fun slot => { contents := (buffers slot).contents } :=
    fun slot => Represents.of_contents rfl
  rcases machine_simulates.run_eq initially admits with ⟨outputs, represent⟩
  refine ⟨outputs, fun slot => (represent slot).contents, fun slot => ?_⟩
  generalize (machine.run buffers calls).1 slot = buffer
  exact ⟨buffer.read_le_write, buffer.write_le_size, buffer.size_le_max⟩

/-- Three bytes are written and read with one of them put back, and what is left is moved. -/
theorem refines_byteQueue_moved :
    (machine.run (fun _ : Bool => construct)
      [.on true (.write [1, 2, 3]), .on true (.read 2), .on true (.unskip 1), .on true .compact,
        .moveAssign false true, .on false (.read 5), .on true .readableBytes]).2 =
      [.count 3, .bytes [1, 2], .done, .done, .bytes [2, 3], .count 0] := by
  refine (refines_byteQueue (fun _ : Bool => construct) _ ?_).1.trans ?_
  · refine ⟨?_, trivial, ?_, trivial, trivial, trivial, trivial, trivial⟩
    · change (construct.contents).length + [1, 2, 3].length ≤ maxCapacity
      rw [contents_construct]
      decide
    · exact Nat.le_succ 1
  · simp only [contents_construct]
    rfl

end Buffer

end Slots

end HttpsServerSim
