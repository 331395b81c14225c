import HttpsServerSim.Utils.Buffer

/-!
# The buffer as a byte queue

What the operations of `utils::Buffer` do to the readable bytes. Compaction,
growth and the capacity bookkeeping leave them alone, `skip` takes from the front
and `write` appends at the back as long as the total stays within the capacity
limit. Beyond the limit `ensure_writable` still answers `true`: the clamp in
`calculate_growth` keeps the test in `resize` from ever failing.
-/

namespace HttpsServerSim

namespace Buffer

@[simp]
theorem length_contents (buffer : Buffer) : buffer.contents.length = buffer.readableBytes := by
  have := buffer.write_le_size
  simp only [contents, readableBytes, List.length_drop, List.length_take]
  omega

theorem readableBytes_le (buffer : Buffer) : buffer.readableBytes ≤ maxCapacity := by
  have := buffer.write_le_size
  have := buffer.size_le_max
  simp only [readableBytes]
  omega

@[simp]
theorem contents_construct (initialCapacity : ℕ) : (construct initialCapacity).contents = [] := by
  simp [contents, construct]

@[simp]
theorem contents_clear (buffer : Buffer) : buffer.clear.contents = [] := by
  simp [contents, clear]

@[simp]
theorem contents_reset (buffer : Buffer) : buffer.reset.contents = [] := by
  simp [contents, reset]

@[simp]
theorem contents_skip (buffer : Buffer) (len : ℕ) :
    (buffer.skip len).contents = buffer.contents.drop len := by
  change (buffer.data.take buffer.writeIdx).drop (buffer.readIdx + min len buffer.readableBytes) =
    ((buffer.data.take buffer.writeIdx).drop buffer.readIdx).drop len
  rw [List.drop_drop]
  rcases Nat.le_total len buffer.readableBytes with short | long
  · rw [Nat.min_eq_left short]
  · have := buffer.write_le_size
    simp only [readableBytes] at long ⊢
    rw [List.drop_eq_nil_of_le, List.drop_eq_nil_of_le] <;>
      simp only [List.length_take] <;> omega

@[simp]
theorem compact_readIdx (buffer : Buffer) : buffer.compact.readIdx = 0 := by
  simp only [compact]
  split_ifs with atStart
  · exact atStart
  · rfl

@[simp]
theorem compact_writeIdx (buffer : Buffer) : buffer.compact.writeIdx = buffer.readableBytes := by
  simp only [compact, readableBytes]
  split_ifs with atStart
  · omega
  · rfl

@[simp]
theorem length_compact (buffer : Buffer) :
    buffer.compact.data.length = buffer.data.length := by
  simp only [compact]
  split_ifs with atStart
  · rfl
  · exact length_storeAt _ (Nat.zero_le _)

@[simp]
theorem contents_compact (buffer : Buffer) : buffer.compact.contents = buffer.contents := by
  by_cases atStart : buffer.readIdx = 0
  · simp [compact, atStart]
  · have fits : buffer.contents.length ≤ buffer.data.length := by
      have := buffer.write_le_size
      rw [length_contents]
      simp only [readableBytes]
      omega
    simp only [compact, atStart, if_false]
    change ((storeAt buffer.data 0 buffer.contents).take buffer.readableBytes).drop 0 = _
    rw [List.drop_zero, ← length_contents]
    simp [storeAt, List.take_of_length_le fits]

theorem contents_grow {buffer grown : Buffer} {size : ℕ} (grows : buffer.data.length ≤ size)
    (data_eq : grown.data = vectorResize buffer.data size)
    (read_eq : grown.readIdx = buffer.readIdx) (write_eq : grown.writeIdx = buffer.writeIdx) :
    grown.contents = buffer.contents := by
  have := buffer.write_le_size
  simp only [contents, data_eq, read_eq, write_eq, vectorResize]
  rw [List.take_of_length_le grows, List.take_append_of_le_length this]

@[simp]
theorem contents_resize (alloc : Alloc) (buffer : Buffer) (newCapacity : ℕ)
    (grows : buffer.data.length ≤ newCapacity) :
    (buffer.resize alloc newCapacity grows).2.contents = buffer.contents := by
  simp only [resize]
  split_ifs
  · rfl
  · exact contents_grow grows rfl rfl rfl
  · rfl

@[simp]
theorem contents_ensureWritable (alloc : Alloc) (buffer : Buffer) (len : ℕ) :
    (buffer.ensureWritable alloc len).2.contents = buffer.contents := by
  simp only [ensureWritable]
  split_ifs <;> simp

/-! ## The capacity limit -/

theorem sizeAdd_of_le_maxCapacity {left right : ℕ} (within : left + right ≤ maxCapacity) :
    sizeAdd left right = left + right := by
  have limit : maxCapacity < 2 ^ 64 := by decide
  exact Nat.mod_eq_of_lt (by omega)

theorem resize_always (buffer : Buffer) {newCapacity : ℕ}
    (grows : buffer.data.length ≤ newCapacity) (limit : newCapacity ≤ maxCapacity) :
    (buffer.resize .always newCapacity grows).1 = true ∧
      (buffer.resize .always newCapacity grows).2.writableBytes =
        newCapacity - buffer.writeIdx := by
  simp [resize, Nat.not_lt.mpr limit, Alloc.always, writableBytes]

/-- With memory to be had, `ensure_writable` never refuses. -/
theorem ensureWritable_always (buffer : Buffer) (len : ℕ) :
    (buffer.ensureWritable .always len).1 = true := by
  simp only [ensureWritable]
  split_ifs
  · rfl
  · rfl
  · exact (buffer.compact.resize_always _ (calculateGrowth_le _ _)).1

/-- The clamped growth leaves room for `len` bytes exactly when they are within the limit. -/
theorem calculateGrowth_room_iff (buffer : Buffer) (len : ℕ) :
    len ≤ buffer.calculateGrowth (sizeAdd buffer.writeIdx len) - buffer.writeIdx ↔
      buffer.writeIdx + len ≤ maxCapacity := by
  have write_le := buffer.write_le_size.trans buffer.size_le_max
  constructor
  · intro room
    have := buffer.calculateGrowth_le (sizeAdd buffer.writeIdx len)
    omega
  · intro within
    rw [sizeAdd_of_le_maxCapacity within]
    have growth : buffer.writeIdx + len ≤ buffer.calculateGrowth (buffer.writeIdx + len) := by
      simp only [calculateGrowth]
      split_ifs <;> omega
    omega

/-- There is room after `ensure_writable(len)` exactly when `len` more bytes are within the
limit. -/
theorem ensureWritable_room_iff (buffer : Buffer) (len : ℕ) :
    len ≤ (buffer.ensureWritable .always len).2.writableBytes ↔
      buffer.readableBytes + len ≤ maxCapacity := by
  have write_le := buffer.write_le_size
  have size_le := buffer.size_le_max
  have readable_le : buffer.readableBytes ≤ buffer.data.length := by
    simp only [readableBytes]
    omega
  simp only [ensureWritable]
  split_ifs with roomy packedRoomy
  · simp only [writableBytes, readableBytes] at roomy ⊢
    omega
  · have packed_room := packedRoomy.2
    simp only [writableBytes, compact_writeIdx, length_compact] at packed_room ⊢
    omega
  · rw [(buffer.compact.resize_always _ (calculateGrowth_le _ _)).2, calculateGrowth_room_iff,
      compact_writeIdx]

/-- Beyond the limit the buffer grows up to the limit. -/
theorem ensureWritable_of_over {buffer : Buffer} {len : ℕ}
    (small : buffer.readableBytes + len < 2 ^ 64)
    (exceeds : maxCapacity < buffer.readableBytes + len) :
    (buffer.ensureWritable .always len).2.writableBytes = maxCapacity - buffer.readableBytes := by
  have write_le := buffer.write_le_size
  have size_le := buffer.size_le_max
  have read_le := buffer.read_le_write
  have required : sizeAdd buffer.compact.writeIdx len = buffer.readableBytes + len := by
    rw [compact_writeIdx]
    exact Nat.mod_eq_of_lt small
  have growth : buffer.compact.calculateGrowth (buffer.readableBytes + len) = maxCapacity := by
    simp only [calculateGrowth]
    omega
  simp only [ensureWritable]
  split_ifs with roomy packedRoomy
  · simp only [writableBytes, readableBytes] at roomy exceeds
    omega
  · have packed_room := packedRoomy.2
    simp only [writableBytes, compact_writeIdx, length_compact] at packed_room
    omega
  · rw [(buffer.compact.resize_always _ (calculateGrowth_le _ _)).2, required, growth,
      compact_writeIdx]

/-- The return value of `write` is the length even where the bytes do not fit. -/
theorem write_returns_length (buffer : Buffer) (bytes : Bytes) :
    (buffer.write .always bytes).1 = bytes.length := by
  by_cases empty : bytes.length = 0
  · simp [write, empty]
  · simp [write, empty, ensureWritable_always]

/-- What is stored and committed is appended, as far as there is room. -/
theorem contents_store_commit (buffer : Buffer) (bytes : Bytes) :
    ((buffer.store bytes).commit bytes.length).contents =
      buffer.contents ++ bytes.take buffer.writableBytes := by
  have read_le := buffer.read_le_write
  have write_le := buffer.write_le_size
  have stored : (buffer.store bytes).writableBytes = buffer.writableBytes := by
    simp only [writableBytes, store, length_storeAt _ write_le]
  have prefix_length : (buffer.data.take buffer.writeIdx).length = buffer.writeIdx := by
    simp [write_le]
  have taken_length :
      (bytes.take buffer.writableBytes).length = min bytes.length buffer.writableBytes := by
    rw [List.length_take, Nat.min_comm]
  simp only [contents, commit, stored]
  simp only [store, storeAt, List.append_assoc]
  simp only [writableBytes] at taken_length ⊢
  rw [List.take_append, prefix_length, List.take_of_length_le (by omega), Nat.add_sub_cancel_left,
    List.take_left' taken_length, List.drop_append_of_le_length (by omega)]

/-- Bytes beyond the limit are lost; how the buffer holds its contents does not matter. -/
theorem contents_write (buffer : Buffer) {bytes : Bytes}
    (small : buffer.readableBytes + bytes.length < 2 ^ 64) :
    (buffer.write .always bytes).2.contents = (buffer.contents ++ bytes).take maxCapacity := by
  have whole : buffer.contents.take maxCapacity = buffer.contents :=
    List.take_of_length_le (by rw [length_contents]; exact buffer.readableBytes_le)
  by_cases empty : bytes.length = 0
  · simp [write, List.length_eq_zero_iff.mp empty, whole]
  · have room : (bytes.take (buffer.ensureWritable .always bytes.length).2.writableBytes) =
        bytes.take (maxCapacity - buffer.readableBytes) := by
      by_cases fits : buffer.readableBytes + bytes.length ≤ maxCapacity
      · have roomy := (buffer.ensureWritable_room_iff bytes.length).mpr fits
        rw [List.take_of_length_le roomy, List.take_of_length_le (by omega)]
      · rw [ensureWritable_of_over small (by omega)]
    simp only [write, empty, if_false, ensureWritable_always, if_true]
    rw [contents_store_commit, contents_ensureWritable, room, List.take_append, length_contents,
      whole]

/-- Equal contents stay equal under equal writes, whatever is lost. -/
theorem contents_write_congr {left right : Buffer} {bytes : Bytes}
    (same : left.contents = right.contents) (small : bytes.length ≤ maxCapacity) :
    (left.write .always bytes).2.contents = (right.write .always bytes).2.contents := by
  have limit : maxCapacity + maxCapacity < 2 ^ 64 := by decide
  have leftReadable := left.readableBytes_le
  have rightReadable := right.readableBytes_le
  rw [left.contents_write (by omega), right.contents_write (by omega), same]

/-- A write keeps what is there. -/
theorem contents_isPrefix_write (buffer : Buffer) (bytes : Bytes) :
    buffer.contents <+: (buffer.write .always bytes).2.contents := by
  by_cases empty : bytes.length = 0
  · simp [write, empty]
  · simp only [write, empty, if_false, ensureWritable_always, if_true]
    rw [contents_store_commit, contents_ensureWritable]
    exact List.prefix_append _ _

/-- Within the limit `write` appends. -/
theorem write_of_fits (buffer : Buffer) {bytes : Bytes}
    (fits : buffer.readableBytes + bytes.length ≤ maxCapacity) :
    (buffer.write .always bytes).1 = bytes.length ∧
      (buffer.write .always bytes).2.contents = buffer.contents ++ bytes := by
  have limit : maxCapacity < 2 ^ 64 := by decide
  have whole : (buffer.contents ++ bytes).length ≤ maxCapacity := by
    rw [List.length_append, length_contents]
    exact fits
  refine ⟨buffer.write_returns_length bytes, ?_⟩
  rw [buffer.contents_write (by omega), List.take_of_length_le whole]

/-- The promise of `ensure_writable`: a positive answer means that there is room. -/
def EnsureWritableContract (buffer : Buffer) (len : ℕ) : Prop :=
  (buffer.ensureWritable .always len).1 = true →
    len ≤ (buffer.ensureWritable .always len).2.writableBytes

/-- The promise of `write`: all bytes are appended, or, exactly when they would exceed the limit,
none is and 0 is returned. -/
def WriteContract (buffer : Buffer) (bytes : Bytes) : Prop :=
  if buffer.readableBytes + bytes.length ≤ maxCapacity then
    (buffer.write .always bytes).1 = bytes.length ∧
      (buffer.write .always bytes).2.contents = buffer.contents ++ bytes
  else
    (buffer.write .always bytes).1 = 0 ∧
      (buffer.write .always bytes).2.contents = buffer.contents

theorem ensureWritableContract_iff (buffer : Buffer) (len : ℕ) :
    buffer.EnsureWritableContract len ↔ buffer.readableBytes + len ≤ maxCapacity := by
  simp only [EnsureWritableContract, ensureWritable_always, forall_const]
  exact buffer.ensureWritable_room_iff len

theorem writeContract_iff (buffer : Buffer) (bytes : Bytes) :
    buffer.WriteContract bytes ↔ buffer.readableBytes + bytes.length ≤ maxCapacity := by
  constructor
  · intro contract
    by_contra exceeds
    simp only [WriteContract, exceeds, if_false, write_returns_length] at contract
    have := buffer.readableBytes_le
    omega
  · intro fits
    simp only [WriteContract, fits, if_true]
    exact buffer.write_of_fits fits

/-- In every state, `ensure_writable` and `write` keep their promises for exactly the lengths that
stay within `MAX_CAPACITY`. -/
theorem capacity_contract_iff (buffer : Buffer) :
    (∀ len : UInt64, buffer.EnsureWritableContract len.toNat ↔
      buffer.readableBytes + len.toNat ≤ maxCapacity) ∧
    (∀ bytes : Bytes, buffer.WriteContract bytes ↔
      buffer.readableBytes + bytes.length ≤ maxCapacity) :=
  ⟨fun len => buffer.ensureWritableContract_iff len.toNat, buffer.writeContract_iff⟩

/-- A new buffer asked for one byte more than the limit says yes and writes past its end. -/
theorem capacity_contract_fails :
    ¬construct.EnsureWritableContract (67108865 : UInt64).toNat ∧
      ¬construct.WriteContract (List.replicate (maxCapacity + 1) 0) := by
  have len_eq : (67108865 : UInt64).toNat = maxCapacity + 1 := rfl
  rw [ensureWritableContract_iff, writeContract_iff, List.length_replicate, len_eq]
  omega

end Buffer

end HttpsServerSim
