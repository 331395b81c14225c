import HttpsServerSim.Utils.BufferRefinement

/-!
# Typed values in a buffer

The writers of `utils::Buffer` pack an integer into bytes by shifts and masks and the readers
unpack it by shifts and `|`. They agree with the big-endian coder, so a buffer is a queue of
typed values as long as each is read as what it was written.

A typed read that finds too few bytes is a different matter: the success-flag form leaves them
alone, the plain form consumes them and takes them for the front of the value.
-/

namespace HttpsServerSim

/-! ## Packing and unpacking -/

section Packing

open BigEndian

theorem lowByte (number index : ℕ) :
    UInt8.ofNat (number >>> (8 * index) &&& 255) = UInt8.ofNat (number / 256 ^ index) := by
  apply UInt8.toNat_inj.mp
  rw [UInt8.toNat_ofNat', UInt8.toNat_ofNat', Nat.and_two_pow_sub_one_eq_mod _ 8, Nat.mod_mod,
    Nat.shiftRight_eq_div_pow, Nat.pow_mul]

theorem packed_uint16 (value : UInt16) :
    [(value >>> 8 &&& 0xFF).toUInt8, (value &&& 0xFF).toUInt8] = encode 2 value.toNat := by
  simp only [encode, ← lowByte]
  rfl

theorem packed_uint32 (value : UInt32) :
    [(value >>> 24 &&& 0xFF).toUInt8, (value >>> 16 &&& 0xFF).toUInt8,
      (value >>> 8 &&& 0xFF).toUInt8, (value &&& 0xFF).toUInt8] = encode 4 value.toNat := by
  simp only [encode, ← lowByte]
  rfl

theorem packed_uint64 (value : UInt64) :
    [(value >>> 56 &&& 0xFF).toUInt8, (value >>> 48 &&& 0xFF).toUInt8,
      (value >>> 40 &&& 0xFF).toUInt8, (value >>> 32 &&& 0xFF).toUInt8,
      (value >>> 24 &&& 0xFF).toUInt8, (value >>> 16 &&& 0xFF).toUInt8,
      (value >>> 8 &&& 0xFF).toUInt8, (value &&& 0xFF).toUInt8] = encode 8 value.toNat := by
  simp only [encode, ← lowByte]
  rfl

/-- A byte does not leave a word that it is shifted inside. -/
theorem shiftedByte (byte : UInt8) {shift bits : ℕ} (room : shift + 8 ≤ bits) :
    byte.toNat <<< shift % 2 ^ bits = byte.toNat <<< shift := by
  apply Nat.mod_eq_of_lt
  rw [Nat.shiftLeft_eq]
  calc byte.toNat * 2 ^ shift
      < 2 ^ 8 * 2 ^ shift := Nat.mul_lt_mul_of_pos_right byte.toNat_lt (Nat.two_pow_pos _)
    _ = 2 ^ (shift + 8) := by rw [← Nat.pow_add, Nat.add_comm]
    _ ≤ 2 ^ bits := Nat.pow_le_pow_right (by decide) room

theorem unpacked_uint16 (b₀ b₁ : UInt8) :
    ((b₀.toUInt16 <<< 8) ||| b₁.toUInt16).toNat = decode [b₀, b₁] := by
  simp only [UInt16.toNat_or, UInt16.toNat_shiftLeft, UInt8.toNat_toUInt16, UInt16.reduceToNat,
    Nat.reduceMod]
  simp (disch := decide) only [shiftedByte, ← shiftLeft_or_decode]
  simp [decode]

theorem unpacked_uint32 (b₀ b₁ b₂ b₃ : UInt8) :
    ((b₀.toUInt32 <<< 24) ||| (b₁.toUInt32 <<< 16) ||| (b₂.toUInt32 <<< 8) |||
      b₃.toUInt32).toNat = decode [b₀, b₁, b₂, b₃] := by
  simp only [UInt32.toNat_or, UInt32.toNat_shiftLeft, UInt8.toNat_toUInt32, UInt32.reduceToNat,
    Nat.reduceMod]
  simp (disch := decide) only [shiftedByte, Nat.or_assoc, ← shiftLeft_or_decode]
  simp [decode]

theorem unpacked_uint64 (b₀ b₁ b₂ b₃ b₄ b₅ b₆ b₇ : UInt8) :
    ((b₀.toUInt64 <<< 56) ||| (b₁.toUInt64 <<< 48) ||| (b₂.toUInt64 <<< 40) |||
      (b₃.toUInt64 <<< 32) ||| (b₄.toUInt64 <<< 24) ||| (b₅.toUInt64 <<< 16) |||
      (b₆.toUInt64 <<< 8) ||| b₇.toUInt64).toNat = decode [b₀, b₁, b₂, b₃, b₄, b₅, b₆, b₇] := by
  simp only [UInt64.toNat_or, UInt64.toNat_shiftLeft, UInt8.toNat_toUInt64, UInt64.reduceToNat,
    Nat.reduceMod]
  simp (disch := decide) only [shiftedByte, Nat.or_assoc, ← shiftLeft_or_decode]
  simp [decode]

end Packing

namespace Buffer

theorem length_readArray (width : ℕ) (buffer : Buffer) :
    (buffer.readArray width).1.length = width := by
  have most : (buffer.read width).1.length ≤ width := by
    rw [read, peek_eq]
    exact List.length_take_le _ _
  simp only [readArray, List.length_append, List.length_replicate]
  omega

theorem readUintBe_eq (width : ℕ) (buffer : Buffer) :
    buffer.readUintBe width =
      (BigEndian.decode (buffer.readArray width).1, (buffer.readArray width).2) := rfl

theorem readUint16Be_eq (buffer : Buffer) :
    ((buffer.readUint16Be).1.toNat, (buffer.readUint16Be).2) = buffer.readUintBe 2 := by
  have size := buffer.length_readArray 2
  rw [readUintBe_eq, readUint16Be]
  generalize buffer.readArray 2 = taken at size ⊢
  rcases taken with ⟨buf, rest⟩
  match buf, size with
  | [b₀, b₁], _ => exact Prod.ext (unpacked_uint16 b₀ b₁) rfl

theorem readUint32Be_eq (buffer : Buffer) :
    ((buffer.readUint32Be).1.toNat, (buffer.readUint32Be).2) = buffer.readUintBe 4 := by
  have size := buffer.length_readArray 4
  rw [readUintBe_eq, readUint32Be]
  generalize buffer.readArray 4 = taken at size ⊢
  rcases taken with ⟨buf, rest⟩
  match buf, size with
  | [b₀, b₁, b₂, b₃], _ => exact Prod.ext (unpacked_uint32 b₀ b₁ b₂ b₃) rfl

theorem readUint64Be_eq (buffer : Buffer) :
    ((buffer.readUint64Be).1.toNat, (buffer.readUint64Be).2) = buffer.readUintBe 8 := by
  have size := buffer.length_readArray 8
  rw [readUintBe_eq, readUint64Be]
  generalize buffer.readArray 8 = taken at size ⊢
  rcases taken with ⟨buf, rest⟩
  match buf, size with
  | [b₀, b₁, b₂, b₃, b₄, b₅, b₆, b₇], _ =>
      exact Prod.ext (unpacked_uint64 b₀ b₁ b₂ b₃ b₄ b₅ b₆ b₇) rfl

end Buffer

/-! ## Values and their types -/

inductive BufferType where
  | uint8
  | char
  | uint16
  | uint32
  | uint64
  | raw (len : ℕ)
deriving DecidableEq

inductive BufferValue where
  | uint8 (value : UInt8)
  | char (value : Int8)
  | uint16 (value : UInt16)
  | uint32 (value : UInt32)
  | uint64 (value : UInt64)
  | raw (bytes : Bytes)
deriving DecidableEq

namespace BufferValue

def type : BufferValue → BufferType
  | .uint8 _ => .uint8
  | .char _ => .char
  | .uint16 _ => .uint16
  | .uint32 _ => .uint32
  | .uint64 _ => .uint64
  | .raw bytes => .raw bytes.length

/-- The bytes that stand for a value; those of an integer are its big-endian encoding. -/
def encoding : BufferValue → Bytes
  | .uint8 value => [value]
  | .char value => [value.toUInt8]
  | .uint16 value => BigEndian.encode 2 value.toNat
  | .uint32 value => BigEndian.encode 4 value.toNat
  | .uint64 value => BigEndian.encode 8 value.toNat
  | .raw bytes => bytes

end BufferValue

/-- The bytes of a list of values. -/
def encodings (values : List BufferValue) : Bytes := values.flatMap BufferValue.encoding

@[simp]
theorem encodings_append (first second : List BufferValue) :
    encodings (first ++ second) = encodings first ++ encodings second := List.flatMap_append

@[simp]
theorem encodings_cons (value : BufferValue) (values : List BufferValue) :
    encodings (value :: values) = value.encoding ++ encodings values := List.flatMap_cons

@[simp]
theorem encodings_nil : encodings [] = [] := rfl

namespace Buffer

/-- The writer for the type of the value. -/
def writeValue (alloc : Alloc) (buffer : Buffer) : BufferValue → ℕ × Buffer
  | .uint8 value => buffer.writeUint8 alloc value
  | .char value => buffer.writeChar alloc value
  | .uint16 value => buffer.writeUint16Be alloc value
  | .uint32 value => buffer.writeUint32Be alloc value
  | .uint64 value => buffer.writeUint64Be alloc value
  | .raw bytes => buffer.write alloc bytes

/-- The reader for a type in its plain form. -/
def readValue (buffer : Buffer) : BufferType → BufferValue × Buffer
  | .uint8 => buffer.readUint8.map .uint8 id
  | .char => buffer.readChar.map .char id
  | .uint16 => buffer.readUint16Be.map .uint16 id
  | .uint32 => buffer.readUint32Be.map .uint32 id
  | .uint64 => buffer.readUint64Be.map .uint64 id
  | .raw len => (buffer.read len).map .raw id

/-- The reader for a type in its success-flag form. That of `read` is whether as many bytes were
read as asked for. -/
def readValueChecked (buffer : Buffer) : BufferType → Bool × BufferValue × Buffer
  | .uint8 => buffer.readUint8Checked.map id (Prod.map .uint8 id)
  | .char => buffer.readCharChecked.map id (Prod.map .char id)
  | .uint16 => buffer.readUint16BeChecked.map id (Prod.map .uint16 id)
  | .uint32 => buffer.readUint32BeChecked.map id (Prod.map .uint32 id)
  | .uint64 => buffer.readUint64BeChecked.map id (Prod.map .uint64 id)
  | .raw len =>
      let (bytes, after) := buffer.read len
      (bytes.length = len, .raw bytes, after)

/-! ## One value -/

theorem writeValue_eq (alloc : Alloc) (buffer : Buffer) (value : BufferValue) :
    buffer.writeValue alloc value = buffer.write alloc value.encoding := by
  cases value with
  | uint8 value => rfl
  | char value => rfl
  | uint16 value => exact congrArg (buffer.write alloc) (packed_uint16 value)
  | uint32 value => exact congrArg (buffer.write alloc) (packed_uint32 value)
  | uint64 value => exact congrArg (buffer.write alloc) (packed_uint64 value)
  | raw bytes => rfl

section Reading

variable {buffer : Buffer} {rest : Bytes}

theorem read_of_contents {bytes : Bytes} (contentsEq : buffer.contents = bytes ++ rest) :
    (buffer.read bytes.length).1 = bytes ∧ (buffer.read bytes.length).2.contents = rest := by
  have represents : Represents buffer { contents := bytes ++ rest } :=
    Represents.of_contents contentsEq
  rcases represents.read bytes.length with ⟨bytesEq, after⟩
  refine ⟨bytesEq.trans List.take_left, after.contents.trans List.drop_left⟩

theorem readUintBe_of_contents {width value : ℕ} (small : value < 256 ^ width)
    (contentsEq : buffer.contents = BigEndian.encode width value ++ rest) :
    (buffer.readUintBe width).1 = value ∧ (buffer.readUintBe width).2.contents = rest := by
  have taken := read_of_contents contentsEq
  rw [BigEndian.length_encode] at taken
  refine ⟨?_, taken.2⟩
  change BigEndian.decode ((buffer.read width).1 ++
    List.replicate (width - (buffer.read width).1.length) 0) = value
  rw [taken.1, BigEndian.length_encode, Nat.sub_self, List.replicate_zero, List.append_nil,
    BigEndian.decode_encode, Nat.mod_eq_of_lt small]

/-- What was written is read back by the plain form of the reader. -/
theorem readValue_of_contents {value : BufferValue}
    (contentsEq : buffer.contents = value.encoding ++ rest) :
    (buffer.readValue value.type).1 = value ∧
      (buffer.readValue value.type).2.contents = rest := by
  cases value with
  | uint8 value =>
      rcases read_of_contents contentsEq with ⟨bytesEq, after⟩
      refine ⟨?_, after⟩
      exact congrArg (fun bytes => BufferValue.uint8 (bytes.headD 0)) bytesEq
  | char value =>
      rcases read_of_contents contentsEq with ⟨bytesEq, after⟩
      refine ⟨?_, after⟩
      exact congrArg (fun bytes => BufferValue.char (bytes.headD 0).toInt8) bytesEq
  | uint16 value =>
      rcases readUintBe_of_contents value.toNat_lt contentsEq with ⟨valueEq, after⟩
      rw [← readUint16Be_eq] at valueEq after
      exact ⟨congrArg BufferValue.uint16 (UInt16.toNat_inj.mp valueEq), after⟩
  | uint32 value =>
      rcases readUintBe_of_contents value.toNat_lt contentsEq with ⟨valueEq, after⟩
      rw [← readUint32Be_eq] at valueEq after
      exact ⟨congrArg BufferValue.uint32 (UInt32.toNat_inj.mp valueEq), after⟩
  | uint64 value =>
      rcases readUintBe_of_contents value.toNat_lt contentsEq with ⟨valueEq, after⟩
      rw [← readUint64Be_eq] at valueEq after
      exact ⟨congrArg BufferValue.uint64 (UInt64.toNat_inj.mp valueEq), after⟩
  | raw bytes =>
      rcases read_of_contents contentsEq with ⟨bytesEq, after⟩
      exact ⟨congrArg BufferValue.raw bytesEq, after⟩

theorem readChecked_of_enough {Value : Type} {width : ℕ} {zero : Value}
    {plain : Buffer → Value × Buffer} (enough : width ≤ buffer.readableBytes) :
    readChecked width zero plain buffer = (true, plain buffer) :=
  if_neg (Nat.not_lt.mpr enough)

/-- Where the value is there, the success-flag form reads it as the plain form does. -/
theorem readValueChecked_of_contents {value : BufferValue}
    (contentsEq : buffer.contents = value.encoding ++ rest) :
    buffer.readValueChecked value.type = (true, buffer.readValue value.type) := by
  have enough : value.encoding.length ≤ buffer.readableBytes := by
    rw [← length_contents, contentsEq, List.length_append]
    exact Nat.le_add_right _ _
  cases value with
  | uint8 value | char value | uint16 value | uint32 value | uint64 value =>
      exact congrArg (Prod.map id (Prod.map _ id)) (readChecked_of_enough enough)
  | raw bytes =>
      have taken := (read_of_contents contentsEq).1
      refine Prod.ext ?_ rfl
      exact decide_eq_true (congrArg List.length taken)

end Reading

end Buffer

/-! ## A queue of values -/

/-- The typed operations, and the peeks. -/
inductive TypedOp where
  | write (value : BufferValue)
  | read (type : BufferType)
  | readChecked (type : BufferType)
  | peek (len : ℕ)
  | peekUint8 (offset : ℕ)
  | peekUint8Checked (offset : ℕ)
deriving DecidableEq

inductive TypedOutput where
  | written (count : ℕ)
  /-- A value that was read, with the success flag of the form that has one. -/
  | read (success : Option Bool) (value : BufferValue)
  | peeked (bytes : Bytes)
  | peekedUint8 (success : Option Bool) (value : UInt8)
deriving DecidableEq

namespace TypedOp

/-- The type that an operation reads. -/
def readType : TypedOp → Option BufferType
  | .read type | .readChecked type => some type
  | _ => none

end TypedOp

namespace TypedOutput

/-- The value that was read. -/
def valueRead : TypedOutput → Option BufferValue
  | .read _ value => some value
  | _ => none

/-- The success flag of a read that has one. -/
def readFlag : TypedOutput → Option Bool
  | .read success _ => success
  | _ => none

end TypedOutput

namespace Buffer

def typedMachine : Transducer Buffer TypedOp TypedOutput where
  step buffer
    | .write value =>
        let (count, after) := buffer.writeValue .always value
        (after, [.written count])
    | .read type =>
        let (value, after) := buffer.readValue type
        (after, [.read none value])
    | .readChecked type =>
        let (success, value, after) := buffer.readValueChecked type
        (after, [.read (some success) value])
    | .peek len => (buffer, [.peeked (buffer.peek len)])
    | .peekUint8 offset => (buffer, [.peekedUint8 none (buffer.peekUint8 offset)])
    | .peekUint8Checked offset =>
        let (success, value) := buffer.peekUint8Checked offset
        (buffer, [.peekedUint8 (some success) value])

end Buffer

namespace ValueQueue

/-- The values that are written and not read yet, first in, first out. -/
def machine : Transducer (List BufferValue) TypedOp TypedOutput where
  step pending
    | .write value => (pending ++ [value], [.written value.encoding.length])
    | .read _ => (pending.tail, pending.head?.toList.map (.read none))
    | .readChecked _ => (pending.tail, pending.head?.toList.map (.read (some true)))
    | .peek len => (pending, [.peeked ((encodings pending).take len)])
    | .peekUint8 offset => (pending, [.peekedUint8 none ((encodings pending).getD offset 0)])
    | .peekUint8Checked offset =>
        (pending, [.peekedUint8 (some (offset < (encodings pending).length))
          ((encodings pending).getD offset 0)])

/-- A write stays within `MAX_CAPACITY`, and the next value is read as what it was written. -/
def Admits (pending : List BufferValue) : TypedOp → Prop
  | .write value => (encodings pending).length + value.encoding.length ≤ Buffer.maxCapacity
  | .read type | .readChecked type => pending.head?.map BufferValue.type = some type
  | _ => True

end ValueQueue

namespace Buffer

/-- The buffer and the queue of the values in it do the same. -/
theorem typedMachine_simulates :
    typedMachine.Simulates ValueQueue.machine ValueQueue.Admits
      fun buffer pending => buffer.contents = encodings pending := by
  intro buffer pending op held admits
  have unread : buffer.readableBytes = (encodings pending).length := by
    rw [← length_contents, held]
  cases op with
  | write value =>
      have fits : buffer.readableBytes + value.encoding.length ≤ maxCapacity := by
        rw [unread]
        exact admits
      rcases buffer.write_of_fits fits with ⟨count, after⟩
      rw [← writeValue_eq] at count after
      refine ⟨congrArg (fun count => [TypedOutput.written count]) count, ?_⟩
      change (buffer.writeValue .always value).2.contents = encodings (pending ++ [value])
      rw [after, held, encodings_append, encodings_cons, encodings_nil, List.append_nil]
  | read type =>
      rcases Option.map_eq_some_iff.mp admits with ⟨value, head, rfl⟩
      rcases List.head?_eq_some_iff.mp head with ⟨others, rfl⟩
      rcases readValue_of_contents held with ⟨valueEq, after⟩
      exact ⟨congrArg (fun value => [TypedOutput.read none value]) valueEq, after⟩
  | readChecked type =>
      rcases Option.map_eq_some_iff.mp admits with ⟨value, head, rfl⟩
      rcases List.head?_eq_some_iff.mp head with ⟨others, rfl⟩
      have checked := readValueChecked_of_contents held
      rcases readValue_of_contents held with ⟨valueEq, after⟩
      simp only [typedMachine, checked]
      exact ⟨congrArg (fun value => [TypedOutput.read (some true) value]) valueEq, after⟩
  | peek len =>
      refine ⟨?_, held⟩
      change [TypedOutput.peeked (buffer.peek len)] = [.peeked ((encodings pending).take len)]
      rw [peek_eq, held]
  | peekUint8 offset =>
      refine ⟨?_, held⟩
      change [TypedOutput.peekedUint8 none (buffer.peekUint8 offset)] =
        [.peekedUint8 none ((encodings pending).getD offset 0)]
      rw [peekUint8_eq, held]
  | peekUint8Checked offset =>
      refine ⟨?_, held⟩
      simp only [typedMachine, ValueQueue.machine, peekUint8Checked_eq, held]

end Buffer

namespace ValueQueue

theorem run_writes (pending values : List BufferValue) :
    machine.run pending (values.map TypedOp.write) =
      (pending ++ values, values.map fun value => .written value.encoding.length) := by
  induction values generalizing pending with
  | nil => exact Prod.ext (List.append_nil pending).symm rfl
  | cons value values ih =>
      have later := ih (pending ++ [value])
      rw [List.append_assoc, List.singleton_append] at later
      exact congrArg (Prod.map id (TypedOutput.written value.encoding.length :: ·)) later

theorem meets_writes {pending values : List BufferValue}
    (fits : (encodings (pending ++ values)).length ≤ Buffer.maxCapacity) :
    machine.Meets Admits pending (values.map TypedOp.write) := by
  induction values generalizing pending with
  | nil => trivial
  | cons value values ih =>
      refine ⟨?_, ih ?_⟩
      · simp only [encodings_append, encodings_cons, List.length_append] at fits
        change (encodings pending).length + value.encoding.length ≤ Buffer.maxCapacity
        omega
      · change (encodings (pending ++ [value] ++ values)).length ≤ Buffer.maxCapacity
        rw [List.append_assoc, List.singleton_append]
        exact fits

end ValueQueue

namespace Buffer

theorem isPrefix_contents_writeValue {buffer : Buffer} {front : Bytes}
    (isFront : front <+: buffer.contents) (value : BufferValue) :
    front <+: (buffer.writeValue .always value).2.contents := by
  rw [writeValue_eq]
  exact isFront.trans (buffer.contents_isPrefix_write value.encoding)

/-- The next type that is read is that of the value at the front. -/
theorem exists_front {buffer : Buffer} {type : BufferType} {types : List BufferType}
    {pending : List BufferValue} (isFront : encodings pending <+: buffer.contents)
    (front : type :: types = pending.map BufferValue.type) :
    ∃ value others rest, pending = value :: others ∧ value.type = type ∧
      types = others.map BufferValue.type ∧
      buffer.contents = value.encoding ++ (encodings others ++ rest) := by
  cases pending with
  | nil => cases front
  | cons value others =>
      rcases List.cons.inj front with ⟨rfl, later⟩
      rcases isFront with ⟨rest, contentsEq⟩
      rw [encodings_cons, List.append_assoc] at contentsEq
      exact ⟨value, others, rest, rfl, rfl, later, contentsEq.symm⟩

/-- Reads of the types of the values at the front yield these values. What is written behind them,
even beyond the limit, leaves them where they are. -/
theorem reads_of_types {buffer : Buffer} {pending : List BufferValue} {ops : List TypedOp}
    (isFront : encodings pending <+: buffer.contents)
    (types : ops.filterMap TypedOp.readType = pending.map BufferValue.type) :
    (typedMachine.run buffer ops).2.filterMap TypedOutput.valueRead = pending ∧
      ∀ success ∈ (typedMachine.run buffer ops).2.filterMap TypedOutput.readFlag,
        success = true := by
  induction ops generalizing buffer pending with
  | nil =>
      have nothing : pending = [] := List.map_eq_nil_iff.mp types.symm
      exact ⟨nothing.symm, nofun⟩
  | cons op ops ih =>
      cases op with
      | write value => exact ih (isPrefix_contents_writeValue isFront value) types
      | read type =>
          rcases exists_front isFront types with ⟨value, others, rest, rfl, rfl, later, held⟩
          rcases readValue_of_contents held with ⟨valueEq, after⟩
          rcases ih ⟨rest, after.symm⟩ later with ⟨values, flags⟩
          exact ⟨congrArg₂ List.cons valueEq values, flags⟩
      | readChecked type =>
          rcases exists_front isFront types with ⟨value, others, rest, rfl, rfl, later, held⟩
          have checked := readValueChecked_of_contents held
          rcases readValue_of_contents held with ⟨valueEq, after⟩
          rcases ih ⟨rest, after.symm⟩ later with ⟨values, flags⟩
          simp only [Transducer.run, typedMachine, checked]
          exact ⟨congrArg₂ List.cons valueEq values, List.forall_mem_cons.mpr ⟨rfl, flags⟩⟩
      | peek len | peekUint8 offset | peekUint8Checked offset => exact ih isFront types

/-- Values written to an empty buffer are there as their encodings, and are read back by reads of
their types in their order, with all success flags true, whatever is peeked at and written in
between. -/
theorem typed_roundTrip {buffer : Buffer} (empty : buffer.readableBytes = 0)
    {values : List BufferValue} (fits : (encodings values).length ≤ maxCapacity)
    {ops : List TypedOp}
    (types : ops.filterMap TypedOp.readType = values.map BufferValue.type) :
    let written := typedMachine.run buffer (values.map TypedOp.write)
    let outputs := (typedMachine.run written.1 ops).2
    written.2 = values.map (fun value => .written value.encoding.length) ∧
      written.1.contents = encodings values ∧
      outputs.filterMap TypedOutput.valueRead = values ∧
      ∀ success ∈ outputs.filterMap TypedOutput.readFlag, success = true := by
  have held : buffer.contents = encodings [] :=
    List.length_eq_zero_iff.mp (buffer.length_contents.trans empty)
  have admitted : ValueQueue.machine.Meets ValueQueue.Admits [] (values.map TypedOp.write) :=
    ValueQueue.meets_writes fits
  have wrote := typedMachine_simulates.run_eq held admitted
  rw [ValueQueue.run_writes, List.nil_append] at wrote
  rcases wrote with ⟨counts, contentsEq⟩
  have isFront : encodings values <+:
      (typedMachine.run buffer (values.map TypedOp.write)).1.contents := by
    rw [contentsEq]
  exact ⟨counts, contentsEq, reads_of_types isFront types⟩

/-- A number, a character and three bytes are read back, with a number written in between. -/
theorem typed_roundTrip_three :
    (typedMachine.run (typedMachine.run construct
      [.write (.uint16 0x1234), .write (.char (-1)), .write (.raw [1, 2, 3])]).1
      [.peek 3, .readChecked .uint16, .write (.uint8 7), .read .char, .peekUint8 0,
        .readChecked (.raw 3)]).2.filterMap TypedOutput.valueRead =
      [.uint16 0x1234, .char (-1), .raw [1, 2, 3]] :=
  (@typed_roundTrip construct rfl [.uint16 0x1234, .char (-1), .raw [1, 2, 3]] (by decide) _
    rfl).2.2.1

end Buffer

/-! ## Short reads -/

/-- The integers wider than a byte. -/
inductive UintType where
  | uint16
  | uint32
  | uint64
deriving DecidableEq

def UintType.width : UintType → ℕ
  | .uint16 => 2
  | .uint32 => 4
  | .uint64 => 8

namespace Buffer

/-- `read_uint16_be()`, `read_uint32_be()` and `read_uint64_be()`. -/
def readUint (buffer : Buffer) : UintType → ℕ × Buffer
  | .uint16 => buffer.readUint16Be.map UInt16.toNat id
  | .uint32 => buffer.readUint32Be.map UInt32.toNat id
  | .uint64 => buffer.readUint64Be.map UInt64.toNat id

/-- `read_uint16_be(success)`, `read_uint32_be(success)` and `read_uint64_be(success)`. -/
def readUintWithFlag (buffer : Buffer) : UintType → Bool × ℕ × Buffer
  | .uint16 => buffer.readUint16BeChecked.map id (Prod.map UInt16.toNat id)
  | .uint32 => buffer.readUint32BeChecked.map id (Prod.map UInt32.toNat id)
  | .uint64 => buffer.readUint64BeChecked.map id (Prod.map UInt64.toNat id)

/-- Both forms of a read that finds too few bytes return 0 and leave the contents alone. -/
def ShortReadClean (buffer : Buffer) (type : UintType) : Prop :=
  buffer.readableBytes < type.width →
    (buffer.readUint type).1 = 0 ∧ (buffer.readUintWithFlag type).2.1 = 0 ∧
      (buffer.readUint type).2.contents = buffer.contents ∧
      (buffer.readUintWithFlag type).2.2.contents = buffer.contents

instance (buffer : Buffer) (type : UintType) : Decidable (buffer.ShortReadClean type) :=
  inferInstanceAs (Decidable (_ → _))

theorem readUint_eq (buffer : Buffer) (type : UintType) :
    buffer.readUint type = buffer.readUintBe type.width := by
  cases type with
  | uint16 => exact buffer.readUint16Be_eq
  | uint32 => exact buffer.readUint32Be_eq
  | uint64 => exact buffer.readUint64Be_eq

theorem readUintWithFlag_of_short {buffer : Buffer} {type : UintType}
    (short : buffer.readableBytes < type.width) :
    buffer.readUintWithFlag type = (false, 0, buffer) := by
  cases type with
  | uint16 | uint32 | uint64 => exact congrArg (Prod.map id (Prod.map _ id)) (if_pos short)

/-- The plain form takes what there is. -/
theorem contents_readUint (buffer : Buffer) (type : UintType) :
    (buffer.readUint type).2.contents = buffer.contents.drop type.width := by
  have represents : Represents buffer { contents := buffer.contents } := Represents.of_contents rfl
  rw [readUint_eq]
  exact (represents.readUintBe type.width).2.contents

/-- A short read is clean exactly if there is nothing to read at all; otherwise the plain form
consumes what there is. -/
theorem shortReadClean_iff (buffer : Buffer) (type : UintType) :
    buffer.ShortReadClean type ↔
      buffer.readableBytes = 0 ∨ type.width ≤ buffer.readableBytes := by
  constructor
  · intro clean
    by_cases short : buffer.readableBytes < type.width
    · left
      have kept := congrArg List.length (clean short).2.2.1
      rw [contents_readUint, List.length_drop, length_contents] at kept
      omega
    · right
      exact Nat.not_lt.mp short
  · rintro (nothing | enough) short
    · have noContents : buffer.contents = [] :=
        List.length_eq_zero_iff.mp (buffer.length_contents.trans nothing)
      have represents : Represents buffer {} := Represents.of_contents noContents
      have zero : (buffer.readUint type).1 = 0 := by
        rw [readUint_eq, (represents.readUintBe type.width).1]
        cases type <;> rfl
      rw [readUintWithFlag_of_short short, contents_readUint, noContents]
      exact ⟨zero, rfl, List.drop_nil, rfl⟩
    · exact absurd enough (Nat.not_le.mpr short)

/-- What `shrink_to_fit` leaves of a buffer with one byte. -/
def oneByte : Buffer where
  data := [0xAB]
  readIdx := 0
  writeIdx := 1
  read_le_write := by decide
  write_le_size := by decide
  size_le_max := by decide

/-- The plain `read_uint16_be` takes the one byte for the high one of two. -/
theorem shortReadClean_fails : ¬∀ buffer type, ShortReadClean buffer type := by
  intro clean
  have fails : ¬oneByte.ShortReadClean .uint16 := by decide
  exact fails (clean oneByte .uint16)

end Buffer

end HttpsServerSim
