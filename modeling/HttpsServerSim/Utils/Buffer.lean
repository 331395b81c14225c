import HttpsServerSim.Lib.Bytes

/-!
# The dynamic byte buffer

`utils::Buffer` keeps a vector and two indices into it. The class hides its
fields, so the model is a structure that carries the class invariant: the read
index is at most the write index, the write index at most the size, and the size
at most `MAX_CAPACITY`. With it no difference of indices can wrap, and the only
`size_t` sum of the code that can is the one in `ensure_writable`; it is taken
modulo `2 ^ 64` here.

Two things of the source are outside the structure. Whether `std::vector::resize`
gets its memory is a parameter (`Alloc`), asked where the code catches the
failure. And a `memcpy` that runs past the end of the vector corrupts memory that
does not belong to the buffer: `storeAt` keeps the bytes that land inside.
-/

namespace HttpsServerSim

namespace Buffer

def defaultInitialCapacity : ℕ := 8192

def minCapacity : ℕ := 1024

def maxCapacity : ℕ := 64 * 1024 * 1024

def growthThresholdDouble : ℕ := 64 * 1024

def growthThreshold15x : ℕ := 1024 * 1024

def growthLinearIncrement : ℕ := 256 * 1024

end Buffer

/-- A `utils::Buffer` together with its class invariant. -/
structure Buffer where
  data : Bytes
  readIdx : ℕ
  writeIdx : ℕ
  read_le_write : readIdx ≤ writeIdx
  write_le_size : writeIdx ≤ data.length
  size_le_max : data.length ≤ Buffer.maxCapacity
deriving DecidableEq

/-- Which sizes the allocator can serve. -/
abbrev Alloc := ℕ → Bool

/-- An allocator that serves every request. -/
def Alloc.always : Alloc := fun _ => true

/-- Addition of `size_t` values. -/
def sizeAdd (left right : ℕ) : ℕ := (left + right) % 2 ^ 64

/-- `std::vector<uint8_t>::resize`. -/
def vectorResize (data : Bytes) (size : ℕ) : Bytes :=
  data.take size ++ List.replicate (size - data.length) 0

@[simp]
theorem length_vectorResize (data : Bytes) (size : ℕ) :
    (vectorResize data size).length = size := by
  simp only [vectorResize, List.length_append, List.length_take, List.length_replicate]
  omega

/-- `std::memcpy` into the vector at a position; what falls past the end is not stored. -/
def storeAt (data : Bytes) (position : ℕ) (bytes : Bytes) : Bytes :=
  data.take position ++ bytes.take (data.length - position) ++ data.drop (position + bytes.length)

theorem length_storeAt {data : Bytes} {position : ℕ} (bytes : Bytes)
    (inside : position ≤ data.length) : (storeAt data position bytes).length = data.length := by
  simp only [storeAt, List.length_append, List.length_take, List.length_drop]
  omega

namespace Buffer

/-! ## Construction and moves -/

def construct (initialCapacity : ℕ := defaultInitialCapacity) : Buffer where
  data := List.replicate (min (max initialCapacity minCapacity) maxCapacity) 0
  readIdx := 0
  writeIdx := 0
  read_le_write := Nat.le_refl 0
  write_le_size := Nat.zero_le _
  size_le_max := by simp

/-- What is left of a buffer whose vector has been moved away. -/
def movedFrom : Buffer where
  data := []
  readIdx := 0
  writeIdx := 0
  read_le_write := Nat.le_refl 0
  write_le_size := Nat.zero_le _
  size_le_max := Nat.zero_le _

/-- `Buffer(Buffer&&)`: the new object and what remains of the old one. -/
def moveConstruct (other : Buffer) : Buffer × Buffer := (other, movedFrom)

/-- `operator=(Buffer&&)` on two distinct objects. -/
def moveAssign (_this other : Buffer) : Buffer × Buffer := (other, movedFrom)

/-! ## Sizes and capacity -/

def readableBytes (buffer : Buffer) : ℕ := buffer.writeIdx - buffer.readIdx

def writableBytes (buffer : Buffer) : ℕ := buffer.data.length - buffer.writeIdx

def capacity (buffer : Buffer) : ℕ := buffer.data.length

/-- The readable bytes, from the read index up to the write index. -/
def contents (buffer : Buffer) : Bytes :=
  (buffer.data.take buffer.writeIdx).drop buffer.readIdx

def clear (buffer : Buffer) : Buffer where
  data := buffer.data
  readIdx := 0
  writeIdx := 0
  read_le_write := Nat.le_refl 0
  write_le_size := Nat.zero_le _
  size_le_max := buffer.size_le_max

def compact (buffer : Buffer) : Buffer :=
  if buffer.readIdx = 0 then buffer
  else
    { data := storeAt buffer.data 0 buffer.contents
      readIdx := 0
      writeIdx := buffer.writeIdx - buffer.readIdx
      read_le_write := Nat.zero_le _
      write_le_size := by
        rw [length_storeAt _ (Nat.zero_le _)]
        have := buffer.write_le_size
        omega
      size_le_max := by
        rw [length_storeAt _ (Nat.zero_le _)]
        exact buffer.size_le_max }

def reset (buffer : Buffer) : Buffer where
  data := vectorResize buffer.data defaultInitialCapacity
  readIdx := 0
  writeIdx := 0
  read_le_write := Nat.le_refl 0
  write_le_size := Nat.zero_le _
  size_le_max := by rw [length_vectorResize]; decide

def shrinkToFit (buffer : Buffer) : Buffer :=
  if buffer.readableBytes = 0 then buffer.reset
  else
    let packed := buffer.compact
    { data := vectorResize packed.data packed.writeIdx
      readIdx := packed.readIdx
      writeIdx := packed.writeIdx
      read_le_write := packed.read_le_write
      write_le_size := by rw [length_vectorResize]
      size_le_max := by
        rw [length_vectorResize]
        exact packed.write_le_size.trans packed.size_le_max }

def calculateGrowth (buffer : Buffer) (required : ℕ) : ℕ :=
  let current := buffer.data.length
  let newCapacity :=
    if current < growthThresholdDouble then current * 2
    else if current < growthThreshold15x then current + current / 2
    else current + growthLinearIncrement
  min (max newCapacity required) maxCapacity

theorem le_calculateGrowth (buffer : Buffer) (required : ℕ) :
    buffer.data.length ≤ buffer.calculateGrowth required := by
  have := buffer.size_le_max
  simp only [calculateGrowth]
  split_ifs <;> omega

theorem calculateGrowth_le (buffer : Buffer) (required : ℕ) :
    buffer.calculateGrowth required ≤ maxCapacity :=
  Nat.min_le_right _ _

/-- The private `resize`; both of its callers ask for no less than the present size. -/
def resize (alloc : Alloc) (buffer : Buffer) (newCapacity : ℕ)
    (grows : buffer.data.length ≤ newCapacity) : Bool × Buffer :=
  if limit : maxCapacity < newCapacity then (false, buffer)
  else if alloc newCapacity then
    (true,
      { data := vectorResize buffer.data newCapacity
        readIdx := buffer.readIdx
        writeIdx := buffer.writeIdx
        read_le_write := buffer.read_le_write
        write_le_size := by
          rw [length_vectorResize]
          exact buffer.write_le_size.trans grows
        size_le_max := by
          rw [length_vectorResize]
          omega })
  else (false, buffer)

def ensureWritable (alloc : Alloc) (buffer : Buffer) (len : ℕ) : Bool × Buffer :=
  if len ≤ buffer.writableBytes then (true, buffer)
  else
    -- compaction does nothing when the read index is already 0
    let packed := buffer.compact
    if 0 < buffer.readIdx ∧ len ≤ packed.writableBytes then (true, packed)
    else
      let required := sizeAdd packed.writeIdx len
      packed.resize alloc (packed.calculateGrowth required) (packed.le_calculateGrowth required)

def reserveCapacity (alloc : Alloc) (buffer : Buffer) (newCapacity : ℕ) : Bool × Buffer :=
  if fits : newCapacity ≤ buffer.capacity then (true, buffer)
  else if maxCapacity < newCapacity then (false, buffer)
  else buffer.resize alloc newCapacity (by simp only [capacity] at fits; omega)

/-! ## Writing -/

/-- Bytes stored through `write_ptr()`. -/
def store (buffer : Buffer) (bytes : Bytes) : Buffer where
  data := storeAt buffer.data buffer.writeIdx bytes
  readIdx := buffer.readIdx
  writeIdx := buffer.writeIdx
  read_le_write := buffer.read_le_write
  write_le_size := by
    rw [length_storeAt _ buffer.write_le_size]
    exact buffer.write_le_size
  size_le_max := by
    rw [length_storeAt _ buffer.write_le_size]
    exact buffer.size_le_max

def commit (buffer : Buffer) (len : ℕ) : Buffer where
  data := buffer.data
  readIdx := buffer.readIdx
  writeIdx := buffer.writeIdx + min len buffer.writableBytes
  read_le_write := buffer.read_le_write.trans (Nat.le_add_right _ _)
  write_le_size := by
    have := buffer.write_le_size
    simp only [writableBytes]
    omega
  size_le_max := buffer.size_le_max

/-- `write(data, len)` for a non-null `data` that points to the `len` bytes. -/
def write (alloc : Alloc) (buffer : Buffer) (bytes : Bytes) : ℕ × Buffer :=
  if bytes.length = 0 then (0, buffer)
  else
    let (enough, room) := buffer.ensureWritable alloc bytes.length
    if enough then (bytes.length, (room.store bytes).commit bytes.length) else (0, room)

def writeUint8 (alloc : Alloc) (buffer : Buffer) (value : UInt8) : ℕ × Buffer :=
  buffer.write alloc [value]

def writeChar (alloc : Alloc) (buffer : Buffer) (value : Int8) : ℕ × Buffer :=
  buffer.write alloc [value.toUInt8]

/-- What the three writers of wider integers below do, by their width in bytes. -/
def writeUintBe (alloc : Alloc) (width : ℕ) (buffer : Buffer) (value : ℕ) : ℕ × Buffer :=
  buffer.write alloc (BigEndian.encode width value)

def writeUint16Be (alloc : Alloc) (buffer : Buffer) (value : UInt16) : ℕ × Buffer :=
  buffer.write alloc [(value >>> 8 &&& 0xFF).toUInt8, (value &&& 0xFF).toUInt8]

def writeUint32Be (alloc : Alloc) (buffer : Buffer) (value : UInt32) : ℕ × Buffer :=
  buffer.write alloc
    [(value >>> 24 &&& 0xFF).toUInt8, (value >>> 16 &&& 0xFF).toUInt8,
      (value >>> 8 &&& 0xFF).toUInt8, (value &&& 0xFF).toUInt8]

def writeUint64Be (alloc : Alloc) (buffer : Buffer) (value : UInt64) : ℕ × Buffer :=
  buffer.write alloc
    [(value >>> 56 &&& 0xFF).toUInt8, (value >>> 48 &&& 0xFF).toUInt8,
      (value >>> 40 &&& 0xFF).toUInt8, (value >>> 32 &&& 0xFF).toUInt8,
      (value >>> 24 &&& 0xFF).toUInt8, (value >>> 16 &&& 0xFF).toUInt8,
      (value >>> 8 &&& 0xFF).toUInt8, (value &&& 0xFF).toUInt8]

/-- `reserve`: the write position if there is room, else the null pointer. -/
def reserve (alloc : Alloc) (buffer : Buffer) (len : ℕ) : Option ℕ × Buffer :=
  let (enough, room) := buffer.ensureWritable alloc len
  (if enough then some room.writeIdx else none, room)

/-! ## Reading -/

def skip (buffer : Buffer) (len : ℕ) : Buffer where
  data := buffer.data
  readIdx := buffer.readIdx + min len buffer.readableBytes
  writeIdx := buffer.writeIdx
  read_le_write := by
    have := buffer.read_le_write
    simp only [readableBytes]
    omega
  write_le_size := buffer.write_le_size
  size_le_max := buffer.size_le_max

def unskip (buffer : Buffer) (len : ℕ) : Buffer where
  data := buffer.data
  readIdx := if len ≤ buffer.readIdx then buffer.readIdx - len else 0
  writeIdx := buffer.writeIdx
  read_le_write := by
    have := buffer.read_le_write
    split_ifs <;> omega
  write_le_size := buffer.write_le_size
  size_le_max := buffer.size_le_max

/-- `peek`: the bytes copied out; the return value is their number. -/
def peek (buffer : Buffer) (len : ℕ) : Bytes :=
  buffer.contents.take (min len buffer.readableBytes)

/-- `read`: the bytes copied out, with the read index moved past them. -/
def read (buffer : Buffer) (len : ℕ) : Bytes × Buffer :=
  (buffer.peek len, buffer.skip (min len buffer.readableBytes))

/-- `read_to_string`; a length of 0 asks for everything. -/
def readToString (buffer : Buffer) (len : ℕ) : Bytes × Buffer :=
  let toRead := if len = 0 then buffer.readableBytes else min len buffer.readableBytes
  if toRead = 0 then ([], buffer) else buffer.read toRead

def peekUint8 (buffer : Buffer) (offset : ℕ) : UInt8 :=
  if buffer.readableBytes ≤ offset then 0 else buffer.data.getD (buffer.readIdx + offset) 0

def peekUint8Checked (buffer : Buffer) (offset : ℕ) : Bool × UInt8 :=
  if buffer.readableBytes ≤ offset then (false, 0)
  else (true, buffer.data.getD (buffer.readIdx + offset) 0)

def readUint8 (buffer : Buffer) : UInt8 × Buffer :=
  let (bytes, rest) := buffer.read 1
  (bytes.headD 0, rest)

def readChar (buffer : Buffer) : Int8 × Buffer :=
  let (bytes, rest) := buffer.read 1
  ((bytes.headD 0).toInt8, rest)

/-- A zeroed array of `width` bytes, overwritten from the front by what there is to read. -/
def readArray (width : ℕ) (buffer : Buffer) : Bytes × Buffer :=
  let (bytes, rest) := buffer.read width
  (bytes ++ List.replicate (width - bytes.length) 0, rest)

/-- What the plain form of the three readers of wider integers below does, by their width in
bytes. -/
def readUintBe (width : ℕ) (buffer : Buffer) : ℕ × Buffer :=
  let (bytes, rest) := buffer.read width
  (BigEndian.decode (bytes ++ List.replicate (width - bytes.length) 0), rest)

/-- The success-flag form, by the width in bytes. -/
def readUintBeChecked (width : ℕ) (buffer : Buffer) : Bool × ℕ × Buffer :=
  if buffer.readableBytes < width then (false, 0, buffer)
  else (true, buffer.readUintBe width)

def readUint16Be (buffer : Buffer) : UInt16 × Buffer :=
  let (buf, rest) := buffer.readArray 2
  (((buf.getD 0 0).toUInt16 <<< 8) ||| (buf.getD 1 0).toUInt16, rest)

def readUint32Be (buffer : Buffer) : UInt32 × Buffer :=
  let (buf, rest) := buffer.readArray 4
  (((buf.getD 0 0).toUInt32 <<< 24) ||| ((buf.getD 1 0).toUInt32 <<< 16) |||
    ((buf.getD 2 0).toUInt32 <<< 8) ||| (buf.getD 3 0).toUInt32, rest)

def readUint64Be (buffer : Buffer) : UInt64 × Buffer :=
  let (buf, rest) := buffer.readArray 8
  (((buf.getD 0 0).toUInt64 <<< 56) ||| ((buf.getD 1 0).toUInt64 <<< 48) |||
    ((buf.getD 2 0).toUInt64 <<< 40) ||| ((buf.getD 3 0).toUInt64 <<< 32) |||
    ((buf.getD 4 0).toUInt64 <<< 24) ||| ((buf.getD 5 0).toUInt64 <<< 16) |||
    ((buf.getD 6 0).toUInt64 <<< 8) ||| (buf.getD 7 0).toUInt64, rest)

/-- The success-flag form of a typed read: a test of the bytes there are, and the plain form. -/
def readChecked {Value : Type} (width : ℕ) (zero : Value) (plain : Buffer → Value × Buffer)
    (buffer : Buffer) : Bool × Value × Buffer :=
  if buffer.readableBytes < width then (false, zero, buffer) else (true, plain buffer)

def readUint8Checked : Buffer → Bool × UInt8 × Buffer := readChecked 1 0 readUint8

def readCharChecked : Buffer → Bool × Int8 × Buffer := readChecked 1 0 readChar

def readUint16BeChecked : Buffer → Bool × UInt16 × Buffer := readChecked 2 0 readUint16Be

def readUint32BeChecked : Buffer → Bool × UInt32 × Buffer := readChecked 4 0 readUint32Be

def readUint64BeChecked : Buffer → Bool × UInt64 × Buffer := readChecked 8 0 readUint64Be

end Buffer

end HttpsServerSim
