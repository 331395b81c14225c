import HttpsServerSim.Protocol.Types

/-!
# HPACK

The header coder of `hpack.cpp`: static table only, no Huffman coding, and a
dynamic table size that is stored but never used. Integers are 32-bit unsigned
and wrap.

`decode_int` shifts by a count that grows with every continuation byte. From 32
on the result is undefined in C++; the model takes it from `WideShift`, so that
what is proved holds whatever the compiled code does there.
-/

namespace HttpsServerSim

/-- The value of `x << count` on 32-bit words for `count ≥ 32`. -/
class WideShift where
  shift : ℕ → ℕ → ℕ

/-- An x86 shift uses the count modulo 32. -/
instance : WideShift where
  shift x count := x <<< (count % 32)

namespace Hpack

structure StaticTableEntry where
  name : Bytes
  value : Bytes
deriving DecidableEq, Repr

def staticTable : List StaticTableEntry := [
  ⟨ascii ":authority", ascii ""⟩,
  ⟨ascii ":method", ascii "GET"⟩,
  ⟨ascii ":method", ascii "POST"⟩,
  ⟨ascii ":path", ascii "/"⟩,
  ⟨ascii ":path", ascii "/index.html"⟩,
  ⟨ascii ":scheme", ascii "http"⟩,
  ⟨ascii ":scheme", ascii "https"⟩,
  ⟨ascii ":status", ascii "200"⟩,
  ⟨ascii ":status", ascii "204"⟩,
  ⟨ascii ":status", ascii "206"⟩,
  ⟨ascii ":status", ascii "304"⟩,
  ⟨ascii ":status", ascii "400"⟩,
  ⟨ascii ":status", ascii "404"⟩,
  ⟨ascii ":status", ascii "500"⟩,
  ⟨ascii "accept-charset", ascii ""⟩,
  ⟨ascii "accept-encoding", ascii "gzip, deflate"⟩,
  ⟨ascii "accept-language", ascii ""⟩,
  ⟨ascii "accept-ranges", ascii ""⟩,
  ⟨ascii "accept", ascii ""⟩,
  ⟨ascii "access-control-allow-origin", ascii ""⟩,
  ⟨ascii "age", ascii ""⟩,
  ⟨ascii "allow", ascii ""⟩,
  ⟨ascii "authorization", ascii ""⟩,
  ⟨ascii "cache-control", ascii ""⟩,
  ⟨ascii "content-disposition", ascii ""⟩,
  ⟨ascii "content-encoding", ascii ""⟩,
  ⟨ascii "content-language", ascii ""⟩,
  ⟨ascii "content-length", ascii ""⟩,
  ⟨ascii "content-location", ascii ""⟩,
  ⟨ascii "content-range", ascii ""⟩,
  ⟨ascii "content-type", ascii ""⟩,
  ⟨ascii "cookie", ascii ""⟩,
  ⟨ascii "date", ascii ""⟩,
  ⟨ascii "etag", ascii ""⟩,
  ⟨ascii "expect", ascii ""⟩,
  ⟨ascii "expires", ascii ""⟩,
  ⟨ascii "from", ascii ""⟩,
  ⟨ascii "host", ascii ""⟩,
  ⟨ascii "if-match", ascii ""⟩,
  ⟨ascii "if-modified-since", ascii ""⟩,
  ⟨ascii "if-none-match", ascii ""⟩,
  ⟨ascii "if-range", ascii ""⟩,
  ⟨ascii "if-unmodified-since", ascii ""⟩,
  ⟨ascii "last-modified", ascii ""⟩,
  ⟨ascii "link", ascii ""⟩,
  ⟨ascii "location", ascii ""⟩,
  ⟨ascii "max-forwards", ascii ""⟩,
  ⟨ascii "proxy-authenticate", ascii ""⟩,
  ⟨ascii "proxy-authorization", ascii ""⟩,
  ⟨ascii "range", ascii ""⟩,
  ⟨ascii "referer", ascii ""⟩,
  ⟨ascii "refresh", ascii ""⟩,
  ⟨ascii "retry-after", ascii ""⟩,
  ⟨ascii "server", ascii ""⟩,
  ⟨ascii "set-cookie", ascii ""⟩,
  ⟨ascii "strict-transport-security", ascii ""⟩,
  ⟨ascii "transfer-encoding", ascii ""⟩,
  ⟨ascii "user-agent", ascii ""⟩,
  ⟨ascii "vary", ascii ""⟩,
  ⟨ascii "via", ascii ""⟩,
  ⟨ascii "www-authenticate", ascii ""⟩]

/-! ## Encoding -/

/-- The continuation bytes of `encode_int`. A 32-bit value needs at most five of them. -/
def encodeIntLoop : ℕ → ℕ → Bytes
  | 0, value => [UInt8.ofNat value]
  | fuel + 1, value =>
      if 128 ≤ value then UInt8.ofNat (value % 128 + 128) :: encodeIntLoop fuel (value / 128)
      else [UInt8.ofNat value]

/-- The mask `(1 << prefix_bits) - 1`. -/
def prefixMask (bits : ℕ) : UInt8 := UInt8.ofNat (2 ^ bits - 1)

def encodeInt (value : ℕ) (pattern : UInt8) (bits : ℕ) : Bytes :=
  let mask := prefixMask bits
  if value < mask.toNat then [(pattern &&& ~~~mask) ||| UInt8.ofNat value]
  else (pattern ||| mask) :: encodeIntLoop 5 (value - mask.toNat)

def encodeString (text : Bytes) : Bytes :=
  encodeInt (text.length % 2 ^ 32) 0 7 ++ text

/-- `find_static_index`: the 1-based index of a full match. -/
def findStaticIndex (name value : Bytes) : Option ℕ :=
  (staticTable.findIdx? fun entry => name = entry.name ∧ value = entry.value).map (· + 1)

/-- `find_static_name_index`: the 1-based index of the first entry with this name. -/
def findStaticNameIndex (name : Bytes) : Option ℕ :=
  (staticTable.findIdx? fun entry => name = entry.name).map (· + 1)

/-- The body of the loop in `HpackEncoder::encode`. -/
def encodeField (name value : Bytes) : Bytes :=
  match findStaticIndex name value with
  | some index => encodeInt index 0x80 7
  | none =>
      match findStaticNameIndex name with
      | some index => encodeInt index 0x40 6 ++ encodeString value
      | none => 0x40 :: (encodeString name ++ encodeString value)

/-- `HpackEncoder::encode`; it always returns `PROTOCOL_OK`. -/
def encode (headers : HttpHeaders) : Bytes :=
  headers.toList.flatMap fun field => encodeField field.1 field.2

/-! ## Decoding -/

section Decoding

variable [WideShift]

/-- `(b & 0x7F) << shift` added to a 32-bit value. -/
def addShifted (value : ℕ) (byte : UInt8) (shift : ℕ) : ℕ :=
  let low := (byte &&& 0x7F).toNat
  (value + if shift < 32 then low <<< shift else WideShift.shift low shift) % 2 ^ 32

def decodeIntLoop (value shift : ℕ) : Bytes → Except ProtocolStatus (ℕ × Bytes)
  | [] => .error .invalid
  | byte :: rest =>
      let value := addShifted value byte shift
      if byte &&& 0x80 = 0 then .ok (value, rest)
      else decodeIntLoop value ((shift + 7) % 2 ^ 32) rest

/-- `decode_int`: the integer and the bytes after it. -/
def decodeInt (bits : ℕ) : Bytes → Except ProtocolStatus (ℕ × Bytes)
  | [] => .error .invalid
  | byte :: rest =>
      let mask := prefixMask bits
      let value := (byte &&& mask).toNat
      if value < mask.toNat then .ok (value, rest) else decodeIntLoop value 0 rest

/-- `decode_string`: the literal and the bytes after it. -/
def decodeString (data : Bytes) : Except ProtocolStatus (Bytes × Bytes) :=
  match decodeInt 7 data with
  | .error status => .error status
  | .ok (len, rest) =>
      if rest.length < len then .error .invalid else .ok (rest.take len, rest.drop len)

/-- What one representation of a header block does. -/
inductive FieldEffect where
  | insert (name value : Bytes)
  | ignore
  | tableSize (size : ℕ)
deriving DecidableEq, Repr

/-- The name of a literal field: a string of its own, a static name, or nothing. -/
def decodeName (nameIdx : ℕ) (data : Bytes) : Except ProtocolStatus (Bytes × Bytes) :=
  if nameIdx = 0 then decodeString data
  else .ok ((staticTable[nameIdx - 1]?.map StaticTableEntry.name).getD [], data)

/-- A literal field after its first byte. The branches with and without incremental indexing
differ only in the mask that yields `name_idx`. -/
def decodeLiteral (nameIdx : ℕ) (data : Bytes) : Except ProtocolStatus (FieldEffect × Bytes) :=
  match decodeName nameIdx data with
  | .error status => .error status
  | .ok (name, data) =>
      match decodeString data with
      | .error status => .error status
      | .ok (value, data) =>
          .ok (if name.isEmpty then .ignore else .insert name value, data)

/-- An indexed field: an index outside the static table is passed over. -/
def decodeIndexed (data : Bytes) : Except ProtocolStatus (FieldEffect × Bytes) :=
  match decodeInt 7 data with
  | .error status => .error status
  | .ok (index, data) =>
      if index = 0 then .ok (.ignore, data)
      else
        match staticTable[index - 1]? with
        | some entry => .ok (.insert entry.name entry.value, data)
        | none => .ok (.ignore, data)

def decodeTableSize (data : Bytes) : Except ProtocolStatus (FieldEffect × Bytes) :=
  match decodeInt 5 data with
  | .error status => .error status
  | .ok (size, data) => .ok (.tableSize size, data)

/-- The body of the loop in `HpackDecoder::decode`, on data that starts with `first`. -/
def decodeField (first : UInt8) (rest : Bytes) : Except ProtocolStatus (FieldEffect × Bytes) :=
  if first &&& 0x80 ≠ 0 then decodeIndexed (first :: rest)
  else if first &&& 0xC0 = 0x40 then decodeLiteral (first &&& 0x3F).toNat rest
  else if first &&& 0xE0 = 0x20 then decodeTableSize (first :: rest)
  else decodeLiteral (first &&& 0x0F).toNat rest

end Decoding

end Hpack

/-- The state of an `HpackDecoder`. -/
structure HpackDecoder where
  maxDynamicTableSize : ℕ := 4096
deriving DecidableEq, Repr

namespace HpackDecoder

variable [WideShift]

open Hpack

/-- The loop of `decode`. Every field takes at least one byte, so the length of the data is
fuel enough. -/
def decodeLoop : ℕ → HpackDecoder → HttpHeaders → Bytes →
    ProtocolStatus × HttpHeaders × HpackDecoder
  | _, decoder, headers, [] => (.ok, headers, decoder)
  | 0, decoder, headers, _ :: _ => (.invalid, headers, decoder)
  | fuel + 1, decoder, headers, first :: rest =>
      match decodeField first rest with
      | .error status => (status, headers, decoder)
      | .ok (.insert name value, data) =>
          decodeLoop fuel decoder (headers.insert name value) data
      | .ok (.ignore, data) => decodeLoop fuel decoder headers data
      | .ok (.tableSize size, data) => decodeLoop fuel ⟨size⟩ headers data

/-- `HpackDecoder::decode`: the result, the headers and the decoder afterwards. -/
def decode (decoder : HpackDecoder) (data : Bytes) :
    ProtocolStatus × HttpHeaders × HpackDecoder :=
  decodeLoop data.length decoder ∅ data

end HpackDecoder

end HttpsServerSim
