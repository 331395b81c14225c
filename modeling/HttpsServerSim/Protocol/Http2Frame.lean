import HttpsServerSim.Lib.Framing
import HttpsServerSim.Protocol.Types

/-!
# HTTP/2 frames on the wire

A frame is a nine-byte header and a payload. `frameHeader` is the header that
`write_frame` composes and `splitFrame` the test and the field extraction of
`read_frame`; together they are a self-delimiting framing of the frames whose
payload is shorter than `2 ^ 24` and whose stream id is below `2 ^ 31`.
-/

namespace HttpsServerSim

/-- A frame as `read_frame` passes it to `handle_frame`: the header fields, and the payload
whose length is the header's length field. -/
structure Http2Frame where
  type : Http2FrameType
  flags : UInt8
  streamId : ℕ
  payload : Bytes
  streamId_lt : streamId < 2 ^ 31
  length_lt : payload.length < 2 ^ 24
deriving DecidableEq

namespace Http2Frame

/-- The nine header bytes of `write_frame`; the top bit of the stream id is masked off. -/
def frameHeader (type : Http2FrameType) (streamId : ℕ) (flags : UInt8) (len : ℕ) : Bytes :=
  BigEndian.encode 3 len ++ [type.code, flags] ++ BigEndian.encode 4 (streamId % 2 ^ 31)

def bytes (frame : Http2Frame) : Bytes :=
  frameHeader frame.type frame.streamId frame.flags frame.payload.length ++ frame.payload

theorem decode_three_lt (l0 l1 l2 : UInt8) : BigEndian.decode [l0, l1, l2] < 2 ^ 24 := by
  have width : 2 ^ 24 = 256 ^ 3 := by decide
  rw [width]
  exact BigEndian.decode_lt [l0, l1, l2]

/-- The first frame of the input, if all of it is there, and what follows it. -/
def splitFrame : Bytes → Option (Http2Frame × Bytes)
  | l0 :: l1 :: l2 :: type :: flags :: s0 :: s1 :: s2 :: s3 :: rest =>
      if complete : BigEndian.decode [l0, l1, l2] ≤ rest.length then
        some
          ({ type := ⟨type⟩
             flags := flags
             streamId := BigEndian.decode [s0, s1, s2, s3] % 2 ^ 31
             payload := rest.take (BigEndian.decode [l0, l1, l2])
             streamId_lt := Nat.mod_lt _ (by decide)
             length_lt := by
               rw [List.length_take, Nat.min_eq_left complete]
               exact decode_three_lt l0 l1 l2 },
            rest.drop (BigEndian.decode [l0, l1, l2]))
      else none
  | _ => none

theorem bytes_append (frame : Http2Frame) (rest : Bytes) :
    ∃ l0 l1 l2 s0 s1 s2 s3,
      frame.bytes ++ rest =
        l0 :: l1 :: l2 :: frame.type.code :: frame.flags :: s0 :: s1 :: s2 :: s3 ::
          (frame.payload ++ rest) ∧
      BigEndian.decode [l0, l1, l2] = frame.payload.length ∧
      BigEndian.decode [s0, s1, s2, s3] % 2 ^ 31 = frame.streamId := by
  refine ⟨_, _, _, _, _, _, _, rfl, ?_, ?_⟩
  · change BigEndian.decode (BigEndian.encode 3 frame.payload.length) = _
    rw [BigEndian.decode_encode]
    exact Nat.mod_eq_of_lt frame.length_lt
  · change BigEndian.decode (BigEndian.encode 4 (frame.streamId % 2 ^ 31)) % 2 ^ 31 = _
    have id_lt := frame.streamId_lt
    rw [BigEndian.decode_encode]
    omega

theorem splitFrame_bytes (frame : Http2Frame) (rest : Bytes) :
    splitFrame (frame.bytes ++ rest) = some (frame, rest) := by
  rcases frame.bytes_append rest with
    ⟨l0, l1, l2, s0, s1, s2, s3, shape, length_value, id_value⟩
  rw [shape]
  simp only [splitFrame, length_value, id_value]
  simp

theorem splitFrame_spec {input rest : Bytes} {frame : Http2Frame}
    (found : splitFrame input = some (frame, rest)) :
    input.length = http2FrameHeaderSize + frame.payload.length + rest.length ∧
      input.drop http2FrameHeaderSize = frame.payload ++ rest ∧
      ∀ more, splitFrame (input ++ more) = some (frame, rest ++ more) := by
  unfold splitFrame at found
  split at found
  · rename_i l0 l1 l2 type flags s0 s1 s2 s3 tail
    split_ifs at found with complete
    simp only [Option.some.injEq, Prod.mk.injEq] at found
    rcases found with ⟨rfl, rfl⟩
    refine ⟨?_, ?_, ?_⟩
    · simp only [http2FrameHeaderSize, List.length_cons, List.length_take, List.length_drop]
      omega
    · simp [http2FrameHeaderSize]
    · intro more
      have still : BigEndian.decode [l0, l1, l2] ≤ (tail ++ more).length := by
        rw [List.length_append]
        omega
      simp only [List.cons_append, splitFrame, still, dite_true,
        List.take_append_of_le_length complete, List.drop_append_of_le_length complete]
  · cases found

/-- The framing of HTTP/2 frames. -/
def framing : Framing UInt8 Http2Frame where
  encode := bytes
  split := splitFrame
  split_encode := splitFrame_bytes
  split_append found := (splitFrame_spec found).2.2
  length_lt_of_split found := by
    have length_eq := (splitFrame_spec found).1
    simp only [http2FrameHeaderSize] at length_eq
    omega

end Http2Frame

end HttpsServerSim
