import HttpsServerSim.Protocol.Http2Fragments

/-!
# Padding and priority

HTTP/2 lets a sender put a pad length in front of the content of a `HEADERS` or
`DATA` frame and padding behind it, and a priority field in front of a header block.
Two flags announce them. The handlers test neither flag and take the payload whole,
so the additions go into the request: into its body, or into the HPACK decoder.
-/

namespace HttpsServerSim

open Http2Frame

def http2FlagPadded : UInt8 := 0x08

def http2FlagPriority : UInt8 := 0x20

/-- Pad length, priority field, content and padding, in the order HTTP/2 prescribes. -/
def layOut (padding priority : Option Bytes) (content : Bytes) : Bytes :=
  (padding.map fun bytes => [UInt8.ofNat bytes.length]).getD [] ++ priority.getD [] ++ content ++
    padding.getD []

/-- The additions that HTTP/2 allows to a frame with some content: padding, for `HEADERS` and
`DATA`, and a priority field, for `HEADERS`; at least one of them. -/
structure Decoration (frame : Http2Frame) where
  padding : Option Bytes
  priority : Option Bytes
  padding_lt : ∀ bytes, padding = some bytes → bytes.length < 256
  priority_length : ∀ bytes, priority = some bytes → bytes.length = 5
  padding_type : padding.isSome → frame.type = .headers ∨ frame.type = .data
  priority_type : priority.isSome → frame.type = .headers
  decorated : padding.isSome ∨ priority.isSome
  fits : (layOut padding priority frame.payload).length < 2 ^ 24

namespace Decoration

variable {frame : Http2Frame} (decoration : Decoration frame)

/-- The flags that announce the additions. -/
def flags : UInt8 :=
  (if decoration.padding.isSome then http2FlagPadded else 0) |||
    if decoration.priority.isSome then http2FlagPriority else 0

/-- The frame with the additions. -/
def apply : Http2Frame where
  type := frame.type
  flags := frame.flags ||| decoration.flags
  streamId := frame.streamId
  payload := layOut decoration.padding decoration.priority frame.payload
  streamId_lt := frame.streamId_lt
  length_lt := decoration.fits

include decoration in
theorem type_eq : frame.type = .headers ∨ frame.type = .data := by
  rcases decoration.decorated with padded | prioritised
  · exact decoration.padding_type padded
  · exact Or.inl (decoration.priority_type prioritised)

/-- Neither flag overlaps the two that the handlers test. -/
theorem flags_and (mask : UInt8) (tested : mask = http2FlagEndStream ∨ mask = http2FlagEndHeaders) :
    decoration.apply.flags &&& mask = frame.flags &&& mask := by
  have apart : decoration.flags &&& mask = 0 := by
    unfold flags
    rcases tested with rfl | rfl <;> split_ifs <;> decide
  have distributed : (frame.flags ||| decoration.flags) &&& mask =
      (frame.flags &&& mask) ||| (decoration.flags &&& mask) := by
    apply UInt8.eq_of_toBitVec_eq
    simp only [UInt8.toBitVec_and, UInt8.toBitVec_or]
    ext i
    simp [Bool.and_or_distrib_right]
  rw [apply, distributed, apart, UInt8.or_zero]

/-- A padded frame is longer than its content. -/
theorem length_lt_of_padded (padded : decoration.padding.isSome) :
    frame.payload.length < decoration.apply.payload.length := by
  rcases Option.isSome_iff_exists.mp padded with ⟨bytes, padding_eq⟩
  simp only [apply, layOut, padding_eq, Option.map_some, Option.getD_some, List.length_append,
    List.length_singleton]
  omega

end Decoration

namespace StreamView

variable [WideShift]

/-- A `HEADERS` frame in one equation: the block is absorbed, and the request is complete if the
flags say so and the block decodes. -/
theorem onHeaders_eq (view : Option StreamView) (block : Bytes) (flags : UInt8) :
    onHeaders view block flags =
      if flags &&& http2FlagEndHeaders ≠ 0 ∧ flags &&& http2FlagEndStream ≠ 0 ∧
          (decodeBlock block).isSome then
        (some { (opened view).absorb block with state := .halfClosedRemote }, true)
      else (some ((opened view).absorb block), false) := by
  unfold onHeaders
  cases decodes : decodeBlock block with
  | none => simp [absorb_of_not_decodes decodes]
  | some fields => simp [absorb_of_decodes decodes]

/-- The frames and additions for which ignoring the flags makes no difference. -/
def IgnoresDecoration (view : Option StreamView) (frame : Http2Frame)
    (decoration : Decoration frame) : Prop :=
  if frame.type = .data then view = none
  else
    overlayFragment ((view.map headers).getD ∅) decoration.apply.payload =
        overlayFragment ((view.map headers).getD ∅) frame.payload ∧
      (frame.endsHeaders → frame.endsStream →
        ((decodeBlock decoration.apply.payload).isSome ↔ (decodeBlock frame.payload).isSome))

end StreamView

namespace Http2Handler

open StreamView

section Runs

variable [WideShift]

/-- Two frames, given to the same handler, have the same effect on the stream and make it write the
same frames. -/
def SameEffect (history : List Http2Event) (streamId : ℕ) (one other : Http2Frame) : Prop :=
  (afterEvents (history ++ [.frame one])).viewAt streamId =
      (afterEvents (history ++ [.frame other])).viewAt streamId ∧
    (afterEvents (history ++ [.frame one])).framesWritten =
      (afterEvents (history ++ [.frame other])).framesWritten

theorem sameEffect_iff (history : List Http2Event) {one other : Http2Frame}
    (sameType : one.type = other.type) (message : other.type = .headers ∨ other.type = .data)
    (sameId : one.streamId = other.streamId) :
    SameEffect history other.streamId one other ↔
      transducer.step ((afterEvents history).viewAt other.streamId) (.frame one) =
        transducer.step ((afterEvents history).viewAt other.streamId) (.frame other) := by
  have noAck (frame : Http2Frame) (type_eq : frame.type = other.type) :
      acknowledgement (afterEvents history) frame = [] := by
    rcases message with type | type <;> simp +decide [acknowledgement, type_eq, type]
  have ownOne : (Http2Event.frame one).streamId = other.streamId := sameId
  have ownOther : (Http2Event.frame other).streamId = other.streamId := rfl
  rw [SameEffect, viewAt_concat, viewAt_concat, if_pos ownOne, if_pos ownOther,
    framesWritten_concat, framesWritten_concat, List.append_cancel_left_eq, eventFrames,
    eventFrames, noAck one sameType, noAck other rfl, List.nil_append, List.nil_append, sameId,
    Prod.ext_iff]

end Runs

end Http2Handler

namespace StreamView

variable [WideShift]

/-- Two outcomes on a stream are the same if its view and the request's completion are. -/
theorem step_eq_iff {view : Option StreamView} {one other : Http2Frame}
    (sameId : one.streamId = other.streamId) :
    transducer.step view (.frame one) = transducer.step view (.frame other) ↔
      onFrame view one = onFrame view other := by
  constructor
  · intro same
    rcases Prod.ext_iff.mp same with ⟨views, frames⟩
    simp only [transducer, answer] at views frames
    refine Prod.ext views ?_
    rw [views] at frames
    have idLt := one.streamId_lt
    simp only [sameId, reply_eq_reply_iff] at frames
    exact Bool.eq_iff_iff.mpr frames
  · intro same
    simp only [transducer, same, sameId]

theorem onData_decorated_iff (view : Option StreamView) {frame : Http2Frame}
    (decoration : Decoration frame) (data : frame.type = .data) :
    onFrame view decoration.apply = onFrame view frame ↔ view = none := by
  have notHeaders : frame.type ≠ .headers := by
    rw [data]
    decide
  have padded : decoration.padding.isSome := by
    rcases decoration.decorated with padded | prioritised
    · exact padded
    · exact absurd (decoration.priority_type prioritised) notHeaders
  have longer := decoration.length_lt_of_padded padded
  have sameType : decoration.apply.type = frame.type := rfl
  simp +decide only [onFrame, sameType, data, if_true, if_false, onData]
  cases view with
  | none => simp
  | some view =>
      refine iff_of_false ?_ (by simp)
      intro same
      have bodies := congrArg (fun outcome => outcome.1.map body) same
      have grown : view.body ++ decoration.apply.payload = view.body ++ frame.payload := by
        split_ifs at bodies <;> simpa using bodies
      rw [List.append_cancel_left_eq] at grown
      rw [grown] at longer
      exact absurd longer (lt_irrefl _)

theorem onHeaders_decorated_iff (view : Option StreamView) {frame : Http2Frame}
    (decoration : Decoration frame) (headers_eq : frame.type = .headers) :
    onFrame view decoration.apply = onFrame view frame ↔
      overlayFragment ((view.map headers).getD ∅) decoration.apply.payload =
          overlayFragment ((view.map headers).getD ∅) frame.payload ∧
        (frame.endsHeaders → frame.endsStream →
          ((decodeBlock decoration.apply.payload).isSome ↔
            (decodeBlock frame.payload).isSome)) := by
  have sameType : decoration.apply.type = frame.type := rfl
  simp only [onFrame, sameType, headers_eq, if_true, onHeaders_eq, absorb, opened_headers,
    decoration.flags_and _ (Or.inl rfl), decoration.flags_and _ (Or.inr rfl)]
  change _ ↔ _ ∧ (frame.flags &&& http2FlagEndHeaders ≠ 0 →
    frame.flags &&& http2FlagEndStream ≠ 0 → _)
  -- the request is complete, or would be if the block decoded
  by_cases complete : frame.flags &&& http2FlagEndHeaders ≠ 0 ∧
      frame.flags &&& http2FlagEndStream ≠ 0
  · rcases complete with ⟨endHeaders, endStream⟩
    cases (decodeBlock decoration.apply.payload).isSome <;>
      cases (decodeBlock frame.payload).isSome <;> simp [endHeaders, endStream]
  · have incomplete (block : Bytes) : ¬ (frame.flags &&& http2FlagEndHeaders ≠ 0 ∧
        frame.flags &&& http2FlagEndStream ≠ 0 ∧ (decodeBlock block).isSome) :=
      fun all => complete ⟨all.1, all.2.1⟩
    rw [if_neg (incomplete _), if_neg (incomplete _)]
    constructor
    · intro same
      refine ⟨by simpa using same, ?_⟩
      intro endHeaders endStream
      exact absurd ⟨endHeaders, endStream⟩ complete
    · rintro ⟨same, _⟩
      rw [same]

end StreamView

namespace Http2Handler

open StreamView

section Runs

variable [WideShift]

/-- The additions go unnoticed exactly if a `DATA` frame has no stream to go to, or a `HEADERS`
block with them decodes to the same headers as the block without. -/
theorem padding_transparent_iff (history : List Http2Event) {frame : Http2Frame}
    (decoration : Decoration frame) :
    SameEffect history frame.streamId decoration.apply frame ↔
      IgnoresDecoration ((afterEvents history).viewAt frame.streamId) frame decoration := by
  have sameType : decoration.apply.type = frame.type := rfl
  have sameId : decoration.apply.streamId = frame.streamId := rfl
  rw [sameEffect_iff history sameType decoration.type_eq sameId, step_eq_iff sameId,
    IgnoresDecoration]
  split_ifs with data
  · exact onData_decorated_iff _ decoration data
  · exact onHeaders_decorated_iff _ decoration (decoration.type_eq.resolve_right data)

end Runs

/-- The body `hi` with one byte of padding arrives as four bytes, and a request with a priority
field that names no other stream is not understood. -/
theorem padding_transparent_fails :
    let opening : Http2Frame := ⟨.headers, 4, 1, [0x82], by decide, by decide⟩
    let body : Http2Frame := ⟨.data, 1, 1, [104, 105], by decide, by decide⟩
    let request : Http2Frame := ⟨.headers, 5, 1, [0x82], by decide, by decide⟩
    (∃ padded : Decoration body, padded.padding = some [0] ∧
        ¬ SameEffect [.frame opening] 1 padded.apply body) ∧
      ∃ prioritised : Decoration request, prioritised.priority = some [0x80, 0, 0, 0, 0xFF] ∧
        ¬ SameEffect [] 1 prioritised.apply request := by
  intro opening body request
  let padded : Decoration body :=
    ⟨some [0], none, by simp, by simp, fun _ => Or.inr rfl, by simp, Or.inl rfl, by decide⟩
  let prioritised : Decoration request :=
    ⟨none, some [0x80, 0, 0, 0, 0xFF], by simp, by simp, by simp, fun _ => rfl, Or.inr rfl,
      by decide⟩
  refine ⟨⟨padded, rfl, ?_⟩, ⟨prioritised, rfl, ?_⟩⟩
  · intro same
    exact absurd (congrArg (Option.map StreamView.body) same.1) (by decide +kernel)
  · intro same
    exact absurd same.2 (by decide +kernel)

end Http2Handler

end HttpsServerSim
