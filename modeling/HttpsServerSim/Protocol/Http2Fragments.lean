import HttpsServerSim.Protocol.HpackCompose
import HttpsServerSim.Protocol.Http2Lifecycle

/-!
# Header blocks in fragments

A header block may arrive as one `HEADERS` frame or as a `HEADERS` frame and
`CONTINUATION` frames. The handler decodes every fragment on its own and drops one
that does not decode; and it forgets `END_STREAM` when the `HEADERS` frame comes
without `END_HEADERS`. The comparison of the two deliveries therefore comes down to
what the fragments decode to, and to a stream that was half closed before.
-/

namespace HttpsServerSim

open Http2Frame

/-- A header block for a stream, cut into a first, some middle and a final fragment. -/
structure SplitBlock where
  streamId : ℕ
  streamId_lt : streamId < 2 ^ 31
  endStream : Bool
  first : Bytes
  middle : List Bytes
  final : Bytes
  length_lt : (first ++ (middle.flatten ++ final)).length < 2 ^ 24

namespace SplitBlock

def pieces (split : SplitBlock) : List Bytes := split.first :: (split.middle ++ [split.final])

def block (split : SplitBlock) : Bytes := split.first ++ (split.middle.flatten ++ split.final)

def streamFlag (split : SplitBlock) : UInt8 := if split.endStream then http2FlagEndStream else 0

/-- The whole block in one frame. -/
def whole (split : SplitBlock) : Http2Frame where
  type := .headers
  flags := http2FlagEndHeaders ||| split.streamFlag
  streamId := split.streamId
  payload := split.block
  streamId_lt := split.streamId_lt
  length_lt := split.length_lt

theorem length_le_of_mem_middle (split : SplitBlock) {piece : Bytes}
    (member : piece ∈ split.middle) : piece.length ≤ split.block.length := by
  have := (List.sublist_flatten_of_mem member).length_le
  simp only [block, List.length_append]
  omega

def continuation (split : SplitBlock) (flags : UInt8) (piece : Bytes)
    (le : piece.length ≤ split.block.length) : Http2Frame where
  type := .continuation
  flags := flags
  streamId := split.streamId
  payload := piece
  streamId_lt := split.streamId_lt
  length_lt := lt_of_le_of_lt le split.length_lt

def opening (split : SplitBlock) : Http2Frame where
  type := .headers
  flags := split.streamFlag
  streamId := split.streamId
  payload := split.first
  streamId_lt := split.streamId_lt
  length_lt := lt_of_le_of_lt (by simp) split.length_lt

def closing (split : SplitBlock) : Http2Frame :=
  split.continuation http2FlagEndHeaders split.final (by simp [block]; omega)

/-- The block in fragments, with `END_HEADERS` on the last. -/
def fragments (split : SplitBlock) : List Http2Frame :=
  split.opening ::
    (split.middle.pmap (split.continuation 0) (fun _ => split.length_le_of_mem_middle) ++
      [split.closing])

end SplitBlock

namespace StreamView

variable [WideShift]

/-- The fields of a fragment assigned into the headers, if it decodes on its own. -/
def overlayFragment (headers : HttpHeaders) (piece : Bytes) : HttpHeaders :=
  match decodeBlock piece with
  | none => headers
  | some fields => MapOverlay.overlay headers fields

def absorb (view : StreamView) (piece : Bytes) : StreamView :=
  { view with headers := overlayFragment view.headers piece }

theorem absorb_of_decodes {view : StreamView} {piece : Bytes} {fields : HttpHeaders}
    (decodes : decodeBlock piece = some fields) : view.absorb piece = view.merge fields := by
  simp [absorb, overlayFragment, decodes, merge]

theorem absorb_of_not_decodes {view : StreamView} {piece : Bytes}
    (decodes : decodeBlock piece = none) : view.absorb piece = view := by
  simp [absorb, overlayFragment, decodes]

theorem foldl_absorb (view : StreamView) (pieces : List Bytes) :
    pieces.foldl absorb view =
      { view with headers := pieces.foldl overlayFragment view.headers } := by
  induction pieces generalizing view with
  | nil => rfl
  | cons piece pieces ih => rw [List.foldl_cons, ih]; rfl

omit [WideShift] in
theorem opened_headers (view : Option StreamView) :
    (opened view).headers = (view.map headers).getD ∅ := by
  cases view with
  | none => rfl
  | some view =>
      simp only [opened, Option.getD_some, Option.map_some]
      split <;> rfl

omit [WideShift] in
theorem opened_halfClosed (view : Option StreamView) :
    (opened view).state = .halfClosedRemote ↔ view.map state = some .halfClosedRemote := by
  cases view with
  | none => simp [opened, idle]
  | some view =>
      simp only [opened, Option.getD_some, Option.map_some, Option.some.injEq]
      split_ifs with isIdle
      · simp [isIdle]
      · rfl

omit [WideShift] in
theorem reply_eq_reply_iff {streamId : ℕ} {idLt : streamId < 2 ^ 31} {body : Bytes}
    {one other : Prop} [Decidable one] [Decidable other] :
    ((if one then replyFrames streamId idLt body else []) =
      if other then replyFrames streamId idLt body else []) ↔ (one ↔ other) := by
  have nonempty := (replyFrames_closesAtEnd idLt body).ne_nil
  by_cases left : one <;> by_cases right : other <;> simp [left, right, nonempty, nonempty.symm]

/-- A first fragment opens the stream and is absorbed. -/
theorem onHeaders_fragment (view : Option StreamView) (piece : Bytes) {flags : UInt8}
    (more : flags &&& http2FlagEndHeaders = 0) :
    onHeaders view piece flags = (some ((opened view).absorb piece), false) := by
  unfold onHeaders
  cases decodes : decodeBlock piece with
  | none => simp [absorb_of_not_decodes decodes]
  | some fields => simp [absorb_of_decodes decodes, more]

theorem onContinuation_fragment (view : StreamView) (piece : Bytes) (flags : UInt8) :
    onContinuation (some view) piece flags =
      (some (view.absorb piece),
        decide (flags &&& http2FlagEndHeaders ≠ 0 ∧ (decodeBlock piece).isSome ∧
          view.state = .halfClosedRemote)) := by
  unfold onContinuation
  cases decodes : decodeBlock piece with
  | none => simp [absorb_of_not_decodes decodes]
  | some fields => simp [absorb_of_decodes decodes]

/-! ## Cuts between fields -/

theorem decodeBlock_eq_some {block : Bytes} {fields : HttpHeaders} :
    decodeBlock block = some fields ↔
      (HpackDecoder.decode {} block).1 = .ok ∧ (HpackDecoder.decode {} block).2.1 = fields := by
  simp only [decodeBlock]
  split_ifs with ok
  · simp [ok]
  · simp [ok]

theorem decodeBlock_append {block more : Bytes} {fields moreFields : HttpHeaders}
    (decodes : decodeBlock block = some fields) (moreDecodes : decodeBlock more = some moreFields) :
    decodeBlock (block ++ more) = some (MapOverlay.overlay fields moreFields) := by
  rw [decodeBlock_eq_some] at decodes moreDecodes ⊢
  rcases decodes with ⟨ok, rfl⟩
  rcases moreDecodes with ⟨moreOk, rfl⟩
  rcases HpackDecoder.decode_append_overlay {} {} ok more with ⟨statusEq, headersEq⟩
  exact ⟨statusEq.trans moreOk, headersEq⟩

/-- Fragments that all decode on their own amount to the block they are fragments of. -/
theorem foldl_overlayFragment_of_decodes (headers : HttpHeaders) {pieces : List Bytes}
    (decode : ∀ piece ∈ pieces, (decodeBlock piece).isSome) :
    ∃ fields, decodeBlock pieces.flatten = some fields ∧
      pieces.foldl overlayFragment headers = MapOverlay.overlay headers fields := by
  induction pieces generalizing headers with
  | nil => exact ⟨∅, rfl, (MapOverlay.overlay_empty_right headers).symm⟩
  | cons piece pieces ih =>
      rcases Option.isSome_iff_exists.mp (decode piece List.mem_cons_self) with ⟨first, firstEq⟩
      have laterDecode : ∀ other ∈ pieces, (decodeBlock other).isSome := by
        intro other member
        exact decode other (List.mem_cons_of_mem piece member)
      rcases ih (overlayFragment headers piece) laterDecode with ⟨later, laterEq, foldEq⟩
      refine ⟨MapOverlay.overlay first later, decodeBlock_append firstEq laterEq, ?_⟩
      rw [List.foldl_cons, foldEq]
      simp only [overlayFragment, firstEq]
      exact MapOverlay.overlay_assoc headers first later

end StreamView

namespace SplitBlock

open StreamView

variable [WideShift]

omit [WideShift] in
theorem streamId_of_mem_fragments (split : SplitBlock) {frame : Http2Frame}
    (member : frame ∈ split.fragments) : frame.streamId = split.streamId := by
  rcases List.mem_cons.mp member with rfl | later
  · rfl
  · rcases List.mem_append.mp later with continued | last
    · rcases List.mem_pmap.mp continued with ⟨piece, pieceMem, rfl⟩
      rfl
    · rw [List.mem_singleton.mp last]
      rfl

theorem run_middle (split : SplitBlock) (view : StreamView) (pieces : List Bytes)
    (le : ∀ piece ∈ pieces, piece.length ≤ split.block.length) :
    transducer.run (some view) ((pieces.pmap (split.continuation 0) le).map .frame) =
      (some (pieces.foldl absorb view), []) := by
  induction pieces generalizing view with
  | nil => rfl
  | cons piece pieces ih =>
      have step : transducer.step (some view)
          (.frame (split.continuation 0 piece (le piece List.mem_cons_self))) =
            (some (view.absorb piece), []) := by
        simp +decide [transducer, onFrame, continuation, onContinuation_fragment, answer]
      simp only [List.pmap_cons, List.map_cons, Transducer.run, step, ih, List.foldl_cons,
        List.append_nil]

theorem step_opening (split : SplitBlock) (view : Option StreamView) :
    transducer.step view (.frame split.opening) =
      (some ((opened view).absorb split.first), []) := by
  have more : split.streamFlag &&& http2FlagEndHeaders = 0 := by
    unfold streamFlag
    split <;> decide
  simp [transducer, onFrame, opening, onHeaders_fragment view split.first more, answer]

theorem step_closing (split : SplitBlock) (view : StreamView) :
    transducer.step (some view) (.frame split.closing) =
      (some (view.absorb split.final),
        if (decodeBlock split.final).isSome ∧ view.state = .halfClosedRemote then
          replyFrames split.streamId split.streamId_lt view.body
        else []) := by
  simp +decide [transducer, onFrame, closing, continuation, onContinuation_fragment, answer, absorb]

/-- The stream after the fragments, and its answer. -/
theorem run_fragments (split : SplitBlock) (view : Option StreamView) :
    transducer.run view (split.fragments.map .frame) =
      (some { opened view with
          headers := split.pieces.foldl overlayFragment (opened view).headers },
        if (decodeBlock split.final).isSome ∧ (opened view).state = .halfClosedRemote then
          replyFrames split.streamId split.streamId_lt (opened view).body
        else []) := by
  simp only [fragments, List.map_cons, List.map_append, List.map_nil, Transducer.run, step_opening,
    Transducer.run_append, run_middle, foldl_absorb, step_closing, List.nil_append,
    List.append_nil]
  simp only [pieces, absorb, List.foldl_cons, List.foldl_append, List.foldl_nil]
  rfl

/-- The stream after the whole block, and its answer. -/
theorem run_whole (split : SplitBlock) {fields : HttpHeaders}
    (decodes : decodeBlock split.block = some fields) (view : Option StreamView) :
    transducer.run view [.frame split.whole] =
      (some { (opened view).merge fields with
          state := if split.endStream then .halfClosedRemote else (opened view).state },
        if split.endStream then
          replyFrames split.streamId split.streamId_lt (opened view).body
        else []) := by
  have complete : ((http2FlagEndHeaders ||| split.streamFlag) &&& http2FlagEndHeaders ≠ 0 ∧
      (http2FlagEndHeaders ||| split.streamFlag) &&& http2FlagEndStream ≠ 0) ↔
        split.endStream = true := by
    unfold streamFlag
    cases split.endStream <;> decide
  simp only [Transducer.run, transducer, onFrame, whole, if_true, onHeaders, decodes, complete,
    List.append_nil]
  by_cases ending : split.endStream = true
  · simp only [ending, if_true]
    rfl
  · simp only [ending]
    rfl

end SplitBlock

namespace Http2Handler

open StreamView

/-- The same stream, and the same responses on it. -/
def SameOutcome (streamId : ℕ) (one other : Http2Handler PlainTls) : Prop :=
  one.viewAt streamId = other.viewAt streamId ∧
    one.messagesOn streamId = other.messagesOn streamId

section Runs

variable [WideShift]

/-- Fragments leave what the whole block leaves exactly if the fields that the fragments decode to
on their own amount to the fields of the block, and `END_STREAM` is on a stream that was half closed
already and whose last fragment decodes, or on neither. -/
theorem fragmentation_invariant_iff (history : List Http2Event) (split : SplitBlock)
    {fields : HttpHeaders} (decodes : decodeBlock split.block = some fields) :
    let before := (afterEvents history).viewAt split.streamId
    let headers := (before.map StreamView.headers).getD ∅
    SameOutcome split.streamId (afterEvents (history ++ split.fragments.map .frame))
        (afterEvents (history ++ [.frame split.whole])) ↔
      split.pieces.foldl overlayFragment headers = MapOverlay.overlay headers fields ∧
        (split.endStream = true ↔
          before.map StreamView.state = some .halfClosedRemote ∧
            (decodeBlock split.final).isSome) := by
  intro before headers
  have ownFragments : ∀ event ∈ split.fragments.map Http2Event.frame,
      event.streamId = split.streamId := by
    intro event member
    rcases List.mem_map.mp member with ⟨frame, frameMem, rfl⟩
    exact split.streamId_of_mem_fragments frameMem
  have ownWhole : ∀ event ∈ [Http2Event.frame split.whole], event.streamId = split.streamId := by
    intro event member
    rw [List.mem_singleton.mp member]
    rfl
  have beforeEq : (streamRun split.streamId history).1 = before := (run_stream _ _).1.symm
  simp only [SameOutcome, (run_stream _ _).1, (run_stream _ _).2,
    streamRun_append _ _ _ ownFragments, streamRun_append _ _ _ ownWhole, beforeEq,
    split.run_fragments, split.run_whole decodes, opened_headers, opened_halfClosed,
    Option.some.injEq, List.append_cancel_left_eq, StreamView.mk.injEq, merge,
    reply_eq_reply_iff]
  constructor
  · rintro ⟨⟨sameHeaders, _, _⟩, sameAnswer⟩
    exact ⟨sameHeaders, sameAnswer.symm.trans and_comm⟩
  · rintro ⟨sameHeaders, condition⟩
    refine ⟨⟨sameHeaders, trivial, ?_⟩, (condition.trans and_comm).symm⟩
    split_ifs with ending
    · exact (opened_halfClosed before).mpr (condition.mp ending).1
    · rfl

end Runs

/-- `:method GET` and `:path /` in two frames, with `END_STREAM` on the first: the request is
never answered. -/
theorem fragmentation_invariant_fails :
    let split : SplitBlock := ⟨1, by decide, true, [0x82], [], [0x84], by decide⟩
    (decodeBlock split.block).isSome ∧
      ¬ SameOutcome 1 (afterEvents (split.fragments.map .frame))
        (afterEvents [.frame split.whole]) := by
  intro split
  refine ⟨by decide +kernel, ?_⟩
  rintro ⟨sameView, _⟩
  have sameState := congrArg (Option.map StreamView.state) sameView
  exact absurd sameState (by decide +kernel)

/-- The same block without `END_STREAM`. -/
theorem fragmentation_invariant_open :
    let split : SplitBlock := ⟨1, by decide, false, [0x82], [], [0x84], by decide⟩
    SameOutcome 1 (afterEvents ([] ++ split.fragments.map .frame))
      (afterEvents ([] ++ [.frame split.whole])) := by
  intro split
  have decodes : decodeBlock split.block =
      some ((∅ : HttpHeaders).insert (ascii ":method") (ascii "GET") |>.insert (ascii ":path")
        (ascii "/")) := by decide +kernel
  exact (fragmentation_invariant_iff [] split decodes).mpr
    ⟨by decide +kernel, by decide +kernel⟩

end Http2Handler

end HttpsServerSim
