import HttpsServerSim.Protocol.Http1Request

/-!
# Segmentation of a request

What a fresh handler makes of one well-formed request must not depend on how the bytes
are cut into reads. `parse_headers` clears the map before it reads the lines that are
still in the buffer, so a header line that an earlier read completed is lost. The
outcome is the one the request asks for exactly if the names on the lost lines come
again on lines that are not lost, and it is the same for all cuts exactly if there is no
header line to lose.
-/

namespace HttpsServerSim

open HttpParser

namespace Http1Handler

/-! ## Runs in which fields may be lost -/

/-- The headers of the next request to complete are fixed: the handler has failed, or waits for
the body of a request with these headers, or has completed such a request. -/
def Settled (base : Http1Handler PlainTls) (headers : HttpHeaders)
    (handler : Http1Handler PlainTls) : Prop :=
  (handler.completed = base.completed ∧
      (handler.state = .error ∨ handler.state = .expectBody ∧ handler.request.headers = headers)) ∨
    ∃ first later, handler.completed = base.completed ++ first :: later ∧ first.headers = headers

theorem settled_of_reject {base handler : Http1Handler PlainTls}
    (completed : handler.completed = base.completed) (headers : HttpHeaders) :
    Settled base headers handler.reject.2 := by
  rcases reject_progress handler with ⟨_, completedEq, failed⟩
  exact Or.inl ⟨completedEq.trans completed, Or.inl failed⟩

theorem settled_of_expectComplete {base handler : Http1Handler PlainTls} {headers : HttpHeaders}
    (connSet : handler.connSet = true) (completed : handler.completed = base.completed)
    (headersEq : handler.request.headers = headers) :
    Settled base headers handler.expectComplete.2 := by
  right
  refine ⟨handler.request, [], ?_, headersEq⟩
  rw [expectComplete_completed connSet, completed]

theorem settled_of_expectBody {base handler : Http1Handler PlainTls} {headers : HttpHeaders}
    (connSet : handler.connSet = true) (completed : handler.completed = base.completed)
    (state : handler.state = .expectBody) (headersEq : handler.request.headers = headers) :
    Settled base headers handler.expectBody.2 := by
  simp only [expectBody]
  split_ifs
  · exact settled_of_expectComplete connSet completed headersEq
  · exact Or.inl ⟨completed, Or.inr ⟨state, headersEq⟩⟩

theorem settled_of_headersComplete {base handler : Http1Handler PlainTls}
    (listening : Listening base handler) :
    Settled base handler.request.headers handler.headersComplete.2 := by
  simp only [headersComplete]
  split_ifs
  · exact settled_of_reject listening.completed _
  · split
    · apply settled_of_reject
      exact listening.completed
    · split_ifs
      · exact settled_of_expectBody listening.connSet listening.completed rfl rfl
      · exact settled_of_expectComplete listening.connSet listening.completed rfl

theorem Settled.deliver {base handler : Http1Handler PlainTls} {headers : HttpHeaders}
    (settled : Settled base headers handler) (connSet : handler.connSet = true)
    (drained : handler.tlsHandler.pending = []) {piece : Bytes}
    (short : piece.length ≤ tempBufferSize) :
    Settled base headers (handler.deliver piece) := by
  by_cases empty : piece = []
  · rw [empty, deliver_nil drained]
    exact settled
  rcases settled with ⟨completed, failed | ⟨state, rfl⟩⟩ | ⟨first, later, completed, headersEq⟩
  · rw [deliver_eq_parse drained empty short, parse, failed]
    apply settled_of_reject
    exact completed
  · rw [deliver_eq_parse drained empty short, parse, state]
    exact settled_of_expectBody connSet completed rfl rfl
  · rcases (deliver_progress drained short).completed with ⟨more, moreEq⟩
    right
    refine ⟨first, later ++ more, ?_, headersEq⟩
    rw [← moreEq, completed, List.append_assoc]
    rfl

theorem Settled.deliverAll {base handler : Http1Handler PlainTls} {headers : HttpHeaders}
    (settled : Settled base headers handler) (connSet : handler.connSet = true)
    (drained : handler.tlsHandler.pending = []) {pieces : List Bytes}
    (readable : Readable pieces) : Settled base headers (handler.deliverAll pieces) := by
  induction pieces generalizing handler with
  | nil => exact settled
  | cons piece pieces ih =>
      rcases readable.of_cons with ⟨short, laterReadable⟩
      have progress := deliver_progress drained short
      apply ih (settled.deliver connSet drained short)
      · exact progress.connSet.trans connSet
      · exact progress.pending.trans drained
      · exact laterReadable

theorem completed_deliverAll {handler : Http1Handler PlainTls}
    (drained : handler.tlsHandler.pending = []) {pieces : List Bytes}
    (readable : Readable pieces) : handler.completed <+: (handler.deliverAll pieces).completed := by
  induction pieces generalizing handler with
  | nil => exact List.prefix_rfl
  | cons piece pieces ih =>
      rcases readable.of_cons with ⟨short, laterReadable⟩
      have progress := deliver_progress drained short
      apply progress.completed.trans
      exact ih (progress.pending.trans drained) laterReadable

/-! ## The outcome of a cut -/

/-- The requests that a fresh handler completes, and the bytes that it writes. -/
def outcome (pieces : List Bytes) : List HttpRequest × List Bytes :=
  ((connected.deliverAll pieces).completed, (connected.deliverAll pieces).tlsHandler.written)

end Http1Handler

namespace WellFormedRequest

open Http1Handler

/-- A way of cutting the request into reads. -/
structure Cut (request : WellFormedRequest) (pieces : List Bytes) : Prop where
  readable : Readable pieces
  flatten_eq : pieces.flatten = request.bytes

/-- The first request to complete, if any, has the fields of the lines that are not lost. -/
theorem Cut.exists_settled {request : WellFormedRequest} {pieces : List Bytes}
    (cut : request.Cut pieces) :
    ∃ lines, request.headerLines = request.lostLines pieces ++ lines ∧
      Settled connected (headersOf lines) (connected.deliverAll pieces) := by
  rcases idle_connected.exists_headersComplete cut.readable cut.flatten_eq with
    ⟨lines, next, fresh, after, linesEq, listening, requestEq, _, _, afterReadable, delivers⟩
  refine ⟨lines, linesEq, ?_⟩
  have settled := settled_of_headersComplete listening
  rw [show next.request.headers = headersOf lines by rw [requestEq]] at settled
  have progress := (headersComplete_ends next).progress
  rw [delivers]
  exact settled.deliverAll (progress.connSet.trans listening.connSet)
    (progress.pending.trans listening.drained) afterReadable

theorem Cut.outcome_eq_iff {request : WellFormedRequest} {pieces : List Bytes}
    (cut : request.Cut pieces) :
    outcome pieces = ([request.message], [request.response]) ↔ request.Lossless pieces := by
  refine ⟨?_, ?_⟩
  · intro asked
    rcases cut.exists_settled with ⟨lines, linesEq, settled⟩
    rw [lossless_iff linesEq]
    have completedEq : (connected.deliverAll pieces).completed = [request.message] :=
      congrArg Prod.fst asked
    rcases settled with ⟨nothing, _⟩ | ⟨first, later, someEq, headersEq⟩
    · rw [completedEq] at nothing
      cases nothing
    · rw [completedEq] at someEq
      cases someEq
      exact headersEq.symm
  · intro lossless
    have answered := idle_connected.deliverAll_answered cut.readable cut.flatten_eq lossless
    exact Prod.ext answered.completed answered.written

/-! ## Two cuts that disagree -/

/-- The reads bring one byte each, but for the one that brings the end of the head. -/
def singles (request : WellFormedRequest) (front tail : Bytes) : List Bytes :=
  front.map (fun byte => [byte]) ++ tail :: request.body.map (fun byte => [byte])

theorem flatten_map_singleton (bytes : Bytes) :
    (bytes.map (fun byte => [byte])).flatten = bytes := by
  rw [← List.flatMap_def, List.flatMap_singleton']

theorem cut_singles {request : WellFormedRequest} {front tail : Bytes}
    (headEq : front ++ tail = request.head) (short : tail.length ≤ tempBufferSize) :
    request.Cut (request.singles front tail) where
  readable := by
    have oneByte (bytes piece : Bytes) (member : piece ∈ bytes.map (fun byte => [byte])) :
        piece.length ≤ tempBufferSize := by
      rcases List.mem_map.mp member with ⟨byte, _, rfl⟩
      exact Nat.le_of_ble_eq_true rfl
    intro piece member
    rcases List.mem_append.mp member with inFront | inRest
    · exact oneByte front piece inFront
    · rcases List.mem_cons.mp inRest with rfl | inBody
      · exact short
      · exact oneByte request.body piece inBody
  flatten_eq := by
    rw [singles, List.flatten_append, List.flatten_cons, flatten_map_singleton,
      flatten_map_singleton, ← List.append_assoc, headEq]
    rfl

theorem lostLines_singles {request : WellFormedRequest} {lines : List HttpLine}
    {part front tail : Bytes}
    (frontEq : front = (request.line :: lines).flatMap HttpLine.encode ++ part)
    (incomplete : findCrlf part = none) (headEq : front ++ tail = request.head)
    (unfinished : tail ≠ []) : request.lostLines (request.singles front tail) = lines := by
  have tailLength := List.length_pos_of_ne_nil unfinished
  have before : readBefore request.head.length (request.singles front tail) = front := by
    rw [← headEq, List.length_append, singles, readBefore_append, flatten_map_singleton]
    · rw [flatten_map_singleton]
      omega
    · rw [flatten_map_singleton]
  have parsed := HttpLine.framing.parse_flatMap_append (request.line :: lines) part
  rw [HttpLine.framing.parse_of_split_none ((HttpLine.split_eq_none_iff part).mpr incomplete),
    List.append_nil] at parsed
  rw [lostLines, linesBefore, before, frontEq]
  change (HttpLine.framing.parse
    ((request.line :: lines).flatMap HttpLine.framing.encode ++ part)).1.tail = lines
  rw [parsed]
  rfl

/-- When all header lines are lost, the request completes without any. -/
theorem exists_completed_of_all_lost {request : WellFormedRequest} {pieces : List Bytes}
    (cut : request.Cut pieces) (allLost : request.lostLines pieces = request.headerLines) :
    ∃ first later, (outcome pieces).1 = first :: later ∧ first.headers = ∅ := by
  rcases idle_connected.exists_headersComplete cut.readable cut.flatten_eq with
    ⟨lines, next, fresh, after, linesEq, listening, requestEq, _, _, afterReadable, delivers⟩
  rw [allLost, List.self_eq_append_right] at linesEq
  have headersEq : next.request.headers = ∅ := by
    rw [requestEq, linesEq]
    rfl
  have noChunks : isChunked ∅ = false := by decide +kernel
  have noLength : contentLengthOf ∅ = some 0 := by decide +kernel
  have completes : ∃ first, next.headersComplete.2.completed = [first] ∧ first.headers = ∅ := by
    simp only [headersComplete, headersEq, noChunks, noLength, Bool.false_eq_true, if_false,
      Nat.lt_irrefl]
    rw [expectComplete_completed (by exact listening.connSet), listening.completed]
    exact ⟨_, rfl, rfl⟩
  rcases completes with ⟨first, firstEq, noFields⟩
  have drained := (headersComplete_ends next).progress.pending.trans listening.drained
  rcases completed_deliverAll drained afterReadable with ⟨later, laterEq⟩
  refine ⟨first, later, ?_, noFields⟩
  rw [outcome, delivers, ← laterEq, firstEq]
  rfl

/-- Cut so that the last header line is lost too, and so that it is not. -/
theorem exists_cuts_disagree {request : WellFormedRequest}
    (someHeader : request.headerLines ≠ []) :
    ∃ one other, request.Cut one ∧ request.Cut other ∧ outcome one ≠ outcome other := by
  rcases List.eq_nil_or_concat request.headerLines with noneLeft | ⟨lines, last, linesEq⟩
  · exact absurd noneLeft someHeader
  have allHead : (request.line :: request.headerLines).flatMap HttpLine.encode ++ [] ++ crlf =
      request.head := by
    simp [head, headLines, blank, HttpLine.encode]
  have someHead : (request.line :: lines).flatMap HttpLine.encode ++ last.1 ++ (crlf ++ crlf) =
      request.head := by
    simp [head, headLines, blank, HttpLine.encode, linesEq]
  have allCut := cut_singles allHead (Nat.le_of_ble_eq_true rfl)
  have someCut := cut_singles someHead (Nat.le_of_ble_eq_true rfl)
  refine ⟨_, _, allCut, someCut, ?_⟩
  have allLost := lostLines_singles rfl rfl allHead (List.cons_ne_nil _ _)
  have someLost := lostLines_singles rfl last.2 someHead (List.cons_ne_nil _ _)
  rcases exists_completed_of_all_lost allCut allLost with ⟨first, later, firstEq, noFields⟩
  rcases someCut.exists_settled with ⟨kept, keptEq, settled⟩
  rw [someLost, linesEq, List.concat_eq_append, List.append_cancel_left_eq] at keptEq
  intro same
  have completedEq := congrArg Prod.fst same
  rw [firstEq] at completedEq
  rcases settled with ⟨nothing, _⟩ | ⟨other, others, someEq, headersEq⟩
  · cases completedEq.trans nothing
  · cases completedEq.trans someEq
    -- the line that was kept has a field
    have member : last ∈ request.headerLines := by simp [linesEq]
    rcases (request.headers_valid last member).exists_field with ⟨key, value, parsed⟩
    have present : key ∈ headersOf kept := by
      rw [mem_headersOf_iff, ← keptEq]
      exact ⟨last, List.mem_singleton_self last, by simp [fieldName, parsed, Except.toOption]⟩
    rw [← headersEq, noFields] at present
    exact Std.ExtTreeMap.not_mem_empty present

/-- All cuts of a request have the same outcome exactly if it has no header lines; a given cut has
the outcome that the request asks for exactly if it loses no field. -/
theorem segmentation_independent_iff (request : WellFormedRequest) :
    ((∀ one other, request.Cut one → request.Cut other → outcome one = outcome other) ↔
        request.headerLines = []) ∧
      ∀ pieces, request.Cut pieces →
        (outcome pieces = ([request.message], [request.response]) ↔ request.Lossless pieces) := by
  refine ⟨⟨?_, ?_⟩, fun pieces cut => cut.outcome_eq_iff⟩
  · intro independent
    by_contra someHeader
    rcases exists_cuts_disagree someHeader with ⟨one, other, oneCut, otherCut, differ⟩
    exact differ (independent one other oneCut otherCut)
  · intro noHeaders
    have asked (pieces : List Bytes) (cut : request.Cut pieces) :
        outcome pieces = ([request.message], [request.response]) := by
      rw [cut.outcome_eq_iff]
      rcases cut.exists_settled with ⟨lines, linesEq, _⟩
      rw [noHeaders, eq_comm, List.append_eq_nil_iff] at linesEq
      intro line member
      rw [linesEq.1] at member
      cases member
    intro one other oneCut otherCut
    rw [asked one oneCut, asked other otherCut]

/-- A request with one header line and a body of one byte. -/
def postOneByte : WellFormedRequest where
  line := ⟨ascii "POST / HTTP/1.1", by decide⟩
  method := ascii "POST"
  path := ascii "/"
  headerLines := [⟨ascii "Content-Length: 1", by decide⟩]
  body := ascii "x"
  line_short := by decide
  line_parses := by decide
  headers_valid := by decide
  headers_few := by decide
  not_chunked := by decide +kernel
  announced := by decide +kernel

/-- Cut after its header line, the request completes without the header and without the body. -/
theorem segmentation_independent_fails :
    postOneByte.Cut [ascii "POST / HTTP/1.1\r\nContent-Length: 1\r\n\r\nx"] ∧
      postOneByte.Cut [ascii "POST / HTTP/1.1\r\nContent-Length: 1\r\n", ascii "\r\nx"] ∧
      outcome [ascii "POST / HTTP/1.1\r\nContent-Length: 1\r\n\r\nx"] ≠
        outcome [ascii "POST / HTTP/1.1\r\nContent-Length: 1\r\n", ascii "\r\nx"] := by
  have oneCut : postOneByte.Cut [ascii "POST / HTTP/1.1\r\nContent-Length: 1\r\n\r\nx"] :=
    ⟨by decide, by decide⟩
  have otherCut : postOneByte.Cut
      [ascii "POST / HTTP/1.1\r\nContent-Length: 1\r\n", ascii "\r\nx"] :=
    ⟨by decide, by decide⟩
  refine ⟨oneCut, otherCut, ?_⟩
  intro same
  rw [oneCut.outcome_eq_iff.mpr (by decide +kernel), eq_comm, otherCut.outcome_eq_iff] at same
  revert same
  decide +kernel

end WellFormedRequest

end HttpsServerSim
