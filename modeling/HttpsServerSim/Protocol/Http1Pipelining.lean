import HttpsServerSim.Protocol.Http1Request

/-!
# Pipelined requests

Requests that arrive one after the other in reads of whole requests. `on_read` returns
after the first request it has answered, and a read that reports `EAGAIN` returns before
the buffer is looked at. So one read is answered by one response at most, and every
request is answered exactly if no read brings two.
-/

namespace HttpsServerSim

namespace Http1Handler

/-- The bytes of each group of requests arrive in one read. -/
def reads (groups : List (List WellFormedRequest)) : List Bytes :=
  groups.map (List.flatMap WellFormedRequest.bytes)

def HoldsRequest (buffer : Buffer) : Prop :=
  ∃ (request : WellFormedRequest) (rest : Bytes), buffer.contents = request.bytes ++ rest

/-- After the reads and one that reports `EAGAIN`, every request has been answered, in order, and
no complete request is left in the buffer. -/
def AllAnswered (groups : List (List WellFormedRequest)) : Prop :=
  let handler := connected.deliverAll (reads groups ++ [[]])
  handler.tlsHandler.written = groups.flatten.map WellFormedRequest.response ∧
    ¬ HoldsRequest handler.plaintextBuffer

theorem Idle.not_holdsRequest {handler : Http1Handler PlainTls} (idle : handler.Idle) :
    ¬ HoldsRequest handler.plaintextBuffer := by
  rintro ⟨request, rest, contentsEq⟩
  rw [idle.contents, eq_comm, WellFormedRequest.bytes, List.append_assoc,
    List.append_eq_nil_iff] at contentsEq
  exact request.head_ne_nil contentsEq.1

/-- A request that arrives in one read is answered. -/
theorem Idle.deliver_bytes {base : Http1Handler PlainTls} (idle : base.Idle)
    {request : WellFormedRequest} (short : request.bytes.length ≤ tempBufferSize) :
    Answered request base (base.deliver request.bytes) := by
  have readable : Readable [request.bytes] := by
    intro piece member
    rw [List.mem_singleton.mp member]
    exact short
  have nothingBefore : request.lostLines [request.bytes] = [] := by
    have inFirst : request.head.length ≤ request.bytes.length := by
      rw [WellFormedRequest.bytes, List.length_append]
      omega
    rw [WellFormedRequest.lostLines, readBefore, if_pos inFirst, linesBefore,
      HttpLine.framing.parse_nil]
    rfl
  have lossless : request.Lossless [request.bytes] := by
    intro line member
    rw [nothingBefore] at member
    cases member
  exact idle.deliverAll_answered readable (by simp) lossless

/-- Reads that bring one request at most. -/
theorem Idle.deliverAll_reads {base : Http1Handler PlainTls} (idle : base.Idle)
    {groups : List (List WellFormedRequest)} (readable : Readable (reads groups))
    (alone : ∀ group ∈ groups, group.length ≤ 1) :
    (base.deliverAll (reads groups)).Idle ∧
      (base.deliverAll (reads groups)).tlsHandler.written =
        base.tlsHandler.written ++ groups.flatten.map WellFormedRequest.response := by
  induction groups generalizing base with
  | nil => exact ⟨idle, (List.append_nil _).symm⟩
  | cons group groups ih =>
      rcases Readable.of_cons readable with ⟨short, laterReadable⟩
      rcases List.forall_mem_cons.mp alone with ⟨one, laterAlone⟩
      cases group with
      | nil =>
          have unchanged : base.deliverAll (reads ([] :: groups)) =
              base.deliverAll (reads groups) :=
            congrArg (fun handler => handler.deliverAll (reads groups)) (deliver_nil idle.drained)
          rw [unchanged]
          exact ih idle laterReadable laterAlone
      | cons request others =>
          have noOthers : others = [] := by
            rw [← List.length_eq_zero_iff]
            rw [List.length_cons] at one
            omega
          subst noOthers
          rw [List.flatMap_singleton] at short
          have answered := idle.deliver_bytes short
          rcases ih answered.idle laterReadable laterAlone with ⟨finallyIdle, writtenEq⟩
          have delivers : base.deliverAll (reads ([request] :: groups)) =
              (base.deliver request.bytes).deliverAll (reads groups) := by
            rw [reads, List.map_cons, List.flatMap_singleton]
            rfl
          rw [delivers]
          refine ⟨finallyIdle, ?_⟩
          rw [writtenEq, answered.written, List.append_assoc]
          rfl

/-- Every read that brings something is answered by one response at most. -/
theorem length_written_reads_le {base : Http1Handler PlainTls}
    (drained : base.tlsHandler.pending = []) {groups : List (List WellFormedRequest)}
    (readable : Readable (reads groups)) :
    (base.deliverAll (reads groups)).tlsHandler.pending = [] ∧
      (base.deliverAll (reads groups)).tlsHandler.written.length ≤
        base.tlsHandler.written.length + (groups.map fun group => min group.length 1).sum := by
  induction groups generalizing base with
  | nil => exact ⟨drained, Nat.le_refl _⟩
  | cons group groups ih =>
      rcases Readable.of_cons readable with ⟨short, laterReadable⟩
      have progress := deliver_progress drained short
      have first :
          (base.deliver (group.flatMap WellFormedRequest.bytes)).tlsHandler.written.length ≤
            base.tlsHandler.written.length + min group.length 1 := by
        cases group with
        | nil =>
            rw [List.flatMap_nil, deliver_nil drained]
            exact Nat.le_add_right _ _
        | cons request others =>
            rw [List.length_cons, Nat.min_eq_right (Nat.succ_le_succ (Nat.zero_le _))]
            exact progress.written
      rcases ih (progress.pending.trans drained) laterReadable with ⟨finallyDrained, later⟩
      refine ⟨finallyDrained, ?_⟩
      rw [List.map_cons, List.sum_cons]
      exact later.trans (by omega)

/-- Groups of one request at most are those that are no longer than what is answered. -/
theorem length_le_one_of_length_flatten_le {Element : Type} {groups : List (List Element)}
    (few : groups.flatten.length ≤ (groups.map fun group => min group.length 1).sum) :
    ∀ group ∈ groups, group.length ≤ 1 := by
  have always (others : List (List Element)) :
      (others.map fun group => min group.length 1).sum ≤ others.flatten.length := by
    induction others with
    | nil => exact Nat.le_refl _
    | cons group others ih =>
        rw [List.map_cons, List.sum_cons, List.flatten_cons, List.length_append]
        omega
  induction groups with
  | nil => simp
  | cons group groups ih =>
      rw [List.map_cons, List.sum_cons, List.flatten_cons, List.length_append] at few
      have bound := always groups
      intro other member
      rcases List.mem_cons.mp member with rfl | later
      · omega
      · exact ih (by omega) other later

/-- The last read, which reports `EAGAIN`, changes nothing. -/
theorem allAnswered_iff {groups : List (List WellFormedRequest)}
    (readable : Readable (reads groups)) :
    AllAnswered groups ↔
      (connected.deliverAll (reads groups)).tlsHandler.written =
          groups.flatten.map WellFormedRequest.response ∧
        ¬ HoldsRequest (connected.deliverAll (reads groups)).plaintextBuffer := by
  rcases length_written_reads_le idle_connected.drained readable with ⟨drained, _⟩
  have lastRead : connected.deliverAll (reads groups ++ [[]]) =
      connected.deliverAll (reads groups) := by
    rw [deliverAll_append]
    exact deliver_nil drained
  simp only [AllAnswered, lastRead]

theorem alone_of_allAnswered {groups : List (List WellFormedRequest)}
    (readable : Readable (reads groups)) (answered : AllAnswered groups) :
    ∀ group ∈ groups, group.length ≤ 1 := by
  rcases length_written_reads_le idle_connected.drained readable with ⟨_, bound⟩
  rcases (allAnswered_iff readable).mp answered with ⟨writtenEq, _⟩
  apply length_le_one_of_length_flatten_le
  rw [writtenEq, List.length_map] at bound
  exact bound.trans_eq (Nat.zero_add _)

/-- Requests that arrive in reads of whole requests are all answered exactly if no read brings
two of them. -/
theorem pipelining_iff {groups : List (List WellFormedRequest)}
    (readable : Readable (reads groups)) :
    AllAnswered groups ↔ ∀ group ∈ groups, group.length ≤ 1 := by
  refine ⟨alone_of_allAnswered readable, ?_⟩
  intro alone
  rcases idle_connected.deliverAll_reads readable alone with ⟨finallyIdle, writtenEq⟩
  exact (allAnswered_iff readable).mpr ⟨writtenEq, finallyIdle.not_holdsRequest⟩

/-- A request without header lines. -/
def getRequest : WellFormedRequest where
  line := ⟨ascii "GET / HTTP/1.1", by decide⟩
  method := ascii "GET"
  path := ascii "/"
  headerLines := []
  body := []
  line_short := by decide
  line_parses := by decide
  headers_valid := by decide
  headers_few := by decide
  not_chunked := by decide +kernel
  announced := by decide +kernel

theorem pipelining_two_reads :
    Readable (reads [[getRequest], [getRequest]]) ∧ AllAnswered [[getRequest], [getRequest]] := by
  have readable : Readable (reads [[getRequest], [getRequest]]) := by decide
  exact ⟨readable, (pipelining_iff readable).mpr (by decide)⟩

/-- Of two requests in one read, the second is not answered. -/
theorem pipelining_one_read_fails :
    Readable (reads [[getRequest, getRequest]]) ∧ ¬ AllAnswered [[getRequest, getRequest]] := by
  have readable : Readable (reads [[getRequest, getRequest]]) := by decide
  refine ⟨readable, ?_⟩
  intro answered
  have alone := alone_of_allAnswered readable answered _ List.mem_cons_self
  exact absurd alone (by decide)

end Http1Handler

end HttpsServerSim
