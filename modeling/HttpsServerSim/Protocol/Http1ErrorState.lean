import HttpsServerSim.Lib.Transducer
import HttpsServerSim.Protocol.Http1Observed

/-!
# The error state of the HTTP/1.1 handler

After a parse error the handler has answered `400 Bad Request` and is in state `ERROR`. It
stays there, and only the connection's being closed by someone else keeps it from being
called again. `errorOnce_iff` tells for which histories the branch of `on_read` for this
state is not executed and the error is answered only once.
-/

namespace HttpsServerSim

universe u

open HttpParser

/-- The start of a response with status 400. -/
def isBadRequest (out : Bytes) : Bool := (ascii "HTTP/1.1 400").isPrefixOf out

theorem isBadRequest_of_status {response : HttpResponse}
    (status : response.statusCode = 400 ∧ response.statusText = ascii "Bad Request") :
    isBadRequest (responseBytes response) = true := by
  have line : ascii "HTTP/1.1 400" <+: statusLine response := by
    rw [statusLine, status.1, status.2]
    decide
  rw [isBadRequest, List.isPrefixOf_iff_prefix]
  exact line.trans (List.prefix_append _ _)

theorem isBadRequest_of_ok {response : HttpResponse}
    (status : response.statusCode = 200 ∧ response.statusText = ascii "OK") :
    isBadRequest (responseBytes response) = false := by
  rw [isBadRequest, ← Bool.not_eq_true, List.isPrefixOf_iff_prefix]
  intro starts
  have line : statusLine response <+: responseBytes response := List.prefix_append _ _
  rw [statusLine, status.1, status.2] at line
  exact absurd (List.prefix_of_prefix_length_le starts line (by decide)) (by decide)

namespace Http1Handler

variable {Tls : Type u} [TlsLayer Tls]

/-- The handler after a list of calls. -/
def session (handler : Http1Handler (Observed Tls)) (calls : List SessionCall) :
    Http1Handler (Observed Tls) :=
  calls.foldl onSessionCall handler

theorem session_concat (handler : Http1Handler (Observed Tls)) (calls : List SessionCall)
    (call : SessionCall) :
    handler.session (calls ++ [call]) = (handler.session calls).onSessionCall call :=
  List.foldl_concat ..

theorem session_append (handler : Http1Handler (Observed Tls)) (first second : List SessionCall) :
    handler.session (first ++ second) = (handler.session first).session second :=
  List.foldl_append ..

/-- The call executes the branch of `on_read` for the state `ERROR`. -/
def ErrorBranch (handler : Http1Handler (Observed Tls)) (call : SessionCall) : Prop :=
  call = .onRead ∧ (TlsLayer.read handler.tlsHandler tempBufferSize).1 = .ok ∧
    handler.state = .error

/-- The responses with status 400 that were handed to the TLS layer so far, whether or not it took
them. -/
def badRequests (handler : Http1Handler (Observed Tls)) : ℕ :=
  handler.tlsHandler.sent.countP isBadRequest

/-- In state `ERROR`, nothing is called but `on_write`, or `on_read` when there is nothing to
read. -/
def QuietCall (handler : Http1Handler (Observed Tls)) (call : SessionCall) : Prop :=
  handler.state = .error →
    call = .onWrite ∨
      (call = .onRead ∧ (TlsLayer.read handler.tlsHandler tempBufferSize).1 = .eagain)

/-- Whether the handler is in state `ERROR`, as a number. -/
def failures (handler : Http1Handler (Observed Tls)) : ℕ := if handler.state = .error then 1 else 0

/-! ## What one call adds -/

section Counting

omit [TlsLayer Tls]

theorem badRequests_of_sent {before after : Http1Handler (Observed Tls)} {out : Bytes}
    (sent : after.tlsHandler.sent = before.tlsHandler.sent ++ [out]) :
    after.badRequests = before.badRequests + if isBadRequest out then 1 else 0 := by
  rw [badRequests, badRequests, sent, List.countP_append, List.countP_singleton]

theorem badRequests_of_same {before after : Http1Handler (Observed Tls)}
    (sent : after.tlsHandler.sent = before.tlsHandler.sent) :
    after.badRequests = before.badRequests := by
  rw [badRequests, badRequests, sent]

theorem failures_le_one (handler : Http1Handler (Observed Tls)) : handler.failures ≤ 1 := by
  rw [failures]
  split_ifs
  · exact Nat.le_refl 1
  · exact Nat.zero_le 1

theorem failures_of_error {handler : Http1Handler (Observed Tls)}
    (failed : handler.state = .error) : handler.failures = 1 := by
  rw [failures, if_pos failed]

theorem failures_of_serving {handler : Http1Handler (Observed Tls)}
    (serving : handler.state ≠ .error) : handler.failures = 0 := by
  rw [failures, if_neg serving]

theorem failures_congr {before after : Http1Handler (Observed Tls)}
    (state : after.state = .error ↔ before.state = .error) :
    after.failures = before.failures := by
  simp only [failures, state]

theorem badRequests_le_of_read {before after : Http1Handler (Observed Tls)}
    (outcome : ReadOutcome before after) : before.badRequests ≤ after.badRequests := by
  cases outcome with
  | waits sent response state => exact (badRequests_of_same sent).ge
  | refuses sent response state =>
      rw [badRequests_of_sent sent]
      exact Nat.le_add_right _ _
  | replies body sent response alive =>
      rw [badRequests_of_sent sent]
      exact Nat.le_add_right _ _

/-- A read that refuses the request is counted once in the responses. From the state `ERROR` it does
not change the state. -/
theorem badRequests_of_read {before after : Http1Handler (Observed Tls)}
    (outcome : ReadOutcome before after) :
    before.badRequests + after.failures ≤ after.badRequests + before.failures ∧
      (before.state ≠ .error → after.badRequests = before.badRequests + after.failures) := by
  cases outcome with
  | waits sent response state =>
      have same := badRequests_of_same sent
      have still := failures_congr state
      refine ⟨by omega, ?_⟩
      intro serving
      rw [still, failures_of_serving serving, same, Nat.add_zero]
  | refuses sent response state =>
      have added := badRequests_of_sent sent
      have failed := failures_of_error state
      rw [if_pos (isBadRequest_of_status ⟨rfl, rfl⟩)] at added
      refine ⟨by omega, ?_⟩
      intro _
      rw [added, failed]
  | replies body sent response alive =>
      have added := badRequests_of_sent sent
      have serving := failures_of_serving alive
      have fine : isBadRequest (responseBytes (fillResponse before.response body)) = false :=
        isBadRequest_of_ok (fillResponse_status _ _)
      rw [fine] at added
      simp only [Bool.false_eq_true, if_false, Nat.add_zero] at added
      refine ⟨by omega, ?_⟩
      intro _
      rw [added, serving, Nat.add_zero]

end Counting

/-- `send_response` in state `ERROR` repeats the error. -/
theorem badRequests_sentBody {handler : Http1Handler (Observed Tls)} (sound : handler.Sound)
    (body : Bytes) :
    (handler.sentBody body).badRequests = handler.badRequests + handler.failures := by
  have added := badRequests_of_sent (rfl : (handler.sentBody body).tlsHandler.sent = _)
  by_cases failed : handler.state = .error
  · have bad : isBadRequest (responseBytes (handler.response.setBody body)) = true :=
      isBadRequest_of_status (sound.failed failed)
    rw [added, bad, if_pos rfl, failures_of_error failed]
  · have fine : isBadRequest (responseBytes (handler.response.setBody body)) = false :=
      isBadRequest_of_ok (sound.serving failed)
    rw [added, fine, failures_of_serving failed]
    rfl

/-- When there is nothing to read, `on_read` does nothing. -/
theorem onRead_of_eagain {handler : Http1Handler (Observed Tls)}
    (nothing : (TlsLayer.read handler.tlsHandler tempBufferSize).1 = .eagain) :
    handler.onRead.2 =
      { handler with tlsHandler := (TlsLayer.read handler.tlsHandler tempBufferSize).2.2 } := by
  simp only [onRead, nothing, if_true]

/-- Any other read in state `ERROR` repeats the error. -/
theorem badRequests_of_onRead {handler : Http1Handler (Observed Tls)} (sound : handler.Sound)
    (failed : handler.state = .error)
    (something : (TlsLayer.read handler.tlsHandler tempBufferSize).1 ≠ .eagain) :
    handler.onRead.2.badRequests = handler.badRequests + 1 := by
  have repeats {middle : Http1Handler (Observed Tls)}
      (response : middle.response = handler.response)
      (tls : middle.tlsHandler.sent = handler.tlsHandler.sent) :
      middle.reject.2.badRequests = handler.badRequests + 1 := by
    have short : middle.response.body.length < 2 ^ 32 := by
      rw [response]
      exact sound.short
    have bad : isBadRequest (responseBytes (toBadRequest middle.response)) = true :=
      isBadRequest_of_status ⟨rfl, rfl⟩
    have sent : middle.reject.2.tlsHandler.sent =
        middle.tlsHandler.sent ++ [responseBytes (toBadRequest middle.response)] := by
      rw [reject_eq short]
      rfl
    rw [badRequests_of_sent sent, if_pos bad, badRequests_of_same tls]
  simp only [onRead, something, if_false]
  split_ifs
  · exact repeats rfl rfl
  · rw [parse, failed]
    exact repeats rfl rfl
  · rw [parse, failed]
    exact repeats rfl rfl

/-- What every call does to the count. -/
theorem Sound.badRequests_onSessionCall {handler : Http1Handler (Observed Tls)}
    (sound : handler.Sound) (call : SessionCall) :
    handler.badRequests ≤ (handler.onSessionCall call).badRequests ∧
      handler.badRequests + (handler.onSessionCall call).failures ≤
        (handler.onSessionCall call).badRequests + handler.failures := by
  cases sound.callOutcome call with
  | read outcome => exact ⟨badRequests_le_of_read outcome, (badRequests_of_read outcome).1⟩
  | sends body short after_eq =>
      have sent := badRequests_sentBody sound body
      have still : (handler.sentBody body).failures = handler.failures := failures_congr Iff.rfl
      rw [after_eq]
      omega

/-- A quiet call answers an error that it meets, and no other. -/
theorem Sound.badRequests_of_quiet {handler : Http1Handler (Observed Tls)} (sound : handler.Sound)
    {call : SessionCall} (quiet : handler.QuietCall call) :
    (handler.onSessionCall call).badRequests + handler.failures =
      handler.badRequests + (handler.onSessionCall call).failures := by
  by_cases failed : handler.state = .error
  · rcases quiet failed with rfl | ⟨rfl, nothing⟩
    · rfl
    · have same : (handler.onSessionCall .onRead).badRequests = handler.badRequests := by
        rw [Http1Handler.onSessionCall, onRead_of_eagain nothing]
        rfl
      have still : (handler.onSessionCall .onRead).failures = handler.failures := by
        rw [Http1Handler.onSessionCall, onRead_of_eagain nothing]
        rfl
      rw [same, still]
  · have none := failures_of_serving failed
    cases sound.callOutcome call with
    | read outcome =>
        have counted := (badRequests_of_read outcome).2 failed
        omega
    | sends body short after_eq =>
        have sent := badRequests_sentBody sound body
        have still : (handler.sentBody body).failures = handler.failures := failures_congr Iff.rfl
        rw [after_eq]
        omega

/-- A call in state `ERROR` that is not quiet repeats the error, whether or not it executes the
branch. -/
theorem Sound.badRequests_of_noisy {handler : Http1Handler (Observed Tls)} (sound : handler.Sound)
    {call : SessionCall} (noisy : ¬ handler.QuietCall call) :
    handler.state = .error ∧
      (handler.onSessionCall call).badRequests = handler.badRequests + 1 := by
  rw [QuietCall, Classical.not_imp] at noisy
  rcases noisy with ⟨failed, other⟩
  have once := failures_of_error failed
  refine ⟨failed, ?_⟩
  cases call with
  | onRead =>
      apply badRequests_of_onRead sound failed
      intro nothing
      exact other (Or.inr ⟨rfl, nothing⟩)
  | onWrite => exact absurd (Or.inl rfl) other
  | sendResponse data =>
      have sent : handler.onSessionCall (.sendResponse data) = handler.sentBody data.1 :=
        sound.generate_body data.2
      rw [sent, badRequests_sentBody sound, once]
  | sendResponseNull len =>
      have short : (vectorResize handler.response.body len.toNat).length < 2 ^ 32 := by
        rw [length_vectorResize]
        exact len.toNat_lt
      have sent : handler.onSessionCall (.sendResponseNull len) =
          handler.sentBody (vectorResize handler.response.body len.toNat) :=
        sound.generate_body short
      rw [sent, badRequests_sentBody sound, once]

/-! ## What a session adds -/

theorem Sound.session {handler : Http1Handler (Observed Tls)} (sound : handler.Sound)
    (calls : List SessionCall) : (handler.session calls).Sound := by
  induction calls using List.reverseRecOn with
  | nil => exact sound
  | append_singleton calls call ih =>
      rw [session_concat]
      exact ih.onSessionCall call

theorem Sound.badRequests_session {handler : Http1Handler (Observed Tls)} (sound : handler.Sound)
    (calls : List SessionCall) :
    handler.badRequests ≤ (handler.session calls).badRequests ∧
      handler.badRequests + (handler.session calls).failures ≤
        (handler.session calls).badRequests + handler.failures := by
  induction calls using List.reverseRecOn with
  | nil => exact ⟨Nat.le_refl _, Nat.le_refl _⟩
  | append_singleton calls call ih =>
      have step := (sound.session calls).badRequests_onSessionCall call
      rw [session_concat]
      omega

theorem Sound.badRequests_quiet_session {handler : Http1Handler (Observed Tls)}
    (sound : handler.Sound) {calls : List SessionCall}
    (quiet : EveryStep (fun before call => (handler.session before).QuietCall call) calls) :
    (handler.session calls).badRequests + handler.failures =
      handler.badRequests + (handler.session calls).failures := by
  induction calls using List.reverseRecOn with
  | nil => rfl
  | append_singleton calls call ih =>
      rcases everyStep_concat.mp quiet with ⟨earlier, last⟩
      have before := ih earlier
      have step := (sound.session calls).badRequests_of_quiet last
      rw [session_concat]
      omega

theorem init_eq_of_ok {fresh : Http1Handler (Observed Tls)} {connSet : Bool}
    (ok : (fresh.init connSet).1 = .ok) :
    (fresh.init connSet).2.Sound ∧ (fresh.init connSet).2.state = .expectRequestLine := by
  simp only [init] at ok ⊢
  split_ifs at ok ⊢ with unready
  · exact absurd ok unready
  · exact ⟨sound_of_new rfl Http1ParseState.noConfusion, rfl⟩

/-- Between `init` and `close`, the branch for the state `ERROR` is never executed and at most one
response with status 400 is written, if and only if from the error on nothing is called but
`on_write` and reads that find nothing. -/
theorem errorOnce_iff {fresh : Http1Handler (Observed Tls)} {connSet : Bool}
    (ok : (fresh.init connSet).1 = .ok) (calls : List SessionCall) :
    (EveryStep (fun before call =>
          ¬ ((fresh.init connSet).2.session before).ErrorBranch call) calls ∧
        ((fresh.init connSet).2.session calls).badRequests ≤
          (fresh.init connSet).2.badRequests + 1) ↔
      EveryStep (fun before call => ((fresh.init connSet).2.session before).QuietCall call)
        calls := by
  rcases init_eq_of_ok ok with ⟨sound, state⟩
  generalize (fresh.init connSet).2 = start at sound state ⊢
  have none : start.failures = 0 := by
    apply failures_of_serving
    rw [state]
    exact Http1ParseState.noConfusion
  constructor
  · rintro ⟨_, atMost⟩ before call after split
    by_contra noisy
    rcases (sound.session before).badRequests_of_noisy noisy with ⟨failed, repeated⟩
    have first := (sound.badRequests_session before).2
    have later := ((sound.session (before ++ [call])).badRequests_session after).1
    have once := failures_of_error failed
    rw [← session_append, List.append_assoc, List.singleton_append, ← split,
      session_concat] at later
    omega
  · intro quiet
    refine ⟨?_, ?_⟩
    · rintro before call after split ⟨rfl, found, failed⟩
      rcases quiet before .onRead after split failed with other | ⟨_, nothing⟩
      · cases other
      · rw [found] at nothing
        cases nothing
    · have counted := sound.badRequests_quiet_session quiet
      have atMost := failures_le_one (start.session calls)
      omega

/-! ## A peer whose first line is empty -/

/-- An empty line and later another byte. -/
def emptyLine : Http1Handler (Observed ReadScript) :=
  construct { inner := { reads := [(.ok, crlf), (.ok, ascii "x")] } }

theorem errorOnce_iff_emptyLine :
    (EveryStep (fun before call =>
          ¬ ((emptyLine.init true).2.session before).ErrorBranch call) [.onRead, .onWrite] ∧
        ((emptyLine.init true).2.session [.onRead, .onWrite]).badRequests ≤
          (emptyLine.init true).2.badRequests + 1) ↔
      EveryStep (fun before call => ((emptyLine.init true).2.session before).QuietCall call)
        [.onRead, .onWrite] :=
  errorOnce_iff (by decide) [.onRead, .onWrite]

/-- The next read event executes the branch, and repeats the error. -/
theorem error_twice :
    ¬ EveryStep (fun before call =>
        ¬ ((emptyLine.init true).2.session before).ErrorBranch call) [.onRead, .onRead] ∧
      ¬ ((emptyLine.init true).2.session [.onRead, .onRead]).badRequests ≤
        (emptyLine.init true).2.badRequests + 1 := by
  refine ⟨?_, ?_⟩
  · intro unreached
    apply unreached [.onRead] .onRead [] rfl
    refine ⟨rfl, ?_, ?_⟩
    · decide +kernel
    · decide +kernel
  · decide +kernel

end Http1Handler

end HttpsServerSim
