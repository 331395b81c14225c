import HttpsServerSim.Lib.AccessLog
import HttpsServerSim.Lib.ByteMemory
import HttpsServerSim.Protocol.HttpResponses

/-!
# `build_response` and its output buffer

`build_response` as it copies into memory: a pointer to the output buffer, its size, and an
offset that each copy moves on. Memory has a byte at every address, so nothing but the bound
checks before the copies keeps them inside the buffer; every copy is logged.

Whatever is written so far is the front of the response, and a check that fails says that the
front with the next piece does not fit. So the checks together ask whether the whole response
does, as `HttpParser.buildResponse` has it.
-/

namespace HttpsServerSim

universe u

open ByteMemory

namespace ResponseMemory

open HttpParser

/-- Bytes that are copied to an address. -/
structure Store where
  address : ℕ
  bytes : Bytes
deriving DecidableEq, Repr

/-- The bytes stay between the two addresses. -/
def Store.Inside (start stop : ℕ) (copy : Store) : Prop :=
  start ≤ copy.address ∧ copy.address + copy.bytes.length ≤ stop

/-- The local variables, and memory. -/
structure Writing where
  memory : ℕ → UInt8
  offset : ℕ
  hasContentLength : Bool

/-- What the caller gets; `outLen` is the value behind its pointer `out_len`. -/
structure Returned where
  status : ProtocolStatus
  parser : HttpParser
  memory : ℕ → UInt8
  outLen : ℕ

/-- A part of the function: it goes on, or it has returned with an error and left this memory. -/
abbrev Part := LoggedRun Store (Except (ℕ → UInt8) Writing)

/-- A part and the rest after it, if it has not returned. -/
def Part.andNext (part : Part) (next : Writing → Part) : Part :=
  part.andThen fun
    | .error memory => .done (.error memory)
    | .ok state => next state

section Code

variable (out maxLen : ℕ)

/-- A bound check and the `memcpy` after it. -/
def put (bytes : Bytes) (state : Writing) : Part :=
  if maxLen < state.offset + bytes.length then .done (.error state.memory)
  else
    .access ⟨out + state.offset, bytes⟩
      (.done (.ok
        { state with
          memory := copyTo state.memory (out + state.offset) bytes
          offset := state.offset + bytes.length }))

/-- The loop over the headers. -/
def putHeaders : List (Bytes × Bytes) → Writing → Part
  | [], state => .done (.ok state)
  | (name, value) :: rest, state =>
      (put out maxLen (headerLine name value) state).andNext fun state =>
        putHeaders rest
          { state with
            hasContentLength :=
              state.hasContentLength || decide (strCaseCmp name (ascii "Content-Length") = .eq) }

def putContentLength (response : HttpResponse) (state : Writing) : Part :=
  if ¬ state.hasContentLength ∧ ¬ response.body.isEmpty then
    put out maxLen (headerLine (ascii "Content-Length") (toDecimal response.body.length)) state
  else .done (.ok state)

/-- The two bytes are stored one at a time. -/
def putBlankLine (state : Writing) : Part :=
  if maxLen < state.offset + 2 then .done (.error state.memory)
  else
    .access ⟨out + state.offset, [charCr]⟩
      (.access ⟨out + (state.offset + 1), [charLf]⟩
        (.done (.ok
          { state with
            memory := copyTo (copyTo state.memory (out + state.offset) [charCr])
              (out + (state.offset + 1)) [charLf]
            offset := state.offset + 2 })))

def putBody (response : HttpResponse) (state : Writing) : Part :=
  if ¬ response.body.isEmpty then put out maxLen response.body state else .done (.ok state)

/-- `build_response(resp, out, max_len, &outLen)`. -/
def buildResponse (parser : HttpParser) (response : HttpResponse) (memory : ℕ → UInt8)
    (outLen : ℕ) : LoggedRun Store Returned :=
  let pieces : Part :=
    ((((put out maxLen (statusLine response) ⟨memory, 0, false⟩).andNext
      (putHeaders out maxLen response.headers.toList)).andNext
      (putContentLength out maxLen response)).andNext
      (putBlankLine out maxLen)).andNext
      (putBody out maxLen response)
  pieces.andThen fun
    | .error memory =>
        .done ⟨.buffer, parser.setError .buffer "Buffer too small", memory, outLen⟩
    | .ok state => .done ⟨.ok, parser, state.memory, state.offset⟩

end Code

/-! ## What is written so far -/

section Proofs

variable {out maxLen : ℕ} {start : ℕ → UInt8}

/-- Outside of the buffer, memory is as it was. -/
def SameOutside (out maxLen : ℕ) (start memory : ℕ → UInt8) : Prop :=
  ∀ address, (address < out ∨ out + maxLen ≤ address) → memory address = start address

/-- The buffer begins with the bytes, and the offset is behind them. -/
structure Holds (out maxLen : ℕ) (start : ℕ → UInt8) (written : Bytes) (hasContentLength : Bool)
    (state : Writing) : Prop where
  offset : state.offset = written.length
  fits : written.length ≤ maxLen
  written : bytesAt state.memory out written.length = written
  outside : SameOutside out maxLen start state.memory
  hasContentLength : state.hasContentLength = hasContentLength

/-- The bytes are there, or they do not fit. -/
def Reached (out maxLen : ℕ) (start : ℕ → UInt8) (written : Bytes) (hasContentLength : Bool) :
    Except (ℕ → UInt8) Writing → Prop
  | .error memory => maxLen < written.length ∧ SameOutside out maxLen start memory
  | .ok state => Holds out maxLen start written hasContentLength state

/-- A part that ends with the bytes in the buffer, or with the error that they do not fit, and
copies nothing outside of the buffer. -/
def Writes (out maxLen : ℕ) (start : ℕ → UInt8) (written : Bytes) (hasContentLength : Bool)
    (part : Part) : Prop :=
  part.Ends (Store.Inside out (out + maxLen)) (Reached out maxLen start written hasContentLength)

theorem Writes.andNext {part : Part} {next : Writing → Part} {before more : Bytes}
    {flag nextFlag : Bool} (writes : Writes out maxLen start before flag part)
    (goesOn : ∀ state, Holds out maxLen start before flag state →
      Writes out maxLen start (before ++ more) nextFlag (next state)) :
    Writes out maxLen start (before ++ more) nextFlag (part.andNext next) := by
  apply LoggedRun.Ends.andThen writes
  rintro (memory | state) reached
  · apply LoggedRun.Ends.done
    refine ⟨?_, reached.2⟩
    rw [List.length_append]
    exact Nat.lt_add_right _ reached.1
  · exact goesOn state reached

/-- Nothing is written. -/
theorem Holds.writes_done {written : Bytes} {flag : Bool} {state : Writing}
    (holds : Holds out maxLen start written flag state) :
    Writes out maxLen start written flag (.done (.ok state)) :=
  .done holds

theorem SameOutside.copyTo {memory : ℕ → UInt8} (same : SameOutside out maxLen start memory)
    {offset : ℕ} {bytes : Bytes} (fits : offset + bytes.length ≤ maxLen) :
    SameOutside out maxLen start (copyTo memory (out + offset) bytes) := by
  intro address outside
  have unchanged : ByteMemory.copyTo memory (out + offset) bytes address = memory address := by
    rcases outside with below | above
    · exact copyTo_of_before bytes (by omega)
    · exact copyTo_of_after (by omega)
  exact unchanged.trans (same address outside)

theorem Holds.copyTo {written bytes : Bytes} {flag : Bool} {state : Writing}
    (holds : Holds out maxLen start written flag state)
    (fits : state.offset + bytes.length ≤ maxLen) :
    Holds out maxLen start (written ++ bytes) flag
      { state with
        memory := copyTo state.memory (out + state.offset) bytes
        offset := state.offset + bytes.length } where
  offset := by rw [holds.offset, List.length_append]
  fits := by
    rw [List.length_append, ← holds.offset]
    exact fits
  written := by
    rw [holds.offset]
    exact bytesAt_copyTo_append holds.written bytes
  outside := holds.outside.copyTo fits
  hasContentLength := holds.hasContentLength

theorem put_writes {written : Bytes} {flag : Bool} {state : Writing}
    (holds : Holds out maxLen start written flag state) (bytes : Bytes) :
    Writes out maxLen start (written ++ bytes) flag (put out maxLen bytes state) := by
  unfold put
  split_ifs with tooLong
  · apply LoggedRun.Ends.done
    refine ⟨?_, holds.outside⟩
    rw [List.length_append, ← holds.offset]
    exact tooLong
  · have fits : state.offset + bytes.length ≤ maxLen := Nat.not_lt.mp tooLong
    apply LoggedRun.Ends.access
    · constructor
      · exact Nat.le_add_right _ _
      · simp only
        omega
    · exact .done (holds.copyTo fits)

/-! ## The parts of the function -/

theorem putHeaders_writes (fields : List (Bytes × Bytes)) {written : Bytes} {flag : Bool}
    {state : Writing} (holds : Holds out maxLen start written flag state) :
    Writes out maxLen start
      (written ++ (fields.map fun field => headerLine field.1 field.2).flatten)
      (flag || fields.any fun field => strCaseCmp field.1 (ascii "Content-Length") = .eq)
      (putHeaders out maxLen fields state) := by
  induction fields generalizing written flag state with
  | nil =>
      simp only [List.map_nil, List.flatten_nil, List.append_nil, List.any_nil, Bool.or_false]
      exact holds.writes_done
  | cons field fields ih =>
      rcases field with ⟨name, value⟩
      rw [List.map_cons, List.flatten_cons, ← List.append_assoc, List.any_cons, ← Bool.or_assoc]
      apply (put_writes holds (headerLine name value)).andNext
      intro state holds
      apply ih
      exact ⟨holds.offset, holds.fits, holds.written, holds.outside,
        congrArg (· || _) holds.hasContentLength⟩

theorem putContentLength_writes (response : HttpResponse) {written : Bytes} {flag : Bool}
    {state : Writing} (holds : Holds out maxLen start written flag state) :
    Writes out maxLen start
      (written ++ ((if ¬ flag ∧ ¬ response.body.isEmpty then
        [headerLine (ascii "Content-Length") (toDecimal response.body.length)]
        else []) : List Bytes).flatten) flag
      (putContentLength out maxLen response state) := by
  rw [putContentLength, holds.hasContentLength]
  split_ifs
  · rw [List.flatten_singleton]
    exact put_writes holds _
  · rw [List.flatten_nil, List.append_nil]
    exact holds.writes_done

/-- Two stores of a byte are one store of two. -/
theorem putBlankLine_writes {written : Bytes} {flag : Bool} {state : Writing}
    (holds : Holds out maxLen start written flag state) :
    Writes out maxLen start (written ++ crlf) flag (putBlankLine out maxLen state) := by
  unfold putBlankLine
  split_ifs with tooLong
  · apply LoggedRun.Ends.done
    refine ⟨?_, holds.outside⟩
    rw [List.length_append, ← holds.offset]
    exact tooLong
  · have crFits : state.offset + [charCr].length ≤ maxLen := by
      rw [List.length_singleton]
      omega
    have lfFits : state.offset + [charCr].length + [charLf].length ≤ maxLen := by
      rw [List.length_singleton, List.length_singleton]
      omega
    have both := (holds.copyTo crFits).copyTo lfFits
    rw [List.append_assoc] at both
    apply LoggedRun.Ends.access
    · constructor
      · exact Nat.le_add_right _ _
      · simp only [List.length_singleton]
        omega
    · apply LoggedRun.Ends.access
      · constructor
        · exact Nat.le_add_right _ _
        · simp only [List.length_singleton]
          omega
      · exact .done both

theorem putBody_writes (response : HttpResponse) {written : Bytes} {flag : Bool}
    {state : Writing} (holds : Holds out maxLen start written flag state) :
    Writes out maxLen start
      (written ++ ((if response.body.isEmpty then [] else [response.body]) :
        List Bytes).flatten) flag
      (putBody out maxLen response state) := by
  by_cases empty : response.body.isEmpty = true
  · simp only [putBody, empty, not_true_eq_false, if_true, if_false, List.flatten_nil,
      List.append_nil]
    exact holds.writes_done
  · rw [putBody, if_pos empty, if_neg empty, List.flatten_singleton]
    exact put_writes holds response.body

/-! ## The whole function -/

theorem buildResponse_ends (out maxLen : ℕ) (parser : HttpParser) (response : HttpResponse)
    (memory : ℕ → UInt8) (outLen : ℕ) :
    (buildResponse out maxLen parser response memory outLen).Ends
      (Store.Inside out (out + maxLen)) fun returned =>
        SameOutside out maxLen memory returned.memory ∧
          if (responseBytes response).length ≤ maxLen then
            returned.status = .ok ∧ returned.parser = parser ∧
              returned.outLen = (responseBytes response).length ∧
              bytesAt returned.memory out returned.outLen = responseBytes response
          else
            returned.status = .buffer ∧ returned.outLen = outLen ∧
              returned.parser = parser.setError .buffer "Buffer too small" := by
  have nothing : Holds out maxLen memory [] false ⟨memory, 0, false⟩ :=
    ⟨rfl, Nat.zero_le _, rfl, fun _ _ => rfl, rfl⟩
  have status := put_writes nothing (statusLine response)
  have headers := status.andNext fun _ holds => putHeaders_writes response.headers.toList holds
  rw [Bool.false_or] at headers
  change Writes _ _ _ _ (hasContentLength response.headers) _ at headers
  have contentLength := headers.andNext fun _ holds => putContentLength_writes response holds
  have blankLine := contentLength.andNext fun _ holds => putBlankLine_writes holds
  have pieces := blankLine.andNext fun _ holds => putBody_writes response holds
  have whole : [] ++ statusLine response ++
      (response.headers.toList.map fun field => headerLine field.1 field.2).flatten ++
      ((if ¬ hasContentLength response.headers ∧ ¬ response.body.isEmpty then
        [headerLine (ascii "Content-Length") (toDecimal response.body.length)]
        else []) : List Bytes).flatten ++ crlf ++
      ((if response.body.isEmpty then [] else [response.body]) : List Bytes).flatten =
        responseBytes response := by
    simp only [responseBytes, responseParts, List.flatten_append, List.flatten_singleton,
      List.nil_append]
  rw [whole] at pieces
  apply LoggedRun.Ends.andThen pieces
  rintro (memory | state) reached
  · have tooLong : ¬ (responseBytes response).length ≤ maxLen := Nat.not_le.mpr reached.1
    apply LoggedRun.Ends.done
    refine ⟨reached.2, ?_⟩
    rw [if_neg tooLong]
    exact ⟨rfl, rfl, rfl⟩
  · apply LoggedRun.Ends.done
    refine ⟨reached.outside, ?_⟩
    rw [if_pos reached.fits]
    refine ⟨rfl, rfl, reached.offset, ?_⟩
    rw [reached.offset]
    exact reached.written

/-- The function on memory returns what `HttpParser.buildResponse` does. -/
theorem buildResponse_agrees (out maxLen : ℕ) (parser : HttpParser) (response : HttpResponse)
    (memory : ℕ → UInt8) (outLen : ℕ) :
    ∃ copies returned,
      buildResponse out maxLen parser response memory outLen = some (copies, returned) ∧
      parser.buildResponse response maxLen =
        (if returned.status = .ok then some (bytesAt returned.memory out returned.outLen) else none,
          returned.parser) := by
  rcases buildResponse_ends out maxLen parser response memory outLen with
    ⟨copies, returned, ran, _, _, result⟩
  refine ⟨copies, returned, ran, ?_⟩
  by_cases fits : (responseBytes response).length ≤ maxLen
  · rw [if_pos fits] at result
    rcases result with ⟨status, parser_eq, _, written⟩
    rw [buildResponse_eq, if_pos fits, if_pos status, parser_eq, written]
  · rw [if_neg fits] at result
    rcases result with ⟨status, _, parser_eq⟩
    have failed : returned.status ≠ .ok := by
      rw [status]
      decide
    rw [buildResponse_eq, if_neg fits, if_neg failed, parser_eq]

/-- `build_response` succeeds exactly if the whole response fits, has then written it and its
length, and copies nothing to anywhere outside of the buffer. And for a status text of at
most a thousand bytes the first buffer of `generate_response` is large enough, so that it writes
the response out as it is. -/
theorem buildResponse_exact {Tls : Type u} [TlsLayer Tls] (response : HttpResponse) :
    (∀ (out maxLen : ℕ) (parser : HttpParser) (memory : ℕ → UInt8) (outLen : ℕ),
      ∃ copies returned,
        buildResponse out maxLen parser response memory outLen = some (copies, returned) ∧
        (returned.status = .ok ↔ (responseBytes response).length ≤ maxLen) ∧
        (returned.status = .ok → returned.outLen = (responseBytes response).length ∧
          bytesAt returned.memory out returned.outLen = responseBytes response) ∧
        (∀ copy ∈ copies, out ≤ copy.address ∧
          copy.address + copy.bytes.length ≤ out + maxLen) ∧
        ∀ address, (address < out ∨ out + maxLen ≤ address) →
          returned.memory address = memory address) ∧
      (response.statusText.length ≤ 1000 → response.body.length < 2 ^ 64 →
        ∀ handler : Http1Handler Tls, handler.response = response →
          handler.parser.buildResponse response (Http1Handler.estimatedSize response) =
              (some (responseBytes response), handler.parser) ∧
            handler.generateResponse =
              ((TlsLayer.write handler.tlsHandler (responseBytes response)).1,
                { handler with
                  tlsHandler :=
                    (TlsLayer.write handler.tlsHandler (responseBytes response)).2.2 })) := by
  constructor
  · intro out maxLen parser memory outLen
    rcases buildResponse_ends out maxLen parser response memory outLen with
      ⟨copies, returned, ran, inside, outside, result⟩
    refine ⟨copies, returned, ran, ?_, ?_, inside, outside⟩
    · split_ifs at result with fits
      · exact iff_of_true result.1 fits
      · rw [result.1]
        exact iff_of_false (by decide) fits
    · intro succeeded
      split_ifs at result with fits
      · exact result.2.2
      · rw [result.1] at succeeded
        cases succeeded
  · intro text sized handler held
    have fits := Http1Handler.responseBytes_fits text sized
    refine ⟨?_, ?_⟩
    · rw [buildResponse_eq, if_pos fits]
    · rw [← held] at fits ⊢
      exact Http1Handler.generateResponse_eq fits

end Proofs

end ResponseMemory

end HttpsServerSim
