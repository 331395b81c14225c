import HttpsServerSim.Lib.PrefixCode
import HttpsServerSim.Protocol.Http1Observed
import HttpsServerSim.Protocol.HttpLetterCase
import HttpsServerSim.Protocol.HttpNumbers

/-!
# Where a response ends

A client takes a response to be a status line, header lines, an empty line, and a body whose
length the header lines tell. Responses so written are a prefix code, so that a connection's
output can be taken apart in one way only. What the handler writes over any history is such
a list of responses; those without a body do not tell their length.
-/

namespace HttpsServerSim

universe u

open HttpParser

/-- A response as a client takes it apart. -/
structure ClientResponse where
  status : HttpLine
  lines : List HttpLine
  body : Bytes

namespace ClientResponse

def bytes (response : ClientResponse) : Bytes :=
  response.status.encode ++
    ((response.lines.map HttpLine.encode).flatten ++ crlf ++ response.body)

/-- The value of a header line, if its name is `Content-Length` in any letter case. -/
def lengthOfLine (line : HttpLine) : Option Bytes :=
  if lower (trim (line.1.takeWhile isNotColon)) = lower contentLengthName then
    some (trim ((line.1.dropWhile isNotColon).drop 1))
  else none

/-- What the header lines have to say on the length of the body. -/
def contentLengths (lines : List HttpLine) : List Bytes := lines.filterMap lengthOfLine

/-- The body is as long as the only field for it says. -/
def LengthGiven (lines : List HttpLine) (body : Bytes) : Prop :=
  ∃ number, contentLengths lines = [number] ∧ IsDecimal number body.length

/-- The body is as long as the only field for it says, or without one there is none. -/
def LengthKnown (lines : List HttpLine) (body : Bytes) : Prop :=
  (contentLengths lines = [] ∧ body = []) ∨ LengthGiven lines body

structure WellFormed (response : ClientResponse) : Prop where
  status : ascii "HTTP/1.1 " <+: response.status.1
  lines : ∀ line ∈ response.lines, charColon ∈ line.1
  length : LengthKnown response.lines response.body

/-! ## Taking responses apart -/

theorem LengthKnown.length_eq {lines : List HttpLine} {body other : Bytes}
    (known : LengthKnown lines body) (knownOther : LengthKnown lines other) :
    body.length = other.length := by
  rcases known with ⟨none, rfl⟩ | ⟨number, single, decimal⟩
  · rcases knownOther with ⟨_, rfl⟩ | ⟨number, single, _⟩
    · rfl
    · rw [none] at single
      cases single
  · rcases knownOther with ⟨none, _⟩ | ⟨otherNumber, otherSingle, otherDecimal⟩
    · rw [none] at single
      cases single
    · rw [single, List.singleton_inj] at otherSingle
      rw [← otherSingle] at otherDecimal
      exact decimal.unique otherDecimal

def lineCode : PrefixCode HttpLine UInt8 := .ofFraming HttpLine.framing

/-- Header lines up to the empty line. -/
def headCode : PrefixCode (List HttpLine) UInt8 :=
  lineCode.terminated ⟨[], HttpParser.findCrlf_nil⟩ trivial

/-- The status line is followed by header lines, and these by as long a body as they tell. -/
def code : PrefixCode (HttpLine × List HttpLine × Bytes) UInt8 :=
  lineCode.bind fun _ => headCode.bind fun lines =>
    .block (LengthKnown lines) fun _ _ known knownOther => known.length_eq knownOther

def parts (response : ClientResponse) : HttpLine × List HttpLine × Bytes :=
  (response.status, response.lines, response.body)

theorem parts_injective : Function.Injective parts := by
  rintro ⟨status, lines, body⟩ ⟨otherStatus, otherLines, otherBody⟩ same
  cases same
  rfl

theorem WellFormed.valid {response : ClientResponse} (wellFormed : response.WellFormed) :
    code.Valid response.parts := by
  refine ⟨trivial, ?_, wellFormed.length⟩
  intro line member
  refine ⟨trivial, ?_⟩
  rintro rfl
  exact List.not_mem_nil (wellFormed.lines _ member)

theorem code_ne_nil (word : HttpLine × List HttpLine × Bytes) : code.encode word ≠ [] := by
  intro nothing
  rcases List.append_eq_nil_iff.mp nothing with ⟨status, _⟩
  rcases List.append_eq_nil_iff.mp status with ⟨_, ending⟩
  cases ending

/-- A client can take an output apart in at most one way. -/
theorem eq_of_flatten_eq {responses others : List ClientResponse}
    (wellFormed : ∀ response ∈ responses, response.WellFormed)
    (othersWellFormed : ∀ response ∈ others, response.WellFormed)
    (same : (responses.map bytes).flatten = (others.map bytes).flatten) : responses = others := by
  have valid {list : List ClientResponse} (all : ∀ response ∈ list, response.WellFormed) :
      ∀ word ∈ list.map parts, code.Valid word := by
    intro word member
    rcases List.mem_map.mp member with ⟨response, inList, rfl⟩
    exact (all response inList).valid
  have encoded (list : List ClientResponse) :
      code.encodeAll (list.map parts) = (list.map bytes).flatten := by
    rw [PrefixCode.encodeAll, List.map_map]
    rfl
  have words : responses.map parts = others.map parts := by
    apply code.encodeAll_injective (fun word _ => code_ne_nil word) (valid wellFormed)
      (valid othersWellFormed)
    rw [encoded, encoded, same]
  exact List.map_injective_iff.mpr parts_injective words

end ClientResponse

/-! ## The responses of the handler -/

namespace HttpParser

/-- The responses that are written: by their status line and by their own header fields. -/
structure IsAnswer (response : HttpResponse) : Prop where
  status : response.statusCode = 200 ∧ response.statusText = ascii "OK" ∨
    response.statusCode = 400 ∧ response.statusText = ascii "Bad Request"
  headers : response.headers = ∅ ∨ response.headers = Http1Handler.replyHeaders

def okLine : HttpLine := ⟨ascii "HTTP/1.1 200 OK", by decide⟩

def badRequestLine : HttpLine := ⟨ascii "HTTP/1.1 400 Bad Request", by decide⟩

def contentTypeLine : HttpLine := ⟨ascii "Content-Type: text/plain", by decide⟩

def contentLengthLine (number : ℕ) : HttpLine :=
  ⟨ascii "Content-Length: " ++ toDecimal number, by
    apply findCrlf_of_not_mem
    rw [List.mem_append]
    rintro (inName | inNumber)
    · exact absurd inName (by decide)
    · exact not_mem_toDecimal (by decide) number inNumber⟩

theorem lengthOfLine_contentLengthLine (number : ℕ) :
    ClientResponse.lengthOfLine (contentLengthLine number) = some (toDecimal number) := by
  have line : (contentLengthLine number).1 =
      ascii "Content-Length" ++ charColon :: charSpace :: toDecimal number := by
    have separated : ascii "Content-Length: " =
        ascii "Content-Length" ++ [charColon, charSpace] := by
      decide
    calc (contentLengthLine number).1 = ascii "Content-Length: " ++ toDecimal number := rfl
      _ = ascii "Content-Length" ++ [charColon, charSpace] ++ toDecimal number := by rw [separated]
      _ = _ := List.append_assoc _ _ _
  have noColon : (ascii "Content-Length").all isNotColon = true := by decide
  have name : (contentLengthLine number).1.takeWhile isNotColon = ascii "Content-Length" := by
    rw [line, List.takeWhile_append_of_pos (List.all_eq_true.mp noColon)]
    simp [isNotColon]
  have value : ((contentLengthLine number).1.dropWhile isNotColon).drop 1 =
      charSpace :: toDecimal number := by
    rw [line, List.dropWhile_append_of_pos (List.all_eq_true.mp noColon)]
    simp [isNotColon]
  have solid : Trimmed (toDecimal number) :=
    trimmed_of_not_mem (not_mem_toDecimal (by decide) number)
      (not_mem_toDecimal (by decide) number)
  rw [ClientResponse.lengthOfLine, name, value, solid.trim_cons, if_pos (by decide)]

/-- The header lines that are written with a body. -/
def lengthLines (body : Bytes) : List HttpLine :=
  if body = [] then [] else [contentLengthLine body.length]

theorem filterMap_lengthLines (body : Bytes) :
    (lengthLines body).filterMap ClientResponse.lengthOfLine =
      if body = [] then [] else [toDecimal body.length] := by
  rw [lengthLines]
  split_ifs
  · rfl
  · rw [List.filterMap_cons_some (lengthOfLine_contentLengthLine _), List.filterMap_nil]

theorem IsAnswer.exists_status {response : HttpResponse} (answer : IsAnswer response) :
    ∃ status : HttpLine, statusLine response = status.encode ∧
      ascii "HTTP/1.1 " <+: status.1 := by
  rcases answer.status with ⟨code, text⟩ | ⟨code, text⟩
  · refine ⟨okLine, ?_, by decide⟩
    rw [statusLine, code, text]
    decide
  · refine ⟨badRequestLine, ?_, by decide⟩
    rw [statusLine, code, text]
    decide

/-- The response's own header fields do not tell a length. -/
theorem IsAnswer.exists_lines {response : HttpResponse} (answer : IsAnswer response) :
    ∃ lines : List HttpLine, (∀ line ∈ lines, charColon ∈ line.1) ∧
      lines.filterMap ClientResponse.lengthOfLine = [] ∧
      response.headers.toList.map (fun field => headerLine field.1 field.2) =
        lines.map HttpLine.encode ∧
      hasContentLength response.headers = false := by
  rcases answer.headers with none | some
  · refine ⟨[], List.forall_mem_nil _, rfl, ?_, ?_⟩
    · rw [none]
      decide +kernel
    · rw [none]
      decide +kernel
  · refine ⟨[contentTypeLine], ?_, by decide, ?_, ?_⟩
    · intro line member
      rw [List.mem_singleton.mp member]
      decide
    · rw [some, Http1Handler.replyHeaders_toList]
      decide
    · rw [some]
      decide +kernel

theorem headerLine_contentLength (number : ℕ) :
    headerLine (ascii "Content-Length") (toDecimal number) = (contentLengthLine number).encode := by
  have start : ascii "Content-Length: " = ascii "Content-Length" ++ ascii ": " := by decide
  rw [headerLine, ← start]
  rfl

theorem colon_mem_lengthLines (body : Bytes) : ∀ line ∈ lengthLines body, charColon ∈ line.1 := by
  intro line member
  rw [lengthLines] at member
  split_ifs at member
  · cases member
  · rw [List.mem_singleton.mp member]
    exact List.mem_append_left _ (by decide)

/-- What is written for a response is taken apart as it was meant. Its length is told exactly if it
has a body. -/
theorem IsAnswer.exists_clientResponse {response : HttpResponse} (answer : IsAnswer response) :
    ∃ client : ClientResponse, client.bytes = responseBytes response ∧ client.WellFormed ∧
      (client.body ≠ [] ↔ ClientResponse.LengthGiven client.lines client.body) := by
  rcases answer.exists_status with ⟨status, statusEq, version⟩
  rcases answer.exists_lines with ⟨lines, colons, noLength, linesEq, noField⟩
  have lengths : ClientResponse.contentLengths (lines ++ lengthLines response.body) =
      if response.body = [] then [] else [toDecimal response.body.length] := by
    rw [ClientResponse.contentLengths, List.filterMap_append, noLength, filterMap_lengthLines,
      List.nil_append]
  have given : response.body ≠ [] ↔
      ClientResponse.LengthGiven (lines ++ lengthLines response.body) response.body := by
    rw [ClientResponse.LengthGiven, lengths]
    constructor
    · intro nonempty
      rw [if_neg nonempty]
      exact ⟨_, rfl, isDecimal_toDecimal _⟩
    · rintro ⟨number, single, _⟩ empty
      rw [if_pos empty] at single
      cases single
  refine ⟨{ status := status, lines := lines ++ lengthLines response.body, body := response.body },
    ?_, ⟨version, ?_, ?_⟩, given⟩
  · rw [ClientResponse.bytes, responseBytes, responseParts, statusEq, linesEq, noField]
    by_cases empty : response.body = []
    · simp [lengthLines, empty]
    · simp [lengthLines, empty, headerLine_contentLength]
  · intro line member
    rcases List.mem_append.mp member with own | length
    · exact colons line own
    · exact colon_mem_lengthLines _ line length
  · by_cases empty : response.body = []
    · refine Or.inl ⟨?_, empty⟩
      rw [lengths, if_pos empty]
    · exact Or.inr (given.mp empty)

end HttpParser

namespace Http1Handler

variable {Tls : Type u} [TlsLayer Tls]

omit [TlsLayer Tls] in
theorem Sound.isAnswer {handler : Http1Handler (Observed Tls)} (sound : handler.Sound)
    (body : Bytes) : IsAnswer (handler.response.setBody body) := by
  refine ⟨?_, sound.headers⟩
  by_cases failed : handler.state = .error
  · exact Or.inr (sound.failed failed)
  · exact Or.inl (sound.serving failed)

omit [TlsLayer Tls] in
/-- A read writes nothing or an answer. -/
theorem Sound.answer_of_read {before after : Http1Handler (Observed Tls)} (sound : before.Sound)
    (outcome : ReadOutcome before after) :
    after.tlsHandler.sent = before.tlsHandler.sent ∨
      ∃ response, IsAnswer response ∧
        after.tlsHandler.sent = before.tlsHandler.sent ++ [responseBytes response] := by
  cases outcome with
  | waits sent response state => exact Or.inl sent
  | refuses sent response state =>
      exact Or.inr ⟨toBadRequest before.response, ⟨Or.inr ⟨rfl, rfl⟩, sound.headers⟩, sent⟩
  | replies body sent response alive =>
      refine Or.inr ⟨_, ⟨Or.inl (fillResponse_status _ _), Or.inr ?_⟩, sent⟩
      exact fillResponse_replyHeaders sound.headers body

/-- An event writes nothing or an answer. -/
theorem Sound.answer_of_event {handler : Http1Handler (Observed Tls)} (sound : handler.Sound)
    (event : Http1Event) :
    (handler.onEvent event).tlsHandler.sent = handler.tlsHandler.sent ∨
      ∃ response, IsAnswer response ∧
        (handler.onEvent event).tlsHandler.sent =
          handler.tlsHandler.sent ++ [responseBytes response] := by
  cases event with
  | init connSet =>
      left
      simp only [Http1Handler.onEvent, init]
      split_ifs
      · rfl
      · rfl
  | call call =>
      cases sound.callOutcome call with
      | read outcome => exact sound.answer_of_read outcome
      | sends body short after_eq =>
          refine Or.inr ⟨_, sound.isAnswer body, ?_⟩
          rw [Http1Handler.onEvent, after_eq]
          rfl
  | close => exact Or.inl rfl

/-- The handler after a history of events. -/
def afterEvents (handler : Http1Handler (Observed Tls)) (events : List Http1Event) :
    Http1Handler (Observed Tls) :=
  events.foldl onEvent handler

theorem Sound.afterEvents {handler : Http1Handler (Observed Tls)} (sound : handler.Sound)
    (events : List Http1Event) : (handler.afterEvents events).Sound := by
  induction events generalizing handler with
  | nil => exact sound
  | cons event events ih => exact ih (sound.onEvent event)

/-- What a history writes is a list of responses that a client can take apart. -/
theorem exists_clientResponses (tls : Tls) (events : List Http1Event) :
    ∃ responses : List ClientResponse,
      (∀ response ∈ responses, response.WellFormed ∧
        (response.body ≠ [] ↔ ClientResponse.LengthGiven response.lines response.body)) ∧
      responses.map ClientResponse.bytes =
        ((construct ({ inner := tls } : Observed Tls)).afterEvents events).tlsHandler.sent := by
  induction events using List.reverseRecOn with
  | nil => exact ⟨[], List.forall_mem_nil _, rfl⟩
  | append_singleton events event ih =>
      rcases ih with ⟨responses, wellFormed, sentBefore⟩
      have sound := (sound_construct ({ inner := tls } : Observed Tls)).afterEvents events
      rw [Http1Handler.afterEvents, List.foldl_concat]
      rcases sound.answer_of_event event with same | ⟨response, answer, sent⟩
      · exact ⟨responses, wellFormed, sentBefore.trans same.symm⟩
      · rcases answer.exists_clientResponse with ⟨client, bytesEq, clientWellFormed, given⟩
        refine ⟨responses ++ [client], ?_, ?_⟩
        · intro other member
          rcases List.mem_append.mp member with earlier | last
          · exact wellFormed other earlier
          · rw [List.mem_singleton.mp last]
            exact ⟨clientWellFormed, given⟩
        · rw [List.map_append, List.map_singleton, bytesEq, sentBefore]
          exact sent.symm

/-- Over any history, a client can take what was written apart into responses in one way only, and
these are the responses that were written. They tell their length if they have a body. -/
theorem selfDelimiting (tls : Tls) (events : List Http1Event) :
    ∃ responses : List ClientResponse,
      (∀ response ∈ responses, response.WellFormed ∧
        (response.body ≠ [] ↔ ClientResponse.LengthGiven response.lines response.body)) ∧
      responses.map ClientResponse.bytes =
        ((construct ({ inner := tls } : Observed Tls)).afterEvents events).tlsHandler.sent ∧
      ∀ others : List ClientResponse, (∀ response ∈ others, response.WellFormed) →
        (others.map ClientResponse.bytes).flatten =
          ((construct ({ inner := tls } : Observed Tls)).afterEvents
            events).tlsHandler.sent.flatten →
        others = responses := by
  rcases exists_clientResponses tls events with ⟨responses, wellFormed, sent⟩
  refine ⟨responses, wellFormed, sent, ?_⟩
  intro others othersWellFormed same
  rw [← sent] at same
  exact ClientResponse.eq_of_flatten_eq othersWellFormed
    (fun response member => (wellFormed response member).1) same

/-- The answer to an empty request line has no body and does not tell its length. -/
theorem badRequest_lengthless :
    ¬ ∃ responses : List ClientResponse,
      (∀ response ∈ responses, response.WellFormed ∧
        ClientResponse.LengthGiven response.lines response.body) ∧
      (responses.map ClientResponse.bytes).flatten =
        ((construct ({ inner := { reads := [(.ok, crlf)] } } : Observed ReadScript)).afterEvents
          [.init true, .call .onRead]).tlsHandler.sent.flatten := by
  rintro ⟨responses, wellFormed, same⟩
  have sent : ((construct ({ inner := { reads := [(.ok, crlf)] } } :
      Observed ReadScript)).afterEvents [.init true, .call .onRead]).tlsHandler.sent.flatten =
      ([{ status := badRequestLine, lines := [], body := [] }].map
        ClientResponse.bytes).flatten := by
    decide +kernel
  rw [sent] at same
  have single := ClientResponse.eq_of_flatten_eq
    (fun response member => (wellFormed response member).1)
    (by
      intro response member
      rw [List.mem_singleton.mp member]
      exact ⟨by decide, List.forall_mem_nil _, Or.inl ⟨rfl, rfl⟩⟩) same
  rw [single] at wellFormed
  rcases (wellFormed _ List.mem_cons_self).2 with ⟨number, lengths, _⟩
  cases lengths

end Http1Handler

end HttpsServerSim
