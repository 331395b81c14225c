import HttpsServerSim.Protocol.HttpLetterCase
import HttpsServerSim.Protocol.HttpNumbers
import HttpsServerSim.Protocol.HttpResponses

/-!
# Responses parse back

`build_response` and the parser of header blocks are written apart from each other. A response
whose names and values a header line can carry is nevertheless read back as it was: the
status line, the fields, with the length of the body among them where the response does not
tell it itself, and the body, whatever bytes are in it.
-/

namespace HttpsServerSim

open HttpParser

/-! ## Responses that a parser can take -/

/-- A name that a header line can carry. -/
structure IsName (name : Bytes) : Prop where
  nonempty : name ≠ []
  clean : ∀ char ∈ [charCr, charLf, charColon, 0], char ∉ name
  trimmed : Trimmed name
  short : name.length ≤ maxHeaderNameLen

/-- A value that a header line can carry. -/
structure IsValue (value : Bytes) : Prop where
  clean : ∀ char ∈ [charCr, charLf], char ∉ value
  trimmed : Trimmed value
  short : value.length ≤ maxHeaderValueLen

namespace HttpResponse

/-- The response has a body and no field for its length, in whatever letter case. -/
def LacksLength (response : HttpResponse) : Prop :=
  response.body ≠ [] ∧
    ∀ field ∈ response.headers.toList, ¬ SameLetters field.1 (ascii "Content-Length")

instance (response : HttpResponse) : Decidable response.LacksLength :=
  inferInstanceAs (Decidable (_ ∧ ∀ _ ∈ _, ¬ (_ = _)))

/-- The headers that the other side is to see. -/
def sentHeaders (response : HttpResponse) : HttpHeaders :=
  if response.LacksLength then
    response.headers.insert (ascii "Content-Length") (toDecimal response.body.length)
  else response.headers

/-- The response is within the grammar of a response and the limits of the parser. -/
structure Parseable (response : HttpResponse) : Prop where
  statusText : charCr ∉ response.statusText ∧ charLf ∉ response.statusText
  statusLine_short : (statusLine response).length < maxLineLen + crlf.length
  names : ∀ field ∈ response.headers.toList, IsName field.1
  values : ∀ field ∈ response.headers.toList, IsValue field.2
  few : response.headers.toList.length + (if response.LacksLength then 1 else 0) ≤ maxHeaders
  total : (responseBytes response).length ≤ Buffer.maxCapacity

end HttpResponse

/-! ## Header lines -/

/-- The line that carries a field. -/
theorem exists_headerLine {field : Bytes × Bytes} (name : IsName field.1)
    (value : IsValue field.2) :
    ∃ line : HttpLine, IsHeaderLine line field ∧ line.encode = headerLine field.1 field.2 := by
  have separator : ascii ": " = [charColon, charSpace] := by decide
  have noCrlf : findCrlf (field.1 ++ charColon :: charSpace :: field.2) = none := by
    apply findCrlf_of_not_mem
    simp only [List.mem_append, List.mem_cons, not_or]
    exact ⟨name.clean charCr (by decide), by decide, by decide, value.clean charCr (by decide)⟩
  refine ⟨⟨_, noCrlf⟩, ⟨?_, ?_, ?_, name.nonempty, name.short, value.short⟩, ?_⟩
  · exact List.append_ne_nil_of_left_ne_nil name.nonempty _
  · have nameShort := name.short
    have valueShort := value.short
    simp only [List.length_append, List.length_cons, maxHeaderNameLen, maxHeaderValueLen,
      maxHeaderLineLen] at nameShort valueShort ⊢
    omega
  · exact ⟨field.1, charSpace :: field.2, rfl, name.clean charColon (by decide),
      name.trimmed.trim_eq.symm, value.trimmed.trim_cons.symm⟩
  · rw [HttpLine.encode, headerLine, separator, List.append_assoc]
    simp only [List.append_assoc, List.cons_append, List.nil_append]

/-- The lines that carry the fields. -/
theorem exists_headerLines {fields : List (Bytes × Bytes)}
    (names : ∀ field ∈ fields, IsName field.1) (values : ∀ field ∈ fields, IsValue field.2) :
    ∃ lines : List HttpLine, List.Forall₂ IsHeaderLine lines fields ∧
      lines.flatMap HttpLine.encode =
        (fields.map fun field => headerLine field.1 field.2).flatten := by
  induction fields with
  | nil => exact ⟨[], List.Forall₂.nil, rfl⟩
  | cons field fields ih =>
      rcases List.forall_mem_cons.mp names with ⟨name, otherNames⟩
      rcases List.forall_mem_cons.mp values with ⟨value, otherValues⟩
      rcases exists_headerLine name value with ⟨line, isLine, encoded⟩
      rcases ih otherNames otherValues with ⟨lines, areLines, othersEncoded⟩
      refine ⟨line :: lines, List.Forall₂.cons isLine areLines, ?_⟩
      rw [List.flatMap_cons, encoded, othersEncoded, List.map_cons, List.flatten_cons]

theorem headersOf_fields {lines : List HttpLine} {fields : List (Bytes × Bytes)}
    (areLines : List.Forall₂ IsHeaderLine lines fields) : headersOf lines = fieldsMap fields :=
  foldl_addField_eq areLines ∅

/-- A map is its own fields. -/
theorem fieldsMap_toList (headers : HttpHeaders) : fieldsMap headers.toList = headers :=
  MapOverlay.overlay_empty_left headers

/-! ## The field for the length -/

theorem cString_of_not_mem {text : Bytes} (noNul : 0 ∉ text) : cString text = text := by
  rw [cString, List.takeWhile_eq_self_iff]
  intro char member
  rw [decide_eq_true_eq]
  rintro rfl
  exact noNul member

/-- On names without NUL bytes, `StrCaseCmp` compares all of the letters. -/
theorem names_contentLength_iff {name : Bytes} (noNul : 0 ∉ name) :
    Names name (ascii "Content-Length") ↔ SameLetters name (ascii "Content-Length") := by
  have visible : cString (ascii "Content-Length") = ascii "Content-Length" :=
    cString_of_not_mem (by decide)
  rw [names_iff, cString_of_not_mem noNul, visible]

theorem isName_contentLength : IsName (ascii "Content-Length") :=
  ⟨by decide, by decide +kernel, by decide +kernel, by decide⟩

theorem not_mem_intToDecimal {char : UInt8} (noDigit : isDigit char = false) (notMinus : char ≠ 45)
    (number : Int32) : char ∉ intToDecimal number := by
  unfold intToDecimal
  split
  · exact not_mem_toDecimal noDigit _
  · rw [List.mem_cons, not_or]
    exact ⟨notMinus, not_mem_toDecimal noDigit _⟩

/-- The length of a body that is in memory is short. -/
theorem isValue_toDecimal {number : ℕ} (small : number < 10 ^ 20) : IsValue (toDecimal number) := by
  refine ⟨?_, ?_, ?_⟩
  · intro char member
    apply not_mem_toDecimal
    simp only [List.mem_cons, List.not_mem_nil, or_false] at member
    rcases member with rfl | rfl <;> decide
  · exact trimmed_of_not_mem (not_mem_toDecimal (by decide) number)
      (not_mem_toDecimal (by decide) number)
  · exact (length_toDecimal_le (by decide) small).trans (by decide)

namespace HttpResponse

/-- The fields in the order in which they are written. -/
def sentFields (response : HttpResponse) : List (Bytes × Bytes) :=
  response.headers.toList ++
    if response.LacksLength then
      [(ascii "Content-Length", toDecimal response.body.length)]
    else []

theorem fieldsMap_sentFields (response : HttpResponse) :
    fieldsMap response.sentFields = response.sentHeaders := by
  unfold sentFields sentHeaders
  split_ifs
  · rw [fieldsMap, List.foldl_concat]
    exact congrArg (fun headers : HttpHeaders => headers.insert _ _)
      (fieldsMap_toList response.headers)
  · rw [List.append_nil, fieldsMap_toList]

namespace Parseable

variable {response : HttpResponse}

/-- What `build_response` looks for is what the other side is to see. -/
theorem lacksLength_iff (parseable : response.Parseable) :
    (¬ hasContentLength response.headers ∧ ¬ response.body.isEmpty) ↔ response.LacksLength := by
  have noLength : ¬ hasContentLength response.headers ↔
      ∀ field ∈ response.headers.toList, ¬ SameLetters field.1 (ascii "Content-Length") := by
    simp only [hasContentLength, List.any_eq_true, decide_eq_true_eq, not_exists, not_and]
    apply forall₂_congr
    intro field member
    have noNul : 0 ∉ field.1 := (parseable.names field member).clean 0 (by decide)
    exact not_congr (names_contentLength_iff noNul)
  rw [noLength, List.isEmpty_iff, LacksLength, and_comm]

theorem bytes_eq (parseable : response.Parseable) :
    responseBytes response =
      statusLine response ++
        ((response.sentFields.map fun field => headerLine field.1 field.2).flatten ++
          (crlf ++ response.body)) := by
  have body : ((if response.body.isEmpty then [] else [response.body]) : List Bytes).flatten =
      response.body := by
    split_ifs with empty
    · exact (List.isEmpty_iff.mp empty).symm
    · exact List.flatten_singleton
  simp only [responseBytes, responseParts, List.flatten_append, List.flatten_singleton, body,
    if_congr parseable.lacksLength_iff rfl rfl, sentFields, List.map_append, List.append_assoc]
  congr 2
  split_ifs <;> rfl

theorem length_body_lt (parseable : response.Parseable) : response.body.length < 10 ^ 20 := by
  have total := parseable.total
  rw [parseable.bytes_eq] at total
  simp only [List.length_append, Buffer.maxCapacity] at total
  omega

/-- The fields that are written can be carried by header lines, and there is room for them. -/
theorem sentFields_spec (parseable : response.Parseable) :
    (∀ field ∈ response.sentFields, IsName field.1 ∧ IsValue field.2) ∧
      response.sentFields.length ≤ maxHeaders := by
  have few := parseable.few
  unfold sentFields
  split_ifs at few ⊢
  · constructor
    · rw [List.forall_mem_append, List.forall_mem_singleton]
      refine ⟨?_, isName_contentLength, isValue_toDecimal parseable.length_body_lt⟩
      exact fun field member => ⟨parseable.names field member, parseable.values field member⟩
    · rw [List.length_append]
      exact few
  · rw [List.append_nil]
    refine ⟨?_, few⟩
    exact fun field member => ⟨parseable.names field member, parseable.values field member⟩

/-- The status line. -/
theorem exists_statusLine (parseable : response.Parseable) :
    ∃ line : HttpLine, line.encode = statusLine response ∧ line.1.length < maxLineLen := by
  have noCrlf : findCrlf (ascii "HTTP/1.1 " ++ intToDecimal response.statusCode ++ [charSpace] ++
      response.statusText) = none := by
    apply findCrlf_of_not_mem
    simp only [List.mem_append, not_or]
    exact ⟨⟨⟨by decide, not_mem_intToDecimal (by decide) (by decide) _⟩, by decide⟩,
      parseable.statusText.1⟩
  have short := parseable.statusLine_short
  rw [statusLine, List.length_append, Nat.add_lt_add_iff_right] at short
  exact ⟨⟨_, noCrlf⟩, rfl, short⟩

end Parseable

/-- What `build_response` has made of a response, in a buffer, is taken apart again: `read_line`
takes the status line off, `parse_headers` finds the headers with the length of the body, and
what is left in the buffer is the body. -/
theorem parses_back {response : HttpResponse} (parseable : response.Parseable)
    {builder after : HttpParser} {maxLen : ℕ} {bytes : Bytes}
    (built : builder.buildResponse response maxLen = (some bytes, after)) (capacity : ℕ)
    (parser : HttpParser) :
    ∃ line behindLine behindHeaders,
      parser.init.readLine ((Buffer.construct capacity).write .always bytes).2 maxLineLen =
        (.ok, line, parser.init, behindLine) ∧
      line ++ crlf = statusLine response ∧
      parser.init.parseHeaders behindLine =
        (.ok, response.sentHeaders, parser.init, behindHeaders) ∧
      behindHeaders.contents = response.body := by
  have bytes_eq : bytes = responseBytes response := by
    rw [buildResponse_eq] at built
    split_ifs at built
    · cases built
      rfl
    · cases built
  have contents : ((Buffer.construct capacity).write .always bytes).2.contents =
      responseBytes response := by
    have fits : (Buffer.construct capacity).readableBytes + bytes.length ≤ Buffer.maxCapacity := by
      rw [bytes_eq]
      exact (Nat.zero_add _).trans_le parseable.total
    rw [((Buffer.construct capacity).write_of_fits fits).2, bytes_eq]
    rfl
  have ready : parser.init.bufferSet = true := rfl
  rcases parseable.exists_statusLine with ⟨line, line_eq, lineShort⟩
  rw [parseable.bytes_eq, ← line_eq] at contents
  rcases readLine_of_complete ready contents lineShort with ⟨behindLine, behind_eq, read⟩
  rcases parseable.sentFields_spec with ⟨carried, few⟩
  rcases exists_headerLines (fun field member => (carried field member).1)
    (fun field member => (carried field member).2) with ⟨lines, areLines, encoded⟩
  rw [← encoded] at behind_eq
  rcases parseHeaders_complete ready (validHeader_of_areLines areLines)
    (areLines.length_eq.trans_le few) behind_eq with ⟨behindHeaders, body_eq, parsed⟩
  refine ⟨line.1, behindLine, behindHeaders, read, line_eq, ?_, body_eq⟩
  rw [parsed, headersOf_fields areLines, fieldsMap_sentFields]

/-- A response whose body looks like the end of a header block. -/
def notFound : HttpResponse where
  statusCode := 404
  statusText := ascii "Not Found"
  headers := (∅ : HttpHeaders).insert (ascii "Content-Type") (ascii "text/plain")
  body := crlf ++ ascii "X: y" ++ crlf ++ crlf

theorem notFound_toList :
    notFound.headers.toList = [(ascii "Content-Type", ascii "text/plain")] := by
  decide +kernel

theorem notFound_parseable : notFound.Parseable where
  statusText := by decide +kernel
  statusLine_short := by decide +kernel
  names := by
    rw [notFound_toList, List.forall_mem_singleton]
    exact ⟨by decide, by decide +kernel, by decide +kernel, by decide⟩
  values := by
    rw [notFound_toList, List.forall_mem_singleton]
    exact ⟨by decide +kernel, by decide +kernel, by decide⟩
  few := by decide +kernel
  total := by decide +kernel

theorem notFound_parses_back :
    ∃ line behindLine behindHeaders,
      HttpParser.readLine { bufferSet := true }
          ((Buffer.construct 0).write .always (responseBytes notFound)).2 maxLineLen =
        (.ok, line, { bufferSet := true }, behindLine) ∧
      line ++ crlf = statusLine notFound ∧
      HttpParser.parseHeaders { bufferSet := true } behindLine =
        (.ok, notFound.headers.insert (ascii "Content-Length") (ascii "10"), { bufferSet := true },
          behindHeaders) ∧
      behindHeaders.contents = notFound.body := by
  have built : HttpParser.buildResponse {} notFound 4096 = (some (responseBytes notFound), {}) := by
    rw [buildResponse_eq, if_pos (by decide +kernel)]
  have sent : notFound.sentHeaders =
      notFound.headers.insert (ascii "Content-Length") (ascii "10") := by
    decide +kernel
  rw [← sent]
  exact parses_back notFound_parseable built 0 {}

end HttpResponse

end HttpsServerSim
