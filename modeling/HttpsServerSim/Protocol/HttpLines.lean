import HttpsServerSim.Lib.Framing
import HttpsServerSim.Lib.MapOverlay
import HttpsServerSim.Protocol.HttpParser
import HttpsServerSim.Utils.BufferQueue

/-!
# Lines and header blocks

A line followed by `\r\n` is a frame in the sense of `Framing`. The parser takes lines
off the front of its buffer: `readLine` takes one, and `parse_headers` takes header lines
up to the empty one, or as many as are complete. What it then leaves behind is a buffer
without a complete line; the lines it took are gone from the buffer.
-/

namespace HttpsServerSim

theorem findCrlf_append_crlf {line : Bytes} (noCrlf : findCrlf line = none) (rest : Bytes) :
    findCrlf (line ++ (crlf ++ rest)) = some line.length := by
  induction line with
  | nil => rfl
  | cons first line ih =>
      cases line with
      | nil => simp [findCrlf, crlf, charCr, charLf]
      | cons second line =>
          simp only [findCrlf] at noCrlf
          split_ifs at noCrlf with atFront
          have later := ih (Option.map_eq_none_iff.mp noCrlf)
          simp only [List.cons_append] at later ⊢
          rw [findCrlf, if_neg atFront, later]
          rfl

theorem findCrlf_some {input : Bytes} {pos : ℕ} (found : findCrlf input = some pos) :
    ∃ line rest, input = line ++ (crlf ++ rest) ∧ line.length = pos ∧ findCrlf line = none := by
  induction input generalizing pos with
  | nil => simp [findCrlf] at found
  | cons first input ih =>
      cases input with
      | nil => simp [findCrlf] at found
      | cons second input =>
          simp only [findCrlf] at found
          split_ifs at found with atFront
          · cases found
            rcases atFront with ⟨rfl, rfl⟩
            exact ⟨[], input, rfl, rfl, rfl⟩
          · rcases Option.map_eq_some_iff.mp found with ⟨later, foundLater, rfl⟩
            rcases ih foundLater with ⟨line, rest, split, lengthEq, noCrlf⟩
            refine ⟨first :: line, rest, by rw [split]; rfl, by simp [lengthEq], ?_⟩
            cases line with
            | nil => rfl
            | cons other line =>
                have second_eq : second = other := (List.cons.inj split).1
                rw [findCrlf, if_neg (second_eq ▸ atFront), noCrlf]
                rfl

/-- A line without `\r\n` in it. -/
abbrev HttpLine := { line : Bytes // findCrlf line = none }

namespace HttpLine

def encode (line : HttpLine) : Bytes := line.1 ++ crlf

def split (input : Bytes) : Option (HttpLine × Bytes) :=
  match findCrlf input with
  | none => none
  | some pos =>
      if noCrlf : findCrlf (input.take pos) = none then
        some (⟨input.take pos, noCrlf⟩, input.drop (pos + 2))
      else none

theorem split_encode (line : HttpLine) (rest : Bytes) :
    split (line.encode ++ rest) = some (line, rest) := by
  have found := findCrlf_append_crlf line.2 rest
  have dropEq : (line.1 ++ (crlf ++ rest)).drop (line.1.length + 2) = rest := by
    rw [← List.append_assoc]
    exact List.drop_left' (by simp [crlf])
  simp only [split, encode, List.append_assoc, found, List.take_left, line.2, dropEq, dite_true]

theorem split_eq_none_iff (input : Bytes) : split input = none ↔ findCrlf input = none := by
  cases found : findCrlf input with
  | none => simp [split, found]
  | some pos =>
      rcases findCrlf_some found with ⟨line, rest, rfl, rfl, noCrlf⟩
      have split_eq := split_encode ⟨line, noCrlf⟩ rest
      simp only [encode, List.append_assoc] at split_eq
      simp [split_eq]

theorem eq_encode_of_split {input rest : Bytes} {line : HttpLine}
    (found : split input = some (line, rest)) : input = line.encode ++ rest := by
  cases position : findCrlf input with
  | none => simp [split, position] at found
  | some pos =>
      rcases findCrlf_some position with ⟨text, more, rfl, rfl, noCrlf⟩
      have split_eq := split_encode ⟨text, noCrlf⟩ more
      simp only [encode, List.append_assoc] at split_eq
      rw [split_eq] at found
      cases found
      simp [encode]

def framing : Framing UInt8 HttpLine where
  encode := encode
  split := split
  split_encode := split_encode
  split_append := by
    intro input line rest found more
    rw [eq_encode_of_split found, List.append_assoc]
    exact split_encode line (rest ++ more)
  length_lt_of_split := by
    intro input line rest found
    rw [eq_encode_of_split found, List.length_append, encode, List.length_append]
    simp [crlf]

end HttpLine

namespace HttpParser

theorem readLine_of_incomplete {parser : HttpParser} (ready : parser.bufferSet = true)
    {buffer : Buffer} (incomplete : findCrlf buffer.contents = none) (maxLen : ℕ) :
    parser.readLine buffer maxLen = (.eagain, [], parser, buffer) := by
  simp [readLine, ready, incomplete]

/-- A complete line that is not too long is taken off the buffer. -/
theorem readLine_of_complete {parser : HttpParser} (ready : parser.bufferSet = true)
    {buffer : Buffer} {line : HttpLine} {rest : Bytes} {maxLen : ℕ}
    (complete : buffer.contents = line.encode ++ rest) (short : line.1.length < maxLen) :
    ∃ after : Buffer, after.contents = rest ∧
      parser.readLine buffer maxLen = (.ok, line.1, parser, after) := by
  have found : findCrlf buffer.contents = some line.1.length := by
    rw [complete, HttpLine.encode, List.append_assoc]
    exact findCrlf_append_crlf line.2 rest
  refine ⟨buffer.skip (line.1.length + 2), ?_, ?_⟩
  · rw [Buffer.contents_skip, complete]
    exact List.drop_left' (by simp [HttpLine.encode, crlf])
  · have taken : buffer.contents.take line.1.length = line.1 := by
      rw [complete, HttpLine.encode, List.append_assoc, List.take_left]
    simp [readLine, ready, found, Nat.not_le.mpr short, taken]

/-- Only the contents of the buffer matter for what is read. -/
theorem readLine_congr {parser parserAfter : HttpParser} {left right after : Buffer}
    {maxLen : ℕ} {status : ProtocolStatus} {line : Bytes} (same : left.contents = right.contents)
    (read : parser.readLine right maxLen = (status, line, parserAfter, after)) :
    ∃ other : Buffer, other.contents = after.contents ∧
      parser.readLine left maxLen = (status, line, parserAfter, other) := by
  simp only [readLine, same] at read ⊢
  split_ifs at read ⊢ with unset
  · cases read
    exact ⟨left, same, rfl⟩
  · cases found : findCrlf right.contents with
    | none =>
        simp only [found] at read ⊢
        cases read
        exact ⟨left, same, rfl⟩
    | some pos =>
        simp only [found] at read ⊢
        split_ifs at read ⊢
        · cases read
          exact ⟨left, same, rfl⟩
        · cases read
          refine ⟨left.skip (pos + 2), ?_, rfl⟩
          rw [Buffer.contents_skip, Buffer.contents_skip, same]

/-! ## Header blocks -/

theorem parseHeadersLoop_congr {remaining : ℕ} {parser parserAfter : HttpParser}
    {left right after : Buffer} {headers headersAfter : HttpHeaders} {status : ProtocolStatus}
    (same : left.contents = right.contents)
    (parsed : parseHeadersLoop remaining parser right headers =
      (status, headersAfter, parserAfter, after)) :
    ∃ other : Buffer, other.contents = after.contents ∧
      parseHeadersLoop remaining parser left headers =
        (status, headersAfter, parserAfter, other) := by
  induction remaining generalizing parser left right headers with
  | zero =>
      rcases read : parser.readLine right maxHeaderLineLen with ⟨ret, line, middle, rest⟩
      rcases readLine_congr same read with ⟨other, otherEq, otherRead⟩
      rw [parseHeadersLoop, read] at parsed
      rw [parseHeadersLoop, otherRead]
      cases ret with
      | ok => cases line <;> cases parsed <;> exact ⟨other, otherEq, rfl⟩
      | _ => cases parsed; exact ⟨other, otherEq, rfl⟩
  | succ remaining ih =>
      rcases read : parser.readLine right maxHeaderLineLen with ⟨ret, line, middle, rest⟩
      rcases readLine_congr same read with ⟨other, otherEq, otherRead⟩
      rw [parseHeadersLoop, read] at parsed
      rw [parseHeadersLoop, otherRead]
      cases ret with
      | ok =>
          cases line with
          | nil =>
              cases parsed
              exact ⟨other, otherEq, rfl⟩
          | cons first line =>
              simp only at parsed ⊢
              cases split : splitHeader (first :: line) with
              | error failure =>
                  rw [split] at parsed
                  cases parsed
                  exact ⟨other, otherEq, rfl⟩
              | ok field =>
                  rw [split] at parsed
                  exact ih otherEq parsed
      | _ => cases parsed; exact ⟨other, otherEq, rfl⟩

theorem parseHeaders_congr {parser parserAfter : HttpParser} {left right after : Buffer}
    {headers : HttpHeaders} {status : ProtocolStatus} (same : left.contents = right.contents)
    (parsed : parser.parseHeaders right = (status, headers, parserAfter, after)) :
    ∃ other : Buffer, other.contents = after.contents ∧
      parser.parseHeaders left = (status, headers, parserAfter, other) :=
  parseHeadersLoop_congr same parsed

/-- The field of a header line added to a map. -/
def addField (headers : HttpHeaders) (line : HttpLine) : HttpHeaders :=
  match splitHeader line.1 with
  | .error _ => headers
  | .ok (key, value) => headers.insert key value

/-- The fields of header lines; a name that occurs again replaces the earlier value. -/
def headersOf (lines : List HttpLine) : HttpHeaders := lines.foldl addField ∅

/-- The name of the field on a header line. -/
def fieldName (line : HttpLine) : Option Bytes := (splitHeader line.1).toOption.map Prod.fst

theorem addField_overlay (base headers : HttpHeaders) (line : HttpLine) :
    addField (MapOverlay.overlay base headers) line =
      MapOverlay.overlay base (addField headers line) := by
  unfold addField
  split
  · rfl
  · rw [MapOverlay.overlay_insert]

theorem headersOf_append (before lines : List HttpLine) :
    headersOf (before ++ lines) = MapOverlay.overlay (headersOf before) (headersOf lines) := by
  have foldEq (base headers : HttpHeaders) :
      lines.foldl addField (MapOverlay.overlay base headers) =
        MapOverlay.overlay base (lines.foldl addField headers) := by
    induction lines generalizing headers with
    | nil => rfl
    | cons line lines ih => rw [List.foldl_cons, List.foldl_cons, addField_overlay, ih]
  rw [headersOf, List.foldl_append, ← MapOverlay.overlay_empty_right (before.foldl _ _), foldEq]
  rfl

theorem mem_addField_iff (headers : HttpHeaders) (line : HttpLine) (key : Bytes) :
    key ∈ addField headers line ↔ fieldName line = some key ∨ key ∈ headers := by
  unfold addField fieldName
  split
  · next parsed => simp [parsed, Except.toOption]
  · next parsed => simp [parsed, Except.toOption]

theorem mem_headersOf_iff (lines : List HttpLine) (key : Bytes) :
    key ∈ headersOf lines ↔ ∃ line ∈ lines, fieldName line = some key := by
  induction lines using List.reverseRecOn with
  | nil => simp [headersOf]
  | append_singleton lines line ih =>
      rw [headersOf, List.foldl_concat, mem_addField_iff]
      rw [headersOf] at ih
      simp [ih, or_comm]

/-- A line that `parse_headers` accepts as a header. -/
def ValidHeader (line : HttpLine) : Prop :=
  line.1.length < maxHeaderLineLen ∧ (splitHeader line.1).isOk = true

instance (line : HttpLine) : Decidable (ValidHeader line) := inferInstanceAs (Decidable (_ ∧ _))

theorem ValidHeader.exists_field {line : HttpLine} (valid : ValidHeader line) :
    ∃ key value, splitHeader line.1 = .ok (key, value) := by
  have isOk := valid.2
  cases parsed : splitHeader line.1 with
  | error status => simp [parsed, Except.isOk, Except.toBool] at isOk
  | ok field => exact ⟨field.1, field.2, rfl⟩

theorem ValidHeader.ne_nil {line : HttpLine} (valid : ValidHeader line) : line.1 ≠ [] := by
  intro empty
  rcases valid.exists_field with ⟨key, value, parsed⟩
  rw [empty] at parsed
  cases parsed

/-- Losing the first header lines changes nothing exactly if each of their names comes again. -/
theorem headersOf_eq_append_iff {before lines : List HttpLine}
    (valid : ∀ line ∈ before, ValidHeader line) :
    headersOf lines = headersOf (before ++ lines) ↔
      ∀ line ∈ before, ∃ later ∈ lines, fieldName later = fieldName line := by
  rw [headersOf_append, eq_comm, MapOverlay.overlay_eq_right_iff]
  refine ⟨?_, ?_⟩
  · intro covered line member
    rcases (valid line member).exists_field with ⟨key, value, parsed⟩
    have name : fieldName line = some key := by simp [fieldName, parsed, Except.toOption]
    rw [name]
    apply (mem_headersOf_iff lines key).mp
    exact covered key ((mem_headersOf_iff before key).mpr ⟨line, member, name⟩)
  · intro recurs key present
    rcases (mem_headersOf_iff before key).mp present with ⟨line, member, name⟩
    rcases recurs line member with ⟨later, laterMember, sameName⟩
    exact (mem_headersOf_iff lines key).mpr ⟨later, laterMember, sameName.trans name⟩

/-- The loop of `parse_headers` takes header lines off the buffer. -/
theorem parseHeadersLoop_lines {parser : HttpParser} (ready : parser.bufferSet = true)
    {buffer : Buffer} {lines : List HttpLine} {rest : Bytes} (headers : HttpHeaders)
    {remaining : ℕ} (valid : ∀ line ∈ lines, ValidHeader line)
    (contentsEq : buffer.contents = lines.flatMap HttpLine.encode ++ rest)
    (room : lines.length ≤ remaining) :
    ∃ after : Buffer, after.contents = rest ∧
      parseHeadersLoop remaining parser buffer headers =
        parseHeadersLoop (remaining - lines.length) parser after
          (lines.foldl addField headers) := by
  induction lines generalizing buffer headers remaining with
  | nil => exact ⟨buffer, contentsEq, rfl⟩
  | cons line lines ih =>
      have lineValid := valid line List.mem_cons_self
      rw [List.flatMap_cons, List.append_assoc] at contentsEq
      rcases readLine_of_complete ready contentsEq lineValid.1 with ⟨middle, middleEq, readEq⟩
      rcases lineValid.exists_field with ⟨key, value, parsed⟩
      have othersValid : ∀ other ∈ lines, ValidHeader other := by
        intro other member
        exact valid other (List.mem_cons_of_mem line member)
      cases remaining with
      | zero => simp at room
      | succ remaining =>
          simp only [List.length_cons, Nat.add_le_add_iff_right] at room
          rcases ih (headers.insert key value) othersValid middleEq room with
            ⟨after, afterEq, loopEq⟩
          refine ⟨after, afterEq, ?_⟩
          rcases List.exists_cons_of_ne_nil lineValid.ne_nil with ⟨first, others, lineEq⟩
          have fieldAdded : addField headers line = headers.insert key value := by
            simp [addField, parsed]
          rw [parseHeadersLoop, readEq, List.foldl_cons, fieldAdded, List.length_cons,
            Nat.add_sub_add_right, ← loopEq]
          rw [lineEq] at parsed ⊢
          simp only [parsed]

/-- The lines seen so far are taken off the buffer when the block is not complete yet. -/
theorem parseHeaders_incomplete {parser : HttpParser} (ready : parser.bufferSet = true)
    {buffer : Buffer} {lines : List HttpLine} {rest : Bytes}
    (valid : ∀ line ∈ lines, ValidHeader line) (few : lines.length ≤ maxHeaders)
    (contentsEq : buffer.contents = lines.flatMap HttpLine.encode ++ rest)
    (incomplete : findCrlf rest = none) :
    ∃ after : Buffer, after.contents = rest ∧
      parser.parseHeaders buffer = (.eagain, headersOf lines, parser, after) := by
  rcases parseHeadersLoop_lines ready ∅ valid contentsEq few with ⟨after, afterEq, loopEq⟩
  refine ⟨after, afterEq, ?_⟩
  rw [parseHeaders, loopEq, parseHeadersLoop,
    readLine_of_incomplete ready (afterEq.symm ▸ incomplete)]
  rfl

/-- A complete block yields the fields of the lines that are still in the buffer. -/
theorem parseHeaders_complete {parser : HttpParser} (ready : parser.bufferSet = true)
    {buffer : Buffer} {lines : List HttpLine} {rest : Bytes}
    (valid : ∀ line ∈ lines, ValidHeader line) (few : lines.length ≤ maxHeaders)
    (contentsEq : buffer.contents = lines.flatMap HttpLine.encode ++ (crlf ++ rest)) :
    ∃ after : Buffer, after.contents = rest ∧
      parser.parseHeaders buffer = (.ok, headersOf lines, parser, after) := by
  rcases parseHeadersLoop_lines ready ∅ valid contentsEq few with ⟨blank, blankEq, loopEq⟩
  have blankLine : blank.contents = HttpLine.encode ⟨[], rfl⟩ ++ rest := blankEq
  rcases readLine_of_complete ready blankLine (by decide : 0 < maxHeaderLineLen) with
    ⟨after, afterEq, readEq⟩
  refine ⟨after, afterEq, ?_⟩
  rw [parseHeaders, loopEq, parseHeadersLoop, readEq]
  rfl

end HttpParser

end HttpsServerSim
