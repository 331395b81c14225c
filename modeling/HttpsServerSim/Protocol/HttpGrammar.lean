import HttpsServerSim.Protocol.HttpLines

/-!
# The grammars of the parser

What `HttpParser` accepts, said without its index scans. A request line is a method, a
path and a version with blanks between them, and it can be taken apart in one way only.
A header block is a sequence of header lines and an empty line. `read_line` takes the
bytes before the first `\r\n`; a line that is too long is only noticed once its `\r\n`
has arrived.
-/

namespace HttpsServerSim

namespace HttpParser

/-! ## The request line -/

/-- A run of blanks that is not empty. -/
def IsGap (gap : Bytes) : Prop := gap ≠ [] ∧ ∀ char ∈ gap, char = charSpace

/-- A part of a request line that is followed by blanks. -/
def IsToken (token : Bytes) : Prop := token ≠ [] ∧ charSpace ∉ token

/-- The rest of a request line after the second run of blanks. -/
def IsVersion (version : Bytes) : Prop := version ≠ [] ∧ version.head? ≠ some charSpace

/-- A request line taken apart. -/
structure RequestLineParts (line method gap path nextGap version : Bytes) : Prop where
  line_eq : line = method ++ (gap ++ (path ++ (nextGap ++ version)))
  method : IsToken method
  gap : IsGap gap
  path : IsToken path
  nextGap : IsGap nextGap

theorem takeWhile_token {token rest : Bytes} (isToken : charSpace ∉ token)
    (stops : ∀ char ∈ rest.head?, char = charSpace) :
    (token ++ rest).takeWhile isNotSpace = token ∧ (token ++ rest).dropWhile isNotSpace = rest := by
  have inside : ∀ char ∈ token, isNotSpace char = true := by
    intro char member
    simp only [isNotSpace, decide_eq_true_eq]
    rintro rfl
    exact isToken member
  rw [List.takeWhile_append_of_pos inside, List.dropWhile_append_of_pos inside]
  cases rest with
  | nil => simp
  | cons first rest =>
      have isBlank : first = charSpace := stops first rfl
      simp [isNotSpace, isBlank]

theorem dropWhile_gap {gap rest : Bytes} (isGap : ∀ char ∈ gap, char = charSpace)
    (stops : rest.head? ≠ some charSpace) : (gap ++ rest).dropWhile isSpaceChar = rest := by
  have inside : ∀ char ∈ gap, isSpaceChar char = true := by
    intro char member
    simp [isSpaceChar, isGap char member]
  rw [List.dropWhile_append_of_pos inside]
  cases rest with
  | nil => rfl
  | cons first rest =>
      have other : first ≠ charSpace := fun same => stops (by rw [same, List.head?_cons])
      simp [isSpaceChar, other]

theorem IsToken.head?_append {token : Bytes} (isToken : IsToken token) (rest : Bytes) :
    (token ++ rest).head? ≠ some charSpace := by
  rcases List.exists_cons_of_ne_nil isToken.1 with ⟨first, others, rfl⟩
  intro same
  apply isToken.2
  rw [List.cons_append, List.head?_cons, Option.some.injEq] at same
  rw [same]
  exact List.mem_cons_self

theorem IsGap.head?_append {gap : Bytes} (isGap : IsGap gap) (rest : Bytes) :
    ∀ char ∈ (gap ++ rest).head?, char = charSpace := by
  rcases List.exists_cons_of_ne_nil isGap.1 with ⟨first, others, rfl⟩
  intro char member
  rw [List.cons_append, List.head?_cons, Option.mem_some_iff] at member
  rw [← member]
  exact isGap.2 first List.mem_cons_self

/-- The scans of the code find the parts. -/
theorem RequestLineParts.scans {line method gap path nextGap version : Bytes}
    (parts : RequestLineParts line method gap path nextGap version)
    (isVersion : version.head? ≠ some charSpace) :
    line.takeWhile isNotSpace = method ∧
      (line.dropWhile isNotSpace).dropWhile isSpaceChar = path ++ (nextGap ++ version) ∧
      (path ++ (nextGap ++ version)).takeWhile isNotSpace = path ∧
      ((path ++ (nextGap ++ version)).dropWhile isNotSpace).dropWhile isSpaceChar = version := by
  have first := takeWhile_token parts.method.2
    (parts.gap.head?_append (path ++ (nextGap ++ version)))
  have second := takeWhile_token parts.path.2 (parts.nextGap.head?_append version)
  rw [parts.line_eq]
  refine ⟨first.1, ?_, second.1, ?_⟩
  · rw [first.2]
    exact dropWhile_gap parts.gap.2 (parts.path.head?_append _)
  · rw [second.2]
    exact dropWhile_gap parts.nextGap.2 isVersion

theorem RequestLineParts.splitRequestLine_eq {line method gap path nextGap version : Bytes}
    (parts : RequestLineParts line method gap path nextGap version)
    (isVersion : IsVersion version) :
    splitRequestLine line = some (method, path, version) := by
  rcases parts.scans isVersion.2 with ⟨methodEq, afterMethodEq, pathEq, versionEq⟩
  simp only [splitRequestLine, methodEq, afterMethodEq, pathEq, versionEq]
  simp [parts.method.1, parts.path.1, isVersion.1]

theorem head?_dropWhile_isSpaceChar (text : Bytes) :
    (text.dropWhile isSpaceChar).head? ≠ some charSpace := by
  intro same
  have stops := List.head?_dropWhile_not isSpaceChar text
  rw [same] at stops
  cases stops

/-- A text that goes on after its first run of blanks starts with a token and a gap. -/
theorem exists_gap {text : Bytes} (token : text.takeWhile isNotSpace ≠ [])
    (more : (text.dropWhile isNotSpace).dropWhile isSpaceChar ≠ []) :
    ∃ gap, IsToken (text.takeWhile isNotSpace) ∧ IsGap gap ∧
      text = text.takeWhile isNotSpace ++
        (gap ++ (text.dropWhile isNotSpace).dropWhile isSpaceChar) := by
  have stops := List.head?_dropWhile_not isNotSpace text
  refine ⟨(text.dropWhile isNotSpace).takeWhile isSpaceChar, ⟨token, ?_⟩, ⟨?_, ?_⟩, ?_⟩
  · intro member
    have notBlank := List.all_eq_true.mp (List.all_takeWhile (p := isNotSpace) (l := text)) _ member
    simp [isNotSpace] at notBlank
  · cases rest : text.dropWhile isNotSpace with
    | nil => simp [rest] at more
    | cons first others =>
        rw [rest, List.head?_cons] at stops
        have isBlank : isSpaceChar first = true := by
          simpa [isNotSpace, isSpaceChar] using stops
        rw [List.takeWhile_cons_of_pos isBlank]
        exact List.cons_ne_nil _ _
  · intro char member
    have isBlank := List.all_eq_true.mp List.all_takeWhile char member
    simpa [isSpaceChar] using isBlank
  · rw [List.takeWhile_append_dropWhile, List.takeWhile_append_dropWhile]

theorem takeWhile_isNotSpace_ne_nil {text : Bytes} (nonempty : text ≠ [])
    (starts : text.head? ≠ some charSpace) : text.takeWhile isNotSpace ≠ [] := by
  rcases List.exists_cons_of_ne_nil nonempty with ⟨first, others, rfl⟩
  have isToken : isNotSpace first = true := by
    simpa [isNotSpace] using starts
  rw [List.takeWhile_cons_of_pos isToken]
  exact List.cons_ne_nil _ _

/-- What the scans of the code find are the parts of the line. -/
theorem splitRequestLine_eq_some_iff (line method path version : Bytes) :
    splitRequestLine line = some (method, path, version) ↔
      IsVersion version ∧ ∃ gap nextGap, RequestLineParts line method gap path nextGap version := by
  constructor
  · intro found
    simp only [splitRequestLine] at found
    split_ifs at found with missing
    cases found
    simp only [List.isEmpty_iff, not_or] at missing
    rcases missing with ⟨methodNonempty, afterNonempty, versionNonempty⟩
    rcases exists_gap methodNonempty afterNonempty with ⟨gap, isMethod, isGap, lineEq⟩
    have pathNonempty := takeWhile_isNotSpace_ne_nil afterNonempty
      (head?_dropWhile_isSpaceChar _)
    rcases exists_gap pathNonempty versionNonempty with ⟨nextGap, isPath, isNextGap, restEq⟩
    refine ⟨⟨versionNonempty, head?_dropWhile_isSpaceChar _⟩, gap, nextGap, ?_, isMethod, isGap,
      isPath, isNextGap⟩
    rw [← restEq]
    exact lineEq
  · rintro ⟨isVersion, gap, nextGap, parts⟩
    exact parts.splitRequestLine_eq isVersion

/-- There is one way at most to take a request line apart. -/
theorem RequestLineParts.unique {line method gap path nextGap version : Bytes}
    {otherMethod otherGap otherPath otherNextGap otherVersion : Bytes}
    (parts : RequestLineParts line method gap path nextGap version)
    (isVersion : IsVersion version)
    (otherParts :
      RequestLineParts line otherMethod otherGap otherPath otherNextGap otherVersion)
    (isOtherVersion : IsVersion otherVersion) :
    (method, gap, path, nextGap, version) =
      (otherMethod, otherGap, otherPath, otherNextGap, otherVersion) := by
  have found := otherParts.splitRequestLine_eq isOtherVersion
  rw [parts.splitRequestLine_eq isVersion] at found
  cases found
  have lineEq := parts.line_eq.symm.trans otherParts.line_eq
  have restEq := List.append_cancel_left lineEq
  have afterEq := (parts.scans isVersion.2).2.1.symm.trans (otherParts.scans isOtherVersion.2).2.1
  rw [afterEq] at restEq
  have nextGapEq : nextGap = otherNextGap :=
    List.append_cancel_right (List.append_cancel_left afterEq)
  rw [List.append_cancel_right restEq, nextGapEq]

theorem parseRequestLine_of_some (parser : HttpParser) {line method path version : Bytes}
    (found : splitRequestLine line = some (method, path, version)) :
    (parser.parseRequestLine line).1 = (if version = ascii "HTTP/1.1" then .ok else .version) ∧
      (parser.parseRequestLine line).2.1 = (method, path, version) := by
  simp only [parseRequestLine, found]
  split_ifs <;> exact ⟨rfl, rfl⟩

theorem parseRequestLine_of_none (parser : HttpParser) {line : Bytes}
    (nothing : splitRequestLine line = none) : (parser.parseRequestLine line).1 = .invalid := by
  simp only [parseRequestLine, nothing]

theorem splitRequestLine_eq_none_iff (line : Bytes) :
    splitRequestLine line = none ↔
      ¬∃ method gap path nextGap version,
        RequestLineParts line method gap path nextGap version ∧ IsVersion version := by
  constructor
  · rintro nothing ⟨method, gap, path, nextGap, version, parts, isVersion⟩
    rw [parts.splitRequestLine_eq isVersion] at nothing
    cases nothing
  · intro noParts
    cases found : splitRequestLine line with
    | none => rfl
    | some triple =>
        rcases triple with ⟨method, path, version⟩
        rcases (splitRequestLine_eq_some_iff _ _ _ _).mp found with
          ⟨isVersion, gap, nextGap, parts⟩
        exact absurd ⟨method, gap, path, nextGap, version, parts, isVersion⟩ noParts

theorem parseRequestLine_ok_iff (parser : HttpParser) (line method path version : Bytes) :
    ((parser.parseRequestLine line).1 = .ok ∧
        (parser.parseRequestLine line).2.1 = (method, path, version)) ↔
      version = ascii "HTTP/1.1" ∧
        ∃ gap nextGap, RequestLineParts line method gap path nextGap version := by
  constructor
  · rintro ⟨accepted, outputs⟩
    cases found : splitRequestLine line with
    | none =>
        rw [parser.parseRequestLine_of_none found] at accepted
        cases accepted
    | some triple =>
        rcases triple with ⟨_, _, _⟩
        rcases parser.parseRequestLine_of_some found with ⟨status, extracted⟩
        rw [extracted, Prod.mk.injEq, Prod.mk.injEq] at outputs
        rcases outputs with ⟨rfl, rfl, rfl⟩
        rw [status] at accepted
        split_ifs at accepted with supported
        exact ⟨supported, ((splitRequestLine_eq_some_iff _ _ _ _).mp found).2⟩
  · rintro ⟨rfl, parts⟩
    have found : splitRequestLine line = some (method, path, ascii "HTTP/1.1") :=
      (splitRequestLine_eq_some_iff _ _ _ _).mpr ⟨⟨by decide, by decide⟩, parts⟩
    rcases parser.parseRequestLine_of_some found with ⟨status, extracted⟩
    exact ⟨status, extracted⟩

theorem parseRequestLine_version_iff (parser : HttpParser) (line : Bytes) :
    (parser.parseRequestLine line).1 = .version ↔
      ∃ method gap path nextGap version,
        RequestLineParts line method gap path nextGap version ∧ IsVersion version ∧
          version ≠ ascii "HTTP/1.1" := by
  constructor
  · intro refused
    cases found : splitRequestLine line with
    | none =>
        rw [parser.parseRequestLine_of_none found] at refused
        cases refused
    | some triple =>
        rcases triple with ⟨method, path, version⟩
        rcases (splitRequestLine_eq_some_iff _ _ _ _).mp found with
          ⟨isVersion, gap, nextGap, parts⟩
        rw [(parser.parseRequestLine_of_some found).1] at refused
        split_ifs at refused with supported
        exact ⟨method, gap, path, nextGap, version, parts, isVersion, supported⟩
  · rintro ⟨method, gap, path, nextGap, version, parts, isVersion, other⟩
    rw [(parser.parseRequestLine_of_some (parts.splitRequestLine_eq isVersion)).1, if_neg other]

theorem parseRequestLine_invalid_iff (parser : HttpParser) (line : Bytes) :
    (parser.parseRequestLine line).1 = .invalid ↔ splitRequestLine line = none := by
  constructor
  · intro refused
    cases found : splitRequestLine line with
    | none => rfl
    | some triple =>
        rcases triple with ⟨_, _, _⟩
        rw [(parser.parseRequestLine_of_some found).1] at refused
        split_ifs at refused
  · exact parser.parseRequestLine_of_none

/-- The result of `parse_request_line` by the grammar: which lines it accepts with which parts, and
which error it reports for the others. -/
theorem parseRequestLine_exact (parser : HttpParser) (line : Bytes) :
    (∀ method path version,
      ((parser.parseRequestLine line).1 = .ok ∧
          (parser.parseRequestLine line).2.1 = (method, path, version)) ↔
        version = ascii "HTTP/1.1" ∧
          ∃ gap nextGap, RequestLineParts line method gap path nextGap version) ∧
    (∀ method gap path nextGap version otherMethod otherGap otherPath otherNextGap otherVersion,
      RequestLineParts line method gap path nextGap version → IsVersion version →
      RequestLineParts line otherMethod otherGap otherPath otherNextGap otherVersion →
      IsVersion otherVersion →
        (method, gap, path, nextGap, version) =
          (otherMethod, otherGap, otherPath, otherNextGap, otherVersion)) ∧
    ((parser.parseRequestLine line).1 = .version ↔
      ∃ method gap path nextGap version,
        RequestLineParts line method gap path nextGap version ∧ IsVersion version ∧
          version ≠ ascii "HTTP/1.1") ∧
    ((parser.parseRequestLine line).1 = .invalid ↔
      ¬∃ method gap path nextGap version,
        RequestLineParts line method gap path nextGap version ∧ IsVersion version) := by
  refine ⟨parser.parseRequestLine_ok_iff line, ?_, parser.parseRequestLine_version_iff line, ?_⟩
  · intro _ _ _ _ _ _ _ _ _ _ parts isVersion otherParts isOtherVersion
    exact parts.unique isVersion otherParts isOtherVersion
  · rw [parser.parseRequestLine_invalid_iff]
    exact splitRequestLine_eq_none_iff line

/-! ## Header lines and header blocks -/

/-- Neither end of the text is a blank. -/
def Trimmed (text : Bytes) : Prop :=
  ∀ blank ∈ [charSpace, charTab], text.head? ≠ some blank ∧ text.getLast? ≠ some blank

instance (text : Bytes) : Decidable (Trimmed text) :=
  inferInstanceAs (Decidable (∀ _ ∈ _, _))

theorem trimmed_of_not_mem {text : Bytes} (noSpace : charSpace ∉ text) (noTab : charTab ∉ text) :
    Trimmed text := by
  have ends {blank : UInt8} (none : blank ∉ text) :
      text.head? ≠ some blank ∧ text.getLast? ≠ some blank :=
    ⟨fun first => none (List.mem_of_head? first), fun last => none (List.mem_of_getLast? last)⟩
  intro blank member
  simp only [List.mem_cons, List.not_mem_nil, or_false] at member
  rcases member with rfl | rfl
  · exact ends noSpace
  · exact ends noTab

theorem dropWhile_isBlank {text : Bytes}
    (starts : ∀ blank ∈ [charSpace, charTab], text.head? ≠ some blank) :
    text.dropWhile isBlank = text := by
  cases text with
  | nil => rfl
  | cons first text =>
      have other : isBlank first = false := by
        rw [isBlank, decide_eq_false_iff_not]
        rintro (rfl | rfl)
        · exact starts charSpace (by decide) rfl
        · exact starts charTab (by decide) rfl
      rw [List.dropWhile_cons_of_neg]
      rw [other]
      exact Bool.false_ne_true

theorem Trimmed.trim_eq {text : Bytes} (trimmed : Trimmed text) : trim text = text := by
  have back : text.reverse.dropWhile isBlank = text.reverse := by
    apply dropWhile_isBlank
    intro blank member
    rw [List.head?_reverse]
    exact (trimmed blank member).2
  rw [trim, dropWhile_isBlank fun blank member => (trimmed blank member).1, back,
    List.reverse_reverse]

/-- The blank that `build_response` puts after the colon is trimmed away again. -/
theorem Trimmed.trim_cons {text : Bytes} (trimmed : Trimmed text) :
    trim (charSpace :: text) = text := by
  have front : (charSpace :: text).dropWhile isBlank = text.dropWhile isBlank :=
    List.dropWhile_cons_of_pos (by decide)
  rw [trim, front]
  exact trimmed.trim_eq

/-- A header line with its trimmed name and value: what is before the first colon and after it. -/
structure HeaderLineParts (line : Bytes) (field : Bytes × Bytes) (before after : Bytes) :
    Prop where
  line_eq : line = before ++ (charColon :: after)
  first_colon : charColon ∉ before
  name_eq : field.1 = trim before
  value_eq : field.2 = trim after

/-- The header lines of the grammar, with the field that each holds. -/
structure IsHeaderLine (line : HttpLine) (field : Bytes × Bytes) : Prop where
  nonempty : line.1 ≠ []
  short : line.1.length < maxHeaderLineLen
  parts : ∃ before after, HeaderLineParts line.1 field before after
  name_nonempty : field.1 ≠ []
  name_short : field.1.length ≤ maxHeaderNameLen
  value_short : field.2.length ≤ maxHeaderValueLen

theorem HeaderLineParts.scans {line : Bytes} {field : Bytes × Bytes} {before after : Bytes}
    (parts : HeaderLineParts line field before after) :
    line.takeWhile isNotColon = before ∧ line.dropWhile isNotColon = charColon :: after := by
  have inside : ∀ char ∈ before, isNotColon char = true := by
    intro char member
    simp only [isNotColon, decide_eq_true_eq]
    rintro rfl
    exact parts.first_colon member
  rw [parts.line_eq, List.takeWhile_append_of_pos inside, List.dropWhile_append_of_pos inside]
  simp [isNotColon]

/-- `parse_header` finds the field that the line holds by the grammar. -/
theorem splitHeader_eq_ok_iff (line : Bytes) (field : Bytes × Bytes) :
    splitHeader line = .ok field ↔
      (∃ before after, HeaderLineParts line field before after) ∧ field.1 ≠ [] ∧
        field.1.length ≤ maxHeaderNameLen ∧ field.2.length ≤ maxHeaderValueLen := by
  constructor
  · intro parsed
    have lineEq := (List.takeWhile_append_dropWhile (p := isNotColon) (l := line)).symm
    cases rest : line.dropWhile isNotColon with
    | nil => simp [splitHeader, rest] at parsed
    | cons colon afterColon =>
        have stops := List.head?_dropWhile_not isNotColon line
        have isColon : colon = charColon := by
          rw [rest, List.head?_cons] at stops
          simpa [isNotColon] using stops
        simp only [splitHeader, rest] at parsed
        split_ifs at parsed with empty longName longValue
        cases parsed
        refine ⟨⟨_, afterColon, ?_, ?_, rfl, rfl⟩, ?_, Nat.not_lt.mp longName,
          Nat.not_lt.mp longValue⟩
        · rw [← isColon, ← rest]
          exact lineEq
        · intro member
          have notColon := List.all_eq_true.mp List.all_takeWhile _ member
          simp [isNotColon] at notColon
        · simpa using empty
  · rintro ⟨⟨before, after, parts⟩, nonempty, shortName, shortValue⟩
    rcases parts.scans with ⟨nameEq, restEq⟩
    rw [parts.name_eq] at nonempty shortName
    rw [parts.value_eq] at shortValue
    simp only [splitHeader, restEq, nameEq, List.isEmpty_iff, nonempty, if_false,
      Nat.not_lt.mpr shortName, Nat.not_lt.mpr shortValue]
    rw [← parts.name_eq, ← parts.value_eq]

theorem splitHeader_error_ne_ok {line : Bytes} {failure : ProtocolStatus × String}
    (refused : splitHeader line = .error failure) : failure.1 ≠ .ok := by
  cases rest : line.dropWhile isNotColon with
  | nil =>
      simp only [splitHeader, rest, Except.error.injEq] at refused
      rw [← refused]
      exact ProtocolStatus.noConfusion
  | cons colon afterColon =>
      simp only [splitHeader, rest] at refused
      split_ifs at refused <;> cases refused <;> exact ProtocolStatus.noConfusion

theorem isHeaderLine_iff (line : HttpLine) (field : Bytes × Bytes) :
    IsHeaderLine line field ↔
      line.1.length < maxHeaderLineLen ∧ splitHeader line.1 = .ok field := by
  rw [splitHeader_eq_ok_iff]
  constructor
  · intro isLine
    exact ⟨isLine.short, isLine.parts, isLine.name_nonempty, isLine.name_short,
      isLine.value_short⟩
  · rintro ⟨short, ⟨before, after, parts⟩, nonempty, shortName, shortValue⟩
    refine ⟨?_, short, ⟨before, after, parts⟩, nonempty, shortName, shortValue⟩
    rw [parts.line_eq]
    simp

theorem IsHeaderLine.validHeader {line : HttpLine} {field : Bytes × Bytes}
    (isLine : IsHeaderLine line field) : ValidHeader line := by
  rcases (isHeaderLine_iff line field).mp isLine with ⟨short, parsed⟩
  refine ⟨short, ?_⟩
  rw [parsed]
  rfl

theorem validHeader_of_areLines {lines : List HttpLine} {fields : List (Bytes × Bytes)}
    (areLines : List.Forall₂ IsHeaderLine lines fields) : ∀ line ∈ lines, ValidHeader line := by
  induction areLines with
  | nil => exact List.forall_mem_nil _
  | cons isLine areLines ih => exact List.forall_mem_cons.mpr ⟨isLine.validHeader, ih⟩

/-- The map after the fields have been stored one after the other. -/
def fieldsMap (fields : List (Bytes × Bytes)) : HttpHeaders :=
  fields.foldl (fun headers field => headers.insert field.1 field.2) ∅

theorem foldl_addField_eq {lines : List HttpLine} {fields : List (Bytes × Bytes)}
    (areLines : List.Forall₂ IsHeaderLine lines fields) (headers : HttpHeaders) :
    lines.foldl addField headers =
      fields.foldl (fun headers field => headers.insert field.1 field.2) headers := by
  induction areLines generalizing headers with
  | nil => rfl
  | @cons line field lines fields isLine areLines ih =>
      have added : addField headers line = headers.insert field.1 field.2 := by
        rw [addField, ((isHeaderLine_iff line field).mp isLine).2]
      rw [List.foldl_cons, List.foldl_cons, added, ih]

/-- `parse_headers` found a complete header block: its lines with their fields, at most as many as
there is room for, an empty line, and what is behind it. -/
structure HeaderBlock (room : ℕ) (contents : Bytes) (fields : List (Bytes × Bytes))
    (rest : Bytes) : Prop where
  few : fields.length ≤ room
  lines : ∃ lines : List HttpLine, List.Forall₂ IsHeaderLine lines fields ∧
    contents = lines.flatMap HttpLine.encode ++ (crlf ++ rest)

theorem HeaderBlock.cons {room : ℕ} {contents rest later : Bytes} {line : HttpLine}
    {field : Bytes × Bytes} {fields : List (Bytes × Bytes)} (isLine : IsHeaderLine line field)
    (contentsEq : contents = line.encode ++ later) (block : HeaderBlock room later fields rest) :
    HeaderBlock (room + 1) contents (field :: fields) rest := by
  rcases block.lines with ⟨lines, areLines, laterEq⟩
  refine ⟨Nat.succ_le_succ block.few, line :: lines, List.Forall₂.cons isLine areLines, ?_⟩
  rw [contentsEq, laterEq, List.flatMap_cons, List.append_assoc]

/-- What `read_line` has taken off is a line. -/
theorem exists_line_of_readLine_ok {parser parserAfter : HttpParser} {buffer after : Buffer}
    {maxLen : ℕ} {line : Bytes}
    (read : parser.readLine buffer maxLen = (.ok, line, parserAfter, after)) :
    parserAfter = parser ∧ parser.bufferSet = true ∧ line.length < maxLen ∧
      ∃ noCrlf : findCrlf line = none,
        buffer.contents = HttpLine.encode ⟨line, noCrlf⟩ ++ after.contents := by
  simp only [readLine] at read
  split_ifs at read with unset
  · cases read
  · cases found : findCrlf buffer.contents with
    | none =>
        rw [found] at read
        cases read
    | some pos =>
        simp only [found] at read
        split_ifs at read with long
        · cases read
        · cases read
          rcases findCrlf_some found with ⟨line, rest, contentsEq, lengthEq, noCrlf⟩
          have taken : buffer.contents.take pos = line := by
            rw [contentsEq, ← lengthEq, List.take_left]
          have dropped : buffer.contents.drop (pos + 2) = rest := by
            rw [contentsEq, ← List.append_assoc]
            exact List.drop_left' (by simp [crlf, lengthEq])
          refine ⟨rfl, by simpa using unset, ?_, ?_, ?_⟩
          · rw [taken, lengthEq]
            exact Nat.not_le.mp long
          · rw [taken]
            exact noCrlf
          · simp only [HttpLine.encode, taken, Buffer.contents_skip, dropped, List.append_assoc]
            exact contentsEq

/-- The loop of `parse_headers` succeeds on header blocks only. -/
theorem exists_block_of_parseHeadersLoop_ok {remaining : ℕ} {parser parserAfter : HttpParser}
    {buffer after : Buffer} {headers headersAfter : HttpHeaders}
    (parsed : parseHeadersLoop remaining parser buffer headers =
      (.ok, headersAfter, parserAfter, after)) :
    ∃ fields, HeaderBlock remaining buffer.contents fields after.contents ∧
      headersAfter =
        fields.foldl (fun headers field => headers.insert field.1 field.2) headers := by
  induction remaining generalizing parser buffer headers with
  | zero =>
      rcases read : parser.readLine buffer maxHeaderLineLen with ⟨ret, line, middle, rest⟩
      rw [parseHeadersLoop, read] at parsed
      cases ret with
      | ok =>
          rcases exists_line_of_readLine_ok read with ⟨_, _, _, _, contentsEq⟩
          cases line with
          | nil =>
              cases parsed
              exact ⟨[], ⟨Nat.le_refl 0, [], List.Forall₂.nil, contentsEq⟩, rfl⟩
          | cons first line => cases parsed
      | _ => cases parsed
  | succ remaining ih =>
      rcases read : parser.readLine buffer maxHeaderLineLen with ⟨ret, line, middle, rest⟩
      rw [parseHeadersLoop, read] at parsed
      cases ret with
      | ok =>
          rcases exists_line_of_readLine_ok read with ⟨_, _, short, noCrlf, contentsEq⟩
          cases line with
          | nil =>
              cases parsed
              exact ⟨[], ⟨Nat.zero_le _, [], List.Forall₂.nil, contentsEq⟩, rfl⟩
          | cons first line =>
              simp only at parsed
              cases split : splitHeader (first :: line) with
              | error failure =>
                  simp only [split, Prod.mk.injEq] at parsed
                  exact absurd parsed.1 (splitHeader_error_ne_ok split)
              | ok field =>
                  rw [split] at parsed
                  rcases ih parsed with ⟨fields, block, headersEq⟩
                  have isLine : IsHeaderLine ⟨first :: line, noCrlf⟩ field :=
                    (isHeaderLine_iff _ _).mpr ⟨short, split⟩
                  exact ⟨field :: fields, block.cons isLine contentsEq, headersEq⟩
      | _ => cases parsed

/-- `parse_headers` succeeds on exactly the header blocks. It returns the map of the fields in their
order, and leaves what is behind the empty line. -/
theorem parseHeaders_ok_iff {parser : HttpParser} (ready : parser.bufferSet = true)
    (buffer : Buffer) (headers : HttpHeaders) (rest : Bytes) :
    ((parser.parseHeaders buffer).1 = .ok ∧ (parser.parseHeaders buffer).2.1 = headers ∧
        (parser.parseHeaders buffer).2.2.2.contents = rest) ↔
      ∃ fields, HeaderBlock maxHeaders buffer.contents fields rest ∧
        headers = fieldsMap fields := by
  constructor
  · rcases parsed : parser.parseHeaders buffer with ⟨status, found, parserAfter, after⟩
    rintro ⟨rfl, rfl, rfl⟩
    exact exists_block_of_parseHeadersLoop_ok parsed
  · rintro ⟨fields, ⟨few, lines, areLines, contentsEq⟩, rfl⟩
    rw [← areLines.length_eq] at few
    rcases parseHeaders_complete ready (validHeader_of_areLines areLines) few contentsEq with
      ⟨after, afterEq, parsed⟩
    rw [parsed]
    exact ⟨rfl, foldl_addField_eq areLines ∅, afterEq⟩

/-- One header line and its empty line, with more behind them. -/
theorem parseHeaders_ok_iff_host :
    (parseHeaders { bufferSet := true }
        (Buffer.construct.write .always (ascii "Host: a\r\n\r\nGET")).2).1 = .ok := by
  have contentsEq :
      (Buffer.construct.write .always (ascii "Host: a\r\n\r\nGET")).2.contents =
        ascii "Host: a\r\n\r\nGET" :=
    (Buffer.construct.write_of_fits (by decide)).2
  have isLine : IsHeaderLine ⟨ascii "Host: a", by decide⟩ (ascii "Host", ascii "a") :=
    (isHeaderLine_iff _ _).mpr ⟨by decide, by decide⟩
  have block : HeaderBlock maxHeaders (ascii "Host: a\r\n\r\nGET")
      [(ascii "Host", ascii "a")] (ascii "GET") :=
    ⟨by decide, [_], List.Forall₂.cons isLine List.Forall₂.nil, by decide⟩
  rw [← contentsEq] at block
  exact ((parseHeaders_ok_iff rfl _ _ _).mpr ⟨_, block, rfl⟩).1

/-! ## The length limit of a line -/

/-- A `\r\n` starts at the position. -/
def CrlfAt (text : Bytes) (pos : ℕ) : Prop := crlf <+: text.drop pos

theorem crlfAt_of_findCrlf {text : Bytes} {pos : ℕ} (found : findCrlf text = some pos) :
    CrlfAt text pos := by
  rcases findCrlf_some found with ⟨line, rest, rfl, rfl, _⟩
  rw [CrlfAt, List.drop_left]
  exact List.prefix_append crlf rest

theorem exists_findCrlf_le {text : Bytes} {pos : ℕ} (at_pos : CrlfAt text pos) :
    ∃ found ≤ pos, findCrlf text = some found := by
  induction text generalizing pos with
  | nil => simp [CrlfAt, crlf] at at_pos
  | cons first text ih =>
      cases text with
      | nil =>
          have short := List.IsPrefix.length_le at_pos
          simp [crlf] at short
          omega
      | cons second text =>
          simp only [findCrlf]
          split_ifs with atFront
          · exact ⟨0, Nat.zero_le pos, rfl⟩
          · cases pos with
            | zero =>
                rw [CrlfAt, List.drop_zero, crlf, List.cons_prefix_cons, List.cons_prefix_cons]
                  at at_pos
                exact absurd ⟨at_pos.1.symm, at_pos.2.1.symm⟩ atFront
            | succ pos =>
                rcases ih at_pos with ⟨found, le, foundEq⟩
                exact ⟨found + 1, Nat.succ_le_succ le, by rw [foundEq]; rfl⟩

/-- The search finds the first `\r\n`. -/
theorem findCrlf_eq_some_iff (text : Bytes) (pos : ℕ) :
    findCrlf text = some pos ↔ CrlfAt text pos ∧ ∀ earlier < pos, ¬ CrlfAt text earlier := by
  constructor
  · intro found
    refine ⟨crlfAt_of_findCrlf found, ?_⟩
    intro earlier before atEarlier
    rcases exists_findCrlf_le atEarlier with ⟨other, le, otherFound⟩
    rw [found, Option.some.injEq] at otherFound
    omega
  · rintro ⟨atPos, noEarlier⟩
    rcases exists_findCrlf_le atPos with ⟨found, le, foundEq⟩
    have notBefore : ¬ found < pos :=
      fun before => noEarlier found before (crlfAt_of_findCrlf foundEq)
    rw [← Nat.le_antisymm le (Nat.not_lt.mp notBefore)]
    exact foundEq

theorem findCrlf_eq_none_iff (text : Bytes) :
    findCrlf text = none ↔ ∀ pos, ¬ CrlfAt text pos := by
  constructor
  · intro nothing pos atPos
    rcases exists_findCrlf_le atPos with ⟨found, _, foundEq⟩
    rw [nothing] at foundEq
    cases foundEq
  · intro nowhere
    cases found : findCrlf text with
    | none => rfl
    | some pos => exact absurd (crlfAt_of_findCrlf found) (nowhere pos)

theorem findCrlf_nil : findCrlf [] = none :=
  rfl

theorem findCrlf_of_not_mem {text : Bytes} (noCr : charCr ∉ text) : findCrlf text = none := by
  rw [findCrlf_eq_none_iff]
  intro pos atPos
  apply noCr
  apply List.mem_of_mem_drop
  exact List.IsPrefix.subset atPos List.mem_cons_self

theorem add_two_le_of_crlfAt {text : Bytes} {pos : ℕ} (atPos : CrlfAt text pos) :
    pos + 2 ≤ text.length := by
  have fits := List.IsPrefix.length_le atPos
  simp only [crlf, List.length_cons, List.length_nil, List.length_drop] at fits
  omega

/-- What `read_line` is to do. `CRLF` below the limit: the line is taken off. More bytes than the
limit without one: the line is refused. Else the parser waits. -/
structure ReadLineContract (parser : HttpParser) (buffer : Buffer) (maxLen : ℕ) : Prop where
  taken : ∀ pos,
    ((parser.readLine buffer maxLen).1 = .ok ∧
        (parser.readLine buffer maxLen).2.1 = buffer.contents.take pos ∧
        (parser.readLine buffer maxLen).2.2.2.contents = buffer.contents.drop (pos + 2)) ↔
      pos < maxLen ∧ CrlfAt buffer.contents pos ∧
        ∀ earlier < pos, ¬ CrlfAt buffer.contents earlier
  refused :
    (parser.readLine buffer maxLen).1 = .tooLong ↔
      maxLen + 1 ≤ buffer.contents.length ∧ ∀ pos < maxLen, ¬ CrlfAt buffer.contents pos
  waits :
    (parser.readLine buffer maxLen).1 ≠ .ok → (parser.readLine buffer maxLen).1 ≠ .tooLong →
      (parser.readLine buffer maxLen).1 = .eagain
  unchanged :
    (parser.readLine buffer maxLen).1 ≠ .ok → (parser.readLine buffer maxLen).2.2.2 = buffer

theorem readLine_of_found {parser : HttpParser} (ready : parser.bufferSet = true)
    {buffer : Buffer} {pos maxLen : ℕ} (found : findCrlf buffer.contents = some pos) :
    parser.readLine buffer maxLen =
      if maxLen ≤ pos then (.tooLong, [], parser.setError .tooLong "Line too long", buffer)
      else (.ok, buffer.contents.take pos, parser, buffer.skip (pos + 2)) := by
  simp [readLine, ready, found]

/-- With a `\r\n` in the buffer, the limit is applied as it should be. -/
theorem readLineContract_of_found {parser : HttpParser} (ready : parser.bufferSet = true)
    {buffer : Buffer} {pos maxLen : ℕ} (found : findCrlf buffer.contents = some pos) :
    ReadLineContract parser buffer maxLen := by
  rcases (findCrlf_eq_some_iff _ _).mp found with ⟨atPos, noEarlier⟩
  have inside := add_two_le_of_crlfAt atPos
  have first (other : ℕ) : (CrlfAt buffer.contents other ∧
      ∀ earlier < other, ¬ CrlfAt buffer.contents earlier) ↔ other = pos := by
    rw [← findCrlf_eq_some_iff, found, Option.some.injEq, eq_comm]
  have readEq : parser.readLine buffer maxLen = _ := readLine_of_found ready found
  split_ifs at readEq with long
  · have short : ¬ ∃ earlier < maxLen, CrlfAt buffer.contents earlier := by
      rintro ⟨earlier, below, atEarlier⟩
      exact noEarlier earlier (by omega) atEarlier
    refine ⟨?_, ?_, ?_, ?_⟩ <;> rw [readEq]
    · intro other
      simp only [reduceCtorEq, false_and, false_iff, not_and]
      intro below atOther
      exact absurd ⟨other, below, atOther⟩ short
    · refine iff_of_true rfl ⟨by omega, ?_⟩
      intro other below atOther
      exact short ⟨other, below, atOther⟩
    · intro _ notRefused
      exact absurd rfl notRefused
    · intro _
      rfl
  · refine ⟨?_, ?_, ?_, ?_⟩ <;> rw [readEq]
    · intro other
      rw [first, Buffer.contents_skip]
      constructor
      · rintro ⟨_, takenEq, _⟩
        have lengths := congrArg List.length takenEq
        rw [List.length_take, List.length_take] at lengths
        omega
      · rintro ⟨_, rfl⟩
        exact ⟨rfl, rfl, rfl⟩
    · simp only [reduceCtorEq, false_iff, not_and, not_forall, not_not]
      intro _
      exact ⟨pos, Nat.not_le.mp long, atPos⟩
    · intro notTaken
      exact absurd rfl notTaken
    · intro notTaken
      exact absurd rfl notTaken

/-- Without one, nothing is refused however much has arrived. -/
theorem readLineContract_of_nothing_found {parser : HttpParser}
    (ready : parser.bufferSet = true) {buffer : Buffer}
    (nothing : findCrlf buffer.contents = none) (maxLen : ℕ) :
    ReadLineContract parser buffer maxLen ↔ buffer.contents.length ≤ maxLen := by
  have nowhere := (findCrlf_eq_none_iff _).mp nothing
  have readEq := readLine_of_incomplete ready nothing maxLen
  constructor
  · intro contract
    by_contra long
    have refused := contract.refused.mpr ⟨by omega, fun pos _ => nowhere pos⟩
    rw [readEq] at refused
    cases refused
  · intro short
    refine ⟨?_, ?_, ?_, ?_⟩ <;> rw [readEq]
    · intro pos
      simp [nowhere pos]
    · simp only [reduceCtorEq, false_iff, not_and]
      intro long
      omega
    · intro _ _
      rfl
    · intro _
      rfl

/-- `read_line` does what it is to do exactly if there is a `\r\n` in the buffer, or no more than
the limit without one. -/
theorem readLineContract_iff {parser : HttpParser} (ready : parser.bufferSet = true)
    (buffer : Buffer) (maxLen : ℕ) :
    ReadLineContract parser buffer maxLen ↔
      (∃ pos, CrlfAt buffer.contents pos) ∨ buffer.contents.length ≤ maxLen := by
  cases found : findCrlf buffer.contents with
  | none =>
      have nowhere := (findCrlf_eq_none_iff _).mp found
      rw [readLineContract_of_nothing_found ready found, or_iff_right]
      exact not_exists.mpr nowhere
  | some pos =>
      refine iff_of_true (readLineContract_of_found ready found) (Or.inl ⟨pos, ?_⟩)
      exact crlfAt_of_findCrlf found

theorem readLineContract_iff_new :
    ReadLineContract { bufferSet := true } Buffer.construct maxLineLen ↔
      (∃ pos, CrlfAt Buffer.construct.contents pos) ∨
        Buffer.construct.contents.length ≤ maxLineLen :=
  readLineContract_iff rfl Buffer.construct maxLineLen

/-- A line of 8193 bytes is still waited for. -/
theorem readLineContract_fails :
    ¬ ReadLineContract { bufferSet := true }
      (Buffer.construct.write .always (List.replicate 8193 charSpace)).2 maxLineLen := by
  have contentsEq :
      (Buffer.construct.write .always (List.replicate 8193 charSpace)).2.contents =
        List.replicate 8193 charSpace := by
    refine (Buffer.write_of_fits _ ?_).2
    rw [List.length_replicate]
    decide
  have noCr : charCr ∉ List.replicate 8193 charSpace := by
    rw [List.mem_replicate]
    decide
  have nothing := findCrlf_of_not_mem noCr
  rw [← contentsEq] at nothing
  rw [readLineContract_of_nothing_found rfl nothing, contentsEq, List.length_replicate]
  decide

end HttpParser

end HttpsServerSim
