import HttpsServerSim.Protocol.Http1Handler

/-!
# What the loop of `on_read` can end in

However far the loop gets, it ends in one of three ways: the handler waits for more bytes,
or it refuses the request, or the request is complete. Until then only the state, the
request, the parser and the buffer change. What is true of the three ends is true of
`on_read`.
-/

namespace HttpsServerSim

universe u

/-- A reader that waits for the end of a line has taken nothing. -/
theorem HttpParser.readLine_of_eagain {parser : HttpParser} {buffer : Buffer} {maxLen : ℕ}
    (waits : (parser.readLine buffer maxLen).1 = .eagain) :
    (parser.readLine buffer maxLen).2.2.2 = buffer := by
  simp only [readLine] at waits ⊢
  split_ifs
  · rfl
  · split
    · rfl
    · split_ifs
      · rfl
      · simp_all

namespace Http1Handler

variable {Tls : Type u}

/-- Only the state, the request, the parser and the buffer may differ. -/
structure Carried (before after : Http1Handler Tls) : Prop where
  connSet : after.connSet = before.connSet
  tlsHandler : after.tlsHandler = before.tlsHandler
  response : after.response = before.response
  completed : after.completed = before.completed

theorem Carried.trans {before middle after : Http1Handler Tls} (first : Carried before middle)
    (second : Carried middle after) : Carried before after :=
  ⟨second.connSet.trans first.connSet, second.tlsHandler.trans first.tlsHandler,
    second.response.trans first.response, second.completed.trans first.completed⟩

/-- The handler waits for the end of a request line, and has everything still in its buffer. -/
structure StillWaits (before : Http1Handler Tls) (result : ProtocolStatus × Http1Handler Tls) :
    Prop where
  status : result.1 = .ok
  carried : Carried before result.2
  state : result.2.state = before.state
  request : result.2.request = before.request
  buffer : result.2.plaintextBuffer = before.plaintextBuffer

variable [TlsLayer Tls]

/-- The ends of the loop once the request line is there. -/
inductive ParseEnd (handler : Http1Handler Tls) : ProtocolStatus × Http1Handler Tls → Prop where
  | waits {after : Http1Handler Tls} (carried : Carried handler after)
      (state : after.state = .expectHeaders ∨ after.state = .expectBody) :
      ParseEnd handler (.ok, after)
  | refuses {middle : Http1Handler Tls} (carried : Carried handler middle) :
      ParseEnd handler middle.reject
  | completes {middle : Http1Handler Tls} (carried : Carried handler middle)
      (state : middle.state = .expectComplete) : ParseEnd handler middle.expectComplete

theorem ParseEnd.of_middle {handler middle : Http1Handler Tls}
    {result : ProtocolStatus × Http1Handler Tls} (ends : ParseEnd middle result)
    (carried : Carried handler middle) : ParseEnd handler result := by
  cases ends with
  | waits later state => exact .waits (carried.trans later) state
  | refuses later => exact .refuses (carried.trans later)
  | completes later state => exact .completes (carried.trans later) state

theorem expectBody_ends {handler : Http1Handler Tls} (state : handler.state = .expectBody) :
    ParseEnd handler handler.expectBody := by
  simp only [expectBody]
  split_ifs
  · exact .completes ⟨rfl, rfl, rfl, rfl⟩ rfl
  · exact .waits ⟨rfl, rfl, rfl, rfl⟩ (Or.inr state)

theorem headersComplete_ends (handler : Http1Handler Tls) :
    ParseEnd handler handler.headersComplete := by
  simp only [headersComplete]
  split_ifs
  · exact .refuses ⟨rfl, rfl, rfl, rfl⟩
  · split
    · exact .refuses ⟨rfl, rfl, rfl, rfl⟩
    · split_ifs
      · refine ParseEnd.of_middle (expectBody_ends rfl) ?_
        exact ⟨rfl, rfl, rfl, rfl⟩
      · exact .completes ⟨rfl, rfl, rfl, rfl⟩ rfl

theorem expectHeaders_ends {handler : Http1Handler Tls} (state : handler.state = .expectHeaders) :
    ParseEnd handler handler.expectHeaders := by
  simp only [expectHeaders]
  split_ifs
  · exact .waits ⟨rfl, rfl, rfl, rfl⟩ (Or.inl state)
  · exact .refuses ⟨rfl, rfl, rfl, rfl⟩
  · refine ParseEnd.of_middle (headersComplete_ends _) ?_
    exact ⟨rfl, rfl, rfl, rfl⟩

theorem expectRequestLine_ends (handler : Http1Handler Tls) :
    StillWaits handler handler.expectRequestLine ∨ ParseEnd handler handler.expectRequestLine := by
  simp only [expectRequestLine]
  split_ifs with waits
  · exact Or.inl ⟨rfl, ⟨rfl, rfl, rfl, rfl⟩, rfl, rfl, HttpParser.readLine_of_eagain waits⟩
  · exact Or.inr (.refuses ⟨rfl, rfl, rfl, rfl⟩)
  · exact Or.inr (.refuses ⟨rfl, rfl, rfl, rfl⟩)
  · right
    refine ParseEnd.of_middle (expectHeaders_ends rfl) ?_
    exact ⟨rfl, rfl, rfl, rfl⟩

/-- The loop, whatever state it starts in. -/
theorem parse_ends (handler : Http1Handler Tls) :
    (handler.state = .expectRequestLine ∧ StillWaits handler handler.parse) ∨
      ParseEnd handler handler.parse := by
  simp only [parse]
  cases state : handler.state with
  | expectRequestLine =>
      rcases expectRequestLine_ends handler with waits | ends
      · exact Or.inl ⟨rfl, waits⟩
      · exact Or.inr ends
  | expectHeaders => exact Or.inr (expectHeaders_ends state)
  | expectBody => exact Or.inr (expectBody_ends state)
  | expectComplete => exact Or.inr (.completes ⟨rfl, rfl, rfl, rfl⟩ state)
  | error => exact Or.inr (.refuses ⟨rfl, rfl, rfl, rfl⟩)

end Http1Handler

end HttpsServerSim
