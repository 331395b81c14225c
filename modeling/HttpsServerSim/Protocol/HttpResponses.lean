import HttpsServerSim.Protocol.Http1Handler

/-!
# The bytes of a response

`build_response` copies the pieces of a response as long as they fit, so it succeeds exactly if
all of them do (`buildResponse_eq`). The size that `generate_response` first guesses is enough
for any headers and any body, if the status text is not longer than a thousand bytes.
-/

namespace HttpsServerSim

universe u

namespace HttpParser

/-- The bytes of a response. -/
def responseBytes (response : HttpResponse) : Bytes := (responseParts response).flatten

theorem foldlM_parts {maxLen : ℕ} (parts : List Bytes) {out : Bytes} (room : out.length ≤ maxLen) :
    parts.foldlM (fun (out part : Bytes) =>
      if maxLen < out.length + part.length then none else some (out ++ part)) out =
        if out.length + parts.flatten.length ≤ maxLen then some (out ++ parts.flatten)
        else none := by
  induction parts generalizing out with
  | nil => simp [room]
  | cons part parts ih =>
      rw [List.foldlM_cons, List.flatten_cons, List.length_append]
      by_cases partFits : maxLen < out.length + part.length
      · have tooLong : ¬ out.length + (part.length + parts.flatten.length) ≤ maxLen := by omega
        rw [if_pos partFits, if_neg tooLong]
        rfl
      · have roomAfter : (out ++ part).length ≤ maxLen := by
          rw [List.length_append]
          omega
        rw [if_neg partFits]
        change List.foldlM _ (out ++ part) parts = _
        rw [ih roomAfter, List.length_append, List.append_assoc, Nat.add_assoc]

theorem buildResponse_eq (parser : HttpParser) (response : HttpResponse) (maxLen : ℕ) :
    parser.buildResponse response maxLen =
      if (responseBytes response).length ≤ maxLen then (some (responseBytes response), parser)
      else (none, parser.setError .buffer "Buffer too small") := by
  rw [buildResponse, foldlM_parts _ (Nat.zero_le maxLen), responseBytes, List.length_nil,
    Nat.zero_add, List.nil_append]
  split_ifs <;> rfl

/-! ## Lengths -/

theorem length_toDecimal_le {number digits : ℕ} (positive : 0 < digits)
    (small : number < 10 ^ digits) : (toDecimal number).length ≤ digits := by
  rw [toDecimal, List.length_map, Nat.length_toDigits_le_iff (by decide) positive]
  exact small

/-- A sign and ten digits. -/
theorem length_intToDecimal_le (number : Int32) : (intToDecimal number).length ≤ 11 := by
  have lower := number.le_toInt
  have upper := number.toInt_lt
  unfold intToDecimal
  split
  · next value value_eq =>
    rw [Int.ofNat_eq_natCast] at value_eq
    have small : value < 10 ^ 10 := by omega
    exact (length_toDecimal_le (by decide) small).trans (by decide)
  · next value value_eq =>
    rw [Int.negSucc_eq] at value_eq
    have small : value + 1 < 10 ^ 10 := by omega
    exact Nat.succ_le_succ (length_toDecimal_le (by decide) small)

theorem length_statusLine_le {response : HttpResponse}
    (text : response.statusText.length ≤ 1000) : (statusLine response).length ≤ 1023 := by
  have version : (ascii "HTTP/1.1 ").length = 9 := by decide
  have code := length_intToDecimal_le response.statusCode
  simp only [statusLine, List.length_append, version, crlf, List.length_cons, List.length_nil]
  omega

/-- Header lines are no longer than what the estimate has for them. -/
theorem length_headerLines_le (fields : List (Bytes × Bytes)) :
    ((fields.map fun field => headerLine field.1 field.2).flatten).length ≤
      (fields.map fun field => field.1.length + field.2.length + 32).sum := by
  induction fields with
  | nil => exact Nat.le_refl 0
  | cons field fields ih =>
      have separator : (ascii ": ").length = 2 := by decide
      simp only [List.map_cons, List.flatten_cons, List.sum_cons, headerLine, List.length_append,
        separator, crlf, List.length_cons, List.length_nil] at ih ⊢
      omega

theorem length_contentLengthLine (number : Bytes) :
    (headerLine (ascii "Content-Length") number).length = number.length + 18 := by
  have name : (ascii "Content-Length").length = 14 := by decide
  have separator : (ascii ": ").length = 2 := by decide
  simp only [headerLine, List.length_append, name, separator, crlf, List.length_cons,
    List.length_nil]
  omega

end HttpParser

namespace Http1Handler

open HttpParser

/-- The first guess of `generate_response` is enough for any headers and any body whose length is a
`size_t`. -/
theorem responseBytes_fits {response : HttpResponse}
    (text : response.statusText.length ≤ 1000) (sized : response.body.length < 2 ^ 64) :
    (responseBytes response).length ≤ estimatedSize response := by
  have status := length_statusLine_le text
  have headers := length_headerLines_le response.headers.toList
  have number : (toDecimal response.body.length).length ≤ 20 :=
    length_toDecimal_le (by decide) (sized.trans (by decide))
  have lengthLine : ((if ¬ hasContentLength response.headers ∧ ¬ response.body.isEmpty then
      [headerLine (ascii "Content-Length") (toDecimal response.body.length)]
      else []) : List Bytes).flatten.length ≤ 38 := by
    split_ifs
    · rw [List.flatten_singleton, length_contentLengthLine]
      omega
    · exact Nat.zero_le _
  have body : ((if response.body.isEmpty then [] else [response.body]) : List Bytes).flatten.length
      ≤ response.body.length := by
    split_ifs
    · exact Nat.zero_le _
    · rw [List.flatten_singleton]
  simp only [responseBytes, responseParts, List.flatten_append, List.length_append,
    List.flatten_singleton, crlf, List.length_cons, List.length_nil]
  rw [estimatedSize]
  omega

/-- Then the response is written as it is, and nothing is built a second time. -/
theorem generateResponse_eq {Tls : Type u} [TlsLayer Tls] {handler : Http1Handler Tls}
    (fits : (responseBytes handler.response).length ≤ estimatedSize handler.response) :
    handler.generateResponse =
      ((TlsLayer.write handler.tlsHandler (responseBytes handler.response)).1,
        { handler with
          tlsHandler :=
            (TlsLayer.write handler.tlsHandler (responseBytes handler.response)).2.2 }) := by
  simp only [generateResponse, buildResponse_eq, fits, if_true]

end Http1Handler

end HttpsServerSim
