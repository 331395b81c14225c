import HttpsServerSim.Lib.Framing
import HttpsServerSim.Protocol.Types
import Mathlib.Data.List.DropRight

/-!
# ALPN

The choice of an application protocol in the TLS handshake. The client offers a list
of names, each behind a byte with its length; the server has a string with names
between commas. `AlpnSelectCallback` returns the place in the client's list of the first
server name that the client offers.

The client's list is a self-delimiting framing like the others, so what the callback
finds is told by the names that `Framing.parse` reads (`selected_eq_find`).
-/

namespace HttpsServerSim

namespace Alpn

/-- A name that one byte can hold the length of. -/
structure Name where
  bytes : Bytes
  length_lt : bytes.length < 256
deriving DecidableEq

namespace Name

def encode (name : Name) : Bytes := UInt8.ofNat name.bytes.length :: name.bytes

theorem length_take_lt (len : UInt8) (rest : Bytes) : (rest.take len.toNat).length < 256 :=
  lt_of_le_of_lt (List.length_take_le len.toNat rest) len.toNat_lt

def split : Bytes → Option (Name × Bytes)
  | [] => none
  | len :: rest =>
      if len.toNat ≤ rest.length then
        some (⟨rest.take len.toNat, length_take_lt len rest⟩, rest.drop len.toNat)
      else none

theorem split_spec {input rest : Bytes} {name : Name} (found : split input = some (name, rest)) :
    ∃ tail, input = UInt8.ofNat name.bytes.length :: tail ∧ tail = name.bytes ++ rest := by
  cases input with
  | nil => cases found
  | cons len tail =>
      simp only [split] at found
      split_ifs at found with complete
      simp only [Option.some.injEq, Prod.mk.injEq] at found
      rcases found with ⟨rfl, rfl⟩
      refine ⟨tail, ?_, (List.take_append_drop _ _).symm⟩
      rw [List.length_take, Nat.min_eq_left complete, UInt8.ofNat_toNat]

theorem split_encode (name : Name) (rest : Bytes) :
    split (name.encode ++ rest) = some (name, rest) := by
  have len_eq : (UInt8.ofNat name.bytes.length).toNat = name.bytes.length :=
    UInt8.toNat_ofNat_of_lt' name.length_lt
  simp [encode, split, len_eq]

end Name

/-- The framing of a client's list. -/
def framing : Framing UInt8 Name where
  encode := Name.encode
  split := Name.split
  split_encode := Name.split_encode
  split_append := by
    intro input name rest found more
    rcases Name.split_spec found with ⟨tail, rfl, rfl⟩
    have again := Name.split_encode name (rest ++ more)
    simpa [Name.encode] using again
  length_lt_of_split := by
    intro input name rest found
    rcases Name.split_spec found with ⟨tail, rfl, rfl⟩
    simp only [List.length_cons, List.length_append]
    omega

/-! ## The server's names -/

/-- The characters that `find_first_not_of(" \t")` and `find_last_not_of(" \t")` pass over. -/
def isBlank (byte : UInt8) : Bool := byte == 32 || byte == 9

def trim (proto : Bytes) : Bytes := (proto.dropWhile isBlank).rdropWhile isBlank

/-- The loop that takes the configured string apart, on what is left of it; each round takes at
least one byte. A name of blanks only is passed over. -/
def serverProtocolsLoop : ℕ → Bytes → List Bytes
  | 0, _ => []
  | fuel + 1, rest =>
      if rest.isEmpty then []
      else
        let proto := rest.takeWhile (· != 44)
        let others := serverProtocolsLoop fuel (rest.drop (proto.length + 1))
        if (trim proto).isEmpty then others else trim proto :: others

def serverProtocols (serverAlpn : Bytes) : List Bytes :=
  serverProtocolsLoop serverAlpn.length serverAlpn

/-! ## The callback -/

/-- The search for one server name in the client's list from `offset` on: where the name is and its
length. Each round takes at least the length byte. -/
def findClient (serverProto : Bytes) : ℕ → ℕ → Bytes → Option (ℕ × ℕ)
  | 0, _, _ => none
  | _ + 1, _, [] => none
  | fuel + 1, offset, len :: rest =>
      if rest.length < len.toNat then none
      else if len.toNat = serverProto.length ∧ rest.take len.toNat = serverProto then
        some (offset + 1, len.toNat)
      else findClient serverProto fuel (offset + 1 + len.toNat) (rest.drop len.toNat)

/-- `AlpnSelectCallback` with a handler: the place and the length of the chosen name in the client's
list, or `SSL_TLSEXT_ERR_NOACK`. -/
def alpnSelect (serverAlpn client : Bytes) : Option (ℕ × ℕ) :=
  (serverProtocols serverAlpn).findSome? fun serverProto =>
    findClient serverProto client.length 0 client

/-- The chosen name itself. -/
def selected (serverAlpn client : Bytes) : Option Bytes :=
  (alpnSelect serverAlpn client).map fun place => (client.drop place.1).take place.2

/-! ## What is chosen -/

/-- The names that a client's list offers. -/
def offers (client proto : Bytes) : Bool :=
  (framing.parse client).1.any fun name => name.bytes == proto

theorem offers_flatMap (names : List Name) (proto : Bytes) :
    offers (names.flatMap Name.encode) proto = true ↔ ∃ name ∈ names, name.bytes = proto := by
  have parsed : framing.parse (names.flatMap Name.encode) = (names, []) :=
    framing.parse_flatMap names
  simp [offers, parsed]

theorem offers_of_split_none {client : Bytes} (incomplete : Name.split client = none)
    (proto : Bytes) : offers client proto = false := by
  have parsed : framing.parse client = ([], client) := framing.parse_of_split_none incomplete
  simp [offers, parsed]

theorem offers_of_split_some {client rest : Bytes} {name : Name}
    (found : Name.split client = some (name, rest)) (proto : Bytes) :
    offers client proto = (name.bytes == proto || offers rest proto) := by
  have parsed := framing.parse_of_split_some (found : framing.split client = some (name, rest))
  simp [offers, parsed]

/-- The search finds the name exactly if the client offers it. -/
theorem findClient_isSome (proto : Bytes) {fuel : ℕ} (offset : ℕ) {client : Bytes}
    (enough : client.length ≤ fuel) :
    (findClient proto fuel offset client).isSome = offers client proto := by
  induction fuel generalizing offset client with
  | zero =>
      have empty : client = [] := List.length_eq_zero_iff.mp (by omega)
      subst empty
      exact (offers_of_split_none rfl proto).symm
  | succ fuel ih =>
      cases client with
      | nil => exact (offers_of_split_none rfl proto).symm
      | cons len rest =>
          rw [List.length_cons] at enough
          simp only [findClient]
          by_cases incomplete : rest.length < len.toNat
          · have none : Name.split (len :: rest) = none := by
              simp only [Name.split]
              rw [if_neg (by omega)]
            rw [if_pos incomplete, offers_of_split_none none]
            rfl
          · have complete : len.toNat ≤ rest.length := by omega
            have found : Name.split (len :: rest) =
                some (⟨rest.take len.toNat, _⟩, rest.drop len.toNat) := if_pos complete
            have taken : (rest.take len.toNat).length = len.toNat := by
              rw [List.length_take]
              omega
            rw [if_neg incomplete, offers_of_split_some found]
            by_cases same : rest.take len.toNat = proto
            · have lengths : len.toNat = proto.length := by rw [← same, taken]
              rw [if_pos ⟨lengths, same⟩]
              simp [same]
            · rw [if_neg (fun both => same both.2), ih (offset + 1 + len.toNat) (by simp; omega)]
              simp [same]

/-- What is found is the name looked for. -/
theorem findClient_place {proto : Bytes} {fuel offset place length : ℕ} {client : Bytes}
    (found : findClient proto fuel offset client = some (place, length)) :
    offset ≤ place ∧ (client.drop (place - offset)).take length = proto := by
  induction fuel generalizing offset client with
  | zero => cases found
  | succ fuel ih =>
      cases client with
      | nil => cases found
      | cons len rest =>
          simp only [findClient] at found
          split_ifs at found with incomplete same
          · simp only [Option.some.injEq, Prod.mk.injEq] at found
            rcases found with ⟨rfl, rfl⟩
            refine ⟨by omega, ?_⟩
            rw [Nat.add_sub_cancel_left]
            exact same.2
          · rcases ih found with ⟨le, here⟩
            refine ⟨by omega, ?_⟩
            have distance : place - offset = place - (offset + 1 + len.toNat) + len.toNat + 1 := by
              omega
            rw [distance, List.drop_succ_cons, Nat.add_comm, ← List.drop_drop]
            exact here

/-- The first name of the server that the client offers is chosen. -/
theorem selected_eq_find (serverAlpn client : Bytes) :
    selected serverAlpn client = (serverProtocols serverAlpn).find? (offers client) := by
  simp only [selected, alpnSelect]
  induction serverProtocols serverAlpn with
  | nil => rfl
  | cons proto others ih =>
      have isSome := findClient_isSome proto 0 (Nat.le_refl client.length)
      rw [List.findSome?_cons]
      cases found : findClient proto client.length 0 client with
      | none =>
          rw [found] at isSome
          rw [List.find?_cons_of_neg (by rw [← isSome]; simp)]
          exact ih
      | some place =>
          rw [found] at isSome
          rw [List.find?_cons_of_pos isSome.symm]
          exact congrArg some (findClient_place found).2

end Alpn

end HttpsServerSim
