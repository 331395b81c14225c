import HttpsServerSim.Lib.AccessLog
import HttpsServerSim.Lib.ByteMemory
import HttpsServerSim.Protocol.Alpn
import Mathlib.Tactic.ByContra

/-!
# The ALPN callback and its pointers

`AlpnSelectCallback` as it walks through the configured string by position and through the
client's list by pointer. Memory has a byte at every address, so nothing but the comparisons with
`client_end` keeps the callback inside the list; every access to it is logged. Both loops take
fuel, and a run that needs more has no result.

The client's names are those of the longest prefix of its list that is made of complete entries.
The callback returns the first of them that is the first configured name to be among them.
-/

namespace HttpsServerSim

open ByteMemory

namespace Alpn

/-! ## The configured string -/

def comma : UInt8 := 44

/-- `find(',', pos)`, which is the size where the code replaces `npos` by it. -/
def findComma (serverAlpn : Bytes) (pos : ℕ) : ℕ :=
  pos + (serverAlpn.drop pos).findIdx (· == comma)

def substr (text : Bytes) (pos count : ℕ) : Bytes := (text.drop pos).take count

/-- `find_first_not_of(" \t")`; nothing is `npos`. -/
def findFirstNotOfBlanks (text : Bytes) : Option ℕ := text.findIdx? (!isBlank ·)

/-- `find_last_not_of(" \t")`. -/
def findLastNotOfBlanks (text : Bytes) : Option ℕ :=
  (text.reverse.findIdx? (!isBlank ·)).map (text.length - 1 - ·)

/-- A configured name without the blanks around it, if anything is left. -/
def trimProto (proto : Bytes) : Option Bytes :=
  match findFirstNotOfBlanks proto, findLastNotOfBlanks proto with
  | some start, some last =>
      if start ≤ last then
        let trimmed := substr proto start (last - start + 1)
        if trimmed.isEmpty then none else some trimmed
      else none
  | _, _ => none

/-- The loop that takes the configured string apart. -/
def configuredLoop (serverAlpn : Bytes) : ℕ → ℕ → Option (List Bytes)
  | 0, pos => if pos < serverAlpn.length then none else some []
  | rounds + 1, pos =>
      if pos < serverAlpn.length then
        let next := findComma serverAlpn pos
        let proto := substr serverAlpn pos (next - pos)
        (configuredLoop serverAlpn rounds (next + 1)).map fun protos =>
          (trimProto proto).toList ++ protos
      else some []

/-! ## The client's list -/

/-- An access to the client's list: to a byte with a length, or to the bytes that are compared with
a configured name. -/
inductive ClientAccess where
  | length (address : ℕ)
  | compared (start count : ℕ)
deriving DecidableEq, Repr

/-- The access stays between these two addresses. -/
def ClientAccess.Inside (start stop : ℕ) : ClientAccess → Prop
  | .length address => start ≤ address ∧ address < stop
  | .compared first count => start ≤ first ∧ first + count ≤ stop

/-- `SSL_TLSEXT_ERR_OK` with `*out` and `*outlen`, or `SSL_TLSEXT_ERR_NOACK`. -/
inductive AlpnAnswer where
  | ok (out outlen : ℕ)
  | noack
deriving DecidableEq, Repr

section Code

variable (memory : ℕ → UInt8) (clientEnd : ℕ)

/-- The loop over the client's list for one configured name. -/
def clientLoop (serverProto : Bytes) : ℕ → ℕ → LoggedRun ClientAccess AlpnAnswer
  | 0, clientPtr => if clientPtr < clientEnd then none else .done .noack
  | rounds + 1, clientPtr =>
      if clientPtr < clientEnd then
        let len := (memory clientPtr).toNat
        let first := clientPtr + 1
        .access (.length clientPtr)
          (if clientEnd < first + len then .done .noack
          else if len = serverProto.length then
            .access (.compared first len)
              (if bytesAt memory first len = serverProto then .done (.ok first len)
              else clientLoop serverProto rounds (first + len))
          else clientLoop serverProto rounds (first + len))
      else .done .noack

/-- The loop over the configured names. -/
def serverLoop (input fuel : ℕ) : List Bytes → LoggedRun ClientAccess AlpnAnswer
  | [] => .done .noack
  | serverProto :: others =>
      (clientLoop memory clientEnd serverProto fuel input).andThen fun
        | .ok out outlen => .done (.ok out outlen)
        | .noack => serverLoop input fuel others

end Code

/-- `AlpnSelectCallback` on the `inlen` bytes from `input` on. The handler that `arg` points to is
its configured string. Each loop may be entered once for every byte. -/
def alpnSelectCallback (memory : ℕ → UInt8) (input inlen : ℕ) (arg : Option Bytes) :
    LoggedRun ClientAccess AlpnAnswer :=
  match arg with
  | none => .done .noack
  | some serverAlpn =>
      match configuredLoop serverAlpn serverAlpn.length 0 with
      | none => none
      | some serverProtocols =>
          if serverProtocols.isEmpty then .done .noack
          else serverLoop memory (input + inlen) input inlen serverProtocols

/-! ## What the configured string says -/

/-- The entries between the commas without the blanks and tabs around them, but for the empty
ones. -/
def configuredNames (serverAlpn : Bytes) : List Bytes :=
  ((serverAlpn.splitOn comma).map trim).filter (!·.isEmpty)

theorem findLastNotOfBlanks_eq_some {text : Bytes} {last : ℕ}
    (found : findLastNotOfBlanks text = some last) :
    ∃ inside : last < text.length, isBlank text[last] = false ∧
      last + text.reverse.findIdx (!isBlank ·) + 1 = text.length := by
  rcases Option.map_eq_some_iff.mp found with ⟨fromEnd, foundEnd, rfl⟩
  have position := (List.findIdx?_eq_some_iff_findIdx_eq.mp foundEnd).2
  rcases List.findIdx?_eq_some_iff_getElem.mp foundEnd with ⟨inside, notBlank, _⟩
  rw [List.length_reverse] at inside
  rw [List.getElem_reverse, Bool.not_eq_true'] at notBlank
  refine ⟨by omega, notBlank, ?_⟩
  rw [position]
  omega

/-- What is between the first and the last character that is no blank is the trimmed name. -/
theorem trimProto_eq (proto : Bytes) :
    trimProto proto = if (trim proto).isEmpty then none else some (trim proto) := by
  have front : trim proto =
      (proto.drop (proto.findIdx (!isBlank ·))).rdropWhile isBlank := by
    rw [trim, List.dropWhile_eq_drop_findIdx_not]
  cases foundFirst : findFirstNotOfBlanks proto with
  | none =>
      have blank : ∀ byte ∈ proto, isBlank byte = true := by
        intro byte member
        simpa using List.findIdx?_eq_none_iff.mp foundFirst byte member
      have nothing : trim proto = [] := by
        rw [trim, List.dropWhile_eq_nil_iff.mpr blank, List.rdropWhile_nil]
      simp [trimProto, foundFirst, nothing]
  | some first =>
      rcases List.findIdx?_eq_some_iff_getElem.mp foundFirst with ⟨firstInside, notBlank, earlier⟩
      have position := (List.findIdx?_eq_some_iff_findIdx_eq.mp foundFirst).2
      cases foundLast : findLastNotOfBlanks proto with
      | none =>
          rw [findLastNotOfBlanks, Option.map_eq_none_iff, List.findIdx?_eq_none_iff] at foundLast
          have blank := foundLast proto[first] (List.mem_reverse.mpr (List.getElem_mem firstInside))
          rw [blank] at notBlank
          cases notBlank
      | some last =>
          rcases findLastNotOfBlanks_eq_some foundLast with ⟨lastInside, lastNotBlank, lengths⟩
          have ordered : first ≤ last := by
            by_contra before
            have blank := earlier last (Nat.not_le.mp before)
            rw [lastNotBlank] at blank
            exact blank rfl
          have back : trim proto = substr proto first (last - first + 1) := by
            have count : min (proto.length - first) (proto.reverse.findIdx (!isBlank ·)) =
                proto.reverse.findIdx (!isBlank ·) := by omega
            rw [front, position, List.rdropWhile, List.reverse_drop,
              List.dropWhile_eq_drop_findIdx_not, List.findIdx_take, count, ← List.reverse_drop,
              List.reverse_drop, List.reverse_reverse, List.length_reverse, List.length_drop,
              substr]
            congr 1
            omega
          simp only [trimProto, foundFirst, foundLast, ordered, if_true, back]

/-- The entry up to the next comma, and the entries behind it. -/
theorem splitOn_comma (text : Bytes) :
    text.splitOn comma =
      text.take (text.findIdx (· == comma)) ::
        if text.findIdx (· == comma) < text.length then
          (text.drop (text.findIdx (· == comma) + 1)).splitOn comma
        else [] := by
  have before : ∀ byte ∈ text.take (text.findIdx (· == comma)), (byte == comma) = false := by
    intro byte member
    exact List.false_of_mem_take_findIdx (p := (· == comma)) member
  split_ifs with found
  · have separator : (text[text.findIdx (· == comma)] == comma) = true :=
      @List.findIdx_getElem _ (· == comma) text found
    rw [← List.splitOn_append_cons_of_forall_mem_beq_eq_false before _ separator,
      List.getElem_cons_drop, List.take_append_drop]
  · have whole : text.take (text.findIdx (· == comma)) = text :=
      List.take_of_length_le (Nat.not_lt.mp found)
    rw [whole] at before ⊢
    exact List.splitOn_eq_singleton_of_beq_eq_false before

theorem configuredNames_nil : configuredNames [] = [] := rfl

theorem configuredNames_eq (text : Bytes) :
    configuredNames text =
      (trimProto (text.take (text.findIdx (· == comma)))).toList ++
        configuredNames (text.drop (text.findIdx (· == comma) + 1)) := by
  have first (entry : Bytes) (entries : List Bytes) :
      ((entry :: entries).map trim).filter (!·.isEmpty) =
        (trimProto entry).toList ++ (entries.map trim).filter (!·.isEmpty) := by
    rw [trimProto_eq, List.map_cons, List.filter_cons]
    cases (trim entry).isEmpty <;> rfl
  rw [configuredNames, splitOn_comma, first]
  split_ifs with found
  · rfl
  · rw [List.drop_of_length_le (by omega), configuredNames_nil]
    rfl

/-- The loop ends after at most one round for every byte, with the names from its place on. -/
theorem configuredLoop_eq (serverAlpn : Bytes) {rounds pos : ℕ}
    (enough : serverAlpn.length ≤ pos + rounds) :
    configuredLoop serverAlpn rounds pos = some (configuredNames (serverAlpn.drop pos)) := by
  induction rounds generalizing pos with
  | zero =>
      rw [configuredLoop, if_neg (by omega), List.drop_of_length_le (by omega)]
      rfl
  | succ rounds ih =>
      by_cases inside : pos < serverAlpn.length
      · have next : findComma serverAlpn pos - pos =
            (serverAlpn.drop pos).findIdx (· == comma) := Nat.add_sub_cancel_left _ _
        have later : configuredLoop serverAlpn rounds (findComma serverAlpn pos + 1) =
            some (configuredNames (serverAlpn.drop (findComma serverAlpn pos + 1))) := by
          apply ih
          simp only [findComma]
          omega
        rw [configuredLoop, if_pos inside]
        dsimp only
        rw [later, next, configuredNames_eq (serverAlpn.drop pos), List.drop_drop]
        rfl
      · rw [configuredLoop, if_neg inside, List.drop_of_length_le (by omega)]
        rfl

/-! ## What the client offers -/

/-- The names of the longest prefix of a client's list that is made of complete entries. -/
structure LongestPrefix (client : Bytes) (names : List Name) : Prop where
  isPrefix : names.flatMap Name.encode <+: client
  longest : ∀ others : List Name, others.flatMap Name.encode <+: client →
    (others.flatMap Name.encode).length ≤ (names.flatMap Name.encode).length

theorem eq_of_split {input rest : Bytes} {name : Name}
    (found : framing.split input = some (name, rest)) : input = framing.encode name ++ rest := by
  rcases Name.split_spec found with ⟨tail, rfl, rfl⟩
  rfl

theorem longestPrefix_parse (client : Bytes) : LongestPrefix client (framing.parse client).1 where
  isPrefix := ⟨_, framing.flatMap_parse_append eq_of_split client⟩
  longest := by
    rintro others ⟨rest, rfl⟩
    have parsed : framing.parse (others.flatMap Name.encode ++ rest) =
        (others ++ (framing.parse rest).1, (framing.parse rest).2) :=
      framing.parse_flatMap_append others rest
    rw [parsed, List.flatMap_append, List.length_append]
    exact Nat.le_add_right _ _

/-- The first of the client's names that is the configured one, where the first of them begins at
an address. -/
def searchNames (serverProto : Bytes) : ℕ → List Name → AlpnAnswer
  | _, [] => .noack
  | address, name :: names =>
      if name.bytes = serverProto then .ok (address + 1) name.bytes.length
      else searchNames serverProto (address + name.encode.length) names

theorem Name.length_encode (name : Name) : name.encode.length = name.bytes.length + 1 :=
  List.length_cons

theorem searchNames_noack_iff {serverProto : Bytes} {address : ℕ} {names : List Name} :
    searchNames serverProto address names = .noack ↔ ∀ name ∈ names, name.bytes ≠ serverProto := by
  induction names generalizing address with
  | nil => exact ⟨fun _ _ member => absurd member List.not_mem_nil, fun _ => rfl⟩
  | cons name names ih =>
      rw [searchNames, List.forall_mem_cons]
      split_ifs with same
      · refine ⟨?_, fun others => absurd same others.1⟩
        intro answer
        cases answer
      · rw [ih]
        exact ⟨fun others => ⟨same, others⟩, And.right⟩

theorem searchNames_ok {serverProto : Bytes} {address out outlen : ℕ} {names : List Name}
    (found : searchNames serverProto address names = .ok out outlen) :
    ∃ earlier name later, names = earlier ++ name :: later ∧ name.bytes = serverProto ∧
      (∀ other ∈ earlier, other.bytes ≠ serverProto) ∧
      out = address + (earlier.flatMap Name.encode).length + 1 ∧ outlen = serverProto.length := by
  induction names generalizing address with
  | nil => cases found
  | cons name names ih =>
      rw [searchNames] at found
      split_ifs at found with same
      · cases found
        exact ⟨[], name, names, rfl, same, fun _ member => absurd member List.not_mem_nil, rfl,
          congrArg List.length same⟩
      · rcases ih found with ⟨earlier, here, later, rfl, sameHere, others, outEq, outlenEq⟩
        refine ⟨name :: earlier, here, later, rfl, sameHere, ?_, ?_, outlenEq⟩
        · exact List.forall_mem_cons.mpr ⟨same, others⟩
        · rw [outEq, List.flatMap_cons, List.length_append]
          omega

/-! ## The loops -/

section Proofs

variable (memory : ℕ → UInt8) {start clientEnd : ℕ}

/-- The client's names from an address up to the end of its list. -/
def namesAt (memory : ℕ → UInt8) (clientEnd address : ℕ) : List Name :=
  (framing.parse (bytesAt memory address (clientEnd - address))).1

theorem namesAt_end {address : ℕ} (outside : ¬address < clientEnd) :
    namesAt memory clientEnd address = [] := by
  rw [namesAt, bytesAt_end memory outside, framing.parse_nil]

theorem namesAt_cut {address : ℕ} (inside : address < clientEnd)
    (cut : clientEnd < address + 1 + (memory address).toNat) :
    namesAt memory clientEnd address = [] := by
  have incomplete : framing.split (memory address ::
      bytesAt memory (address + 1) (clientEnd - (address + 1))) = none := by
    apply if_neg
    rw [length_bytesAt]
    omega
  rw [namesAt, bytesAt_cons memory inside, framing.parse_of_split_none incomplete]

theorem namesAt_entry {address : ℕ} (inside : address < clientEnd)
    (complete : address + 1 + (memory address).toNat ≤ clientEnd) :
    ∃ name : Name, name.bytes = bytesAt memory (address + 1) (memory address).toNat ∧
      namesAt memory clientEnd address =
        name :: namesAt memory clientEnd (address + 1 + (memory address).toNat) := by
  have split : clientEnd - (address + 1) =
      (memory address).toNat + (clientEnd - (address + 1 + (memory address).toNat)) := by omega
  have short : (bytesAt memory (address + 1) (memory address).toNat).length < 256 := by
    rw [length_bytesAt]
    exact (memory address).toNat_lt
  have length_eq : UInt8.ofNat (bytesAt memory (address + 1) (memory address).toNat).length =
      memory address := by
    rw [length_bytesAt, UInt8.ofNat_toNat]
  have found := framing.split_encode ⟨_, short⟩
    (bytesAt memory (address + 1 + (memory address).toNat)
      (clientEnd - (address + 1 + (memory address).toNat)))
  have entry : bytesAt memory address (clientEnd - address) =
      framing.encode ⟨_, short⟩ ++ bytesAt memory (address + 1 + (memory address).toNat)
        (clientEnd - (address + 1 + (memory address).toNat)) := by
    rw [bytesAt_cons memory inside, split, bytesAt_add]
    change _ = (UInt8.ofNat _ :: bytesAt memory (address + 1) (memory address).toNat) ++ _
    rw [length_eq]
    rfl
  refine ⟨⟨_, short⟩, rfl, ?_⟩
  rw [namesAt, entry, framing.parse_of_split_some found]
  rfl

/-- The loop ends after at most one round for every byte, and compares inside the list only. -/
theorem clientLoop_ends (serverProto : Bytes) {rounds clientPtr : ℕ}
    (inside : start ≤ clientPtr) (enough : clientEnd ≤ clientPtr + rounds) :
    (clientLoop memory clientEnd serverProto rounds clientPtr).Ends
      (ClientAccess.Inside start clientEnd)
      (· = searchNames serverProto clientPtr (namesAt memory clientEnd clientPtr)) := by
  induction rounds generalizing clientPtr with
  | zero =>
      have outside : ¬clientPtr < clientEnd := by omega
      rw [namesAt_end memory outside, clientLoop, if_neg outside]
      exact .done rfl
  | succ rounds ih =>
      by_cases before : clientPtr < clientEnd
      · simp only [clientLoop, before, if_true]
        apply LoggedRun.Ends.access (by exact ⟨inside, before⟩)
        by_cases cut : clientEnd < clientPtr + 1 + (memory clientPtr).toNat
        · rw [if_pos cut, namesAt_cut memory before cut]
          exact .done rfl
        · have complete := Nat.not_lt.mp cut
          rcases namesAt_entry memory before complete with ⟨name, bytesEq, entry⟩
          have size : name.bytes.length = (memory clientPtr).toNat := by
            rw [bytesEq, length_bytesAt]
          have later := ih (by omega : start ≤ clientPtr + 1 + (memory clientPtr).toNat) (by omega)
          have next : clientPtr + name.encode.length =
              clientPtr + 1 + (memory clientPtr).toNat := by
            rw [name.length_encode, size]
            omega
          rw [if_neg cut, entry, searchNames, next, ← bytesEq, size]
          by_cases same : name.bytes = serverProto
          · have lengths : (memory clientPtr).toNat = serverProto.length := by
              rw [← same, size]
            rw [if_pos lengths, if_pos same, if_pos same]
            exact .access ⟨by omega, complete⟩ (.done rfl)
          · rw [if_neg same, if_neg same]
            split_ifs
            · exact .access ⟨by omega, complete⟩ later
            · exact later
      · rw [namesAt_end memory before, clientLoop, if_neg before]
        exact .done rfl

/-- The first of the configured names that is among the client's. -/
def searchProtocols (input : ℕ) (names : List Name) : List Bytes → AlpnAnswer
  | [] => .noack
  | serverProto :: others =>
      match searchNames serverProto input names with
      | .ok out outlen => .ok out outlen
      | .noack => searchProtocols input names others

theorem serverLoop_ends {input fuel : ℕ} (enough : clientEnd ≤ input + fuel)
    (serverProtocols : List Bytes) :
    (serverLoop memory clientEnd input fuel serverProtocols).Ends
      (ClientAccess.Inside input clientEnd)
      (· = searchProtocols input (namesAt memory clientEnd input) serverProtocols) := by
  induction serverProtocols with
  | nil => exact .done rfl
  | cons serverProto others ih =>
      apply (clientLoop_ends memory serverProto (le_refl input) enough).andThen
      rintro answer rfl
      rw [searchProtocols]
      cases searchNames serverProto input (namesAt memory clientEnd input) with
      | ok out outlen => exact .done rfl
      | noack => exact ih

end Proofs

theorem searchProtocols_noack_iff {input : ℕ} {names : List Name} {serverProtocols : List Bytes} :
    searchProtocols input names serverProtocols = .noack ↔
      ∀ proto ∈ serverProtocols, ∀ name ∈ names, name.bytes ≠ proto := by
  induction serverProtocols with
  | nil => exact ⟨fun _ _ member => absurd member List.not_mem_nil, fun _ => rfl⟩
  | cons serverProto others ih =>
      have first : searchNames serverProto input names = .noack ↔
          ∀ name ∈ names, name.bytes ≠ serverProto := searchNames_noack_iff
      rw [searchProtocols, List.forall_mem_cons, ← ih, ← first]
      cases searchNames serverProto input names with
      | ok out outlen => exact ⟨nofun, fun both => nomatch both.1⟩
      | noack => exact ⟨fun answer => ⟨rfl, answer⟩, And.right⟩

theorem searchProtocols_ok {input out outlen : ℕ} {names : List Name} {serverProtocols : List Bytes}
    (found : searchProtocols input names serverProtocols = .ok out outlen) :
    ∃ before proto after, serverProtocols = before ++ proto :: after ∧
      (∀ other ∈ before, ∀ name ∈ names, name.bytes ≠ other) ∧
      searchNames proto input names = .ok out outlen := by
  induction serverProtocols with
  | nil => cases found
  | cons serverProto others ih =>
      rw [searchProtocols] at found
      cases first : searchNames serverProto input names with
      | ok place length =>
          rw [first] at found
          exact ⟨[], serverProto, others, rfl, nofun, first.trans found⟩
      | noack =>
          rw [first] at found
          rcases ih found with ⟨before, proto, after, rfl, none, here⟩
          refine ⟨serverProto :: before, proto, after, rfl, ?_, here⟩
          exact List.forall_mem_cons.mpr ⟨searchNames_noack_iff.mp first, none⟩

/-- The place of the first of the client's names that is the first configured name among them. -/
def FirstChoice (configured : List Bytes) (names : List Name) (input out outlen : ℕ) : Prop :=
  ∃ before proto after earlier name later,
    configured = before ++ proto :: after ∧
      (∀ other ∈ before, ∀ name ∈ names, name.bytes ≠ other) ∧
      names = earlier ++ name :: later ∧ name.bytes = proto ∧
      (∀ other ∈ earlier, other.bytes ≠ proto) ∧
      out = input + (earlier.flatMap Name.encode).length + 1 ∧ outlen = proto.length

theorem firstChoice_of_ok {input out outlen : ℕ} {names : List Name} {configured : List Bytes}
    (found : searchProtocols input names configured = .ok out outlen) :
    FirstChoice configured names input out outlen := by
  rcases searchProtocols_ok found with ⟨before, proto, after, configuredEq, none, here⟩
  rcases searchNames_ok here with ⟨earlier, name, later, namesEq, same, others, outEq, outlenEq⟩
  exact ⟨before, proto, after, earlier, name, later, configuredEq, none, namesEq, same, others,
    outEq, outlenEq⟩

/-- The place is in the client's list, and the name is there. -/
theorem FirstChoice.place {memory : ℕ → UInt8} {configured : List Bytes} {names : List Name}
    {input inlen out outlen : ℕ} (choice : FirstChoice configured names input out outlen)
    (isPrefix : names.flatMap Name.encode <+: bytesAt memory input inlen) :
    input < out ∧ out + outlen ≤ input + inlen ∧ bytesAt memory out outlen ∈ configured := by
  rcases choice with
    ⟨before, proto, after, earlier, name, later, rfl, _, rfl, rfl, _, rfl, rfl⟩
  rcases isPrefix with ⟨rest, whole⟩
  have split : (earlier.flatMap Name.encode ++ [UInt8.ofNat name.bytes.length]) ++
      (name.bytes ++ (later.flatMap Name.encode ++ rest)) = bytesAt memory input inlen := by
    rw [← whole, List.flatMap_append, List.flatMap_cons, Name.encode]
    simp
  have lengths := congrArg List.length split
  simp only [List.length_append, List.length_singleton, length_bytesAt] at lengths
  have parts : inlen = ((earlier.flatMap Name.encode).length + 1) +
      (name.bytes.length + ((later.flatMap Name.encode).length + rest.length)) := by omega
  refine ⟨by omega, by omega, ?_⟩
  rw [parts, bytesAt_add] at split
  have tails := (List.append_inj split (by simp)).2
  rw [bytesAt_add] at tails
  have here := (List.append_inj tails (by simp)).1
  rw [Nat.add_assoc input, ← here]
  simp

/-- The callback ends, reads inside the client's list only, and answers with the first configured
name that the client offers, at its first place; without one it does not acknowledge. -/
theorem alpnSelectCallback_spec (memory : ℕ → UInt8) (input inlen : ℕ) (serverAlpn : Bytes) :
    ∃ accesses answer names,
      alpnSelectCallback memory input inlen (some serverAlpn) = some (accesses, answer) ∧
        (∀ access ∈ accesses, access.Inside input (input + inlen)) ∧
        LongestPrefix (bytesAt memory input inlen) names ∧
        (answer = .noack ↔
          ∀ proto ∈ configuredNames serverAlpn, ∀ name ∈ names, name.bytes ≠ proto) ∧
        ∀ out outlen, answer = .ok out outlen →
          FirstChoice (configuredNames serverAlpn) names input out outlen ∧
            input < out ∧ out + outlen ≤ input + inlen ∧
            bytesAt memory out outlen ∈ configuredNames serverAlpn := by
  have configured := configuredLoop_eq serverAlpn (Nat.le_of_eq (Nat.zero_add _).symm)
  rw [List.drop_zero] at configured
  have ends : (alpnSelectCallback memory input inlen (some serverAlpn)).Ends
      (ClientAccess.Inside input (input + inlen))
      (· = searchProtocols input (namesAt memory (input + inlen) input)
        (configuredNames serverAlpn)) := by
    simp only [alpnSelectCallback, configured]
    split_ifs with nothing
    · rw [List.isEmpty_iff.mp nothing]
      exact .done rfl
    · exact serverLoop_ends memory (le_refl _) _
  have names_eq : namesAt memory (input + inlen) input =
      (framing.parse (bytesAt memory input inlen)).1 := by
    rw [namesAt, Nat.add_sub_cancel_left]
  rw [names_eq] at ends
  have longest := longestPrefix_parse (bytesAt memory input inlen)
  rcases ends with ⟨accesses, answer, ran, inside, rfl⟩
  refine ⟨accesses, _, _, ran, inside, longest, searchProtocols_noack_iff, ?_⟩
  intro out outlen answered
  have choice := firstChoice_of_ok answered
  exact ⟨choice, choice.place longest.isPrefix⟩

/-! ## Agreement with the choice on lists -/

/-- The place that an answer tells. -/
def AlpnAnswer.place : AlpnAnswer → Option (ℕ × ℕ)
  | .ok out outlen => some (out, outlen)
  | .noack => none

theorem serverProtocolsLoop_eq {fuel : ℕ} {rest : Bytes} (enough : rest.length ≤ fuel) :
    serverProtocolsLoop fuel rest = configuredNames rest := by
  induction fuel generalizing rest with
  | zero =>
      rw [List.length_eq_zero_iff.mp (Nat.le_zero.mp enough)]
      rfl
  | succ fuel ih =>
      cases rest with
      | nil => rfl
      | cons byte bytes =>
          have proto : (byte :: bytes).takeWhile (· != 44) =
              (byte :: bytes).take ((byte :: bytes).findIdx (· == comma)) := by
            rw [List.takeWhile_eq_take_findIdx_not]
            congr 2
            funext character
            exact Bool.not_not _
          have size : ((byte :: bytes).take ((byte :: bytes).findIdx (· == comma))).length =
              (byte :: bytes).findIdx (· == comma) := by
            rw [List.length_take]
            exact Nat.min_eq_left List.findIdx_le_length
          have others : serverProtocolsLoop fuel
                ((byte :: bytes).drop ((byte :: bytes).findIdx (· == comma) + 1)) =
              configuredNames
                ((byte :: bytes).drop ((byte :: bytes).findIdx (· == comma) + 1)) := by
            apply ih
            rw [List.length_drop, List.length_cons]
            rw [List.length_cons] at enough
            omega
          have nonempty : ¬(byte :: bytes).isEmpty = true := Bool.false_ne_true
          rw [configuredNames_eq, trimProto_eq, serverProtocolsLoop, if_neg nonempty]
          dsimp only
          rw [proto, size, others]
          split_ifs <;> rfl

theorem findClient_eq (proto : Bytes) {fuel : ℕ} (offset : ℕ) {client : Bytes}
    (enough : client.length ≤ fuel) :
    findClient proto fuel offset client =
      (searchNames proto offset (framing.parse client).1).place := by
  induction fuel generalizing offset client with
  | zero =>
      rw [List.length_eq_zero_iff.mp (Nat.le_zero.mp enough), framing.parse_nil]
      rfl
  | succ fuel ih =>
      cases client with
      | nil =>
          rw [framing.parse_nil]
          rfl
      | cons len rest =>
          rw [List.length_cons] at enough
          rw [findClient]
          by_cases incomplete : rest.length < len.toNat
          · have cut : framing.split (len :: rest) = none := if_neg (by omega)
            rw [if_pos incomplete, framing.parse_of_split_none cut]
            rfl
          · have complete : len.toNat ≤ rest.length := Nat.not_lt.mp incomplete
            have found : framing.split (len :: rest) =
                some (⟨rest.take len.toNat, _⟩, rest.drop len.toNat) := if_pos complete
            have taken : (rest.take len.toNat).length = len.toNat := by
              rw [List.length_take]
              exact Nat.min_eq_left complete
            have later : findClient proto fuel (offset + 1 + len.toNat) (rest.drop len.toNat) =
                (searchNames proto (offset + 1 + len.toNat)
                  (framing.parse (rest.drop len.toNat)).1).place := by
              apply ih
              rw [List.length_drop]
              omega
            have next : offset + (len.toNat + 1) = offset + 1 + len.toNat := by omega
            rw [if_neg incomplete, framing.parse_of_split_some found, searchNames,
              Name.length_encode]
            dsimp only
            rw [taken, next, later]
            by_cases same : rest.take len.toNat = proto
            · have lengths : len.toNat = proto.length := by rw [← same, taken]
              rw [if_pos ⟨lengths, same⟩, if_pos same]
              rfl
            · rw [if_neg fun both => same both.2, if_neg same]

/-- On a list that begins at address 0 the callback answers as `alpnSelect` does. -/
theorem alpnSelect_eq (serverAlpn client : Bytes) :
    alpnSelect serverAlpn client =
      (searchProtocols 0 (framing.parse client).1 (configuredNames serverAlpn)).place := by
  rw [alpnSelect, serverProtocols, serverProtocolsLoop_eq (le_refl _)]
  induction configuredNames serverAlpn with
  | nil => rfl
  | cons proto others ih =>
      rw [List.findSome?_cons, findClient_eq proto 0 (le_refl _), searchProtocols, ih]
      cases searchNames proto 0 (framing.parse client).1 <;> rfl

end Alpn

end HttpsServerSim
