import HttpsServerSim.Lib.Bytes
import Mathlib.Data.Int.Basic
import Mathlib.Data.List.AList

/-!
# Sockets

The sockets of the process as the server's calls see them. `socket` gives a descriptor that is
not open, and which one it gives is open as well; `close` of a descriptor that is not open
changes nothing. `calls` has the descriptors in the order in which they were given out and
passed to `close`.
-/

namespace HttpsServerSim

/-- A number of one to three decimal digits up to 255, without leading zeros. -/
def ipOctet (digits : Bytes) : Option UInt8 :=
  let value := digits.foldl (fun value digit => value * 10 + (digit.toNat - 48)) 0
  if digits ≠ [] ∧ digits.length ≤ 3 ∧ digits.all (fun digit => 48 ≤ digit && digit ≤ 57) ∧
      (digits.head? = some 48 → digits.length = 1) ∧ value ≤ 255 then
    some (UInt8.ofNat value)
  else none

/-- `inet_pton` with `AF_INET`, of a text without NUL. -/
def inetPton (text : Bytes) : Option Bytes :=
  match text.splitOn 46 with
  | [first, second, third, fourth] => [first, second, third, fourth].mapM ipOctet
  | _ => none

theorem length_le_of_ipOctet {digits : Bytes} {octet : UInt8}
    (parsed : ipOctet digits = some octet) : digits.length ≤ 3 := by
  unfold ipOctet at parsed
  simp only [Option.ite_none_right_eq_some] at parsed
  exact parsed.1.2.1

/-- An address in text has at most fifteen characters. -/
theorem length_le_of_inetPton {text address : Bytes} (parsed : inetPton text = some address) :
    text.length ≤ 15 := by
  have joined : [46].intercalate (text.splitOn 46) = text := List.intercalate_splitOn 46
  unfold inetPton at parsed
  split at parsed
  · rename_i first second third fourth parts
    rw [parts] at joined
    simp only [List.mapM_cons, List.mapM_nil, Option.pure_def, Option.bind_eq_bind,
      Option.bind_eq_some_iff] at parsed
    rcases parsed with ⟨_, one, _, ⟨_, two, _, ⟨_, three, _, ⟨_, four, _⟩, _⟩, _⟩, _⟩
    have firstLength := length_le_of_ipOctet one
    have secondLength := length_le_of_ipOctet two
    have thirdLength := length_le_of_ipOctet three
    have fourthLength := length_le_of_ipOctet four
    rw [← joined]
    simp [List.intercalate]
    omega
  · cases parsed

structure Socket where
  address : Option (Bytes × UInt16)
  backlog : Option Int32
deriving DecidableEq

inductive SocketCall where
  | socket (fd : ℤ)
  | close (fd : ℤ)
deriving DecidableEq, Repr

structure Sockets where
  table : AList fun _ : ℤ => Socket
  calls : List SocketCall

namespace Sockets

def initial : Sockets where
  table := ∅
  calls := []

def isOpen (sockets : Sockets) (fd : ℤ) : Bool := decide (fd ∈ sockets.table)

/-- The descriptor that `socket` gives: the wanted one, or another one if that is open. -/
def fresh (sockets : Sockets) (wanted : ℕ) : ℤ :=
  if sockets.isOpen wanted then ((sockets.table.keys.map Int.natAbs).sum + 1 : ℕ) else wanted

def socket (sockets : Sockets) (fd : ℤ) : Sockets where
  table := sockets.table.insert fd ⟨none, none⟩
  calls := sockets.calls ++ [.socket fd]

def update (sockets : Sockets) (fd : ℤ) (change : Socket → Socket) : Sockets :=
  match sockets.table.lookup fd with
  | some socket => { sockets with table := sockets.table.insert fd (change socket) }
  | none => sockets

def bind (sockets : Sockets) (fd : ℤ) (address : Bytes) (port : UInt16) : Sockets :=
  sockets.update fd fun socket => { socket with address := some (address, port) }

def listen (sockets : Sockets) (fd : ℤ) (backlog : Int32) : Sockets :=
  sockets.update fd fun socket => { socket with backlog := some backlog }

def close (sockets : Sockets) (fd : ℤ) : Sockets where
  table := sockets.table.erase fd
  calls := sockets.calls ++ [.close fd]

theorem fresh_nonneg (sockets : Sockets) (wanted : ℕ) : 0 ≤ sockets.fresh wanted := by
  unfold fresh
  split <;> exact Int.natCast_nonneg _

theorem fresh_not_open (sockets : Sockets) (wanted : ℕ) : sockets.fresh wanted ∉ sockets.table := by
  unfold fresh
  split
  · intro member
    have inKeys : ((_ : ℕ) : ℤ).natAbs ∈ sockets.table.keys.map Int.natAbs :=
      List.mem_map_of_mem (AList.mem_keys.mpr member)
    have bound := List.le_sum_of_mem inKeys
    rw [Int.natAbs_natCast] at bound
    omega
  · rename_i notOpen
    simpa [isOpen] using notOpen

/-! ## Who is open -/

variable {sockets : Sockets} {fd other : ℤ}

theorem mem_socket : other ∈ (sockets.socket fd).table ↔ other = fd ∨ other ∈ sockets.table :=
  AList.mem_insert sockets.table

theorem mem_close : other ∈ (sockets.close fd).table ↔ other ≠ fd ∧ other ∈ sockets.table :=
  AList.mem_erase

theorem mem_update (change : Socket → Socket) :
    other ∈ (sockets.update fd change).table ↔ other ∈ sockets.table := by
  unfold update
  split
  · rename_i socket found
    rw [AList.mem_insert]
    constructor
    · rintro (rfl | member)
      · exact AList.lookup_isSome.mp (by rw [found]; rfl)
      · exact member
    · exact Or.inr
  · rfl

theorem calls_update (change : Socket → Socket) :
    (sockets.update fd change).calls = sockets.calls := by
  unfold update
  split <;> rfl

theorem lookup_update_of_ne (different : other ≠ fd) (change : Socket → Socket) :
    (sockets.update fd change).table.lookup other = sockets.table.lookup other := by
  unfold update
  split
  · exact AList.lookup_insert_ne different
  · rfl

theorem lookup_update {socket : Socket} (found : sockets.table.lookup fd = some socket)
    (change : Socket → Socket) :
    (sockets.update fd change).table.lookup fd = some (change socket) := by
  simp [update, found]

/-! ## What was given out and closed -/

/-- Each descriptor is closed only when it has been given out, and given out again only when it has
been closed. -/
def Alternating (calls : List SocketCall) : Prop :=
  ∀ {earlier}, earlier <+: calls → ∀ fd,
    earlier.count (.close fd) ≤ earlier.count (.socket fd) ∧
      earlier.count (.socket fd) ≤ earlier.count (.close fd) + 1

/-- The open descriptors are those that were given out once more than they were closed. -/
structure Accounted (sockets : Sockets) : Prop where
  alternating : Alternating sockets.calls
  outstanding : ∀ fd, sockets.calls.count (.socket fd) =
    sockets.calls.count (.close fd) + if fd ∈ sockets.table then 1 else 0

theorem accounted_initial : initial.Accounted := by
  refine ⟨?_, ?_⟩
  · intro earlier isPrefix fd
    rw [List.prefix_nil.mp isPrefix]
    exact ⟨Nat.zero_le _, Nat.zero_le _⟩
  · intro fd
    have nobody : fd ∉ initial.table := AList.notMem_empty fd
    rw [if_neg nobody]
    rfl

/-- One more call. -/
theorem accounted_concat {after : Sockets} {call : SocketCall} (accounted : sockets.Accounted)
    (calls : after.calls = sockets.calls ++ [call])
    (outstanding : ∀ fd, after.calls.count (.socket fd) =
      after.calls.count (.close fd) + if fd ∈ after.table then 1 else 0) : after.Accounted := by
  refine ⟨?_, outstanding⟩
  intro earlier isPrefix
  rw [calls] at isPrefix
  rcases List.prefix_concat_iff.mp isPrefix with whole | shorter
  · rw [whole, ← calls]
    intro fd
    have now := outstanding fd
    have atMostOne : (if fd ∈ after.table then 1 else 0) ≤ 1 := by split <;> omega
    omega
  · exact accounted.alternating shorter

theorem Accounted.socket (accounted : sockets.Accounted) (fresh : fd ∉ sockets.table) :
    (sockets.socket fd).Accounted := by
  apply accounted_concat accounted rfl
  intro other
  have before := accounted.outstanding other
  by_cases same : other = fd
  · subst same
    rw [if_neg fresh] at before
    rw [if_pos (mem_socket.mpr (Or.inl rfl))]
    simp [Sockets.socket, before]
  · have stays : other ∈ (sockets.socket fd).table ↔ other ∈ sockets.table := by
      simp [mem_socket, same]
    simp only [stays]
    simp [Sockets.socket, before, Ne.symm same]

theorem Accounted.close (accounted : sockets.Accounted) (isOpen : fd ∈ sockets.table) :
    (sockets.close fd).Accounted := by
  apply accounted_concat accounted rfl
  intro other
  have before := accounted.outstanding other
  by_cases same : other = fd
  · subst same
    have gone : other ∉ (sockets.close other).table := by simp [mem_close]
    rw [if_pos isOpen] at before
    rw [if_neg gone]
    simp [Sockets.close, before]
  · have stays : other ∈ (sockets.close fd).table ↔ other ∈ sockets.table := by
      simp [mem_close, same]
    simp only [stays]
    simp [Sockets.close, before, Ne.symm same]

theorem Accounted.update (accounted : sockets.Accounted) (change : Socket → Socket) :
    (sockets.update fd change).Accounted := by
  refine ⟨?_, ?_⟩
  · rw [calls_update]
    exact accounted.alternating
  · intro other
    rw [calls_update]
    simp only [mem_update]
    exact accounted.outstanding other

end Sockets

end HttpsServerSim
