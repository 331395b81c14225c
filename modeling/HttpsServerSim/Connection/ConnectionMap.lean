import HttpsServerSim.Connection.ConnectionManager
import Mathlib.Algebra.Group.Nat.Defs
import Mathlib.Data.List.Induction

/-!
# The connection manager as a concurrent map

The accesses of all calls to the manager, in the order of their critical sections, are a sequence
of operations on a map from ids to connections. The `n`th creation of the sequence gives the id
`n`, so ids grow while there are fewer than `2 ^ 64` creations; an id is registered from its
creation on until it is removed or all are swept.
-/

namespace HttpsServerSim

/-! ## Sequences of calls -/

namespace ManagerCall

def isCreation : ManagerCall → Bool
  | .createConnection => true
  | _ => false

/-- The call takes the id out of the map. -/
def Removes (id : UInt64) : ManagerCall → Prop
  | .removeConnection other => other = id
  | .closeAll _ => True
  | _ => False

end ManagerCall

def creations (calls : List ManagerCall) : ℕ :=
  calls.countP ManagerCall.isCreation

/-- The connection was created under the id, and the id neither removed nor swept since. -/
def RegisteredAfter (calls : List ManagerCall) (id : UInt64) (ref : ℕ) : Prop :=
  ∃ earlier later, calls = earlier ++ .createConnection :: later ∧
    id.toNat = creations earlier + 1 ∧ ref = creations earlier ∧
      ∀ call ∈ later, ¬call.Removes id

abbrev managerAfter (calls : List ManagerCall) : ConnectionManager :=
  Monitor.stateAfter ManagerCall.effect .construct calls

variable {calls : List ManagerCall} {call : ManagerCall} {id : UInt64} {ref : ℕ}

theorem creations_snoc :
    creations (calls ++ [call]) = creations calls + if call.isCreation then 1 else 0 := by
  simp [creations, List.countP_append, List.countP_singleton]

theorem RegisteredAfter.ref_eq (registered : RegisteredAfter calls id ref) :
    id.toNat = ref + 1 := by
  rcases registered with ⟨earlier, later, _, isId, isRef, _⟩
  omega

theorem RegisteredAfter.ref_lt (registered : RegisteredAfter calls id ref) :
    ref < creations calls := by
  rcases registered with ⟨earlier, later, rfl, _, isRef, _⟩
  rw [isRef]
  simp [creations, List.countP_append, List.countP_cons, ManagerCall.isCreation]

/-- One more call. -/
theorem registeredAfter_snoc : RegisteredAfter (calls ++ [call]) id ref ↔
    (RegisteredAfter calls id ref ∧ ¬call.Removes id) ∨
      call = .createConnection ∧ id.toNat = creations calls + 1 ∧ ref = creations calls := by
  refine ⟨?_, ?_⟩
  · rintro ⟨earlier, later, split, isId, isRef, kept⟩
    rcases List.eq_nil_or_concat later with rfl | ⟨middle, last, rfl⟩
    · rcases List.append_inj' split rfl with ⟨rfl, same⟩
      cases same
      exact Or.inr ⟨rfl, isId, isRef⟩
    · have grouped : calls ++ [call] = (earlier ++ .createConnection :: middle) ++ [last] := by
        rw [split]
        simp
      rcases List.append_inj' grouped rfl with ⟨rfl, same⟩
      cases same
      refine Or.inl ⟨⟨earlier, middle, rfl, isId, isRef, ?_⟩, ?_⟩
      · intro other isOther
        exact kept other (by simp [isOther])
      · exact kept call (by simp)
  · rintro (⟨⟨earlier, later, rfl, isId, isRef, kept⟩, stays⟩ | ⟨rfl, isId, isRef⟩)
    · refine ⟨earlier, later ++ [call], by simp, isId, isRef, ?_⟩
      intro other isOther
      rcases List.mem_append.mp isOther with older | latest
      · exact kept other older
      · rw [List.mem_singleton.mp latest]
        exact stays
    · exact ⟨calls, [], rfl, isId, isRef, by simp⟩

theorem managerAfter_snoc : managerAfter (calls ++ [call]) = call.effect (managerAfter calls) :=
  Monitor.stateAfter_snoc _ _ _ _

theorem managerAfter_counts (calls : List ManagerCall) :
    (managerAfter calls).created = creations calls ∧
      (managerAfter calls).nextConnectionId = UInt64.ofNat (creations calls + 1) := by
  induction calls using List.reverseRecOn with
  | nil => exact ⟨rfl, rfl⟩
  | append_singleton calls call ih =>
      rcases ih with ⟨created, nextId⟩
      rw [managerAfter_snoc, creations_snoc]
      cases call with
      | createConnection =>
          simp only [ManagerCall.effect, ConnectionManager.createConnection, created, nextId]
          refine ⟨rfl, ?_⟩
          simp [ManagerCall.isCreation, UInt64.ofNat_add]
      | _ => exact ⟨created, nextId⟩

/-- The id of the next creation does not wrap. -/
theorem id_toNat (calls : List ManagerCall) (few : creations calls + 1 < 2 ^ 64) :
    (UInt64.ofNat (creations calls + 1)).toNat = creations calls + 1 :=
  UInt64.toNat_ofNat_of_lt' few

/-- The map of the manager after a sequence of calls. -/
theorem lookup_managerAfter (few : creations calls < 2 ^ 64) :
    (managerAfter calls).connections.lookup id = some ref ↔ RegisteredAfter calls id ref := by
  induction calls using List.reverseRecOn generalizing ref with
  | nil =>
      refine ⟨nofun, ?_⟩
      rintro ⟨earlier, later, split, _⟩
      simp at split
  | append_singleton calls call ih =>
      rw [creations_snoc] at few
      have earlier : (managerAfter calls).connections.lookup id = some ref ↔
          RegisteredAfter calls id ref := ih (by omega)
      rw [managerAfter_snoc, registeredAfter_snoc]
      cases call with
      | createConnection =>
          rcases managerAfter_counts calls with ⟨created, nextId⟩
          simp only [ManagerCall.isCreation, if_true] at few
          have next := id_toNat calls few
          simp only [ManagerCall.effect, ConnectionManager.createConnection, created, nextId]
          by_cases same : id = UInt64.ofNat (creations calls + 1)
          · subst same
            rw [AList.lookup_insert, next]
            refine ⟨?_, ?_⟩
            · intro found
              cases found
              simp
            · rintro (⟨registered, _⟩ | ⟨_, _, isRef⟩)
              · have old := registered.ref_lt
                have isId := registered.ref_eq
                omega
              · rw [isRef]
          · rw [AList.lookup_insert_ne same, earlier]
            refine ⟨fun registered => Or.inl ⟨registered, not_false⟩, ?_⟩
            rintro (⟨registered, _⟩ | ⟨_, isId, _⟩)
            · exact registered
            · exact absurd (UInt64.toNat_inj.mp (isId.trans next.symm)) same
      | removeConnection other =>
          simp only [ManagerCall.effect, ConnectionManager.removeConnection, ManagerCall.Removes,
            reduceCtorEq, false_and, or_false]
          by_cases same : other = id
          · subst same
            simp [AList.lookup_erase]
          · rw [AList.lookup_erase_ne (Ne.symm same), earlier]
            simp [same]
      | closeAll order =>
          simp only [ManagerCall.effect, ConnectionManager.clear, ManagerCall.Removes,
            reduceCtorEq, false_and, or_false, not_true, and_false, iff_false]
          nofun
      | getConnection _ | getConnectionCount | forEachConnection _ | checkTimeouts _ _ _ _ _ _
      | checkCallbackTimeouts _ _ _ _ =>
          simp [ManagerCall.effect, ManagerCall.Removes, earlier]

/-- The connections in the map, once each. -/
theorem registered_managerAfter (calls : List ManagerCall) (few : creations calls < 2 ^ 64) :
    (managerAfter calls).registered.Nodup ∧
      ∀ ref, ref ∈ (managerAfter calls).registered ↔ ∃ id, RegisteredAfter calls id ref := by
  have entry : ∀ {id ref}, ⟨id, ref⟩ ∈ (managerAfter calls).connections.entries ↔
      RegisteredAfter calls id ref := by
    intro id ref
    rw [← lookup_managerAfter few]
    exact AList.mem_lookup_iff.symm
  refine ⟨?_, ?_⟩
  · unfold ConnectionManager.registered
    apply List.Nodup.map_on
    · rintro ⟨id, ref⟩ isEntry ⟨otherId, otherRef⟩ isOther same
      have first := (entry.mp isEntry).ref_eq
      have second := (entry.mp isOther).ref_eq
      cases same
      rw [UInt64.toNat_inj.mp (first.trans second.symm)]
    · exact (managerAfter calls).connections.nodupKeys.nodup
  · intro ref
    unfold ConnectionManager.registered
    rw [List.mem_map]
    refine ⟨?_, ?_⟩
    · rintro ⟨⟨id, other⟩, isEntry, rfl⟩
      exact ⟨id, entry.mp isEntry⟩
    · rintro ⟨id, registered⟩
      exact ⟨⟨id, ref⟩, entry.mpr registered, rfl⟩

/-! ## Calls that give connections to a function -/

structure Visit where
  order : IterationOrder
  code : ℕ → ManagerUse
  selects : ℕ → Bool

namespace ManagerCall

/-- The function, and the connections of the map that it is given. -/
def visit : ManagerCall → Option Visit
  | .forEachConnection order => some ⟨order, .func, fun _ => true⟩
  | .checkTimeouts order idleTimeoutMs callbackTimeoutMs seen idleClock callbackClock =>
      some ⟨order, .onTimeout,
        timedOut idleTimeoutMs callbackTimeoutMs seen idleClock callbackClock⟩
  | .checkCallbackTimeouts order timeoutSeconds seen clock =>
      some ⟨order, .close, fun ref =>
        (seen ref).isCallbackTimeout (clock ref) (timeoutMs timeoutSeconds)⟩
  | .closeAll order => some ⟨order, .close, fun _ => true⟩
  | _ => none

theorem body_of_visit {visit : Visit} (visits : call.visit = some visit) :
    call.body = .acquire (.access call.effect fun manager => .release
      (callBack visit.code ((visit.order.arrange manager.registered).filter visit.selects))) := by
  cases call with
  | forEachConnection order | closeAll order =>
      cases visits
      simp only [body, effect, List.filter_true]
  | checkTimeouts _ _ _ _ _ _ | checkCallbackTimeouts _ _ _ _ =>
      cases visits
      rfl
  | createConnection | getConnection _ | removeConnection _ | getConnectionCount => cases visits

theorem callBack_follows {code : ℕ → ManagerUse} {refs : List ℕ}
    {trace : List (Monitor.Move ConnectionManager ManagerUse Unit)} {program : Program}
    (follows : Monitor.Follows (callBack code refs) trace program) :
    ∃ called rest, refs = called ++ rest ∧ Monitor.usesOf trace = called.map code ∧
      program = callBack code rest := by
  induction refs generalizing trace with
  | nil =>
      rcases follows.of_done with ⟨rfl, rfl⟩
      exact ⟨[], [], rfl, rfl, rfl⟩
  | cons ref refs ih =>
      cases follows with
      | start => exact ⟨[], ref :: refs, rfl, rfl, rfl⟩
      | used later =>
          rcases ih later with ⟨called, rest, split, uses, same⟩
          refine ⟨ref :: called, rest, by rw [split]; rfl, ?_, same⟩
          simp [Monitor.usesOf, uses]

end ManagerCall

namespace ManagerThreads

variable {Thread : Type} (threads : ManagerThreads Thread)

/-- Ids grow from one critical section to the next, and no two creations give one id. -/
def FreshIds : Prop :=
  (∀ first ∈ threads.returned, ∀ second ∈ threads.returned, ∀ {id ref otherId otherRef p q},
    first.reply = .created id ref → second.reply = .created otherId otherRef →
      Monitor.AccessedAt threads.accesses first.serial first.call first.trace p →
        Monitor.AccessedAt threads.accesses second.serial second.call second.trace q →
          p < q → id < otherId) ∧
    threads.returned.Pairwise fun first second => ∀ {id ref otherId otherRef},
      first.reply = .created id ref → second.reply = .created otherId otherRef → id ≠ otherId

/-- A call found the manager as the calls before its access left it. -/
def Linearized (serial : ℕ) (call : ManagerCall)
    (trace : List (Monitor.Move ConnectionManager ManagerUse Unit))
    (holds : List ManagerCall → List ManagerCall → Prop) : Prop :=
  ∃ position, Monitor.AccessedAt threads.accesses serial call trace position ∧
    holds (Monitor.callsBefore threads.accesses position)
      (Monitor.callsBefore threads.accesses (position + 1))

/-- The calls of a connection manager behave as those of a map, each at its access. -/
structure ConcurrentMap : Prop where
  fresh : threads.FreshIds
  created : ∀ call ∈ threads.returned, call.call = .createConnection →
    threads.Linearized call.serial call.call call.trace fun _ after =>
      ∃ id ref, call.reply = .created id ref ∧ RegisteredAfter after id ref
  found : ∀ call ∈ threads.returned, ∀ id, call.call = .getConnection id →
    threads.Linearized call.serial call.call call.trace fun before _ =>
      ∃ found, call.reply = .found found ∧ ∀ ref, found = some ref ↔ RegisteredAfter before id ref
  counted : ∀ call ∈ threads.returned, call.call = .getConnectionCount →
    threads.Linearized call.serial call.call call.trace fun before _ =>
      ∃ refs : List ℕ, call.reply = .count (UInt32.ofNat refs.length) ∧ refs.Nodup ∧
        ∀ ref, ref ∈ refs ↔ ∃ id, RegisteredAfter before id ref
  /-- Each selected connection of the snapshot is given to the function once, and no other. -/
  visited : ∀ call ∈ threads.returned, ∀ visit, call.call.visit = some visit →
    threads.Linearized call.serial call.call call.trace fun before _ =>
      ∃ refs : List ℕ, Monitor.usesOf call.trace = refs.map visit.code ∧ refs.Nodup ∧
        ∀ ref, ref ∈ refs ↔ visit.selects ref ∧ ∃ id, RegisteredAfter before id ref
  visiting : ∀ thread, ∀ call ∈ threads.callStacks thread, ∀ visit code next,
    call.call.visit = some visit → call.program = .use code next →
      threads.Linearized call.serial call.call call.trace fun before _ =>
        ∃ refs : List ℕ, Monitor.usesOf call.trace ++ [code] <+: refs.map visit.code ∧
          refs.Nodup ∧ ∀ ref, ref ∈ refs ↔ visit.selects ref ∧ ∃ id, RegisteredAfter before id ref
  /-- `close_all` closes what it takes out of the map. -/
  closed : ∀ call ∈ threads.returned, ∀ order, call.call = .closeAll order →
    threads.Linearized call.serial call.call call.trace fun before after =>
      ∃ refs : List ℕ, Monitor.usesOf call.trace = refs.map .close ∧ refs.Nodup ∧
        ∀ ref, ref ∈ refs ↔ ∃ id, RegisteredAfter before id ref ∧ ¬RegisteredAfter after id ref
  /-- A thread does not hold the mutex while it runs the user's code. -/
  unlocked : ∀ thread, ∀ top ∈ (threads.callStacks thread).head?, top.program.Uses →
    threads.holder ≠ some thread

variable {threads} {serial : ℕ} {call : ManagerCall} {visit : Visit}
  {trace : List (Monitor.Move ConnectionManager ManagerUse Unit)} {program : ManagerCall.Program}

/-- The calls recorded for the threads. -/
abbrev Recorded (threads : ManagerThreads Thread) (serial : ℕ) (call : ManagerCall)
    (trace : List (Monitor.Move ConnectionManager ManagerUse Unit)) : Prop :=
  Monitor.Recorded ManagerCall.effect .construct threads.accesses serial call trace

theorem creations_callsBefore_lt {accesses : List (ℕ × ManagerCall)} {p q : ℕ} {serial : ℕ}
    (place : accesses[p]? = some (serial, .createConnection)) (before : p < q) :
    creations (Monitor.callsBefore accesses p) < creations (Monitor.callsBefore accesses q) := by
  have next : creations (Monitor.callsBefore accesses (p + 1)) =
      creations (Monitor.callsBefore accesses p) + 1 := by
    rw [Monitor.callsBefore_succ place, creations_snoc]
    rfl
  have mono : creations (Monitor.callsBefore accesses (p + 1)) ≤
      creations (Monitor.callsBefore accesses q) := by
    apply List.Sublist.countP_le
    exact ((List.take_prefix_take_left (Nat.succ_le_of_lt before)).sublist).map _
  omega

theorem creations_callsBefore_le (accesses : List (ℕ × ManagerCall)) (p : ℕ) :
    creations (Monitor.callsBefore accesses p) ≤ creations (accesses.map Prod.snd) :=
  List.Sublist.countP_le ((List.take_sublist p accesses).map Prod.snd)

/-- The access of a creation, with the id that it gives. -/
theorem created_spec (recorded : threads.Recorded serial call trace) {id : UInt64} {ref : ℕ}
    (follows : Monitor.Follows call.body trace (.done (.created id ref))) :
    call = .createConnection ∧ ∃ p, Monitor.AccessedAt threads.accesses serial call trace p ∧
      (∀ other, Monitor.AccessedAt threads.accesses serial call trace other → other = p) ∧
        id = UInt64.ofNat (creations (Monitor.callsBefore threads.accesses p) + 1) ∧
          ref = creations (Monitor.callsBefore threads.accesses p) := by
  cases call with
  | createConnection =>
      rcases recorded.of_section follows trivial with ⟨p, later, place, only, _, continued⟩
      rcases continued.of_done with ⟨rfl, reply⟩
      cases reply
      rcases managerAfter_counts (Monitor.callsBefore threads.accesses p) with
        ⟨created, nextId⟩
      refine ⟨rfl, p, place, ?_, nextId, created⟩
      intro other otherPlace
      rcases only other otherPlace with same | ⟨seen, impossible⟩
      · exact same
      · cases impossible
  | getConnection _ | removeConnection _ | getConnectionCount =>
      rcases recorded.of_section follows trivial with ⟨p, later, place, _, _, continued⟩
      cases continued.of_done.2
  | forEachConnection _ | checkTimeouts _ _ _ _ _ _ | checkCallbackTimeouts _ _ _ _
  | closeAll _ =>
      rcases recorded.of_section follows trivial with ⟨p, later, place, _, _, continued⟩
      rcases ManagerCall.callBack_follows continued with ⟨called, rest, _, _, same⟩
      cases rest <;> cases same

theorem freshIds (accounted : Monitor.Accounted ManagerCall.body ManagerCall.effect .construct
      threads) (named : Monitor.SeriallyNamed threads)
    (few : creations (threads.accesses.map Prod.snd) < 2 ^ 64) : threads.FreshIds := by
  have ordered : ∀ first ∈ threads.returned, ∀ second ∈ threads.returned,
      ∀ {id ref otherId otherRef p q},
        first.reply = .created id ref → second.reply = .created otherId otherRef →
          Monitor.AccessedAt threads.accesses first.serial first.call first.trace p →
            Monitor.AccessedAt threads.accesses second.serial second.call second.trace q →
              p < q → id < otherId := by
    intro first isFirst second isSecond id ref otherId otherRef p q reply otherReply place
      otherPlace before
    rcases accounted.returned first isFirst with ⟨follows, recorded⟩
    rcases accounted.returned second isSecond with ⟨otherFollows, otherRecorded⟩
    rw [reply] at follows
    rw [otherReply] at otherFollows
    rcases created_spec recorded follows with ⟨isCreation, _, _, only, rfl, _⟩
    rcases created_spec otherRecorded otherFollows with ⟨otherIsCreation, _, _, otherOnly, rfl, _⟩
    cases only p place
    cases otherOnly q otherPlace
    have firstPlace := place.1
    have secondPlace := otherPlace.1
    rw [isCreation] at firstPlace
    rw [otherIsCreation] at secondPlace
    have grows := creations_callsBefore_lt firstPlace before
    have bounded := creations_callsBefore_lt secondPlace (Nat.lt_add_one q)
    have total := creations_callsBefore_le threads.accesses (q + 1)
    have firstId := id_toNat (Monitor.callsBefore threads.accesses p) (by omega)
    have secondId := id_toNat (Monitor.callsBefore threads.accesses q) (by omega)
    rw [UInt64.lt_iff_toNat_lt, firstId, secondId]
    omega
  refine ⟨ordered, ?_⟩
  have distinct := List.pairwise_map.mp named.endedOnce
  apply distinct.imp_of_mem
  intro first second isFirst isSecond different id ref otherId otherRef reply otherReply
  rcases accounted.returned first isFirst with ⟨follows, recorded⟩
  rcases accounted.returned second isSecond with ⟨otherFollows, otherRecorded⟩
  rw [reply] at follows
  rw [otherReply] at otherFollows
  rcases created_spec recorded follows with ⟨_, p, place, _⟩
  rcases created_spec otherRecorded otherFollows with ⟨_, q, otherPlace, _⟩
  rcases Nat.lt_trichotomy p q with less | same | greater
  · exact UInt64.ne_of_lt (ordered first isFirst second isSecond reply otherReply place otherPlace
      less)
  · have shared := place.1
    rw [same, otherPlace.1] at shared
    exact absurd (Prod.mk.inj (Option.some.inj shared)).1.symm different
  · exact (UInt64.ne_of_lt (ordered second isSecond first isFirst otherReply reply otherPlace place
      greater)).symm

/-- What a call that gives connections to a function has done, in the loop or behind it. -/
theorem visit_spec (recorded : threads.Recorded serial call trace)
    (visits : call.visit = some visit) (follows : Monitor.Follows call.body trace program)
    (outside : program.Outside) (few : creations (threads.accesses.map Prod.snd) < 2 ^ 64) :
    threads.Linearized serial call trace fun before _ => ∃ called rest : List ℕ,
      Monitor.usesOf trace = called.map visit.code ∧
        program = ManagerCall.callBack visit.code rest ∧ (called ++ rest).Nodup ∧
          ∀ ref, ref ∈ called ++ rest ↔
            visit.selects ref ∧ ∃ id, RegisteredAfter before id ref := by
  rw [ManagerCall.body_of_visit visits] at follows
  rcases recorded.of_section follows outside with ⟨p, later, place, _, runs, continued⟩
  rcases ManagerCall.callBack_follows continued with ⟨called, rest, split, called_eq, same⟩
  have bound := creations_callsBefore_le threads.accesses p
  rcases registered_managerAfter (Monitor.callsBefore threads.accesses p) (by omega) with
    ⟨nodup, mem⟩
  refine ⟨p, place, called, rest, ?_, same, ?_, ?_⟩
  · rw [Monitor.usesOf_eq, runs, ← Monitor.usesOf_eq]
    exact called_eq
  · rw [← split]
    exact ((visit.order.perm _).nodup_iff.mpr nodup).filter _
  · intro ref
    rw [← split, List.mem_filter, (visit.order.perm _).mem_iff, mem]
    exact and_comm

theorem callBack_eq_done {code : ℕ → ManagerUse} {rest : List ℕ} {reply : ManagerReply}
    (same : Monitor.Program.done reply = ManagerCall.callBack code rest) : rest = [] := by
  cases rest with
  | nil => rfl
  | cons ref rest => cases same

/-- For every interleaving of the calls, those made from within the user's code included, with
fewer than `2 ^ 64` creations. -/
theorem concurrentMap [DecidableEq Thread] {actions : List (Monitor.Action Thread ManagerCall Unit)}
    (ran : Interleaving.run step construct actions = some threads)
    (few : creations (threads.accesses.map Prod.snd) < 2 ^ 64) : threads.ConcurrentMap := by
  have accounted := Monitor.accounted_run ManagerCall.body_applies ran
  have exclusive := Monitor.exclusive_run ManagerCall.body_disciplined ran
  have visited : ∀ call ∈ threads.returned, ∀ visit, call.call.visit = some visit →
      threads.Linearized call.serial call.call call.trace fun before _ =>
        ∃ refs : List ℕ, Monitor.usesOf call.trace = refs.map visit.code ∧ refs.Nodup ∧
          ∀ ref, ref ∈ refs ↔ visit.selects ref ∧ ∃ id, RegisteredAfter before id ref := by
    intro call isReturned visit visits
    rcases accounted.returned call isReturned with ⟨follows, recorded⟩
    rcases visit_spec recorded visits follows trivial few with
      ⟨p, place, called, rest, uses, same, nodup, mem⟩
    cases callBack_eq_done same
    rw [List.append_nil] at nodup mem
    exact ⟨p, place, called, uses, nodup, mem⟩
  constructor
  case fresh => exact freshIds accounted (Monitor.seriallyNamed_run ran) few
  case created =>
    intro call isReturned isCreation
    rcases accounted.returned call isReturned with ⟨follows, recorded⟩
    rw [isCreation] at follows
    rcases recorded.of_section follows trivial with ⟨p, later, place, _, _, continued⟩
    have reply := (Monitor.Program.done.inj continued.of_done.2)
    have at_p := place.1
    rw [isCreation] at at_p
    have grows := creations_callsBefore_lt at_p (Nat.lt_add_one p)
    have bound := creations_callsBefore_le threads.accesses (p + 1)
    rcases managerAfter_counts (Monitor.callsBefore threads.accesses p) with ⟨created, nextId⟩
    refine ⟨p, place, _, _, reply, ?_⟩
    rw [Monitor.callsBefore_succ at_p, registeredAfter_snoc]
    refine Or.inr ⟨rfl, ?_, created⟩
    exact (congrArg UInt64.toNat nextId).trans (id_toNat _ (by omega))
  case found =>
    intro call isReturned id isGet
    rcases accounted.returned call isReturned with ⟨follows, recorded⟩
    rw [isGet] at follows
    rcases recorded.of_section follows trivial with ⟨p, later, place, _, _, continued⟩
    have bound := creations_callsBefore_le threads.accesses p
    refine ⟨p, place, _, Monitor.Program.done.inj continued.of_done.2, ?_⟩
    intro ref
    exact lookup_managerAfter (by omega)
  case counted =>
    intro call isReturned isCount
    rcases accounted.returned call isReturned with ⟨follows, recorded⟩
    rw [isCount] at follows
    rcases recorded.of_section follows trivial with ⟨p, later, place, _, _, continued⟩
    have bound := creations_callsBefore_le threads.accesses p
    have reply := Monitor.Program.done.inj continued.of_done.2
    refine ⟨p, place, _, ?_, registered_managerAfter _ (by omega)⟩
    rw [reply, ConnectionManager.getConnectionCount, ConnectionManager.registered,
      List.length_map]
  case visited => exact visited
  case visiting =>
    intro thread call isRunning visit code next visits place
    have runs := accounted.running thread call isRunning
    have follows := runs.follows
    rw [place] at follows
    rcases visit_spec runs.recorded visits follows trivial few with
      ⟨p, access, called, rest, uses, same, nodup, mem⟩
    refine ⟨p, access, called ++ rest, ?_, nodup, mem⟩
    cases rest with
    | nil => cases same
    | cons ref rest =>
        cases same
        rw [uses]
        simp
  case closed =>
    intro call isReturned order isCloseAll
    have visits : call.call.visit = some ⟨order, .close, fun _ => true⟩ := by
      rw [isCloseAll]
      rfl
    rcases visited call isReturned _ visits with ⟨p, place, refs, uses, nodup, mem⟩
    refine ⟨p, place, refs, uses, nodup, ?_⟩
    intro ref
    have swept : ∀ id, ¬RegisteredAfter (Monitor.callsBefore threads.accesses (p + 1)) id ref := by
      intro id
      have at_p := place.1
      rw [isCloseAll] at at_p
      rw [Monitor.callsBefore_succ at_p, registeredAfter_snoc]
      simp [ManagerCall.Removes]
    simp [mem, swept]
  case unlocked =>
    intro thread top isTop uses
    exact exclusive.not_holder isTop uses

/-- The order in which the model keeps the entries. -/
def entryOrder : IterationOrder := ⟨fun refs => refs, fun _ => .refl _⟩

/-- One thread makes two connections and goes through them with a function that removes the
connection 1, which another thread looks up between the two calls of the function. -/
def removesInCallback : List (Monitor.Action Bool ManagerCall Unit) :=
  [.call true .createConnection, .move true, .move true, .move true, .move true,
    .call true .createConnection, .move true, .move true, .move true, .move true,
    .call true (.forEachConnection entryOrder), .move true, .move true, .move true,
    .call true (.removeConnection 1), .move true, .move true, .move true, .move true,
    .userReturns true (),
    .call false (.getConnection 1), .move false, .move false, .move false, .move false,
    .userReturns true (), .move true]

theorem concurrentMap_removesInCallback :
    ∃ threads, Interleaving.run step construct removesInCallback = some threads ∧
      threads.returned.map (fun call => (call.reply, Monitor.usesOf call.trace)) =
        [(.created 1 0, []), (.created 2 1, []), (.nothing, []), (.found none, []),
          (.nothing, [.func 1, .func 0])] ∧
        threads.ConcurrentMap := by
  have seen : (Interleaving.run step construct removesInCallback).map (fun threads =>
      (threads.returned.map (fun call => (call.reply, Monitor.usesOf call.trace)),
        creations (threads.accesses.map Prod.snd))) =
      some ([(.created 1 0, []), (.created 2 1, []), (.nothing, []), (.found none, []),
          (.nothing, [.func 1, .func 0])], 2) := by
    decide +kernel
  rcases Option.map_eq_some_iff.mp seen with ⟨threads, ran, fields⟩
  rcases Prod.mk.inj fields with ⟨replies, two⟩
  refine ⟨threads, ran, replies, concurrentMap ran ?_⟩
  rw [two]
  decide

end ManagerThreads

end HttpsServerSim
