import HttpsServerSim.Server.ServerCalls
import Mathlib.Data.Fintype.Basic
import Mathlib.Logic.Relation

/-!
# Concurrent calls of `stop`

Threads that call `stop` of a running server. A thread moves by one critical section, one access
of an atomic, one `::close` or one operation of a vector at a time. The iterators of the loop
in `stop_accepting` are read once, before its first turn, and another thread's `clear` leaves
what is between them.

`stop` reads the status in one critical section and sets it in another one. Threads that read
it before one of them has set it all shut the server down, and each of them closes the
listeners. Where a thread reads it at no such moment, one thread shuts the server down, as if
it were alone, and the others are refused.
-/

namespace HttpsServerSim

universe u

/-- Where a thread is in `stop`. In the loop it has the descriptors between its iterators. -/
inductive StopPc where
  | check
  | setGracefulShutdown
  | setShuttingDown
  | checkMsgCenter
  | beginLoop
  | loop (fds : List ℤ)
  | close (fd : ℤ) (fds : List ℤ)
  | clear
  | waitPending
  | claimCleanup
  | stopMsgCenter
  | clearRunning
  | clearGracefulShutdown
  | setStopped
  | returned (error : ServerError)
deriving DecidableEq

namespace Server

/-- A thread's next move in `stop`. -/
def stopStep (server : Server) : StopPc → Option (Server × StopPc)
  | .check =>
      if server.status ≠ .running then some (server, .returned .invalidState)
      else some (server, .setGracefulShutdown)
  | .setGracefulShutdown => some ({ server with gracefulShutdown := true }, .setShuttingDown)
  | .setShuttingDown => some ({ server with status := .shuttingDown }, .checkMsgCenter)
  | .checkMsgCenter =>
      if server.msgCenter.isNone then some (server, .waitPending) else some (server, .beginLoop)
  | .beginLoop => some (server, .loop server.listenFds)
  | .loop [] => some (server, .clear)
  | .loop (fd :: fds) =>
      if fd ≥ 0 then
        server.msgCenter.map fun center =>
          ({ server with msgCenter := some (center.removeListenFd fd).2 }, .close fd fds)
      else some (server, .loop fds)
  | .close fd fds => some ({ server with sockets := server.sockets.close fd }, .loop fds)
  | .clear => some ({ server with listenFds := [] }, .waitPending)
  | .waitPending => some (server, .claimCleanup)
  | .claimCleanup =>
      if server.resourcesCleaned then some (server, .setStopped)
      else some ({ server with resourcesCleaned := true }, .stopMsgCenter)
  | .stopMsgCenter =>
      some ({ server with msgCenter := server.msgCenter.map ListenCenter.stop }, .clearRunning)
  | .clearRunning => some ({ server with running := false }, .clearGracefulShutdown)
  | .clearGracefulShutdown => some ({ server with gracefulShutdown := false }, .setStopped)
  | .setStopped => some ({ server with status := .stopped }, .returned .success)
  | .returned _ => none

/-- A server and where a thread is, and the same after its next move. -/
def Moves (before after : Server × StopPc) : Prop :=
  before.1.stopStep before.2 = some after

end Server

structure StopThreads (Thread : Type u) where
  server : Server
  pcs : Thread → StopPc

namespace StopThreads

variable {Thread : Type u}

/-- All threads call `stop`. -/
def call (server : Server) : StopThreads Thread where
  server := server
  pcs := fun _ => .check

variable [DecidableEq Thread]

def step (threads : StopThreads Thread) (thread : Thread) : Option (StopThreads Thread) :=
  (threads.server.stopStep (threads.pcs thread)).map fun moved =>
    { server := moved.1, pcs := Function.update threads.pcs thread moved.2 }

/-- The threads after an interleaving. -/
def run (threads : StopThreads Thread) (schedule : List Thread) : Option (StopThreads Thread) :=
  Interleaving.run step threads schedule

end StopThreads

/-! ## A thread alone -/

namespace Server

open Relation (ReflTransGen)

variable {server next : Server} {pc : StopPc}

/-- The loop of `stop_accepting`, of one thread. -/
theorem moves_loop {fds : List ℤ} {center : ListenCenter} (found : server.msgCenter = some center) :
    ReflTransGen Moves (server, .loop fds)
      ({ server with
          msgCenter :=
            some
              (fds.foldl
                (fun center fd => if fd ≥ 0 then (center.removeListenFd fd).2 else center) center)
          sockets :=
            fds.foldl (fun sockets fd => if fd ≥ 0 then sockets.close fd else sockets)
              server.sockets },
        .loop []) := by
  induction fds generalizing server center with
  | nil =>
      rw [List.foldl_nil, List.foldl_nil, ← found]
  | cons fd rest ih =>
      rw [List.foldl_cons, List.foldl_cons]
      by_cases nonneg : fd ≥ 0
      · rw [if_pos nonneg, if_pos nonneg]
        have removes : Moves (server, .loop (fd :: rest))
            ({ server with msgCenter := some (center.removeListenFd fd).2 }, .close fd rest) := by
          simp only [Moves, stopStep, if_pos nonneg, found, Option.map_some]
        exact .head removes (.head rfl (ih rfl))
      · rw [if_neg nonneg, if_neg nonneg]
        have skips : Moves (server, .loop (fd :: rest)) (server, .loop rest) := if_neg nonneg
        exact .head skips (ih found)

/-- `cleanup_resources`, of one thread. -/
theorem moves_cleanupResources (server : Server) :
    ReflTransGen Moves (server, .claimCleanup) (server.cleanupResources, .setStopped) := by
  unfold cleanupResources
  split
  · rename_i cleaned
    exact .single (if_pos cleaned)
  · rename_i notCleaned
    have claims : Moves (server, .claimCleanup)
        ({ server with resourcesCleaned := true }, .stopMsgCenter) := if_neg notCleaned
    exact .head claims (.head rfl (.head rfl (.single rfl)))

/-- A thread alone ends as `stop` does. -/
theorem moves_stop (sane : server.Sane) (running : server.status = .running) :
    ReflTransGen Moves (server, .check) (server.stop.2, .returned server.stop.1) := by
  rcases sane.present running with ⟨center, found⟩
  rw [stop_of_running running]
  have begins : ReflTransGen Moves (server, .check)
      ({ server with gracefulShutdown := true, status := .shuttingDown }, .checkMsgCenter) :=
    .head (if_neg fun notRunning => notRunning running) (.head rfl (.single rfl))
  have stopsAccepting : ReflTransGen Moves
      ({ server with gracefulShutdown := true, status := .shuttingDown }, .checkMsgCenter)
      ({ server with gracefulShutdown := true, status := .shuttingDown }.stopAccepting,
        .waitPending) := by
    have checks : Moves
        ({ server with gracefulShutdown := true, status := .shuttingDown }, .checkMsgCenter)
        ({ server with gracefulShutdown := true, status := .shuttingDown }, .beginLoop) := by
      simp [Moves, stopStep, found]
    refine .head checks (.head rfl (.trans (moves_loop found) ?_))
    simp only [stopAccepting, found]
    exact .head rfl (.single rfl)
  have cleansUp := moves_cleanupResources
    { server with gracefulShutdown := true, status := .shuttingDown }.stopAccepting
  exact begins.trans (stopsAccepting.trans (.head rfl (cleansUp.trans (.single rfl))))

/-- A thread that has returned, alone, has done what `stop` does. -/
theorem stop_eq_of_path {error : ServerError} (sane : server.Sane)
    (running : server.status = .running)
    (path : ReflTransGen Moves (server, .check) (next, .returned error)) :
    server.stop = (error, next) := by
  have unique : Relator.RightUnique Moves := fun _ _ _ first second =>
    Option.some.inj (first.symm.trans second)
  have stuck : ∀ {error : ServerError} {server : Server} {after : Server × StopPc},
      ReflTransGen Moves (server, .returned error) after → after = (server, .returned error) := by
    intro error server after path
    rcases path.cases_head with same | ⟨moved, moves, _⟩
    · exact same.symm
    · cases moves
  rcases Relation.ReflTransGen.total_of_right_unique unique path (moves_stop sane running) with
    onward | onward
  · cases stuck onward
    rfl
  · cases stuck onward
    rfl

end Server

namespace StopPc

/-- The thread has read that the server runs, and has not set the status. -/
def Contends : StopPc → Prop
  | .setGracefulShutdown | .setShuttingDown => True
  | _ => False

instance (pc : StopPc) : Decidable pc.Contends :=
  match pc with
  | .setGracefulShutdown | .setShuttingDown => isTrue trivial
  | .check | .checkMsgCenter | .beginLoop | .loop _ | .close _ _ | .clear | .waitPending
  | .claimCleanup | .stopMsgCenter | .clearRunning | .clearGracefulShutdown | .setStopped
  | .returned _ => isFalse id

/-- The thread has read that the server runs. -/
def Admitted : StopPc → Prop
  | .check => False
  | .returned error => error = .success
  | _ => True

/-- The thread has not set the status. -/
def BeforeSet : StopPc → Prop
  | .check | .setGracefulShutdown | .setShuttingDown => True
  | _ => False

/-- The loop has not begun. -/
def BeforeLoop : StopPc → Prop
  | .check | .setGracefulShutdown | .setShuttingDown | .checkMsgCenter | .beginLoop => True
  | _ => False

/-- The listeners that a thread alone has yet to close. -/
def leftToClose (fds : List ℤ) : StopPc → List ℤ
  | .check | .setGracefulShutdown | .setShuttingDown | .checkMsgCenter | .beginLoop => fds
  | .loop rest => rest
  | .close fd rest => fd :: rest
  | _ => []

end StopPc

namespace Server

open Relation (ReflTransGen)

variable {server current next : Server} {pc nextPc : StopPc}

/-- A thread that was admitted stays so. -/
theorem admitted_of_moves (admitted : pc.Admitted) (moves : Moves (current, pc) (next, nextPc)) :
    nextPc.Admitted := by
  cases pc with
  | check => exact admitted.elim
  | returned error => cases moves
  | checkMsgCenter | claimCleanup =>
      simp only [Moves, stopStep] at moves
      split at moves
      · cases moves
        trivial
      · cases moves
        trivial
  | loop fds =>
      cases fds with
      | nil =>
          cases moves
          trivial
      | cons fd rest =>
          simp only [Moves, stopStep] at moves
          split at moves
          · rcases Option.map_eq_some_iff.mp moves with ⟨center, _, moved⟩
            cases moved
            trivial
          · cases moves
            trivial
  | setStopped =>
      cases moves
      rfl
  | _ =>
      cases moves
      trivial

/-- What a thread alone has done when it is at a place. -/
structure Closing (server current : Server) (pc : StopPc) : Prop where
  closed : ∃ closed, server.listenFds = closed ++ pc.leftToClose server.listenFds ∧
    current.sockets.calls = server.sockets.calls ++ closed.map SocketCall.close
  listed : pc.BeforeLoop → current.listenFds = server.listenFds
  present : current.msgCenter.isSome = true
  running : current.status = .running ↔ pc.BeforeSet

/-- The thread closes the next listener, or has closed them all. -/
theorem Closing.moves (nonneg : ∀ fd ∈ server.listenFds, 0 ≤ fd)
    (closing : server.Closing current pc) (moves : Moves (current, pc) (next, nextPc)) :
    server.Closing next nextPc := by
  rcases closing with ⟨closed, listed, present, running⟩
  cases pc with
  | returned error => cases moves
  | check =>
      have isRunning := running.mpr trivial
      simp only [Moves, stopStep, isRunning, ne_eq, not_true_eq_false, if_false] at moves
      cases moves
      exact ⟨closed, listed, present, running⟩
  | setGracefulShutdown =>
      cases moves
      exact ⟨closed, listed, present, running⟩
  | setShuttingDown =>
      cases moves
      exact ⟨closed, listed, present, ⟨fun same => (by cases same), False.elim⟩⟩
  | checkMsgCenter =>
      simp only [Moves, stopStep, Option.isNone_eq_false_iff.mpr present] at moves
      cases moves
      exact ⟨closed, listed, present, running⟩
  | beginLoop =>
      have same := listed trivial
      cases moves
      rw [same]
      exact ⟨closed, False.elim, present, running⟩
  | loop fds =>
      cases fds with
      | nil =>
          cases moves
          exact ⟨closed, False.elim, present, running⟩
      | cons fd rest =>
          rcases closed with ⟨closed, split, calls⟩
          have inFds : fd ∈ server.listenFds := by
            rw [split]
            exact List.mem_append_right closed List.mem_cons_self
          simp only [Moves, stopStep, ge_iff_le, nonneg fd inFds, if_true] at moves
          rcases Option.map_eq_some_iff.mp moves with ⟨center, _, moved⟩
          cases moved
          exact ⟨⟨closed, split, calls⟩, False.elim, rfl, running⟩
  | close fd rest =>
      cases moves
      rcases closed with ⟨closed, split, calls⟩
      refine ⟨⟨closed ++ [fd], ?_, ?_⟩, False.elim, present, running⟩
      · rw [split, List.append_assoc]
        rfl
      · simp only [Sockets.close, calls, List.map_append, List.append_assoc]
        rfl
  | claimCleanup =>
      simp only [Moves, stopStep] at moves
      split at moves
      · cases moves
        exact ⟨closed, False.elim, present, running⟩
      · cases moves
        exact ⟨closed, False.elim, present, running⟩
  | stopMsgCenter =>
      cases moves
      refine ⟨closed, False.elim, ?_, running⟩
      rw [Option.isSome_map]
      exact present
  | setStopped =>
      cases moves
      exact ⟨closed, False.elim, present, ⟨fun same => (by cases same), False.elim⟩⟩
  | clear | waitPending | clearRunning | clearGracefulShutdown =>
      cases moves
      exact ⟨closed, False.elim, present, running⟩

/-- A thread alone does all this. -/
theorem closing_of_path (sane : server.Sane) (running : server.status = .running)
    (path : ReflTransGen Moves (server, .check) (current, pc)) : server.Closing current pc := by
  have begins : server.Closing server .check :=
    ⟨⟨[], rfl, (List.append_nil _).symm⟩, fun _ => rfl,
      Option.isSome_iff_exists.mpr (sane.present running), fun _ => trivial, fun _ => running⟩
  have along : ∀ {after : Server × StopPc}, ReflTransGen Moves (server, .check) after →
      server.Closing after.1 after.2 := by
    intro after path
    induction path with
    | refl => exact begins
    | tail _ moves ih => exact ih.moves sane.owns.nonneg moves
  exact along path

/-- No thread alone closes a listener twice, and one that returns has closed them all. -/
theorem Closing.count (distinct : server.listenFds.Nodup) (closing : server.Closing current pc)
    {fd : ℤ} (member : fd ∈ server.listenFds) :
    current.sockets.calls.count (.close fd) ≤ server.sockets.calls.count (.close fd) + 1 ∧
      (pc.leftToClose server.listenFds = [] →
        current.sockets.calls.count (.close fd) =
          server.sockets.calls.count (.close fd) + 1) := by
  rcases closing.closed with ⟨closed, split, calls⟩
  have injective : Function.Injective SocketCall.close := fun _ _ same => SocketCall.close.inj same
  have counted : current.sockets.calls.count (.close fd) =
      server.sockets.calls.count (.close fd) + closed.count fd := by
    rw [calls, List.count_append, List.count_map_of_injective closed _ injective]
  rw [counted]
  constructor
  · have once := List.nodup_iff_count_le_one.mp distinct fd
    rw [split, List.count_append] at once
    omega
  · intro nothing
    rw [nothing, List.append_nil] at split
    rw [← split, List.count_eq_one_of_mem distinct member]

end Server

/-! ## One thread shuts the server down -/

namespace StopThreads

open Relation (ReflTransGen)
open Server (Moves)

variable {Thread : Type u} {server : Server} {threads next : StopThreads Thread} {thread : Thread}

/-- At most one call succeeds, no listener is closed twice, and where all calls have returned each
listener has been closed. -/
structure ShutDownOnce (server : Server) (threads : StopThreads Thread) : Prop where
  succeeds : ∀ {thread other}, threads.pcs thread = .returned .success →
    threads.pcs other = .returned .success → thread = other
  atMostOnce : ∀ fd ∈ server.listenFds,
    threads.server.sockets.calls.count (.close fd) ≤ server.sockets.calls.count (.close fd) + 1
  once : (∀ thread, ∃ error, threads.pcs thread = .returned error) → ∀ fd ∈ server.listenFds,
    threads.server.sockets.calls.count (.close fd) = server.sockets.calls.count (.close fd) + 1

/-- The condition on the schedule: no thread reads that the server runs while another one, which has
read so before it, has yet to set the status. -/
def Uncontended (threads : StopThreads Thread) (thread : Thread) : Prop :=
  threads.pcs thread = .check → threads.server.status = .running →
    ∀ other, ¬(threads.pcs other).Contends

instance [Fintype Thread] (threads : StopThreads Thread) (thread : Thread) :
    Decidable (threads.Uncontended thread) :=
  inferInstanceAs (Decidable (_ → _ → ∀ _, ¬_))

/-- One thread at most is shutting the server down, as if it were alone. -/
inductive Led (server : Server) (threads : StopThreads Thread) : Prop
  | nobody (same : threads.server = server) (called : ∀ thread, threads.pcs thread = .check)
  | leader (thread : Thread) (admitted : (threads.pcs thread).Admitted)
      (path : ReflTransGen Moves (server, .check) (threads.server, threads.pcs thread))
      (others : ∀ {other}, other ≠ thread → ¬(threads.pcs other).Admitted)

/-- The thread that succeeds is the one that was admitted. -/
theorem eq_leader {first : Thread}
    (others : ∀ {other}, other ≠ first → ¬(threads.pcs other).Admitted)
    (succeeded : threads.pcs thread = .returned .success) : thread = first := by
  by_contra different
  apply others different
  rw [succeeded]
  rfl

theorem Led.shutDownOnce [Nonempty Thread] (sane : server.Sane)
    (running : server.status = .running) (led : threads.Led server) :
    threads.ShutDownOnce server := by
  cases led with
  | nobody same called =>
      refine ⟨?_, ?_, ?_⟩
      · intro thread other succeeded
        rw [called thread] at succeeded
        cases succeeded
      · intro fd member
        rw [same]
        exact Nat.le_succ _
      · intro allReturned
        rcases allReturned (Classical.arbitrary Thread) with ⟨error, returned⟩
        rw [called] at returned
        cases returned
  | leader first admitted path others =>
      have closing := Server.closing_of_path sane running path
      refine ⟨?_, ?_, ?_⟩
      · intro thread other succeeded otherSucceeded
        rw [eq_leader others succeeded, eq_leader others otherSucceeded]
      · intro fd member
        exact (closing.count sane.owns.distinct member).1
      · intro allReturned fd member
        apply (closing.count sane.owns.distinct member).2
        rcases allReturned first with ⟨error, returned⟩
        rw [returned]
        rfl

variable [DecidableEq Thread]

theorem step_eq_some (stepped : threads.step thread = some next) :
    Moves (threads.server, threads.pcs thread) (next.server, next.pcs thread) ∧
      ∀ {other}, other ≠ thread → next.pcs other = threads.pcs other := by
  rcases Option.map_eq_some_iff.mp stepped with ⟨⟨server, pc⟩, moves, rfl⟩
  refine ⟨?_, ?_⟩
  · dsimp only
    rw [Function.update_self]
    exact moves
  · intro other different
    exact Function.update_of_ne different _ _

/-- A thread that is not admitted changes nothing, and is admitted only where the server runs. -/
theorem unadmitted_moves {before after : Server} {pc nextPc : StopPc} (outside : ¬pc.Admitted)
    (moves : Moves (before, pc) (after, nextPc)) :
    pc = .check ∧ after = before ∧ (nextPc.Admitted → before.status = .running) := by
  cases pc with
  | check =>
      simp only [Moves, Server.stopStep] at moves
      split at moves
      · cases moves
        exact ⟨rfl, rfl, nofun⟩
      · rename_i running
        cases moves
        exact ⟨rfl, rfl, fun _ => Classical.not_not.mp running⟩
  | returned error => cases moves
  | _ => exact absurd trivial outside

theorem Led.step (sane : server.Sane) (running : server.status = .running)
    (led : threads.Led server) (condition : threads.Uncontended thread)
    (stepped : threads.step thread = some next) : next.Led server := by
  rcases step_eq_some stepped with ⟨moves, frame⟩
  cases led with
  | nobody same called =>
      rw [same, called thread] at moves
      have admits : Moves (server, .check) (server, .setGracefulShutdown) :=
        if_neg fun notRunning => notRunning running
      rw [Moves] at moves admits
      have result := Option.some.inj (moves.symm.trans admits)
      refine .leader thread ?_ ?_ ?_
      · rw [(Prod.mk.inj result).2]
        trivial
      · rw [result]
        exact .single admits
      · intro other different
        rw [frame different, called other]
        exact id
  | leader first admitted path others =>
      by_cases same : thread = first
      · subst same
        refine .leader thread (Server.admitted_of_moves admitted moves) (path.tail moves) ?_
        intro other different
        rw [frame different]
        exact others different
      · rcases unadmitted_moves (others same) moves with ⟨checks, unchanged, enters⟩
        have refused : ¬(next.pcs thread).Admitted := by
          intro entered
          -- the status is still as the first thread has found it
          have contends : (threads.pcs first).Contends := by
            have before := (Server.closing_of_path sane running path).running.mp (enters entered)
            revert before admitted
            cases threads.pcs first <;> simp [StopPc.BeforeSet, StopPc.Admitted, StopPc.Contends]
          exact condition checks (enters entered) first contends
        refine .leader first ?_ ?_ ?_
        · rw [frame (Ne.symm same)]
          exact admitted
        · rw [frame (Ne.symm same), unchanged]
          exact path
        · intro other different
          by_cases moved : other = thread
          · rw [moved]
            exact refused
          · rw [frame moved]
            exact others different

theorem led_along {schedule : List Thread} (sane : server.Sane)
    (running : server.status = .running)
    (along : Interleaving.Along step Uncontended (call server) schedule)
    (raced : (call server).run schedule = some threads) : threads.Led server := by
  have kept : ∀ {threads next : StopThreads Thread} {thread : Thread}, threads.Led server →
      threads.Uncontended thread → threads.step thread = some next → next.Led server :=
    fun led condition stepped => led.step sane running condition stepped
  exact Interleaving.invariant_along kept (.nobody rfl fun _ => rfl) along raced

/-- The call that succeeds leaves the server as one call of `stop` without the others does. -/
theorem server_of_succeeds {calls : List ServerCall} {schedule : List Thread}
    (ran : Server.construct.run calls = some server) (running : server.status = .running)
    (raced : (call server).run schedule = some threads)
    (along : Interleaving.Along step Uncontended (call server) schedule)
    (succeeds : threads.pcs thread = .returned .success) :
    server.stop = (.success, threads.server) := by
  have sane := Server.sane_run ran
  cases led_along sane running along raced with
  | nobody same called =>
      rw [called thread] at succeeds
      cases succeeds
  | leader first admitted path others =>
      rw [← eq_leader others succeeds, succeeds] at path
      exact Server.stop_eq_of_path sane running path

/-- A thread that was admitted stays so, whoever moves. -/
theorem admitted_step (admitted : (threads.pcs thread).Admitted) {mover : Thread}
    (stepped : threads.step mover = some next) : (next.pcs thread).Admitted := by
  rcases step_eq_some stepped with ⟨moves, frame⟩
  by_cases same : thread = mover
  · rw [same] at admitted ⊢
    exact Server.admitted_of_moves admitted moves
  · rw [frame same]
    exact admitted

/-- Where all calls have returned and one at most has succeeded, no two threads have read that the
server runs before the status was set. -/
theorem along_of_shutDownOnce {schedule : List Thread}
    (raced : (call server).run schedule = some threads)
    (allReturned : ∀ thread, ∃ error, threads.pcs thread = .returned error)
    (once : threads.ShutDownOnce server) :
    Interleaving.Along step Uncontended (call server) schedule := by
  by_contra broken
  rcases Interleaving.exists_step_of_not_along raced broken with
    ⟨before, thread, after, middle, next, _, _, contended, stepped, rest⟩
  simp only [Uncontended, Classical.not_imp, not_forall, not_not] at contended
  rcases contended with ⟨checks, running, other, contends⟩
  rcases step_eq_some stepped with ⟨moves, frame⟩
  have different : other ≠ thread := by
    rintro rfl
    rw [checks] at contends
    exact contends
  have entered : (next.pcs thread).Admitted := by
    rw [checks] at moves
    simp only [Moves, Server.stopStep, running, ne_eq, not_true_eq_false, if_false] at moves
    rw [← (Prod.mk.inj (Option.some.inj moves)).2]
    trivial
  have alreadyIn : (next.pcs other).Admitted := by
    rw [frame different]
    revert contends
    cases middle.pcs other <;> simp [StopPc.Contends, StopPc.Admitted]
  have kept : ∀ {threads next : StopThreads Thread} {mover : Thread},
      (threads.pcs thread).Admitted ∧ (threads.pcs other).Admitted →
        threads.step mover = some next →
          (next.pcs thread).Admitted ∧ (next.pcs other).Admitted :=
    fun both moved => ⟨admitted_step both.1 moved, admitted_step both.2 moved⟩
  have stay := Interleaving.invariant_run kept ⟨entered, alreadyIn⟩ rest
  have succeeds : ∀ {thread}, (threads.pcs thread).Admitted →
      threads.pcs thread = .returned .success := by
    intro thread admitted
    rcases allReturned thread with ⟨error, returned⟩
    rw [returned] at admitted ⊢
    rw [admitted]
  exact different (once.succeeds (succeeds stay.2) (succeeds stay.1))

/-- On a running server, whatever was called before, the calls of `stop` shut it down once wherever
no thread reads the status between the check and the store of another one; and where all have
returned, they do so only there. -/
theorem shutDownOnce_iff [Nonempty Thread] {calls : List ServerCall} {schedule : List Thread}
    (ran : Server.construct.run calls = some server) (running : server.status = .running)
    (raced : (call server).run schedule = some threads) :
    (Interleaving.Along step Uncontended (call server) schedule → threads.ShutDownOnce server) ∧
      ((∀ thread, ∃ error, threads.pcs thread = .returned error) →
        (threads.ShutDownOnce server ↔
          Interleaving.Along step Uncontended (call server) schedule)) := by
  have sane := Server.sane_run ran
  have enough : Interleaving.Along step Uncontended (call server) schedule →
      threads.ShutDownOnce server := by
    intro along
    exact (led_along sane running along raced).shutDownOnce sane running
  exact ⟨enough, fun allReturned => ⟨along_of_shutDownOnce raced allReturned, enough⟩⟩

/-- The calls of two threads on a server with one listener. -/
def runningServer : Server :=
  (Server.construct.run [.init (.loaded [Server.localEntry 80]) Server.allSucceed, .start true]).get
    (Server.run_isSome _)

/-- The first thread stops the server before the second one is refused. -/
def oneAfterTheOther : List (Fin 2) := List.replicate 15 0 ++ [1]

theorem shutDownOnce_oneAfterTheOther :
    ∃ threads, (call runningServer).run oneAfterTheOther = some threads ∧
      threads.pcs 0 = .returned .success ∧ threads.pcs 1 = .returned .invalidState ∧
        threads.ShutDownOnce runningServer := by
  have seen : ((call runningServer).run oneAfterTheOther).map
      (fun threads => (threads.pcs 0, threads.pcs 1)) =
        some (.returned .success, .returned .invalidState) := by
    decide +kernel
  rcases Option.map_eq_some_iff.mp seen with ⟨threads, raced, pcs⟩
  simp only [Prod.mk.injEq] at pcs
  refine ⟨threads, raced, pcs.1, pcs.2, ?_⟩
  have running : runningServer.status = .running := by decide +kernel
  apply (shutDownOnce_iff (Option.some_get _).symm running raced).1
  decide +kernel

/-- Both threads read that the server runs. -/
def inTurns : List (Fin 2) := (List.replicate 12 [0, 1]).flatten ++ [0, 0, 0]

theorem shutDownOnce_fails :
    ∃ threads, (call runningServer).run inTurns = some threads ∧
      threads.pcs 0 = .returned .success ∧ threads.pcs 1 = .returned .success ∧
        threads.server.sockets.calls = [.socket 0, .close 0, .close 0] ∧
          ¬threads.ShutDownOnce runningServer := by
  have seen : ((call runningServer).run inTurns).map
      (fun threads => (threads.pcs 0, threads.pcs 1, threads.server.sockets.calls)) =
        some (.returned .success, .returned .success, [.socket 0, .close 0, .close 0]) := by
    decide +kernel
  rcases Option.map_eq_some_iff.mp seen with ⟨threads, raced, fields⟩
  simp only [Prod.mk.injEq] at fields
  rcases fields with ⟨first, second, calls⟩
  refine ⟨threads, raced, first, second, calls, ?_⟩
  intro once
  have same := once.succeeds first second
  cases same

end StopThreads

end HttpsServerSim
