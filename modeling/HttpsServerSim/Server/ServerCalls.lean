import HttpsServerSim.Server.Server

/-!
# The calls of the server

Everything that one call can do to the server (`perform_cases`), and what holds between the
calls (`Sane`): the open sockets are those in `listen_fds_`, each there once, the server has a
message center when it has a configuration, and no vector is read behind its end. So no call
is without a result.
-/

namespace HttpsServerSim

/-! ## Sockets that are opened and closed -/

namespace Sockets

variable {sockets before after : Sockets}

/-- The loop over a vector with `::close`. -/
theorem accounted_closeAll {fds : List ℤ} (accounted : sockets.Accounted)
    (nonneg : ∀ fd ∈ fds, 0 ≤ fd) (distinct : fds.Nodup) (isOpen : ∀ fd ∈ fds, fd ∈ sockets.table) :
    (fds.foldl (fun sockets fd => if fd ≥ 0 then sockets.close fd else sockets)
        sockets).Accounted ∧
      ∀ fd, fd ∈ (fds.foldl (fun sockets fd => if fd ≥ 0 then sockets.close fd else sockets)
        sockets).table ↔ fd ∈ sockets.table ∧ fd ∉ fds := by
  induction fds generalizing sockets with
  | nil => exact ⟨accounted, fun fd => by simp⟩
  | cons first rest ih =>
      rcases List.nodup_cons.mp distinct with ⟨notLater, restDistinct⟩
      have closes : first ≥ 0 := nonneg first List.mem_cons_self
      simp only [List.foldl_cons, if_pos closes]
      have stillOpen : ∀ fd ∈ rest, fd ∈ (sockets.close first).table := by
        intro fd member
        rw [mem_close]
        refine ⟨?_, isOpen fd (List.mem_cons_of_mem first member)⟩
        rintro rfl
        exact notLater member
      rcases ih (accounted.close (isOpen first List.mem_cons_self))
          (fun fd member => nonneg fd (List.mem_cons_of_mem first member)) restDistinct stillOpen
        with ⟨restAccounted, others⟩
      refine ⟨restAccounted, ?_⟩
      intro fd
      rw [others, mem_close, List.mem_cons, not_or]
      constructor
      · rintro ⟨⟨different, wasOpen⟩, notRest⟩
        exact ⟨wasOpen, different, notRest⟩
      · rintro ⟨wasOpen, different, notRest⟩
        exact ⟨⟨different, wasOpen⟩, notRest⟩

/-- A socket more. -/
structure Opens (before : Sockets) (fd : ℤ) (socket : Socket) (after : Sockets) : Prop where
  nonneg : 0 ≤ fd
  fresh : fd ∉ before.table
  here : after.table.lookup fd = some socket
  others : ∀ {other}, other ≠ fd → after.table.lookup other = before.table.lookup other
  accounted : before.Accounted → after.Accounted

theorem mem_of_lookup {fd : ℤ} {socket : Socket} (found : sockets.table.lookup fd = some socket) :
    fd ∈ sockets.table := by
  apply AList.lookup_isSome.mp
  rw [found]
  rfl

theorem mem_congr {fd : ℤ} (same : after.table.lookup fd = before.table.lookup fd) :
    fd ∈ after.table ↔ fd ∈ before.table := by
  rw [← AList.lookup_isSome, ← AList.lookup_isSome, same]

theorem Opens.mem {fd other : ℤ} {socket : Socket} (opens : Opens before fd socket after) :
    other ∈ after.table ↔ other = fd ∨ other ∈ before.table := by
  by_cases same : other = fd
  · subst same
    simp [mem_of_lookup opens.here]
  · simp [mem_congr (opens.others same), same]

/-- A socket that is created, bound and made to listen. -/
theorem opens_listen {fd : ℤ} (nonneg : 0 ≤ fd) (fresh : fd ∉ sockets.table) (address : Bytes)
    (port : UInt16) (backlog : Int32) :
    Opens sockets fd ⟨some (address, port), some backlog⟩
      (((sockets.socket fd).bind fd address port).listen fd backlog) := by
  have created : (sockets.socket fd).table.lookup fd = some ⟨none, none⟩ := AList.lookup_insert _
  refine ⟨nonneg, fresh, ?_, ?_, ?_⟩
  · exact lookup_update (lookup_update created _) _
  · intro other different
    rw [listen, lookup_update_of_ne different, bind, lookup_update_of_ne different]
    exact AList.lookup_insert_ne different
  · intro accounted
    exact (accounted.socket fresh).update _ |>.update _

/-- A socket that has been created is closed after an error. -/
theorem accounted_abandon {created : Sockets} {fd : ℤ} (fresh : fd ∉ sockets.table)
    (accounted : created.Accounted)
    (mem : ∀ other, other ∈ created.table ↔ other = fd ∨ other ∈ sockets.table) :
    (created.close fd).Accounted ∧
      ∀ other, other ∈ (created.close fd).table ↔ other ∈ sockets.table := by
  refine ⟨accounted.close ((mem fd).mpr (Or.inl rfl)), ?_⟩
  intro other
  rw [mem_close, mem]
  constructor
  · rintro ⟨different, rfl | member⟩
    · exact absurd rfl different
    · exact member
  · intro member
    refine ⟨?_, Or.inr member⟩
    rintro rfl
    exact fresh member

end Sockets

/-! ## Who closes what -/

namespace Server

variable {server next : Server}

/-- The open sockets are those in `listen_fds_`. -/
structure Owns (server : Server) : Prop where
  accounted : server.sockets.Accounted
  nonneg : ∀ fd ∈ server.listenFds, 0 ≤ fd
  distinct : server.listenFds.Nodup
  isOpen : ∀ fd, fd ∈ server.sockets.table ↔ fd ∈ server.listenFds

theorem owns_of_closed (accounted : server.sockets.Accounted) (empty : server.listenFds = [])
    (closed : ∀ fd, fd ∉ server.sockets.table) : server.Owns := by
  refine ⟨accounted, ?_, ?_, ?_⟩
  · rw [empty]
    exact nofun
  · rw [empty]
    exact List.nodup_nil
  · intro fd
    rw [empty]
    exact ⟨fun member => absurd member (closed fd), nofun⟩

theorem Owns.closeListenFds (owns : server.Owns) :
    server.closeListenFds.sockets.Accounted ∧ ∀ fd, fd ∉ server.closeListenFds.sockets.table := by
  rcases Sockets.accounted_closeAll owns.accounted owns.nonneg owns.distinct
    (fun fd member => (owns.isOpen fd).mpr member) with ⟨accounted, others⟩
  refine ⟨accounted, ?_⟩
  intro fd member
  rcases (others fd).mp member with ⟨wasOpen, notListed⟩
  exact notListed ((owns.isOpen fd).mp wasOpen)

theorem Owns.rollbackListenSockets (owns : server.Owns) :
    server.rollbackListenSockets.Owns ∧ ∀ fd, fd ∉ server.rollbackListenSockets.sockets.table :=
  ⟨owns_of_closed owns.closeListenFds.1 rfl owns.closeListenFds.2, owns.closeListenFds.2⟩

theorem sockets_cleanupResources (server : Server) :
    server.cleanupResources.sockets = server.sockets ∧
      server.cleanupResources.listenFds = server.listenFds ∧
        server.cleanupResources.listenPorts = server.listenPorts ∧
          server.cleanupResources.listenIps = server.listenIps := by
  unfold cleanupResources
  split
  · exact ⟨rfl, rfl, rfl, rfl⟩
  · exact ⟨rfl, rfl, rfl, rfl⟩

/-- What `cleanup` leaves. -/
theorem cleanup_spec (server : Server) :
    server.cleanup.config = none ∧ server.cleanup.msgCenter = none ∧
      server.cleanup.listenFds = [] ∧ server.cleanup.listenPorts = [] ∧
        server.cleanup.listenIps = [] ∧ server.cleanup.status = .stopped ∧
          server.cleanup.resourcesCleaned = false := by
  rcases server.rollbackListenSockets.sockets_cleanupResources with ⟨_, fds, ports, ips⟩
  exact ⟨rfl, rfl, fds, ports, ips, rfl, rfl⟩

theorem Owns.cleanup (owns : server.Owns) :
    server.cleanup.Owns ∧ ∀ fd, fd ∉ server.cleanup.sockets.table := by
  have same : server.cleanup.sockets = server.rollbackListenSockets.sockets :=
    server.rollbackListenSockets.sockets_cleanupResources.1
  have closed : ∀ fd, fd ∉ server.cleanup.sockets.table := by
    rw [same]
    exact owns.rollbackListenSockets.2
  refine ⟨owns_of_closed ?_ server.cleanup_spec.2.2.1 closed, closed⟩
  rw [same]
  exact owns.rollbackListenSockets.1.accounted

theorem Owns.with_sockets {sockets : Sockets} (owns : server.Owns) (accounted : sockets.Accounted)
    (same : ∀ fd, fd ∈ sockets.table ↔ fd ∈ server.sockets.table) :
    { server with sockets := sockets }.Owns := by
  refine ⟨accounted, owns.nonneg, owns.distinct, ?_⟩
  intro fd
  rw [same]
  exact owns.isOpen fd

/-! ## The listeners of a configuration -/

/-- The descriptor is that of a socket that listens at an address. -/
def ListensAt (sockets : Sockets) (ip : Bytes) (port : UInt16) (fd : ℤ) : Prop :=
  ∃ address backlog, inetPton (cString ip) = some address ∧
    sockets.table.lookup fd = some ⟨some (address, port), some backlog⟩

/-- The entries for which a listener is opened. -/
def enabledListens (listens : List ListenConfig) : List ListenConfig :=
  listens.filter fun listen => listen.enabled

/-- The server with one listener more. -/
def add (server : Server) (listenCfg : ListenConfig) (fd : ℤ) (sockets : Sockets) : Server :=
  { server with
    sockets := sockets
    listenFds := server.listenFds ++ [fd]
    listenPorts := server.listenPorts ++ [listenCfg.port]
    listenIps := server.listenIps ++ [listenCfg.ip] }

/-- The listener of one entry is opened, or an error undoes it and all others. -/
theorem initListenSocket_cases (owns : server.Owns) (listenCfg : ListenConfig)
    (outcome : ListenOutcome) :
    (∃ error sockets, error ≠ .success ∧ { server with sockets := sockets }.Owns ∧
        server.initListenSocket listenCfg outcome =
          (error, { server with sockets := sockets }.rollbackListenSockets)) ∨
      ∃ fd address backlog sockets, inetPton (cString listenCfg.ip) = some address ∧
        server.sockets.Opens fd ⟨some (address, listenCfg.port), some backlog⟩ sockets ∧
          server.initListenSocket listenCfg outcome =
            (.success, server.add listenCfg fd sockets) := by
  unfold initListenSocket
  cases given : outcome.socket with
  | none => exact Or.inl ⟨.socketCreate, server.sockets, nofun, owns, rfl⟩
  | some wanted =>
      have fresh := server.sockets.fresh_not_open wanted
      have created := owns.accounted.socket fresh
      have abandoned : { server with
          sockets := (server.sockets.socket (server.sockets.fresh wanted)).close
            (server.sockets.fresh wanted) }.Owns := by
        rcases Sockets.accounted_abandon fresh created (fun other => Sockets.mem_socket) with
          ⟨accounted, same⟩
        exact owns.with_sockets accounted same
      dsimp only
      split
      · exact Or.inl ⟨.internal, _, nofun, abandoned, rfl⟩
      · split
        · exact Or.inl ⟨.internal, _, nofun, abandoned, rfl⟩
        · cases parsed : inetPton (cString listenCfg.ip) with
          | none => exact Or.inl ⟨.invalidArgument, _, nofun, abandoned, rfl⟩
          | some address =>
              dsimp only
              split
              · exact Or.inl ⟨.socketBind, _, nofun, abandoned, rfl⟩
              · split
                · left
                  have bound : ((server.sockets.socket (server.sockets.fresh wanted)).bind
                      (server.sockets.fresh wanted) address listenCfg.port).Accounted :=
                    created.update _
                  rcases Sockets.accounted_abandon fresh bound
                    (fun other => (Sockets.mem_update _).trans Sockets.mem_socket) with
                    ⟨accounted, same⟩
                  exact ⟨.socketListen, _, nofun, owns.with_sockets accounted same, rfl⟩
                · right
                  exact ⟨_, address, _, _, rfl,
                    Sockets.opens_listen (server.sockets.fresh_nonneg wanted) fresh address
                      listenCfg.port _, rfl⟩

/-- The listeners that a number of entries add. -/
structure Extends (server : Server) (listens : List ListenConfig) (fds : List ℤ)
    (sockets : Sockets) : Prop where
  listening : List.Forall₂ (fun listen fd => ListensAt sockets listen.ip listen.port fd)
    (enabledListens listens) fds
  others : ∀ fd ∈ server.sockets.table, sockets.table.lookup fd = server.sockets.table.lookup fd

/-- The server with more listeners. -/
def extend (server : Server) (listens : List ListenConfig) (fds : List ℤ) (sockets : Sockets) :
    Server :=
  { server with
    sockets := sockets
    listenFds := server.listenFds ++ fds
    listenPorts := server.listenPorts ++ (enabledListens listens).map fun listen => listen.port
    listenIps := server.listenIps ++ (enabledListens listens).map fun listen => listen.ip }

theorem owns_of_opens {fd : ℤ} {socket : Socket} {sockets : Sockets} (owns : server.Owns)
    (opens : server.sockets.Opens fd socket sockets) (same : next.sockets = sockets)
    (fds : next.listenFds = server.listenFds ++ [fd]) : next.Owns := by
  have notListed : fd ∉ server.listenFds := by
    rw [← owns.isOpen]
    exact opens.fresh
  refine ⟨?_, ?_, ?_, ?_⟩
  · rw [same]
    exact opens.accounted owns.accounted
  · rw [fds]
    intro other member
    rcases List.mem_append.mp member with old | new
    · exact owns.nonneg other old
    · rw [List.mem_singleton.mp new]
      exact opens.nonneg
  · rw [fds, List.nodup_append]
    refine ⟨owns.distinct, List.nodup_singleton fd, ?_⟩
    intro other old new isNew equal
    rw [equal, List.mem_singleton.mp isNew] at old
    exact notListed old
  · intro other
    rw [same, fds, opens.mem, owns.isOpen]
    simp [or_comm]

/-- `init_listen_sockets` opens the listeners of all enabled entries, or ends with an error and no
listener at all. -/
theorem initListenSockets_cases (owns : server.Owns) (outcomes : ℕ → ListenOutcome)
    (listens : List ListenConfig) :
    (∃ (error : ServerError) (after : Server), error ≠ .success ∧ after.Owns ∧
        server.initListenSockets outcomes listens =
          (error, { server with
            sockets := after.sockets
            listenFds := after.listenFds
            listenPorts := after.listenPorts
            listenIps := after.listenIps })) ∨
      ∃ fds sockets, server.Extends listens fds sockets ∧ (server.extend listens fds sockets).Owns ∧
        server.initListenSockets outcomes listens =
          (.success, server.extend listens fds sockets) := by
  induction listens generalizing server outcomes with
  | nil =>
      right
      have same : server.extend [] [] server.sockets = server := by simp [extend, enabledListens]
      refine ⟨[], server.sockets, ⟨.nil, fun fd _ => rfl⟩, ?_, ?_⟩
      · rw [same]
        exact owns
      · rw [same]
        rfl
  | cons listenCfg rest ih =>
      unfold initListenSockets
      cases enabled : listenCfg.enabled with
      | false =>
          have skipped : enabledListens (listenCfg :: rest) = enabledListens rest := by
            simp [enabledListens, enabled]
          simp only [Bool.not_false, if_true]
          rcases ih owns (fun n => outcomes (n + 1)) with
            ⟨error, after, failed, afterOwns, run⟩ | ⟨fds, sockets, extension, afterOwns, run⟩
          · exact Or.inl ⟨error, after, failed, afterOwns, run⟩
          · right
            refine ⟨fds, sockets, ⟨?_, extension.others⟩, ?_, ?_⟩
            · rw [skipped]
              exact extension.listening
            · unfold extend
              rw [skipped]
              exact afterOwns
            · unfold extend
              rw [skipped]
              exact run
      | true =>
          have taken : enabledListens (listenCfg :: rest) = listenCfg :: enabledListens rest := by
            simp [enabledListens, enabled]
          simp only [Bool.not_true, Bool.false_eq_true, if_false]
          rcases initListenSocket_cases owns listenCfg (outcomes 0) with
            ⟨error, sockets, failed, opened, result⟩ |
              ⟨fd, address, backlog, sockets, parsed, opens, result⟩
          · left
            rw [result]
            refine ⟨error, _, failed, opened.rollbackListenSockets.1, ?_⟩
            cases error with
            | success => exact absurd rfl failed
            | _ => rfl
          · rw [result]
            dsimp only
            have opened : (server.add listenCfg fd sockets).Owns :=
              owns_of_opens owns opens rfl rfl
            rcases ih opened (fun n => outcomes (n + 1)) with
              ⟨error, after, failed, afterOwns, run⟩ | ⟨fds, later, extension, afterOwns, run⟩
            · left
              exact ⟨error, after, failed, afterOwns, run⟩
            · right
              have stays : later.table.lookup fd = sockets.table.lookup fd :=
                extension.others fd (Sockets.mem_of_lookup opens.here)
              have together : server.extend (listenCfg :: rest) (fd :: fds) later =
                  (server.add listenCfg fd sockets).extend rest fds later := by
                simp [extend, add, taken]
              refine ⟨fd :: fds, later, ⟨?_, ?_⟩, ?_, ?_⟩
              · rw [taken]
                refine .cons ⟨address, backlog, parsed, ?_⟩ extension.listening
                rw [stays]
                exact opens.here
              · intro other member
                have different : other ≠ fd := by
                  rintro rfl
                  exact opens.fresh member
                rw [← opens.others different]
                exact extension.others other (opens.mem.mpr (Or.inr member))
              · rw [together]
                exact afterOwns
              · rw [together]
                exact run

end Server

/-! ## The registration of the listeners -/

namespace IoThread

/-- The thread listens on the descriptor, and takes it to be of the port. -/
def Knows (thread : IoThread) (fd : ℤ) (port : UInt16) : Prop :=
  thread.listenFdToPort.lookup fd = some port ∧ fd ∈ thread.listenFds

theorem knows_addListenFd (thread : IoThread) (fd : ℤ) (port : UInt16) :
    (thread.addListenFd fd port).Knows fd port := by
  refine ⟨AList.lookup_insert _, ?_⟩
  simp only [addListenFd]
  split
  · assumption
  · simp

theorem Knows.addListenFd {thread : IoThread} {fd other : ℤ} {port otherPort : UInt16}
    (knows : thread.Knows fd port) (different : fd ≠ other) :
    (thread.addListenFd other otherPort).Knows fd port := by
  refine ⟨(AList.lookup_insert_ne different).trans knows.1, ?_⟩
  simp only [IoThread.addListenFd]
  split
  · exact knows.2
  · exact List.mem_append_left _ knows.2

/-- The listeners are added one after the other. -/
def addListenFds (thread : IoThread) (pairs : List (ℤ × UInt16)) : IoThread :=
  pairs.foldl (fun thread pair => thread.addListenFd pair.1 pair.2) thread

theorem Knows.addListenFds {thread : IoThread} {fd : ℤ} {port : UInt16}
    {pairs : List (ℤ × UInt16)} (knows : thread.Knows fd port)
    (different : ∀ pair ∈ pairs, fd ≠ pair.1) : (thread.addListenFds pairs).Knows fd port := by
  induction pairs generalizing thread with
  | nil => exact knows
  | cons pair rest ih =>
      apply ih (knows.addListenFd (different pair List.mem_cons_self))
      intro later member
      exact different later (List.mem_cons_of_mem pair member)

theorem knows_addListenFds {pairs : List (ℤ × UInt16)} (thread : IoThread)
    (distinct : (pairs.map Prod.fst).Nodup) :
    ∀ pair ∈ pairs, (thread.addListenFds pairs).Knows pair.1 pair.2 := by
  induction pairs generalizing thread with
  | nil => exact nofun
  | cons first rest ih =>
      rcases List.nodup_cons.mp distinct with ⟨notLater, restDistinct⟩
      intro pair member
      rcases List.mem_cons.mp member with rfl | later
      · apply (thread.knows_addListenFd pair.1 pair.2).addListenFds
        rintro other inRest equal
        exact notLater (equal ▸ List.mem_map_of_mem inRest)
      · exact ih (thread.addListenFd first.1 first.2) restDistinct pair later

end IoThread

namespace Server

variable {server next : Server} {call : ServerCall} {error : ServerError}

/-- The loop of `start` registers all listeners. -/
theorem register_spec {center : ListenCenter} {registeredFds fds : List ℤ} {ports : List UInt16}
    (nonneg : ∀ fd ∈ fds, 0 ≤ fd) (long : fds.length ≤ ports.length) :
    ∃ after, register center registeredFds fds ports = some (.success, after) ∧
      after.running = center.running ∧
        (∀ fd, fd ∈ after.listenFds ↔ fd ∈ center.listenFds ∨ fd ∈ fds) ∧
          after.ioThreads =
            center.ioThreads.map fun thread => thread.addListenFds (fds.zip ports) := by
  induction fds generalizing center registeredFds ports with
  | nil => exact ⟨center, rfl, rfl, by simp, by simp [IoThread.addListenFds]⟩
  | cons fd rest ih =>
      cases ports with
      | nil => simp at long
      | cons port ports =>
          have good : ¬fd < 0 := Int.not_lt.mpr (nonneg fd List.mem_cons_self)
          simp only [List.length_cons, Nat.add_le_add_iff_right] at long
          have restNonneg : ∀ other ∈ rest, 0 ≤ other := fun other member =>
            nonneg other (List.mem_cons_of_mem fd member)
          simp only [register, ListenCenter.addListenFd, if_neg good]
          rcases ih restNonneg long with ⟨after, registered, running, listed, threads⟩
          refine ⟨after, registered, running, ?_, ?_⟩
          · intro other
            rw [listed, List.mem_cons]
            split
            · rename_i already
              constructor
              · rintro (old | new)
                · exact Or.inl old
                · exact Or.inr (Or.inr new)
              · rintro (old | rfl | new)
                · exact Or.inl old
                · exact Or.inl already
                · exact Or.inr new
            · rw [List.mem_append, List.mem_singleton, or_assoc]
          · rw [threads, List.map_map]
            rfl

/-! ## What a call does -/

/-- What holds between the calls. -/
structure Sane (server : Server) : Prop where
  owns : server.Owns
  center : server.config.isSome = server.msgCenter.isSome
  status : server.status = .stopped ∨ server.status = .running
  started : server.status = .running → server.config.isSome
  ports : server.listenFds.length ≤ server.listenPorts.length

/-- A running server has a message center. -/
theorem Sane.present (sane : server.Sane) (running : server.status = .running) :
    ∃ center, server.msgCenter = some center := by
  apply Option.isSome_iff_exists.mp
  rw [← sane.center]
  exact sane.started running

theorem stop_of_running (running : server.status = .running) :
    server.stop = (.success, server.gracefulShutdownSteps) :=
  if_neg fun notRunning => notRunning running

inductive Performs (server : Server) : ServerCall → ServerError → Server → Prop
  | refused {call : ServerCall} (cause : call = .stop → server.status ≠ .running)
      (notCleanup : call ≠ .cleanup) :
      Performs server call .invalidState server
  | initFails {load : ConfigLoad} {outcomes : ℕ → ListenOutcome} {error : ServerError}
      {before : Server} (stopped : server.status = .stopped) (failed : error ≠ .success)
      (owns : before.Owns) (running : before.running = server.running)
      (graceful : before.gracefulShutdown = server.gracefulShutdown) :
      Performs server (.init load outcomes) error before.cleanup
  | initSucceeds {listens : List ListenConfig} {outcomes : ℕ → ListenOutcome} {fds : List ℤ}
      {sockets : Sockets} (stopped : server.status = .stopped)
      (extension : server.Extends listens fds sockets)
      (owns : (server.extend listens fds sockets).Owns) :
      Performs server (.init (.loaded listens) outcomes) .success
        { server.extend listens fds sockets with
          config := some listens
          msgCenter := some .construct
          status := .stopped }
  | startFails {gotThreads : Bool} {center : ListenCenter} (stopped : server.status = .stopped) :
      Performs server (.start gotThreads) .msgCenterStart
        { server with msgCenter := some center, status := .error, running := false }.cleanup
  | startSucceeds {gotThreads : Bool} {after : ListenCenter} (stopped : server.status = .stopped)
      (configured : server.config.isSome = true) (running : after.running = true)
      (listed : ∀ fd ∈ server.listenFds, fd ∈ after.listenFds)
      (known : ∀ thread ∈ after.ioThreads, ∀ pair ∈ server.listenFds.zip server.listenPorts,
        thread.Knows pair.1 pair.2) :
      Performs server (.start gotThreads) .success
        { server with msgCenter := some after, status := .running, running := true }
  | stops (running : server.status = .running) :
      Performs server .stop .success server.gracefulShutdownSteps
  | cleansUp : Performs server .cleanup .success server.cleanup

theorem owns_congr (owns : server.Owns) (sockets : next.sockets = server.sockets)
    (fds : next.listenFds = server.listenFds) : next.Owns := by
  refine ⟨?_, ?_, ?_, ?_⟩
  · rw [sockets]
    exact owns.accounted
  · rw [fds]
    exact owns.nonneg
  · rw [fds]
    exact owns.distinct
  · rw [sockets, fds]
    exact owns.isOpen

theorem performs_init (owns : server.Owns) (load : ConfigLoad) (outcomes : ℕ → ListenOutcome) :
    Performs server (.init load outcomes) (server.init load outcomes).1
      (server.init load outcomes).2 := by
  unfold init
  split
  · exact .refused nofun nofun
  · rename_i notStopped
    have stopped : server.status = .stopped := Classical.not_not.mp notStopped
    cases load with
    | throws => exact .initFails stopped nofun (owns_congr owns rfl rfl) rfl rfl
    | fails => exact .initFails stopped nofun (owns_congr owns rfl rfl) rfl rfl
    | loaded listens =>
        dsimp only
        split
        · exact .initFails stopped nofun (owns_congr owns rfl rfl) rfl rfl
        · have begun : { server with status := .initializing, config := some listens }.Owns :=
            owns_congr owns rfl rfl
          rcases initListenSockets_cases begun outcomes listens with
            ⟨error, after, failed, afterOwns, result⟩ | ⟨fds, sockets, extension, afterOwns, result⟩
          · rw [result]
            cases error with
            | success => exact absurd rfl failed
            | _ => exact .initFails stopped nofun (owns_congr afterOwns rfl rfl) rfl rfl
          · rw [result]
            exact .initSucceeds stopped ⟨extension.listening, extension.others⟩
              (owns_congr afterOwns rfl rfl)

/-- A call has a result, and one of these. -/
theorem perform_cases (sane : server.Sane) (call : ServerCall) :
    ∃ error next, server.perform call = some (error, next) ∧ server.Performs call error next := by
  cases call with
  | init load outcomes => exact ⟨_, _, rfl, performs_init sane.owns load outcomes⟩
  | cleanup => exact ⟨_, _, rfl, .cleansUp⟩
  | stop =>
      refine ⟨server.stop.1, server.stop.2, rfl, ?_⟩
      unfold stop
      split
      · rename_i notRunning
        exact .refused (fun _ => notRunning) nofun
      · rename_i running
        exact .stops (Classical.not_not.mp running)
  | start gotThreads =>
      simp only [perform, start]
      split
      · exact ⟨_, _, rfl, .refused nofun nofun⟩
      · rename_i notRefused
        rcases not_or.mp notRefused with ⟨notNone, notStopped⟩
        have stopped : server.status = .stopped := Classical.not_not.mp notStopped
        have configured : server.config.isSome = true :=
          Option.isSome_iff_ne_none.mpr fun none => notNone (Option.isNone_iff_eq_none.mpr none)
        have present := sane.center
        rw [configured] at present
        rcases Option.isSome_iff_exists.mp present.symm with ⟨center, found⟩
        simp only [found]
        by_cases running : center.running = true
        · have failed : center.start gotThreads = (.alreadyRunning, center) := if_pos running
          simp only [failed]
          exact ⟨_, _, rfl, .startFails stopped⟩
        · cases gotThreads with
          | false =>
              have failed : center.start false = (.threadCreateFailed, center) := if_neg running
              simp only [failed]
              exact ⟨_, _, rfl, .startFails stopped⟩
          | true =>
              have begun : center.start true =
                  (.success,
                    { center with
                      running := true
                      ioThreads :=
                        center.ioThreads ++
                          List.replicate center.ioThreadCount IoThread.construct }) :=
                if_neg running
              rcases @register_spec (center.start true).2 [] server.listenFds server.listenPorts
                sane.owns.nonneg sane.ports with ⟨after, registered, isRunning, listed, threads⟩
              rw [begun] at registered isRunning
              simp only [begun, registered]
              refine ⟨_, _, rfl, .startSucceeds stopped configured isRunning ?_ ?_⟩
              · intro fd member
                exact (listed fd).mpr (Or.inr member)
              · intro thread member
                rw [threads] at member
                rcases List.mem_map.mp member with ⟨bare, _, rfl⟩
                apply IoThread.knows_addListenFds
                rw [List.map_fst_zip sane.ports]
                exact sane.owns.distinct

/-- A step is one of these. -/
theorem performs_of_step (sane : server.Sane) (stepped : server.step call = some next) :
    ∃ error, server.Performs call error next := by
  rcases perform_cases sane call with ⟨error, after, performed, performs⟩
  rw [step, performed, Option.map_some] at stepped
  cases stepped
  exact ⟨error, performs⟩

theorem step_stop (running : server.status = .running) :
    server.step .stop = some server.gracefulShutdownSteps := by
  rw [step, perform, stop_of_running running, Option.map_some]

/-! ## Between the calls -/

theorem sane_construct : construct.Sane := by
  refine ⟨owns_of_closed Sockets.accounted_initial rfl AList.notMem_empty, rfl, Or.inl rfl, nofun,
    Nat.le_refl 0⟩

theorem Owns.sane_cleanup (owns : server.Owns) : server.cleanup.Sane := by
  rcases server.cleanup_spec with ⟨config, center, fds, ports, _, status, _⟩
  refine ⟨owns.cleanup.1, ?_, Or.inl status, ?_, ?_⟩
  · rw [config, center]
    rfl
  · intro running
    rw [status] at running
    cases running
  · rw [fds]
    exact Nat.zero_le _

/-- What `stop` leaves, its flags and the message center's apart. -/
theorem gracefulShutdown_spec (sane : server.Sane) (running : server.status = .running) :
    server.gracefulShutdownSteps.config = server.config ∧
      server.gracefulShutdownSteps.msgCenter.isSome = true ∧
        server.gracefulShutdownSteps.listenFds = [] ∧
          server.gracefulShutdownSteps.listenPorts = server.listenPorts ∧
            server.gracefulShutdownSteps.listenIps = server.listenIps ∧
              server.gracefulShutdownSteps.sockets = server.closeListenFds.sockets := by
  rcases sane.present running with ⟨center, found⟩
  unfold gracefulShutdownSteps stopAccepting cleanupResources
  simp only [found]
  split
  · exact ⟨rfl, rfl, rfl, rfl, rfl, rfl⟩
  · exact ⟨rfl, rfl, rfl, rfl, rfl, rfl⟩

theorem Sane.performs (sane : server.Sane) (performs : server.Performs call error next) :
    next.Sane := by
  cases performs with
  | refused => exact sane
  | initFails stopped failed owns running graceful => exact owns.sane_cleanup
  | @initSucceeds listens outcomes fds sockets stopped extension owns =>
      refine ⟨owns_congr owns rfl rfl, rfl, Or.inl rfl, nofun, ?_⟩
      have added := extension.listening.length_eq
      have before := sane.ports
      simp only [extend, List.length_append, List.length_map]
      omega
  | startFails stopped => exact Owns.sane_cleanup (owns_congr sane.owns rfl rfl)
  | startSucceeds stopped configured running listed known =>
      exact ⟨owns_congr sane.owns rfl rfl, configured, Or.inr rfl, fun _ => configured, sane.ports⟩
  | stops running =>
      rcases gracefulShutdown_spec sane running with ⟨config, center, fds, ports, _, sockets⟩
      have closed := sane.owns.closeListenFds
      rw [← sockets] at closed
      refine ⟨owns_of_closed closed.1 fds closed.2, ?_, Or.inl rfl, nofun, ?_⟩
      · rw [config, center]
        exact sane.started running
      · rw [fds]
        exact Nat.zero_le _
  | cleansUp => exact sane.owns.sane_cleanup

theorem Sane.step (sane : server.Sane) (stepped : server.step call = some next) : next.Sane := by
  rcases performs_of_step sane stepped with ⟨error, performs⟩
  exact sane.performs performs

theorem sane_run {calls : List ServerCall} (ran : construct.run calls = some server) :
    server.Sane :=
  Interleaving.invariant_run Sane.step sane_construct ran

/-- No call follows a null pointer or reads a vector behind its end. -/
theorem run_isSome (calls : List ServerCall) : (construct.run calls).isSome = true := by
  have total : ∀ {server : Server}, server.Sane → (server.run calls).isSome = true := by
    induction calls with
    | nil => exact fun _ => rfl
    | cons call rest ih =>
        intro server sane
        rcases perform_cases sane call with ⟨error, next, performed, performs⟩
        simp only [run, Interleaving.run, step, performed, Option.map_some, Option.bind_some]
        exact ih (sane.performs performs)
  exact total sane_construct

end Server

end HttpsServerSim
