import HttpsServerSim.Server.ServerCalls
import Mathlib.Data.List.TakeWhile

/-!
# The listeners of the server

No listening socket is leaked or closed twice, whatever is called and whatever fails. But
`stop` closes the listeners and keeps the configuration, with which `start` can be called
again, and it leaves their ports and addresses in the tables; and a second `init` adds the
listeners of its configuration to those that are there. So a server that has been started
need not listen as its configuration says, and the three tables come apart with the first
`stop`.
-/

namespace HttpsServerSim

namespace Server

variable {server next : Server} {call : ServerCall} {error : ServerError}

/-! ## What is closed -/

/-- Every descriptor that was given out has been closed once, before it was given out again, and
nothing else has been closed. -/
def EachClosedOnce (calls : List SocketCall) : Prop :=
  Sockets.Alternating calls ∧ ∀ fd, calls.count (.socket fd) = calls.count (.close fd)

/-- From construction to destruction, whatever is called and whatever fails, each descriptor that
`socket` gave is closed exactly once. -/
theorem eachClosedOnce {calls : List ServerCall} (ran : construct.run calls = some server) :
    EachClosedOnce server.cleanup.sockets.calls := by
  rcases (sane_run ran).owns.cleanup with ⟨owns, closed⟩
  refine ⟨owns.accounted.alternating, ?_⟩
  intro fd
  have outstanding := owns.accounted.outstanding fd
  rw [if_neg (closed fd)] at outstanding
  exact outstanding

/-- A second `init` fails to bind its second entry. -/
def initsTwice : List ServerCall :=
  [.init (.loaded [localEntry 80]) allSucceed,
    .init (.loaded [localEntry 81, localEntry 82])
      (fun n => { allSucceed n with bind := decide (n = 0) })]

theorem eachClosedOnce_initsTwice :
    ∃ server, construct.run initsTwice = some server ∧
      server.sockets.calls = [.socket 0, .socket 1, .socket 2, .close 2, .close 0, .close 1] ∧
        EachClosedOnce server.cleanup.sockets.calls := by
  have seen : (construct.run initsTwice).map (fun server => server.sockets.calls) =
      some [.socket 0, .socket 1, .socket 2, .close 2, .close 0, .close 1] := by
    decide +kernel
  rcases Option.map_eq_some_iff.mp seen with ⟨server, ran, calls⟩
  exact ⟨server, ran, calls, eachClosedOnce ran⟩

/-! ## Who listens after `start` -/

/-- All IO threads listen on the descriptor. -/
def Registered (center : ListenCenter) (fd : ℤ) : Prop :=
  fd ∈ center.listenFds ∧ ∀ thread ∈ center.ioThreads, fd ∈ thread.listenFds

/-- The server holds one registered listener for each enabled entry of its configuration, and no
other. -/
def ReallyListens (server : Server) : Prop :=
  ∃ config center fds, server.config = some config ∧ server.msgCenter = some center ∧
    fds.Perm server.listenFds ∧ fds.Nodup ∧
      List.Forall₂ (fun listen fd => ListensAt server.sockets listen.ip listen.port fd)
        (enabledListens config) fds ∧
        ∀ fd ∈ fds, Registered center fd

/-- The server has as many listeners as its configuration has enabled entries. -/
def ListensAsConfigured (server : Server) : Prop :=
  ∃ config, server.config = some config ∧
    server.listenFds.length = (enabledListens config).length

/-- The last listeners are those of the configuration, unless `stop` has closed all. -/
def LastConfigured (server : Server) : Prop :=
  server.listenFds = [] ∨ ∀ config, server.config = some config →
    ∃ earlier fds, server.listenFds = earlier ++ fds ∧
      List.Forall₂ (fun listen fd => ListensAt server.sockets listen.ip listen.port fd)
        (enabledListens config) fds

theorem LastConfigured.performs (sane : server.Sane) (last : server.LastConfigured)
    (performs : server.Performs call error next) : next.LastConfigured := by
  cases performs with
  | refused => exact last
  | initFails stopped failed owns running graceful => exact Or.inl (cleanup_spec _).2.2.1
  | @initSucceeds listens outcomes fds sockets stopped extension owns =>
      right
      intro config found
      cases found
      exact ⟨server.listenFds, fds, rfl, extension.listening⟩
  | startFails stopped => exact Or.inl (cleanup_spec _).2.2.1
  | startSucceeds stopped configured running listed known => exact last
  | stops running => exact Or.inl (gracefulShutdown_spec sane running).2.2.1
  | cleansUp => exact Or.inl (cleanup_spec _).2.2.1

theorem sane_lastConfigured_step (holds : server.Sane ∧ server.LastConfigured)
    (stepped : server.step call = some next) : next.Sane ∧ next.LastConfigured := by
  rcases holds with ⟨sane, last⟩
  rcases performs_of_step sane stepped with ⟨error, performs⟩
  exact ⟨sane.performs performs, last.performs sane performs⟩

/-- Where the numbers agree, every listener is one of the configuration. -/
theorem listens_of_lastConfigured {config : List ListenConfig} (last : server.LastConfigured)
    (found : server.config = some config)
    (as : server.listenFds.length = (enabledListens config).length) :
    List.Forall₂ (fun listen fd => ListensAt server.sockets listen.ip listen.port fd)
      (enabledListens config) server.listenFds := by
  rcases last with none | configured
  · rw [none] at as ⊢
    rw [List.eq_nil_of_length_eq_zero as.symm]
    exact .nil
  · rcases configured config found with ⟨earlier, fds, split, listening⟩
    have same := listening.length_eq
    rw [split, List.length_append] at as
    have nothing : earlier = [] := List.eq_nil_of_length_eq_zero (by omega)
    rw [split, nothing]
    exact listening

/-- After any calls, a `start` that succeeds leaves one registered listener for each enabled entry
if and only if there were as many listeners as enabled entries when it was called. -/
theorem reallyListens_iff {calls : List ServerCall} {gotThreads : Bool}
    (ran : construct.run calls = some server)
    (started : server.perform (.start gotThreads) = some (.success, next)) :
    next.ReallyListens ↔ server.ListensAsConfigured := by
  have initially : construct.Sane ∧ construct.LastConfigured :=
    ⟨sane_construct, Or.inl rfl⟩
  rcases Interleaving.invariant_run sane_lastConfigured_step initially ran with ⟨sane, last⟩
  rcases perform_cases sane (.start gotThreads) with ⟨error, after, performed, performs⟩
  rw [performed] at started
  cases started
  cases performs with
  | @startSucceeds _ center stopped configured running listed known =>
      constructor
      · rintro ⟨config, _, fds, found, _, perm, _, listening, _⟩
        refine ⟨config, found, ?_⟩
        rw [← perm.length_eq]
        exact listening.length_eq.symm
      · rintro ⟨config, found, as⟩
        have listening := listens_of_lastConfigured last found as
        refine ⟨config, center, server.listenFds, found, rfl, .refl _, sane.owns.distinct,
          listening, ?_⟩
        intro fd member
        refine ⟨listed fd member, ?_⟩
        intro thread inThreads
        have listedFd : fd ∈ (server.listenFds.zip server.listenPorts).map Prod.fst := by
          rw [List.map_fst_zip sane.ports]
          exact member
        rcases List.mem_map.mp listedFd with ⟨pair, inPairs, rfl⟩
        exact (known thread inThreads pair inPairs).2

/-- A server with one listener. -/
def initsOnce : List ServerCall := [.init (.loaded [localEntry 80]) allSucceed]

theorem reallyListens_initsOnce :
    ∃ server next, construct.run initsOnce = some server ∧
      server.perform (.start true) = some (.success, next) ∧ next.ReallyListens := by
  have seen : ((construct.run initsOnce).bind fun server => server.perform (.start true)).map
      (fun result => result.1) = some .success := by
    decide +kernel
  have before : (construct.run initsOnce).map
      (fun server => (server.config, server.listenFds)) = some (some [localEntry 80], [0]) := by
    decide +kernel
  rcases Option.map_eq_some_iff.mp before with ⟨server, ran, fields⟩
  simp only [ran, Option.bind_some] at seen
  rcases Option.map_eq_some_iff.mp seen with ⟨⟨error, next⟩, started, rfl⟩
  simp only [Prod.mk.injEq] at fields
  refine ⟨server, next, ran, started, (reallyListens_iff ran started).mpr ?_⟩
  refine ⟨[localEntry 80], fields.1, ?_⟩
  rw [fields.2]
  rfl

/-- The server is stopped and can be started again. -/
def initsStartsAndStops : List ServerCall :=
  [.init (.loaded [localEntry 80]) allSucceed, .start true, .stop]

theorem reallyListens_fails :
    ∃ server next, construct.run initsStartsAndStops = some server ∧
      server.perform (.start true) = some (.success, next) ∧ ¬next.ReallyListens := by
  have seen : ((construct.run initsStartsAndStops).bind fun server =>
      server.perform (.start true)).map
        (fun result => (result.1, result.2.config, result.2.listenFds)) =
          some (.success, some [localEntry 80], []) := by
    decide +kernel
  rcases Option.map_eq_some_iff.mp seen with ⟨⟨error, next⟩, both, fields⟩
  rcases Option.bind_eq_some_iff.mp both with ⟨server, ran, started⟩
  simp only [Prod.mk.injEq] at fields
  rcases fields with ⟨rfl, config, none⟩
  refine ⟨server, next, ran, started, ?_⟩
  rintro ⟨listens, center, fds, found, _, perm, _, listening, _⟩
  rw [config] at found
  cases found
  rw [none] at perm
  have lengths := listening.length_eq
  rw [perm.length_eq] at lengths
  cases lengths

/-! ## The three tables -/

/-- Each descriptor is that of a listener at the address in its row. -/
def RowsBound (server : Server) : Prop :=
  ∀ (i : ℕ) {fd port ip}, server.listenFds[i]? = some fd → server.listenPorts[i]? = some port →
    server.listenIps[i]? = some ip → ListensAt server.sockets ip port fd

/-- The tables have the same length, each descriptor is that of a listener at the address in its
row, a running message center has it with its own port, and `get_status` reports the address of
a listener, or none where there is none. -/
structure TablesAligned (server : Server) : Prop where
  ports : server.listenPorts.length = server.listenFds.length
  ips : server.listenIps.length = server.listenFds.length
  bound : server.RowsBound
  registered : server.status = .running → ∀ center, server.msgCenter = some center →
    ∀ thread ∈ center.ioThreads, ∀ fd ∈ server.listenFds, ∀ {ip port},
      ListensAt server.sockets ip port fd → thread.listenFdToPort.lookup fd = some port
  reported :
    (server.listenFds = [] ∧ server.getStatus.listenPort = 0 ∧ server.getStatus.listenIp = []) ∨
      ∃ fd ∈ server.listenFds,
        ListensAt server.sockets server.getStatus.listenIp server.getStatus.listenPort fd

/-- The condition on the calls: `stop` is called when there are no ports in the table. -/
def KeepsTables (server : Server) (call : ServerCall) : Prop :=
  call = .stop → server.status = .running → server.listenPorts = []

/-- `get_status` cuts no address off. -/
theorem listensAt_reported {sockets : Sockets} {ip : Bytes} {port : UInt16} {fd : ℤ}
    (listens : ListensAt sockets ip port fd) :
    ListensAt sockets ((cString ip).take 63) port fd := by
  rcases listens with ⟨address, backlog, parsed, found⟩
  have short := length_le_of_inetPton parsed
  have whole : (cString ip).take 63 = cString ip := List.take_of_length_le (by omega)
  have again : cString (cString ip) = cString ip := List.takeWhile_idem
  refine ⟨address, backlog, ?_, found⟩
  rw [whole, again]
  exact parsed

/-- A descriptor listens at one port. -/
theorem ListensAt.port_unique {sockets : Sockets} {ip otherIp : Bytes} {port otherPort : UInt16}
    {fd : ℤ} (listens : ListensAt sockets ip port fd)
    (other : ListensAt sockets otherIp otherPort fd) : port = otherPort := by
  rcases listens with ⟨address, backlog, _, found⟩
  rcases other with ⟨otherAddress, otherBacklog, _, otherFound⟩
  rw [found] at otherFound
  simp only [Option.some.injEq, Socket.mk.injEq, Prod.mk.injEq] at otherFound
  exact otherFound.1.2

theorem reported_of_bound (ports : server.listenPorts.length = server.listenFds.length)
    (ips : server.listenIps.length = server.listenFds.length)
    (bound : server.RowsBound) :
    (server.listenFds = [] ∧ server.getStatus.listenPort = 0 ∧ server.getStatus.listenIp = []) ∨
      ∃ fd ∈ server.listenFds,
        ListensAt server.sockets server.getStatus.listenIp server.getStatus.listenPort fd := by
  cases fdsShape : server.listenFds with
  | nil =>
      rw [fdsShape] at ports ips
      rw [getStatus, List.eq_nil_of_length_eq_zero ports, List.eq_nil_of_length_eq_zero ips]
      exact Or.inl ⟨rfl, rfl, rfl⟩
  | cons fd fds =>
      rw [fdsShape] at ports ips
      rcases List.exists_cons_of_length_eq_add_one ports with ⟨port, laterPorts, portsShape⟩
      rcases List.exists_cons_of_length_eq_add_one ips with ⟨ip, laterIps, ipsShape⟩
      right
      refine ⟨fd, List.mem_cons_self, ?_⟩
      rw [getStatus, portsShape, ipsShape]
      apply listensAt_reported
      apply bound 0
      · rw [fdsShape]
        rfl
      · rw [portsShape]
        rfl
      · rw [ipsShape]
        rfl

theorem tablesAligned_of_empty (fds : server.listenFds = []) (ports : server.listenPorts = [])
    (ips : server.listenIps = []) : server.TablesAligned := by
  refine ⟨by rw [fds, ports]; rfl, by rw [fds, ips]; rfl, ?_, ?_, ?_⟩
  · intro i fd port ip here
    rw [fds] at here
    cases here
  · intro _ center _ thread _ fd member
    rw [fds] at member
    cases member
  · left
    rw [getStatus, ports, ips]
    exact ⟨fds, rfl, rfl⟩

theorem tablesAligned_cleanup (server : Server) : server.cleanup.TablesAligned := by
  rcases server.cleanup_spec with ⟨_, _, fds, ports, ips, _⟩
  exact tablesAligned_of_empty fds ports ips

/-- `init` adds a row for each of its listeners. -/
theorem tablesAligned_extend {listens : List ListenConfig} {fds : List ℤ} {sockets : Sockets}
    (owns : server.Owns) (aligned : server.TablesAligned)
    (extension : server.Extends listens fds sockets) (same : next.sockets = sockets)
    (sameFds : next.listenFds = server.listenFds ++ fds)
    (samePorts : next.listenPorts =
      server.listenPorts ++ (enabledListens listens).map fun listen => listen.port)
    (sameIps : next.listenIps =
      server.listenIps ++ (enabledListens listens).map fun listen => listen.ip)
    (notRunning : next.status ≠ .running) : next.TablesAligned := by
  have added := extension.listening.length_eq
  have ports := aligned.ports
  have ips := aligned.ips
  have nextPorts : next.listenPorts.length = next.listenFds.length := by
    rw [samePorts, sameFds, List.length_append, List.length_append, List.length_map]
    omega
  have nextIps : next.listenIps.length = next.listenFds.length := by
    rw [sameIps, sameFds, List.length_append, List.length_append, List.length_map]
    omega
  have bound : next.RowsBound := by
    intro i fd port ip fdHere portHere ipHere
    rw [sameFds] at fdHere
    rw [samePorts] at portHere
    rw [sameIps] at ipHere
    rw [same]
    by_cases old : i < server.listenFds.length
    · -- a listener that was there keeps its socket
      rw [List.getElem?_append_left old] at fdHere
      rw [List.getElem?_append_left (by omega)] at portHere ipHere
      rcases aligned.bound i fdHere portHere ipHere with ⟨address, backlog, parsed, found⟩
      refine ⟨address, backlog, parsed, ?_⟩
      rw [extension.others fd ((owns.isOpen fd).mpr (List.mem_of_getElem? fdHere))]
      exact found
    · rw [List.getElem?_append_right (by omega)] at fdHere portHere ipHere
      rw [ports, List.getElem?_map] at portHere
      rw [ips, List.getElem?_map] at ipHere
      rcases Option.map_eq_some_iff.mp portHere with ⟨listen, entry, rfl⟩
      rw [entry, Option.map_some, Option.some.injEq] at ipHere
      rw [← ipHere]
      rcases List.getElem?_eq_some_iff.mp fdHere with ⟨fdBelow, rfl⟩
      rcases List.getElem?_eq_some_iff.mp entry with ⟨entryBelow, rfl⟩
      exact (List.forall₂_iff_get.mp extension.listening).2 _ entryBelow fdBelow
  refine ⟨nextPorts, nextIps, bound, fun running => absurd running notRunning,
    reported_of_bound nextPorts nextIps bound⟩

/-- A call that meets the condition keeps the tables aligned. -/
theorem TablesAligned.performs (sane : server.Sane) (aligned : server.TablesAligned)
    (condition : server.KeepsTables call) (performs : server.Performs call error next) :
    next.TablesAligned := by
  cases performs with
  | refused => exact aligned
  | initFails stopped failed owns running graceful => exact tablesAligned_cleanup _
  | initSucceeds stopped extension owns =>
      exact tablesAligned_extend sane.owns aligned extension rfl rfl rfl rfl nofun
  | startFails stopped => exact tablesAligned_cleanup _
  | @startSucceeds _ center stopped configured running listed known =>
      refine ⟨aligned.ports, aligned.ips, aligned.bound, ?_, aligned.reported⟩
      rintro _ _ ⟨⟩ thread inThreads fd member ip port listens
      rcases List.mem_iff_getElem?.mp member with ⟨i, here⟩
      have below := (List.getElem?_eq_some_iff.mp here).1
      have hasPort : ∃ itsPort, server.listenPorts[i]? = some itsPort :=
        ⟨_, List.getElem?_eq_getElem (Nat.lt_of_lt_of_eq below aligned.ports.symm)⟩
      have hasIp : ∃ itsIp, server.listenIps[i]? = some itsIp :=
        ⟨_, List.getElem?_eq_getElem (Nat.lt_of_lt_of_eq below aligned.ips.symm)⟩
      rcases hasPort with ⟨itsPort, portHere⟩
      rcases hasIp with ⟨itsIp, ipHere⟩
      have same := (aligned.bound i here portHere ipHere).port_unique listens
      have inPairs : (fd, itsPort) ∈ server.listenFds.zip server.listenPorts :=
        List.mem_of_getElem? (List.getElem?_zip_eq_some.mpr ⟨here, portHere⟩)
      rw [← same]
      exact (known thread inThreads _ inPairs).1
  | stops running =>
      rcases gracefulShutdown_spec sane running with ⟨_, _, fds, ports, ips, _⟩
      have none := condition rfl running
      refine tablesAligned_of_empty fds (ports.trans none) (ips.trans ?_)
      apply List.eq_nil_of_length_eq_zero
      rw [aligned.ips, ← aligned.ports, none]
      rfl
  | cleansUp => exact tablesAligned_cleanup _

/-- A `stop` that does not meet it takes the descriptors out of one table only. -/
theorem tablesAligned_iff_keepsTables (sane : server.Sane) (aligned : server.TablesAligned) :
    (∀ next, server.step call = some next → next.TablesAligned) ↔ server.KeepsTables call := by
  constructor
  · rintro after rfl running
    rcases gracefulShutdown_spec sane running with ⟨_, _, fds, ports, _, _⟩
    have lengths := (after _ (step_stop running)).ports
    rw [fds, ports] at lengths
    exact List.eq_nil_of_length_eq_zero lengths
  · intro condition next stepped
    rcases performs_of_step sane stepped with ⟨error, performs⟩
    exact aligned.performs sane condition performs

/-- The tables are aligned after each of a number of calls if and only if each `stop` among them
that finds the server running finds no port in the table. -/
theorem tablesAligned_iff (calls : List ServerCall) :
    Interleaving.Throughout step TablesAligned construct calls ↔
      Interleaving.Along step KeepsTables construct calls := by
  have initially : construct.Sane ∧ construct.TablesAligned :=
    ⟨sane_construct, tablesAligned_of_empty rfl rfl rfl⟩
  have agrees : ∀ {server : Server} {call : ServerCall}, server.Sane ∧ server.TablesAligned →
      ((∀ next, server.step call = some next → next.TablesAligned) ↔ server.KeepsTables call) :=
    fun holds => tablesAligned_iff_keepsTables holds.1 holds.2
  have kept : ∀ {server : Server} {call : ServerCall} {next : Server},
      server.Sane ∧ server.TablesAligned → server.KeepsTables call →
        server.step call = some next → next.Sane ∧ next.TablesAligned :=
    fun holds condition stepped =>
      ⟨holds.1.step stepped, (agrees holds).mpr condition _ stepped⟩
  exact Interleaving.throughout_iff_along agrees kept initially calls

/-- The server listens at port 80, and the tables have the port after its `stop`; after an `init`
for port 90, `get_status` reports port 80. -/
def initsForOtherPort : List ServerCall :=
  [.init (.loaded [localEntry 80]) allSucceed, .start true, .stop,
    .init (.loaded [localEntry 90]) allSucceed]

theorem tablesAligned_fails :
    ∃ server, construct.run initsForOtherPort = some server ∧ server.listenFds = [0] ∧
      server.getStatus.listenPort = 80 ∧ ¬server.TablesAligned := by
  have seen : (construct.run initsForOtherPort).map
      (fun server => (server.listenFds, server.listenPorts, server.getStatus.listenPort)) =
        some ([0], [80, 90], 80) := by
    decide +kernel
  rcases Option.map_eq_some_iff.mp seen with ⟨server, ran, fields⟩
  simp only [Prod.mk.injEq] at fields
  rcases fields with ⟨fds, ports, reported⟩
  refine ⟨server, ran, fds, reported, ?_⟩
  intro aligned
  have lengths := aligned.ports
  rw [fds, ports] at lengths
  cases lengths

end Server

end HttpsServerSim
