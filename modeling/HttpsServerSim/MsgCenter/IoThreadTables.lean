import HttpsServerSim.MsgCenter.IoThreadLoop

/-!
# The tables of an IO thread and the events made from them

The calls alone say what each descriptor is registered as. The maps of the thread are this
registration at any time, the lists have their keys, and an event is made from the maps as they
are when it is pushed, however old the report of the kernel is.
-/

namespace HttpsServerSim

universe u

variable {Handler : Type u}

/-! ## What the calls register -/

/-- What each descriptor is registered as, a listener of a port, a connection, or both. -/
structure FdRegistry where
  listeners : ℤ → Option UInt16
  connections : ℤ → Option UInt64

namespace FdRegistry

def empty : FdRegistry where
  listeners := fun _ => none
  connections := fun _ => none

def after (registry : FdRegistry) : IoAction Handler → FdRegistry
  | .addListenFd fd port =>
      { registry with listeners := Function.update registry.listeners fd (some port) }
  | .addConnFd fd connId =>
      { registry with connections := Function.update registry.connections fd (some connId) }
  | .removeFd fd =>
      { listeners := Function.update registry.listeners fd none
        connections := Function.update registry.connections fd none }
  | _ => registry

/-- The registrations after a sequence of actions. -/
def afterAll (registry : FdRegistry) (actions : List (IoAction Handler)) : FdRegistry :=
  actions.foldl after registry

/-- An event that is right at the time: a listener accepts, and a connection has its id. -/
structure Current (registry : FdRegistry) (event : Event Handler) : Prop where
  type : event.type ∈ [EventType.error, .accept, .read, .write]
  listener : event.type = .accept → (registry.listeners event.fd).isSome
  connection : event.type ≠ .accept → registry.connections event.fd = some event.connId

end FdRegistry

namespace FdTables

/-- Each list has the keys of its map, without duplicates. -/
structure Consistent (tables : FdTables) : Prop where
  listeners : Mirrors tables.listenFds tables.listenFdToPort
  connections : Mirrors tables.connFds tables.fdToConnId

/-- The descriptor is in none of the four containers. -/
structure Lacks (tables : FdTables) (fd : ℤ) : Prop where
  listenFds : fd ∉ tables.listenFds
  listenFdToPort : fd ∉ tables.listenFdToPort
  connFds : fd ∉ tables.connFds
  fdToConnId : fd ∉ tables.fdToConnId

/-- The maps are the registrations. -/
structure Represents (tables : FdTables) (registry : FdRegistry) : Prop where
  listeners : (fun fd => tables.listenFdToPort.lookup fd) = registry.listeners
  connections : (fun fd => tables.fdToConnId.lookup fd) = registry.connections

variable {tables : FdTables} {registry : FdRegistry} {fd : ℤ}

/-! ## The mutators -/

theorem consistent_construct : construct.Consistent := ⟨mirrors_empty, mirrors_empty⟩

theorem represents_construct : construct.Represents .empty := ⟨rfl, rfl⟩

theorem Consistent.addListenFd (consistent : tables.Consistent) (fd : ℤ) (port : UInt16) :
    (tables.addListenFd fd port).Consistent :=
  ⟨consistent.listeners.insert fd port, consistent.connections⟩

theorem Consistent.addConnFd (consistent : tables.Consistent) (fd : ℤ) (connId : UInt64) :
    (tables.addConnFd fd connId).Consistent :=
  ⟨consistent.listeners, consistent.connections.insert fd connId⟩

theorem Consistent.removeConnFd_eq (consistent : tables.Consistent) (fd : ℤ) :
    tables.removeConnFd fd =
      { tables with
        fdToConnId := tables.fdToConnId.erase fd
        connFds := tables.connFds.erase fd } := by
  unfold removeConnFd
  split
  next => rfl
  next absent =>
    rcases consistent.connections.erase_of_absent absent with ⟨sameFds, sameTable⟩
    rw [sameFds, sameTable]

/-- What `remove_fd` leaves of consistent containers. -/
theorem Consistent.removeFd_eq (consistent : tables.Consistent) (fd : ℤ) :
    tables.removeFd fd =
      { listenFdToPort := tables.listenFdToPort.erase fd
        listenFds := tables.listenFds.erase fd
        fdToConnId := tables.fdToConnId.erase fd
        connFds := tables.connFds.erase fd } := by
  have half : Consistent { tables with
      listenFdToPort := tables.listenFdToPort.erase fd
      listenFds := tables.listenFds.erase fd } :=
    ⟨consistent.listeners.erase fd, consistent.connections⟩
  unfold removeFd
  rw [IoThread.removeFd_eq consistent.listeners]
  exact half.removeConnFd_eq fd

theorem Consistent.removeFd (consistent : tables.Consistent) (fd : ℤ) :
    (tables.removeFd fd).Consistent := by
  rw [consistent.removeFd_eq]
  exact ⟨consistent.listeners.erase fd, consistent.connections.erase fd⟩

theorem Consistent.lacks_removeFd (consistent : tables.Consistent) (fd : ℤ) :
    (tables.removeFd fd).Lacks fd := by
  rw [consistent.removeFd_eq]
  refine ⟨?_, ?_, ?_, ?_⟩
  · simp [consistent.listeners.nodup.mem_erase_iff]
  · simp
  · simp [consistent.connections.nodup.mem_erase_iff]
  · simp

theorem Represents.addListenFd (represents : tables.Represents registry) (fd : ℤ) (port : UInt16) :
    (tables.addListenFd fd port).Represents
      { registry with listeners := Function.update registry.listeners fd (some port) } := by
  refine ⟨?_, represents.connections⟩
  rw [← represents.listeners]
  exact lookup_insert_eq tables.listenFdToPort fd port

theorem Represents.addConnFd (represents : tables.Represents registry) (fd : ℤ)
    (connId : UInt64) :
    (tables.addConnFd fd connId).Represents
      { registry with connections := Function.update registry.connections fd (some connId) } := by
  refine ⟨represents.listeners, ?_⟩
  rw [← represents.connections]
  exact lookup_insert_eq tables.fdToConnId fd connId

theorem Represents.removeFd (represents : tables.Represents registry)
    (consistent : tables.Consistent) (fd : ℤ) :
    (tables.removeFd fd).Represents
      { listeners := Function.update registry.listeners fd none
        connections := Function.update registry.connections fd none } := by
  rw [consistent.removeFd_eq, ← represents.listeners, ← represents.connections]
  exact ⟨lookup_erase_eq tables.listenFdToPort fd, lookup_erase_eq tables.fdToConnId fd⟩

/-! ## The events -/

theorem Represents.current_connEvent (represents : tables.Represents registry) {type : EventType}
    (known : type ∈ [EventType.error, .read, .write]) {event : Event Handler}
    (made : tables.connEvent type fd = some event) : registry.Current event := by
  rcases Option.map_eq_some_iff.mp made with ⟨connId, found, rfl⟩
  have registered : registry.connections fd = some connId := by
    rw [← represents.connections]
    exact found
  have notAccept : type ≠ .accept := by
    rintro rfl
    revert known
    decide
  refine ⟨?_, ?_, fun _ => registered⟩
  · simp only [List.mem_cons, List.not_mem_nil, or_false] at known ⊢
    tauto
  · intro accepts
    exact absurd accepts notAccept

theorem Represents.current_readEvent (represents : tables.Represents registry)
    {event : Event Handler} (made : tables.readEvent fd = some event) : registry.Current event := by
  unfold readEvent at made
  split at made
  next listens =>
    cases made
    refine ⟨by simp, ?_, ?_⟩
    · intro _
      rw [← represents.listeners]
      exact AList.lookup_isSome.mpr listens
    · intro notAccept
      exact absurd rfl notAccept
  next => exact represents.current_connEvent (by simp) made

/-- Every event that is made is right, whatever the kernel has reported. -/
theorem Represents.current_eventOf (represents : tables.Represents registry) {wakeupReadFd : ℤ}
    {reported : KernelEvent} {event : Event Handler}
    (made : tables.eventOf wakeupReadFd reported = some event) : registry.Current event := by
  unfold eventOf at made
  split_ifs at made with wakeup failed ended
  · exact represents.current_connEvent (by simp) made
  · cases filter : reported.filter with
    | read =>
        simp only [filter] at made
        exact represents.current_readEvent made
    | write =>
        simp only [filter] at made
        exact represents.current_connEvent (by simp) made
    | other => simp [filter] at made

/-- What the kernel is asked to watch are the descriptors that are registered. -/
theorem Consistent.mem_registrations (consistent : tables.Consistent) (fd : ℤ) :
    ((fd, .read) ∈ tables.registrations ↔ fd ∈ tables.listenFdToPort ∨ fd ∈ tables.fdToConnId) ∧
      ((fd, .write) ∈ tables.registrations ↔ fd ∈ tables.fdToConnId) := by
  simp [registrations, consistent.listeners.same, consistent.connections.same]

end FdTables

/-! ## The steps -/

namespace IoLoop

/-- The containers after an action. -/
def tablesAfter (tables : FdTables) : IoAction Handler → FdTables
  | .addListenFd fd port => tables.addListenFd fd port
  | .addConnFd fd connId => tables.addConnFd fd connId
  | .removeFd fd => tables.removeFd fd
  | _ => tables

/-- What one action does to the containers, and the events that it pushes. -/
structure Effect (loop : IoLoop Handler) (action : IoAction Handler) (next : IoLoop Handler) :
    Prop where
  tables : next.tables = tablesAfter loop.tables action
  pushed : ∃ new, next.pushed = loop.pushed ++ new ∧ ∀ event ∈ new, ∃ wakeupReadFd reported,
    loop.tables.eventOf wakeupReadFd reported = some event

variable {loop next : IoLoop Handler} {action : IoAction Handler}

theorem Effect.of_silent (tables : next.tables = tablesAfter loop.tables action)
    (silent : next.pushed = loop.pushed) : loop.Effect action next := by
  refine ⟨tables, [], ?_, ?_⟩
  · simp [silent]
  · simp

theorem push_cases (loop : IoLoop Handler) (event : Option (Event Handler)) :
    (loop.push event).tables = loop.tables ∧
      ((loop.push event).pushed = loop.pushed ∨
        ∃ made, event = some made ∧ (loop.push event).pushed = loop.pushed ++ [made]) := by
  cases event with
  | none => exact ⟨rfl, Or.inl rfl⟩
  | some made =>
      cases queue : loop.eventQueue with
      | none => simp [push, queue]
      | some queue' => simp [push, queue]

theorem effect_of_dispatch (stepped : loop.step .dispatch = some next) :
    loop.Effect .dispatch next := by
  simp only [step] at stepped
  split at stepped
  next reported later place =>
    cases stepped
    rcases loop.push_cases (loop.tables.eventOf loop.wakeupReadFd reported) with
      ⟨tables, silent | ⟨made, isMade, pushed⟩⟩
    · exact Effect.of_silent tables silent
    · refine ⟨tables, [made], pushed, ?_⟩
      simp only [List.mem_singleton, forall_eq]
      exact ⟨loop.wakeupReadFd, reported, isMade⟩
  next => cases stepped

/-- Only a dispatch pushes. -/
theorem effect_of_step (stepped : loop.step action = some next) : loop.Effect action next := by
  cases action with
  | dispatch => exact effect_of_dispatch stepped
  | addListenFd | addConnFd | removeFd | stop =>
      cases stepped
      exact Effect.of_silent rfl rfl
  | createPipe readFd =>
      simp only [step] at stepped
      split at stepped
      next =>
        cases readFd with
        | some fd =>
            cases stepped
            exact Effect.of_silent rfl rfl
        | none =>
            cases stepped
            exact Effect.of_silent rfl rfl
      next => cases stepped
  | loadRunning =>
      simp only [step] at stepped
      split at stepped
      next =>
        cases stepped
        exact Effect.of_silent rfl rfl
      next =>
        cases stepped
        exact Effect.of_silent rfl rfl
      next => cases stepped
  | start | queueChanges | createQueue | registerPipe | register | wait | leave =>
      simp only [step] at stepped
      split_ifs at stepped <;> cases stepped <;> exact Effect.of_silent rfl rfl

/-! ## The runs -/

theorem consistent_tablesAfter {tables : FdTables} (consistent : tables.Consistent)
    (action : IoAction Handler) : (tablesAfter tables action).Consistent := by
  cases action with
  | addListenFd fd port => exact consistent.addListenFd fd port
  | addConnFd fd connId => exact consistent.addConnFd fd connId
  | removeFd fd => exact consistent.removeFd fd
  | _ => exact consistent

theorem represents_tablesAfter {tables : FdTables} {registry : FdRegistry}
    (represents : tables.Represents registry) (consistent : tables.Consistent)
    (action : IoAction Handler) :
    (tablesAfter tables action).Represents (registry.after action) := by
  cases action with
  | addListenFd fd port => exact represents.addListenFd fd port
  | addConnFd fd connId => exact represents.addConnFd fd connId
  | removeFd fd => exact represents.removeFd consistent fd
  | _ => exact represents

theorem tables_run {actions : List (IoAction Handler)} {registry : FdRegistry}
    (consistent : loop.tables.Consistent) (represents : loop.tables.Represents registry)
    (ran : Interleaving.run step loop actions = some next) :
    next.tables.Consistent ∧ next.tables.Represents (registry.afterAll actions) := by
  induction actions generalizing loop registry with
  | nil =>
      cases ran
      exact ⟨consistent, represents⟩
  | cons action actions ih =>
      rcases Interleaving.run_cons_eq_some_iff.mp ran with ⟨middle, stepped, later⟩
      have tables := (effect_of_step stepped).tables
      apply ih
      · rw [tables]
        exact consistent_tablesAfter consistent action
      · rw [tables]
        exact represents_tablesAfter represents consistent action
      · exact later

/-- In every state that an interleaving reaches the containers are consistent, they have what the
calls have registered, a removal takes a descriptor out of all four, and an event that is pushed
next is right at that moment. -/
theorem tables_consistent (eventQueue : Option (EventQueue Handler))
    (actions : List (IoAction Handler)) (loop : IoLoop Handler)
    (ran : Interleaving.run step (construct eventQueue) actions = some loop) :
    loop.tables.Consistent ∧ loop.tables.Represents (FdRegistry.empty.afterAll actions) ∧
      (∀ fd, (loop.tables.removeFd fd).Lacks fd) ∧
        ∀ action next, loop.step action = some next →
          ∃ new, next.pushed = loop.pushed ++ new ∧
            ∀ event ∈ new, (FdRegistry.empty.afterAll actions).Current event := by
  rcases tables_run FdTables.consistent_construct FdTables.represents_construct ran with
    ⟨consistent, represents⟩
  refine ⟨consistent, represents, consistent.lacks_removeFd, ?_⟩
  intro action next stepped
  rcases (effect_of_step stepped).pushed with ⟨new, pushed, areMade⟩
  refine ⟨new, pushed, ?_⟩
  intro event isNew
  rcases areMade event isNew with ⟨wakeupReadFd, reported, made⟩
  exact represents.current_eventOf made

/-- A listener and a connection, whose descriptor is removed and used again while two reports of the
kernel on it are still to be dispatched. -/
def reusedFd : List (IoAction Handler) :=
  [.start, .createQueue true, .createPipe (some 3), .registerPipe true, .addListenFd 5 80,
    .addConnFd 6 1001, .loadRunning, .register,
    .wait [⟨5, .read, false, false⟩, ⟨6, .read, false, false⟩, ⟨6, .write, false, true⟩],
    .dispatch, .removeFd 6, .dispatch, .addConnFd 6 1002, .dispatch]

theorem tables_consistent_reusedFd :
    ∃ loop : IoLoop Unit,
      Interleaving.run step (construct (some (.construct 10000))) reusedFd = some loop ∧
        loop.tables.Consistent ∧ loop.tables.Represents (FdRegistry.empty.afterAll
          (reusedFd : List (IoAction Unit))) ∧
            (∀ fd, (loop.tables.removeFd fd).Lacks fd) ∧
              ∀ action next, loop.step action = some next →
                ∃ new, next.pushed = loop.pushed ++ new ∧ ∀ event ∈ new,
                  (FdRegistry.empty.afterAll (reusedFd : List (IoAction Unit))).Current event := by
  have seen : (Interleaving.run step (construct (some (.construct 10000)))
      (reusedFd : List (IoAction Unit))).isSome = true := by
    decide +kernel
  rcases Option.isSome_iff_exists.mp seen with ⟨loop, ran⟩
  exact ⟨loop, ran, tables_consistent _ _ loop ran⟩

/-- What is pushed there: the stale report is answered under the new id, or not at all. -/
example : (Interleaving.run step (construct (some (.construct 10000)))
    (reusedFd : List (IoAction Unit))).map (fun loop =>
      loop.pushed.map fun event => (event.type, event.fd, event.connId)) =
        some [(.accept, 5, 0), (.error, 6, 1002)] := by
  decide +kernel

end IoLoop

end HttpsServerSim
