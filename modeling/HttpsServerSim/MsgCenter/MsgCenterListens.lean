import HttpsServerSim.MsgCenter.MsgCenterLifecycle

/-!
# The list of listening descriptors and the IO threads

The facade's list is changed by `add_listen_fd` and `remove_listen_fd` alone and outlives `stop`.
The tables of the IO threads are changed with it as long as the threads are there; `start` makes
new ones, which are empty.
-/

namespace HttpsServerSim

namespace IoThread

/-- The thread listens on these descriptors, in both of its containers. -/
def ListensOn (thread : IoThread) (fds : List ℤ) : Prop :=
  (∀ fd, fd ∈ thread.listenFds ↔ fd ∈ fds) ∧ ∀ fd, fd ∈ thread.listenFdToPort ↔ fd ∈ fds

/-- The containers of the thread agree. -/
structure Tidy (thread : IoThread) : Prop where
  nodup : thread.listenFds.Nodup
  same : ∀ fd, fd ∈ thread.listenFdToPort ↔ fd ∈ thread.listenFds

variable {thread : IoThread} {fds : List ℤ} {fd : ℤ} {port : UInt16}

theorem Tidy.mirrors (tidy : thread.Tidy) : Mirrors thread.listenFds thread.listenFdToPort :=
  ⟨tidy.nodup, tidy.same⟩

theorem tidy_construct : construct.Tidy := by
  have mirrors : Mirrors construct.listenFds construct.listenFdToPort := mirrors_empty
  exact ⟨mirrors.nodup, mirrors.same⟩

theorem Tidy.listensOn_iff (tidy : thread.Tidy) :
    thread.ListensOn fds ↔ ∀ fd, fd ∈ thread.listenFds ↔ fd ∈ fds := by
  refine ⟨And.left, ?_⟩
  intro same
  exact ⟨same, fun fd => (tidy.same fd).trans (same fd)⟩

theorem mem_addListenFd (thread : IoThread) (fd : ℤ) (port : UInt16) (other : ℤ) :
    other ∈ (thread.addListenFd fd port).listenFds ↔ other = fd ∨ other ∈ thread.listenFds :=
  mem_pushNew

theorem Tidy.addListenFd (tidy : thread.Tidy) (fd : ℤ) (port : UInt16) :
    (thread.addListenFd fd port).Tidy := by
  have mirrors := tidy.mirrors.insert fd port
  exact ⟨mirrors.nodup, mirrors.same⟩

theorem Tidy.mem_removeFd (tidy : thread.Tidy) (fd other : ℤ) :
    other ∈ (thread.removeFd fd).listenFds ↔ other ≠ fd ∧ other ∈ thread.listenFds := by
  rw [removeFd_eq tidy.mirrors]
  exact tidy.nodup.mem_erase_iff

theorem Tidy.removeFd (tidy : thread.Tidy) (fd : ℤ) : (thread.removeFd fd).Tidy := by
  have mirrors := tidy.mirrors.erase fd
  rw [removeFd_eq tidy.mirrors]
  exact ⟨mirrors.nodup, mirrors.same⟩

end IoThread

namespace MsgCenterLife

/-- While the center runs, each IO thread listens on the descriptors of the list. -/
def ListensAgree (center : MsgCenterLife) : Prop :=
  center.running = true → ∀ thread ∈ center.tables, thread.ListensOn center.listenFds

/-- A `start` that gets all it creates finds the list empty. -/
def StartsUnlisted (center : MsgCenterLife) : MsgCenterCall → Prop
  | .start throws =>
      center.running = false → center.ioThreadCount ≠ 0 → center.workerThreadCount ≠ 0 →
        (∀ point ∈ center.startPoints, throws point = false) → center.listenFds = []
  | _ => True

/-- The invariant: an IO thread listens on nothing that is not in the list. -/
structure Listed (center : MsgCenterLife) : Prop where
  agree : center.ListensAgree
  nodup : center.listenFds.Nodup
  tidy : ∀ thread ∈ center.tables, thread.Tidy
  within : ∀ thread ∈ center.tables, ∀ fd ∈ thread.listenFds, fd ∈ center.listenFds

variable {center next : MsgCenterLife} {call : MsgCenterCall} {throws : StartPoint → Bool}
  {fd : ℤ} {port : UInt16}

/-! ## Start and stop -/

theorem mem_tables_started {count : ℕ} {thread : IoThread}
    (tables : next.tables = center.tables ++ List.replicate count .construct)
    (isIn : thread ∈ next.tables) : thread ∈ center.tables ∨ thread = .construct := by
  rw [tables] at isIn
  rcases List.mem_append.mp isIn with older | new
  · exact Or.inl older
  · exact Or.inr (List.eq_of_mem_replicate new)

theorem Listed.startedFrom {points : List StartPoint} {created : Bool} (listed : center.Listed)
    (started : StartedFrom throws points center created next) :
    next.listenFds.Nodup ∧ (∀ thread ∈ next.tables, thread.Tidy) ∧
      ∀ thread ∈ next.tables, ∀ fd ∈ thread.listenFds, fd ∈ next.listenFds := by
  rcases started.tables with ⟨count, tables, _⟩
  rw [started.listenFds]
  refine ⟨listed.nodup, ?_, ?_⟩
  · intro thread isIn
    rcases mem_tables_started tables isIn with older | rfl
    · exact listed.tidy thread older
    · exact IoThread.tidy_construct
  · intro thread isIn fd isListened
    rcases mem_tables_started tables isIn with older | rfl
    · exact listed.within thread older fd isListened
    · cases isListened

/-- After a `start` that has succeeded, the threads agree with the list if it is empty. -/
theorem agree_started_iff (listed : center.Listed) (counts : center.ioThreadCount ≠ 0)
    (started : StartedFrom throws center.startPoints center true next) :
    (∀ thread ∈ next.tables, thread.ListensOn center.listenFds) ↔ center.listenFds = [] := by
  rcases started.tables with ⟨count, tables, counted⟩
  refine ⟨?_, ?_⟩
  · intro agree
    have new : IoThread.construct ∈ next.tables := by
      rw [tables, counted rfl, startPoints_ioThreads]
      apply List.mem_append_right
      exact List.mem_replicate.mpr ⟨counts, rfl⟩
    have listens := (agree .construct new).1
    apply List.eq_nil_iff_forall_not_mem.mpr
    intro fd isIn
    cases (listens fd).mpr isIn
  · intro empty thread isIn
    rcases listed.startedFrom started with ⟨_, tidy, within⟩
    apply (tidy thread isIn).listensOn_iff.mpr
    intro fd
    refine ⟨?_, ?_⟩
    · intro listened
      rw [← started.listenFds]
      exact within thread isIn fd listened
    · rw [empty]
      intro impossible
      cases impossible

theorem stop_cases (center : MsgCenterLife) :
    center.stop = center ∨
      center.stop.running = false ∧ center.stop.tables = [] ∧
        center.stop.listenFds = center.listenFds := by
  unfold stop
  split
  · exact Or.inr ⟨rfl, rfl, rfl⟩
  · exact Or.inl rfl

theorem Listed.stop (listed : center.Listed) : center.stop.Listed := by
  rcases center.stop_cases with same | ⟨stopped, none, fds⟩
  · rw [same]
    exact listed
  · refine ⟨?_, ?_, ?_, ?_⟩
    · intro running
      rw [stopped] at running
      cases running
    · rw [fds]
      exact listed.nodup
    · rw [none]
      simp
    · rw [none]
      simp

/-! ## Adding and removing -/

theorem tables_addListenFd (center : MsgCenterLife) (port : UInt16) (good : ¬fd < 0) :
    (center.addListenFd fd port).2.tables =
      center.tables.map fun thread => thread.addListenFd fd port := by
  simp [addListenFd, good, tables, List.map_map, Function.comp_def]

theorem tables_removeListenFd (center : MsgCenterLife) (fd : ℤ) :
    (center.removeListenFd fd).2.tables = center.tables.map fun thread => thread.removeFd fd := by
  simp [removeListenFd, tables, List.map_map, Function.comp_def]

theorem mem_listenFds_addListenFd (center : MsgCenterLife) (port : UInt16) (good : ¬fd < 0)
    (other : ℤ) :
    other ∈ (center.addListenFd fd port).2.listenFds ↔ other = fd ∨ other ∈ center.listenFds := by
  simp only [addListenFd, if_neg good]
  exact mem_pushNew

theorem Listed.addListenFd (listed : center.Listed) (fd : ℤ) (port : UInt16) :
    (center.addListenFd fd port).2.Listed := by
  by_cases bad : fd < 0
  · simpa [MsgCenterLife.addListenFd, bad] using listed
  · have tables := tables_addListenFd center port bad
    have mem := mem_listenFds_addListenFd center port bad
    refine ⟨?_, ?_, ?_, ?_⟩
    · intro running thread isIn
      have before : center.running = true := by
        simpa [MsgCenterLife.addListenFd, bad] using running
      rw [tables] at isIn
      rcases List.mem_map.mp isIn with ⟨older, isOlder, rfl⟩
      have listens := (listed.agree before older isOlder).1
      apply ((listed.tidy older isOlder).addListenFd fd port).listensOn_iff.mpr
      intro other
      rw [IoThread.mem_addListenFd, mem, listens]
    · simp only [MsgCenterLife.addListenFd, if_neg bad]
      exact nodup_pushNew listed.nodup fd
    · intro thread isIn
      rw [tables] at isIn
      rcases List.mem_map.mp isIn with ⟨older, isOlder, rfl⟩
      exact (listed.tidy older isOlder).addListenFd fd port
    · intro thread isIn other isListened
      rw [tables] at isIn
      rcases List.mem_map.mp isIn with ⟨older, isOlder, rfl⟩
      rw [mem]
      rcases (IoThread.mem_addListenFd older fd port other).mp isListened with same | before
      · exact Or.inl same
      · exact Or.inr (listed.within older isOlder other before)

theorem Listed.removeListenFd (listed : center.Listed) (fd : ℤ) :
    (center.removeListenFd fd).2.Listed := by
  have tables := tables_removeListenFd center fd
  have mem : ∀ other, other ∈ (center.removeListenFd fd).2.listenFds ↔
      other ≠ fd ∧ other ∈ center.listenFds := fun other => listed.nodup.mem_erase_iff
  refine ⟨?_, listed.nodup.erase fd, ?_, ?_⟩
  · intro running thread isIn
    rw [tables] at isIn
    rcases List.mem_map.mp isIn with ⟨older, isOlder, rfl⟩
    have listens := (listed.agree running older isOlder).1
    have tidy := listed.tidy older isOlder
    apply (tidy.removeFd fd).listensOn_iff.mpr
    intro other
    rw [tidy.mem_removeFd, mem, listens]
  · intro thread isIn
    rw [tables] at isIn
    rcases List.mem_map.mp isIn with ⟨older, isOlder, rfl⟩
    exact (listed.tidy older isOlder).removeFd fd
  · intro thread isIn other isListened
    rw [tables] at isIn
    rcases List.mem_map.mp isIn with ⟨older, isOlder, rfl⟩
    rcases ((listed.tidy older isOlder).mem_removeFd fd other).mp isListened with
      ⟨different, before⟩
    exact (mem other).mpr ⟨different, listed.within older isOlder other before⟩

/-! ## The view of the server -/

/-- The center as the server's thread sees it. -/
def listenCenter (center : MsgCenterLife) : ListenCenter where
  ioThreadCount := center.ioThreadCount
  running := center.running
  listenFds := center.listenFds
  ioThreads := center.tables

theorem listenCenter_start (started : center.start throws = some (.success, next)) :
    center.listenCenter.start true = (.success, next.listenCenter) := by
  have outcome := start_outcome started
  generalize success : MsgCenterError.success = error at outcome started
  cases outcome with
  | refused cause other =>
      rcases other with rfl | rfl
      · cases success
      · cases success
  | failed stopped ran => cases success
  | @succeeded last stopped counts ran =>
      have spec := startFrom_spec ran
      rcases spec.tables with ⟨count, tables, counted⟩
      have all : last.tables =
          center.tables ++ List.replicate center.ioThreadCount .construct := by
        rw [tables, counted rfl, startPoints_ioThreads]
      simp [ListenCenter.start, listenCenter, stopped, spec.listenFds, spec.ioThreadCount]
      exact all.symm

theorem listenCenter_stop (center : MsgCenterLife) :
    center.stop.listenCenter = center.listenCenter.stop := by
  cases running : center.running with
  | true => simp [stop, ListenCenter.stop, listenCenter, running, tables]
  | false => simp [stop, ListenCenter.stop, listenCenter, running]

theorem listenCenter_addListenFd (center : MsgCenterLife) (fd : ℤ) (port : UInt16) :
    center.listenCenter.addListenFd fd port =
      ((center.addListenFd fd port).1, (center.addListenFd fd port).2.listenCenter) := by
  by_cases bad : fd < 0
  · simp [ListenCenter.addListenFd, addListenFd, bad]
  · have tables := tables_addListenFd center port bad
    simp only [ListenCenter.addListenFd, if_neg bad, listenCenter, tables]
    simp only [addListenFd, if_neg bad]
    rfl

theorem listenCenter_removeListenFd (center : MsgCenterLife) (fd : ℤ) :
    center.listenCenter.removeListenFd fd =
      ((center.removeListenFd fd).1, (center.removeListenFd fd).2.listenCenter) := by
  simp only [ListenCenter.removeListenFd, listenCenter, tables_removeListenFd]
  rfl

/-! ## Sequences of calls -/

theorem agree_step_iff (listed : center.Listed) (stepped : center.step call = some next) :
    next.ListensAgree ↔ center.StartsUnlisted call := by
  cases call with
  | start throws =>
      rcases Option.map_eq_some_iff.mp stepped with ⟨⟨error, after⟩, started, rfl⟩
      cases start_outcome started with
      | refused cause other =>
          refine ⟨fun _ => ?_, fun _ => listed.agree⟩
          intro stopped ioThreads workers
          rcases cause with running | none | none
          · rw [stopped] at running
            cases running
          · exact absurd none ioThreads
          · exact absurd none workers
      | failed stopped ran =>
          have spec := startFrom_spec ran
          refine ⟨fun _ _ _ _ all => absurd (spec.all.mpr all) Bool.false_ne_true, ?_⟩
          intro _ running
          rw [spec.running, stopped] at running
          cases running
      | @succeeded last stopped counts ran =>
          have spec := startFrom_spec ran
          have agree := agree_started_iff listed counts.1 spec
          rw [← spec.listenFds] at agree
          refine ⟨?_, ?_⟩
          · intro agrees _ _ _ _
            rw [← spec.listenFds]
            exact agree.mp (agrees rfl)
          · intro unlisted _
            apply agree.mpr
            rw [spec.listenFds]
            exact unlisted stopped counts.1 counts.2 (spec.all.mp rfl)
  | stop =>
      cases stepped
      exact ⟨fun _ => trivial, fun _ => listed.stop.agree⟩
  | addListenFd fd port =>
      cases stepped
      exact ⟨fun _ => trivial, fun _ => (listed.addListenFd fd port).agree⟩
  | removeListenFd fd =>
      cases stepped
      exact ⟨fun _ => trivial, fun _ => (listed.removeListenFd fd).agree⟩

theorem listed_step (listed : center.Listed) (unlisted : center.StartsUnlisted call)
    (stepped : center.step call = some next) : next.Listed := by
  have agree := (agree_step_iff listed stepped).mpr unlisted
  cases call with
  | start throws =>
      rcases Option.map_eq_some_iff.mp stepped with ⟨⟨error, after⟩, started, rfl⟩
      cases start_outcome started with
      | refused cause other => exact listed
      | failed stopped ran =>
          rcases listed.startedFrom (startFrom_spec ran) with ⟨nodup, tidy, within⟩
          exact ⟨agree, nodup, tidy, within⟩
      | succeeded stopped counts ran =>
          rcases listed.startedFrom (startFrom_spec ran) with ⟨nodup, tidy, within⟩
          exact ⟨agree, nodup, tidy, within⟩
  | stop =>
      cases stepped
      exact listed.stop
  | addListenFd fd port =>
      cases stepped
      exact listed.addListenFd fd port
  | removeListenFd fd =>
      cases stepped
      exact listed.removeListenFd fd

theorem listed_construct (ioThreadCount workerThreadCount : ℕ) :
    (construct ioThreadCount workerThreadCount).Listed := by
  refine ⟨?_, List.nodup_nil, ?_, ?_⟩
  · intro running
    cases running
  · intro thread isIn
    cases isIn
  · intro thread isIn
    cases isIn

/-- For every sequence of calls, wherever `start` fails: the IO threads of a running center listen
on the descriptors of the list after each call, just if every `start` that succeeds finds the list
empty. -/
theorem listensAgree_iff {ioThreadCount workerThreadCount : ℕ} {calls : List MsgCenterCall}
    {final : MsgCenterLife}
    (ran : Interleaving.run step (construct ioThreadCount workerThreadCount) calls = some final) :
    Interleaving.Throughout step ListensAgree (construct ioThreadCount workerThreadCount) calls ↔
      Interleaving.Along step StartsUnlisted (construct ioThreadCount workerThreadCount) calls :=
  Interleaving.throughout_iff_along_of_run agree_step_iff listed_step
    (listed_construct ioThreadCount workerThreadCount) ran

/-- A first `start` that gets no thread, a second one, and a descriptor that comes and goes. -/
def startsThenListens : List MsgCenterCall :=
  [.start fun point => point = .worker 0, .start fun _ => false, .addListenFd 5 80,
    .removeListenFd 5, .stop]

theorem listensAgree_iff_startsThenListens :
    ∃ final, Interleaving.run step (construct 1 1) startsThenListens = some final ∧
      (Interleaving.Throughout step ListensAgree (construct 1 1) startsThenListens ↔
        Interleaving.Along step StartsUnlisted (construct 1 1) startsThenListens) := by
  have seen : (Interleaving.run step (construct 1 1) startsThenListens).isSome = true := by
    decide +kernel
  rcases Option.isSome_iff_exists.mp seen with ⟨final, ran⟩
  exact ⟨final, ran, listensAgree_iff ran⟩

/-- The list has a descriptor when the center is started. -/
def listensThenStarts : List MsgCenterCall :=
  [.addListenFd 5 80, .start fun _ => false]

theorem listensAgree_fails :
    ¬∀ (ioThreadCount workerThreadCount : ℕ) (calls : List MsgCenterCall) (final : MsgCenterLife),
      Interleaving.run step (construct ioThreadCount workerThreadCount) calls = some final →
        Interleaving.Throughout step ListensAgree
          (construct ioThreadCount workerThreadCount) calls := by
  intro alwaysAgree
  have seen : (Interleaving.run step (construct 1 1) listensThenStarts).map (fun center =>
      (center.running, center.tables.map IoThread.listenFds, center.listenFds)) =
        some (true, [[]], [5]) := by
    decide +kernel
  rcases Option.map_eq_some_iff.mp seen with ⟨final, ran, fields⟩
  simp only [Prod.mk.injEq] at fields
  rcases fields with ⟨running, tables, fds⟩
  have agree : final.ListensAgree :=
    Interleaving.invariant_along (fun _ good stepped => good _ stepped)
      (listed_construct 1 1).agree (alwaysAgree 1 1 listensThenStarts final ran) ran
  rcases List.map_eq_singleton_iff.mp tables with ⟨thread, only, empty⟩
  have isIn : thread ∈ final.tables := by
    rw [only]
    exact List.mem_singleton_self thread
  have listens := (agree running thread isIn).1 5
  rw [empty, fds] at listens
  simp at listens

end MsgCenterLife

end HttpsServerSim
