import HttpsServerSim.Server.ServerCalls

/-!
# The end of a cycle

`cleanup_resources` does its work once, until `resources_cleaned_` is reset. `cleanup` resets
it, `stop` does not. So the first `stop` of a server stops its message center; if the server
is started again, without a `cleanup` in between, the next `stop` leaves the message center
running and both flags set, and a `cleanup` of the running server leaves `running_` set.
-/

namespace HttpsServerSim

namespace Server

variable {server next : Server} {call : ServerCall} {error : ServerError}

/-- A stopped server has its flags cleared, and its message center has no threads. -/
def ReallyStopped (server : Server) : Prop :=
  server.status = .stopped → server.running = false ∧ server.gracefulShutdown = false ∧
    ∀ center, server.msgCenter = some center → center.running = false ∧ center.ioThreads = []

/-- A running server has its flag set, and its message center runs. -/
def ReallyRuns (server : Server) : Prop :=
  server.status = .running → server.running = true ∧
    ∀ center, server.msgCenter = some center → center.running = true

/-- The condition on the calls: a running server is stopped or cleaned up only when its resources
have not been cleaned before. -/
def TearsDown (server : Server) (call : ServerCall) : Prop :=
  call = .stop ∨ call = .cleanup → server.status = .running → server.resourcesCleaned = false

/-- The flags after `cleanup`. -/
theorem cleanup_flags (server : Server) :
    (server.resourcesCleaned = true → server.cleanup.running = server.running) ∧
      (server.resourcesCleaned = false ∨
          (server.running = false ∧ server.gracefulShutdown = false) →
        server.cleanup.running = false ∧ server.cleanup.gracefulShutdown = false) := by
  unfold cleanup cleanupResources rollbackListenSockets closeListenFds
  dsimp only
  split
  · rename_i cleaned
    refine ⟨fun _ => rfl, ?_⟩
    rintro (notCleaned | flags)
    · rw [cleaned] at notCleaned
      cases notCleaned
    · exact flags
  · rename_i notCleaned
    exact ⟨fun cleaned => absurd cleaned notCleaned, fun _ => ⟨rfl, rfl⟩⟩

/-- A server after `cleanup` is stopped if its flags are. -/
theorem reallyStopped_cleanup
    (flags : server.resourcesCleaned = false ∨
      (server.running = false ∧ server.gracefulShutdown = false)) :
    server.cleanup.ReallyStopped := by
  rcases server.cleanup_flags.2 flags with ⟨running, graceful⟩
  intro _
  refine ⟨running, graceful, ?_⟩
  intro center found
  rw [server.cleanup_spec.2.1] at found
  cases found

/-- The loop of `stop_accepting` does not stop the message center. -/
theorem running_removeAll {fds : List ℤ} (center : ListenCenter) :
    (fds.foldl (fun center fd => if fd ≥ 0 then (center.removeListenFd fd).2 else center)
      center).running = center.running := by
  induction fds generalizing center with
  | nil => rfl
  | cons fd rest ih =>
      rw [List.foldl_cons, ih]
      split
      · rfl
      · rfl

/-- The flags and the message center after `stop`. -/
theorem gracefulShutdown_flags {center : ListenCenter} (found : server.msgCenter = some center) :
    (server.resourcesCleaned = true → server.gracefulShutdownSteps.gracefulShutdown = true) ∧
      (server.resourcesCleaned = false →
        server.gracefulShutdownSteps.running = false ∧
          server.gracefulShutdownSteps.gracefulShutdown = false ∧
            ∃ before : ListenCenter, before.running = center.running ∧
              server.gracefulShutdownSteps.msgCenter = some before.stop) := by
  unfold gracefulShutdownSteps stopAccepting cleanupResources closeListenFds
  simp only [found]
  split
  · rename_i cleaned
    refine ⟨fun _ => rfl, ?_⟩
    intro notCleaned
    rw [cleaned] at notCleaned
    cases notCleaned
  · rename_i notCleaned
    refine ⟨fun cleaned => absurd cleaned notCleaned, ?_⟩
    intro _
    exact ⟨rfl, rfl, _, running_removeAll _, rfl⟩

/-- What holds between the calls that meet the condition. -/
structure Consistent (server : Server) : Prop where
  sane : server.Sane
  stopped : server.ReallyStopped
  runs : server.ReallyRuns

theorem Consistent.performs (consistent : server.Consistent) (condition : server.TearsDown call)
    (performs : server.Performs call error next) : next.Consistent := by
  refine ⟨consistent.sane.performs performs, ?_, ?_⟩
  · cases performs with
    | refused => exact consistent.stopped
    | initFails stopped failed owns running graceful =>
        rcases consistent.stopped stopped with ⟨notRunning, notGraceful, _⟩
        apply reallyStopped_cleanup
        rw [running, graceful]
        exact Or.inr ⟨notRunning, notGraceful⟩
    | initSucceeds stopped extension owns =>
        rcases consistent.stopped stopped with ⟨notRunning, notGraceful, _⟩
        rintro _
        refine ⟨notRunning, notGraceful, ?_⟩
        rintro _ ⟨⟩
        exact ⟨rfl, rfl⟩
    | startFails stopped =>
        rcases consistent.stopped stopped with ⟨_, notGraceful, _⟩
        exact reallyStopped_cleanup (Or.inr ⟨rfl, notGraceful⟩)
    | startSucceeds stopped configured running listed known => exact nofun
    | stops running =>
        rcases consistent.sane.present running with ⟨center, found⟩
        have isRunning := (consistent.runs running).2 center found
        rcases (gracefulShutdown_flags found).2 (condition (Or.inl rfl) running) with
          ⟨notRunning, notGraceful, before, same, left⟩
        intro _
        refine ⟨notRunning, notGraceful, ?_⟩
        intro after isAfter
        rw [left] at isAfter
        cases isAfter
        have stops : before.stop = { before with running := false, ioThreads := [] } := by
          apply if_pos
          rw [same]
          exact isRunning
        rw [stops]
        exact ⟨rfl, rfl⟩
    | cleansUp =>
        apply reallyStopped_cleanup
        rcases consistent.sane.status with stopped | running
        · rcases consistent.stopped stopped with ⟨notRunning, notGraceful, _⟩
          exact Or.inr ⟨notRunning, notGraceful⟩
        · exact Or.inl (condition (Or.inr rfl) running)
  · cases performs with
    | refused => exact consistent.runs
    | startSucceeds stopped configured running listed known =>
        intro _
        refine ⟨rfl, ?_⟩
        rintro _ ⟨⟩
        exact running
    | initFails | initSucceeds | startFails | stops | cleansUp => exact nofun

/-- A call that does not meet the condition leaves a flag set. -/
theorem reallyStopped_iff_tearsDown (consistent : server.Consistent) :
    (∀ next, server.step call = some next → next.ReallyStopped) ↔ server.TearsDown call := by
  constructor
  · intro after isTeardown running
    apply Bool.eq_false_iff.mpr
    intro cleaned
    rcases isTeardown with rfl | rfl
    · rcases consistent.sane.present running with ⟨center, found⟩
      have graceful := (gracefulShutdown_flags found).1 cleaned
      rw [(after _ (step_stop running) rfl).2.1] at graceful
      cases graceful
    · have flag := server.cleanup_flags.1 cleaned
      rw [(after _ rfl rfl).1, (consistent.runs running).1] at flag
      cases flag
  · intro condition next stepped
    rcases performs_of_step consistent.sane stepped with ⟨error, performs⟩
    exact (consistent.performs condition performs).stopped

/-- After each of a number of calls a stopped server has really stopped, if and only if each `stop`
and each `cleanup` among them that finds the server running finds its resources not cleaned. -/
theorem reallyStopped_iff (calls : List ServerCall) :
    Interleaving.Throughout step ReallyStopped construct calls ↔
      Interleaving.Along step TearsDown construct calls := by
  have initially : construct.Consistent := by
    refine ⟨sane_construct, ?_, nofun⟩
    intro _
    exact ⟨rfl, rfl, nofun⟩
  have agrees : ∀ {server : Server} {call : ServerCall}, server.Consistent →
      ((∀ next, server.step call = some next → next.ReallyStopped) ↔ server.TearsDown call) :=
    reallyStopped_iff_tearsDown
  have kept : ∀ {server : Server} {call : ServerCall} {next : Server}, server.Consistent →
      server.TearsDown call → server.step call = some next → next.Consistent := by
    intro server call next consistent condition stepped
    rcases performs_of_step consistent.sane stepped with ⟨error, performs⟩
    exact consistent.performs condition performs
  exact Interleaving.throughout_iff_along agrees kept initially calls

/-- A server that is started again after its `stop`, and stopped again. -/
def stopsTwice : List ServerCall :=
  [.init (.loaded [localEntry 80]) allSucceed, .start true, .stop, .start true, .stop]

theorem reallyStopped_fails :
    ∃ server center, construct.run stopsTwice = some server ∧ server.status = .stopped ∧
      server.gracefulShutdown = true ∧ server.msgCenter = some center ∧ center.running = true ∧
        ¬server.ReallyStopped := by
  have seen : (construct.run stopsTwice).map
      (fun server => (server.status, server.gracefulShutdown,
        server.msgCenter.map fun center => center.running)) =
          some (.stopped, true, some true) := by
    decide +kernel
  rcases Option.map_eq_some_iff.mp seen with ⟨server, ran, fields⟩
  simp only [Prod.mk.injEq] at fields
  rcases fields with ⟨stopped, graceful, runs⟩
  rcases Option.map_eq_some_iff.mp runs with ⟨center, found, running⟩
  refine ⟨server, center, ran, stopped, graceful, found, running, ?_⟩
  intro reallyStopped
  have cleared := (reallyStopped stopped).2.1
  rw [graceful] at cleared
  cases cleared

end Server

end HttpsServerSim
