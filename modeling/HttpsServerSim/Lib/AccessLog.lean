/-!
# Runs that log their accesses

Code that works on memory through pointers, as the list of accesses it makes. A run
that has not ended when its fuel is used up is nothing at all, so that a statement
about a run is at once one about its end.

`Ends` is total correctness with a condition on every single access: the run ends, it
makes allowed accesses only, and its result is as asked for. Its rules follow the
constructs runs are made of.
-/

namespace HttpsServerSim

universe u v w

/-- The accesses of a run and its result; nothing if the fuel is used up before. -/
abbrev LoggedRun (Access : Type u) (Result : Type v) : Type (max u v) :=
  Option (List Access × Result)

namespace LoggedRun

variable {Access : Type u} {Result : Type v} {Final : Type w}

/-- A run that makes no access. -/
def done (result : Result) : LoggedRun Access Result := some ([], result)

/-- An access and a run after it. -/
def access (first : Access) (later : LoggedRun Access Result) : LoggedRun Access Result :=
  later.map fun run => (first :: run.1, run.2)

/-- A run and the one that its result leads to. -/
def andThen (run : LoggedRun Access Result) (next : Result → LoggedRun Access Final) :
    LoggedRun Access Final :=
  match run with
  | none => none
  | some (accesses, result) => (next result).map fun later => (accesses ++ later.1, later.2)

/-- The run ends, makes only allowed accesses, and its result is a good one. -/
def Ends (Allowed : Access → Prop) (Good : Result → Prop) (run : LoggedRun Access Result) : Prop :=
  ∃ accesses result, run = some (accesses, result) ∧
    (∀ access ∈ accesses, Allowed access) ∧ Good result

/-- A run whose accesses have other names to its caller. -/
def relabel {Other : Type w} (name : Access → Other) (run : LoggedRun Access Result) :
    LoggedRun Other Result :=
  run.map fun run => (run.1.map name, run.2)

variable {Allowed : Access → Prop} {Good : Result → Prop} {GoodFinal : Final → Prop}

theorem Ends.done {result : Result} (good : Good result) :
    Ends Allowed Good (LoggedRun.done result : LoggedRun Access Result) := by
  refine ⟨[], result, rfl, ?_, good⟩
  intro access member
  cases member

theorem Ends.access {first : Access} {later : LoggedRun Access Result} (allowed : Allowed first)
    (ends : Ends Allowed Good later) : Ends Allowed Good (LoggedRun.access first later) := by
  rcases ends with ⟨accesses, result, rfl, all, good⟩
  refine ⟨first :: accesses, result, rfl, ?_, good⟩
  intro access member
  rcases List.mem_cons.mp member with rfl | member
  · exact allowed
  · exact all access member

theorem Ends.andThen {run : LoggedRun Access Result} {next : Result → LoggedRun Access Final}
    (ends : Ends Allowed Good run)
    (later : ∀ result, Good result → Ends Allowed GoodFinal (next result)) :
    Ends Allowed GoodFinal (run.andThen next) := by
  rcases ends with ⟨accesses, result, rfl, all, good⟩
  rcases later result good with ⟨more, final, ran, allMore, goodFinal⟩
  refine ⟨accesses ++ more, final, ?_, ?_, goodFinal⟩
  · simp only [LoggedRun.andThen, ran, Option.map_some]
  · intro access member
    rcases List.mem_append.mp member with member | member
    · exact all access member
    · exact allMore access member

/-- A run that ends as asked for also ends so where less is asked for. -/
theorem Ends.imp {Permitted : Access → Prop} {GoodToo : Result → Prop}
    {run : LoggedRun Access Result} (ends : Ends Allowed Good run)
    (permitted : ∀ access, Allowed access → Permitted access)
    (good : ∀ result, Good result → GoodToo result) : Ends Permitted GoodToo run := by
  rcases ends with ⟨accesses, result, ran, all, isGood⟩
  exact ⟨accesses, result, ran, fun access member => permitted access (all access member),
    good result isGood⟩

theorem Ends.relabel {Other : Type w} {name : Access → Other} {Permitted : Other → Prop}
    {run : LoggedRun Access Result} (ends : Ends Allowed Good run)
    (permitted : ∀ access, Allowed access → Permitted (name access)) :
    Ends Permitted Good (run.relabel name) := by
  rcases ends with ⟨accesses, result, rfl, all, good⟩
  refine ⟨accesses.map name, result, rfl, ?_, good⟩
  intro access member
  rcases List.mem_map.mp member with ⟨original, isMember, rfl⟩
  exact permitted original (all original isMember)

end LoggedRun

end HttpsServerSim
