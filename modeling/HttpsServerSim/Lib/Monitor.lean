import HttpsServerSim.Lib.Interleaving
import Mathlib.Logic.Function.Basic

/-!
# Monitors that call back

A monitor is an object whose state is guarded by a mutex. A call of it is a program that takes
and releases the mutex, reads and replaces the state, and may run code of its user. That code may
call the monitor again before it returns, so each thread has a stack of calls; the topmost one
moves.

The accesses of all calls to the state are one sequence. If every program accesses the state in
the same way on the same call, then the state is the effect of this sequence, and each call has
seen the effect of the calls before it. If every program keeps the discipline of the mutex, then a
thread never runs the user's code while it holds the mutex.
-/

namespace HttpsServerSim

namespace Monitor

universe u

inductive Program (State Use Result Reply : Type u) where
  | acquire (next : Program State Use Result Reply)
  | access (update : State → State) (next : State → Program State Use Result Reply)
  | release (next : Program State Use Result Reply)
  | use (code : Use) (next : Result → Program State Use Result Reply)
  | done (reply : Reply)

/-- What a call has done, an access with its place in the sequence of all accesses. -/
inductive Move (State Use Result : Type u) where
  | acquired
  | accessed (position : ℕ) (seen : State)
  | released
  | used (code : Use) (result : Result)

/-- A call on a stack. -/
structure Activation (Call State Use Result Reply : Type u) where
  serial : ℕ
  call : Call
  program : Program State Use Result Reply
  trace : List (Move State Use Result)

/-- A call that has returned. -/
structure Return (Call State Use Result Reply : Type u) where
  serial : ℕ
  call : Call
  trace : List (Move State Use Result)
  reply : Reply

structure System (Thread Call State Use Result Reply : Type u) where
  state : State
  holder : Option Thread
  callStacks : Thread → List (Activation Call State Use Result Reply)
  /-- The serial number of the next call. -/
  started : ℕ
  /-- The calls that have accessed the state, in turn. -/
  accesses : List (ℕ × Call)
  returned : List (Return Call State Use Result Reply)

inductive Action (Thread Call Result : Type u) where
  | call (thread : Thread) (call : Call)
  | move (thread : Thread)
  | userReturns (thread : Thread) (result : Result)

variable {Thread Call State Use Result Reply : Type u}

namespace Program

/-- The mutex is taken and released in turn, the state is accessed under it, and the user's code
runs without it. -/
def Disciplined : Bool → Program State Use Result Reply → Prop
  | false, acquire next => next.Disciplined true
  | true, access _ next => ∀ seen, (next seen).Disciplined true
  | true, release next => next.Disciplined false
  | false, use _ next => ∀ result, (next result).Disciplined false
  | false, done _ => True
  | _, _ => False

/-- Every access is the given one. -/
def Applies (effect : State → State) : Program State Use Result Reply → Prop
  | acquire next => next.Applies effect
  | access update next => update = effect ∧ ∀ seen, (next seen).Applies effect
  | release next => next.Applies effect
  | use _ next => ∀ result, (next result).Applies effect
  | done _ => True

/-- The user's code runs. -/
def Uses : Program State Use Result Reply → Prop
  | use _ _ => True
  | _ => False

instance : DecidablePred (Uses : Program State Use Result Reply → Prop)
  | acquire _ | access _ _ | release _ | done _ => isFalse id
  | use _ _ => isTrue trivial

end Program

/-- A program has done these moves and goes on as another one. -/
inductive Follows : Program State Use Result Reply → List (Move State Use Result) →
    Program State Use Result Reply → Prop where
  | start (program : Program State Use Result Reply) : Follows program [] program
  | acquired {next rest : Program State Use Result Reply} {trace : List (Move State Use Result)}
      (later : Follows next trace rest) : Follows (.acquire next) (.acquired :: trace) rest
  | accessed {update : State → State} {next : State → Program State Use Result Reply}
      {rest : Program State Use Result Reply} {trace : List (Move State Use Result)}
      (position : ℕ) {seen : State} (later : Follows (next seen) trace rest) :
      Follows (.access update next) (.accessed position seen :: trace) rest
  | released {next rest : Program State Use Result Reply} {trace : List (Move State Use Result)}
      (later : Follows next trace rest) : Follows (.release next) (.released :: trace) rest
  | used {code : Use} {next : Result → Program State Use Result Reply}
      {rest : Program State Use Result Reply} {trace : List (Move State Use Result)}
      {result : Result} (later : Follows (next result) trace rest) :
      Follows (.use code next) (.used code result :: trace) rest

theorem Follows.trans {first second third : Program State Use Result Reply}
    {earlier later : List (Move State Use Result)} (before : Follows first earlier second)
    (after : Follows second later third) : Follows first (earlier ++ later) third := by
  induction before with
  | start => exact after
  | acquired _ ih => exact .acquired (ih after)
  | accessed position _ ih => exact .accessed position (ih after)
  | released _ ih => exact .released (ih after)
  | used _ ih => exact .used (ih after)

/-- The user's code runs, or the call returns. -/
def Program.Outside : Program State Use Result Reply → Prop
  | use _ _ | done _ => True
  | _ => False

/-- The user's code that a call has run. -/
def usesOf : List (Move State Use Result) → List Use
  | [] => []
  | .used code _ :: trace => code :: usesOf trace
  | _ :: trace => usesOf trace

/-- The user's code that a call has run, and what came of it. -/
def runsOf : List (Move State Use Result) → List (Use × Result)
  | [] => []
  | .used code result :: trace => (code, result) :: runsOf trace
  | _ :: trace => runsOf trace

theorem usesOf_eq (trace : List (Move State Use Result)) :
    usesOf trace = (runsOf trace).map Prod.fst := by
  induction trace with
  | nil => rfl
  | cons move trace ih =>
      cases move with
      | used code result => exact congrArg (code :: ·) ih
      | acquired | accessed _ _ | released => exact ih

/-- A call whose program starts with a critical section of one access. -/
theorem Follows.of_section {update : State → State} {next : State → Program State Use Result Reply}
    {trace : List (Move State Use Result)} {program : Program State Use Result Reply}
    (follows : Follows (.acquire (.access update fun seen => .release (next seen))) trace program)
    (outside : program.Outside) :
    ∃ position seen later, trace = .acquired :: .accessed position seen :: .released :: later ∧
      Follows (next seen) later program := by
  cases follows with
  | start => exact outside.elim
  | acquired follows =>
      cases follows with
      | start => exact outside.elim
      | accessed position follows =>
          cases follows with
          | start => exact outside.elim
          | released follows => exact ⟨position, _, _, rfl, follows⟩

theorem Follows.of_done {reply : Reply} {trace : List (Move State Use Result)}
    {program : Program State Use Result Reply} (follows : Follows (.done reply) trace program) :
    trace = [] ∧ program = .done reply := by
  cases follows with
  | start => exact ⟨rfl, rfl⟩

/-- A call that runs the user's code and then returns. -/
theorem Follows.of_last_use {code : Use} {next : Result → Program State Use Result Reply}
    {answer : Result → Reply} {trace : List (Move State Use Result)}
    {program : Program State Use Result Reply}
    (answers : ∀ result, next result = .done (answer result))
    (follows : Follows (.use code next) trace program) :
    trace = [] ∧ program = .use code next ∨
      ∃ result, trace = [.used code result] ∧ program = .done (answer result) := by
  cases follows with
  | start => exact Or.inl ⟨rfl, rfl⟩
  | @used _ _ _ _ result later =>
      rw [answers result] at later
      rcases later.of_done with ⟨rfl, rfl⟩
      exact Or.inr ⟨result, rfl, rfl⟩

section Steps

variable [DecidableEq Thread] (body : Call → Program State Use Result Reply)

def initial (state : State) : System Thread Call State Use Result Reply where
  state := state
  holder := none
  callStacks := fun _ => []
  started := 0
  accesses := []
  returned := []

namespace System

/-- The topmost call of a thread goes on. -/
def advance (system : System Thread Call State Use Result Reply) (thread : Thread)
    (top : Activation Call State Use Result Reply)
    (below : List (Activation Call State Use Result Reply)) (move : Move State Use Result)
    (program : Program State Use Result Reply) : System Thread Call State Use Result Reply :=
  { system with
    callStacks := Function.update system.callStacks thread
      ({ top with program := program, trace := top.trace ++ [move] } :: below) }

/-- A thread calls the monitor from outside it or from the user's code. -/
def MayCall (system : System Thread Call State Use Result Reply) (thread : Thread) : Prop :=
  ∀ top ∈ (system.callStacks thread).head?, top.program.Uses

instance (system : System Thread Call State Use Result Reply) :
    DecidablePred system.MayCall := fun thread =>
  inferInstanceAs (Decidable (∀ top ∈ (system.callStacks thread).head?, top.program.Uses))

end System

def step (system : System Thread Call State Use Result Reply) :
    Action Thread Call Result → Option (System Thread Call State Use Result Reply)
  | .call thread call =>
      if system.MayCall thread then
        some { system with
          callStacks := Function.update system.callStacks thread
            (⟨system.started, call, body call, []⟩ :: system.callStacks thread)
          started := system.started + 1 }
      else none
  | .move thread =>
      match system.callStacks thread with
      | [] => none
      | top :: below =>
          match top.program with
          | .acquire next =>
              if system.holder.isNone then
                some { system.advance thread top below .acquired next with holder := some thread }
              else none
          | .access update next =>
              some { system.advance thread top below
                  (.accessed system.accesses.length system.state) (next system.state) with
                state := update system.state
                accesses := system.accesses ++ [(top.serial, top.call)] }
          | .release next =>
              some { system.advance thread top below .released next with holder := none }
          | .use _ _ => none
          | .done reply =>
              some { system with
                callStacks := Function.update system.callStacks thread below
                returned := system.returned ++ [⟨top.serial, top.call, top.trace, reply⟩] }
  | .userReturns thread result =>
      match system.callStacks thread with
      | [] => none
      | top :: below =>
          match top.program with
          | .use code next =>
              some (system.advance thread top below (.used code result) (next result))
          | _ => none

/-- What one action does. -/
inductive Transition (system : System Thread Call State Use Result Reply) :
    Action Thread Call Result → System Thread Call State Use Result Reply → Prop where
  | call {thread : Thread} {call : Call} (may : system.MayCall thread) :
      Transition system (.call thread call) { system with
        callStacks := Function.update system.callStacks thread
          (⟨system.started, call, body call, []⟩ :: system.callStacks thread)
        started := system.started + 1 }
  | acquire {thread : Thread} {top : Activation Call State Use Result Reply}
      {below : List (Activation Call State Use Result Reply)}
      {next : Program State Use Result Reply} (stack : system.callStacks thread = top :: below)
      (place : top.program = .acquire next) (free : system.holder = none) :
      Transition system (.move thread)
        { system.advance thread top below .acquired next with holder := some thread }
  | access {thread : Thread} {top : Activation Call State Use Result Reply}
      {below : List (Activation Call State Use Result Reply)} {update : State → State}
      {next : State → Program State Use Result Reply}
      (stack : system.callStacks thread = top :: below)
      (place : top.program = .access update next) :
      Transition system (.move thread)
        { system.advance thread top below (.accessed system.accesses.length system.state)
            (next system.state) with
          state := update system.state
          accesses := system.accesses ++ [(top.serial, top.call)] }
  | release {thread : Thread} {top : Activation Call State Use Result Reply}
      {below : List (Activation Call State Use Result Reply)}
      {next : Program State Use Result Reply} (stack : system.callStacks thread = top :: below)
      (place : top.program = .release next) :
      Transition system (.move thread)
        { system.advance thread top below .released next with holder := none }
  | done {thread : Thread} {top : Activation Call State Use Result Reply}
      {below : List (Activation Call State Use Result Reply)} {reply : Reply}
      (stack : system.callStacks thread = top :: below) (place : top.program = .done reply) :
      Transition system (.move thread) { system with
        callStacks := Function.update system.callStacks thread below
        returned := system.returned ++ [⟨top.serial, top.call, top.trace, reply⟩] }
  | userReturns {thread : Thread} {top : Activation Call State Use Result Reply}
      {below : List (Activation Call State Use Result Reply)} {code : Use}
      {next : Result → Program State Use Result Reply} {result : Result}
      (stack : system.callStacks thread = top :: below) (place : top.program = .use code next) :
      Transition system (.userReturns thread result)
        (system.advance thread top below (.used code result) (next result))

variable {body}

theorem step_transition {system next : System Thread Call State Use Result Reply}
    {action : Action Thread Call Result} (stepped : step body system action = some next) :
    Transition body system action next := by
  cases action with
  | call thread call =>
      simp only [step] at stepped
      split at stepped
      next may =>
        cases stepped
        exact .call may
      next => cases stepped
  | move thread =>
      simp only [step] at stepped
      cases stack : system.callStacks thread with
      | nil => simp [stack] at stepped
      | cons top below =>
          rw [stack] at stepped
          cases place : top.program with
          | acquire rest =>
              simp only [place, Option.isNone_iff_eq_none] at stepped
              split at stepped
              next free =>
                cases stepped
                exact .acquire stack place free
              next => cases stepped
          | access update rest =>
              simp only [place] at stepped
              cases stepped
              exact .access stack place
          | release rest =>
              simp only [place] at stepped
              cases stepped
              exact .release stack place
          | use code rest => simp [place] at stepped
          | done reply =>
              simp only [place] at stepped
              cases stepped
              exact .done stack place
  | userReturns thread result =>
      simp only [step] at stepped
      cases stack : system.callStacks thread with
      | nil => simp [stack] at stepped
      | cons top below =>
          rw [stack] at stepped
          cases place : top.program with
          | use code rest =>
              simp only [place] at stepped
              cases stepped
              exact .userReturns stack place
          | acquire _ | access _ _ | release _ | done _ => simp [place] at stepped

/-- What holds of the calls of all stacks, when one stack changes. -/
theorem forall_update {P : Activation Call State Use Result Reply → Prop}
    {callStacks : Thread → List (Activation Call State Use Result Reply)} {thread : Thread}
    {stack : List (Activation Call State Use Result Reply)}
    (others : ∀ other, ∀ running ∈ callStacks other, P running)
    (own : ∀ running ∈ stack, P running) :
    ∀ other, ∀ running ∈ Function.update callStacks thread stack other, P running := by
  intro other running isRunning
  by_cases same : other = thread
  · subst same
    rw [Function.update_self] at isRunning
    exact own running isRunning
  · rw [Function.update_of_ne same] at isRunning
    exact others other running isRunning

end Steps

/-! ## The sequence of accesses -/

section History

/-- The state after some calls. -/
def stateAfter (effect : Call → State → State) (state : State) (calls : List Call) : State :=
  calls.foldl (fun state call => effect call state) state

theorem stateAfter_snoc (effect : Call → State → State) (state : State) (calls : List Call)
    (call : Call) :
    stateAfter effect state (calls ++ [call]) = effect call (stateAfter effect state calls) := by
  simp [stateAfter]

/-- Each access of a call stands in the sequence, and saw the state after those before it. -/
def Recorded (effect : Call → State → State) (state : State) (accesses : List (ℕ × Call))
    (serial : ℕ) (call : Call) (trace : List (Move State Use Result)) : Prop :=
  ∀ position seen, Move.accessed position seen ∈ trace →
    accesses[position]? = some (serial, call) ∧
      seen = stateAfter effect state ((accesses.take position).map Prod.snd)

variable {effect : Call → State → State} {state : State} {accesses : List (ℕ × Call)}
  {serial : ℕ} {call : Call} {trace : List (Move State Use Result)} {move : Move State Use Result}

theorem Recorded.append (recorded : Recorded effect state accesses serial call trace)
    (more : List (ℕ × Call)) :
    Recorded effect state (accesses ++ more) serial call trace := by
  intro position seen accessed
  rcases recorded position seen accessed with ⟨place, saw⟩
  rcases List.getElem?_eq_some_iff.mp place with ⟨within, _⟩
  refine ⟨?_, ?_⟩
  · rw [List.getElem?_append_left within]
    exact place
  · rw [List.take_append_of_le_length (Nat.le_of_lt within)]
    exact saw

theorem Recorded.snoc (recorded : Recorded effect state accesses serial call trace)
    (last : Recorded effect state accesses serial call [move]) :
    Recorded effect state accesses serial call (trace ++ [move]) := by
  intro position seen accessed
  rcases List.mem_append.mp accessed with earlier | latest
  · exact recorded position seen earlier
  · exact last position seen latest

theorem Recorded.of_silent (silent : ∀ position seen, move ≠ .accessed position seen) :
    Recorded effect state accesses serial call [move] := by
  intro position seen accessed
  exact absurd (List.mem_singleton.mp accessed).symm (silent position seen)

/-- A call that has come this far. -/
structure Runs (body : Call → Program State Use Result Reply) (effect : Call → State → State)
    (state : State) (accesses : List (ℕ × Call))
    (running : Activation Call State Use Result Reply) : Prop where
  follows : Follows (body running.call) running.trace running.program
  recorded : Recorded effect state accesses running.serial running.call running.trace
  applies : running.program.Applies (effect running.call)

/-- The calls that have accessed the state before a place in the sequence. -/
def callsBefore (accesses : List (ℕ × Call)) (position : ℕ) : List Call :=
  (accesses.take position).map Prod.snd

/-- The call has accessed the state, at this place in the sequence. -/
def AccessedAt (accesses : List (ℕ × Call)) (serial : ℕ) (call : Call)
    (trace : List (Move State Use Result)) (position : ℕ) : Prop :=
  accesses[position]? = some (serial, call) ∧ ∃ seen, Move.accessed position seen ∈ trace

theorem callsBefore_succ {position : ℕ} (place : accesses[position]? = some (serial, call)) :
    callsBefore accesses (position + 1) = callsBefore accesses position ++ [call] := by
  simp [callsBefore, List.take_add_one, place]

/-- A call whose program starts with a critical section of one access: what it has done since
follows from the state after the calls before it. -/
theorem Recorded.of_section {update : State → State} {next : State → Program State Use Result Reply}
    {program : Program State Use Result Reply}
    (recorded : Recorded effect state accesses serial call trace)
    (follows : Follows (.acquire (.access update fun seen => .release (next seen))) trace program)
    (outside : program.Outside) :
    ∃ position later, AccessedAt accesses serial call trace position ∧
      (∀ other, AccessedAt accesses serial call trace other →
        other = position ∨ ∃ seen, Move.accessed other seen ∈ later) ∧
      runsOf trace = runsOf later ∧
      Follows (next (stateAfter effect state (callsBefore accesses position))) later program := by
  rcases follows.of_section outside with ⟨position, seen, later, rfl, continued⟩
  rcases recorded position seen (by simp) with ⟨place, saw⟩
  refine ⟨position, later, ⟨place, seen, by simp⟩, ?_, rfl, ?_⟩
  · rintro other ⟨_, otherSeen, accessed⟩
    simp only [List.mem_cons, reduceCtorEq, Move.accessed.injEq, false_or] at accessed
    rcases accessed with ⟨same, _⟩ | isLater
    · exact Or.inl same
    · exact Or.inr ⟨otherSeen, isLater⟩
  · rw [callsBefore, ← saw]
    exact continued

variable {body : Call → Program State Use Result Reply}
  {running : Activation Call State Use Result Reply} {program : Program State Use Result Reply}

theorem Runs.append (runs : Runs body effect state accesses running)
    (more : List (ℕ × Call)) : Runs body effect state (accesses ++ more) running :=
  ⟨runs.follows, runs.recorded.append more, runs.applies⟩

theorem Runs.advance (runs : Runs body effect state accesses running)
    (moved : Follows running.program [move] program)
    (recorded : Recorded effect state accesses running.serial running.call [move])
    (applies : program.Applies (effect running.call)) :
    Runs body effect state accesses
      { running with program := program, trace := running.trace ++ [move] } :=
  ⟨runs.follows.trans moved, runs.recorded.snoc recorded, applies⟩

/-- The state is the effect of the accesses, and each call has done what its program says. -/
structure Accounted (body : Call → Program State Use Result Reply)
    (effect : Call → State → State) (state : State)
    (system : System Thread Call State Use Result Reply) : Prop where
  reached : system.state = stateAfter effect state (system.accesses.map Prod.snd)
  running : ∀ thread, ∀ running ∈ system.callStacks thread,
    Runs body effect state system.accesses running
  returned : ∀ call ∈ system.returned,
    Follows (body call.call) call.trace (.done call.reply) ∧
      Recorded effect state system.accesses call.serial call.call call.trace

variable [DecidableEq Thread] {system next : System Thread Call State Use Result Reply}
  {action : Action Thread Call Result}

/-- A call on top of its stack goes on, and changes neither the state nor the sequence. -/
theorem Accounted.advance (accounted : Accounted body effect state system) {thread : Thread}
    {below : List (Activation Call State Use Result Reply)}
    (stack : system.callStacks thread = running :: below)
    (moved : Follows running.program [move] program)
    (silent : ∀ position seen, move ≠ .accessed position seen)
    (applies : program.Applies (effect running.call)) :
    Accounted body effect state (system.advance thread running below move program) := by
  have stacked : ∀ other ∈ running :: below, Runs body effect state system.accesses other := by
    rw [← stack]
    exact accounted.running thread
  refine ⟨accounted.reached, ?_, accounted.returned⟩
  apply forall_update accounted.running
  intro other isRunning
  rcases List.mem_cons.mp isRunning with top | isBelow
  · rw [top]
    exact (stacked running List.mem_cons_self).advance moved (.of_silent silent) applies
  · exact stacked other (List.mem_cons_of_mem _ isBelow)

theorem Accounted.step (bodies : ∀ call, (body call).Applies (effect call))
    (accounted : Accounted body effect state system)
    (stepped : Monitor.step body system action = some next) :
    Accounted body effect state next := by
  have top_applies : ∀ {thread top below}, system.callStacks thread = top :: below →
      top.program.Applies (effect top.call) := by
    intro thread top below stack
    exact (accounted.running thread top (stack ▸ List.mem_cons_self)).applies
  cases step_transition stepped with
  | @call thread call may =>
      refine ⟨accounted.reached, ?_, accounted.returned⟩
      apply forall_update accounted.running
      intro other isRunning
      rcases List.mem_cons.mp isRunning with top | isBelow
      · rw [top]
        exact ⟨.start _, fun _ _ accessed => absurd accessed List.not_mem_nil, bodies call⟩
      · exact accounted.running thread other isBelow
  | @acquire thread top below rest stack place free =>
      have applies := top_applies stack
      rw [place] at applies
      have moved : Follows top.program [.acquired] rest := place ▸ .acquired (.start rest)
      have advanced := accounted.advance stack moved (by simp) applies
      exact ⟨advanced.reached, advanced.running, advanced.returned⟩
  | @access thread top below update rest stack place =>
      have applies := top_applies stack
      rw [place] at applies
      rcases applies with ⟨same, later⟩
      have runs := accounted.running thread top (stack ▸ List.mem_cons_self)
      refine ⟨?_, ?_, ?_⟩
      · rw [List.map_append, List.map_singleton, stateAfter_snoc, ← accounted.reached, ← same]
      · apply forall_update
        · intro other running isRunning
          exact (accounted.running other running isRunning).append _
        · intro other isRunning
          rcases List.mem_cons.mp isRunning with isTop | isBelow
          · rw [isTop]
            refine (runs.append _).advance (place ▸ .accessed _ (.start _)) ?_ (later _)
            intro position seen accessed
            cases List.mem_singleton.mp accessed
            refine ⟨by simp, ?_⟩
            rw [List.take_left]
            exact accounted.reached
          · exact (accounted.running thread other (stack ▸ List.mem_cons_of_mem _ isBelow)).append _
      · intro call isReturned
        rcases accounted.returned call isReturned with ⟨follows, recorded⟩
        exact ⟨follows, recorded.append _⟩
  | @release thread top below rest stack place =>
      have applies := top_applies stack
      rw [place] at applies
      have moved : Follows top.program [.released] rest := place ▸ .released (.start rest)
      have advanced := accounted.advance stack moved (by simp) applies
      exact ⟨advanced.reached, advanced.running, advanced.returned⟩
  | @done thread top below reply stack place =>
      have runs := accounted.running thread top (stack ▸ List.mem_cons_self)
      refine ⟨accounted.reached, ?_, ?_⟩
      · apply forall_update accounted.running
        intro other isBelow
        exact accounted.running thread other (stack ▸ List.mem_cons_of_mem _ isBelow)
      · intro call isReturned
        rcases List.mem_append.mp isReturned with earlier | latest
        · exact accounted.returned call earlier
        · rw [List.mem_singleton.mp latest]
          exact ⟨place ▸ runs.follows, runs.recorded⟩
  | @userReturns thread top below code rest result stack place =>
      have applies := top_applies stack
      rw [place] at applies
      have moved : Follows top.program [.used code result] (rest result) :=
        place ▸ .used (.start _)
      exact accounted.advance stack moved (by simp) (applies result)

/-- For every run, whichever threads call and whatever their code calls meanwhile. -/
theorem accounted_run (bodies : ∀ call, (body call).Applies (effect call))
    {actions : List (Action Thread Call Result)}
    (ran : Interleaving.run (step body) (initial state) actions = some system) :
    Accounted body effect state system := by
  refine Interleaving.invariant_run (Accounted.step bodies) ⟨rfl, ?_, ?_⟩ ran
  · intro thread running isRunning
    exact absurd isRunning List.not_mem_nil
  · intro call isReturned
    exact absurd isReturned List.not_mem_nil

end History

/-! ## Serial numbers -/

section Serials

/-- Names of the calls on the stacks and of those that have returned. -/
structure Named (live : Thread → List ℕ) (ended : List ℕ) (next : ℕ) : Prop where
  old : ∀ thread, ∀ name ∈ live thread, name < next
  endedOld : ∀ name ∈ ended, name < next
  once : ∀ thread, (live thread).Nodup
  endedOnce : ended.Nodup
  apart : ∀ thread other, thread ≠ other → ∀ name ∈ live thread, name ∉ live other
  left : ∀ thread, ∀ name ∈ live thread, name ∉ ended

variable [DecidableEq Thread] {live : Thread → List ℕ} {ended : List ℕ} {next : ℕ}

theorem Named.push (named : Named live ended next) (thread : Thread) :
    Named (Function.update live thread (next :: live thread)) ended (next + 1) := by
  have mem : ∀ {other name}, name ∈ Function.update live thread (next :: live thread) other →
      name ∈ live other ∨ name = next ∧ other = thread := by
    intro other name isLive
    by_cases same : other = thread
    · subst same
      rw [Function.update_self] at isLive
      rcases List.mem_cons.mp isLive with fresh | older
      · exact Or.inr ⟨fresh, rfl⟩
      · exact Or.inl older
    · rw [Function.update_of_ne same] at isLive
      exact Or.inl isLive
  refine ⟨?_, ?_, ?_, named.endedOnce, ?_, ?_⟩
  · intro other name isLive
    rcases mem isLive with older | ⟨rfl, _⟩
    · exact Nat.lt_succ_of_lt (named.old other name older)
    · exact Nat.lt_succ_self _
  · intro name isEnded
    exact Nat.lt_succ_of_lt (named.endedOld name isEnded)
  · intro other
    by_cases same : other = thread
    · subst same
      rw [Function.update_self]
      refine List.nodup_cons.mpr ⟨?_, named.once other⟩
      intro older
      exact Nat.lt_irrefl _ (named.old other next older)
    · rw [Function.update_of_ne same]
      exact named.once other
  · intro first second different name isFirst isSecond
    rcases mem isFirst with older | ⟨rfl, rfl⟩
    · rcases mem isSecond with alsoOlder | ⟨rfl, _⟩
      · exact named.apart first second different name older alsoOlder
      · exact Nat.lt_irrefl _ (named.old first _ older)
    · rcases mem isSecond with older | ⟨_, same⟩
      · exact Nat.lt_irrefl _ (named.old second _ older)
      · exact different same.symm
  · intro other name isLive isEnded
    rcases mem isLive with older | ⟨rfl, _⟩
    · exact named.left other name older isEnded
    · exact Nat.lt_irrefl _ (named.endedOld _ isEnded)

theorem Named.pop (named : Named live ended next) {thread : Thread} {top : ℕ} {below : List ℕ}
    (stack : live thread = top :: below) :
    Named (Function.update live thread below) (ended ++ [top]) next := by
  have isTop : top ∈ live thread := stack ▸ List.mem_cons_self
  have nodup := List.nodup_cons.mp (stack ▸ named.once thread)
  have mem : ∀ {other name}, name ∈ Function.update live thread below other →
      name ∈ live other ∧ name ≠ top := by
    intro other name isLive
    by_cases same : other = thread
    · subst same
      rw [Function.update_self] at isLive
      refine ⟨stack ▸ List.mem_cons_of_mem _ isLive, ?_⟩
      rintro rfl
      exact nodup.1 isLive
    · rw [Function.update_of_ne same] at isLive
      refine ⟨isLive, ?_⟩
      rintro rfl
      exact named.apart other thread same _ isLive isTop
  refine ⟨?_, ?_, ?_, ?_, ?_, ?_⟩
  · intro other name isLive
    exact named.old other name (mem isLive).1
  · intro name isEnded
    rcases List.mem_append.mp isEnded with earlier | latest
    · exact named.endedOld name earlier
    · rw [List.mem_singleton.mp latest]
      exact named.old thread top isTop
  · intro other
    by_cases same : other = thread
    · subst same
      rw [Function.update_self]
      exact nodup.2
    · rw [Function.update_of_ne same]
      exact named.once other
  · apply List.nodup_append.mpr
    refine ⟨named.endedOnce, by simp, ?_⟩
    intro name isEnded other isOther
    rw [List.mem_singleton.mp isOther]
    rintro rfl
    exact named.left thread _ isTop isEnded
  · intro first second different name isFirst isSecond
    exact named.apart first second different name (mem isFirst).1 (mem isSecond).1
  · intro other name isLive isEnded
    rcases List.mem_append.mp isEnded with earlier | latest
    · exact named.left other name (mem isLive).1 earlier
    · exact (mem isLive).2 (List.mem_singleton.mp latest)

/-- The serial numbers of the calls. -/
def SeriallyNamed (system : System Thread Call State Use Result Reply) : Prop :=
  Named (fun thread => (system.callStacks thread).map Activation.serial)
    (system.returned.map Return.serial) system.started

variable {body : Call → Program State Use Result Reply}
  {system after : System Thread Call State Use Result Reply} {action : Action Thread Call Result}

theorem serials_update (callStacks : Thread → List (Activation Call State Use Result Reply))
    (thread : Thread) (stack : List (Activation Call State Use Result Reply)) :
    (fun other => (Function.update callStacks thread stack other).map Activation.serial) =
      Function.update (fun other => (callStacks other).map Activation.serial) thread
        (stack.map Activation.serial) := by
  funext other
  by_cases same : other = thread
  · subst same
    simp
  · simp [Function.update_of_ne same]

theorem SeriallyNamed.advance (named : SeriallyNamed system) {thread : Thread}
    {top : Activation Call State Use Result Reply}
    {below : List (Activation Call State Use Result Reply)}
    (stack : system.callStacks thread = top :: below) (move : Move State Use Result)
    (program : Program State Use Result Reply) :
    SeriallyNamed (system.advance thread top below move program) := by
  have same := serials_update system.callStacks thread
    ({ top with program := program, trace := top.trace ++ [move] } :: below)
  have unchanged :
      Function.update (fun other => (system.callStacks other).map Activation.serial) thread
        (({ top with program := program, trace := top.trace ++ [move] } :: below).map
          Activation.serial) = fun other => (system.callStacks other).map Activation.serial := by
    apply Function.update_eq_self_iff.mpr
    rw [stack]
    rfl
  unfold SeriallyNamed System.advance
  rw [same, unchanged]
  exact named

theorem SeriallyNamed.step (named : SeriallyNamed system)
    (stepped : Monitor.step body system action = some after) : SeriallyNamed after := by
  cases step_transition stepped with
  | @call thread call may =>
      have pushed := named.push thread
      unfold SeriallyNamed
      rw [serials_update]
      exact pushed
  | acquire stack place free => exact named.advance stack .acquired _
  | access stack place => exact named.advance stack (.accessed _ _) _
  | release stack place => exact named.advance stack .released _
  | @done thread top below reply stack place =>
      have names : (system.callStacks thread).map Activation.serial =
          top.serial :: below.map Activation.serial := by
        rw [stack]
        rfl
      unfold SeriallyNamed
      rw [serials_update, List.map_append]
      exact named.pop names
  | userReturns stack place => exact named.advance stack (.used _ _) _

/-- For every run: no two calls have one serial number. -/
theorem seriallyNamed_run {state : State} {actions : List (Action Thread Call Result)}
    (ran : Interleaving.run (step body) (initial state) actions = some system) :
    SeriallyNamed system := by
  refine Interleaving.invariant_run SeriallyNamed.step ⟨?_, ?_, ?_, ?_, ?_, ?_⟩ ran
  all_goals simp [initial]

end Serials

/-! ## The discipline of the mutex -/

section Discipline

/-- The call is in its critical section. -/
def holding : Bool → List (Move State Use Result) → Bool
  | held, [] => held
  | _, .acquired :: trace => holding true trace
  | _, .released :: trace => holding false trace
  | held, .accessed _ _ :: trace => holding held trace
  | held, .used _ _ :: trace => holding held trace

theorem Follows.disciplined {program rest : Program State Use Result Reply}
    {trace : List (Move State Use Result)} (follows : Follows program trace rest) {held : Bool}
    (disciplined : program.Disciplined held) : rest.Disciplined (holding held trace) := by
  induction follows generalizing held with
  | start => exact disciplined
  | acquired _ ih =>
      cases held with
      | false => exact ih disciplined
      | true => exact disciplined.elim
  | accessed position _ ih =>
      cases held with
      | false => exact disciplined.elim
      | true => exact ih (disciplined _)
  | released _ ih =>
      cases held with
      | false => exact disciplined.elim
      | true => exact ih disciplined
  | used _ ih =>
      cases held with
      | false => exact ih (disciplined _)
      | true => exact disciplined.elim

theorem Program.Uses.not_held {program : Program State Use Result Reply} {held : Bool}
    (uses : program.Uses) (disciplined : program.Disciplined held) : held = false := by
  cases program with
  | use code next =>
      cases held with
      | false => rfl
      | true => exact disciplined.elim
  | acquire _ | access _ _ | release _ | done _ => exact uses.elim

theorem Program.held_of_access {update : State → State}
    {next : State → Program State Use Result Reply} {held : Bool}
    (disciplined : (Program.access update next).Disciplined held) : held = true := by
  cases held with
  | false => exact disciplined.elim
  | true => rfl

theorem Program.held_of_release {next : Program State Use Result Reply} {held : Bool}
    (disciplined : (Program.release next).Disciplined held) : held = true := by
  cases held with
  | false => exact disciplined.elim
  | true => rfl

theorem Program.not_held_of_done {reply : Reply} {held : Bool}
    (disciplined : (Program.done reply : Program State Use Result Reply).Disciplined held) :
    held = false := by
  cases held with
  | false => rfl
  | true => exact disciplined.elim

/-- A call whose user code runs is not in its critical section. -/
theorem Runs.not_holding {body : Call → Program State Use Result Reply}
    {effect : Call → State → State} {state : State} {accesses : List (ℕ × Call)}
    {running : Activation Call State Use Result Reply}
    (runs : Runs body effect state accesses running)
    (disciplined : (body running.call).Disciplined false) (uses : running.program.Uses) :
    holding false running.trace = false :=
  uses.not_held (runs.follows.disciplined disciplined)

/-- Only the topmost call may hold the mutex; the user's code runs in those below it. -/
inductive StackDisciplined : Bool → List (Activation Call State Use Result Reply) → Prop where
  | empty : StackDisciplined false []
  | calls {held : Bool} {top : Activation Call State Use Result Reply}
      {below : List (Activation Call State Use Result Reply)}
      (running : top.program.Disciplined held)
      (suspended : ∀ call ∈ below, call.program.Uses ∧ call.program.Disciplined false) :
      StackDisciplined held (top :: below)

variable [DecidableEq Thread] {body : Call → Program State Use Result Reply}
  {system next : System Thread Call State Use Result Reply} {action : Action Thread Call Result}

/-- The holder of the mutex is in a critical section, and no other thread is. -/
def Exclusive (system : System Thread Call State Use Result Reply) : Prop :=
  ∀ thread, StackDisciplined (decide (system.holder = some thread)) (system.callStacks thread)

theorem Exclusive.top (exclusive : Exclusive system) {thread : Thread}
    {top : Activation Call State Use Result Reply}
    {below : List (Activation Call State Use Result Reply)}
    (stack : system.callStacks thread = top :: below) :
    top.program.Disciplined (decide (system.holder = some thread)) ∧
      ∀ call ∈ below, call.program.Uses ∧ call.program.Disciplined false := by
  have disciplined := exclusive thread
  rw [stack] at disciplined
  generalize decide (system.holder = some thread) = held at disciplined ⊢
  cases disciplined with
  | calls running suspended => exact ⟨running, suspended⟩

theorem Exclusive.not_holder (exclusive : Exclusive system) {thread : Thread}
    {top : Activation Call State Use Result Reply}
    (isTop : top ∈ (system.callStacks thread).head?) (uses : top.program.Uses) :
    system.holder ≠ some thread := by
  intro holds
  cases stack : system.callStacks thread with
  | nil =>
      rw [stack] at isTop
      cases isTop
  | cons first below =>
      rw [stack] at isTop
      cases isTop
      have running := (exclusive.top stack).1
      rw [decide_eq_true holds] at running
      cases uses.not_held running

/-- A step of the topmost call of a thread that takes, keeps or releases the mutex. -/
theorem Exclusive.update (exclusive : Exclusive system) {thread : Thread} {held : Bool}
    {stack : List (Activation Call State Use Result Reply)}
    (others : ∀ other ≠ thread, (next.holder = some other ↔ system.holder = some other) ∧
      next.callStacks other = system.callStacks other)
    (own : next.callStacks thread = stack) (holds : decide (next.holder = some thread) = held)
    (disciplined : StackDisciplined held stack) : Exclusive next := by
  intro other
  by_cases same : other = thread
  · rw [same, own, holds]
    exact disciplined
  · rcases others other same with ⟨holder, unchanged⟩
    rw [unchanged, decide_eq_decide.mpr holder]
    exact exclusive other

/-- A thread that may call is outside all critical sections. -/
theorem Exclusive.of_mayCall (exclusive : Exclusive system) {thread : Thread}
    (may : system.MayCall thread) :
    system.holder ≠ some thread ∧ ∀ call ∈ system.callStacks thread,
      call.program.Uses ∧ call.program.Disciplined false := by
  cases found : system.callStacks thread with
  | nil =>
      have stack := exclusive thread
      rw [found] at stack
      refine ⟨?_, fun _ isIn => absurd isIn List.not_mem_nil⟩
      intro holds
      rw [decide_eq_true holds] at stack
      cases stack
  | cons top below =>
      have isTop : top ∈ (system.callStacks thread).head? := by simp [found]
      have uses := may top isTop
      have notHolder := exclusive.not_holder isTop uses
      rcases exclusive.top found with ⟨running, suspended⟩
      rw [decide_eq_false notHolder] at running
      refine ⟨notHolder, ?_⟩
      intro call isIn
      rcases List.mem_cons.mp isIn with same | isBelow
      · rw [same]
        exact ⟨uses, running⟩
      · exact suspended call isBelow

theorem Exclusive.step (bodies : ∀ call, (body call).Disciplined false)
    (exclusive : Exclusive system) (stepped : Monitor.step body system action = some next) :
    Exclusive next := by
  cases step_transition stepped with
  | @call thread call may =>
      rcases exclusive.of_mayCall may with ⟨notHolder, suspended⟩
      refine exclusive.update ?_ (Function.update_self thread _ _) (decide_eq_false notHolder)
        (.calls (bodies call) suspended)
      intro other different
      exact ⟨Iff.rfl, Function.update_of_ne different ..⟩
  | @acquire thread top below rest stack place free =>
      rcases exclusive.top stack with ⟨running, suspended⟩
      rw [place, free] at running
      refine exclusive.update ?_ (Function.update_self thread _ _) (decide_eq_true rfl)
        (.calls running suspended)
      intro other different
      refine ⟨?_, Function.update_of_ne different ..⟩
      simp [free, Ne.symm different]
  | @access thread top below update rest stack place =>
      rcases exclusive.top stack with ⟨running, suspended⟩
      rw [place] at running
      have held := Program.held_of_access running
      rw [held] at running
      refine exclusive.update ?_ (Function.update_self thread _ _) held
        (.calls (running system.state) suspended)
      intro other different
      exact ⟨Iff.rfl, Function.update_of_ne different ..⟩
  | @release thread top below rest stack place =>
      rcases exclusive.top stack with ⟨running, suspended⟩
      rw [place] at running
      have held := Program.held_of_release running
      rw [held] at running
      refine exclusive.update ?_ (Function.update_self thread _ _) (by simp)
        (.calls running suspended)
      intro other different
      refine ⟨?_, Function.update_of_ne different ..⟩
      simp [of_decide_eq_true held, Ne.symm different]
  | @done thread top below reply stack place =>
      rcases exclusive.top stack with ⟨running, suspended⟩
      rw [place] at running
      have free := Program.not_held_of_done running
      refine exclusive.update ?_ (Function.update_self thread _ _) free ?_
      · intro other different
        exact ⟨Iff.rfl, Function.update_of_ne different ..⟩
      · cases below with
        | nil => exact .empty
        | cons caller deeper =>
            rw [List.forall_mem_cons] at suspended
            exact .calls suspended.1.2 suspended.2
  | @userReturns thread top below code rest result stack place =>
      rcases exclusive.top stack with ⟨running, suspended⟩
      have uses : top.program.Uses := place ▸ trivial
      have free := uses.not_held running
      rw [free, place] at running
      refine exclusive.update ?_ (Function.update_self thread _ _) free
        (.calls (running result) suspended)
      intro other different
      exact ⟨Iff.rfl, Function.update_of_ne different ..⟩

/-- For every run: the mutex is held in critical sections alone, by one thread at most. -/
theorem exclusive_run (bodies : ∀ call, (body call).Disciplined false) {state : State}
    {actions : List (Action Thread Call Result)}
    (ran : Interleaving.run (step body) (initial state) actions = some system) :
    Exclusive system := by
  refine Interleaving.invariant_run (Exclusive.step bodies) ?_ ran
  intro thread
  exact .empty

end Discipline

end Monitor

end HttpsServerSim
