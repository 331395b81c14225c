import HttpsServerSim.Lib.Ledger
import HttpsServerSim.Utils.Statistics
import Mathlib.Algebra.BigOperators.Finprod

/-!
# What the statistics add up to

The value of `current_connections_` is what was added to it less what was taken off, and what was
added was added to `total_connections_` before. A close whose connection was opened before finds
the counter above zero whenever it reads it, since it is itself among those that have not
decremented yet. What `update` takes out of `requests_current_second_` is what it leaves behind at
zero.
-/

namespace HttpsServerSim

namespace StatisticsPc

/-- Between the two additions of `record_connection`. -/
def opening : StatisticsPc → ℕ
  | .addCurrentConnections => 1
  | _ => 0

/-- In `record_connection_close`. -/
def closing : StatisticsPc → ℕ
  | .loadCurrentConnections | .exchangeCurrentConnections _ => 1
  | _ => 0

theorem opening_of_loop {pc : StatisticsPc}
    (place : pc = .loadCurrentConnections ∨ ∃ current, pc = .exchangeCurrentConnections current) :
    pc.opening = 0 := by
  rcases place with rfl | ⟨current, rfl⟩
  · rfl
  · rfl

theorem closing_of_loop {pc : StatisticsPc}
    (place : pc = .loadCurrentConnections ∨ ∃ current, pc = .exchangeCurrentConnections current) :
    pc.closing = 1 := by
  rcases place with rfl | ⟨current, rfl⟩
  · rfl
  · rfl

end StatisticsPc

/-- What `update` has taken and not stored yet. -/
def UpdatePc.inFlight : UpdatePc → List UInt64
  | .storePerSecond current => [current]
  | _ => []

namespace StatisticsManager

/-- The next access does not bring a counter to its width. -/
def HasRoom (manager : StatisticsManager) : StatisticsPc → Prop
  | .addTotalConnections => manager.totalConnections.toNat + 1 < 2 ^ 64
  | .addCurrentConnections => manager.currentConnections.toNat + 1 < 2 ^ 32
  | .addTotalRequests => manager.totalRequests.toNat + 1 < 2 ^ 64
  | .addRequestsCurrentSecond => manager.requestsCurrentSecond.toNat + 1 < 2 ^ 64
  | _ => True

instance (manager : StatisticsManager) : DecidablePred manager.HasRoom
  | .addTotalConnections | .addCurrentConnections | .addTotalRequests
  | .addRequestsCurrentSecond => Nat.decLt _ _
  | .idle | .loadCurrentConnections | .exchangeCurrentConnections _ =>
      inferInstanceAs (Decidable True)

end StatisticsManager

namespace StatisticsThreads

/-! ## The threads in a call -/

section Threads

variable {Thread : Type}

/-- How many threads there are at some places. -/
noncomputable def inProgress (threads : Thread → StatisticsPc) (weight : StatisticsPc → ℕ) : ℕ :=
  ∑ᶠ thread, weight (threads thread)

/-- The threads that are not idle. -/
def busy (threads : Thread → StatisticsPc) : Set Thread := {thread | threads thread ≠ .idle}

/-- A thread tries a decrement with a value above zero only. -/
def TriesPositive (threads : Thread → StatisticsPc) : Prop :=
  ∀ thread current, threads thread = .exchangeCurrentConnections current → 0 < current.toNat

variable {threads : Thread → StatisticsPc} {weight : StatisticsPc → ℕ}

theorem inProgress_eq_sum (none : weight .idle = 0) {some : Finset Thread}
    (others : ∀ thread, thread ∉ some → threads thread = .idle) :
    inProgress threads weight = ∑ thread ∈ some, weight (threads thread) := by
  apply finsum_eq_finsetSum_of_support_subset
  intro thread counts
  by_contra other
  exact counts ((congrArg weight (others thread other)).trans none)

theorem inProgress_idle (none : weight .idle = 0) (idle : ∀ thread, threads thread = .idle) :
    inProgress threads weight = 0 := by
  apply finsum_eq_zero_of_forall_eq_zero
  intro thread
  rw [idle thread, none]

/-- The threads against the counters of the calls that are over and of the calls made. -/
structure Placed (threads : Thread → StatisticsPc) (opened total closed closings : ℕ) : Prop where
  finite : (busy threads).Finite
  opening : opened + inProgress threads StatisticsPc.opening = total
  closing : closed + inProgress threads StatisticsPc.closing = closings
  positive : TriesPositive threads

theorem placed_idle : Placed (fun _ : Thread => .idle) 0 0 0 0 where
  finite := Set.finite_empty.subset (fun _ moves => moves rfl)
  opening := (Nat.zero_add _).trans (inProgress_idle rfl fun _ => rfl)
  closing := (Nat.zero_add _).trans (inProgress_idle rfl fun _ => rfl)
  positive := nofun

variable [DecidableEq Thread] {thread : Thread} {pc after : StatisticsPc}

theorem busy_update_finite (finite : (busy threads).Finite) :
    (busy (Function.update threads thread after)).Finite := by
  apply (finite.insert thread).subset
  intro other moves
  by_cases same : other = thread
  · exact Or.inl same
  · right
    rw [busy, Set.mem_ofPred_eq, Function.update_of_ne same] at moves
    exact moves

theorem inProgress_moved (finite : (busy threads).Finite) (place : threads thread = pc)
    (weight : StatisticsPc → ℕ) (none : weight .idle = 0) (after : StatisticsPc) :
    inProgress (Function.update threads thread after) weight + weight pc =
      inProgress threads weight + weight after := by
  have member : thread ∈ insert thread finite.toFinset := Finset.mem_insert_self _ _
  have idle : ∀ other, other ∉ insert thread finite.toFinset → threads other = .idle := by
    intro other outside
    by_contra moves
    exact outside (Finset.mem_insert_of_mem (finite.mem_toFinset.mpr moves))
  have idleAfter : ∀ other, other ∉ insert thread finite.toFinset →
      Function.update threads thread after other = .idle := by
    intro other outside
    have another : other ≠ thread := fun same => outside (same ▸ member)
    rw [Function.update_of_ne another]
    exact idle other outside
  rw [inProgress_eq_sum none idle, inProgress_eq_sum none idleAfter, ← place]
  exact sum_update weight threads member after

theorem inProgress_pos (finite : (busy threads).Finite) (none : weight .idle = 0)
    (counts : 0 < weight (threads thread)) : 0 < inProgress threads weight := by
  have place : threads thread = threads thread := rfl
  have moved := inProgress_moved finite place weight none .idle
  omega

theorem TriesPositive.update (positive : TriesPositive threads)
    (own : ∀ current, pc = .exchangeCurrentConnections current → 0 < current.toNat) :
    TriesPositive (Function.update threads thread pc) := by
  intro other current place
  by_cases same : other = thread
  · subst same
    rw [Function.update_self] at place
    exact own current place
  · rw [Function.update_of_ne same] at place
    exact positive other current place

/-- One thread moves, and the counters change by what it counts for. -/
theorem Placed.moves {opened total closed closings opened' total' closed' closings' : ℕ}
    (placed : Placed threads opened total closed closings) (place : threads thread = pc)
    (own : ∀ current, after = .exchangeCurrentConnections current → 0 < current.toNat)
    (opening : opened' + after.opening + total = opened + pc.opening + total')
    (closing : closed' + after.closing + closings = closed + pc.closing + closings') :
    Placed (Function.update threads thread after) opened' total' closed' closings' := by
  have openingMoved := inProgress_moved placed.finite place StatisticsPc.opening rfl after
  have closingMoved := inProgress_moved placed.finite place StatisticsPc.closing rfl after
  refine ⟨busy_update_finite placed.finite, ?_, ?_, placed.positive.update own⟩
  · have before := placed.opening
    omega
  · have before := placed.closing
    omega

end Threads

/-! ## The counters against what was done -/

variable {Thread : Type} {state next : StatisticsThreads Thread} {action : StatisticsAction Thread}

/-- No counter reaches its width. -/
def Fits (state : StatisticsThreads Thread) : StatisticsAction Thread → Prop
  | .move thread _ => state.manager.HasRoom (state.threads thread)
  | _ => True

instance : DecidablePred state.Fits
  | .move thread _ => inferInstanceAs (Decidable (state.manager.HasRoom (state.threads thread)))
  | .recordConnection _ | .recordConnectionClose _ _ | .recordRequest _ | .update =>
      inferInstanceAs (Decidable True)

structure Counted (state : StatisticsThreads Thread) : Prop where
  placed : Placed state.threads state.opened state.manager.totalConnections.toNat state.closed
    state.closings.length
  current : state.manager.currentConnections.toNat + state.decremented = state.opened
  requests : state.manager.requestsCurrentSecond.toNat +
    (state.taken.map UInt64.toNat).sum = state.incremented
  stored : state.taken = state.stored ++ state.updater.inFlight

theorem counted_construct : Counted (construct : StatisticsThreads Thread) :=
  ⟨placed_idle, rfl, rfl, rfl⟩

theorem toNat_increment {counter : UInt64} (fits : counter.toNat + 1 < 2 ^ 64) :
    (counter + 1).toNat = counter.toNat + 1 := by
  rw [UInt64.toNat_add]
  exact Nat.mod_eq_of_lt fits

theorem Counted.update (counted : Counted state) : Counted state.update := by
  rcases counted with ⟨placed, current, requests, stored⟩
  unfold StatisticsThreads.update
  cases updater : state.updater with
  | idle =>
      rw [updater] at stored
      refine ⟨placed, current, ?_, ?_⟩
      · simp only [List.map_append, List.map_singleton, List.sum_append, List.sum_singleton]
        rw [← requests]
        exact (Nat.zero_add _).trans (Nat.add_comm _ _)
      · simp [UpdatePc.inFlight, stored]
  | storePerSecond value =>
      rw [updater] at stored
      refine ⟨placed, current, requests, ?_⟩
      simp [UpdatePc.inFlight, stored]
  | storeLastSecond value =>
      rw [updater] at stored
      exact ⟨placed, current, requests, stored⟩

variable [DecidableEq Thread]

theorem Counted.step (counted : Counted state) (fits : state.Fits action)
    (stepped : StatisticsThreads.step state action = some next) : Counted next := by
  rcases counted with ⟨placed, current, requests, stored⟩
  cases step_transition stepped with
  | recordConnection free =>
      exact ⟨placed.moves free nofun rfl rfl, current, requests, stored⟩
  | recordConnectionClose free =>
      refine ⟨placed.moves free nofun rfl ?_, current, requests, stored⟩
      simp only [StatisticsPc.closing, goto, List.length_append, List.length_singleton]
      omega
  | recordRequest free =>
      exact ⟨placed.moves free nofun rfl rfl, current, requests, stored⟩
  | addTotalConnections place =>
      rw [Fits, place] at fits
      have added := toNat_increment fits
      refine ⟨placed.moves place nofun ?_ rfl, current, requests, stored⟩
      simp only [StatisticsPc.opening, goto, added]
      omega
  | addCurrentConnections place =>
      rw [Fits, place] at fits
      have added : (state.manager.currentConnections + 1).toNat =
          state.manager.currentConnections.toNat + 1 := by
        rw [UInt32.toNat_add]
        exact Nat.mod_eq_of_lt fits
      refine ⟨placed.moves place nofun rfl rfl, ?_, requests, stored⟩
      simp only [goto, added]
      omega
  | @tries thread spurious place positive =>
      generalize here : state.threads thread = pc at place
      refine ⟨placed.moves here ?_ ?_ ?_, current, requests, stored⟩
      · intro value same
        cases same
        exact positive
      · rw [StatisticsPc.opening_of_loop place]
        rfl
      · rw [StatisticsPc.closing_of_loop place]
        rfl
  | @givesUp thread spurious place zero =>
      generalize here : state.threads thread = pc at place
      refine ⟨placed.moves here nofun ?_ ?_, current, requests, stored⟩
      · rw [StatisticsPc.opening_of_loop place]
        rfl
      · rw [StatisticsPc.closing_of_loop place]
        rfl
  | decrements place =>
      have positive := placed.positive _ _ place
      have below : (1 : UInt32) ≤ state.manager.currentConnections :=
        UInt32.le_iff_toNat_le.mpr positive
      have removed := UInt32.toNat_sub_of_le _ _ below
      refine ⟨placed.moves place nofun rfl rfl, ?_, requests, stored⟩
      have one : (1 : UInt32).toNat = 1 := rfl
      simp only [goto, removed]
      omega
  | addTotalRequests place =>
      exact ⟨placed.moves place nofun rfl rfl, current, requests, stored⟩
  | addRequestsCurrentSecond place =>
      rw [Fits, place] at fits
      have added := toNat_increment fits
      refine ⟨placed.moves place nofun rfl rfl, current, ?_, stored⟩
      simp only [goto, added]
      omega
  | update => exact Counted.update ⟨placed, current, requests, stored⟩

/-! ## A close for each connection -/

/-- A call of `record_connection_close` starts after a call of `record_connection` that is over, and
that no other was made for. -/
def ClosesOpened (state : StatisticsThreads Thread) : StatisticsAction Thread → Prop
  | .recordConnectionClose _ connection =>
      connection < state.opened ∧ connection ∉ state.closings
  | _ => True

instance : DecidablePred state.ClosesOpened
  | .recordConnectionClose _ connection =>
      inferInstanceAs (Decidable (connection < state.opened ∧ connection ∉ state.closings))
  | .recordConnection _ | .recordRequest _ | .move _ _ | .update =>
      inferInstanceAs (Decidable True)

/-- Every close has decremented. -/
structure Matched (state : StatisticsThreads Thread) : Prop where
  distinct : state.closings.Nodup
  opened : ∀ connection ∈ state.closings, connection < state.opened
  decremented : state.decremented = state.closed

omit [DecidableEq Thread] in
theorem matched_construct : Matched (construct : StatisticsThreads Thread) where
  distinct := List.nodup_nil
  opened := nofun
  decremented := rfl

omit [DecidableEq Thread] in
theorem Matched.length_le (matched : Matched state) : state.closings.length ≤ state.opened := by
  have among : state.closings ⊆ List.range state.opened := by
    intro connection member
    exact List.mem_range.mpr (matched.opened connection member)
  have fewer := (matched.distinct.subperm among).length_le
  rw [List.length_range] at fewer
  exact fewer

/-- A close that has not decremented yet is not the only one that could: the counter is not zero. -/
theorem Matched.currentConnections_pos (matched : Matched state) (counted : Counted state)
    {thread : Thread} (place : state.threads thread = .loadCurrentConnections ∨
      ∃ current, state.threads thread = .exchangeCurrentConnections current) :
    0 < state.manager.currentConnections.toNat := by
  have closes : 0 < (state.threads thread).closing := by
    rw [StatisticsPc.closing_of_loop place]
    exact Nat.one_pos
  have here := inProgress_pos counted.placed.finite rfl closes
  have fewer := matched.length_le
  have closings := counted.placed.closing
  have current := counted.current
  have same := matched.decremented
  omega

theorem Matched.step (matched : Matched state) (counted : Counted state)
    (closes : state.ClosesOpened action)
    (stepped : StatisticsThreads.step state action = some next) : Matched next := by
  rcases matched with ⟨distinct, opened, decremented⟩
  cases step_transition stepped with
  | recordConnection free | recordRequest free => exact ⟨distinct, opened, decremented⟩
  | recordConnectionClose free =>
      rcases closes with ⟨before, other⟩
      refine ⟨?_, ?_, decremented⟩
      · refine List.nodup_append.mpr ⟨distinct, List.nodup_singleton _, ?_⟩
        intro earlier member last equal same
        rw [same, List.mem_singleton.mp equal] at member
        exact other member
      · intro connection member
        rcases List.mem_append.mp member with earlier | last
        · exact opened connection earlier
        · rw [List.mem_singleton.mp last]
          exact before
  | addTotalConnections place | addTotalRequests place | addRequestsCurrentSecond place =>
      exact ⟨distinct, opened, decremented⟩
  | addCurrentConnections place =>
      refine ⟨distinct, ?_, decremented⟩
      intro connection member
      exact Nat.lt_succ_of_lt (opened connection member)
  | tries place positive => exact ⟨distinct, opened, decremented⟩
  | givesUp place zero =>
      have positive := Matched.currentConnections_pos ⟨distinct, opened, decremented⟩ counted place
      omega
  | decrements place => exact ⟨distinct, opened, congrArg Nat.succ decremented⟩
  | update =>
      unfold StatisticsThreads.update
      cases state.updater with
      | idle | storePerSecond value | storeLastSecond value =>
          exact ⟨distinct, opened, decremented⟩

/-! ## Every schedule -/

/-- Nothing is lost. -/
theorem losesNothing {actions : List (StatisticsAction Thread)} {final : StatisticsThreads Thread}
    (fits : Interleaving.Along StatisticsThreads.step Fits construct actions)
    (ran : Interleaving.run StatisticsThreads.step construct actions = some final) :
    (final.manager.currentConnections.toNat + final.decremented = final.opened ∧
        final.manager.currentConnections.toNat ≤ final.manager.totalConnections.toNat) ∧
      (Interleaving.Along StatisticsThreads.step ClosesOpened construct actions →
        (∀ thread, final.threads thread = .idle) →
        final.closed = final.closings.length ∧
          final.manager.currentConnections.toNat + final.closed = final.opened) ∧
      (final.manager.requestsCurrentSecond.toNat + (final.taken.map UInt64.toNat).sum =
          final.incremented ∧
        final.taken = final.stored ++ final.updater.inFlight) := by
  have counted : Counted final :=
    Interleaving.invariant_along (fun counted fits stepped => counted.step fits stepped)
      counted_construct fits ran
  refine ⟨⟨counted.current, ?_⟩, ?_, counted.requests, counted.stored⟩
  · have current := counted.current
    have total := counted.placed.opening
    omega
  · intro closes idle
    have both : Counted final ∧ Matched final := by
      apply Interleaving.invariant_along _ ⟨counted_construct, matched_construct⟩
        (Interleaving.along_and fits closes) ran
      intro state action next kept condition stepped
      exact ⟨kept.1.step condition.1 stepped, kept.2.step kept.1 condition.2 stepped⟩
    have closed := counted.placed.closing
    rw [inProgress_idle rfl idle] at closed
    have current := counted.current
    have same := both.2.decremented
    omega

/-- Two connections are closed at once: one exchange fails without a reason, one because of the
other thread, and `update` runs between the two additions of a request. -/
def closesAtOnce : List (StatisticsAction Bool) :=
  [.recordConnection false, .move false false, .recordConnection true, .move true false,
    .move true false, .move false false, .recordConnectionClose false 0,
    .recordConnectionClose true 1, .move false false, .move true false, .move false true,
    .move true false, .recordRequest true, .move true false, .update, .move false false,
    .move true false, .move false false, .update, .update, .update]

theorem losesNothing_closesAtOnce :
    ∃ final : StatisticsThreads Bool,
      Interleaving.run StatisticsThreads.step construct closesAtOnce = some final ∧
        (final.closed = 2 ∧ final.incremented = 1 ∧ final.taken = [0, 1]) ∧
        final.manager.currentConnections.toNat + final.closed = final.opened ∧
        final.manager.requestsCurrentSecond.toNat + (final.taken.map UInt64.toNat).sum =
          final.incremented := by
  have fits : Interleaving.Along StatisticsThreads.step Fits construct closesAtOnce := by
    decide +kernel
  have closes : Interleaving.Along StatisticsThreads.step ClosesOpened construct closesAtOnce := by
    decide +kernel
  have nothing := losesNothing fits rfl
  refine ⟨_, rfl, ⟨rfl, rfl, rfl⟩, (nothing.2.1 closes ?_).2, nothing.2.2.1⟩
  decide

end StatisticsThreads

end HttpsServerSim
