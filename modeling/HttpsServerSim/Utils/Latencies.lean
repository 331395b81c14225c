import HttpsServerSim.Lib.Interleaving
import HttpsServerSim.Lib.OrderStatistics
import HttpsServerSim.Lib.Sorting

/-!
# The latencies of the statistics manager

`record_latency` and `calculate_percentiles` run under the mutex of the latencies, so the calls of
all threads are a sequence. When the vector is full its newer half is copied over the older one,
from the front, and the vector is cut to that half.

An access outside a vector is no result.
-/

namespace HttpsServerSim

/-- The part of `StatisticsManager` behind the mutex. -/
structure LatencyStatistics where
  latencies : List UInt32
  avgLatencyMs : UInt32
  p50LatencyMs : UInt32
  p95LatencyMs : UInt32
  p99LatencyMs : UInt32
deriving DecidableEq

/-- The part of `Statistics` that `get_statistics` fills from it. -/
structure LatencyReport where
  avgResponseLatencyMs : UInt32
  p50ResponseLatencyMs : UInt32
  p95ResponseLatencyMs : UInt32
  p99ResponseLatencyMs : UInt32
deriving DecidableEq

inductive LatencyCall where
  | recordLatency (latencyMs : UInt32)
  | update
deriving DecidableEq

/-- `std::copy` of elements to a place before them, one after the other. -/
def copyForward {α : Type} : (source target count : ℕ) → List α → List α
  | _, _, 0, elements => elements
  | source, target, count + 1, elements =>
      copyForward (source + 1) (target + 1) count
        (match elements[source]? with
          | some element => elements.set target element
          | none => elements)

namespace LatencyStatistics

def maxLatencies : ℕ := 100000

def construct : LatencyStatistics where
  latencies := []
  avgLatencyMs := 0
  p50LatencyMs := 0
  p95LatencyMs := 0
  p99LatencyMs := 0

def resize (size : ℕ) (latencies : List UInt32) : List UInt32 :=
  latencies.take size ++ List.replicate (size - latencies.length) 0

/-- What `record_latency` does to a full vector. -/
def slide (half : ℕ) (latencies : List UInt32) : List UInt32 :=
  resize half (copyForward half 0 (latencies.length - half) latencies)

def recordLatency (latencyMs : UInt32) (statistics : LatencyStatistics) : LatencyStatistics :=
  let latencies :=
    if maxLatencies ≤ statistics.latencies.length then
      slide (maxLatencies / 2) statistics.latencies
    else statistics.latencies
  { statistics with latencies := latencies ++ [latencyMs] }

def calculatePercentiles (sorting : UnstableSort UInt32) (statistics : LatencyStatistics) :
    Option LatencyStatistics :=
  if statistics.latencies.isEmpty then
    some { statistics with
      avgLatencyMs := 0
      p50LatencyMs := 0
      p95LatencyMs := 0
      p99LatencyMs := 0 }
  else
    let sorted := sorting.sort (fun first second => first < second) statistics.latencies
    let sum := sorted.foldl (fun sum latencyMs => sum + latencyMs.toUInt64) (0 : UInt64)
    let n := sorted.length
    sorted[(n - 1) * 50 / 100]?.bind fun p50 =>
      sorted[(n - 1) * 95 / 100]?.bind fun p95 =>
        sorted[(n - 1) * 99 / 100]?.bind fun p99 =>
          some { statistics with
            avgLatencyMs := (sum / UInt64.ofNat n).toUInt32
            p50LatencyMs := p50
            p95LatencyMs := p95
            p99LatencyMs := p99 }

def getStatistics (statistics : LatencyStatistics) : LatencyReport where
  avgResponseLatencyMs := statistics.avgLatencyMs
  p50ResponseLatencyMs := statistics.p50LatencyMs
  p95ResponseLatencyMs := statistics.p95LatencyMs
  p99ResponseLatencyMs := statistics.p99LatencyMs

/-- `update` calls `calculate_percentiles`, behind its accesses to the counters. -/
def step (sorting : UnstableSort UInt32) (statistics : LatencyStatistics) :
    LatencyCall → Option LatencyStatistics
  | .recordLatency latencyMs => some (statistics.recordLatency latencyMs)
  | .update => statistics.calculatePercentiles sorting

/-! ## The window -/

/-- The values recorded in a sequence of calls, in turn. -/
def recorded : List LatencyCall → List UInt32
  | [] => []
  | .recordLatency latencyMs :: calls => latencyMs :: recorded calls
  | .update :: calls => recorded calls

/-- The last values recorded, neither too few nor too many. -/
structure RecentWindow (recorded window : List UInt32) : Prop where
  suffix : window <:+ recorded
  long : min recorded.length (maxLatencies / 2 + 1) ≤ window.length
  short : window.length ≤ maxLatencies

theorem copyForward_eq {α : Type} {source target count : ℕ} {elements : List α}
    (before : target ≤ source) (inside : source + count ≤ elements.length) :
    copyForward source target count elements =
      elements.take target ++ (elements.drop source).take count ++
        elements.drop (target + count) := by
  induction count generalizing source target elements with
  | zero => simp [copyForward]
  | succ count ih =>
      have here : source < elements.length := by omega
      unfold copyForward
      rw [List.getElem?_eq_getElem here]
      simp only
      rw [ih (by omega) (by rw [List.length_set]; omega)]
      -- What is still to be read has not been written.
      have unread : (elements.set target elements[source]).drop (source + 1) =
          elements.drop (source + 1) := List.drop_set_of_lt (by omega)
      have untouched : (elements.set target elements[source]).drop (target + 1 + count) =
          elements.drop (target + 1 + count) := List.drop_set_of_lt (by omega)
      have written : (elements.set target elements[source]).take (target + 1) =
          elements.take target ++ [elements[source]] := by
        have shorter : (elements.take target).length = target := by
          rw [List.length_take]
          omega
        rw [List.take_set, List.take_succ_eq_append_getElem (by omega), List.set_append_right]
        · simp [shorter]
        · omega
      have taken : (elements.drop source).take (count + 1) =
          elements[source] :: (elements.drop (source + 1)).take count := by
        rw [List.drop_eq_getElem_cons here, List.take_succ_cons]
      have next : target + 1 + count = target + (count + 1) := by omega
      rw [unread, untouched, written, taken, next]
      simp

/-- The newer half is left. -/
theorem slide_eq {latencies : List UInt32} {half : ℕ} (full : latencies.length = half + half) :
    slide half latencies = latencies.drop half := by
  have newer : (latencies.drop half).length = half := by
    rw [List.length_drop]
    omega
  have copied : copyForward half 0 (latencies.length - half) latencies =
      latencies.drop half ++ latencies.drop (latencies.length - half) := by
    rw [copyForward_eq (Nat.zero_le _) (by omega)]
    simp
  rw [slide, copied, resize, List.take_left' newer, List.length_append, newer]
  simp

/-- One more value behind what is kept of a window. -/
theorem RecentWindow.snoc {recorded window kept : List UInt32}
    (recent : RecentWindow recorded window) (suffix : kept <:+ window)
    (long : min window.length (maxLatencies / 2) ≤ kept.length) (room : kept.length < maxLatencies)
    (latencyMs : UInt32) : RecentWindow (recorded ++ [latencyMs]) (kept ++ [latencyMs]) where
  suffix := by
    rcases suffix.trans recent.suffix with ⟨older, split⟩
    refine ⟨older, ?_⟩
    rw [← split, List.append_assoc]
  long := by
    have before := recent.long
    rw [List.length_append, List.length_append, List.length_singleton]
    omega
  short := by
    rw [List.length_append, List.length_singleton]
    exact room

theorem recordLatency_recent {recorded : List UInt32} {statistics : LatencyStatistics}
    (recent : RecentWindow recorded statistics.latencies) (latencyMs : UInt32) :
    RecentWindow (recorded ++ [latencyMs]) (statistics.recordLatency latencyMs).latencies := by
  have short := recent.short
  unfold recordLatency
  by_cases full : maxLatencies ≤ statistics.latencies.length
  · have halves : statistics.latencies.length = maxLatencies / 2 + maxLatencies / 2 := by
      unfold maxLatencies at short full ⊢
      omega
    simp only [if_pos full, slide_eq halves]
    apply recent.snoc (List.drop_suffix _ _)
    · rw [List.length_drop]
      omega
    · rw [List.length_drop]
      unfold maxLatencies at halves ⊢
      omega
  · simp only [if_neg full]
    apply recent.snoc List.suffix_rfl
    · omega
    · omega

/-! ## The report -/

/-- What `update` reports of a window. -/
structure Summarizes (window : List UInt32) (report : LatencyReport) : Prop where
  sumFits : (window.map UInt32.toNat).sum < 2 ^ 64
  average : report.avgResponseLatencyMs.toNat = mean (window.map UInt32.toNat)
  ranks : ∃ sorted : List UInt32, sorted.Perm window ∧ sorted.Pairwise (· ≤ ·) ∧
    sorted[(window.length - 1) * 50 / 100]? = some report.p50ResponseLatencyMs ∧
      sorted[(window.length - 1) * 95 / 100]? = some report.p95ResponseLatencyMs ∧
        sorted[(window.length - 1) * 99 / 100]? = some report.p99ResponseLatencyMs
  ordered : report.p50ResponseLatencyMs ≤ report.p95ResponseLatencyMs ∧
    report.p95ResponseLatencyMs ≤ report.p99ResponseLatencyMs
  bounded : ∃ least greatest, IsExtremes window least greatest ∧
    least ≤ report.p50ResponseLatencyMs ∧ report.p99ResponseLatencyMs ≤ greatest ∧
      least ≤ report.avgResponseLatencyMs ∧ report.avgResponseLatencyMs ≤ greatest

theorem less_weak (latencies : List UInt32) :
    StrictWeakOn (fun first second => decide (first < second)) latencies where
  irrefl := by
    intro a _
    simp
  trans := by
    intro a _ b _ c _ first second
    simp only [decide_eq_true_eq] at first second ⊢
    exact UInt32.lt_trans first second
  notLess_trans := by
    intro a _ b _ c _ first second
    simp only [decide_eq_false_iff_not, UInt32.not_lt] at first second ⊢
    exact UInt32.le_trans second first

theorem sort_sorted (sorting : UnstableSort UInt32) (latencies : List UInt32) :
    (sorting.sort (fun first second => decide (first < second)) latencies).Pairwise (· ≤ ·) := by
  apply (sorting.sorted (less_weak latencies)).imp
  intro a b notLess
  simpa using notLess

/-- So many latencies as the vector holds do not overflow the sum. -/
theorem sum_fits {latencies : List UInt32} (short : latencies.length ≤ maxLatencies) :
    (latencies.map UInt32.toNat).sum < 2 ^ 64 := by
  have bound : ∀ number ∈ latencies.map UInt32.toNat, number ≤ 2 ^ 32 := by
    rw [List.forall_mem_map]
    intro latencyMs _
    exact Nat.le_of_lt latencyMs.toNat_lt
  have total := List.sum_le_card_nsmul _ _ bound
  rw [List.length_map] at total
  calc (latencies.map UInt32.toNat).sum
      ≤ latencies.length * 2 ^ 32 := total
    _ ≤ maxLatencies * 2 ^ 32 := Nat.mul_le_mul_right _ short
    _ < 2 ^ 64 := by decide

/-- Every percentage has an element. -/
theorem exists_rank {sorted : List UInt32} {percent : ℕ} (part : percent ≤ 100)
    (nonempty : 0 < sorted.length) :
    ∃ latencyMs, sorted[(sorted.length - 1) * percent / 100]? = some latencyMs := by
  have inside := percentileRank_lt part nonempty
  exact ⟨sorted[percentileRank percent sorted.length], List.getElem?_eq_getElem inside⟩

/-- The average of latencies that are not too many, in the arithmetic of the code. -/
theorem average_toNat {latencies sorted : List UInt32} (perm : sorted.Perm latencies)
    (short : latencies.length ≤ maxLatencies) :
    ((sorted.foldl (fun sum latencyMs => sum + latencyMs.toUInt64) (0 : UInt64)) /
      UInt64.ofNat sorted.length).toUInt32.toNat = mean (latencies.map UInt32.toNat) := by
  have sums : (sorted.map UInt32.toNat).sum = (latencies.map UInt32.toNat).sum :=
    (perm.map _).sum_eq
  have below : mean (latencies.map UInt32.toNat) ≤ 2 ^ 32 - 1 := by
    apply mean_le
    rw [List.forall_mem_map]
    intro latencyMs _
    exact Nat.le_sub_one_of_lt latencyMs.toNat_lt
  have fits := sum_fits short
  have count : (UInt64.ofNat sorted.length).toNat = latencies.length := by
    rw [perm.length_eq]
    apply UInt64.toNat_ofNat_of_lt'
    unfold maxLatencies at short
    have small : 100000 < UInt64.size := by decide
    omega
  unfold mean at below ⊢
  rw [List.length_map] at below ⊢
  rw [UInt64.toNat_toUInt32, UInt64.toNat_div, toNat_sum sorted 0 (by simpa [sums] using fits),
    count, sums]
  simp only [UInt64.toNat_zero, Nat.zero_add]
  apply Nat.mod_eq_of_lt
  omega

/-- The mean is between the extremes. -/
theorem average_between {latencies : List UInt32} {least greatest average : UInt32}
    (extremes : IsExtremes latencies least greatest)
    (isMean : average.toNat = mean (latencies.map UInt32.toNat)) :
    least ≤ average ∧ average ≤ greatest := by
  rw [UInt32.le_iff_toNat_le, UInt32.le_iff_toNat_le, isMean]
  have nonempty : latencies.map UInt32.toNat ≠ [] :=
    List.ne_nil_of_mem (List.mem_map_of_mem extremes.least_mem)
  refine ⟨le_mean nonempty ?_, mean_le ?_⟩
  · rw [List.forall_mem_map]
    intro latencyMs isIn
    exact UInt32.le_iff_toNat_le.mp (extremes.between latencyMs isIn).1
  · rw [List.forall_mem_map]
    intro latencyMs isIn
    exact UInt32.le_iff_toNat_le.mp (extremes.between latencyMs isIn).2

/-- No index is out of range, and the report is that of the window. -/
theorem calculatePercentiles_summarizes (sorting : UnstableSort UInt32)
    {statistics : LatencyStatistics} (nonempty : statistics.latencies ≠ [])
    (short : statistics.latencies.length ≤ maxLatencies) :
    ∃ after, statistics.calculatePercentiles sorting = some after ∧
      after.latencies = statistics.latencies ∧
        Summarizes statistics.latencies after.getStatistics := by
  have perm := sorting.perm (less_weak statistics.latencies)
  have ascends := sort_sorted sorting statistics.latencies
  have average := average_toNat perm short
  unfold calculatePercentiles
  rw [if_neg (by simpa using nonempty)]
  generalize sorting.sort (fun first second => decide (first < second)) statistics.latencies =
    sorted at perm ascends average ⊢
  have filled : 0 < sorted.length := by
    rw [perm.length_eq]
    exact List.length_pos_of_ne_nil nonempty
  rcases exists_rank (by decide : 50 ≤ 100) filled with ⟨p50, isP50⟩
  rcases exists_rank (by decide : 95 ≤ 100) filled with ⟨p95, isP95⟩
  rcases exists_rank (by decide : 99 ≤ 100) filled with ⟨p99, isP99⟩
  rcases exists_extremes ascends filled with ⟨least, greatest, sortedExtremes⟩
  have extremes := sortedExtremes.congr fun _ => perm.mem_iff
  have within : ∀ {rank : ℕ} {latencyMs : UInt32}, sorted[rank]? = some latencyMs →
      least ≤ latencyMs ∧ latencyMs ≤ greatest := by
    intro rank latencyMs place
    exact extremes.between latencyMs (perm.subset (List.mem_of_getElem? place))
  simp only [isP50, isP95, isP99, Option.bind_some]
  refine ⟨_, rfl, rfl, ?_⟩
  constructor
  case sumFits => exact sum_fits short
  case average => exact average
  case ranks =>
    refine ⟨sorted, perm, ascends, ?_⟩
    rw [← perm.length_eq]
    exact ⟨isP50, isP95, isP99⟩
  case ordered =>
    refine ⟨?_, ?_⟩
    · exact le_of_rank_le ascends (percentileRank_mono (by decide : 50 ≤ 95) _) isP50 isP95
    · exact le_of_rank_le ascends (percentileRank_mono (by decide : 95 ≤ 99) _) isP95 isP99
  case bounded =>
    exact ⟨least, greatest, extremes, (within isP50).1, (within isP99).2,
      average_between extremes average⟩

/-! ## Sequences of calls -/

theorem RecentWindow.eq_nil_iff {recorded window : List UInt32}
    (recent : RecentWindow recorded window) : window = [] ↔ recorded = [] := by
  have long := recent.long
  refine ⟨?_, ?_⟩
  · rintro rfl
    rw [List.length_nil] at long
    apply List.eq_nil_of_length_eq_zero
    omega
  · rintro rfl
    exact List.eq_nil_of_suffix_nil recent.suffix

/-- One call. -/
theorem step_recent (sorting : UnstableSort UInt32) {earlier : List UInt32}
    {statistics : LatencyStatistics} (recent : RecentWindow earlier statistics.latencies)
    (call : LatencyCall) :
    ∃ next, statistics.step sorting call = some next ∧
      RecentWindow (earlier ++ recorded [call]) next.latencies := by
  cases call with
  | recordLatency latencyMs => exact ⟨_, rfl, recordLatency_recent recent latencyMs⟩
  | update =>
      rw [recorded, recorded, List.append_nil]
      by_cases nonempty : statistics.latencies = []
      · refine ⟨_, by rw [step, calculatePercentiles, nonempty]; rfl, ?_⟩
        simpa [nonempty] using recent
      · rcases calculatePercentiles_summarizes sorting nonempty recent.short with
          ⟨next, calculated, same, _⟩
        exact ⟨next, calculated, by rwa [same]⟩

theorem recorded_cons (call : LatencyCall) (calls : List LatencyCall) :
    recorded (call :: calls) = recorded [call] ++ recorded calls := by
  cases call with
  | recordLatency latencyMs | update => rfl

theorem run_recent (sorting : UnstableSort UInt32) {earlier : List UInt32}
    {statistics : LatencyStatistics} (recent : RecentWindow earlier statistics.latencies)
    (calls : List LatencyCall) :
    ∃ final, Interleaving.run (step sorting) statistics calls = some final ∧
      RecentWindow (earlier ++ recorded calls) final.latencies := by
  induction calls generalizing earlier statistics with
  | nil => exact ⟨statistics, rfl, by simpa [recorded] using recent⟩
  | cons call calls ih =>
      rcases step_recent sorting recent call with ⟨next, stepped, stepRecent⟩
      rcases ih stepRecent with ⟨final, ran, finalRecent⟩
      refine ⟨final, Interleaving.run_cons_eq_some_iff.mpr ⟨next, stepped, ran⟩, ?_⟩
      rwa [recorded_cons, ← List.append_assoc]

/-- Recording changes no report. -/
theorem getStatistics_run_recordLatency (sorting : UnstableSort UInt32)
    (statistics : LatencyStatistics) (latencies : List UInt32) :
    ∃ final, Interleaving.run (step sorting) statistics
        (latencies.map LatencyCall.recordLatency) = some final ∧
      final.getStatistics = statistics.getStatistics := by
  induction latencies generalizing statistics with
  | nil => exact ⟨statistics, rfl, rfl⟩
  | cons latencyMs latencies ih =>
      rcases ih (statistics.recordLatency latencyMs) with ⟨final, ran, same⟩
      exact ⟨final, Interleaving.run_cons_eq_some_iff.mpr ⟨_, rfl, ran⟩, same⟩

/-- For every sequence of calls that records something: the latencies are a recent window, and the
next `update` reports that window, until another one. -/
theorem latencies_recent (sorting : UnstableSort UInt32) {calls : List LatencyCall}
    (nonempty : recorded calls ≠ []) :
    ∃ statistics, Interleaving.run (step sorting) construct calls = some statistics ∧
      RecentWindow (recorded calls) statistics.latencies ∧
        ∀ later : List UInt32, ∃ after, Interleaving.run (step sorting) statistics
            (.update :: later.map LatencyCall.recordLatency) = some after ∧
          Summarizes statistics.latencies after.getStatistics := by
  have initially : RecentWindow [] construct.latencies := by
    constructor <;> simp [construct]
  rcases run_recent sorting initially calls with ⟨statistics, ran, recent⟩
  refine ⟨statistics, ran, recent, ?_⟩
  intro later
  have filled : statistics.latencies ≠ [] := by
    intro empty
    exact nonempty ((RecentWindow.eq_nil_iff recent).mp empty)
  rcases calculatePercentiles_summarizes sorting filled recent.short with
    ⟨updated, calculated, _, summarizes⟩
  rcases getStatistics_run_recordLatency sorting updated later with ⟨after, continued, same⟩
  refine ⟨after, Interleaving.run_cons_eq_some_iff.mpr ⟨updated, calculated, continued⟩, ?_⟩
  rwa [same]

theorem latencies_recent_three :
    ∃ statistics, Interleaving.run (step (insertionSort UInt32)) construct
        [.recordLatency 30, .update, .recordLatency 10, .recordLatency 25] = some statistics ∧
      RecentWindow (recorded
        [.recordLatency 30, .update, .recordLatency 10, .recordLatency 25]) statistics.latencies ∧
        ∀ later : List UInt32, ∃ after, Interleaving.run (step (insertionSort UInt32)) statistics
            (.update :: later.map LatencyCall.recordLatency) = some after ∧
          Summarizes statistics.latencies after.getStatistics :=
  latencies_recent (insertionSort UInt32) (by decide)

end LatencyStatistics

end HttpsServerSim
