import Mathlib.Algebra.BigOperators.Intervals
import Mathlib.Algebra.Order.BigOperators.Group.Finset
import Mathlib.Data.List.Infix
import MadRpc.Metrics.SnapshotContainment

set_option autoImplicit false

namespace MadRpc

def Percentile.get (metrics : MethodMetrics) : Percentile → UInt64
  | p50 => metrics.p50LatencyUs
  | p95 => metrics.p95LatencyUs
  | p99 => metrics.p99LatencyUs

theorem Percentile.get_store (estimate : UInt64) (metrics : MethodMetrics)
    (percentile other : Percentile) :
    other.get (percentile.store estimate metrics) =
      if other = percentile then estimate else other.get metrics := by
  cases percentile <;> cases other <;> rfl

namespace Counter

theorem owed_ofUpdate {get : MethodStats → UInt64} {kind : Update} {weight : MethodCall → Nat}
    {fresh adds spares} (call : MethodCall) (updates : List Update) :
    (ofUpdate get kind weight fresh adds spares).owed call updates =
      updates.count kind * weight call :=
  tally_const_of_mem kind (weight call) updates

end Counter

/-- Of what a call has still to do, the bin comes before the count of the samples. -/
theorem Update.bin_first {rest : List Update} (suffix : rest <:+ recording) :
    rest.count .bin ≤ rest.count .sampleCount ∧ rest.count .sampleCount ≤ 1 := by
  have each : ∀ rest ∈ recording.tails,
      rest.count .bin ≤ rest.count .sampleCount ∧ rest.count .sampleCount ≤ 1 := by decide
  exact each rest ((List.mem_tails _ _).mpr suffix)

namespace ConcurrentMetrics

/-! ## The samples and the bins -/

def weight (state : ConcurrentMetrics) (entry bin : Nat) : Nat :=
  if within : bin < NUM_HISTOGRAM_BINS then state.counted (.bin ⟨bin, within⟩) entry else 0

theorem Later.weight {before after : ConcurrentMetrics} (later : Later before after)
    (entry bin : Nat) : before.weight entry bin ≤ after.weight entry bin := by
  rw [ConcurrentMetrics.weight, ConcurrentMetrics.weight]
  split
  next within => exact later.counted (.bin ⟨bin, within⟩) entry
  next => exact Nat.le_refl 0

theorem sum_weight (state : ConcurrentMetrics) (entry : Nat) :
    ∑ bin ∈ Finset.Ico 0 NUM_HISTOGRAM_BINS, state.weight entry bin =
      tally (fun active => ∑ bin : Fin NUM_HISTOGRAM_BINS, (Counter.bin bin).added entry active)
        state.calls := by
  rw [← sum_tally, Nat.Ico_zero_eq_range, ← Fin.sum_univ_eq_sum_range]
  refine Finset.sum_congr rfl fun bin _ => ?_
  rw [weight, dif_pos bin.isLt]
  rfl

theorem sum_added_bin (entry : Nat) (active : ActiveCall) (rest : List Update)
    (program : active.point.program = some (entry, rest)) :
    ∑ bin : Fin NUM_HISTOGRAM_BINS, (Counter.bin bin).added entry active =
      1 - rest.count .bin := by
  have each (bin : Fin NUM_HISTOGRAM_BINS) : (Counter.bin bin).added entry active =
      if LatencyHistogram.binOf active.call.latencyUs = bin then 1 - rest.count .bin else 0 := by
    have left : (Counter.bin bin).owed active.call rest = rest.count .bin *
        if LatencyHistogram.binOf active.call.latencyUs = bin then 1 else 0 :=
      Counter.owed_ofUpdate active.call rest
    rw [Counter.added_of_program program, if_pos rfl, Counter.owed_bin, left]
    split <;> simp
  simp only [each, Finset.sum_ite_eq, Finset.mem_univ, if_true]

theorem added_sampleCount (entry : Nat) (active : ActiveCall) (rest : List Update)
    (program : active.point.program = some (entry, rest)) :
    Counter.sampleCount.added entry active = 1 - rest.count .sampleCount := by
  have left : Counter.sampleCount.owed active.call rest = rest.count .sampleCount * 1 :=
    Counter.owed_ofUpdate active.call rest
  rw [Counter.added_of_program program, if_pos rfl, Counter.owed_sampleCount, left, Nat.mul_one]

theorem added_elsewhere (counter : Counter) (entry : Nat) (active : ActiveCall)
    (other : ∀ rest, active.point.program ≠ some (entry, rest)) :
    counter.added entry active = 0 := by
  cases program : active.point.program with
  | none => exact Counter.added_of_idle program
  | some running =>
      obtain ⟨own, rest⟩ := running
      have different : own ≠ entry := by
        rintro rfl
        exact other rest program
      rw [Counter.added_of_program program, if_neg different]

theorem samples_le_bins (state : ConcurrentMetrics) (sound : Sound state) (entry : Nat) :
    state.counted .sampleCount entry ≤
        ∑ bin ∈ Finset.Ico 0 NUM_HISTOGRAM_BINS, state.weight entry bin ∧
      ∑ bin ∈ Finset.Ico 0 NUM_HISTOGRAM_BINS, state.weight entry bin ≤ state.calls.length := by
  obtain ⟨owner, owned⟩ := sound.owned
  have each : ∀ active ∈ state.calls, Counter.sampleCount.added entry active ≤
        ∑ bin : Fin NUM_HISTOGRAM_BINS, (Counter.bin bin).added entry active ∧
      ∑ bin : Fin NUM_HISTOGRAM_BINS, (Counter.bin bin).added entry active ≤ 1 := by
    intro active member
    by_cases here : ∃ rest, active.point.program = some (entry, rest)
    · obtain ⟨rest, program⟩ := here
      have suffix := ((owned.held active member).program entry rest program).2
      have first := Update.bin_first suffix
      rw [sum_added_bin entry active rest program,
        added_sampleCount entry active rest program]
      omega
    · rw [not_exists] at here
      simp only [added_elsewhere _ entry active here, Finset.sum_const_zero]
      exact ⟨Nat.le_refl 0, Nat.zero_le 1⟩
  rw [sum_weight]
  exact ⟨tally_le_tally fun active member => (each active member).1,
    tally_le_length _ fun active member => (each active member).2⟩

theorem weight_toNat {state : ConcurrentMetrics} (sound : Sound state)
    (few : state.calls.length < 2 ^ 64) {entry bin : Nat}
    (inside : entry < state.registry.allocated) (within : bin < NUM_HISTOGRAM_BINS) :
    (state.registry.stats entry).latencies.bins[bin].toNat = state.weight entry bin := by
  rw [weight, dif_pos within]
  have once (call : MethodCall) : (Counter.bin ⟨bin, within⟩).owed call Update.recording ≤ 1 := by
    rw [Counter.owed_bin]
    split <;> decide
  exact counter_toNat sound few once inside

theorem samples_toNat {state : ConcurrentMetrics} (sound : Sound state)
    (few : state.calls.length < 2 ^ 64) {entry : Nat}
    (inside : entry < state.registry.allocated) :
    (state.registry.stats entry).latencies.sampleCount.toNat =
      state.counted .sampleCount entry :=
  counter_toNat sound few (fun call => Nat.le_of_eq (Counter.owed_sampleCount call)) inside

end ConcurrentMetrics

/-! ## A scan while samples are recorded -/

/-- A count is loaded that has been reached since the snapshot began. -/
def Loaded (counted : ConcurrentMetrics → Nat) (first now : ConcurrentMetrics) (count : UInt64) :
    Prop :=
  counted first ≤ count.toNat ∧ count.toNat ≤ counted now

def samplesOf (entry : Nat) (state : ConcurrentMetrics) : Nat := state.counted .sampleCount entry

def weightBefore (entry index : Nat) (state : ConcurrentMetrics) : Nat :=
  ∑ bin ∈ Finset.Ico 0 index, state.weight entry bin

theorem weightBefore_later {now next : ConcurrentMetrics} (later : now.Later next)
    (entry index : Nat) : weightBefore entry index now ≤ weightBefore entry index next :=
  Finset.sum_le_sum fun bin _ => later.weight entry bin

theorem Loaded.later {counted : ConcurrentMetrics → Nat} {first now next : ConcurrentMetrics}
    {count : UInt64} (loaded : Loaded counted first now count)
    (grows : counted now ≤ counted next) : Loaded counted first next count :=
  ⟨loaded.1, Nat.le_trans loaded.2 grows⟩

/-- The scan for the percentile of these samples stops at a bin that takes what it has counted
to its target. -/
structure StopsAt (first now : ConcurrentMetrics) (entry : Nat) (percentile : Percentile)
    (samples : UInt64) (found : Crossing UInt64) : Prop where
  within : found.index < NUM_HISTOGRAM_BINS
  sampled : samples ≠ 0 ∧ Loaded (samplesOf entry) first now samples
  before : Loaded (weightBefore entry found.index) first now found.before
  inBin : Loaded (fun state => state.weight entry found.index) first now found.weight
  below : found.before ≤ samples * percentile.rank / 100
  short : found.index = 0 ∨ found.before < samples * percentile.rank / 100
  reached : (samples * percentile.rank / 100).toNat ≤ found.before.toNat + found.weight.toNat

def Located (first now : ConcurrentMetrics) (entry : Nat) (percentile : Percentile)
    (estimate : UInt64) : Prop :=
  ∃ samples found, StopsAt first now entry percentile samples found ∧
    estimate = LatencyHistogram.interpolate (samples * percentile.rank / 100) found

namespace StopsAt

variable {first now next : ConcurrentMetrics} {entry : Nat} {percentile : Percentile}
  {samples : UInt64} {found : Crossing UInt64}

theorem later (stops : StopsAt first now entry percentile samples found)
    (later : now.Later next) : StopsAt first next entry percentile samples found where
  within := stops.within
  sampled := stops.sampled.imp id fun loaded => loaded.later (later.counted _ _)
  before := stops.before.later (weightBefore_later later _ _)
  inBin := stops.inBin.later (later.weight entry found.index)
  below := stops.below
  short := stops.short
  reached := stops.reached

theorem bounds (stops : StopsAt first now entry percentile samples found) :
    LatencyHistogram.binToLatency found.index ≤
        LatencyHistogram.interpolate (samples * percentile.rank / 100) found ∧
      LatencyHistogram.interpolate (samples * percentile.rank / 100) found ≤
        LatencyHistogram.binToLatency (found.index + 1) := by
  refine LatencyHistogram.interpolate_bounds stops.within ?_
  have reached := stops.reached
  rw [UInt64.toNat_sub_of_le _ _ stops.below]
  omega

end StopsAt

theorem Located.later {first now next : ConcurrentMetrics} {entry : Nat}
    {percentile : Percentile} {estimate : UInt64}
    (located : Located first now entry percentile estimate)
    (later : now.Later next) : Located first next entry percentile estimate := by
  obtain ⟨samples, found, stops, same⟩ := located
  exact ⟨samples, found, stops.later later, same⟩

structure Scanning (first now : ConcurrentMetrics) (entry : Nat) (targetCount : UInt64)
    (index : Nat) (cumulativeCount : UInt64) : Prop where
  inside : index ≤ NUM_HISTOGRAM_BINS
  before : cumulativeCount.toNat ≤ targetCount.toNat
  short : index = 0 ∨ cumulativeCount.toNat < targetCount.toNat
  passed : Loaded (weightBefore entry index) first now cumulativeCount
  covered : targetCount.toNat ≤
    cumulativeCount.toNat + ∑ bin ∈ Finset.Ico index NUM_HISTOGRAM_BINS, now.weight entry bin

namespace Scanning

variable {first now next : ConcurrentMetrics} {entry index : Nat}
  {targetCount cumulativeCount : UInt64}

theorem later (scanning : Scanning first now entry targetCount index cumulativeCount)
    (later : now.Later next) : Scanning first next entry targetCount index cumulativeCount where
  inside := scanning.inside
  before := scanning.before
  short := scanning.short
  passed := scanning.passed.later (weightBefore_later later _ _)
  covered := Nat.le_trans scanning.covered
    (Nat.add_le_add_left (Finset.sum_le_sum fun bin _ => later.weight entry bin) _)

theorem within (scanning : Scanning first now entry targetCount index cumulativeCount) :
    index < NUM_HISTOGRAM_BINS := by
  refine Nat.lt_of_le_of_ne scanning.inside fun ended => ?_
  have covered := scanning.covered
  rw [ended, Finset.Ico_self, Finset.sum_empty] at covered
  rcases scanning.short with started | short
  · rw [ended] at started
    cases started
  · exact absurd short (Nat.not_lt.mpr covered)

theorem begin (first : ConcurrentMetrics) (sound : now.Sound) (few : now.calls.length < 2 ^ 64)
    (allocated : entry < now.registry.allocated) (percentile : Percentile) :
    Scanning first now entry
      ((now.registry.stats entry).latencies.sampleCount * percentile.rank / 100) 0 0 where
  inside := Nat.zero_le _
  before := Nat.zero_le _
  short := .inl rfl
  passed := ⟨Nat.zero_le _, Nat.zero_le _⟩
  covered := by
    have target := @LatencyHistogram.targetCount_le_sampleCount percentile.rank
      (by cases percentile <;> decide) (now.registry.stats entry).latencies
    have samples := now.samples_toNat sound few allocated
    have bins := (now.samples_le_bins sound entry).1
    rw [LatencyHistogram.targetCount, UInt64.le_iff_toNat_le] at target
    rw [UInt64.toNat_zero, Nat.zero_add]
    omega

theorem sum_toNat (scanning : Scanning first now entry targetCount index cumulativeCount)
    (sound : now.Sound) (few : now.calls.length < 2 ^ 64)
    (allocated : entry < now.registry.allocated) {binCount : UInt64}
    (here : (now.registry.stats entry).latencies.bins[index]? = some binCount) :
    binCount.toNat = now.weight entry index ∧
      (cumulativeCount + binCount).toNat = cumulativeCount.toNat + binCount.toNat := by
  have within := scanning.within
  obtain rfl : (now.registry.stats entry).latencies.bins[index] = binCount :=
    (Vector.getElem?_eq_some_iff.mp here).2
  have weighed := now.weight_toNat sound few allocated within
  have passed : cumulativeCount.toNat ≤ ∑ bin ∈ Finset.Ico 0 index, now.weight entry bin :=
    scanning.passed.2
  have all := (now.samples_le_bins sound entry).2
  rw [← Finset.sum_Ico_consecutive _ (Nat.zero_le index) scanning.inside,
    Finset.sum_eq_sum_Ico_succ_bot within] at all
  refine ⟨weighed, ?_⟩
  rw [UInt64.toNat_add, Nat.mod_eq_of_lt]
  omega

theorem reached {percentile : Percentile} {samples : UInt64}
    (scanning : Scanning first now entry (samples * percentile.rank / 100) index cumulativeCount)
    (sound : now.Sound) (few : now.calls.length < 2 ^ 64) (since : first.Later now)
    (allocated : entry < now.registry.allocated)
    (sampled : samples ≠ 0 ∧ Loaded (samplesOf entry) first now samples) {binCount : UInt64}
    (here : (now.registry.stats entry).latencies.bins[index]? = some binCount)
    (crossed : samples * percentile.rank / 100 ≤ cumulativeCount + binCount) :
    StopsAt first now entry percentile samples ⟨index, cumulativeCount, binCount⟩ := by
  obtain ⟨weighed, sum⟩ := scanning.sum_toNat sound few allocated here
  rw [UInt64.le_iff_toNat_le, sum] at crossed
  exact {
    within := scanning.within
    sampled := sampled
    before := scanning.passed
    inBin := ⟨weighed ▸ since.weight entry index, Nat.le_of_eq weighed⟩
    below := UInt64.le_iff_toNat_le.mpr scanning.before
    short := scanning.short.imp id UInt64.lt_iff_toNat_lt.mpr
    reached := crossed }

end Scanning

def Percentile.stage : Percentile → Nat
  | p50 => 0
  | p95 => 1
  | p99 => 2

def Unranked (metrics : MethodMetrics) : Prop :=
  metrics.avgLatencyUs = 0 ∧ ∀ percentile : Percentile, percentile.get metrics = 0

structure Estimated (first now : ConcurrentMetrics) (entry stage : Nat)
    (metrics : MethodMetrics) : Prop where
  sampled : 1 ≤ now.counted .sampleCount entry
  ranked : ∀ percentile : Percentile, percentile.stage < stage →
    Located first now entry percentile (percentile.get metrics)

def Ranked (first now : ConcurrentMetrics) (entry : Nat) (reading : MethodReading) : Prop :=
  match reading.next with
  | .callCount | .successCount | .failureCount | .sampleCount => Unranked reading.metrics
  | .totalLatency _ => Estimated first now entry 0 reading.metrics
  | .total percentile => Estimated first now entry percentile.stage reading.metrics
  | .bin percentile targetCount index cumulativeCount =>
      Estimated first now entry percentile.stage reading.metrics ∧
        Scanning first now entry targetCount index cumulativeCount ∧
        ∃ samples : UInt64, targetCount = samples * percentile.rank / 100 ∧
          samples ≠ 0 ∧ Loaded (samplesOf entry) first now samples
  | .finished => Unranked reading.metrics ∨ Estimated first now entry 3 reading.metrics

section

variable {first now next : ConcurrentMetrics} {entry stage : Nat} {metrics : MethodMetrics}

theorem Estimated.later (estimated : Estimated first now entry stage metrics)
    (later : now.Later next) : Estimated first next entry stage metrics :=
  ⟨Nat.le_trans estimated.sampled (later.counted _ _), fun percentile earlier =>
    (estimated.ranked percentile earlier).later later⟩

theorem Estimated.store {percentile : Percentile} {estimate : UInt64}
    (estimated : Estimated first now entry percentile.stage metrics)
    (located : Located first now entry percentile estimate) :
    Estimated first now entry (percentile.stage + 1) (percentile.store estimate metrics) where
  sampled := estimated.sampled
  ranked other earlier := by
    rw [Percentile.get_store]
    split
    next same => exact same ▸ located
    next different =>
      refine estimated.ranked other (Nat.lt_of_le_of_ne (Nat.le_of_lt_succ earlier) ?_)
      intro same
      cases percentile <;> cases other <;> first | exact different rfl | cases same

theorem Ranked.later {reading : MethodReading} (ranked : Ranked first now entry reading)
    (later : now.Later next) : Ranked first next entry reading := by
  obtain ⟨metrics, next⟩ := reading
  cases next with
  | callCount | successCount | failureCount | sampleCount => exact ranked
  | totalLatency _ | total _ => exact Estimated.later ranked later
  | bin =>
      obtain ⟨estimated, scanning, samples, target, counted, sampled⟩ := ranked
      exact ⟨estimated.later later, scanning.later later, samples, target, counted,
        sampled.later (later.counted _ _)⟩
  | finished => exact ranked.imp id fun estimated => estimated.later later

end

namespace ObservedMetrics

def scanned : Snapshotting where
  totalRequests := 2
  successfulRequests := 1
  failedRequests := 1
  methods := [("sum", ⟨2, 1, 1, 7, 7, 7, 7⟩)]
  point := .entry []

end ObservedMetrics

end MadRpc
