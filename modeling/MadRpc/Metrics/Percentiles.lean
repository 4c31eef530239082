import Mathlib.Data.List.Induction
import MadRpc.Common.Cast
import MadRpc.Metrics.LatencyBins
import MadRpc.Shared.RunningSum

set_option autoImplicit false

namespace MadRpc.LatencyHistogram

def recordAll (latencies : List UInt64) : LatencyHistogram :=
  latencies.foldl (fun histogram latencyUs => histogram.record latencyUs) .new

def targetCount (percentile : UInt64) (histogram : LatencyHistogram) : UInt64 :=
  histogram.sampleCount * percentile / 100

def scan (percentile : UInt64) (histogram : LatencyHistogram) : Option (Crossing UInt64) :=
  RunningSum.crossing (histogram.targetCount percentile) histogram.bins.toList 0 0

/-- The division and the product of floats are exact here. -/
def interpolate (targetCount : UInt64) (found : Crossing UInt64) : UInt64 :=
  let binStart := binToLatency found.index
  let binEnd := binToLatency (found.index + 1)
  if found.weight = 0 then (binStart + binEnd) / 2
  else
    let offsetInBin := targetCount - found.before
    let fraction : Rat := offsetInBin.toNat / found.weight.toNat
    castU64 (binStart.toNat + fraction * (binEnd - binStart).toNat)

def estimatePercentile (percentile : UInt64) (histogram : LatencyHistogram) : UInt64 :=
  if histogram.sampleCount = 0 then 0
  else
    match histogram.scan percentile with
    | some found => interpolate (histogram.targetCount percentile) found
    | none => binToLatency NUM_HISTOGRAM_BINS

def calculatePercentiles (histogram : LatencyHistogram) : UInt64 × UInt64 × UInt64 × UInt64 :=
  let total := histogram.sampleCount
  if total = 0 then (0, 0, 0, 0)
  else
    (histogram.totalLatency / total, histogram.estimatePercentile 50,
      histogram.estimatePercentile 95, histogram.estimatePercentile 99)

/-! ## What is recorded -/

theorem recordAll_concat (latencies : List UInt64) (latencyUs : UInt64) :
    recordAll (latencies ++ [latencyUs]) = (recordAll latencies).record latencyUs :=
  List.foldl_append

theorem recordAll_sampleCount (latencies : List UInt64) :
    (recordAll latencies).sampleCount = UInt64.ofNat latencies.length := by
  induction latencies using List.reverseRecOn with
  | nil => rfl
  | append_singleton latencies latencyUs ih =>
      rw [recordAll_concat, List.length_append, UInt64.ofNat_add, ← ih]
      rfl

theorem record_total (latencyUs : UInt64) (histogram : LatencyHistogram) :
    RunningSum.total 0 (histogram.record latencyUs).bins.toList =
      RunningSum.total 0 histogram.bins.toList + 1 := by
  have there : histogram.bins.toList[(binOf latencyUs).val]? =
      some histogram.bins[binOf latencyUs] := by
    rw [Vector.getElem?_toList, Vector.getElem?_eq_getElem (binOf latencyUs).isLt]
    rfl
  have set : (histogram.record latencyUs).bins.toList =
      histogram.bins.toList.set (binOf latencyUs) (histogram.bins[binOf latencyUs] + 1) :=
    Vector.toList_set (binOf latencyUs).isLt
  rw [set, RunningSum.total_set 0 1 there]

theorem recordAll_total (latencies : List UInt64) :
    RunningSum.total 0 (recordAll latencies).bins.toList = (recordAll latencies).sampleCount := by
  induction latencies using List.reverseRecOn with
  | nil => decide +kernel
  | append_singleton latencies latencyUs ih =>
      rw [recordAll_concat, record_total, ih]
      rfl

theorem mem_of_recordAll_bin {latencies : List UInt64} {bin : Nat}
    (within : bin < NUM_HISTOGRAM_BINS) (counted : (recordAll latencies).bins[bin] ≠ 0) :
    ∃ latencyUs ∈ latencies, latencyToBin latencyUs = bin := by
  induction latencies using List.reverseRecOn with
  | nil => exact absurd (Vector.getElem_replicate within) counted
  | append_singleton latencies latencyUs ih =>
      by_cases same : latencyToBin latencyUs = bin
      · exact ⟨latencyUs, List.mem_append_right _ List.mem_cons_self, same⟩
      · have spared : (recordAll (latencies ++ [latencyUs])).bins[bin] =
            (recordAll latencies).bins[bin] := by
          rw [recordAll_concat]
          exact Vector.getElem_set_ne (binOf latencyUs).isLt within same
        obtain ⟨earlier, member, there⟩ := ih (spared ▸ counted)
        exact ⟨earlier, List.mem_append_left _ member, there⟩

theorem targetCount_le_sampleCount {percentile : UInt64} (within : percentile ≤ 100)
    (histogram : LatencyHistogram) :
    histogram.targetCount percentile ≤ histogram.sampleCount := by
  have hundred : percentile.toNat ≤ 100 := UInt64.le_iff_toNat_le.mp within
  rw [targetCount, UInt64.le_iff_toNat_le, UInt64.toNat_div, UInt64.toNat_mul]
  -- A product that wraps around is only smaller.
  calc histogram.sampleCount.toNat * percentile.toNat % 2 ^ 64 / 100
      ≤ histogram.sampleCount.toNat * percentile.toNat / 100 :=
        Nat.div_le_div_right (Nat.mod_le _ _)
    _ ≤ histogram.sampleCount.toNat * 100 / 100 :=
        Nat.div_le_div_right (Nat.mul_le_mul_left _ hundred)
    _ = histogram.sampleCount.toNat := Nat.mul_div_cancel _ (by decide)

theorem scan_recordAll {percentile : UInt64} (within : percentile ≤ 100)
    (latencies : List UInt64) : ∃ found, (recordAll latencies).scan percentile = some found := by
  refine RunningSum.crossing_isSome ?_ ?_
  · intro empty
    have length := congrArg List.length empty
    rw [Vector.length_toList] at length
    exact absurd length (by decide)
  · rw [recordAll_total]
    exact targetCount_le_sampleCount within _

variable {percentile : UInt64} {histogram : LatencyHistogram} {found : Crossing UInt64}

theorem scan_getElem (scanned : histogram.scan percentile = some found) :
    ∃ within : found.index < NUM_HISTOGRAM_BINS, histogram.bins[found.index] = found.weight := by
  obtain ⟨place, same, there⟩ := RunningSum.crossing_getElem? scanned
  rw [Nat.zero_add] at same
  rw [← same, Vector.getElem?_toList] at there
  exact Vector.getElem?_eq_some_iff.mp there

theorem scan_before (scanned : histogram.scan percentile = some found) :
    found.before ≤ histogram.targetCount percentile := by
  rcases RunningSum.crossing_before scanned with first | below
  · exact first ▸ UInt64.zero_le
  · exact UInt64.le_of_lt below

theorem scan_offset (scanned : histogram.scan percentile = some found) :
    (histogram.targetCount percentile - found.before).toNat ≤ found.weight.toNat := by
  have before := scan_before scanned
  have reached := UInt64.le_iff_toNat_le.mp (RunningSum.crossing_reaches scanned)
  have bounded := found.weight.toNat_lt
  rw [UInt64.toNat_sub_of_le _ _ before]
  rw [UInt64.le_iff_toNat_le] at before
  rw [UInt64.toNat_add] at reached
  omega

theorem binToLatency_mono {bin later : Nat} (le : bin ≤ later)
    (within : later ≤ NUM_HISTOGRAM_BINS) : binToLatency bin ≤ binToLatency later := by
  rw [UInt64.le_iff_toNat_le, binToLatency_toNat (Nat.le_trans le within),
    binToLatency_toNat within]
  exact edge_mono le

theorem binToLatency_room {bin : Nat} (within : bin < NUM_HISTOGRAM_BINS) :
    (binToLatency bin).toNat + (binToLatency (bin + 1)).toNat < 2 ^ 64 := by
  have last : (binToLatency NUM_HISTOGRAM_BINS).toNat = 10000000000 := by decide
  have first := UInt64.le_iff_toNat_le.mp (binToLatency_mono (Nat.le_of_lt within) (Nat.le_refl _))
  have second : (binToLatency (bin + 1)).toNat ≤ _ :=
    UInt64.le_iff_toNat_le.mp (binToLatency_mono within (Nat.le_refl _))
  omega

theorem interpolate_bounds {target : UInt64} (within : found.index < NUM_HISTOGRAM_BINS)
    (offset : (target - found.before).toNat ≤ found.weight.toNat) :
    binToLatency found.index ≤ interpolate target found ∧
      interpolate target found ≤ binToLatency (found.index + 1) := by
  have order := binToLatency_mono (Nat.le_succ found.index) within
  have room := binToLatency_room within
  rw [interpolate]
  generalize binToLatency found.index = binStart at *
  generalize binToLatency (found.index + 1) = binEnd at *
  have width := UInt64.toNat_sub_of_le _ _ order
  split
  next =>
    rw [UInt64.le_iff_toNat_le] at order
    simp only [UInt64.le_iff_toNat_le, UInt64.toNat_div, UInt64.toNat_add, UInt64.reduceToNat]
    omega
  next =>
    have least : (0 : Rat) ≤ (target - found.before).toNat / found.weight.toNat :=
      div_nonneg (Nat.cast_nonneg _) (Nat.cast_nonneg _)
    have most : ((target - found.before).toNat : Rat) / found.weight.toNat ≤ 1 :=
      div_le_one_of_le₀ (Nat.cast_le.mpr offset) (Nat.cast_nonneg _)
    have whole : (binStart.toNat : Rat) + (binEnd - binStart).toNat = binEnd.toNat := by
      rw [width, ← Nat.cast_add, Nat.add_sub_cancel' (UInt64.le_iff_toNat_le.mp order)]
    constructor
    · have above := castU64_mono (le_add_of_nonneg_right (a := (binStart.toNat : Rat))
        (mul_nonneg least (Nat.cast_nonneg (binEnd - binStart).toNat)))
      rwa [castU64_natCast] at above
    · have below := castU64_mono (add_le_add_right
        (mul_le_of_le_one_left (Nat.cast_nonneg (binEnd - binStart).toNat) most) binStart.toNat)
      rwa [whole, castU64_natCast] at below

theorem interpolate_mono {target higher : UInt64} (before : found.before ≤ target)
    (le : target ≤ higher) : interpolate target found ≤ interpolate higher found := by
  rw [interpolate, interpolate]
  split
  next => exact UInt64.le_refl _
  next =>
    have offset : (target - found.before).toNat ≤ (higher - found.before).toNat := by
      rw [UInt64.toNat_sub_of_le _ _ before,
        UInt64.toNat_sub_of_le _ _ (UInt64.le_trans before le)]
      exact Nat.sub_le_sub_right (UInt64.le_iff_toNat_le.mp le) _
    exact castU64_mono (add_le_add_right (mul_le_mul_of_nonneg_right
      (div_le_div_of_nonneg_right (Nat.cast_le.mpr offset) (Nat.cast_nonneg _))
      (Nat.cast_nonneg _)) _)

/-! ## Estimates in order -/

theorem estimatePercentile_scanned (counted : histogram.sampleCount ≠ 0)
    (scanned : histogram.scan percentile = some found) :
    histogram.estimatePercentile percentile =
      interpolate (histogram.targetCount percentile) found := by
  rw [estimatePercentile, if_neg counted, scanned]

theorem interpolate_scanned (scanned : histogram.scan percentile = some found) :
    binToLatency found.index ≤ interpolate (histogram.targetCount percentile) found ∧
      interpolate (histogram.targetCount percentile) found ≤ binToLatency (found.index + 1) := by
  obtain ⟨within, -⟩ := scan_getElem scanned
  exact interpolate_bounds within (scan_offset scanned)

/-- Two scans stop at one place, or the later bin begins where the earlier one has ended. -/
theorem interpolate_ordered {higher : UInt64} {later : Crossing UInt64}
    (targets : histogram.targetCount percentile ≤ histogram.targetCount higher)
    (scanned : histogram.scan percentile = some found)
    (scanned' : histogram.scan higher = some later) :
    interpolate (histogram.targetCount percentile) found ≤
      interpolate (histogram.targetCount higher) later := by
  rcases RunningSum.crossing_mono targets scanned scanned' with same | below
  · exact same ▸ interpolate_mono (scan_before scanned) targets
  · obtain ⟨within, -⟩ := scan_getElem scanned'
    exact UInt64.le_trans (interpolate_scanned scanned).2
      (UInt64.le_trans (binToLatency_mono below (Nat.le_of_lt within))
        (interpolate_scanned scanned').1)

theorem targetCount_mono {higher : UInt64} (le : percentile ≤ higher) (within : higher ≤ 100)
    (room : histogram.sampleCount.toNat * 100 < 2 ^ 64) :
    histogram.targetCount percentile ≤ histogram.targetCount higher := by
  rw [UInt64.le_iff_toNat_le] at le within
  have hundred : higher.toNat ≤ 100 := within
  have least := Nat.mul_le_mul_left histogram.sampleCount.toNat le
  have most := Nat.mul_le_mul_left histogram.sampleCount.toNat hundred
  simp only [targetCount, UInt64.le_iff_toNat_le, UInt64.toNat_div, UInt64.toNat_mul]
  rw [Nat.mod_eq_of_lt (by omega), Nat.mod_eq_of_lt (by omega)]
  exact Nat.div_le_div_right least

theorem calculatePercentiles_estimates (histogram : LatencyHistogram) :
    histogram.calculatePercentiles.2 = (histogram.estimatePercentile 50,
      histogram.estimatePercentile 95, histogram.estimatePercentile 99) := by
  simp only [calculatePercentiles]
  split
  next empty => simp only [estimatePercentile, if_pos empty]
  next => rfl

section Few

variable {latencies : List UInt64} (fewer : latencies.length * 100 < UInt64.size)
include fewer

theorem recordAll_sampleCount_toNat :
    (recordAll latencies).sampleCount.toNat = latencies.length := by
  rw [recordAll_sampleCount]
  exact UInt64.toNat_ofNat_of_lt' (by omega)

theorem recordAll_ordered {higher : UInt64} (le : percentile ≤ higher) (within : higher ≤ 100) :
    (recordAll latencies).estimatePercentile percentile ≤
      (recordAll latencies).estimatePercentile higher := by
  by_cases empty : (recordAll latencies).sampleCount = 0
  · simp only [estimatePercentile, if_pos empty]
    exact UInt64.le_refl 0
  · obtain ⟨found, scanned⟩ := scan_recordAll (UInt64.le_trans le within) latencies
    obtain ⟨later, scanned'⟩ := scan_recordAll within latencies
    have room : (recordAll latencies).sampleCount.toNat * 100 < 2 ^ 64 :=
      (recordAll_sampleCount_toNat fewer).symm ▸ fewer
    rw [estimatePercentile_scanned empty scanned, estimatePercentile_scanned empty scanned']
    exact interpolate_ordered (targetCount_mono le within room) scanned scanned'

theorem recordAll_counted (nonempty : latencies ≠ []) : (recordAll latencies).sampleCount ≠ 0 := by
  intro empty
  have length := recordAll_sampleCount_toNat fewer
  rw [empty] at length
  exact nonempty (List.eq_nil_of_length_eq_zero length.symm)

end Few

theorem percentiles_ordered (latencies : List UInt64)
    (fewer : latencies.length * 100 < UInt64.size) :
    (∀ percentile higher : UInt64, percentile ≤ higher → higher ≤ 100 →
      (recordAll latencies).estimatePercentile percentile ≤
        (recordAll latencies).estimatePercentile higher) ∧
    (∀ avg p50 p95 p99, (recordAll latencies).calculatePercentiles = (avg, p50, p95, p99) →
      p50 ≤ p95 ∧ p95 ≤ p99) ∧
    (latencies ≠ [] → ∀ percentile : UInt64, percentile ≤ 100 →
      ∃ found, (recordAll latencies).scan percentile = some found ∧
        (recordAll latencies).estimatePercentile percentile =
          interpolate ((recordAll latencies).targetCount percentile) found ∧
        found.before ≤ (recordAll latencies).targetCount percentile) := by
  refine ⟨fun _ _ le within => recordAll_ordered fewer le within, ?_, ?_⟩
  · intro avg p50 p95 p99 reported
    have estimates := calculatePercentiles_estimates (recordAll latencies)
    rw [reported] at estimates
    cases estimates
    exact ⟨recordAll_ordered fewer (by decide) (by decide),
      recordAll_ordered fewer (by decide) (by decide)⟩
  · intro nonempty percentile within
    obtain ⟨found, scanned⟩ := scan_recordAll within latencies
    exact ⟨found, scanned, estimatePercentile_scanned (recordAll_counted fewer nonempty) scanned,
      scan_before scanned⟩

theorem percentiles_ordered_witness :
    (recordAll [7, 7, 300]).estimatePercentile 50 ≤ (recordAll [7, 7, 300]).estimatePercentile 95 :=
  (percentiles_ordered [7, 7, 300] (by decide)).1 50 95 (by decide) (by decide)

example : (recordAll [100, 200, 300]).calculatePercentiles = (200, 200, 300, 300) := by
  decide +kernel

/-! ## Estimates within the bins of the data -/

def reported (histogram : LatencyHistogram) : List UInt64 :=
  match histogram.calculatePercentiles with
  | (_, p50, p95, p99) => [p50, p95, p99]

def InDataBins (smallest largest estimate : UInt64) : Prop :=
  binToLatency (latencyToBin smallest) ≤ estimate ∧
    estimate ≤ binToLatency (latencyToBin largest + 1)

theorem reported_percentile {percentile : UInt64} (member : percentile ∈ [(50 : UInt64), 95, 99]) :
    50 ≤ percentile.toNat ∧ percentile.toNat ≤ 100 := by
  simp only [List.mem_cons, List.not_mem_nil, or_false] at member
  rcases member with rfl | rfl | rfl <;> decide

theorem reported_eq (histogram : LatencyHistogram) :
    histogram.reported = [50, 95, 99].map histogram.estimatePercentile := by
  have estimates := calculatePercentiles_estimates histogram
  unfold reported
  generalize histogram.calculatePercentiles = quadruple at *
  rw [show quadruple = (quadruple.1, quadruple.2) from rfl, estimates]
  rfl

theorem latencyToBin_pos {latencyUs : UInt64} (positive : 1 ≤ latencyUs) :
    1 ≤ latencyToBin latencyUs :=
  latencyToBin_mono positive

theorem one_le_binToLatency {bin : Nat} (within : bin ≤ NUM_HISTOGRAM_BINS) :
    1 ≤ binToLatency bin :=
  binToLatency_mono (Nat.zero_le bin) within

theorem binToLatency_le_one_iff {smallest : UInt64} (positive : 1 ≤ smallest) :
    binToLatency (latencyToBin smallest) ≤ 1 ↔ smallest = 1 := by
  constructor
  · intro least
    by_contra other
    have two : 2 ≤ smallest := by
      rw [UInt64.le_iff_toNat_le] at positive ⊢
      have different : smallest.toNat ≠ 1 := fun same => other (UInt64.toNat_inj.mp same)
      exact Nat.lt_of_le_of_ne positive (Ne.symm different)
    have later := binToLatency_mono (latencyToBin_mono two)
      (Nat.le_of_lt (latencyToBin_lt smallest))
    exact absurd (UInt64.le_trans later least) (by decide)
  · rintro rfl
    decide

/-- A rank that is truncated to zero ends the scan in the first bin, which holds no sample. -/
theorem estimate_of_target_zero {latencies : List UInt64}
    (positive : ∀ latencyUs ∈ latencies, 1 ≤ latencyUs)
    (scanned : (recordAll latencies).scan percentile = some found)
    (zero : (recordAll latencies).targetCount percentile = 0) :
    interpolate ((recordAll latencies).targetCount percentile) found = 1 := by
  have first : found.index = 0 := by
    refine RunningSum.crossing_at_once (fun weight => ?_) scanned
    rw [zero]
    exact UInt64.zero_le
  obtain ⟨within, weight⟩ := scan_getElem scanned
  have empty : found.weight = 0 := by
    by_contra counted
    obtain ⟨latencyUs, member, bin⟩ := mem_of_recordAll_bin within (weight ▸ counted)
    have later := latencyToBin_pos (positive latencyUs member)
    omega
  rw [interpolate, if_pos empty, first]
  decide

theorem estimate_of_target_pos {latencies : List UInt64} {smallest largest : UInt64}
    (least : ∀ latencyUs ∈ latencies, smallest ≤ latencyUs)
    (greatest : ∀ latencyUs ∈ latencies, latencyUs ≤ largest)
    (scanned : (recordAll latencies).scan percentile = some found)
    (some' : (recordAll latencies).targetCount percentile ≠ 0) :
    InDataBins smallest largest
      (interpolate ((recordAll latencies).targetCount percentile) found) := by
  obtain ⟨within, weight⟩ := scan_getElem scanned
  have counted : found.weight ≠ 0 := by
    intro empty
    have reached := RunningSum.crossing_reaches scanned
    rw [empty, UInt64.add_zero] at reached
    rcases RunningSum.crossing_before scanned with first | below
    · rw [first] at reached
      exact some' (UInt64.le_antisymm reached UInt64.zero_le)
    · exact UInt64.not_lt.mpr reached below
  obtain ⟨latencyUs, member, bin⟩ := mem_of_recordAll_bin within (weight ▸ counted)
  obtain ⟨above, below⟩ := interpolate_scanned scanned
  rw [← bin] at above below
  exact ⟨UInt64.le_trans (binToLatency_mono (latencyToBin_mono (least latencyUs member))
      (Nat.le_of_lt (latencyToBin_lt latencyUs))) above,
    UInt64.le_trans below (binToLatency_mono
      (Nat.succ_le_succ (latencyToBin_mono (greatest latencyUs member)))
      (latencyToBin_lt largest))⟩

theorem targetCount_ne_zero_iff :
    histogram.targetCount percentile ≠ 0 ↔ 100 ≤ histogram.sampleCount * percentile := by
  rw [targetCount, Ne, ← UInt64.toNat_inj, UInt64.le_iff_toNat_le, UInt64.toNat_div]
  generalize (histogram.sampleCount * percentile).toNat = rank
  simp only [UInt64.reduceToNat]
  omega

theorem estimate_inDataBins_iff {latencies : List UInt64} {smallest largest : UInt64}
    (positive : ∀ latencyUs ∈ latencies, 1 ≤ latencyUs)
    (least : smallest ∈ latencies ∧ ∀ latencyUs ∈ latencies, smallest ≤ latencyUs)
    (greatest : ∀ latencyUs ∈ latencies, latencyUs ≤ largest)
    (counted : (recordAll latencies).sampleCount ≠ 0) (within : percentile ≤ 100) :
    InDataBins smallest largest ((recordAll latencies).estimatePercentile percentile) ↔
      smallest = 1 ∨ 100 ≤ (recordAll latencies).sampleCount * percentile := by
  obtain ⟨found, scanned⟩ := scan_recordAll within latencies
  rw [estimatePercentile_scanned counted scanned, ← targetCount_ne_zero_iff]
  by_cases zero : (recordAll latencies).targetCount percentile = 0
  · rw [estimate_of_target_zero positive scanned zero, or_iff_left (not_not_intro zero),
      ← binToLatency_le_one_iff (positive smallest least.1)]
    exact and_iff_left (one_le_binToLatency (latencyToBin_lt largest))
  · exact iff_of_true (estimate_of_target_pos least.2 greatest scanned zero) (.inr zero)

theorem reported_in_data_bins_iff (latencies : List UInt64) (smallest largest : UInt64)
    (positive : ∀ latencyUs ∈ latencies, 1 ≤ latencyUs)
    (least : smallest ∈ latencies ∧ ∀ latencyUs ∈ latencies, smallest ≤ latencyUs)
    (greatest : largest ∈ latencies ∧ ∀ latencyUs ∈ latencies, latencyUs ≤ largest) :
    (∀ estimate ∈ (recordAll latencies).reported, InDataBins smallest largest estimate) ↔
      UInt64.ofNat latencies.length ≠ 0 ∧
        (smallest = 1 ∨ ∀ percentile ∈ [(50 : UInt64), 95, 99],
          100 ≤ UInt64.ofNat latencies.length * percentile) := by
  rw [reported_eq, List.forall_mem_map, ← recordAll_sampleCount]
  by_cases empty : (recordAll latencies).sampleCount = 0
  · refine iff_of_false (fun bounded => ?_) (fun condition => condition.1 empty)
    -- With the count wrapped to zero the estimate is zero, and no bin begins there.
    obtain ⟨above, -⟩ := bounded 50 List.mem_cons_self
    rw [estimatePercentile, if_pos empty] at above
    have start := one_le_binToLatency (Nat.le_of_lt (latencyToBin_lt smallest))
    exact absurd (UInt64.le_trans start above) (by decide)
  · have each : ∀ percentile ∈ [(50 : UInt64), 95, 99],
        InDataBins smallest largest ((recordAll latencies).estimatePercentile percentile) ↔
          smallest = 1 ∨ 100 ≤ (recordAll latencies).sampleCount * percentile := by
      intro percentile member
      exact estimate_inDataBins_iff positive least greatest.2 empty
        (UInt64.le_iff_toNat_le.mpr (reported_percentile member).2)
    rw [forall₂_congr each, and_iff_right empty]
    by_cases one : smallest = 1
    · simp only [one, true_or, implies_true]
    · simp only [one, false_or]

theorem reported_in_data_bins_iff_witness :
    (∀ estimate ∈ (recordAll [100, 2500]).reported, InDataBins 100 2500 estimate) ↔
      UInt64.ofNat [(100 : UInt64), 2500].length ≠ 0 ∧
        ((100 : UInt64) = 1 ∨ ∀ percentile ∈ [(50 : UInt64), 95, 99],
          100 ≤ UInt64.ofNat [(100 : UInt64), 2500].length * percentile) :=
  reported_in_data_bins_iff [100, 2500] 100 2500 (by simp) (by simp) (by simp)

theorem single_sample_misreported :
    (recordAll [100]).reported = [1, 1, 1] ∧
      ¬ ∀ estimate ∈ (recordAll [100]).reported, InDataBins 100 100 estimate := by
  have ones : (recordAll [100]).reported = [1, 1, 1] := by decide +kernel
  refine ⟨ones, fun bounded => ?_⟩
  obtain ⟨above, -⟩ := bounded 1 (ones ▸ List.mem_cons_self)
  exact absurd above (by decide)

/-- Two samples are enough, unless their count wraps around. -/
theorem reported_in_data_bins_of_two {latencies : List UInt64} {smallest largest : UInt64}
    (positive : ∀ latencyUs ∈ latencies, 1 ≤ latencyUs)
    (least : smallest ∈ latencies ∧ ∀ latencyUs ∈ latencies, smallest ≤ latencyUs)
    (greatest : ∀ latencyUs ∈ latencies, latencyUs ≤ largest)
    (two : 2 ≤ latencies.length) (fewer : latencies.length * 100 < UInt64.size) :
    ∀ estimate ∈ (recordAll latencies).reported, InDataBins smallest largest estimate := by
  have counted := recordAll_counted fewer (List.ne_nil_of_mem least.1)
  have count := recordAll_sampleCount_toNat fewer
  rw [reported_eq, List.forall_mem_map]
  intro percentile member
  obtain ⟨half, within⟩ := reported_percentile member
  refine (estimate_inDataBins_iff positive least greatest counted
    (UInt64.le_iff_toNat_le.mpr within)).mpr (.inr ?_)
  have room : latencies.length * percentile.toNat < UInt64.size :=
    Nat.lt_of_le_of_lt (Nat.mul_le_mul_left _ within) fewer
  rw [UInt64.le_iff_toNat_le, UInt64.toNat_mul, count, Nat.mod_eq_of_lt room]
  exact Nat.mul_le_mul two half

end MadRpc.LatencyHistogram
