import Mathlib.Logic.Function.Iterate
import MadRpc.Common.Builtin
import MadRpc.Metrics.Percentiles
import MadRpc.Metrics.Registry

set_option autoImplicit false

namespace MadRpc

def MethodStats.snapshot (stats : MethodStats) : MethodMetrics :=
  let (avgLatencyUs, p50LatencyUs, p95LatencyUs, p99LatencyUs) :=
    stats.latencies.calculatePercentiles
  { callCount := stats.callCount
    successCount := stats.successCount
    failureCount := stats.failureCount
    avgLatencyUs := avgLatencyUs
    p50LatencyUs := p50LatencyUs
    p95LatencyUs := p95LatencyUs
    p99LatencyUs := p99LatencyUs }

def NodeStats.snapshot (nodeAddr : String) (stats : NodeStats) : NodeMetrics where
  nodeAddr := nodeAddr
  requestCount := stats.requestCount
  lastRequestMs := stats.lastRequestMs

/-- The number of connections, which nothing in the program counts, and the uptime are not
among the fields of the registry here. -/
def MetricsRegistry.snapshot (registry : MetricsRegistry) (activeConnections uptimeMs : UInt64)
    (includeNodes : Bool) : MetricsSnapshot where
  totalRequests := registry.totalRequests
  successfulRequests := registry.successfulRequests
  failedRequests := registry.failedRequests
  activeConnections := activeConnections
  uptimeMs := uptimeMs
  methods := registry.methods.mapEntries fun _ stats => stats.snapshot
  nodes := if includeNodes then some (registry.nodes.mapEntries NodeStats.snapshot) else none

inductive Percentile where
  | p50
  | p95
  | p99
  deriving DecidableEq, Repr

namespace Percentile

def rank : Percentile → UInt64
  | p50 => 50
  | p95 => 95
  | p99 => 99

def next : Percentile → Option Percentile
  | p50 => some p95
  | p95 => some p99
  | p99 => none

def store (estimate : UInt64) (metrics : MethodMetrics) : Percentile → MethodMetrics
  | p50 => { metrics with p50LatencyUs := estimate }
  | p95 => { metrics with p95LatencyUs := estimate }
  | p99 => { metrics with p99LatencyUs := estimate }

end Percentile

inductive Load where
  | callCount
  | successCount
  | failureCount
  | sampleCount
  | totalLatency (total : UInt64)
  | total (percentile : Percentile)
  | bin (percentile : Percentile) (targetCount : UInt64) (index : Nat) (cumulativeCount : UInt64)
  | finished
  deriving DecidableEq, Repr

/-- A snapshot of one entry on the way. What is not loaded yet is zero. -/
structure MethodReading where
  metrics : MethodMetrics
  next : Load
  deriving DecidableEq, Repr

namespace MethodReading

def start : MethodReading where
  metrics := .new
  next := .callCount

def estimated (metrics : MethodMetrics) (percentile : Percentile) (estimate : UInt64) :
    MethodReading where
  metrics := percentile.store estimate metrics
  next :=
    match percentile.next with
    | some percentile => .total percentile
    | none => .finished

def load (stats : MethodStats) (reading : MethodReading) : MethodReading :=
  let metrics := reading.metrics
  match reading.next with
  | .callCount => ⟨{ metrics with callCount := stats.callCount }, .successCount⟩
  | .successCount => ⟨{ metrics with successCount := stats.successCount }, .failureCount⟩
  | .failureCount => ⟨{ metrics with failureCount := stats.failureCount }, .sampleCount⟩
  | .sampleCount =>
      let total := stats.latencies.sampleCount
      ⟨metrics, if total = 0 then .finished else .totalLatency total⟩
  | .totalLatency total =>
      ⟨{ metrics with avgLatencyUs := stats.latencies.totalLatency / total }, .total .p50⟩
  -- Each estimate loads the number of samples anew.
  | .total percentile =>
      let total := stats.latencies.sampleCount
      if total = 0 then estimated metrics percentile 0
      else ⟨metrics, .bin percentile (total * percentile.rank / 100) 0 0⟩
  | .bin percentile targetCount index cumulativeCount =>
      match stats.latencies.bins[index]? with
      | some binCount =>
          if targetCount ≤ cumulativeCount + binCount then
            estimated metrics percentile
              (LatencyHistogram.interpolate targetCount ⟨index, cumulativeCount, binCount⟩)
          else
            ⟨metrics, .bin percentile targetCount (index + 1) (cumulativeCount + binCount)⟩
      -- The bins are at their end.
      | none =>
          estimated metrics percentile
            (LatencyHistogram.binToLatency NUM_HISTOGRAM_BINS)
  | .finished => reading

def Reads (stats : MethodStats) (before after : MethodReading) : Prop :=
  ∃ loads, (load stats)^[loads] before = after

theorem Reads.after_load {stats : MethodStats} {before next after : MethodReading}
    (loaded : before.load stats = next) (reads : Reads stats next after) :
    Reads stats before after := by
  obtain ⟨loads, result⟩ := reads
  exact ⟨loads + 1, by rw [Function.iterate_succ_apply, loaded, result]⟩

theorem Reads.here (stats : MethodStats) (reading : MethodReading) :
    Reads stats reading reading :=
  ⟨0, rfl⟩

theorem Reads.trans {stats : MethodStats} {first second third : MethodReading}
    (before : Reads stats first second) (after : Reads stats second third) :
    Reads stats first third := by
  obtain ⟨earlier, rfl⟩ := before
  obtain ⟨later, rfl⟩ := after
  exact ⟨later + earlier, Function.iterate_add_apply _ _ _ _⟩

theorem reads_scan (stats : MethodStats) (metrics : MethodMetrics) (percentile : Percentile)
    (targetCount : UInt64) (rest : List UInt64) (index : Nat) (cumulativeCount : UInt64)
    (left : stats.latencies.bins.toList.drop index = rest) :
    Reads stats ⟨metrics, .bin percentile targetCount index cumulativeCount⟩
      (estimated metrics percentile
        ((RunningSum.crossing targetCount rest index cumulativeCount).elim
          (LatencyHistogram.binToLatency NUM_HISTOGRAM_BINS)
          (LatencyHistogram.interpolate targetCount))) := by
  induction rest generalizing index cumulativeCount with
  | nil =>
      have ended : stats.latencies.bins[index]? = none := by
        rw [← Vector.getElem?_toList, List.getElem?_eq_none_iff]
        exact List.drop_eq_nil_iff.mp left
      exact Reads.after_load (by simp only [load, ended, RunningSum.crossing, Option.elim_none])
        (Reads.here _ _)
  | cons binCount rest ih =>
      have here : stats.latencies.bins[index]? = some binCount := by
        rw [← Vector.getElem?_toList, ← List.head?_drop, left]
        rfl
      have later : stats.latencies.bins.toList.drop (index + 1) = rest := by
        rw [← List.tail_drop, left]
        rfl
      rw [RunningSum.crossing]
      by_cases reached : targetCount ≤ cumulativeCount + binCount
      · rw [if_pos reached]
        exact Reads.after_load (by simp only [load, here, if_pos reached, Option.elim_some])
          (Reads.here _ _)
      · rw [if_neg reached]
        exact Reads.after_load (by simp only [load, here, if_neg reached])
          (ih (index + 1) (cumulativeCount + binCount) later)

theorem reads_estimate (stats : MethodStats) (metrics : MethodMetrics) (percentile : Percentile) :
    Reads stats ⟨metrics, .total percentile⟩
      (estimated metrics percentile (stats.latencies.estimatePercentile percentile.rank)) := by
  by_cases empty : stats.latencies.sampleCount = 0
  · rw [LatencyHistogram.estimatePercentile, if_pos empty]
    exact Reads.after_load (by simp only [load, if_pos empty]) (Reads.here _ _)
  · have scanned := reads_scan stats metrics percentile
      (stats.latencies.targetCount percentile.rank) _ 0 0 rfl
    have estimate : stats.latencies.estimatePercentile percentile.rank =
        (stats.latencies.scan percentile.rank).elim
          (LatencyHistogram.binToLatency NUM_HISTOGRAM_BINS)
          (LatencyHistogram.interpolate (stats.latencies.targetCount percentile.rank)) := by
      rw [LatencyHistogram.estimatePercentile, if_neg empty]
      cases stats.latencies.scan percentile.rank <;> rfl
    rw [estimate]
    exact Reads.after_load (by simp only [load, if_neg empty, LatencyHistogram.targetCount]) scanned

theorem reads_percentiles (stats : MethodStats) (metrics : MethodMetrics) :
    Reads stats ⟨metrics, .total .p50⟩
      ⟨{ metrics with
          p50LatencyUs := stats.latencies.estimatePercentile 50
          p95LatencyUs := stats.latencies.estimatePercentile 95
          p99LatencyUs := stats.latencies.estimatePercentile 99 }, .finished⟩ :=
  ((reads_estimate stats metrics .p50).trans (reads_estimate stats _ .p95)).trans
    (reads_estimate stats _ .p99)

theorem reads_latencies (stats : MethodStats) (metrics : MethodMetrics)
    (counted : stats.latencies.sampleCount ≠ 0) :
    Reads stats ⟨metrics, .sampleCount⟩
      ⟨{ metrics with
          avgLatencyUs := stats.latencies.totalLatency / stats.latencies.sampleCount
          p50LatencyUs := stats.latencies.estimatePercentile 50
          p95LatencyUs := stats.latencies.estimatePercentile 95
          p99LatencyUs := stats.latencies.estimatePercentile 99 }, .finished⟩ := by
  have next : load stats ⟨metrics, .sampleCount⟩ =
      ⟨metrics, .totalLatency stats.latencies.sampleCount⟩ := by
    simp only [load, if_neg counted]
  exact Reads.after_load next (Reads.after_load rfl (reads_percentiles stats _))

theorem reads_counts (stats : MethodStats) :
    Reads stats start
      ⟨{ MethodMetrics.new with
          callCount := stats.callCount
          successCount := stats.successCount
          failureCount := stats.failureCount }, .sampleCount⟩ :=
  ⟨3, rfl⟩

theorem reads_snapshot (stats : MethodStats) : Reads stats start ⟨stats.snapshot, .finished⟩ := by
  refine (reads_counts stats).trans ?_
  by_cases empty : stats.latencies.sampleCount = 0
  · refine Reads.after_load ?_ (Reads.here _ _)
    simp only [load, MethodStats.snapshot, LatencyHistogram.calculatePercentiles, if_pos empty]
    rfl
  · simp only [MethodStats.snapshot, LatencyHistogram.calculatePercentiles, if_neg empty]
    exact reads_latencies stats _ empty

end MethodReading

end MadRpc
