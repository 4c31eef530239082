set_option autoImplicit false

namespace MadRpc

theorem toNat_succ {counter : UInt64} (room : counter.toNat + 1 < 18446744073709551616) :
    (counter + 1).toNat = counter.toNat + 1 :=
  (UInt64.toNat_add counter 1).trans (Nat.mod_eq_of_lt room)

theorem toNat_max (first second : UInt64) :
    (max first second).toNat = max first.toNat second.toNat := by
  have unfolded : max first second = if first ≤ second then second else first := rfl
  rw [unfolded]
  split
  next le => exact (Nat.max_eq_right (UInt64.le_iff_toNat_le.mp le)).symm
  next lt =>
    have smaller := UInt64.lt_iff_toNat_lt.mp (UInt64.not_le.mp lt)
    exact (Nat.max_eq_left (Nat.le_of_lt smaller)).symm

/-- The statics `LAST_TIMESTAMP` and `TIMESTAMP_FALLBACK`. -/
structure TimestampClock where
  lastTimestamp : UInt64
  timestampFallback : UInt64
  deriving DecidableEq, Repr

def TimestampClock.initial : TimestampClock where
  lastTimestamp := 0
  timestampFallback := 1

/-- `systemTime` is the reading of the system clock, absent when it lies before the epoch. -/
def TimestampClock.getMonotonicTimestamp (clock : TimestampClock) (systemTime : Option UInt64) :
    TimestampClock × UInt64 :=
  let fallback :=
    if systemTime.isNone then clock.timestampFallback + 1 else clock.timestampFallback
  let newTimestamp := max (systemTime.getD clock.timestampFallback) (clock.lastTimestamp + 1)
  (⟨newTimestamp, fallback⟩, newTimestamp)

def NUM_HISTOGRAM_BINS : Nat := 100

structure LatencyHistogram where
  bins : Vector UInt64 NUM_HISTOGRAM_BINS
  totalLatency : UInt64
  sampleCount : UInt64

namespace LatencyHistogram

def new : LatencyHistogram where
  bins := Vector.replicate NUM_HISTOGRAM_BINS 0
  totalLatency := 0
  sampleCount := 0

def ilog10Loop : Nat → UInt64 → UInt32 → UInt32
  | 0, _, log => log
  | rounds + 1, n, log => if 10 ≤ n then ilog10Loop rounds (n / 10) (log + 1) else log

def ilog10 (n : UInt64) : UInt32 :=
  -- A number of 64 bits is below ten after 19 divisions.
  if n = 0 then 0 else ilog10Loop 20 n 0

def latencyToBin (latencyUs : UInt64) : Nat :=
  if latencyUs = 0 then 0
  else
    let log10Value := ilog10 latencyUs
    let scaleFactor :=
      if latencyUs < 10 then latencyUs.toNat
      else if latencyUs < 100 then (latencyUs / 10).toNat
      else if latencyUs < 1000 then (latencyUs / 100).toNat
      else if latencyUs < 10000 then (latencyUs / 1000).toNat
      else if latencyUs < 100000 then (latencyUs / 10000).toNat
      else if latencyUs < 1000000 then (latencyUs / 100000).toNat
      else 10 + min (ilog10 (latencyUs / 1000000)).toNat 3 * 10
    let decadeOffset := log10Value.toNat * 10
    min (decadeOffset + min scaleFactor 9) (NUM_HISTOGRAM_BINS - 1)

theorem latencyToBin_lt (latencyUs : UInt64) : latencyToBin latencyUs < NUM_HISTOGRAM_BINS := by
  unfold latencyToBin
  split
  · decide
  · exact Nat.lt_of_le_of_lt (Nat.min_le_right _ _) (by decide)

def binOf (latencyUs : UInt64) : Fin NUM_HISTOGRAM_BINS :=
  ⟨latencyToBin latencyUs, latencyToBin_lt latencyUs⟩

def incrementBin (bin : Fin NUM_HISTOGRAM_BINS) (histogram : LatencyHistogram) :
    LatencyHistogram :=
  { histogram with bins := histogram.bins.set bin (histogram.bins[bin] + 1) }

def addLatency (latencyUs : UInt64) (histogram : LatencyHistogram) : LatencyHistogram :=
  { histogram with totalLatency := histogram.totalLatency + latencyUs }

def countSample (histogram : LatencyHistogram) : LatencyHistogram :=
  { histogram with sampleCount := histogram.sampleCount + 1 }

def record (latencyUs : UInt64) (histogram : LatencyHistogram) : LatencyHistogram :=
  ((histogram.incrementBin (binOf latencyUs)).addLatency latencyUs).countSample

end LatencyHistogram

structure MethodStats where
  callCount : UInt64
  successCount : UInt64
  failureCount : UInt64
  latencies : LatencyHistogram
  lastAccessMs : UInt64

namespace MethodStats

def new (now : UInt64) : MethodStats where
  callCount := 0
  successCount := 0
  failureCount := 0
  latencies := .new
  lastAccessMs := now

def updateLastAccess (now : UInt64) (stats : MethodStats) : MethodStats :=
  { stats with lastAccessMs := now }

def countCall (stats : MethodStats) : MethodStats :=
  { stats with callCount := stats.callCount + 1 }

def countSuccess (stats : MethodStats) : MethodStats :=
  { stats with successCount := stats.successCount + 1 }

def countFailure (stats : MethodStats) : MethodStats :=
  { stats with failureCount := stats.failureCount + 1 }

def incrementCall (now : UInt64) (stats : MethodStats) : MethodStats :=
  stats.countCall.updateLastAccess now

def incrementSuccess (now : UInt64) (stats : MethodStats) : MethodStats :=
  stats.countSuccess.updateLastAccess now

def incrementFailure (now : UInt64) (stats : MethodStats) : MethodStats :=
  stats.countFailure.updateLastAccess now

def recordLatency (latencyUs now : UInt64) (stats : MethodStats) : MethodStats :=
  { stats with latencies := stats.latencies.record latencyUs }.updateLastAccess now

end MethodStats

structure NodeStats where
  requestCount : UInt64
  lastRequestMs : UInt64
  deriving DecidableEq, Repr

def NodeStats.new : NodeStats where
  requestCount := 0
  lastRequestMs := 0

def NodeStats.recordRequest (now : UInt64) (stats : NodeStats) : NodeStats :=
  { stats with requestCount := stats.requestCount + 1, lastRequestMs := now }

end MadRpc
