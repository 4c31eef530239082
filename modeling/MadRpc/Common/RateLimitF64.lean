import Mathlib.Data.NNRat.Floor
import MadRpc.Common.RateLimitConcurrency
import MadRpc.Common.RateLimitEviction
import MadRpc.Shared.Rounding

set_option autoImplicit false

/-!
# The rate limiter in `f64`

Every operation gives the nearest double. None of the sums and products comes near the greatest
one, and a quotient that does is beyond the range of `Duration`.
-/

namespace MadRpc.RateLimit

def asSecs (duration : Duration) : Nat := duration.num / duration.den

theorem asSecs_eq_floor (duration : Duration) : asSecs duration = ⌊(duration : ℚ)⌋₊ := by
  rw [NNRat.floor_coe, NNRat.floor_def, asSecs]

@[simp]
theorem asSecs_natCast (secs : Nat) : asSecs secs = secs := by
  rw [asSecs_eq_floor]
  exact Nat.floor_natCast secs

def subsecNanos (duration : Duration) : Nat := ⌊(duration - asSecs duration : ℚ) * 10 ^ 9⌋₊

namespace F64

open Binary64

def asSecsF64 (duration : Duration) : ℚ :=
  nearest (nearest (asSecs duration) + nearest (subsecNanos duration / 10 ^ 9))

def fromSecsF64 (secs : ℚ) : Option Duration :=
  -- Nothing where the conversion panics.
  if 0 ≤ secs ∧ secs < 2 ^ 64 then
    some ((roundHalfEven (secs * 10 ^ 9) : ℚ) / 10 ^ 9).toNNRat
  else none

def refill (config : RateLimitConfig) (tokens : ℚ) (elapsed : Duration) : ℚ :=
  nearest (tokens + nearest (asSecsF64 elapsed * config.requestsPerSecond))

def tryConsume (bucket : TokenBucket) (config : RateLimitConfig) (now : Instant) :
    TokenBucket × Bool :=
  let elapsed := durationSince now bucket.lastUpdate
  let tokens := min (refill config bucket.tokens elapsed) config.burst
  if 1 ≤ tokens then ({ tokens := nearest (tokens - 1), lastUpdate := now }, true)
  else ({ tokens := tokens, lastUpdate := now }, false)

def timeUntilNextToken (bucket : TokenBucket) (config : RateLimitConfig) : Option Duration :=
  if 1 ≤ bucket.tokens then some 0
  else if config.requestsPerSecond = 0 then none
  else fromSecsF64 (nearest (nearest (1 - bucket.tokens) / config.requestsPerSecond))

def takeToken (limiter : RateLimiter) (ip : IpAddr) (now created : Instant) :
    RateLimiter × Option RateLimitResult :=
  let bucket := (limiter.buckets.lookup ip).getD (TokenBucket.new limiter.config.burstSize created)
  let consumed := tryConsume bucket limiter.config now
  ({ limiter with buckets := limiter.buckets.insert ip consumed.1 },
    if consumed.2 then some .allowed
    else (timeUntilNextToken consumed.1 limiter.config).map .rateLimited)

def checkRateLimit (limiter : RateLimiter) (call : Call) :
    RateLimiter × Option RateLimitResult :=
  if 1000000 ≤ limiter.config.requestsPerSecond then (limiter, some .allowed)
  else takeToken (limiter.periodicCleanup RateLimiter.cleanupStaleEntries call.now) call.ip
    call.now call.created

def machine : Machine RateLimiter Call (Option RateLimitResult) where
  step := checkRateLimit

theorem asSecsF64_natCast (secs : Nat) : asSecsF64 secs = nearest (nearest secs) := by
  rw [asSecsF64, subsecNanos, asSecs_natCast]
  simp [show nearest 0 = 0 by decide +kernel]

theorem asSecsF64_nonneg (duration : Duration) : 0 ≤ asSecsF64 duration :=
  nearest_nonneg (add_nonneg (nearest_nonneg (Nat.cast_nonneg _))
    (nearest_nonneg (div_nonneg (Nat.cast_nonneg _) (by norm_num))))

variable {config : RateLimitConfig}

theorem burst_le_refill (positive : 0 < config.requestsPerSecond) (elapsed : Duration) :
    config.burst ≤ refill config config.burst elapsed := by
  have exactly : nearest config.burst = config.burst :=
    nearest_natCast (by have bounded := config.burstSize.toNat_lt; omega)
  calc config.burst = nearest config.burst := exactly.symm
    _ ≤ refill config config.burst elapsed := nearest_mono
        (le_add_of_nonneg_right (nearest_nonneg
          (mul_nonneg (asSecsF64_nonneg elapsed) positive.le)))

/-! With a whole rate, on clock readings of whole seconds, nothing rounds before the wait. -/

/-- A whole number up to the bound. -/
def Short (bound : ℕ) (value : ℚ) : Prop := ∃ number : ℕ, value = number ∧ number ≤ bound

theorem Short.nearest {bound : ℕ} {value : ℚ} (short : Short bound value)
    (fits : bound ≤ 2 ^ 53) : nearest value = value := by
  obtain ⟨number, rfl, few⟩ := short
  exact nearest_natCast (few.trans fits)

theorem Short.durationSince {bound : ℕ} {now earlier : Instant} (later : Short bound now)
    (before : Short bound earlier) :
    ∃ secs : ℕ, durationSince now earlier = secs ∧ secs ≤ bound := by
  obtain ⟨now, rfl, few⟩ := later
  obtain ⟨earlier, rfl, -⟩ := before
  refine ⟨now - earlier, ?_, (Nat.sub_le _ _).trans few⟩
  rcases Nat.le_total earlier now with le | le
  · rw [RateLimit.durationSince, ← Nat.cast_sub le]
    exact NNRat.toNNRat_coe_nat _
  · rw [Nat.sub_eq_zero_of_le le, Nat.cast_zero, RateLimit.durationSince]
    exact Rat.toNNRat_of_nonpos (by simpa using le)

structure WholeBucket (bucket : TokenBucket) : Prop where
  tokens : Short (2 ^ 32) bucket.tokens
  lastUpdate : Short (2 ^ 32) bucket.lastUpdate

structure WholeLimiter (config : RateLimitConfig) (limiter : RateLimiter) : Prop where
  settings : limiter.config = config
  buckets : ∀ ip bucket, limiter.buckets.lookup ip = some bucket → WholeBucket bucket

structure WholeCall (call : Call) : Prop where
  now : Short (2 ^ 32) call.now
  created : Short (2 ^ 32) call.created

section Whole

variable {limiter : RateLimiter} {bucket : TokenBucket}
  (rate : Short (10 ^ 6) config.requestsPerSecond)

include rate

theorem refill_whole (whole : WholeBucket bucket) {now : Instant} (present : Short (2 ^ 32) now) :
    let refilled := bucket.tokens + durationSince now bucket.lastUpdate * config.requestsPerSecond
    refill config bucket.tokens (durationSince now bucket.lastUpdate) = refilled ∧
      Short (2 ^ 53) refilled := by
  obtain ⟨tokens, held, few⟩ := whole.tokens
  obtain ⟨secs, elapsed, short⟩ := present.durationSince whole.lastUpdate
  obtain ⟨rate, each, slow⟩ := rate
  have earned : secs * rate ≤ 2 ^ 32 * 10 ^ 6 := Nat.mul_le_mul short slow
  have product : Short (2 ^ 53) (secs * rate : ℚ) := ⟨secs * rate, by push_cast; rfl, by omega⟩
  have sum : Short (2 ^ 53) (tokens + secs * rate : ℚ) :=
    ⟨tokens + secs * rate, by push_cast; rfl, by omega⟩
  have exactly : nearest (nearest (secs : ℚ)) = secs := by
    rw [nearest_natCast (by omega), nearest_natCast (by omega)]
  rw [elapsed, held, each, NNRat.cast_natCast]
  refine ⟨?_, sum⟩
  rw [refill, asSecsF64_natCast, exactly, each, product.nearest le_rfl, sum.nearest le_rfl]

theorem tryConsume_whole (whole : WholeBucket bucket) {now : Instant}
    (present : Short (2 ^ 32) now) :
    tryConsume bucket config now = bucket.tryConsume config now ∧
      WholeBucket (bucket.tryConsume config now).1 := by
  obtain ⟨same, refilled, value, -⟩ := refill_whole rate whole present
  have capped : min (refilled : ℚ) config.burst = (min refilled config.burstSize.toNat : ℕ) := by
    rw [RateLimitConfig.burst, Nat.cast_min]
  have few := config.burstSize.toNat_lt
  unfold tryConsume TokenBucket.tryConsume
  simp only [same, value, capped]
  split
  next enough =>
    have spent : ((min refilled config.burstSize.toNat : ℕ) : ℚ) - 1 =
        (min refilled config.burstSize.toNat - 1 : ℕ) := by
      rw [Nat.cast_sub (by exact_mod_cast enough), Nat.cast_one]
    rw [spent, nearest_natCast (by omega)]
    exact ⟨rfl, ⟨_, rfl, by omega⟩, present⟩
  next => exact ⟨rfl, ⟨_, rfl, by omega⟩, present⟩

theorem checkRateLimit_whole (whole : WholeLimiter config limiter) {call : Call}
    (reads : WholeCall call) :
    (checkRateLimit limiter call).1 = (limiter.checkRateLimit call).1 ∧
      ((checkRateLimit limiter call).2 = some .allowed ↔
        (limiter.checkRateLimit call).2 = .allowed) ∧
      WholeLimiter config (limiter.checkRateLimit call).1 := by
  unfold checkRateLimit RateLimiter.checkRateLimit RateLimiter.checkRateLimitWith
  split
  next => exact ⟨rfl, iff_of_true rfl rfl, whole⟩
  next =>
    have cleaned : WholeLimiter config
        (limiter.periodicCleanup RateLimiter.cleanupStaleEntries call.now) := by
      refine ⟨(periodicCleanup_settings limiter call.now).trans whole.settings,
        fun ip bucket found => ?_⟩
      rcases periodicCleanup_lookup limiter ip call.now with kept | dropped
      · exact whole.buckets ip bucket (kept.symm.trans found)
      · exact absurd (dropped.symm.trans found) (Option.some_ne_none bucket).symm
    generalize limiter.periodicCleanup RateLimiter.cleanupStaleEntries call.now = limiter at *
    have held : WholeBucket ((limiter.buckets.lookup call.ip).getD
        (.new limiter.config.burstSize call.created)) := by
      cases found : limiter.buckets.lookup call.ip with
      | some bucket => exact cleaned.buckets _ _ found
      | none => exact ⟨⟨_, rfl, limiter.config.burstSize.toNat_lt.le⟩, reads.created⟩
    obtain ⟨same, kept⟩ := tryConsume_whole rate held reads.now
    rw [← cleaned.settings] at same kept
    simp only [takeToken, RateLimiter.takeToken, same]
    refine ⟨trivial, ?_, cleaned.settings, fun ip bucket found => ?_⟩
    · split <;> simp
    · rw [AList.lookup_insert_ite] at found
      split at found
      next => exact Option.some.inj found ▸ kept
      next => exact cleaned.buckets _ _ found

/-- The state and the decisions of the exact limiter. -/
theorem run_whole (whole : WholeLimiter config limiter) (calls : List Call)
    (reads : ∀ call ∈ calls, WholeCall call) :
    machine.run limiter calls = RateLimiter.machine.run limiter calls ∧
      ∀ call, WholeCall call →
        ((checkRateLimit (machine.run limiter calls) call).2 = some .allowed ↔
          ((RateLimiter.machine.run limiter calls).checkRateLimit call).2 = .allowed) := by
  induction calls generalizing limiter with
  | nil => exact ⟨rfl, fun call read => (checkRateLimit_whole rate whole read).2.1⟩
  | cons call rest ih =>
      obtain ⟨read, others⟩ := List.forall_mem_cons.mp reads
      obtain ⟨same, -, kept⟩ := checkRateLimit_whole rate whole read
      rw [Machine.run_cons, Machine.run_cons, show (machine.step limiter call).1 = _ from same]
      exact ih kept others

end Whole

end F64

end MadRpc.RateLimit
