import Mathlib.Algebra.Order.Ring.Rat
import Mathlib.Data.Rat.Floor
import MadRpc.Shared.Machine
import MadRpc.Shared.Table

set_option autoImplicit false

namespace MadRpc.RateLimit

/-- Seconds, exactly. -/
abbrev Duration := ℚ≥0

abbrev Instant := ℚ

def durationSince (now earlier : Instant) : Duration :=
  -- Zero when the argument is later.
  (now - earlier).toNNRat

inductive IpAddr where
  | v4 (bits : BitVec 32)
  | v6 (bits : BitVec 128)
  deriving DecidableEq, Repr

/-- The rate is a finite float, and the arithmetic on it is exact. -/
structure RateLimitConfig where
  requestsPerSecond : ℚ
  burstSize : UInt32
  cleanupInterval : Duration
  entryTtl : Duration

def castU32 (value : Int) : UInt32 :=
  -- The `as u32` cast of a whole float saturates at both ends.
  UInt32.ofNat (min value.toNat (2 ^ 32 - 1))

namespace RateLimitConfig

def new (requestsPerSecond : ℚ) (burstSize : UInt32) : RateLimitConfig where
  requestsPerSecond := requestsPerSecond
  burstSize := burstSize
  cleanupInterval := 60
  entryTtl := 300

def perSecond (rps : ℚ) : RateLimitConfig := new rps (castU32 ⌈rps * 2⌉)

def perMinute (rpm : UInt32) : RateLimitConfig := perSecond (rpm.toNat / 60)

def burst (config : RateLimitConfig) : ℚ := config.burstSize.toNat

end RateLimitConfig

inductive RateLimitResult where
  | allowed
  | rateLimited (retryAfter : Duration)
  deriving DecidableEq

def RateLimitResult.isAllowed : RateLimitResult → Bool
  | .allowed => true
  | .rateLimited _ => false

structure TokenBucket where
  tokens : ℚ
  lastUpdate : Instant
  deriving DecidableEq

namespace TokenBucket

def new (burstSize : UInt32) (created : Instant) : TokenBucket where
  tokens := burstSize.toNat
  -- A new bucket takes a clock reading of its own.
  lastUpdate := created

def tryConsume (bucket : TokenBucket) (config : RateLimitConfig) (now : Instant) :
    TokenBucket × Bool :=
  let elapsed := durationSince now bucket.lastUpdate
  let newTokens := elapsed * config.requestsPerSecond
  -- `last_update` is set on every path, to an earlier reading as well.
  let tokens := min (bucket.tokens + newTokens) config.burst
  if 1 ≤ tokens then ({ tokens := tokens - 1, lastUpdate := now }, true)
  else ({ tokens := tokens, lastUpdate := now }, false)

def timeUntilNextToken (bucket : TokenBucket) (config : RateLimitConfig) : Duration :=
  if 1 ≤ bucket.tokens then 0
  else ((1 - bucket.tokens) / config.requestsPerSecond).toNNRat

end TokenBucket

structure RateLimiter where
  config : RateLimitConfig
  buckets : AList fun _ : IpAddr => TokenBucket
  lastCleanup : Instant

namespace RateLimiter

def new (config : RateLimitConfig) (created : Instant) : RateLimiter where
  config := config
  buckets := ∅
  lastCleanup := created

def cleanupStaleEntries (limiter : RateLimiter) (now : Instant) : RateLimiter :=
  { limiter with
    buckets := limiter.buckets.retain fun _ bucket =>
      decide (durationSince now bucket.lastUpdate < limiter.config.entryTtl) }

def periodicCleanup (cleanup : RateLimiter → Instant → RateLimiter) (limiter : RateLimiter)
    (now : Instant) : RateLimiter :=
  -- The section under the `last_cleanup` lock.
  if limiter.config.cleanupInterval ≤ durationSince now limiter.lastCleanup then
    { cleanup limiter now with lastCleanup := now }
  else limiter

def takeToken (limiter : RateLimiter) (ip : IpAddr) (now created : Instant) :
    RateLimiter × RateLimitResult :=
  -- The section under the `buckets` lock.
  let bucket := (limiter.buckets.lookup ip).getD (TokenBucket.new limiter.config.burstSize created)
  let consumed := bucket.tryConsume limiter.config now
  ({ limiter with buckets := limiter.buckets.insert ip consumed.1 },
    if consumed.2 then .allowed
    else .rateLimited (consumed.1.timeUntilNextToken limiter.config))

end RateLimiter

structure Call where
  ip : IpAddr
  now : Instant
  created : Instant
  deriving DecidableEq

namespace RateLimiter

def checkRateLimitWith (cleanup : RateLimiter → Instant → RateLimiter) (limiter : RateLimiter)
    (call : Call) : RateLimiter × RateLimitResult :=
  -- Rates from here on disable the limiter.
  if 1000000 ≤ limiter.config.requestsPerSecond then (limiter, .allowed)
  else (limiter.periodicCleanup cleanup call.now).takeToken call.ip call.now call.created

def checkRateLimit : RateLimiter → Call → RateLimiter × RateLimitResult :=
  checkRateLimitWith cleanupStaleEntries

def machineWith (cleanup : RateLimiter → Instant → RateLimiter) :
    Machine RateLimiter Call RateLimitResult where
  step := checkRateLimitWith cleanup

def machine : Machine RateLimiter Call RateLimitResult where
  step := checkRateLimit

def keepingMachine : Machine RateLimiter Call RateLimitResult :=
  machineWith fun limiter _ => limiter

end RateLimiter

end MadRpc.RateLimit
