import MadRpc.Common.RateLimitF64
import MadRpc.Server.HttpServer

set_option autoImplicit false

namespace MadRpc

namespace RateLimit

def RateLimitResult.retryAfter : RateLimitResult → Option Duration
  | .allowed => none
  | .rateLimited retryAfter => some retryAfter

def retryAfterSecs (retryAfter : Option Duration) : String :=
  (retryAfter.map fun duration => toString (asSecs duration)).getD "1"

end RateLimit

def OrchestratorHttpServer.rateLimitedHeaders (retryAfter : Option RateLimit.Duration) :
    List (String × String) :=
  [("Retry-After", RateLimit.retryAfterSecs retryAfter)]

def NodeHttpServer.rateLimitedHeaders (retryAfter : Option RateLimit.Duration) :
    List (String × String) :=
  [("Content-Type", "application/json"), ("Retry-After", RateLimit.retryAfterSecs retryAfter)]

namespace RateLimit

/-- What a client reads off the header of the 429 response, of whichever server. -/
def Advertises (answer : Option RateLimitResult) (secs : Nat) : Prop :=
  ∃ result, answer = some result ∧ result.isAllowed = false ∧
    ((OrchestratorHttpServer.rateLimitedHeaders result.retryAfter).lookup "Retry-After" =
        some (toString secs) ∨
      (NodeHttpServer.rateLimitedHeaders result.retryAfter).lookup "Retry-After" =
        some (toString secs))

theorem Advertises.rateLimited {answer : Option RateLimitResult} {secs : Nat}
    (advertises : Advertises answer secs) :
    ∃ retryAfter, answer = some (.rateLimited retryAfter) ∧ asSecs retryAfter = secs := by
  obtain ⟨result, answered, limited, header⟩ := advertises
  cases result with
  | allowed => cases limited
  | rateLimited retryAfter =>
      have text : toString (asSecs retryAfter) = toString secs := by
        rcases header with orchestrator | node
        · exact Option.some.inj orchestrator
        · exact Option.some.inj node
      exact ⟨retryAfter, answered,
        by simpa using congrArg (fun digits => Nat.ofDigitChars 10 digits.toList 0) text⟩

/-- The request that comes back to the same limiter after so many seconds. -/
structure Retried (call : Call) (between : List Call) (secs : Nat) (next : Call) : Prop where
  same : next.ip = call.ip
  others : ∀ other ∈ between, other.ip ≠ call.ip
  waited : next.now = call.now + secs

namespace F64

open RateLimiter (cleanupStaleEntries)

def found (limiter : RateLimiter) (call : Call) : ℚ :=
  let cleaned := limiter.periodicCleanup cleanupStaleEntries call.now
  let bucket := (cleaned.buckets.lookup call.ip).getD (.new limiter.config.burstSize call.created)
  min (refill limiter.config bucket.tokens (durationSince call.now bucket.lastUpdate))
    limiter.config.burst

def Forgotten (limiter : RateLimiter) (call : Call) : Prop :=
  (limiter.periodicCleanup cleanupStaleEntries call.now).buckets.lookup call.ip = none

theorem checkRateLimit_eq (limiter : RateLimiter) (call : Call)
    (enabled : limiter.config.requestsPerSecond < 1000000) :
    checkRateLimit limiter call =
      let cleaned := limiter.periodicCleanup cleanupStaleEntries call.now
      let left : TokenBucket := ⟨found limiter call, call.now⟩
      let spent : TokenBucket := ⟨Binary64.nearest (found limiter call - 1), call.now⟩
      if 1 ≤ found limiter call then
        ({ cleaned with buckets := cleaned.buckets.insert call.ip spent }, some .allowed)
      else ({ cleaned with buckets := cleaned.buckets.insert call.ip left },
        (timeUntilNextToken left limiter.config).map .rateLimited) := by
  have settings := periodicCleanup_settings limiter call.now
  rw [checkRateLimit, if_neg (not_le.mpr enabled)]
  simp only [takeToken, tryConsume, settings, found]
  split <;> rfl

structure Holds (config : RateLimitConfig) (ip : IpAddr) (bucket : TokenBucket)
    (limiter : RateLimiter) : Prop where
  settings : limiter.config = config
  lookup : limiter.buckets.lookup ip = some bucket ∨ limiter.buckets.lookup ip = none

variable {config : RateLimitConfig} {ip : IpAddr} {bucket : TokenBucket} {limiter : RateLimiter}

theorem Holds.cleaned (holds : Holds config ip bucket limiter) (now : Instant) :
    Holds config ip bucket (limiter.periodicCleanup cleanupStaleEntries now) := by
  refine ⟨(periodicCleanup_settings limiter now).trans holds.settings, ?_⟩
  rcases periodicCleanup_lookup limiter ip now with kept | dropped
  · rw [kept]
    exact holds.lookup
  · exact .inr dropped

theorem Holds.other (limits : config.Limits) (holds : Holds config ip bucket limiter) (call : Call)
    (different : call.ip ≠ ip) : Holds config ip bucket (checkRateLimit limiter call).1 := by
  have cleaned := holds.cleaned call.now
  rw [checkRateLimit_eq limiter call (holds.settings ▸ limits.enabled)]
  dsimp only
  split
  all_goals
    refine ⟨cleaned.settings, ?_⟩
    simp only [AList.lookup_insert_ite, Ne.symm different, if_false]
    exact cleaned.lookup

theorem Holds.run (limits : config.Limits) (holds : Holds config ip bucket limiter)
    (calls : List Call) (others : ∀ call ∈ calls, call.ip ≠ ip) :
    Holds config ip bucket (machine.run limiter calls) :=
  machine.run_invariant_of_steps (Holds config ip bucket) (fun _ call => call.ip ≠ ip)
    (fun _ call held different => held.other limits call different) limiter calls holds
    (machine.eachStep_of_forall _ limiter calls others)

theorem checkRateLimit_allowed (limits : limiter.config.Limits) (call : Call) :
    (checkRateLimit limiter call).2 = some .allowed ↔ 1 ≤ found limiter call := by
  rw [checkRateLimit_eq limiter call limits.enabled]
  dsimp only
  split
  next enough => simp [enough]
  next few => simp [few]

theorem Holds.checked (limits : config.Limits) (holds : Holds config ip bucket limiter)
    (call : Call) (same : call.ip = ip) :
    (checkRateLimit limiter call).2 = some .allowed ↔ Forgotten limiter call ∨
      1 ≤ refill config bucket.tokens (durationSince call.now bucket.lastUpdate) := by
  have cleaned := holds.cleaned call.now
  rw [checkRateLimit_allowed (holds.settings.symm ▸ limits), found, Forgotten, holds.settings, same]
  rcases cleaned.lookup with kept | absent
  · simp [kept, limits.nonempty]
  · have full := burst_le_refill limits.positive
      (durationSince call.now (TokenBucket.new config.burstSize call.created).lastUpdate)
    simp only [absent, Option.getD_none, true_or, iff_true]
    exact le_min (limits.nonempty.trans full) limits.nonempty

end F64

end RateLimit

end MadRpc
