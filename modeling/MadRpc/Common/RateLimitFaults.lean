import MadRpc.Common.RateLimitConcurrency
import MadRpc.Common.RateLimitEviction

set_option autoImplicit false

namespace MadRpc.RateLimit

/-- Nothing where the conversion panics. -/
def fromSecsF64 (secs : ℚ) : Option Duration :=
  if 0 ≤ secs ∧ secs < 2 ^ 64 then some secs.toNNRat else none

def TokenBucket.checkedTimeUntilNextToken (bucket : TokenBucket) (config : RateLimitConfig) :
    Option Duration :=
  if 1 ≤ bucket.tokens then some 0
  -- The quotient of the floats is infinite.
  else if config.requestsPerSecond = 0 then none
  else fromSecsF64 ((1 - bucket.tokens) / config.requestsPerSecond)

namespace RateLimiter

def checkedTakeToken (limiter : RateLimiter) (ip : IpAddr) (now created : Instant) :
    RateLimiter × Option RateLimitResult :=
  let bucket := (limiter.buckets.lookup ip).getD (TokenBucket.new limiter.config.burstSize created)
  let consumed := bucket.tryConsume limiter.config now
  -- The bucket is in place before the wait is computed.
  ({ limiter with buckets := limiter.buckets.insert ip consumed.1 },
    if consumed.2 then some .allowed
    else (consumed.1.checkedTimeUntilNextToken limiter.config).map .rateLimited)

def checkedRateLimit (limiter : RateLimiter) (call : Call) :
    RateLimiter × Option RateLimitResult :=
  if 1000000 ≤ limiter.config.requestsPerSecond then (limiter, some .allowed)
  else (limiter.periodicCleanup cleanupStaleEntries call.now).checkedTakeToken call.ip call.now
    call.created

def checkedMachine : Machine RateLimiter Call (Option RateLimitResult) where
  step := checkedRateLimit

end RateLimiter

theorem TokenBucket.checkedTimeUntilNextToken_isSome {bucket : TokenBucket}
    {config : RateLimitConfig} (nonnegative : 0 ≤ config.requestsPerSecond)
    (few : bucket.tokens < 1) :
    (bucket.checkedTimeUntilNextToken config).isSome = true ↔
      1 - bucket.tokens < config.requestsPerSecond * 2 ^ 64 := by
  rw [checkedTimeUntilNextToken, if_neg (not_le.mpr few)]
  rcases nonnegative.eq_or_lt with zero | positive
  · rw [if_pos zero.symm, ← zero]
    simp [few.le]
  · have missing : 0 ≤ (1 - bucket.tokens) / config.requestsPerSecond :=
      div_nonneg (by linarith) positive.le
    rw [if_neg positive.ne', fromSecsF64, ← div_lt_iff₀' positive]
    by_cases within : (1 - bucket.tokens) / config.requestsPerSecond < 2 ^ 64
    · simp only [missing, within, and_self, if_true, Option.isSome_some]
    · simp only [within, and_false, if_false, Option.isSome_none, Bool.false_eq_true]

namespace RateLimiter

@[simp]
theorem checkedRateLimit_state (limiter : RateLimiter) (call : Call) :
    (limiter.checkedRateLimit call).1 = (limiter.checkRateLimit call).1 := by
  rw [checkedRateLimit, checkRateLimit, checkRateLimitWith]
  split <;> rfl

theorem checkedTakeToken_isSome (limiter : RateLimiter) (ip : IpAddr) (now created : Instant)
    (nonnegative : 0 ≤ limiter.config.requestsPerSecond) :
    (limiter.checkedTakeToken ip now created).2.isSome = true ↔ 1 ≤ limiter.stock ip now ∨
      1 - limiter.stock ip now < limiter.config.requestsPerSecond * 2 ^ 64 := by
  have refilled := limiter.refilled_stock ip now created nonnegative
  simp only [checkedTakeToken, TokenBucket.tryConsume, refilled]
  by_cases enough : 1 ≤ limiter.stock ip now
  · simp only [enough, if_true, Option.isSome_some, true_or]
  · simp only [enough, if_false, Bool.false_eq_true, Option.isSome_map, false_or]
    exact TokenBucket.checkedTimeUntilNextToken_isSome nonnegative (not_le.mp enough)

theorem checkedRateLimit_isSome (limiter : RateLimiter) (call : Call)
    (nonnegative : 0 ≤ limiter.config.requestsPerSecond)
    (enabled : limiter.config.requestsPerSecond < 1000000) :
    (limiter.checkedRateLimit call).2.isSome = true ↔
      1 ≤ (limiter.periodicCleanup cleanupStaleEntries call.now).stock call.ip call.now ∨
        1 - (limiter.periodicCleanup cleanupStaleEntries call.now).stock call.ip call.now <
          limiter.config.requestsPerSecond * 2 ^ 64 := by
  have settings := periodicCleanup_settings limiter call.now
  rw [checkedRateLimit, if_neg (not_le.mpr enabled),
    checkedTakeToken_isSome _ _ _ _ (settings.symm ▸ nonnegative), settings]

structure Stocked (config : RateLimitConfig) (limiter : RateLimiter) : Prop where
  settings : limiter.config = config
  tokens : ∀ ip bucket, limiter.buckets.lookup ip = some bucket → 0 ≤ bucket.tokens

variable {config : RateLimitConfig} {limiter : RateLimiter}

theorem new_stocked (config : RateLimitConfig) (created : Instant) :
    Stocked config (RateLimiter.new config created) :=
  ⟨rfl, fun _ _ found => by simp [RateLimiter.new] at found⟩

theorem Stocked.cleaned (stocked : Stocked config limiter) (now : Instant) :
    Stocked config (limiter.periodicCleanup cleanupStaleEntries now) := by
  refine ⟨(periodicCleanup_settings limiter now).trans stocked.settings, fun ip bucket found => ?_⟩
  rcases periodicCleanup_lookup limiter ip now with kept | dropped
  · exact stocked.tokens ip bucket (kept ▸ found)
  · rw [dropped] at found
    cases found

theorem Stocked.stock_nonneg (nonnegative : 0 ≤ config.requestsPerSecond)
    (stocked : Stocked config limiter) (ip : IpAddr) (now : Instant) :
    0 ≤ limiter.stock ip now := by
  have burst : 0 ≤ limiter.config.burst := Nat.cast_nonneg _
  cases found : limiter.buckets.lookup ip with
  | none => rwa [stock_absent found]
  | some bucket =>
      have held := stocked.tokens ip bucket found
      have credit := mul_nonneg (durationSince now bucket.lastUpdate).coe_nonneg nonnegative
      simp only [stock, found, Option.getD_some, stocked.settings] at burst ⊢
      exact le_min (add_nonneg held credit) burst

theorem Stocked.step (nonnegative : 0 ≤ config.requestsPerSecond)
    (stocked : Stocked config limiter) (call : Call) :
    Stocked config (limiter.checkRateLimit call).1 := by
  by_cases enabled : limiter.config.requestsPerSecond < 1000000
  · have cleaned := stocked.cleaned call.now
    have held := cleaned.stock_nonneg nonnegative call.ip call.now
    rw [checkRateLimit_eq limiter call (stocked.settings ▸ nonnegative) enabled]
    refine ⟨cleaned.settings, fun ip bucket found => ?_⟩
    rw [AList.lookup_insert_ite] at found
    split at found
    next =>
      cases found
      simp only
      split <;> linarith
    next => exact cleaned.tokens ip bucket found
  · rw [checkRateLimit, checkRateLimitWith, if_pos (not_lt.mp enabled)]
    exact stocked

theorem Stocked.answers (nonnegative : 0 ≤ config.requestsPerSecond)
    (fast : 1 < config.requestsPerSecond * 2 ^ 64) (stocked : Stocked config limiter)
    (call : Call) : (limiter.checkedRateLimit call).2.isSome = true := by
  by_cases enabled : limiter.config.requestsPerSecond < 1000000
  · have held := (stocked.cleaned call.now).stock_nonneg nonnegative call.ip call.now
    rw [checkedRateLimit_isSome limiter call (stocked.settings ▸ nonnegative) enabled,
      stocked.settings]
    exact .inr (by linarith)
  · rw [checkedRateLimit, if_pos (not_lt.mp enabled)]
    rfl

theorem Stocked.run_answers (nonnegative : 0 ≤ config.requestsPerSecond)
    (fast : 1 < config.requestsPerSecond * 2 ^ 64) (stocked : Stocked config limiter)
    (calls : List Call) :
    ∀ answer ∈ checkedMachine.outputs limiter calls, answer.isSome = true := by
  refine checkedMachine.forall_outputs (Stocked config) (fun _ _ => True) _ ?_
    (fun _ call stocked _ => stocked.answers nonnegative fast call) limiter calls stocked
    (checkedMachine.eachStep_of_forall _ limiter calls fun _ _ => trivial)
  intro limiter call stocked _
  change Stocked config (limiter.checkedRateLimit call).1
  rw [checkedRateLimit_state]
  exact stocked.step nonnegative call

theorem checkedMachine_run (limiter : RateLimiter) (calls : List Call) :
    checkedMachine.run limiter calls = machine.run limiter calls := by
  induction calls generalizing limiter with
  | nil => rfl
  | cons call rest ih =>
      rw [Machine.run_cons, Machine.run_cons, ih]
      exact congrArg (machine.run · rest) (checkedRateLimit_state limiter call)

theorem exhausted_call (timed : config.Timed) (nonnegative : 0 ≤ config.requestsPerSecond)
    (enabled : config.requestsPerSecond < 1000000) (ip : IpAddr)
    (answered : ∀ answer ∈ checkedMachine.outputs (RateLimiter.new config 0)
      (List.replicate (config.burstSize.toNat + 1) ⟨ip, 0, 0⟩), answer.isSome = true) :
    1 < config.requestsPerSecond * 2 ^ 64 := by
  obtain ⟨-, settings, cleaned, spent, -⟩ := batch_allowed (RateLimiter.new config 0) ip 0
    config.burstSize.toNat enabled (quiet_of_cleaned timed.positive rfl) (stock_absent rfl 0).ge
  let drained := machine.run (RateLimiter.new config 0)
    (List.replicate config.burstSize.toNat ⟨ip, 0, 0⟩)
  have empty : drained.stock ip 0 = 0 := by
    rw [spent, stock_absent rfl 0]
    exact sub_self _
  have quiet : drained.periodicCleanup cleanupStaleEntries 0 = drained := by
    refine if_neg (not_le.mpr ?_)
    rw [cleaned, settings]
    exact @quiet_of_cleaned (RateLimiter.new config 0) 0 timed.positive rfl
  have last := answered (drained.checkedRateLimit ⟨ip, 0, 0⟩).2 (by
    rw [List.replicate_succ', Machine.outputs_append, checkedMachine_run]
    exact List.mem_append_right _ (List.mem_singleton_self _))
  rw [checkedRateLimit_isSome drained _ (settings.symm ▸ nonnegative) (settings.symm ▸ enabled),
    quiet, empty, settings, sub_zero] at last
  exact last.resolve_left (by norm_num)

end RateLimiter

theorem never_faults_iff (config : RateLimitConfig)
    (built : (∃ requestsPerSecond burstSize, config = .new requestsPerSecond burstSize) ∨
      (∃ rps, config = .perSecond rps) ∨ ∃ rpm, config = .perMinute rpm)
    (nonnegative : 0 ≤ config.requestsPerSecond) :
    (∀ created calls, Sequential calls →
      ∀ answer ∈ RateLimiter.checkedMachine.outputs (RateLimiter.new config created) calls,
        answer.isSome = true) ↔ 1 < config.requestsPerSecond * 2 ^ 64 := by
  have timed : config.Timed := by
    rcases built with ⟨rate, burst, rfl⟩ | ⟨rps, rfl⟩ | ⟨rpm, rfl⟩ <;> exact ⟨rfl, rfl⟩
  constructor
  · intro returns
    by_cases enabled : config.requestsPerSecond < 1000000
    · exact RateLimiter.exhausted_call timed nonnegative enabled (.v4 0)
        (returns 0 _ (by simp [Sequential, List.pairwise_replicate]))
    · linarith [not_lt.mp enabled]
  · intro fast created calls _
    exact (RateLimiter.new_stocked config created).run_answers nonnegative fast calls

theorem never_faults_iff_witness :
    (∀ created calls, Sequential calls →
      ∀ answer ∈ RateLimiter.checkedMachine.outputs
        (RateLimiter.new (.perSecond 10) created) calls,
        answer.isSome = true) ↔ 1 < (RateLimitConfig.perSecond 10).requestsPerSecond * 2 ^ 64 :=
  never_faults_iff (.perSecond 10) (.inr (.inl ⟨10, rfl⟩)) (by decide +kernel)

theorem zero_rate_faults :
    RateLimiter.checkedMachine.outputs (RateLimiter.new (.perMinute 0) 0) [⟨.v4 0, 0, 0⟩] =
        [none] ∧
      RateLimiter.checkedMachine.outputs (RateLimiter.new (.new 0 1) 0)
        [⟨.v4 0, 0, 0⟩, ⟨.v4 0, 1, 1⟩] = [some .allowed, none] := by
  decide +kernel

end MadRpc.RateLimit
