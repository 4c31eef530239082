import MadRpc.Common.RateLimitWindows

set_option autoImplicit false

namespace MadRpc.RateLimit

namespace RateLimiter

/-- The tokens a request of the address would find. -/
def stock (limiter : RateLimiter) (ip : IpAddr) (now : Instant) : ℚ :=
  let bucket := (limiter.buckets.lookup ip).getD (TokenBucket.new limiter.config.burstSize now)
  min (bucket.tokens + durationSince now bucket.lastUpdate * limiter.config.requestsPerSecond)
    limiter.config.burst

theorem durationSince_self (now : Instant) : durationSince now now = 0 := by
  simp [durationSince]

theorem stock_absent {limiter : RateLimiter} {ip : IpAddr}
    (absent : limiter.buckets.lookup ip = none) (now : Instant) :
    limiter.stock ip now = limiter.config.burst := by
  simp [stock, absent, TokenBucket.new, durationSince_self, RateLimitConfig.burst]

theorem takeToken_stocked (limiter : RateLimiter) (ip : IpAddr) (now : Instant)
    (enough : 1 ≤ limiter.stock ip now) :
    limiter.takeToken ip now now =
      ({ limiter with
          buckets := limiter.buckets.insert ip ⟨limiter.stock ip now - 1, now⟩ }, .allowed) := by
  have stocked := enough
  unfold stock at stocked
  simp [takeToken, TokenBucket.tryConsume, stock, stocked]

theorem refilled_stock (limiter : RateLimiter) (ip : IpAddr) (now created : Instant)
    (nonnegative : 0 ≤ limiter.config.requestsPerSecond) :
    let bucket :=
      (limiter.buckets.lookup ip).getD (TokenBucket.new limiter.config.burstSize created)
    min (bucket.tokens + durationSince now bucket.lastUpdate * limiter.config.requestsPerSecond)
      limiter.config.burst = limiter.stock ip now := by
  cases found : limiter.buckets.lookup ip with
  | none =>
      have credit := mul_nonneg (durationSince now created).coe_nonneg nonnegative
      rw [stock_absent found, Option.getD_none]
      exact min_eq_right (le_add_of_nonneg_right credit)
  | some bucket => simp only [stock, found, Option.getD_some]

theorem takeToken_eq (limiter : RateLimiter) (ip : IpAddr) (now created : Instant)
    (nonnegative : 0 ≤ limiter.config.requestsPerSecond) :
    let tokens := limiter.stock ip now
    limiter.takeToken ip now created =
      ({ limiter with
          buckets := limiter.buckets.insert ip ⟨if 1 ≤ tokens then tokens - 1 else tokens, now⟩ },
        limiter.config.verdict tokens) := by
  have refilled := limiter.refilled_stock ip now created nonnegative
  simp only [takeToken, TokenBucket.tryConsume, RateLimitConfig.verdict, refilled]
  split
  next => rfl
  next few => simp [TokenBucket.timeUntilNextToken, few]

theorem checkRateLimit_eq (limiter : RateLimiter) (call : Call)
    (nonnegative : 0 ≤ limiter.config.requestsPerSecond)
    (enabled : limiter.config.requestsPerSecond < 1000000) :
    let cleaned := limiter.periodicCleanup cleanupStaleEntries call.now
    let tokens := cleaned.stock call.ip call.now
    limiter.checkRateLimit call =
      ({ cleaned with
          buckets := cleaned.buckets.insert call.ip
            ⟨if 1 ≤ tokens then tokens - 1 else tokens, call.now⟩ },
        limiter.config.verdict tokens) := by
  intro cleaned tokens
  have settings : cleaned.config = limiter.config := periodicCleanup_settings limiter call.now
  rw [checkRateLimit, checkRateLimitWith, if_neg (not_le.mpr enabled),
    takeToken_eq _ _ _ _ (settings.symm ▸ nonnegative), ← settings]

def Quiet (limiter : RateLimiter) (now : Instant) : Prop :=
  durationSince now limiter.lastCleanup < limiter.config.cleanupInterval

theorem quiet_of_cleaned {limiter : RateLimiter} {now : Instant}
    (interval : 0 < limiter.config.cleanupInterval) (cleaned : limiter.lastCleanup = now) :
    limiter.Quiet now := by
  rwa [Quiet, cleaned, durationSince_self]

theorem checkRateLimit_quiet {limiter : RateLimiter}
    (enabled : limiter.config.requestsPerSecond < 1000000) (call : Call)
    (quiet : limiter.Quiet call.now) :
    limiter.checkRateLimit call = limiter.takeToken call.ip call.now call.created := by
  have early : ¬ limiter.config.cleanupInterval ≤ durationSince call.now limiter.lastCleanup :=
    not_le.mpr quiet
  simp [checkRateLimit, checkRateLimitWith, periodicCleanup, not_le.mpr enabled, early]

theorem batch_allowed (limiter : RateLimiter) (ip : IpAddr) (now : Instant) (count : Nat)
    (enabled : limiter.config.requestsPerSecond < 1000000) (quiet : limiter.Quiet now)
    (stocked : (count : ℚ) ≤ limiter.stock ip now) :
    machine.outputs limiter (List.replicate count ⟨ip, now, now⟩) =
      List.replicate count .allowed ∧
    let after := machine.run limiter (List.replicate count ⟨ip, now, now⟩)
    after.config = limiter.config ∧ after.lastCleanup = limiter.lastCleanup ∧
      after.stock ip now = limiter.stock ip now - count ∧
      (0 < count → ∃ tokens, after.buckets.lookup ip = some ⟨tokens, now⟩) := by
  -- Nothing refills between requests of one time, so each takes one token off the stock.
  induction count generalizing limiter with
  | zero => exact ⟨rfl, rfl, rfl, by simp, fun positive => absurd positive (lt_irrefl 0)⟩
  | succ count ih =>
      have enough : 1 ≤ limiter.stock ip now := by
        have := Nat.cast_nonneg (α := ℚ) count
        push_cast at stocked
        linarith
      let next : RateLimiter := { limiter with
        buckets := limiter.buckets.insert ip ⟨limiter.stock ip now - 1, now⟩ }
      have step : machine.step limiter ⟨ip, now, now⟩ = (next, .allowed) :=
        (checkRateLimit_quiet enabled ⟨ip, now, now⟩ quiet).trans
          (takeToken_stocked limiter ip now enough)
      have capped : limiter.stock ip now ≤ limiter.config.burst := min_le_right _ _
      have found : next.buckets.lookup ip = some ⟨limiter.stock ip now - 1, now⟩ :=
        AList.lookup_insert _
      have left : next.stock ip now = limiter.stock ip now - 1 := by
        rw [stock, found]
        simp only [Option.getD_some, durationSince_self, NNRat.cast_zero, zero_mul, add_zero]
        exact min_eq_left (by linarith)
      obtain ⟨answers, settings, cleaned, spent, last⟩ := ih next enabled quiet (by
        push_cast at stocked
        rw [left]
        linarith)
      simp only [List.replicate_succ, Machine.outputs_cons, Machine.run_cons, step]
      refine ⟨by rw [answers], settings, cleaned, ?_, fun _ => ?_⟩
      · rw [spent, left]
        push_cast
        ring
      · rcases Nat.eq_zero_or_pos count with rfl | positive
        · exact ⟨_, found⟩
        · exact last positive

theorem checkRateLimit_cleaned (limiter : RateLimiter) (call : Call)
    (enabled : limiter.config.requestsPerSecond < 1000000)
    (interval : 0 < limiter.config.cleanupInterval) :
    (limiter.periodicCleanup cleanupStaleEntries call.now).checkRateLimit call =
      limiter.checkRateLimit call := by
  have settings := periodicCleanup_settings limiter call.now
  have again : (limiter.periodicCleanup cleanupStaleEntries call.now).periodicCleanup
      cleanupStaleEntries call.now = limiter.periodicCleanup cleanupStaleEntries call.now := by
    by_cases due : limiter.config.cleanupInterval ≤ durationSince call.now limiter.lastCleanup
    · have quiet : ¬ limiter.config.cleanupInterval ≤ durationSince call.now call.now := by
        rw [durationSince_self]
        exact not_le.mpr interval
      simp [periodicCleanup, due, cleanupStaleEntries, quiet]
    · simp [periodicCleanup, due]
  simp [checkRateLimit, checkRateLimitWith, settings, again, not_le.mpr enabled]

end RateLimiter

def twoBursts (config : RateLimitConfig) (ip : IpAddr) : List Call :=
  -- The whole burst, and again when its bucket has just expired.
  List.replicate config.burstSize.toNat ⟨ip, 0, 0⟩ ++
    List.replicate config.burstSize.toNat ⟨ip, 300, 300⟩

theorem twoBursts_sequential (config : RateLimitConfig) (ip : IpAddr) :
    Sequential (twoBursts config ip) := by
  simp [Sequential, twoBursts, List.pairwise_append, List.pairwise_replicate, List.mem_replicate]

structure RateLimitConfig.Timed (config : RateLimitConfig) : Prop where
  interval : config.cleanupInterval = 60
  ttl : config.entryTtl = 300

theorem RateLimitConfig.Timed.positive {config : RateLimitConfig} (timed : config.Timed) :
    0 < config.cleanupInterval := by
  rw [timed.interval]
  decide +kernel

theorem RateLimitConfig.Limits.burst_positive {config : RateLimitConfig} (limits : config.Limits) :
    0 < config.burstSize.toNat := by
  have full : (1 : ℚ) ≤ config.burstSize.toNat := limits.nonempty
  exact_mod_cast full

theorem expired_burst {config : RateLimitConfig} (limits : config.Limits) (timed : config.Timed)
    {limiter : RateLimiter} (settings : limiter.config = config)
    (started : limiter.lastCleanup = 0) {ip : IpAddr} {tokens : ℚ}
    (found : limiter.buckets.lookup ip = some ⟨tokens, 0⟩) :
    RateLimiter.machine.outputs limiter (List.replicate config.burstSize.toNat ⟨ip, 300, 300⟩) =
      List.replicate config.burstSize.toNat .allowed := by
  have idle : durationSince 300 0 = 300 := by decide +kernel
  -- The clean-up of the first request finds the bucket expired.
  let cleaned := limiter.periodicCleanup RateLimiter.cleanupStaleEntries 300
  have due : cleaned = { limiter.cleanupStaleEntries 300 with lastCleanup := 300 } := by
    refine if_pos ?_
    rw [settings, started, timed.interval, idle]
    decide +kernel
  have sameConfig : cleaned.config = config := by rw [due]; exact settings
  have restarted : cleaned.lastCleanup = 300 := by rw [due]
  have absent : cleaned.buckets.lookup ip = none := by
    rw [due]
    simp only [RateLimiter.cleanupStaleEntries, AList.lookup_retain, found, settings, timed.ttl]
    simp only [Option.filter, idle, lt_irrefl, decide_false, Bool.false_eq_true, if_false]
  have burst := (RateLimiter.batch_allowed cleaned ip 300 config.burstSize.toNat
    (by rw [sameConfig]; exact limits.enabled)
    (RateLimiter.quiet_of_cleaned (by rw [sameConfig]; exact timed.positive) restarted)
    (by rw [RateLimiter.stock_absent absent, sameConfig]; rfl)).1
  -- Cleaned beforehand or by its first request, the limiter answers alike.
  have first : RateLimiter.machine.step cleaned ⟨ip, 300, 300⟩ =
      RateLimiter.machine.step limiter ⟨ip, 300, 300⟩ :=
    RateLimiter.checkRateLimit_cleaned limiter ⟨ip, 300, 300⟩
      (by rw [settings]; exact limits.enabled)
      (by rw [settings]; exact timed.positive)
  obtain ⟨rest, size⟩ := Nat.exists_eq_succ_of_ne_zero limits.burst_positive.ne'
  rw [size, List.replicate_succ, Machine.outputs_cons] at burst ⊢
  rw [← first, burst]

theorem twoBursts_allowed {config : RateLimitConfig} (limits : config.Limits)
    (timed : config.Timed) (ip : IpAddr) :
    RateLimiter.machine.outputs (RateLimiter.new config 0) (twoBursts config ip) =
      List.replicate (config.burstSize.toNat + config.burstSize.toNat) .allowed := by
  obtain ⟨first, settings, started, -, last⟩ := RateLimiter.batch_allowed
    (RateLimiter.new config 0) ip 0 config.burstSize.toNat limits.enabled
    (RateLimiter.quiet_of_cleaned timed.positive rfl)
    (RateLimiter.stock_absent rfl 0).ge
  obtain ⟨tokens, found⟩ := last limits.burst_positive
  rw [twoBursts, Machine.outputs_append, first,
    expired_burst limits timed settings started found, List.replicate_add]

theorem twoBursts_granted (config : RateLimitConfig) (ip : IpAddr) (count : Nat)
    (within : count ≤ config.burstSize.toNat + config.burstSize.toNat) :
    allowedCount ip (((twoBursts config ip).zip (List.replicate
      (config.burstSize.toNat + config.burstSize.toNat) .allowed)).take count) = count := by
  have every : ∀ entry ∈ ((twoBursts config ip).zip (List.replicate
      (config.burstSize.toNat + config.burstSize.toNat) RateLimitResult.allowed)).take count,
      (decide (entry.1.ip = ip) && entry.2.isAllowed) = true := by
    rintro ⟨call, answer⟩ member
    obtain ⟨called, answered⟩ := List.of_mem_zip (List.mem_of_mem_take member)
    rw [List.eq_of_mem_replicate answered]
    rcases List.mem_append.mp called with early | late
    · rw [List.eq_of_mem_replicate early]
      simp [RateLimitResult.isAllowed]
    · rw [List.eq_of_mem_replicate late]
      simp [RateLimitResult.isAllowed]
  rw [allowedCount, List.countP_eq_length.mpr every]
  simpa [twoBursts] using within

theorem keeping_refills {config : RateLimitConfig} (limits : config.Limits)
    (answers : RateLimiter.keepingMachine.outputs (RateLimiter.new config 0)
        (twoBursts config (.v4 0)) =
      List.replicate (config.burstSize.toNat + config.burstSize.toNat) .allowed) :
    config.burst ≤ config.requestsPerSecond * 300 := by
  obtain ⟨rest, size⟩ := Nat.exists_eq_succ_of_ne_zero limits.burst_positive.ne'
  -- The window from the first request to the last holds all but one of the two bursts.
  have last : (twoBursts config (.v4 0))[rest + 1 + rest]? = some ⟨.v4 0, 300, 300⟩ := by
    simp [twoBursts, size]
  have first : (twoBursts config (.v4 0))[0]? = some ⟨.v4 0, 0, 0⟩ := by
    simp [twoBursts, size]
  have room := (allowed_iff_windows limits _ _ (new_outputs_meter limits (keeping_sound config) 0
    _ (twoBursts_sequential config (.v4 0))) (rest + 1 + rest) _ last).mp
  have outputs : (RateLimiter.machineWith fun limiter _ => limiter).outputs
      (RateLimiter.new config 0) (twoBursts config (.v4 0)) = _ := answers
  rw [outputs] at room
  have bound := room (by rw [size, List.getElem?_replicate, if_pos (by omega)]) 0 _
    (Nat.zero_le _) first rfl
  rw [List.drop_zero, twoBursts_granted config (.v4 0) (rest + 1 + rest) (by omega)] at bound
  have whole : config.burst = rest + 1 := by
    rw [RateLimitConfig.burst, size]
    push_cast
    rfl
  push_cast at bound
  linarith

/-- Among the accepted configurations, eviction cannot be told exactly from those whose
buckets refill within the time to live. -/
theorem eviction_unobservable_iff (config : RateLimitConfig) (limits : config.Limits)
    (accepted : (∃ requestsPerSecond burstSize, config = .new requestsPerSecond burstSize) ∨
      ∃ rps, config = .perSecond rps) :
    (∀ created calls, Sequential calls →
      RateLimiter.machine.outputs (RateLimiter.new config created) calls =
        RateLimiter.keepingMachine.outputs (RateLimiter.new config created) calls) ↔
    config.burst ≤ config.requestsPerSecond * 300 := by
  have timed : config.Timed := by
    rcases accepted with ⟨rate, burst, rfl⟩ | ⟨rps, rfl⟩ <;> exact ⟨rfl, rfl⟩
  constructor
  · intro unobservable
    have same := unobservable 0 _ (twoBursts_sequential config (.v4 0))
    exact keeping_refills limits (same.symm.trans (twoBursts_allowed limits timed (.v4 0)))
  · intro refills created calls sequential
    have enough : config.Refills := by
      rw [RateLimitConfig.Refills, timed.ttl]
      exact_mod_cast refills
    exact (new_outputs_meter limits (cleanupStaleEntries_sound limits enough) created calls
      sequential).trans
        (new_outputs_meter limits (keeping_sound config) created calls sequential).symm

theorem eviction_unobservable_iff_witness :
    let config := RateLimitConfig.perSecond 10
    (∀ created calls, Sequential calls →
      RateLimiter.machine.outputs (RateLimiter.new config created) calls =
        RateLimiter.keepingMachine.outputs (RateLimiter.new config created) calls) ↔
    config.burst ≤ config.requestsPerSecond * 300 :=
  eviction_unobservable_iff (.perSecond 10)
    ⟨by decide +kernel, by decide +kernel, by decide +kernel⟩ (.inr ⟨10, rfl⟩)

theorem eviction_observable :
    let config := RateLimitConfig.perSecond (1 / 600)
    let calls : List Call := [⟨.v4 0, 0, 0⟩, ⟨.v4 0, 300, 300⟩]
    0 < config.requestsPerSecond ∧ config.requestsPerSecond < 1000000 ∧ 1 ≤ config.burst ∧
      Sequential calls ∧
      RateLimiter.machine.outputs (RateLimiter.new config 0) calls = [.allowed, .allowed] ∧
      RateLimiter.keepingMachine.outputs (RateLimiter.new config 0) calls =
        [.allowed, .rateLimited 300] := by
  decide +kernel

end MadRpc.RateLimit
