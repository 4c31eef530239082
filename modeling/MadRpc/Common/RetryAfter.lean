import MadRpc.Common.RateLimitMeter

set_option autoImplicit false

namespace MadRpc.RateLimit

theorem Follows.later {config : RateLimitConfig} {clock : Instant} {log : Log}
    {limiter : RateLimiter} (follows : Follows config clock log limiter) {now : Instant}
    (ordered : clock ≤ now) : Follows config now log limiter :=
  keeping_sound config limiter clock log now follows ordered

theorem Follows.run {config : RateLimitConfig} (limits : config.Limits)
    {cleanup : RateLimiter → Instant → RateLimiter} (sound : SoundCleanup config cleanup)
    {clock : Instant} {log : Log} {limiter : RateLimiter}
    (follows : Follows config clock log limiter) (calls : List Call)
    (sequential : Sequential calls) (started : ∀ call ∈ calls, clock ≤ call.now)
    {finish : Instant} (opened : clock ≤ finish) (ended : ∀ call ∈ calls, call.now ≤ finish) :
    ∃ newer, Follows config finish (newer ++ log)
        ((RateLimiter.machineWith cleanup).run limiter calls) ∧
      ∀ entry ∈ newer, ∃ call ∈ calls, call.ip = entry.key := by
  -- The log grows by one entry a call, under the address of the call.
  induction calls generalizing clock log limiter with
  | nil => exact ⟨[], follows.later opened, nofun⟩
  | cons call rest ih =>
      obtain ⟨first, later⟩ := List.pairwise_cons.mp sequential
      let entry : Metering.Entry IpAddr ℚ :=
        ⟨call.ip, call.now, decide (1 ≤ config.level call.ip log call.now)⟩
      have next : Follows config call.now (entry :: log)
          (limiter.checkRateLimitWith cleanup call).1 :=
        (checkRateLimitWith_correct limits sound follows call
          (started call List.mem_cons_self)).2
      obtain ⟨newer, reached, named⟩ := ih next later first (ended call List.mem_cons_self)
        fun other member => ended other (List.mem_cons_of_mem call member)
      refine ⟨newer ++ [entry], ?_, ?_⟩
      · rw [List.append_assoc]
        exact reached
      · intro added member
        rcases List.mem_append.mp member with recent | own
        · obtain ⟨other, listed, same⟩ := named added recent
          exact ⟨other, List.mem_cons_of_mem call listed, same⟩
        · rw [List.mem_singleton.mp own]
          exact ⟨call, List.mem_cons_self, rfl⟩

theorem reached_follows {config : RateLimitConfig} (limits : config.Limits)
    {cleanup : RateLimiter → Instant → RateLimiter} (sound : SoundCleanup config cleanup)
    (created : Instant) (before : List Call) (now : Instant) (sequential : Sequential before)
    (ended : ∀ call ∈ before, call.now ≤ now) :
    ∃ log, Follows config now log
      ((RateLimiter.machineWith cleanup).run (RateLimiter.new config created) before) := by
  cases before with
  | nil => exact ⟨[], new_follows config created now⟩
  | cons call rest =>
      have started : ∀ other ∈ call :: rest, call.now ≤ other.now :=
        List.forall_mem_cons.mpr ⟨le_rfl, (List.pairwise_cons.mp sequential).1⟩
      obtain ⟨newer, follows, -⟩ := (new_follows config created call.now).run limits sound
        (call :: rest) sequential started (ended call List.mem_cons_self) ended
      exact ⟨_, follows⟩

theorem RateLimitConfig.verdict_limited {config : RateLimitConfig} (limits : config.Limits)
    {tokens : ℚ} {retryAfter : Duration}
    (limited : config.verdict tokens = .rateLimited retryAfter) :
    tokens < 1 ∧ (retryAfter : ℚ) = (1 - tokens) / config.requestsPerSecond := by
  unfold verdict at limited
  split at limited
  next => cases limited
  next few =>
    cases limited
    have missing : 0 ≤ 1 - tokens := by linarith
    exact ⟨lt_of_not_ge few, Rat.coe_toNNRat _ (div_nonneg missing limits.positive.le)⟩

/-- The wait is positive, and a request of the address that comes next is allowed from its end on
and not before. -/
theorem retry_after_exact (config : RateLimitConfig) (limits : config.Limits)
    (refills : config.Refills) (created : Instant) (before : List Call) (call : Call)
    (between : List Call) (next : Call)
    (sequential : Sequential (before ++ call :: between ++ [next])) (same : next.ip = call.ip)
    (others : ∀ other ∈ between, other.ip ≠ call.ip) (retryAfter : Duration) :
    let limiter := RateLimiter.machine.run (RateLimiter.new config created) before
    (limiter.checkRateLimit call).2 = .rateLimited retryAfter →
      0 < retryAfter ∧
        (((RateLimiter.machine.run limiter (call :: between)).checkRateLimit next).2 = .allowed ↔
          (retryAfter : ℚ) ≤ next.now - call.now) := by
  intro limiter limited
  have sound := cleanupStaleEntries_sound limits refills
  obtain ⟨ordered, -, last⟩ := List.pairwise_append.mp sequential
  obtain ⟨earlier, following, since⟩ := List.pairwise_append.mp ordered
  obtain ⟨after, quiet⟩ := List.pairwise_cons.mp following
  have bounded : ∀ other ∈ before ++ call :: between, other.now ≤ next.now := fun other member =>
    last other member next (List.mem_singleton_self next)
  have passed : call.now ≤ next.now := bounded call (by simp)
  -- The level the call has found.
  obtain ⟨log, follows⟩ := reached_follows limits sound created before call.now earlier
    fun other member => since other member call List.mem_cons_self
  obtain ⟨answer, asked⟩ := checkRateLimitWith_correct limits sound follows call le_rfl
  obtain ⟨few, wait⟩ := config.verdict_limited limits (answer.symm.trans limited)
  -- The requests of other addresses leave it as it is.
  obtain ⟨newer, met, named⟩ := asked.run limits sound between quiet after passed
    fun other member => bounded other (by simp [member])
  have decision := (checkRateLimitWith_correct limits sound met next le_rfl).1
  have foreign : ∀ entry ∈ newer, entry.key ≠ call.ip := by
    intro entry member
    obtain ⟨other, listed, key⟩ := named entry member
    exact key ▸ others other listed
  have level : config.level next.ip (newer ++ ⟨call.ip, call.now, false⟩ :: log) next.now =
      min (config.level call.ip log call.now + config.requestsPerSecond * (next.now - call.now))
        config.burst := by
    rw [same, RateLimitConfig.level, Metering.level_append_other _ _ _ _ _ _ foreign]
    simp [Metering.level, RateLimitConfig.level]
  rw [decide_eq_false (not_le.mpr few)] at decision
  have allowed : ((RateLimiter.machine.run limiter (call :: between)).checkRateLimit next).2 =
      .allowed ↔ 1 ≤ min (config.level call.ip log call.now +
        config.requestsPerSecond * (next.now - call.now)) config.burst := by
    rw [← level, ← config.verdict_iff, ← decision]
    rfl
  have missing : 0 < 1 - config.level call.ip log call.now := by linarith
  refine ⟨?_, ?_⟩
  · have positive : (0 : ℚ) < retryAfter := wait ▸ div_pos missing limits.positive
    exact_mod_cast positive
  · rw [allowed, le_min_iff, and_iff_left limits.nonempty, wait, div_le_iff₀ limits.positive]
    constructor <;> intro <;> linarith

theorem retry_after_exact_witness :
    let call : Call := ⟨.v4 1, 1 / 4, 1 / 4⟩
    let limiter := RateLimiter.machine.run (RateLimiter.new (.new 2 1) 0) [⟨.v4 1, 0, 0⟩]
    (0 : Duration) < 1 / 4 ∧ (((RateLimiter.machine.run limiter
      [call, ⟨.v6 1, 1 / 3, 1 / 3⟩]).checkRateLimit ⟨.v4 1, 1 / 2, 1 / 2⟩).2 = .allowed ↔
        ((1 / 4 : Duration) : ℚ) ≤ 1 / 2 - 1 / 4) :=
  retry_after_exact (.new 2 1) ⟨by decide +kernel, by decide +kernel, by decide +kernel⟩
    (by decide +kernel) 0 [⟨.v4 1, 0, 0⟩] ⟨.v4 1, 1 / 4, 1 / 4⟩ [⟨.v6 1, 1 / 3, 1 / 3⟩]
    ⟨.v4 1, 1 / 2, 1 / 2⟩ (by decide +kernel) rfl (by decide) (1 / 4) (by decide +kernel)

end MadRpc.RateLimit
