import Mathlib.Tactic.Linarith
import MadRpc.Common.RateLimit
import MadRpc.Shared.Metering

set_option autoImplicit false

namespace MadRpc.RateLimit

abbrev Log := List (Metering.Entry IpAddr ℚ)

namespace RateLimitConfig

structure Limits (config : RateLimitConfig) : Prop where
  positive : 0 < config.requestsPerSecond
  enabled : config.requestsPerSecond < 1000000
  nonempty : 1 ≤ config.burst

/-- An entry is dropped only once its bucket is full again. -/
def Refills (config : RateLimitConfig) : Prop :=
  config.burst ≤ config.requestsPerSecond * config.entryTtl

instance (config : RateLimitConfig) : Decidable config.Refills :=
  inferInstanceAs (Decidable (_ ≤ _))

def level (config : RateLimitConfig) (ip : IpAddr) (log : Log) (now : Instant) : ℚ :=
  Metering.level config.requestsPerSecond config.burst ip log now

def verdict (config : RateLimitConfig) (tokens : ℚ) : RateLimitResult :=
  if 1 ≤ tokens then .allowed
  else .rateLimited ((1 - tokens) / config.requestsPerSecond).toNNRat

end RateLimitConfig

theorem RateLimitConfig.verdict_allowed (config : RateLimitConfig) (tokens : ℚ) :
    (config.verdict tokens).isAllowed = decide (1 ≤ tokens) := by
  unfold verdict
  split <;> simp_all [RateLimitResult.isAllowed]

theorem RateLimitConfig.verdict_iff (config : RateLimitConfig) (tokens : ℚ) :
    config.verdict tokens = .allowed ↔ 1 ≤ tokens := by
  unfold verdict
  split <;> simp_all

theorem durationSince_coe {now earlier : Instant} (ordered : earlier ≤ now) :
    (durationSince now earlier : ℚ) = now - earlier :=
  Rat.coe_toNNRat _ (sub_nonneg.mpr ordered)

/-- What a bucket, or its absence, says of the log of its address, at readings from `since` on. -/
def Tracks (config : RateLimitConfig) (ip : IpAddr) (since : Instant) (log : Log) :
    Option TokenBucket → Prop
  | none => ∀ now, since ≤ now → config.level ip log now = config.burst
  | some bucket => 0 ≤ bucket.tokens ∧ bucket.lastUpdate = since ∧ ∀ now, since ≤ now →
      config.level ip log now =
        min (bucket.tokens + config.requestsPerSecond * (now - since)) config.burst

section Bucket

variable {config : RateLimitConfig} {ip : IpAddr} {since : Instant} {log : Log}
  {bucket? : Option TokenBucket}

theorem Tracks.refilled (limits : config.Limits) (tracks : Tracks config ip since log bucket?)
    (now created : Instant) (ordered : since ≤ now) :
    let bucket := bucket?.getD (TokenBucket.new config.burstSize created)
    min (bucket.tokens + durationSince now bucket.lastUpdate * config.requestsPerSecond)
      config.burst = config.level ip log now := by
  cases bucket? with
  | none =>
      have credit := mul_nonneg (durationSince now created).coe_nonneg limits.positive.le
      -- A bucket created now is full, however the reading of its own compares.
      rw [tracks now ordered]
      apply min_eq_right
      simp only [Option.getD_none, TokenBucket.new]
      change config.burst ≤ config.burst + _
      linarith
  | some bucket =>
      obtain ⟨_, last, refills⟩ := tracks
      simp only [Option.getD_some, last]
      rw [durationSince_coe ordered, refills now ordered, mul_comm]

theorem Tracks.level_nonneg (limits : config.Limits)
    (tracks : Tracks config ip since log bucket?) (now : Instant) (ordered : since ≤ now) :
    0 ≤ config.level ip log now := by
  have full := limits.nonempty
  cases bucket? with
  | none =>
      rw [tracks now ordered]
      linarith
  | some bucket =>
      obtain ⟨held, _, refills⟩ := tracks
      have credit := mul_nonneg limits.positive.le (sub_nonneg.mpr ordered)
      rw [refills now ordered]
      exact le_min (by linarith) (by linarith)

theorem Tracks.take (limits : config.Limits) (tracks : Tracks config ip since log bucket?)
    (now created : Instant) (ordered : since ≤ now) :
    let consumed :=
      (bucket?.getD (TokenBucket.new config.burstSize created)).tryConsume config now
    let tokens := config.level ip log now
    consumed.2 = decide (1 ≤ tokens) ∧
    consumed.1.tokens = tokens - (if 1 ≤ tokens then 1 else 0) ∧
    Tracks config ip now (⟨ip, now, decide (1 ≤ tokens)⟩ :: log) (some consumed.1) := by
  have refilled := tracks.refilled limits now created ordered
  have present := tracks.level_nonneg limits now ordered
  have later (granted : Bool) (time : Instant) :
      config.level ip (⟨ip, now, granted⟩ :: log) time =
        min (config.level ip log now - (if granted then 1 else 0) +
          config.requestsPerSecond * (time - now)) config.burst := by
    simp only [RateLimitConfig.level, Metering.level, if_true]
  -- The refilled bucket is the level of the meter, and the token taken is its next entry.
  simp only [TokenBucket.tryConsume, refilled]
  by_cases enough : 1 ≤ config.level ip log now
  · simp only [enough, if_true, decide_true]
    exact ⟨trivial, trivial, by linarith, rfl, fun time _ => by rw [later]; rfl⟩
  · simp only [enough, if_false, decide_false, sub_zero]
    exact ⟨trivial, trivial, present, rfl, fun time _ => by rw [later]; simp⟩

theorem Tracks.cleanup (limits : config.Limits) (refills : config.Refills)
    (tracks : Tracks config ip since log bucket?) (now : Instant) :
    let kept := bucket?.filter fun bucket =>
      decide (durationSince now bucket.lastUpdate < config.entryTtl)
    kept = bucket? ∨ kept = none ∧ since ≤ now ∧ Tracks config ip now log none := by
  cases bucket? with
  | none => exact .inl rfl
  | some bucket =>
      by_cases recent : durationSince now bucket.lastUpdate < config.entryTtl
      · exact .inl (by simp [Option.filter, recent])
      · obtain ⟨held, last, levels⟩ := tracks
        have idle : config.entryTtl ≤ durationSince now since := by
          rw [← last]
          exact not_lt.mp recent
        have full := limits.nonempty
        have ordered : since ≤ now := by
          by_contra early
          -- A later reading than the clean-up's leaves no idle time, and no time to live.
          have none : durationSince now since = 0 :=
            Rat.toNNRat_of_nonpos (by linarith [lt_of_not_ge early])
          have empty : (config.entryTtl : ℚ) = 0 := by
            have := le_antisymm (none ▸ idle) zero_le
            exact_mod_cast this
          rw [RateLimitConfig.Refills, empty] at refills
          linarith
        -- The bucket is full by the time it goes, and stays full if it is kept.
        refine .inr ⟨by simp [Option.filter, recent], ordered, fun time after => ?_⟩
        have idleTime : (config.entryTtl : ℚ) ≤ now - since := by
          rw [← durationSince_coe ordered]
          exact_mod_cast idle
        have credit : config.requestsPerSecond * config.entryTtl ≤
            config.requestsPerSecond * (time - since) :=
          mul_le_mul_of_nonneg_left (by linarith) limits.positive.le
        have enough : config.burst ≤ config.requestsPerSecond * config.entryTtl := refills
        rw [levels time (by linarith)]
        exact min_eq_right (by linarith)

theorem Tracks.other (tracks : Tracks config ip since log bucket?)
    (entry : Metering.Entry IpAddr ℚ) (different : entry.key ≠ ip) :
    Tracks config ip since (entry :: log) bucket? := by
  have same (now : Instant) : config.level ip (entry :: log) now = config.level ip log now :=
    Metering.level_other _ _ ip entry log now different
  cases bucket? with
  | none => exact fun now ordered => (same now).trans (tracks now ordered)
  | some bucket =>
      exact ⟨tracks.1, tracks.2.1, fun now ordered => (same now).trans (tracks.2.2 now ordered)⟩

end Bucket

structure Follows (config : RateLimitConfig) (clock : Instant) (log : Log)
    (limiter : RateLimiter) : Prop where
  settings : limiter.config = config
  tracks : ∀ ip, ∃ since, since ≤ clock ∧ Tracks config ip since log (limiter.buckets.lookup ip)

theorem new_follows (config : RateLimitConfig) (created clock : Instant) :
    Follows config clock [] (RateLimiter.new config created) :=
  ⟨rfl, fun _ => ⟨clock, le_rfl, fun _ _ => rfl⟩⟩

def SoundCleanup (config : RateLimitConfig) (cleanup : RateLimiter → Instant → RateLimiter) :
    Prop :=
  ∀ limiter clock log now, Follows config clock log limiter → clock ≤ now →
    Follows config now log (cleanup limiter now)

theorem keeping_sound (config : RateLimitConfig) :
    SoundCleanup config fun limiter _ => limiter := by
  intro limiter clock log now follows ordered
  refine ⟨follows.settings, fun ip => ?_⟩
  obtain ⟨since, early, tracks⟩ := follows.tracks ip
  exact ⟨since, early.trans ordered, tracks⟩

theorem cleanupStaleEntries_sound {config : RateLimitConfig} (limits : config.Limits)
    (refills : config.Refills) : SoundCleanup config RateLimiter.cleanupStaleEntries := by
  intro limiter clock log now follows ordered
  refine ⟨follows.settings, fun ip => ?_⟩
  obtain ⟨since, early, tracks⟩ := follows.tracks ip
  simp only [RateLimiter.cleanupStaleEntries, AList.lookup_retain, follows.settings]
  rcases tracks.cleanup limits refills now with kept | ⟨gone, _, full⟩
  · exact ⟨since, early.trans ordered, by rwa [kept]⟩
  · exact ⟨now, le_rfl, by rwa [gone]⟩

theorem periodicCleanup_settings (limiter : RateLimiter) (now : Instant) :
    (limiter.periodicCleanup RateLimiter.cleanupStaleEntries now).config = limiter.config := by
  unfold RateLimiter.periodicCleanup
  split <;> rfl

theorem periodicCleanup_follows {config : RateLimitConfig}
    {cleanup : RateLimiter → Instant → RateLimiter} (sound : SoundCleanup config cleanup)
    {clock : Instant} {log : Log} {limiter : RateLimiter}
    (follows : Follows config clock log limiter) (now : Instant) (ordered : clock ≤ now) :
    Follows config now log (limiter.periodicCleanup cleanup now) := by
  unfold RateLimiter.periodicCleanup
  split
  · have cleaned := sound limiter clock log now follows ordered
    exact ⟨cleaned.settings, cleaned.tracks⟩
  · exact keeping_sound config limiter clock log now follows ordered

theorem takeToken_correct {config : RateLimitConfig} (limits : config.Limits) {log : Log}
    {limiter : RateLimiter} (settings : limiter.config = config) {ip : IpAddr} {since : Instant}
    (tracks : Tracks config ip since log (limiter.buckets.lookup ip)) (now created : Instant)
    (ordered : since ≤ now) :
    let tokens := config.level ip log now
    (limiter.takeToken ip now created).2 = config.verdict tokens ∧
    Tracks config ip now (⟨ip, now, decide (1 ≤ tokens)⟩ :: log)
      ((limiter.takeToken ip now created).1.buckets.lookup ip) := by
  obtain ⟨granted, left, after⟩ := tracks.take limits now created ordered
  simp only [RateLimiter.takeToken, settings, AList.lookup_insert]
  refine ⟨?_, after⟩
  rw [granted, RateLimitConfig.verdict]
  by_cases enough : 1 ≤ config.level ip log now
  · simp [enough]
  · simp only [enough, if_false, sub_zero, decide_false, Bool.false_eq_true] at left ⊢
    simp [TokenBucket.timeUntilNextToken, left, enough]

theorem checkRateLimitWith_correct {config : RateLimitConfig} (limits : config.Limits)
    {cleanup : RateLimiter → Instant → RateLimiter} (sound : SoundCleanup config cleanup)
    {clock : Instant} {log : Log} {limiter : RateLimiter}
    (follows : Follows config clock log limiter) (call : Call) (ordered : clock ≤ call.now) :
    let tokens := config.level call.ip log call.now
    (limiter.checkRateLimitWith cleanup call).2 = config.verdict tokens ∧
    Follows config call.now (⟨call.ip, call.now, decide (1 ≤ tokens)⟩ :: log)
      (limiter.checkRateLimitWith cleanup call).1 := by
  have enabled : ¬ 1000000 ≤ limiter.config.requestsPerSecond := by
    rw [follows.settings]
    exact not_le.mpr limits.enabled
  have cleaned := periodicCleanup_follows sound follows call.now ordered
  obtain ⟨since, early, tracks⟩ := cleaned.tracks call.ip
  obtain ⟨answer, after⟩ :=
    takeToken_correct limits cleaned.settings tracks call.now call.created early
  simp only [RateLimiter.checkRateLimitWith, enabled, if_false]
  refine ⟨answer, cleaned.settings, fun ip => ?_⟩
  by_cases same : ip = call.ip
  · subst same
    exact ⟨call.now, le_rfl, after⟩
  · obtain ⟨since, early, tracks⟩ := cleaned.tracks ip
    refine ⟨since, early, ?_⟩
    simp only [RateLimiter.takeToken, AList.lookup_insert_ite, same, if_false]
    exact tracks.other _ (Ne.symm same)

def Call.request (call : Call) : IpAddr × Instant := (call.ip, call.now)

def RateLimitConfig.meter (config : RateLimitConfig) : Machine Log (IpAddr × Instant) ℚ :=
  Metering.meter config.requestsPerSecond config.burst

def Sequential (calls : List Call) : Prop :=
  calls.Pairwise fun earlier later => earlier.now ≤ later.now

instance : DecidablePred Sequential := fun _ => inferInstanceAs (Decidable (List.Pairwise _ _))

theorem outputs_meter {config : RateLimitConfig} (limits : config.Limits)
    {cleanup : RateLimiter → Instant → RateLimiter} (sound : SoundCleanup config cleanup)
    (clock : Instant) (log : Log) (limiter : RateLimiter)
    (follows : Follows config clock log limiter) (calls : List Call)
    (sequential : Sequential calls) (started : ∀ call ∈ calls, clock ≤ call.now) :
    (RateLimiter.machineWith cleanup).outputs limiter calls =
      (config.meter.outputs log (calls.map Call.request)).map config.verdict := by
  induction calls generalizing clock log limiter with
  | nil => rfl
  | cons call rest ih =>
      obtain ⟨first, later⟩ := List.pairwise_cons.mp sequential
      obtain ⟨answer, next⟩ := checkRateLimitWith_correct limits sound follows call
        (started call List.mem_cons_self)
      have tail := ih call.now _ _ next later first
      rw [Machine.outputs_cons, List.map_cons, Machine.outputs_cons, List.map_cons]
      exact congrArg₂ List.cons answer tail

theorem new_outputs_meter {config : RateLimitConfig} (limits : config.Limits)
    {cleanup : RateLimiter → Instant → RateLimiter} (sound : SoundCleanup config cleanup)
    (created : Instant) (calls : List Call) (sequential : Sequential calls) :
    (RateLimiter.machineWith cleanup).outputs (RateLimiter.new config created) calls =
      (config.meter.outputs [] (calls.map Call.request)).map config.verdict := by
  cases calls with
  | nil => rfl
  | cons call rest =>
      refine outputs_meter limits sound call.now [] _ (new_follows config created call.now) _
        sequential (List.forall_mem_cons.mpr ⟨le_rfl, (List.pairwise_cons.mp sequential).1⟩)

end MadRpc.RateLimit
