import Mathlib.Data.List.Dedup
import MadRpc.Common.RateLimitMeter

set_option autoImplicit false

namespace MadRpc.RateLimit

namespace RateLimiter

def trackedIpCount (limiter : RateLimiter) : Nat := limiter.buckets.keys.length

def isEnabled (limiter : RateLimiter) : Bool :=
  decide (limiter.config.requestsPerSecond < 1000000)

end RateLimiter

theorem lt_of_durationSince {now earlier : Instant} {limit : Duration}
    (short : durationSince now earlier < limit) : now - earlier < limit :=
  lt_of_le_of_lt (Rat.le_coe_toNNRat _) (NNRat.coe_lt_coe.mpr short)

structure Recent (config : RateLimitConfig) (clock : Instant) (calls : List Call)
    (limiter : RateLimiter) : Prop where
  settings : limiter.config = config
  cleaned : clock - limiter.lastCleanup < config.cleanupInterval
  past : limiter.lastCleanup ≤ clock
  touched : ∀ ip bucket, limiter.buckets.lookup ip = some bucket →
    limiter.lastCleanup - bucket.lastUpdate < config.entryTtl ∧
      ∃ call ∈ calls, call.ip = ip ∧ call.now = bucket.lastUpdate

section

variable {config : RateLimitConfig} {clock : Instant} {calls : List Call} {limiter : RateLimiter}

theorem Recent.new (interval : 0 < config.cleanupInterval) (created : Instant) :
    Recent config created [] (.new config created) where
  settings := rfl
  cleaned := by simpa [RateLimiter.new] using interval
  past := le_rfl
  touched _ _ found := absurd found nofun

theorem Recent.periodicCleanup (recent : Recent config clock calls limiter)
    (interval : 0 < config.cleanupInterval) (now : Instant) (ordered : clock ≤ now) :
    Recent config now calls (limiter.periodicCleanup RateLimiter.cleanupStaleEntries now) := by
  unfold RateLimiter.periodicCleanup
  split
  next =>
    refine ⟨recent.settings, by simpa using interval, le_rfl, fun ip bucket found => ?_⟩
    simp only [RateLimiter.cleanupStaleEntries, AList.lookup_retain, recent.settings] at found
    obtain ⟨here, young⟩ := Option.filter_eq_some_iff.mp found
    exact ⟨lt_of_durationSince (of_decide_eq_true young), (recent.touched ip bucket here).2⟩
  next early =>
    rw [recent.settings] at early
    exact ⟨recent.settings, lt_of_durationSince (not_le.mp early), recent.past.trans ordered,
      recent.touched⟩

theorem Recent.takeToken (recent : Recent config clock calls limiter)
    (ttl : 0 < config.entryTtl) (call : Call) (here : clock = call.now) :
    Recent config clock (calls ++ [call]) (limiter.takeToken call.ip call.now call.created).1 where
  settings := recent.settings
  cleaned := recent.cleaned
  past := recent.past
  touched ip bucket found := by
    simp only [RateLimiter.takeToken, AList.lookup_insert_ite] at found
    split at found
    next same =>
      have updated : bucket.lastUpdate = call.now := by
        rw [← Option.some.inj found, TokenBucket.tryConsume]
        split <;> rfl
      refine ⟨?_, call, by simp, same.symm, updated.symm⟩
      have past := recent.past
      have positive : (0 : ℚ) < config.entryTtl := NNRat.coe_pos.mpr ttl
      simp only [RateLimiter.takeToken, updated]
      linarith
    next =>
      obtain ⟨young, earlier, member, owns⟩ := recent.touched ip bucket found
      exact ⟨young, earlier, List.mem_append_left _ member, owns⟩

theorem Recent.check (recent : Recent config clock calls limiter)
    (enabled : config.requestsPerSecond < 1000000) (interval : 0 < config.cleanupInterval)
    (ttl : 0 < config.entryTtl) (call : Call) (ordered : clock ≤ call.now) :
    Recent config call.now (calls ++ [call]) (limiter.checkRateLimit call).1 := by
  rw [RateLimiter.checkRateLimit, RateLimiter.checkRateLimitWith, recent.settings,
    if_neg (not_le.mpr enabled)]
  exact (recent.periodicCleanup interval call.now ordered).takeToken ttl call rfl

theorem Recent.run (recent : Recent config clock calls limiter)
    (enabled : config.requestsPerSecond < 1000000) (interval : 0 < config.cleanupInterval)
    (ttl : 0 < config.entryTtl) (others : List Call) (last : Call)
    (sequential : Sequential (others ++ [last]))
    (started : ∀ call ∈ others ++ [last], clock ≤ call.now) :
    Recent config last.now (calls ++ (others ++ [last]))
      (RateLimiter.machine.run limiter (others ++ [last])) := by
  induction others generalizing clock calls limiter with
  | nil => exact recent.check enabled interval ttl last (started last List.mem_cons_self)
  | cons call rest ih =>
      obtain ⟨first, later⟩ := List.pairwise_cons.mp sequential
      have next := ih (recent.check enabled interval ttl call (started call List.mem_cons_self))
        later first
      rwa [List.append_assoc] at next

end

theorem disabled_untouched (limiter : RateLimiter)
    (disabled : 1000000 ≤ limiter.config.requestsPerSecond) (calls : List Call) :
    RateLimiter.machine.run limiter calls = limiter :=
  RateLimiter.machine.run_invariant (· = limiter) (fun state call same => by
    subst same
    exact congrArg Prod.fst (if_pos disabled)) limiter calls rfl

theorem run_settings (limiter : RateLimiter) (calls : List Call) :
    (RateLimiter.machine.run limiter calls).config = limiter.config := by
  refine RateLimiter.machine.run_invariant (fun state => state.config = limiter.config)
    (fun state call same => Eq.trans ?_ same) limiter calls rfl
  show (state.checkRateLimit call).1.config = state.config
  rw [RateLimiter.checkRateLimit, RateLimiter.checkRateLimitWith]
  split
  next => rfl
  next => exact periodicCleanup_settings state call.now

def Call.within (config : RateLimitConfig) (call last : Call) : Bool :=
  decide (last.now - call.now < config.entryTtl + config.cleanupInterval)

/-- Only addresses that have called within a time to live and a cleanup interval are tracked, so
memory does not grow with all the addresses ever seen. -/
theorem tracked_recently (config : RateLimitConfig) (interval : 0 < config.cleanupInterval)
    (ttl : 0 < config.entryTtl) (created : Instant) (calls : List Call) (last : Call)
    (sequential : Sequential (calls ++ [last]))
    (started : ∀ call ∈ calls ++ [last], created ≤ call.now) (limiter : RateLimiter)
    (ended : RateLimiter.machine.run (.new config created) (calls ++ [last]) = limiter) :
    (∀ ip ∈ limiter.buckets, ∃ call ∈ calls ++ [last], call.ip = ip ∧ call.within config last) ∧
      limiter.trackedIpCount ≤
        (((calls ++ [last]).filter fun call => call.within config last).map
          Call.ip).dedup.length ∧
      (limiter.isEnabled = false → limiter.trackedIpCount = 0) := by
  have untracked (disabled : 1000000 ≤ config.requestsPerSecond) : limiter.buckets = ∅ := by
    rw [← ended, disabled_untouched _ disabled]
    rfl
  have tracked (ip : IpAddr) (here : ip ∈ limiter.buckets) :
      ∃ call ∈ calls ++ [last], call.ip = ip ∧ call.within config last := by
    by_cases enabled : config.requestsPerSecond < 1000000
    · have recent := (Recent.new interval created).run enabled interval ttl calls last sequential
        started
      rw [ended] at recent
      obtain ⟨bucket, found⟩ := Option.isSome_iff_exists.mp (AList.lookup_isSome.mpr here)
      obtain ⟨young, call, member, owns, updated⟩ := recent.touched ip bucket found
      have cleaned := recent.cleaned
      exact ⟨call, member, owns, decide_eq_true (by linarith)⟩
    · rw [untracked (not_lt.mp enabled)] at here
      exact absurd here (AList.notMem_empty ip)
  refine ⟨tracked, ?_, fun disabled => ?_⟩
  · refine (List.subperm_of_subset limiter.buckets.keys_nodup fun ip member => ?_).length_le
    obtain ⟨call, made, owns, young⟩ := tracked ip (AList.mem_keys.mpr member)
    exact List.mem_dedup.mpr
      (List.mem_map.mpr ⟨call, List.mem_filter.mpr ⟨made, young⟩, owns⟩)
  · have settings : limiter.config = config := by
      rw [← ended]
      exact run_settings _ _
    rw [RateLimiter.isEnabled, settings] at disabled
    rw [RateLimiter.trackedIpCount, untracked (not_lt.mp (of_decide_eq_false disabled))]
    rfl

theorem tracked_recently_witness :
    let calls : List Call := [⟨.v4 1, 0, 0⟩, ⟨.v4 2, 250, 250⟩]
    let limiter := RateLimiter.machine.run (.new (.perSecond 10) 0) (calls ++ [⟨.v4 3, 400, 400⟩])
    (∀ ip ∈ limiter.buckets, ∃ call ∈ calls ++ [⟨.v4 3, 400, 400⟩], call.ip = ip ∧
        call.within (.perSecond 10) ⟨.v4 3, 400, 400⟩) ∧
      limiter.trackedIpCount ≤ 2 := by
  intro calls limiter
  obtain ⟨tracked, few, -⟩ := tracked_recently (.perSecond 10) (by decide +kernel)
    (by decide +kernel) 0 calls ⟨.v4 3, 400, 400⟩ (by decide +kernel) (by decide +kernel) limiter
    rfl
  exact ⟨tracked, few.trans (by decide +kernel)⟩

end MadRpc.RateLimit
