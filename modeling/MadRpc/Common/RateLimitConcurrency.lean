import MadRpc.Common.RateLimitMeter

set_option autoImplicit false

namespace MadRpc.RateLimit

structure InFlight where
  ip : IpAddr
  now : Instant
  cleaned : Bool
  deriving DecidableEq

structure Concurrent where
  limiter : RateLimiter
  clock : Instant
  inFlight : List InFlight

inductive Section where
  -- The calls under way are named by their position.
  | arrive (ip : IpAddr) (now : Instant)
  | cleanUp (position : Nat)
  | take (position : Nat) (created : Instant)

structure Answer where
  ip : IpAddr
  now : Instant
  result : RateLimitResult
  deriving DecidableEq

namespace Concurrent

def start (config : RateLimitConfig) (created : Instant) : Concurrent where
  limiter := RateLimiter.new config created
  clock := created
  inFlight := []

def step (state : Concurrent) : Section → Concurrent × Option Answer
  | .arrive ip now =>
      if 1000000 ≤ state.limiter.config.requestsPerSecond then (state, some ⟨ip, now, .allowed⟩)
      -- The clock is monotonic, so no reading is earlier than one taken before.
      else if state.clock ≤ now then
        ({ state with clock := now, inFlight := state.inFlight ++ [⟨ip, now, false⟩] }, none)
      else (state, none)
  | .cleanUp position =>
      match state.inFlight[position]? with
      | some ⟨ip, now, false⟩ =>
          ({ state with
              limiter := state.limiter.periodicCleanup RateLimiter.cleanupStaleEntries now
              inFlight := state.inFlight.set position ⟨ip, now, true⟩ }, none)
      | _ => (state, none)
  | .take position created =>
      match state.inFlight[position]? with
      | some ⟨ip, now, true⟩ =>
          ({ state with
              limiter := (state.limiter.takeToken ip now created).1
              inFlight := state.inFlight.eraseIdx position },
            some ⟨ip, now, (state.limiter.takeToken ip now created).2⟩)
      | _ => (state, none)

def machine : Machine Concurrent Section (Option Answer) where
  step := step

@[simp]
theorem machine_step (state : Concurrent) (input : Section) :
    machine.step state input = state.step input := rfl

end Concurrent

def allowedWithin (ip : IpAddr) (start finish : Instant) (answers : List (Option Answer)) : Nat :=
  answers.countP fun answer => answer.any fun answer =>
    decide (answer.ip = ip) && answer.result.isAllowed &&
      decide (start ≤ answer.now ∧ answer.now ≤ finish)

def RateLimiter.drops (limiter : RateLimiter) (ip : IpAddr) (now : Instant) : Bool :=
  decide (limiter.config.cleanupInterval ≤ durationSince now limiter.lastCleanup) &&
    (limiter.buckets.lookup ip).any fun bucket =>
      decide (limiter.config.entryTtl ≤ durationSince now bucket.lastUpdate)

/-- The readings reach the bucket of an address in order: no call takes a token before the
last update, and none is under way from before a clean-up that drops the bucket. -/
def Concurrent.orderly (ip : IpAddr) (state : Concurrent) : Section → Bool
  | .arrive _ _ => true
  | .cleanUp position =>
      match state.inFlight[position]? with
      | some ⟨_, now, false⟩ => !state.limiter.drops ip now ||
          state.inFlight.all fun call => decide (call.ip = ip → now ≤ call.now)
      | _ => true
  | .take position _ =>
      match state.inFlight[position]? with
      | some ⟨other, now, true⟩ => decide (other ≠ ip) ||
          (state.limiter.buckets.lookup ip).all fun bucket => decide (bucket.lastUpdate ≤ now)
      | _ => true

def Answer.record (ip : IpAddr) : Option Answer → Log
  | none => []
  | some answer => if answer.ip = ip then [⟨ip, answer.now, answer.result.isAllowed⟩] else []

structure Metered (config : RateLimitConfig) (ip : IpAddr) (log : Log) (state : Concurrent) :
    Prop where
  settings : state.limiter.config = config
  readings : ∀ call ∈ state.inFlight, call.now ≤ state.clock
  own : ∀ entry ∈ log, entry.key = ip
  admitted : Metering.Admitted config.requestsPerSecond config.burst log
  ordered : Metering.Ordered ip log
  tracks : ∃ since, since ≤ state.clock ∧
    Tracks config ip since log (state.limiter.buckets.lookup ip) ∧
    (∀ entry ∈ log, entry.time ≤ since) ∧
    (state.limiter.buckets.lookup ip = none → ∀ call ∈ state.inFlight, call.ip = ip →
      since ≤ call.now)

theorem periodicCleanup_kept {limiter : RateLimiter} {ip : IpAddr} {now : Instant}
    (keeps : limiter.drops ip now = false) :
    (limiter.periodicCleanup RateLimiter.cleanupStaleEntries now).buckets.lookup ip =
      limiter.buckets.lookup ip := by
  unfold RateLimiter.periodicCleanup
  split
  next due =>
    cases found : limiter.buckets.lookup ip with
    | none => simp [RateLimiter.cleanupStaleEntries, found]
    | some bucket =>
        have recent : durationSince now bucket.lastUpdate < limiter.config.entryTtl := by
          simpa [RateLimiter.drops, due, found] using keeps
        simp [RateLimiter.cleanupStaleEntries, found, Option.filter, recent]
  next => rfl

theorem periodicCleanup_dropped {limiter : RateLimiter} {ip : IpAddr} {now : Instant}
    (drops : limiter.drops ip now = true) :
    (limiter.periodicCleanup RateLimiter.cleanupStaleEntries now).buckets.lookup ip = none ∧
      (limiter.buckets.lookup ip).filter (fun bucket =>
        decide (durationSince now bucket.lastUpdate < limiter.config.entryTtl)) = none ∧
      limiter.buckets.lookup ip ≠ none := by
  obtain ⟨due, stale⟩ := Bool.and_eq_true_iff.mp drops
  obtain ⟨bucket, found, expired⟩ := (Option.any_eq_true _ _).mp stale
  have gone : ¬ durationSince now bucket.lastUpdate < limiter.config.entryTtl :=
    not_lt.mpr (of_decide_eq_true expired)
  simp [RateLimiter.periodicCleanup, of_decide_eq_true due, RateLimiter.cleanupStaleEntries, found,
    Option.filter, gone]

theorem periodicCleanup_lookup (limiter : RateLimiter) (ip : IpAddr) (now : Instant) :
    let cleaned := limiter.periodicCleanup RateLimiter.cleanupStaleEntries now
    cleaned.buckets.lookup ip = limiter.buckets.lookup ip ∨ cleaned.buckets.lookup ip = none := by
  cases drops : limiter.drops ip now with
  | true => exact .inr (periodicCleanup_dropped drops).1
  | false => exact .inl (periodicCleanup_kept drops)

section Sections

variable {config : RateLimitConfig} {ip : IpAddr} {log : Log} {state : Concurrent}

theorem Metered.arrive (metered : Metered config ip log state) (limits : config.Limits)
    (other : IpAddr) (now : Instant) :
    Metered config ip (Answer.record ip (state.step (.arrive other now)).2 ++ log)
      (state.step (.arrive other now)).1 := by
  have enabled : ¬ 1000000 ≤ state.limiter.config.requestsPerSecond := by
    rw [metered.settings]
    exact not_le.mpr limits.enabled
  simp only [Concurrent.step, enabled, if_false]
  split
  next later =>
    obtain ⟨settings, readings, own, admitted, ordered, since, early, tracks, times, waiting⟩ :=
      metered
    refine ⟨settings, ?_, own, admitted, ordered, since, early.trans later, tracks, times, ?_⟩
    · intro call member
      rcases List.mem_append.mp member with old | new
      · exact (readings call old).trans later
      · rw [List.mem_singleton.mp new]
    · intro absent call member mine
      rcases List.mem_append.mp member with old | new
      · exact waiting absent call old mine
      · rw [List.mem_singleton.mp new]
        exact early.trans later
  next => exact metered

theorem Metered.cleanUp (metered : Metered config ip log state) (limits : config.Limits)
    (refills : config.Refills) (position : Nat)
    (orderly : state.orderly ip (.cleanUp position) = true) :
    Metered config ip (Answer.record ip (state.step (.cleanUp position)).2 ++ log)
      (state.step (.cleanUp position)).1 := by
  simp only [Concurrent.step]
  simp only [Concurrent.orderly] at orderly
  split
  next other now here =>
    simp only [here, Bool.or_eq_true, Bool.not_eq_true', List.all_eq_true,
      decide_eq_true_eq] at orderly
    obtain ⟨settings, readings, own, admitted, ordered, since, early, tracks, times, waiting⟩ :=
      metered
    have listed : ⟨other, now, false⟩ ∈ state.inFlight := List.mem_of_getElem? here
    -- Marking the call changes no address and no reading.
    have marked (property : IpAddr → Instant → Prop)
        (each : ∀ call ∈ state.inFlight, property call.ip call.now) :
        ∀ call ∈ state.inFlight.set position ⟨other, now, true⟩, property call.ip call.now := by
      intro call member
      rcases List.mem_or_eq_of_mem_set member with old | rfl
      · exact each call old
      · exact each ⟨other, now, false⟩ listed
    refine ⟨(periodicCleanup_settings _ _).trans settings,
      marked (fun _ reading => reading ≤ state.clock) readings, own, admitted, ordered, ?_⟩
    cases drops : state.limiter.drops ip now with
    | false =>
        refine ⟨since, early, ?_, times, ?_⟩
        · rwa [periodicCleanup_kept drops]
        · rw [periodicCleanup_kept drops]
          exact fun absent => marked (fun address reading => address = ip → since ≤ reading)
            (waiting absent)
    | true =>
        -- The bucket is recreated full, which no earlier reading may find.
        obtain ⟨gone, filtered, present⟩ := periodicCleanup_dropped drops
        rw [settings] at filtered
        rcases tracks.cleanup limits refills now with kept | ⟨_, after, full⟩
        · exact absurd (kept.symm.trans filtered) present
        · refine ⟨now, readings _ listed, by rwa [gone], fun entry member =>
            (times entry member).trans after, fun _ => ?_⟩
          exact marked (fun address reading => address = ip → now ≤ reading)
            (orderly.resolve_left (by simp [drops]))
  next => exact metered

theorem Metered.take (metered : Metered config ip log state) (limits : config.Limits)
    (position : Nat) (created : Instant)
    (orderly : state.orderly ip (.take position created) = true) :
    Metered config ip (Answer.record ip (state.step (.take position created)).2 ++ log)
      (state.step (.take position created)).1 := by
  simp only [Concurrent.step]
  simp only [Concurrent.orderly] at orderly
  split
  next other now here =>
    simp only [here, Bool.or_eq_true, decide_eq_true_eq] at orderly
    obtain ⟨settings, readings, own, admitted, ordered, since, early, tracks, times, waiting⟩ :=
      metered
    have listed : ⟨other, now, true⟩ ∈ state.inFlight := List.mem_of_getElem? here
    have remaining (call : InFlight) (member : call ∈ state.inFlight.eraseIdx position) :
        call ∈ state.inFlight := List.mem_of_mem_eraseIdx member
    by_cases mine : other = ip
    · subst mine
      have later : since ≤ now := by
        cases found : state.limiter.buckets.lookup other with
        | none => exact waiting found _ listed rfl
        | some bucket =>
            rw [found] at tracks
            rw [← tracks.2.1]
            simpa [found] using orderly
      obtain ⟨answer, after⟩ := takeToken_correct limits settings tracks now created later
      simp only [Answer.record, if_true, List.singleton_append, answer, config.verdict_allowed]
      refine ⟨settings, fun call member => readings call (remaining call member), ?_, ?_, ?_,
        now, readings _ listed, after, ?_, fun absent => ?_⟩
      · exact List.forall_mem_cons.mpr ⟨rfl, own⟩
      · exact ⟨of_decide_eq_true, admitted⟩
      · exact List.pairwise_cons.mpr ⟨fun entry member _ _ => (times entry member).trans later,
          ordered⟩
      · exact List.forall_mem_cons.mpr ⟨le_rfl, fun entry member =>
          (times entry member).trans later⟩
      · simp [RateLimiter.takeToken] at absent
    · simp only [Answer.record, mine, if_false, List.nil_append]
      have elsewhere : (state.limiter.takeToken other now created).1.buckets.lookup ip =
          state.limiter.buckets.lookup ip := by
        simp [RateLimiter.takeToken, Ne.symm mine]
      refine ⟨settings, fun call member => readings call (remaining call member), own, admitted,
        ordered, since, early, by rwa [elsewhere], times, ?_⟩
      rw [elsewhere]
      exact fun absent call member => waiting absent call (remaining call member)
  next => exact metered

theorem Metered.step (metered : Metered config ip log state) (limits : config.Limits)
    (refills : config.Refills) (input : Section) (orderly : state.orderly ip input = true) :
    Metered config ip (Answer.record ip (state.step input).2 ++ log) (state.step input).1 := by
  cases input with
  | arrive other now => exact metered.arrive limits other now
  | cleanUp position => exact metered.cleanUp limits refills position orderly
  | take position created => exact metered.take limits position created orderly

end Sections

theorem record_spent (ip : IpAddr) (start finish : Instant) (answer : Option Answer) (log : Log) :
    Metering.spentWithin ip start finish (Answer.record ip answer ++ log) =
      Metering.spentWithin ip start finish log + allowedWithin ip start finish [answer] := by
  rw [Metering.spentWithin, List.filter_append, Metering.spent, List.countP_append, Nat.add_comm]
  congr 1
  cases answer with
  | none => rfl
  | some answer =>
      by_cases mine : answer.ip = ip <;>
        by_cases inside : start ≤ answer.now ∧ answer.now ≤ finish <;>
        simp [Answer.record, allowedWithin, mine, inside, List.countP_cons]

theorem Metered.run {config : RateLimitConfig} {ip : IpAddr} {log : Log} {state : Concurrent}
    (metered : Metered config ip log state) (limits : config.Limits) (refills : config.Refills)
    (steps : List Section)
    (orderly : Concurrent.machine.EachStep (fun state input => state.orderly ip input = true)
      state steps) :
    ∃ after, Metered config ip after (Concurrent.machine.run state steps) ∧
      ∀ start finish, Metering.spentWithin ip start finish after =
        Metering.spentWithin ip start finish log +
          allowedWithin ip start finish (Concurrent.machine.outputs state steps) := by
  -- The log after the run is the answers to the address on top of the log before it.
  induction steps generalizing state log with
  | nil => exact ⟨log, metered, fun start finish => by simp [allowedWithin]⟩
  | cons input rest ih =>
      obtain ⟨after, reached, counted⟩ :=
        ih (metered.step limits refills input orderly.1) orderly.2
      refine ⟨after, reached, fun start finish => ?_⟩
      rw [counted, record_spent, Machine.outputs_cons, Nat.add_assoc]
      congr 1
      rw [allowedWithin, allowedWithin, allowedWithin, ← List.countP_append]
      rfl

theorem start_metered (config : RateLimitConfig) (ip : IpAddr) (created : Instant) :
    Metered config ip [] (Concurrent.start config created) where
  settings := rfl
  readings := by simp [Concurrent.start]
  own := by simp
  admitted := trivial
  ordered := List.Pairwise.nil
  tracks := ⟨created, le_rfl, fun _ _ => rfl, by simp, by simp [Concurrent.start]⟩

theorem concurrent_window_bound (config : RateLimitConfig) (limits : config.Limits)
    (refills : config.Refills) (created : Instant) (steps : List Section) (ip : IpAddr)
    (orderly : Concurrent.machine.EachStep (fun state input => state.orderly ip input = true)
      (Concurrent.start config created) steps)
    (start finish : Instant) (opened : start ≤ finish) :
    (allowedWithin ip start finish
        (Concurrent.machine.outputs (Concurrent.start config created) steps) : ℚ) ≤
      config.burst + config.requestsPerSecond * (finish - start) := by
  obtain ⟨log, metered, counted⟩ :=
    (start_metered config ip created).run limits refills steps orderly
  have full := limits.nonempty
  have bound := Metering.spentWithin_le config.requestsPerSecond config.burst ip log start finish
    metered.admitted metered.ordered opened limits.positive.le (by linarith)
  rwa [counted, show Metering.spentWithin ip start finish ([] : Log) = 0 from rfl,
    Nat.zero_add] at bound

theorem concurrent_window_bound_witness :
    (allowedWithin (.v4 0) 10 10 (Concurrent.machine.outputs (Concurrent.start (.new 1 1) 0)
        [.arrive (.v4 0) 0, .arrive (.v4 0) 10, .cleanUp 1, .cleanUp 0, .take 0 10, .take 0 10]) :
      ℚ) ≤ (RateLimitConfig.new 1 1).burst +
        (RateLimitConfig.new 1 1).requestsPerSecond * (10 - 10) :=
  concurrent_window_bound (.new 1 1) ⟨by decide +kernel, by decide +kernel, by decide +kernel⟩
    (by decide +kernel) 0 _ (.v4 0) (by decide +kernel) 10 10 le_rfl

theorem refill_credited_twice :
    -- The late reading of 0 moves `last_update` back from 10, which is then credited again.
    let config := RateLimitConfig.new 1 1
    let answers := Concurrent.machine.outputs (Concurrent.start config 0)
      [.arrive (.v4 0) 0, .arrive (.v4 0) 10, .arrive (.v4 0) 10, .cleanUp 0, .cleanUp 1,
        .cleanUp 2, .take 1 10, .take 0 10, .take 0 10]
    0 < config.requestsPerSecond ∧ config.requestsPerSecond < 1000000 ∧ 1 ≤ config.burst ∧
      config.Refills ∧
      answers.filterMap id = [⟨.v4 0, 10, .allowed⟩, ⟨.v4 0, 0, .rateLimited 1⟩,
        ⟨.v4 0, 10, .allowed⟩] ∧
      ¬ (allowedWithin (.v4 0) 10 10 answers : ℚ) ≤
        config.burst + config.requestsPerSecond * (10 - 10) := by
  decide +kernel

end MadRpc.RateLimit
