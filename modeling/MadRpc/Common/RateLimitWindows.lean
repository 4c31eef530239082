import MadRpc.Common.RateLimitMeter

set_option autoImplicit false

namespace MadRpc.RateLimit

def allowedCount (ip : IpAddr) (window : List (Call × RateLimitResult)) : Nat :=
  window.countP fun entry => decide (entry.1.ip = ip) && entry.2.isAllowed

def answersTo (ip : IpAddr) (answered : List (Call × RateLimitResult)) : List RateLimitResult :=
  (answered.filter fun entry => entry.1.ip = ip).map Prod.snd

def logged (entry : Call × RateLimitResult) : Metering.Entry IpAddr ℚ :=
  ⟨entry.1.ip, entry.1.now, entry.2.isAllowed⟩

theorem allowedCount_logged (ip : IpAddr) (window : List (Call × RateLimitResult)) :
    allowedCount ip window = Metering.spent ip (window.map logged) := by
  rw [allowedCount, Metering.spent, List.countP_map]
  rfl

theorem logged_requests (config : RateLimitConfig) (calls : List Call) (tokens : List ℚ) :
    ((calls.map Call.request).zip tokens).map Metering.entryOf =
      (calls.zip (tokens.map config.verdict)).map logged := by
  rw [List.zip_map_left, List.zip_map_right, List.map_map, List.map_map]
  apply List.map_congr_left
  intro entry _
  simp [Metering.entryOf, logged, Call.request, config.verdict_allowed]

theorem logged_getElem? {calls : List Call} {answers : List RateLimitResult}
    (long : answers.length = calls.length) {index : Nat} {call : Call}
    (found : calls[index]? = some call) :
    ∃ answer : RateLimitResult, ((calls.zip answers).map logged)[index]? =
      some ⟨call.ip, call.now, answer.isAllowed⟩ := by
  have within : index < answers.length := by
    rw [long]
    exact (List.getElem?_eq_some_iff.mp found).1
  have paired : (calls.zip answers)[index]? = some (call, answers[index]) :=
    List.getElem?_zip_eq_some.mpr ⟨found, List.getElem?_eq_getElem within⟩
  exact ⟨answers[index], by rw [List.getElem?_map, paired]; rfl⟩

theorem castU32_le (value : Int) (positive : 0 ≤ value) :
    ((castU32 value).toNat : ℚ) ≤ value := by
  have bounded : (castU32 value).toNat ≤ value.toNat := by
    rw [castU32, UInt32.toNat_ofNat']
    exact (Nat.mod_le _ _).trans (Nat.min_le_left _ _)
  have whole : (value.toNat : Int) = value := Int.toNat_of_nonneg positive
  calc ((castU32 value).toNat : ℚ)
      ≤ (value.toNat : ℚ) := Nat.cast_le.mpr bounded
    _ = value := by exact_mod_cast congrArg (Int.cast : Int → ℚ) whole

theorem perSecond_refills (rps : ℚ) (slow : 1 / 298 ≤ rps) :
    (RateLimitConfig.perSecond rps).Refills := by
  have ceiling := Int.ceil_lt_add_one (rps * 2)
  have capped := castU32_le ⌈rps * 2⌉ (Int.ceil_nonneg (by linarith))
  change ((castU32 ⌈rps * 2⌉).toNat : ℚ) ≤ rps * ((300 : ℚ≥0) : ℚ)
  norm_num
  linarith

theorem perMinute_refills (rpm : UInt32) (positive : 1 ≤ rpm) :
    (RateLimitConfig.perMinute rpm).Refills := by
  have counted : (1 : ℚ) ≤ rpm.toNat := by exact_mod_cast UInt32.le_iff_toNat_le.mp positive
  exact perSecond_refills _ (by linarith)

theorem allowed_iff_windows {config : RateLimitConfig} (limits : config.Limits)
    (calls : List Call) (answers : List RateLimitResult)
    (metered : answers = (config.meter.outputs [] (calls.map Call.request)).map config.verdict)
    (i : Nat) (call : Call) (here : calls[i]? = some call) :
    answers[i]? = some .allowed ↔ ∀ j earlier, j ≤ i → calls[j]? = some earlier →
      earlier.ip = call.ip →
      (allowedCount call.ip (((calls.zip answers).take i).drop j) : ℚ) + 1 ≤
        config.burst + config.requestsPerSecond * (call.now - earlier.now) := by
  obtain ⟨tokens, reads, windows⟩ := Metering.meter_window config.requestsPerSecond config.burst
    (calls.map Call.request) i call.ip call.now (by simp [here, Call.request]) limits.nonempty
  have record := logged_requests config calls (config.meter.outputs [] (calls.map Call.request))
  rw [← metered] at record
  have answer : answers[i]? = some (config.verdict tokens) := by
    rw [metered, List.getElem?_map]
    exact congrArg (Option.map config.verdict) reads
  have long : answers.length = calls.length := by simp [metered]
  have spends (j : Nat) : allowedCount call.ip (((calls.zip answers).take i).drop j) =
      Metering.spent call.ip ((((calls.zip answers).map logged).take i).drop j) := by
    rw [allowedCount_logged, List.map_drop, List.map_take]
  -- The windows of the meter start at earlier entries of the log; the one that starts at
  -- the call itself asks for a single token.
  rw [answer, Option.some_inj, config.verdict_iff, windows]
  simp only [RateLimitConfig.meter] at record
  rw [record]
  constructor
  · intro room j earlier upTo found mine
    rcases Nat.lt_or_eq_of_le upTo with before | rfl
    · obtain ⟨answer, entry⟩ := logged_getElem? long found
      rw [← List.getElem?_take_of_lt before] at entry
      rw [spends, add_comm]
      simpa only using room j _ entry mine
    · obtain rfl := Option.some.inj (found.symm.trans here)
      have full := limits.nonempty
      rw [List.drop_eq_nil_of_le (by simp)]
      simpa [allowedCount] using full
  · intro room j entry found mine
    have before : j < i := by
      have := (List.getElem?_eq_some_iff.mp found).1
      rw [List.length_take] at this
      omega
    rw [List.getElem?_take_of_lt before, List.getElem?_map] at found
    obtain ⟨⟨earlier, answer⟩, paired, rfl⟩ := Option.map_eq_some_iff.mp found
    have bounded := room j earlier before.le (List.getElem?_zip_eq_some.mp paired).1 mine
    rwa [spends, add_comm] at bounded

theorem answersTo_meter (config : RateLimitConfig) (calls : List Call) (ip : IpAddr) :
    answersTo ip (calls.zip
        ((config.meter.outputs [] (calls.map Call.request)).map config.verdict)) =
      (config.meter.outputs []
        (((calls.filter fun call => call.ip = ip).map Call.now).map fun now =>
          (ip, now))).map config.verdict := by
  have own : (calls.map Call.request).filter (fun request => request.1 = ip) =
      ((calls.filter fun call => call.ip = ip).map Call.now).map fun now => (ip, now) := by
    rw [List.filter_map, List.map_map]
    apply List.map_congr_left
    intro call member
    have same : call.ip = ip := of_decide_eq_true (List.mem_filter.mp member).2
    simp [Call.request, same]
  have told := Metering.meter_outputs_filter config.requestsPerSecond config.burst []
    (calls.map Call.request) ip
  rw [List.filter_nil, own] at told
  rw [RateLimitConfig.meter, ← told, List.zip_map_left, List.filter_map, List.map_map, List.map_map,
    List.zip_map_right, answersTo, List.filter_map, List.map_map]
  rfl

/-- The token bucket as a bound on windows, and the answers of an address as a function of the
times of its own requests. -/
theorem check_rate_limit_windows (config : RateLimitConfig) (limits : config.Limits)
    (refills : config.Refills) (created : Instant) (calls : List Call)
    (sequential : Sequential calls) :
    let answers := RateLimiter.machine.outputs (RateLimiter.new config created) calls
    (∀ (i : Nat) call, calls[i]? = some call →
      (answers[i]? = some .allowed ↔ ∀ j earlier, j ≤ i → calls[j]? = some earlier →
        earlier.ip = call.ip →
        (allowedCount call.ip (((calls.zip answers).take i).drop j) : ℚ) + 1 ≤
          config.burst + config.requestsPerSecond * (call.now - earlier.now))) ∧
    (∀ ip otherCreated other, Sequential other →
      (calls.filter fun call => call.ip = ip).map Call.now =
        (other.filter fun call => call.ip = ip).map Call.now →
      answersTo ip (calls.zip answers) = answersTo ip (other.zip
        (RateLimiter.machine.outputs (RateLimiter.new config otherCreated) other))) ∧
    ∀ rpm : UInt32, 1 ≤ rpm → (RateLimitConfig.perMinute rpm).Refills := by
  have sound := cleanupStaleEntries_sound limits refills
  have metered (created : Instant) (calls : List Call) (sequential : Sequential calls) :
      RateLimiter.machine.outputs (RateLimiter.new config created) calls =
        (config.meter.outputs [] (calls.map Call.request)).map config.verdict :=
    new_outputs_meter limits sound created calls sequential
  refine ⟨allowed_iff_windows limits calls _ (metered created calls sequential), ?_,
    perMinute_refills⟩
  intro ip otherCreated other otherSequential same
  rw [metered created calls sequential, metered otherCreated other otherSequential,
    answersTo_meter, answersTo_meter, same]

theorem check_rate_limit_windows_witness :
    let config := RateLimitConfig.new 1 2
    let first := IpAddr.v4 1
    let calls : List Call := [⟨first, 0, 0⟩, ⟨first, 0, 0⟩, ⟨.v6 1, 1 / 2, 1 / 2⟩,
      ⟨first, 1 / 2, 1⟩, ⟨first, 400, 400⟩]
    let answers := RateLimiter.machine.outputs (RateLimiter.new config 0) calls
    (∀ (i : Nat) call, calls[i]? = some call →
      (answers[i]? = some .allowed ↔ ∀ j earlier, j ≤ i → calls[j]? = some earlier →
        earlier.ip = call.ip →
        (allowedCount call.ip (((calls.zip answers).take i).drop j) : ℚ) + 1 ≤
          config.burst + config.requestsPerSecond * (call.now - earlier.now))) ∧
    (∀ ip otherCreated other, Sequential other →
      (calls.filter fun call => call.ip = ip).map Call.now =
        (other.filter fun call => call.ip = ip).map Call.now →
      answersTo ip (calls.zip answers) = answersTo ip (other.zip
        (RateLimiter.machine.outputs (RateLimiter.new config otherCreated) other))) ∧
    ∀ rpm : UInt32, 1 ≤ rpm → (RateLimitConfig.perMinute rpm).Refills :=
  check_rate_limit_windows (.new 1 2) ⟨by decide, by decide, by decide⟩ (by decide +kernel) 0 _
    (by decide +kernel)

end MadRpc.RateLimit
