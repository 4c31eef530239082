import Mathlib.Algebra.Order.BigOperators.Group.List
import Mathlib.Data.Rat.Floor
import MadRpc.Client.Client
import MadRpc.Orchestrator.Timeout
import MadRpc.Shared.Rounding

set_option autoImplicit false

namespace MadRpc.MadrpcClient

inductive RetryConfigError where
  | invalidMaxAttempts (maxAttempts : UInt32)
  | invalidBackoffMultiplier (backoffMultiplier : Rat)
  | invalidDelayRange (maxDelay baseDelay : UInt64)
  deriving DecidableEq

structure BackoffConfig extends RetryConfig where
  baseDelayMs : UInt64
  maxDelayMs : UInt64
  -- A finite float.
  backoffMultiplier : Rat
  deriving DecidableEq

namespace BackoffConfig

def default : BackoffConfig where
  maxAttempts := 3
  baseDelayMs := 100
  maxDelayMs := 5000
  backoffMultiplier := 2

def new (maxAttempts : UInt32) (baseDelayMs maxDelayMs : UInt64) (backoffMultiplier : Rat) :
    Except RetryConfigError BackoffConfig :=
  if maxAttempts = 0 then .error (.invalidMaxAttempts maxAttempts)
  else if backoffMultiplier ≤ 0 then .error (.invalidBackoffMultiplier backoffMultiplier)
  else if maxDelayMs < baseDelayMs then .error (.invalidDelayRange maxDelayMs baseDelayMs)
  else .ok ⟨⟨maxAttempts⟩, baseDelayMs, maxDelayMs, backoffMultiplier⟩

def validate (config : BackoffConfig) : Except RetryConfigError Unit :=
  if config.maxAttempts = 0 then .error (.invalidMaxAttempts config.maxAttempts)
  else if config.backoffMultiplier ≤ 0 then
    .error (.invalidBackoffMultiplier config.backoffMultiplier)
  else if config.maxDelayMs < config.baseDelayMs then
    .error (.invalidDelayRange config.maxDelayMs config.baseDelayMs)
  else .ok ()

structure Valid (config : BackoffConfig) : Prop where
  some' : 0 < config.maxAttempts.toNat
  positive : 0 < config.backoffMultiplier
  ordered : config.baseDelayMs ≤ config.maxDelayMs

theorem validate_iff (config : BackoffConfig) : config.validate = .ok () ↔ config.Valid := by
  have none' : config.maxAttempts = 0 ↔ ¬ 0 < config.maxAttempts.toNat := by
    rw [Nat.not_lt, Nat.le_zero, ← UInt32.toNat_inj]
    rfl
  unfold validate
  split_ifs with exhausted shrinking range
  · exact iff_of_false nofun fun valid => none'.mp exhausted valid.some'
  · exact iff_of_false nofun fun valid => not_lt.mpr shrinking valid.positive
  · exact iff_of_false nofun fun valid => UInt64.not_lt.mpr valid.ordered range
  · exact iff_of_true rfl ⟨not_not.mp fun zero => exhausted (none'.mpr zero),
      not_le.mp shrinking, UInt64.not_lt.mp range⟩

open Binary64

/-- How `powi` rounds on its way is left open; nothing stands for an infinite power. -/
structure Powi where
  raise : Rat → Int → Option Rat
  one_le : ∀ base exponent power, 1 ≤ base → 0 ≤ exponent →
    raise base exponent = some power → 1 ≤ power

def Powi.once : Powi where
  raise base exponent :=
    if nearest (base ^ exponent) < 2 ^ 1024 then some (nearest (base ^ exponent)) else none
  one_le base exponent power grows nonnegative raised := by
    split at raised
    next =>
      cases raised
      have rounded := nearest_mono (one_le_zpow₀ grows nonnegative)
      rwa [show nearest 1 = 1 by decide +kernel] at rounded
    next => cases raised

def delayMs (powi : Powi) (config : BackoffConfig) (attempt : UInt32) : UInt64 :=
  castU64 <|
    match powi.raise config.backoffMultiplier (attempt.toInt32 - 1).toInt with
    | some power =>
        min (nearest (nearest config.baseDelayMs.toNat * power)) (nearest config.maxDelayMs.toNat)
    -- The product is infinite, or not a number if the base is zero.
    | none => nearest config.maxDelayMs.toNat

def jitterAmount (delayMs : UInt64) (draw : Bool × UInt64) : UInt64 :=
  let jitter := castU64 (nearest (nearest delayMs.toNat * nearest (1 / 10)))
  if 0 < jitter ∧ draw.1 then draw.2 % jitter else 0

def calculateDelay (powi : Powi) (config : BackoffConfig) (attempt : UInt32)
    (draw : Bool × UInt64) : Duration :=
  Duration.fromMillis
    (config.delayMs powi attempt + jitterAmount (config.delayMs powi attempt) draw)

/-- No delay needs rounding. -/
def Fits (config : BackoffConfig) : Prop := config.maxDelayMs.toNat ≤ 2 ^ 53

instance (config : BackoffConfig) : Decidable config.Fits := inferInstanceAs (Decidable (_ ≤ _))

section

variable (powi : Powi) (config : BackoffConfig) (fits : config.Fits)

include fits

theorem delayMs_le (attempt : UInt32) : config.delayMs powi attempt ≤ config.maxDelayMs := by
  have exactly : nearest config.maxDelayMs.toNat = config.maxDelayMs.toNat := nearest_natCast fits
  rw [delayMs, exactly]
  split
  next power _ =>
    have capped := castU64_mono (min_le_right
      (nearest (nearest config.baseDelayMs.toNat * power)) (config.maxDelayMs.toNat : Rat))
    rwa [castU64_natCast] at capped
  next =>
    rw [castU64_natCast]
    exact UInt64.le_refl _

theorem le_delayMs (valid : config.Valid) (grows : 1 ≤ config.backoffMultiplier)
    (attempt : UInt32) (some' : 1 ≤ attempt.toNat) (representable : attempt.toNat ≤ 2 ^ 31) :
    config.baseDelayMs ≤ config.delayMs powi attempt := by
  have ordered := UInt64.le_iff_toNat_le.mp valid.ordered
  have most : nearest config.maxDelayMs.toNat = config.maxDelayMs.toNat := nearest_natCast fits
  have least : nearest config.baseDelayMs.toNat = config.baseDelayMs.toNat :=
    nearest_natCast (ordered.trans fits)
  have within : (config.baseDelayMs.toNat : Rat) ≤ config.maxDelayMs.toNat := by
    exact_mod_cast ordered
  rw [← castU64_natCast config.baseDelayMs, delayMs, most, least]
  refine castU64_mono ?_
  split
  next power raised =>
    have exponent := CircuitBreakerConfig.exponent_eq attempt some' representable
    have grown := powi.one_le _ _ power grows (by omega) raised
    have longer := nearest_mono (le_mul_of_one_le_right
      (Nat.cast_nonneg (α := Rat) config.baseDelayMs.toNat) grown)
    rw [least] at longer
    exact le_min longer within
  next => exact within

omit fits in
theorem castU64_tenth (value : UInt64) (fits : value.toNat ≤ 2 ^ 53) :
    (castU64 (nearest (nearest value.toNat * nearest (1 / 10)))).toNat ≤
      value.toNat / 10 + 1 := by
  have exactly : nearest value.toNat = value.toNat := nearest_natCast fits
  have tenth : nearest (1 / 10) = 3602879701896397 / 36028797018963968 := by decide +kernel
  have quotient : value.toNat ≤ 10 * (value.toNat / 10) + 9 := by omega
  -- The double is above a tenth by too little to make up for the last digit.
  have below : (value.toNat : Rat) * (3602879701896397 / 36028797018963968) ≤
      ((value.toNat / 10 + 1 : Nat) : Rat) := by
    have digits : (value.toNat : Rat) ≤ 10 * ((value.toNat / 10 : Nat) : Rat) + 9 := by
      exact_mod_cast quotient
    have bounded : (value.toNat : Rat) ≤ 2 ^ 53 := by exact_mod_cast fits
    push_cast
    linarith
  have rounded := nearest_mono below
  rw [nearest_natCast (by omega)] at rounded
  rw [exactly, tenth, castU64_toNat]
  have floor := Rat.floor_monotone rounded
  rw [show (((value.toNat / 10 + 1 : Nat) : Rat)).floor = ((value.toNat / 10 + 1 : Nat) : Int) from
    Rat.floor_intCast _] at floor
  omega

omit fits in
theorem jitterAmount_le (value : UInt64) (fits : value.toNat ≤ 2 ^ 53) (draw : Bool × UInt64) :
    (jitterAmount value draw).toNat ≤ value.toNat / 10 := by
  have tenth := castU64_tenth value fits
  unfold jitterAmount
  dsimp only
  split_ifs with drawn
  · have rest := Nat.mod_lt draw.2.toNat (UInt64.lt_iff_toNat_lt.mp drawn.1)
    rw [UInt64.toNat_mod]
    omega
  · exact Nat.zero_le _

theorem calculateDelay_eq (attempt : UInt32) (draw : Bool × UInt64) :
    config.calculateDelay powi attempt draw = ((config.delayMs powi attempt).toNat +
      (jitterAmount (config.delayMs powi attempt) draw).toNat) * 1000000 := by
  have capped := UInt64.le_iff_toNat_le.mp (config.delayMs_le powi fits attempt)
  have room : config.maxDelayMs.toNat ≤ 2 ^ 53 := fits
  have jittered := jitterAmount_le (config.delayMs powi attempt) (capped.trans room) draw
  rw [calculateDelay, Duration.fromMillis, UInt64.toNat_add, Nat.mod_eq_of_lt (by omega)]

theorem calculateDelay_le (attempt : UInt32) (draw : Bool × UInt64) :
    config.calculateDelay powi attempt draw ≤
      (config.maxDelayMs.toNat + config.maxDelayMs.toNat / 10) * 1000000 := by
  have capped := UInt64.le_iff_toNat_le.mp (config.delayMs_le powi fits attempt)
  have jittered := jitterAmount_le (config.delayMs powi attempt) (capped.trans fits) draw
  rw [config.calculateDelay_eq powi fits]
  exact Nat.mul_le_mul_right _ (by omega)

theorem le_calculateDelay (attempt : UInt32) (draw : Bool × UInt64) :
    (config.delayMs powi attempt).toNat * 1000000 ≤ config.calculateDelay powi attempt draw := by
  rw [config.calculateDelay_eq powi fits]
  exact Nat.mul_le_mul_right _ (Nat.le_add_right _ _)

end

end BackoffConfig

structure Waited where
  result : Except MadrpcError Value
  posts : Nat
  slept : List Duration

def timedLoop (powi : BackoffConfig.Powi) (config : BackoffConfig) (draw : Nat → Bool × UInt64)
    (exchange : Nat → Exchange) : Nat → Nat → Option MadrpcError → Waited
  | 0, posts, lastError =>
      ⟨.error (lastError.getD (.invalidResponse "All retry attempts exhausted")), posts, []⟩
  | remaining + 1, posts, _ =>
      match tryCall (exchange posts) with
      | .ok result => ⟨.ok result, posts + 1, []⟩
      | .error err =>
          if !err.isRetryable then ⟨.error err, posts + 1, []⟩
          else
            let attempt := UInt32.ofNat (posts + 1)
            let later := timedLoop powi config draw exchange remaining (posts + 1) (some err)
            -- The last attempt is not waited after.
            if attempt < config.maxAttempts then
              { later with slept := config.calculateDelay powi attempt (draw posts) :: later.slept }
            else later

def timedCall (powi : BackoffConfig.Powi) (config : BackoffConfig) (draw : Nat → Bool × UInt64)
    (exchange : Nat → Exchange) : Waited :=
  timedLoop powi config draw exchange config.maxAttempts.toNat 0 none

section

variable (powi : BackoffConfig.Powi) (config : BackoffConfig) (draw : Nat → Bool × UInt64)
  (exchange : Nat → Exchange)

theorem timedLoop_untimed (remaining posts : Nat) (lastError : Option MadrpcError) :
    callLoop exchange remaining posts lastError =
      ⟨(timedLoop powi config draw exchange remaining posts lastError).result,
        (timedLoop powi config draw exchange remaining posts lastError).posts⟩ := by
  induction remaining generalizing posts lastError with
  | zero => rfl
  | succ remaining ih =>
      rw [callLoop, timedLoop]
      cases tryCall (exchange posts) with
      | ok result => rfl
      | error err =>
          cases retryable : err.isRetryable with
          | false => simp [retryable]
          | true =>
              simp only [retryable, Bool.not_true, Bool.false_eq_true, if_false, ih]
              split <;> rfl

theorem timedLoop_posts (remaining posts : Nat) (lastError : Option MadrpcError)
    (some' : 0 < remaining) :
    posts + 1 ≤ (timedLoop powi config draw exchange remaining posts lastError).posts := by
  obtain ⟨others, rfl⟩ := Nat.exists_eq_succ_of_ne_zero (Nat.pos_iff_ne_zero.mp some')
  obtain ⟨last, -, stopped⟩ := callLoop_stops exchange others posts lastError
  rw [timedLoop_untimed powi config draw exchange] at stopped
  have count : (timedLoop powi config draw exchange (others + 1) posts lastError).posts =
      posts + last + 1 := congrArg Called.posts stopped
  rw [count]
  omega

theorem timedLoop_slept (remaining posts : Nat) (lastError : Option MadrpcError)
    (count : posts + remaining = config.maxAttempts.toNat) :
    (timedLoop powi config draw exchange remaining posts lastError).slept =
      (List.range' posts ((timedLoop powi config draw exchange remaining posts lastError).posts -
        (posts + 1))).map fun retry =>
          config.calculateDelay powi (.ofNat (retry + 1)) (draw retry) := by
  induction remaining generalizing posts lastError with
  | zero => simp [timedLoop]
  | succ remaining ih =>
      rw [timedLoop]
      cases tryCall (exchange posts) with
      | ok result => simp
      | error err =>
          cases retryable : err.isRetryable with
          | false => simp [retryable]
          | true =>
              have later := ih (posts + 1) (some err) (by omega)
              have bounded := config.maxAttempts.toNat_lt
              have number : (UInt32.ofNat (posts + 1)).toNat = posts + 1 :=
                UInt32.toNat_ofNat_of_lt' (by rw [UInt32.size]; omega)
              simp only [retryable, Bool.not_true, Bool.false_eq_true, if_false]
              by_cases again : UInt32.ofNat (posts + 1) < config.maxAttempts
              · have left := UInt32.lt_iff_toNat_lt.mp again
                rw [number] at left
                have more := timedLoop_posts powi config draw exchange remaining (posts + 1)
                  (some err) (by omega)
                rw [if_pos again]
                dsimp only
                rw [later]
                generalize (timedLoop powi config draw exchange remaining (posts + 1)
                  (some err)).posts = made at more
                obtain ⟨rest, rfl⟩ := Nat.exists_eq_add_of_le more
                rw [show posts + 1 + 1 + rest - (posts + 1) = rest + 1 by omega,
                  show posts + 1 + 1 + rest - (posts + 1 + 1) = rest by omega,
                  List.range'_succ, List.map_cons]
              · have none' : remaining = 0 := by
                  rw [UInt32.lt_iff_toNat_lt, number] at again
                  omega
                subst none'
                rw [if_neg again]
                simp [timedLoop]

end

structure Paced (powi : BackoffConfig.Powi) (config : BackoffConfig) (draw : Nat → Bool × UInt64)
    (waited : Waited) : Prop where
  slept : waited.slept = (List.range (waited.posts - 1)).map fun retry =>
    config.calculateDelay powi (.ofNat (retry + 1)) (draw retry)
  capped : ∀ delay ∈ waited.slept,
    delay ≤ (config.maxDelayMs.toNat + config.maxDelayMs.toNat / 10) * 1000000
  total : waited.slept.sum ≤ (config.maxAttempts.toNat - 1) *
    ((config.maxDelayMs.toNat + config.maxDelayMs.toNat / 10) * 1000000)
  base : 1 ≤ config.backoffMultiplier → config.maxAttempts.toNat ≤ 2 ^ 31 →
    ∀ delay ∈ waited.slept, config.baseDelayMs.toNat * 1000000 ≤ delay

/-- The call that is told of its delays is the one that is not, and its delays are as documented:
at least the base, and at most the cap with a tenth of it. -/
theorem timed_call_paced (powi : BackoffConfig.Powi) (config : BackoffConfig)
    (valid : config.validate = .ok ()) (fits : config.Fits) (draw : Nat → Bool × UInt64)
    (exchange : Nat → Exchange) :
    call config.toRetryConfig exchange =
        ⟨(timedCall powi config draw exchange).result,
          (timedCall powi config draw exchange).posts⟩ ∧
      Paced powi config draw (timedCall powi config draw exchange) := by
  have accepted := config.validate_iff.mp valid
  have untimed := timedLoop_untimed powi config draw exchange config.maxAttempts.toNat 0 none
  have slept := timedLoop_slept powi config draw exchange config.maxAttempts.toNat 0 none
    (Nat.zero_add _)
  obtain ⟨last, stops, called⟩ := call_stops config.toRetryConfig accepted.some' exchange
  have within := stops.within
  have posts : (timedCall powi config draw exchange).posts = last + 1 := by
    rw [call, untimed] at called
    exact congrArg Called.posts called
  have delays : (timedCall powi config draw exchange).slept =
      (List.range last).map fun retry =>
        config.calculateDelay powi (.ofNat (retry + 1)) (draw retry) := by
    rw [timedCall, slept, List.range_eq_range']
    rw [timedCall] at posts
    rw [posts]
    rfl
  have each (delay : Duration) (member : delay ∈ (timedCall powi config draw exchange).slept) :
      ∃ retry < last, delay = config.calculateDelay powi (.ofNat (retry + 1)) (draw retry) := by
    rw [delays] at member
    obtain ⟨retry, before, rfl⟩ := List.mem_map.mp member
    exact ⟨retry, List.mem_range.mp before, rfl⟩
  have capped (delay : Duration) (member : delay ∈ (timedCall powi config draw exchange).slept) :
      delay ≤ (config.maxDelayMs.toNat + config.maxDelayMs.toNat / 10) * 1000000 := by
    obtain ⟨retry, -, rfl⟩ := each delay member
    exact config.calculateDelay_le powi fits _ _
  refine ⟨untimed, by rw [posts]; exact delays, capped, ?_, fun grows few delay member => ?_⟩
  · refine (List.sum_le_card_nsmul _ _ capped).trans ?_
    rw [delays, List.length_map, List.length_range]
    exact Nat.mul_le_mul_right _ within
  · obtain ⟨retry, before, rfl⟩ := each delay member
    have bounded := config.maxAttempts.toNat_lt
    have number : (UInt32.ofNat (retry + 1)).toNat = retry + 1 :=
      UInt32.toNat_ofNat_of_lt' (by rw [UInt32.size]; omega)
    have least := UInt64.le_iff_toNat_le.mp
      (config.le_delayMs powi fits accepted grows (.ofNat (retry + 1)) (by omega) (by omega))
    exact (Nat.mul_le_mul_right _ least).trans (config.le_calculateDelay powi fits _ _)

theorem timed_call_paced_witness :
    let refused := fun _ : Nat => Exchange.failed "connection refused"
    let draw := fun retry : Nat => (true, UInt64.ofNat (7 * retry + 3))
    call BackoffConfig.default.toRetryConfig refused =
        ⟨(timedCall .once .default draw refused).result,
          (timedCall .once .default draw refused).posts⟩ ∧
      Paced .once .default draw (timedCall .once .default draw refused) :=
  timed_call_paced .once .default (by decide +kernel) (by decide +kernel) _ _

end MadRpc.MadrpcClient
