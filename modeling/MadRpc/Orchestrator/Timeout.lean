import Mathlib.Algebra.Order.Field.Power
import MadRpc.Orchestrator.Node

set_option autoImplicit false

namespace MadRpc

def Duration.fromSecs (seconds : UInt64) : Duration := seconds.toNat * 1000000000

theorem Duration.fromSecs_eq (seconds : UInt64) :
    Duration.fromSecs seconds = seconds.toNat * 1000 * 1000000 :=
  (Nat.mul_assoc _ 1000 1000000).symm

namespace CircuitBreakerConfig

theorem castU64_ge (base : UInt64) (factor : Rat) (grows : 1 ≤ factor) :
    base.toNat ≤ (castU64 (base.toNat * factor)).toNat := by
  have grown : (base.toNat : Rat) ≤ base.toNat * factor :=
    le_mul_of_one_le_right (Nat.cast_nonneg (α := Rat) base.toNat) grows
  have cast := castU64_mono grown
  rwa [castU64_natCast, UInt64.le_iff_toNat_le] at cast

theorem exponent_eq (failures : UInt32) (some' : 1 ≤ failures.toNat)
    (representable : failures.toNat ≤ 2 ^ 31) :
    (failures.toInt32 - 1).toInt = failures.toNat - 1 := by
  -- At 2 ^ 31 the cast gives the least `i32`, and the subtraction wraps to the greatest.
  have cast : failures.toInt32.toInt = (failures.toNat : Int).bmod (2 ^ 32) :=
    BitVec.toInt_eq_toNat_bmod failures.toBitVec
  have one : (1 : Int32).toInt = 1 := rfl
  rw [Int32.toInt_sub, cast, one, Int.bmod_def, Int.bmod_def]
  split_ifs <;> omega

theorem factor_ge (config : CircuitBreakerConfig) (grows : 1 ≤ config.backoffMultiplier)
    (failures : UInt32) (documented : (1 ≤ failures.toNat ∧ failures.toNat ≤ 2 ^ 31) ∨
      config.backoffMultiplier = 1) :
    1 ≤ config.backoffMultiplier ^ (failures.toInt32 - 1).toInt := by
  rcases documented with ⟨some', representable⟩ | constant
  · rw [exponent_eq failures some' representable]
    exact one_le_zpow₀ grows (by omega)
  · rw [constant]
    exact (one_zpow _).symm.le

theorem toNat_min (first second : UInt64) :
    (min first second).toNat = min first.toNat second.toNat := by
  rw [Nat.min_def, show min first second = if first ≤ second then first else second from rfl]
  simp only [UInt64.le_iff_toNat_le]
  split <;> rfl

theorem millis_toNat {seconds : UInt64} (room : seconds.toNat * 1000 < UInt64.size) :
    (seconds * 1000).toNat = seconds.toNat * 1000 := by
  rw [UInt64.toNat_mul]
  exact Nat.mod_eq_of_lt room

/-- With a factor of at least one the power is never infinite. -/
theorem calculateTimeout_eq (config : CircuitBreakerConfig)
    (grows : 1 ≤ config.backoffMultiplier) (failures : UInt32) :
    config.calculateTimeout failures =
      min (castU64 ((config.baseTimeoutSecs * 1000).toNat *
          config.backoffMultiplier ^ (failures.toInt32 - 1).toInt)).toNat
        (config.maxTimeoutSecs * 1000).toNat * 1000000 := by
  have nonzero : config.backoffMultiplier ≠ 0 := by
    intro zero
    rw [zero] at grows
    exact absurd grows (by decide)
  simp only [calculateTimeout, nonzero, false_and, if_false, Duration.fromMillis, toNat_min]

theorem calculateTimeout_ge (config : CircuitBreakerConfig)
    (grows : 1 ≤ config.backoffMultiplier)
    (fits : config.baseTimeoutSecs.toNat * 1000 ≤ (config.maxTimeoutSecs * 1000).toNat)
    (failures : UInt32) (documented : (1 ≤ failures.toNat ∧ failures.toNat ≤ 2 ^ 31) ∨
      config.backoffMultiplier = 1) :
    Duration.fromSecs config.baseTimeoutSecs ≤ config.calculateTimeout failures := by
  -- The capped product fits, so the product below it does not wrap either.
  have base := millis_toNat (lt_of_le_of_lt fits (config.maxTimeoutSecs * 1000).toNat_lt)
  have backoff := castU64_ge (config.baseTimeoutSecs * 1000) _
    (config.factor_ge grows failures documented)
  rw [calculateTimeout_eq config grows, Duration.fromSecs_eq]
  exact Nat.mul_le_mul_right 1000000 (le_min (base.symm.le.trans backoff) fits)

theorem castU64_power_mono (config : CircuitBreakerConfig)
    (grows : 1 ≤ config.backoffMultiplier) {few many : UInt32} (some' : 1 ≤ few)
    (le : few ≤ many) (representable : many.toNat < 2 ^ 31) :
    castU64 ((config.baseTimeoutSecs * 1000).toNat *
        config.backoffMultiplier ^ (few.toInt32 - 1).toInt) ≤
      castU64 ((config.baseTimeoutSecs * 1000).toNat *
        config.backoffMultiplier ^ (many.toInt32 - 1).toInt) := by
  have one : 1 ≤ few.toNat := UInt32.le_iff_toNat_le.mp some'
  have order : few.toNat ≤ many.toNat := UInt32.le_iff_toNat_le.mp le
  rw [exponent_eq few one (by omega), exponent_eq many (one.trans order) (by omega)]
  exact castU64_mono (mul_le_mul_of_nonneg_left (zpow_le_zpow_right₀ grows (by omega))
    (Nat.cast_nonneg _))

theorem calculateTimeout_bounded_mono (config : CircuitBreakerConfig)
    (grows : 1 ≤ config.backoffMultiplier)
    (base : config.baseTimeoutSecs.toNat * 1000 < UInt64.size)
    (cap : config.maxTimeoutSecs.toNat * 1000 < UInt64.size)
    (few many : UInt32) (some' : 1 ≤ few) (le : few ≤ many) (representable : many.toNat < 2 ^ 31) :
    min (Duration.fromSecs config.baseTimeoutSecs) (Duration.fromSecs config.maxTimeoutSecs) ≤
        config.calculateTimeout few ∧
      config.calculateTimeout few ≤ config.calculateTimeout many ∧
      config.calculateTimeout many ≤ Duration.fromSecs config.maxTimeoutSecs := by
  have one : 1 ≤ few.toNat := UInt32.le_iff_toNat_le.mp some'
  have order : few.toNat ≤ many.toNat := UInt32.le_iff_toNat_le.mp le
  have least := (millis_toNat base).symm.le.trans (castU64_ge (config.baseTimeoutSecs * 1000) _
    (config.factor_ge grows few (.inl ⟨one, by omega⟩)))
  have grown := UInt64.le_iff_toNat_le.mp (config.castU64_power_mono grows some' le representable)
  simp only [calculateTimeout_eq config grows, Duration.fromSecs_eq]
  rw [millis_toNat cap, Nat.mul_min_mul_right]
  exact ⟨Nat.mul_le_mul_right _ (min_le_min_right _ least),
    Nat.mul_le_mul_right _ (min_le_min_right _ grown),
    Nat.mul_le_mul_right _ (min_le_right _ _)⟩

theorem calculateTimeout_bounded_mono_witness :
    min (Duration.fromSecs 30) (Duration.fromSecs 300) ≤ default.calculateTimeout 2 ∧
      default.calculateTimeout 2 ≤ default.calculateTimeout 2147483647 ∧
      default.calculateTimeout 2147483647 ≤ Duration.fromSecs 300 :=
  calculateTimeout_bounded_mono default (by decide) (by decide) (by decide) 2 2147483647
    (by decide) (by decide) (by decide)

end CircuitBreakerConfig

end MadRpc
