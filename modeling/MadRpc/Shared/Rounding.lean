import Mathlib.Data.Int.Log
import Mathlib.Data.Rat.Floor
import Mathlib.Tactic.Linarith
import Mathlib.Tactic.NormNum

set_option autoImplicit false

/-!
# The nearest double

Ties go to the even significand, and numbers too small for an exponent of their own share the least
one. There is no greatest double: who needs the infinities asks for them.
-/

namespace Binary64

def roundHalfEven (value : ℚ) : ℤ :=
  if value - ⌊value⌋ < 1 / 2 ∨ value - ⌊value⌋ = 1 / 2 ∧ ⌊value⌋ % 2 = 0 then ⌊value⌋
  else ⌊value⌋ + 1

theorem roundHalfEven_near (value : ℚ) :
    value - 1 / 2 ≤ roundHalfEven value ∧ roundHalfEven value ≤ value + 1 / 2 := by
  have low := Int.floor_le value
  have high := Int.lt_floor_add_one value
  unfold roundHalfEven
  split
  next below =>
    have short : value - ⌊value⌋ ≤ 1 / 2 := below.elim le_of_lt fun tie => tie.1.le
    constructor <;> linarith
  next above =>
    have long : 1 / 2 ≤ value - ⌊value⌋ := not_lt.mp fun short => above (.inl short)
    push_cast
    constructor <;> linarith

theorem roundHalfEven_mono {value other : ℚ} (le : value ≤ other) :
    roundHalfEven value ≤ roundHalfEven other := by
  by_contra! crossed
  have apart : (roundHalfEven other : ℚ) + 1 ≤ roundHalfEven value := by exact_mod_cast crossed
  -- Only a tie could be rounded both ways, and it is one value.
  have same : value = other := by
    linarith [(roundHalfEven_near value).2, (roundHalfEven_near other).1]
  rw [same] at crossed
  exact lt_irrefl _ crossed

@[simp]
theorem roundHalfEven_intCast (value : ℤ) : roundHalfEven value = value := by
  rw [roundHalfEven, Int.floor_intCast, if_pos (.inl (by norm_num))]

def lastPlace (value : ℚ) : ℤ := max (Int.log 2 value - 52) (-1074)

def nearestOfPos (value : ℚ) : ℚ :=
  roundHalfEven (value / 2 ^ lastPlace value) * 2 ^ lastPlace value

def nearest (value : ℚ) : ℚ := if value < 0 then -nearestOfPos (-value) else nearestOfPos value

theorem nearestOfPos_of_multiple {value : ℚ} (digits : ℤ)
    (multiple : value = digits * 2 ^ lastPlace value) : nearestOfPos value = value := by
  have unit : (2 : ℚ) ^ lastPlace value ≠ 0 := (zpow_pos (by norm_num) _).ne'
  rw [nearestOfPos, (div_eq_iff unit).mpr multiple, roundHalfEven_intCast]
  exact multiple.symm

theorem lastPlace_mono {value other : ℚ} (positive : 0 < value) (le : value ≤ other) :
    lastPlace value ≤ lastPlace other :=
  max_le_max_right _ (Int.sub_le_sub_right (Int.log_mono_right positive le) _)

theorem nearestOfPos_mono {value other : ℚ} (positive : 0 < value) (le : value ≤ other) :
    nearestOfPos value ≤ nearestOfPos other := by
  rcases (lastPlace_mono positive le).eq_or_lt with same | finer
  · unfold nearestOfPos
    rw [same]
    have unit : (0 : ℚ) < 2 ^ lastPlace other := zpow_pos (by norm_num) _
    have quotients : value / 2 ^ lastPlace other ≤ other / 2 ^ lastPlace other :=
      (div_le_div_iff_of_pos_right unit).mpr le
    exact mul_le_mul_of_nonneg_right (by exact_mod_cast roundHalfEven_mono quotients) unit.le
  -- A power of two between the two is a double of both precisions.
  have normal : lastPlace other = Int.log 2 other - 52 := by
    have least : -1074 ≤ lastPlace value := le_max_right _ _
    unfold lastPlace at finer least ⊢
    omega
  have logs : Int.log 2 value < Int.log 2 other := by
    have least : Int.log 2 value - 52 ≤ lastPlace value := le_max_left _ _
    omega
  have unit (value : ℚ) : (0 : ℚ) < 2 ^ lastPlace value := zpow_pos (by norm_num) _
  have upTo : (2 : ℚ) ^ Int.log 2 other ≤ other :=
    Int.zpow_log_le_self (by norm_num) (positive.trans_le le)
  have below : value ≤ (2 : ℚ) ^ Int.log 2 other :=
    (Int.lt_zpow_succ_log_self (by norm_num) value).le.trans
      (zpow_le_zpow_right₀ (by norm_num) (Int.add_one_le_of_lt logs))
  have split (place : ℤ) (fits : place ≤ Int.log 2 other) :
      (2 : ℚ) ^ Int.log 2 other = ((2 ^ (Int.log 2 other - place).toNat : ℤ) : ℚ) * 2 ^ place := by
    push_cast
    rw [← zpow_natCast, ← zpow_add₀ (by norm_num), Int.toNat_of_nonneg (by omega)]
    congr 1
    omega
  calc nearestOfPos value
      ≤ 2 ^ Int.log 2 other := by
        have power := split (lastPlace value) (by omega)
        rw [nearestOfPos, power]
        refine mul_le_mul_of_nonneg_right ?_ (unit value).le
        have quotient : value / 2 ^ lastPlace value ≤
            ((2 ^ (Int.log 2 other - lastPlace value).toNat : ℤ) : ℚ) := by
          rw [div_le_iff₀ (unit value), ← power]
          exact below
        exact_mod_cast (roundHalfEven_mono quotient).trans_eq (roundHalfEven_intCast _)
    _ ≤ nearestOfPos other := by
        have power := split (lastPlace other) (by omega)
        rw [nearestOfPos, power]
        refine mul_le_mul_of_nonneg_right ?_ (unit other).le
        have quotient : ((2 ^ (Int.log 2 other - lastPlace other).toNat : ℤ) : ℚ) ≤
            other / 2 ^ lastPlace other := by
          rw [le_div_iff₀ (unit other), ← power]
          exact upTo
        exact_mod_cast (roundHalfEven_intCast _).symm.trans_le (roundHalfEven_mono quotient)

theorem nearest_neg (value : ℚ) : nearest (-value) = -nearest value := by
  rcases lt_trichotomy value 0 with negative | rfl | positive
  · rw [nearest, if_neg (by linarith), nearest, if_pos negative, neg_neg]
  · decide +kernel
  · rw [nearest, if_pos (by linarith), nearest, if_neg (by linarith), neg_neg]

theorem nearest_nonneg {value : ℚ} (nonnegative : 0 ≤ value) : 0 ≤ nearest value := by
  rw [nearest, if_neg (by linarith), nearestOfPos]
  have unit : (0 : ℚ) < 2 ^ lastPlace value := zpow_pos (by norm_num) _
  have quotient := roundHalfEven_mono (div_nonneg nonnegative unit.le)
  rw [show (0 : ℚ) = ((0 : ℤ) : ℚ) from rfl, roundHalfEven_intCast] at quotient
  exact mul_nonneg (by exact_mod_cast quotient) unit.le

theorem nearest_mono {value other : ℚ} (le : value ≤ other) : nearest value ≤ nearest other := by
  rcases lt_or_ge value 0 with negative | nonnegative
  · have below : nearest value ≤ 0 := by
      have mirrored := @nearest_nonneg (-value) (by linarith)
      rw [nearest_neg] at mirrored
      linarith
    rcases lt_or_ge other 0 with both | above
    · rw [nearest, if_pos negative, nearest, if_pos both]
      exact neg_le_neg (nearestOfPos_mono (by linarith) (by linarith))
    · exact below.trans (nearest_nonneg above)
  · rcases nonnegative.eq_or_lt with rfl | positive
    · exact (show nearest 0 = 0 by decide +kernel).trans_le (nearest_nonneg le)
    · rw [nearest, if_neg (by linarith), nearest, if_neg (by linarith)]
      exact nearestOfPos_mono positive le

theorem nearest_natCast {value : ℕ} (short : value ≤ 2 ^ 53) : nearest value = value := by
  rcases Nat.eq_zero_or_pos value with rfl | positive
  · decide +kernel
  have above : (0 : ℚ) < value := by exact_mod_cast positive
  rw [nearest, if_neg (by linarith)]
  rcases short.eq_or_lt with rfl | small
  · decide +kernel
  have log : Int.log 2 (value : ℚ) < 53 := by
    rw [Int.log_natCast]
    exact_mod_cast Nat.log_lt_of_lt_pow positive.ne' small
  have fine : lastPlace value ≤ 0 := by
    unfold lastPlace
    omega
  refine nearestOfPos_of_multiple (value * 2 ^ (-lastPlace value).toNat) ?_
  push_cast
  rw [mul_assoc, ← zpow_natCast, Int.toNat_of_nonneg (by omega), ← zpow_add₀ (by norm_num)]
  simp

example : nearest (1 / 10) = 3602879701896397 / 36028797018963968 := by decide +kernel

end Binary64
