import Mathlib.Algebra.Group.Nat.Defs

set_option autoImplicit false

/-!
# Doubles as bits

The conversion of integers to the nearest double, ties to the even one.
-/

namespace Binary64

-- The implicit leading bit of a significand.
def leadingBit : Nat := 4503599627370496

def exponentField (bits : UInt64) : Nat := bits.toNat / leadingBit % 2048

def isFinite (bits : UInt64) : Bool := exponentField bits != 2047

def roundShift (value shift : Nat) : Nat :=
  let quotient := value >>> shift
  let remainder := value % (1 <<< shift)
  let half := 1 <<< (shift - 1)
  if half < remainder ∨ (half = remainder ∧ quotient % 2 = 1) then quotient + 1 else quotient

/-- A significand that is rounded up to the next power of two carries into the exponent. -/
def ofNat (value : Nat) : Nat :=
  if value = 0 then 0
  else
    let exponent := value.log2
    let significand :=
      if exponent ≤ 52 then value <<< (52 - exponent) else roundShift value (exponent - 52)
    (exponent + 1022) * leadingBit + significand

def signBit : Nat := 9223372036854775808

def ofUInt64 (value : UInt64) : UInt64 := UInt64.ofNat (ofNat value.toNat)

def ofInt64 (value : Int64) : UInt64 :=
  if value.toInt < 0 then UInt64.ofNat (signBit + ofNat value.toInt.natAbs)
  else UInt64.ofNat (ofNat value.toInt.natAbs)

theorem roundShift_le (value shift bound : Nat) (below : value < bound <<< shift) :
    roundShift value shift ≤ bound := by
  have quotient : value >>> shift < bound := by
    rw [Nat.shiftRight_eq_div_pow]
    rw [Nat.shiftLeft_eq] at below
    exact Nat.div_lt_of_lt_mul (Nat.mul_comm _ _ ▸ below)
  unfold roundShift
  dsimp only
  split
  · exact quotient
  · exact Nat.le_of_lt quotient

theorem ofNat_lt (value : Nat) (small : value < UInt64.size) :
    ofNat value < 1088 * leadingBit := by
  by_cases zero : value = 0
  · rw [ofNat, if_pos zero]
    decide
  have exponent : value.log2 ≤ 63 := Nat.le_of_lt_succ ((Nat.log2_lt zero).mpr small)
  have above : value < 2 ^ (value.log2 + 1) := Nat.lt_log2_self
  have significand :
      (if value.log2 ≤ 52 then value <<< (52 - value.log2)
        else roundShift value (value.log2 - 52)) ≤ 2 * leadingBit := by
    split
    next short =>
      have scaled : value * 2 ^ (52 - value.log2) ≤
          2 ^ (value.log2 + 1) * 2 ^ (52 - value.log2) :=
        Nat.mul_le_mul_right _ (Nat.le_of_lt above)
      rw [← Nat.pow_add, show value.log2 + 1 + (52 - value.log2) = 53 by omega] at scaled
      rw [Nat.shiftLeft_eq]
      exact scaled
    next long =>
      refine roundShift_le value _ _ ?_
      rw [Nat.shiftLeft_eq, show 2 * leadingBit = 2 ^ 53 from rfl, ← Nat.pow_add,
        show 53 + (value.log2 - 52) = value.log2 + 1 by omega]
      exact above
  rw [ofNat, if_neg zero]
  dsimp only
  have scaled := Nat.mul_le_mul_right leadingBit (Nat.add_le_add_right exponent 1022)
  have positive : 0 < leadingBit := by decide
  omega

theorem isFinite_ofNat (value : Nat) (small : value < 2047 * leadingBit) (sign : Nat)
    (signed : sign = 0 ∨ sign = signBit) : isFinite (UInt64.ofNat (sign + value)) = true := by
  have fits : sign + value < UInt64.size := by
    simp only [leadingBit, signBit, UInt64.size] at *
    omega
  simp only [isFinite, exponentField, UInt64.toNat_ofNat_of_lt' fits, bne_iff_ne]
  simp only [leadingBit, signBit] at *
  omega

theorem isFinite_ofUInt64 (value : UInt64) : isFinite (ofUInt64 value) = true := by
  have small := ofNat_lt value.toNat value.toNat_lt
  have finite := isFinite_ofNat (ofNat value.toNat)
    (Nat.lt_trans small (by decide)) 0 (.inl rfl)
  rwa [Nat.zero_add] at finite

theorem isFinite_ofInt64 (value : Int64) : isFinite (ofInt64 value) = true := by
  have low := value.le_toInt
  have high := value.toInt_lt
  have small : value.toInt.natAbs < UInt64.size := by
    simp only [UInt64.size]
    omega
  have bounded : ofNat value.toInt.natAbs < 2047 * leadingBit :=
    Nat.lt_trans (ofNat_lt value.toInt.natAbs small) (by decide)
  unfold ofInt64
  split
  · exact isFinite_ofNat _ bounded signBit (.inr rfl)
  · have finite := isFinite_ofNat _ bounded 0 (.inl rfl)
    rwa [Nat.zero_add] at finite

def significand (bits : UInt64) : Nat :=
  if exponentField bits = 0 then bits.toNat % leadingBit
  else leadingBit + bits.toNat % leadingBit

-- How many of the least positive doubles make one.
def unitsInOne : Nat := 2 ^ 1074

/-- A finite double as a multiple of the least positive one. -/
def scaled (bits : UInt64) : Int :=
  let magnitude := significand bits * 2 ^ (exponentField bits - 1)
  if signBit ≤ bits.toNat then -(magnitude : Int) else magnitude

def IsInteger (bits : UInt64) (int : Int) : Prop := scaled bits = int * unitsInOne

instance (bits : UInt64) (int : Int) : Decidable (IsInteger bits int) :=
  inferInstanceAs (Decidable (_ = _))

theorem IsInteger.unique {bits : UInt64} {int other : Int} (is : IsInteger bits int)
    (elsewhere : IsInteger bits other) : int = other :=
  Int.eq_of_mul_eq_mul_right (Int.natCast_ne_zero.mpr (by decide +kernel)) (is.symm.trans elsewhere)

theorem scaled_fields (exponent mantissa sign : Nat) (normal : 0 < exponent)
    (small : exponent < 2047) (within : mantissa < leadingBit)
    (signed : sign = 0 ∨ sign = signBit) :
    scaled (UInt64.ofNat (sign + (exponent * leadingBit + mantissa))) =
      (if sign = 0 then 1 else -1) * ((leadingBit + mantissa) * 2 ^ (exponent - 1) : Nat) := by
  have fits : sign + (exponent * leadingBit + mantissa) < UInt64.size := by
    simp only [leadingBit, signBit, UInt64.size] at *
    omega
  have field : (sign + (exponent * leadingBit + mantissa)) / leadingBit % 2048 = exponent := by
    simp only [leadingBit, signBit] at *
    omega
  have rest : (sign + (exponent * leadingBit + mantissa)) % leadingBit = mantissa := by
    simp only [leadingBit, signBit] at *
    omega
  simp only [scaled, significand, exponentField, UInt64.toNat_ofNat_of_lt' fits, field, rest,
    if_neg (Nat.pos_iff_ne_zero.mp normal)]
  rcases signed with rfl | rfl
  · rw [if_neg, if_pos rfl, Int.one_mul]
    simp only [leadingBit, signBit] at *
    omega
  · rw [if_pos (Nat.le_add_right _ _), if_neg (by decide), Int.neg_one_mul]

def exactBound : Nat := 9007199254740992

theorem ofNat_fields (value : Nat) (positive : 0 < value) (exact : value ≤ exactBound) :
    ∃ exponent mantissa, ofNat value = exponent * leadingBit + mantissa ∧ 0 < exponent ∧
      exponent < 2047 ∧ mantissa < leadingBit ∧
      (leadingBit + mantissa) * 2 ^ (exponent - 1) = value * unitsInOne := by
  by_cases power : value = exactBound
  · subst power
    exact ⟨1076, 0, by decide +kernel, by decide, by decide, by decide, by decide +kernel⟩
  have nonzero : value ≠ 0 := Nat.pos_iff_ne_zero.mp positive
  have short : value.log2 ≤ 52 := Nat.le_of_lt_succ ((Nat.log2_lt nonzero).mpr (by
    simp only [exactBound] at exact power
    omega))
  -- The significand is the number shifted up until its leading bit is the implicit one.
  have low : leadingBit ≤ value * 2 ^ (52 - value.log2) := by
    have leading := Nat.mul_le_mul_right (2 ^ (52 - value.log2)) (Nat.log2_self_le nonzero)
    rw [← Nat.pow_add, Nat.add_sub_cancel' short] at leading
    exact leading
  have high : value * 2 ^ (52 - value.log2) < 2 * leadingBit := by
    have above := Nat.mul_lt_mul_of_pos_right (Nat.lt_log2_self (n := value))
      (Nat.two_pow_pos (52 - value.log2))
    rw [← Nat.pow_add, show value.log2 + 1 + (52 - value.log2) = 53 by omega] at above
    exact above
  refine ⟨value.log2 + 1023, value * 2 ^ (52 - value.log2) - leadingBit, ?_, by omega, by omega,
    by omega, ?_⟩
  · rw [ofNat, if_neg nonzero]
    simp only [if_pos short, Nat.shiftLeft_eq]
    simp only [leadingBit] at *
    omega
  · have exponents : 52 - value.log2 + (value.log2 + 1023 - 1) = 1074 := by omega
    rw [Nat.add_sub_cancel' low, Nat.mul_assoc, ← Nat.pow_add]
    exact congrArg (value * 2 ^ ·) exponents

theorem isInteger_ofNat (value : Nat) (exact : value ≤ exactBound) :
    IsInteger (UInt64.ofNat (ofNat value)) value ∧
      IsInteger (UInt64.ofNat (signBit + ofNat value)) (-value) := by
  by_cases zero : value = 0
  · subst zero
    exact ⟨by decide +kernel, by decide +kernel⟩
  obtain ⟨exponent, mantissa, encoded, normal, small, within, same⟩ :=
    ofNat_fields value (Nat.pos_of_ne_zero zero) exact
  have plus := scaled_fields exponent mantissa 0 normal small within (.inl rfl)
  have minus := scaled_fields exponent mantissa signBit normal small within (.inr rfl)
  rw [← encoded, same] at plus minus
  rw [Nat.zero_add, if_pos rfl, Int.one_mul] at plus
  rw [if_neg (by decide), Int.neg_one_mul] at minus
  constructor
  · rw [IsInteger, plus, Int.natCast_mul]
  · rw [IsInteger, minus, Int.natCast_mul, Int.neg_mul]

theorem isInteger_ofUInt64 (value : UInt64) (exact : value.toNat ≤ exactBound) :
    IsInteger (ofUInt64 value) value.toNat :=
  (isInteger_ofNat value.toNat exact).1

theorem isInteger_ofInt64 (value : Int64) (exact : value.toInt.natAbs ≤ exactBound) :
    IsInteger (ofInt64 value) value.toInt := by
  unfold ofInt64
  split
  next negative =>
    have magnitude : -(value.toInt.natAbs : Int) = value.toInt := by omega
    have exactly := (isInteger_ofNat _ exact).2
    rwa [magnitude] at exactly
  next positive =>
    have magnitude : (value.toInt.natAbs : Int) = value.toInt := by omega
    have exactly := (isInteger_ofNat _ exact).1
    rwa [magnitude] at exactly

end Binary64
