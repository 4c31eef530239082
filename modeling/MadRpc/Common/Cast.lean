import Mathlib.Algebra.Order.Field.Rat

set_option autoImplicit false

namespace MadRpc

def castU64 (value : Rat) : UInt64 :=
  -- The `as u64` cast of a float truncates, and saturates at both ends.
  UInt64.ofNat (min value.floor.toNat (2 ^ 64 - 1))

theorem castU64_toNat (value : Rat) :
    (castU64 value).toNat = min value.floor.toNat (2 ^ 64 - 1) := by
  rw [castU64, UInt64.toNat_ofNat']
  omega

theorem castU64_mono {value other : Rat} (le : value ≤ other) :
    castU64 value ≤ castU64 other := by
  have floors : value.floor ≤ other.floor := Rat.floor_monotone le
  rw [UInt64.le_iff_toNat_le, castU64_toNat, castU64_toNat]
  omega

theorem castU64_natCast (value : UInt64) : castU64 value.toNat = value := by
  have bounded := value.toNat_lt
  have floor : (value.toNat : Rat).floor = value.toNat := Rat.floor_intCast value.toNat
  rw [← UInt64.toNat_inj, castU64_toNat, floor]
  omega

end MadRpc
