import Mathlib.Algebra.Group.Nat.Defs
import Mathlib.Data.Nat.Log
import MadRpc.Metrics.Stats

set_option autoImplicit false

namespace MadRpc.LatencyHistogram

/-- With more rounds than the number has digits, the loop ends by its own condition. -/
theorem ilog10Loop_log {rounds : Nat} {n : UInt64} {log : UInt32}
    (enough : n.toNat < 10 ^ (rounds + 1)) (room : log.toNat + rounds < UInt32.size) :
    (ilog10Loop rounds n log).toNat = log.toNat + Nat.log 10 n.toNat := by
  induction rounds generalizing n log with
  | zero =>
      have single : n.toNat < 10 := enough
      rw [ilog10Loop, Nat.log_of_lt single]
      rfl
  | succ rounds ih =>
      rw [ilog10Loop]
      have ten : (10 : UInt64) ≤ n ↔ 10 ≤ n.toNat := UInt64.le_iff_toNat_le
      by_cases more : 10 ≤ n.toNat
      · rw [if_pos (ten.mpr more)]
        have quotient : (n / 10).toNat = n.toNat / 10 := UInt64.toNat_div n 10
        have next : (log + 1).toNat = log.toNat + 1 := by
          rw [UInt32.toNat_add]
          exact Nat.mod_eq_of_lt (show log.toNat + 1 < UInt32.size by omega)
        have fewer : (n / 10).toNat < 10 ^ (rounds + 1) := by
          rw [quotient]
          exact Nat.div_lt_of_lt_mul (by rw [← Nat.pow_succ']; exact enough)
        rw [ih fewer (by omega), next, quotient, Nat.log_of_one_lt_of_le (by decide) more]
        omega
      · rw [if_neg (mt ten.mp more), Nat.log_of_lt (Nat.not_le.mp more)]
        rfl

theorem ilog10_eq (n : UInt64) : (ilog10 n).toNat = Nat.log 10 n.toNat := by
  unfold ilog10
  split
  next zero =>
    subst zero
    rfl
  next =>
    have wide : n.toNat < 10 ^ 21 := Nat.lt_trans n.toNat_lt (by decide)
    rw [ilog10Loop_log wide (by decide)]
    exact Nat.zero_add _

theorem toNat_ne_zero {latencyUs : UInt64} (nonzero : latencyUs ≠ 0) : latencyUs.toNat ≠ 0 :=
  fun zero => nonzero (UInt64.toNat_inj.mp zero)

def leadingDigit (latency : Nat) : Nat := latency / 10 ^ Nat.log 10 latency

theorem leadingDigit_bounds {latency : Nat} (positive : latency ≠ 0) :
    1 ≤ leadingDigit latency ∧ leadingDigit latency ≤ 9 := by
  have power := Nat.pow_log_le_self 10 positive
  have next := Nat.lt_pow_succ_log_self (b := 10) (by decide) latency
  have some' : 0 < 10 ^ Nat.log 10 latency := Nat.pow_pos (by decide)
  rw [Nat.pow_succ] at next
  exact ⟨(Nat.le_div_iff_mul_le some').mpr (by omega),
    Nat.le_of_lt_succ ((Nat.div_lt_iff_lt_mul some').mpr (by omega))⟩

theorem decade_eq {latency power : Nat} (above : 10 ^ power ≤ latency)
    (below : latency < 10 ^ (power + 1)) :
    Nat.log 10 latency = power ∧ leadingDigit latency = latency / 10 ^ power := by
  have log := Nat.log_eq_of_pow_le_of_lt_pow above below
  exact ⟨log, by rw [leadingDigit, log]⟩

theorem latencyToBin_eq {latencyUs : UInt64} (positive : latencyUs ≠ 0) :
    latencyToBin latencyUs =
      if latencyUs.toNat < 1000000 then
        10 * Nat.log 10 latencyUs.toNat + leadingDigit latencyUs.toNat
      else min (10 * Nat.log 10 latencyUs.toNat + 9) 99 := by
  have some' := toNat_ne_zero positive
  obtain ⟨least, most⟩ := leadingDigit_bounds some'
  unfold latencyToBin
  rw [if_neg positive]
  simp only [UInt64.lt_iff_toNat_lt, UInt64.toNat_div, UInt64.reduceToNat, ilog10_eq,
    NUM_HISTOGRAM_BINS]
  generalize latencyUs.toNat = latency at *
  have arm {power : Nat} (above : 10 ^ power ≤ latency) (below : latency < 10 ^ (power + 1))
      (early : power < 6) :
      min (Nat.log 10 latency * 10 + min (latency / 10 ^ power) 9) (100 - 1) =
        10 * Nat.log 10 latency + leadingDigit latency := by
    obtain ⟨log, digit⟩ := decade_eq above below
    rw [← digit, log]
    omega
  by_cases small : latency < 1000000
  · rw [if_pos small, if_pos small]
    split_ifs with ones tens hundreds thousands tenThousands
    · have first := @arm 0 (by omega) (by omega) (by decide)
      rwa [Nat.pow_zero, Nat.div_one] at first
    · exact @arm 1 (by omega) (by omega) (by decide)
    · exact @arm 2 (by omega) (by omega) (by decide)
    · exact @arm 3 (by omega) (by omega) (by decide)
    · exact @arm 4 (by omega) (by omega) (by decide)
    · exact @arm 5 (by omega) (by omega) (by decide)
  · rw [if_neg small, if_neg (by omega), if_neg (by omega), if_neg (by omega), if_neg (by omega),
      if_neg (by omega), if_neg small]
    omega

def binToLatency (bin : Nat) : UInt64 :=
  if bin = 0 then 1
  else
    let decade := bin / 10
    let subBin := bin % 10
    UInt64.ofNat (10 ^ decade) * UInt64.ofNat (max subBin 1)

def edge (bin : Nat) : Nat := 10 ^ (bin / 10) * max (bin % 10) 1

theorem binToLatency_toNat {bin : Nat} (within : bin ≤ NUM_HISTOGRAM_BINS) :
    (binToLatency bin).toNat = edge bin := by
  unfold binToLatency
  split
  next zero =>
    subst zero
    rfl
  next =>
    have decade : 10 ^ (bin / 10) ≤ 10 ^ 10 :=
      Nat.pow_le_pow_right (by decide) (by simp only [NUM_HISTOGRAM_BINS] at within; omega)
    have digit : max (bin % 10) 1 ≤ 9 := by omega
    have fits := Nat.mul_le_mul decade digit
    rw [UInt64.toNat_mul, UInt64.toNat_ofNat_of_lt' (Nat.lt_of_le_of_lt decade (by decide)),
      UInt64.toNat_ofNat_of_lt' (Nat.lt_of_le_of_lt digit (by decide))]
    exact Nat.mod_eq_of_lt (Nat.lt_of_le_of_lt fits (by decide))

theorem edge_succ (bin : Nat) : edge bin ≤ edge (bin + 1) := by
  unfold edge
  by_cases last : bin % 10 = 9
  · rw [show (bin + 1) / 10 = bin / 10 + 1 by omega, show (bin + 1) % 10 = 0 by omega, last,
      Nat.pow_succ, Nat.mul_assoc]
    exact Nat.mul_le_mul_left _ (by decide)
  · rw [show (bin + 1) / 10 = bin / 10 by omega]
    exact Nat.mul_le_mul_left _ (by omega)

theorem edge_mono : Monotone edge := monotone_nat_of_le_succ edge_succ

theorem edge_digit (power : Nat) {digit : Nat} (positive : 1 ≤ digit) (single : digit ≤ 9) :
    edge (10 * power + digit) = 10 ^ power * digit ∧
      edge (10 * power + digit + 1) = 10 ^ power * (digit + 1) := by
  have decade : (10 * power + digit) / 10 = power := by omega
  have place : (10 * power + digit) % 10 = digit := by omega
  refine ⟨by rw [edge, decade, place, Nat.max_eq_left positive], ?_⟩
  rcases Nat.lt_or_eq_of_le single with lower | rfl
  · rw [edge, show (10 * power + digit + 1) / 10 = power by omega,
      show (10 * power + digit + 1) % 10 = digit + 1 by omega, Nat.max_eq_left (by omega)]
  · rw [edge, show (10 * power + 9 + 1) / 10 = power + 1 by omega,
      show (10 * power + 9 + 1) % 10 = 0 by omega, Nat.pow_succ]
    exact Nat.mul_one _

def BinAgrees (latencyUs : UInt64) : Prop :=
  binToLatency (latencyToBin latencyUs) ≤ latencyUs ∧
    latencyUs < binToLatency (latencyToBin latencyUs + 1)

theorem binAgrees_iff_edge (latencyUs : UInt64) :
    BinAgrees latencyUs ↔ edge (latencyToBin latencyUs) ≤ latencyUs.toNat ∧
      latencyUs.toNat < edge (latencyToBin latencyUs + 1) := by
  have within := latencyToBin_lt latencyUs
  rw [BinAgrees, UInt64.le_iff_toNat_le, UInt64.lt_iff_toNat_lt,
    binToLatency_toNat (Nat.le_of_lt within), binToLatency_toNat within]

theorem leadingDigit_squeezes (latency : Nat) :
    10 ^ Nat.log 10 latency * leadingDigit latency ≤ latency ∧
      latency < 10 ^ Nat.log 10 latency * (leadingDigit latency + 1) :=
  ⟨Nat.mul_div_le _ _, Nat.lt_mul_div_succ _ (Nat.pow_pos (by decide))⟩

/-- From a second on the bin is the one of the digit 9, whatever the leading digit. -/
theorem bins_agree_iff (latencyUs : UInt64) (positive : 1 ≤ latencyUs)
    (small : latencyUs < 10000000000) :
    BinAgrees latencyUs ↔ latencyUs < 1000000 ∨ leadingDigit latencyUs.toNat = 9 := by
  have nonzero : latencyUs ≠ 0 := by
    rintro rfl
    exact absurd positive (by decide)
  have some' := toNat_ne_zero nonzero
  have second : latencyUs < 1000000 ↔ latencyUs.toNat < 1000000 := UInt64.lt_iff_toNat_lt
  rw [binAgrees_iff_edge, latencyToBin_eq nonzero, second]
  obtain ⟨least, most⟩ := leadingDigit_bounds some'
  obtain ⟨above, below⟩ := leadingDigit_squeezes latencyUs.toNat
  by_cases short : latencyUs.toNat < 1000000
  · obtain ⟨start, stop⟩ := edge_digit (Nat.log 10 latencyUs.toNat) least most
    rw [if_pos short, start, stop]
    exact iff_of_true ⟨above, below⟩ (.inl short)
  · have decades : Nat.log 10 latencyUs.toNat < 10 :=
      Nat.log_lt_of_lt_pow some' (UInt64.lt_iff_toNat_lt.mp small)
    obtain ⟨start, stop⟩ := edge_digit (Nat.log 10 latencyUs.toNat) (by decide) (Nat.le_refl 9)
    rw [if_neg short, Nat.min_eq_left (by omega), start, stop, or_iff_right short]
    constructor
    · rintro ⟨reached, -⟩
      exact Nat.le_antisymm most
        ((Nat.le_div_iff_mul_le (Nat.pow_pos (by decide))).mpr (Nat.mul_comm _ _ ▸ reached))
    · intro nine
      rw [nine] at above below
      exact ⟨above, below⟩

theorem bins_agree_iff_witness :
    BinAgrees 950000 ↔ (950000 : UInt64) < 1000000 ∨ leadingDigit (950000 : UInt64).toNat = 9 :=
  bins_agree_iff 950000 (by decide) (by decide)

theorem second_misplaced :
    latencyToBin 1000000 = 69 ∧ binToLatency 69 = 9000000 ∧ ¬ BinAgrees 1000000 := by
  have bin : latencyToBin 1000000 = 69 := by decide
  have start : binToLatency 69 = 9000000 := by decide
  refine ⟨bin, start, ?_⟩
  rintro ⟨above, -⟩
  rw [bin, start] at above
  exact absurd above (by decide)

theorem latencyToBin_mono {latencyUs longer : UInt64} (le : latencyUs ≤ longer) :
    latencyToBin latencyUs ≤ latencyToBin longer := by
  by_cases zero : latencyUs = 0
  · rw [show latencyToBin latencyUs = 0 from if_pos zero]
    exact Nat.zero_le _
  have order : latencyUs.toNat ≤ longer.toNat := UInt64.le_iff_toNat_le.mp le
  have some' := toNat_ne_zero zero
  have nonzero : longer ≠ 0 := by
    rintro rfl
    exact some' (Nat.le_zero.mp order)
  have decades := Nat.log_mono_right (b := 10) order
  obtain ⟨-, most⟩ := leadingDigit_bounds some'
  obtain ⟨least, -⟩ := leadingDigit_bounds (toNat_ne_zero nonzero)
  rw [latencyToBin_eq zero, latencyToBin_eq nonzero]
  split
  next short =>
    have early : Nat.log 10 latencyUs.toNat < 6 := Nat.log_lt_of_lt_pow some' short
    split
    next =>
      rcases Nat.lt_or_eq_of_le decades with lower | same
      · omega
      · have digits : leadingDigit latencyUs.toNat ≤ leadingDigit longer.toNat := by
          rw [leadingDigit, leadingDigit, same]
          exact Nat.div_le_div_right order
        omega
    next long =>
      have late : 6 ≤ Nat.log 10 longer.toNat :=
        (Nat.le_log_iff_pow_le (by decide) (by omega)).mpr (Nat.not_lt.mp long)
      omega
  next long =>
    rw [if_neg (by omega)]
    omega

/-- The loop ends by its own condition within 19 rounds, and bins are in range and in order. -/
theorem latency_bins_ordered :
    (∀ n : UInt64, 0 < n →
      (∀ rounds, 19 ≤ rounds → rounds < UInt32.size →
        (ilog10Loop rounds n 0).toNat = Nat.log 10 n.toNat) ∧
      (ilog10 n).toNat = Nat.log 10 n.toNat) ∧
    ∀ latencyUs longer : UInt64, latencyUs ≤ longer →
      latencyToBin latencyUs ≤ latencyToBin longer ∧
        latencyToBin longer < NUM_HISTOGRAM_BINS := by
  refine ⟨fun n _ => ⟨fun rounds enough room => ?_, ilog10_eq n⟩,
    fun latencyUs longer le => ⟨latencyToBin_mono le, latencyToBin_lt longer⟩⟩
  have digits : n.toNat < 10 ^ (rounds + 1) :=
    calc n.toNat < 10 ^ 20 := Nat.lt_trans n.toNat_lt (by decide)
      _ ≤ 10 ^ (rounds + 1) := Nat.pow_le_pow_right (by decide) (by omega)
  rw [ilog10Loop_log digits (by rwa [UInt32.toNat_zero, Nat.zero_add])]
  exact Nat.zero_add _

theorem latency_bins_ordered_witness :
    (ilog10Loop 19 12345 0).toNat = Nat.log 10 (12345 : UInt64).toNat ∧
      latencyToBin 999999 ≤ latencyToBin 1000000 ∧ latencyToBin 1000000 < NUM_HISTOGRAM_BINS :=
  ⟨(latency_bins_ordered.1 12345 (by decide)).1 19 (by decide) (by decide),
    latency_bins_ordered.2 999999 1000000 (by decide)⟩

end MadRpc.LatencyHistogram
