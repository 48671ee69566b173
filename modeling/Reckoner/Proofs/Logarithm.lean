import Mathlib
import Reckoner.Digits

/-! Integer logarithms of positive rationals. The logarithm of a quotient is the difference of the
logarithms of its parts, or one less; a comparison of integers tells which. -/

namespace Reckoner

variable {base : ℕ}

/-- A quotient over a power of the base as a quotient of integers: the power goes to the side where
it is whole. -/
theorem scaled_quotient (hbase : 0 < base) (a b : ℕ) (e : ℤ) :
    ((a * base ^ (-e).toNat : ℕ) : ℚ) / (b * base ^ e.toNat : ℕ) = a / b / (base : ℚ) ^ e := by
  have nonzero : (base : ℚ) ≠ 0 := by positivity
  have power : (base : ℚ) ^ e = (base : ℚ) ^ (e.toNat : ℤ) / (base : ℚ) ^ ((-e).toNat : ℤ) := by
    rw [← zpow_sub₀ nonzero]
    congr 1
    omega
  rw [power, zpow_natCast, zpow_natCast]
  push_cast
  field_simp

theorem scaled_le_iff (hbase : 0 < base) {a b : ℕ} (hb : b ≠ 0) (e : ℤ) :
    b * base ^ e.toNat ≤ a * base ^ (-e).toNat ↔ (base : ℚ) ^ e ≤ a / b := by
  have power : (0 : ℚ) < (base : ℚ) ^ e := by positivity
  have divisor : (0 : ℚ) < (b * base ^ e.toNat : ℕ) := by positivity
  rw [← one_le_div power, ← scaled_quotient hbase, one_le_div divisor, Nat.cast_le]

section

variable (hbase : 1 < base)
include hbase

theorem log_eq_iff {q : ℚ} (hq : 0 < q) (place : ℤ) :
    Int.log base q = place ↔ (base : ℚ) ^ place ≤ q ∧ q < (base : ℚ) ^ (place + 1) := by
  have lower := Int.zpow_le_iff_le_log hbase (x := place) hq
  have upper := Int.lt_zpow_iff_log_lt hbase (x := place + 1) hq
  rw [lower, upper]
  omega

theorem log_mul_zpow {q : ℚ} (hq : 0 < q) (e : ℤ) :
    Int.log base (q * (base : ℚ) ^ e) = Int.log base q + e := by
  have nonzero : (base : ℚ) ≠ 0 := by positivity
  have bounds := (log_eq_iff hbase hq _).mp rfl
  have positive : (0 : ℚ) < (base : ℚ) ^ e := by positivity
  rw [log_eq_iff hbase (by positivity), zpow_add₀ nonzero, add_right_comm, zpow_add₀ nonzero]
  exact ⟨mul_le_mul_of_nonneg_right bounds.1 positive.le,
    mul_lt_mul_of_pos_right bounds.2 positive⟩

theorem log_quotient {a b : ℕ} (ha : a ≠ 0) (hb : b ≠ 0) :
    Int.log base (a / b : ℚ) = (Nat.log base a : ℤ) - Nat.log base b -
      if (base : ℚ) ^ ((Nat.log base a : ℤ) - Nat.log base b) ≤ a / b then 0 else 1 := by
  have nonzero : (base : ℚ) ≠ 0 := by positivity
  have hap : (0 : ℚ) < a := by positivity
  have hbp : (0 : ℚ) < b := by positivity
  have above := (log_eq_iff hbase hap _).mp (Int.log_natCast _ a)
  have under := (log_eq_iff hbase hbp _).mp (Int.log_natCast _ b)
  generalize (Nat.log base a : ℤ) = m at *
  generalize (Nat.log base b : ℤ) = n at *
  rw [log_eq_iff hbase (div_pos hap hbp)]
  split
  next reached =>
    refine ⟨by simpa using reached, ?_⟩
    rw [div_lt_iff₀ hbp]
    calc (a : ℚ) < (base : ℚ) ^ (m + 1) := above.2
      _ = (base : ℚ) ^ (m - n - 0 + 1) * (base : ℚ) ^ n := by
        rw [← zpow_add₀ nonzero]
        congr 1
        ring
      _ ≤ _ := mul_le_mul_of_nonneg_left under.1 (by positivity)
  next reached =>
    refine ⟨?_, by simpa using reached⟩
    rw [le_div_iff₀ hbp]
    calc _ ≤ (base : ℚ) ^ (m - n - 1) * (base : ℚ) ^ (n + 1) :=
          mul_le_mul_of_nonneg_left under.2.le (by positivity)
      _ = (base : ℚ) ^ m := by
        rw [← zpow_add₀ nonzero]
        congr 1
        ring
      _ ≤ a := above.1

end

end Reckoner
