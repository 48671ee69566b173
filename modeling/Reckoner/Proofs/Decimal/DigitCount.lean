import Mathlib
import Reckoner.Digits

/-! The digit count of a natural number is its integer logarithm to base ten, plus one. The
squaring search stops with a leading part below the base as soon as its fuel reaches the doubled
exponent of the number. -/

namespace Reckoner

theorem leadingPower_pos (fuel base n : Nat) (hb : 0 < base) (hn : 0 < n) :
    0 < (leadingPower fuel base n).1 := by
  induction fuel generalizing base with
  | zero => simpa [leadingPower] using hn
  | succ fuel ih =>
    have top := ih (base * base) (Nat.mul_pos hb hb)
    rw [leadingPower]
    split
    · exact hn
    · dsimp only
      split
      · exact top
      · rename_i h
        exact Nat.div_pos (Nat.le_of_not_lt h) hb

theorem leadingPower_lt (fuel base n : Nat) (hb : 0 < base) (enough : n < base ^ 2 ^ fuel) :
    (leadingPower fuel base n).1 < base := by
  induction fuel generalizing base with
  | zero => simpa [leadingPower] using enough
  | succ fuel ih =>
    have squared : n < (base * base) ^ 2 ^ fuel := by
      rwa [← Nat.pow_two, ← Nat.pow_mul, ← Nat.pow_succ']
    have top := ih (base * base) (Nat.mul_pos hb hb) squared
    rw [leadingPower]
    split
    next h => exact h
    next =>
      dsimp only
      split
      next h => exact h
      next => exact Nat.div_lt_of_lt_mul top

theorem lt_ten_pow_fuel (n : Nat) : n < 10 ^ 2 ^ (n.log2.log2 + 1) :=
  calc n < 2 ^ (n.log2 + 1) := Nat.lt_log2_self
    _ ≤ 2 ^ 2 ^ (n.log2.log2 + 1) := Nat.pow_le_pow_right (by decide) Nat.lt_log2_self
    _ ≤ 10 ^ 2 ^ (n.log2.log2 + 1) := Nat.pow_le_pow_left (by decide) _

theorem digitCount_eq_log (n : Nat) : digitCount n = Nat.log 10 n + 1 := by
  rcases Nat.eq_zero_or_pos n with rfl | hn
  · rfl
  · have quotient := leadingPower_eq_div (n.log2.log2 + 1) 10 n
    have positive := leadingPower_pos (n.log2.log2 + 1) 10 n (by decide) hn
    have small := leadingPower_lt (n.log2.log2 + 1) 10 n (by decide) (lt_ten_pow_fuel n)
    rw [digitCount]
    generalize (leadingPower (n.log2.log2 + 1) 10 n).2 = power at *
    rw [quotient] at positive small
    have log : Nat.log 10 n = power := by
      rw [Nat.log_eq_iff (Or.inr ⟨by decide, hn.ne'⟩)]
      constructor
      · exact (Nat.div_pos_iff.mp positive).2
      · rw [Nat.pow_succ]
        exact (Nat.div_lt_iff_lt_mul (by positivity)).mp small |>.trans_eq (Nat.mul_comm _ _)
    rw [log]

theorem lt_pow_digitCount (n : Nat) : n < 10 ^ digitCount n := by
  rw [digitCount_eq_log]
  exact Nat.lt_pow_succ_log_self (by decide) n

theorem digitCount_le_iff {n k : Nat} (hk : 0 < k) : digitCount n ≤ k ↔ n < 10 ^ k := by
  rw [digitCount_eq_log, Nat.succ_le_iff]
  exact ⟨Nat.lt_pow_of_log_lt (by decide), Nat.log_lt_of_lt_pow' hk.ne'⟩

end Reckoner
