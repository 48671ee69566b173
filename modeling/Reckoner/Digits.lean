/-! Decimal digits of natural numbers: how many a number has, how many zeros end it,
and powers of a number modulo another. The digit count squares its base at each step, so
that a number of a million digits costs about twenty divisions. -/

/- A power of naturals is always the one of the core library, whatever monoids are in sight. -/
attribute [instance (2000)] instPowNat

namespace Reckoner

/-- Divide `n` by the largest power of `base` that leaves something, and name that power. The
first component is below `base` once the fuel reaches a square of `base` above `n`. -/
def leadingPower : (fuel base n : Nat) → Nat × Nat
  | 0, _, n => (n, 0)
  | fuel + 1, base, n =>
    if n < base then (n, 0)
    else
      let (top, power) := leadingPower fuel (base * base) n
      if top < base then (top, 2 * power) else (top / base, 2 * power + 1)

theorem leadingPower_eq_div (fuel base n : Nat) :
    (leadingPower fuel base n).1 = n / base ^ (leadingPower fuel base n).2 := by
  induction fuel generalizing base with
  | zero => simp [leadingPower]
  | succ fuel ih =>
    rw [leadingPower]
    split
    · simp
    · have h := ih (base * base)
      rw [← Nat.pow_two, ← Nat.pow_mul] at h
      dsimp only
      split
      · rw [← Nat.pow_two]; exact h
      · simp only
        rw [← Nat.pow_two, h, Nat.div_div_eq_div_mul, ← Nat.pow_succ]

/-- The number of decimal digits of `n`; zero has one. -/
def digitCount (n : Nat) : Nat :=
  (leadingPower (n.log2.log2 + 1) 10 n).2 + 1

theorem digitCount_pos (n : Nat) : 0 < digitCount n := Nat.succ_pos _

/-- Remove at most `limit` zeros from the end of `n` and count those removed. -/
def dropZeros : (limit n : Nat) → Nat × Nat
  | 0, n => (n, 0)
  | limit + 1, n =>
    if n % 10 = 0 then
      let (rest, removed) := dropZeros limit (n / 10)
      (rest, removed + 1)
    else (n, 0)

theorem dropZeros_mul_pow (limit n : Nat) :
    (dropZeros limit n).1 * 10 ^ (dropZeros limit n).2 = n := by
  induction limit generalizing n with
  | zero => simp [dropZeros]
  | succ limit ih =>
    rw [dropZeros]
    split
    · have h := ih (n / 10)
      dsimp only
      rw [Nat.pow_succ, ← Nat.mul_assoc, h]
      omega
    · simp

/-- `base ^ exponent` modulo `modulus`, by squaring; the fuel bounds the bits of the exponent. -/
def powModBits : (fuel base exponent modulus : Nat) → Nat
  | 0, _, _, modulus => 1 % modulus
  | fuel + 1, base, exponent, modulus =>
    if exponent = 0 then 1 % modulus
    else
      let half := powModBits fuel (base * base % modulus) (exponent / 2) modulus
      if exponent % 2 = 1 then base * half % modulus else half

def powMod (base exponent modulus : Nat) : Nat :=
  powModBits (exponent.log2 + 1) base exponent modulus

theorem powModBits_eq (fuel base exponent modulus : Nat) (enough : exponent < 2 ^ fuel) :
    powModBits fuel base exponent modulus = base ^ exponent % modulus := by
  induction fuel generalizing base exponent with
  | zero =>
    have : exponent = 0 := by simpa using enough
    simp [powModBits, this]
  | succ fuel ih =>
    rw [powModBits]
    split
    next h => simp [h]
    next h =>
      have half := ih (base * base % modulus) (exponent / 2) (by rw [Nat.pow_succ] at enough; omega)
      have squares : (base * base % modulus) ^ (exponent / 2) % modulus =
          base ^ (2 * (exponent / 2)) % modulus := by
        rw [← Nat.pow_mod, ← Nat.pow_two, ← Nat.pow_mul]
      rw [squares] at half
      dsimp only
      split
      next odd =>
        rw [half, Nat.mul_mod, Nat.mod_mod, ← Nat.mul_mod, ← Nat.pow_succ']
        congr 2
        omega
      next even =>
        rw [half]
        congr 2
        omega

theorem powMod_eq (base exponent modulus : Nat) :
    powMod base exponent modulus = base ^ exponent % modulus :=
  powModBits_eq _ _ _ _ Nat.lt_log2_self

end Reckoner
