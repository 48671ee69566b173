import Mathlib
import Reckoner.Decimal.Rounding
import Reckoner.Proofs.Logarithm

/-! Correct rounding, stated on rationals alone. The unit of a number is the power of ten at
the last place a context keeps of it; the number is divided by its unit, sent to an integer in
the direction of the context, and multiplied back. A result is refused when its leading digit
stands above the range. -/

namespace Reckoner

/-- The integer that a rational is sent to; the nearest one is the even one of two. -/
def Rounding.toInteger (mode : Rounding) (x : ℚ) : ℤ :=
  match mode with
  | .nearest =>
    if Int.fract x < 1 / 2 ∨ Int.fract x = 1 / 2 ∧ Even ⌊x⌋ then ⌊x⌋ else ⌊x⌋ + 1
  | .zero => if 0 ≤ x then ⌊x⌋ else ⌈x⌉
  | .up => ⌈x⌉
  | .down => ⌊x⌋
  | .awayZero => if 0 ≤ x then ⌈x⌉ else ⌊x⌋

namespace Context

/-- The place of the last digit that a context keeps of a rational. -/
def unitPlace (ctx : Context) (q : ℚ) : ℤ :=
  max (Int.log 10 |q| - ctx.precision + 1) ctx.etiny

/-- The correctly rounded value of a rational, whatever its size. -/
def correct (ctx : Context) (q : ℚ) : ℚ :=
  ctx.rounding.toInteger (q / 10 ^ ctx.unitPlace q) * 10 ^ ctx.unitPlace q

/-- Correct rounding within the range of exponents. -/
def roundRat (ctx : Context) (q : ℚ) : Except Signal ℚ :=
  if 10 ^ (ctx.emax + 1) ≤ |ctx.correct q| then .error .overflow else .ok (ctx.correct q)

end Context

namespace Rounding

theorem toInteger_intCast (mode : Rounding) (n : ℤ) : mode.toInteger n = n := by
  cases mode <;> simp [toInteger]

theorem floor_le_toInteger (mode : Rounding) (x : ℚ) : ⌊x⌋ ≤ mode.toInteger x := by
  have := Int.floor_le_ceil x
  cases mode with
  | down => exact le_rfl
  | up => exact this
  | nearest | zero | awayZero => simp only [toInteger]; split_ifs <;> omega

theorem toInteger_le_ceil (mode : Rounding) (x : ℚ) : mode.toInteger x ≤ ⌈x⌉ := by
  have := Int.floor_le_ceil x
  cases mode with
  | nearest =>
    rw [toInteger]
    split
    next => exact this
    next h =>
      have : ⌊x⌋ < ⌈x⌉ := by
        rw [Int.lt_ceil]
        refine lt_of_le_of_ne (Int.floor_le x) fun whole => h (Or.inl ?_)
        rw [Int.fract, ← whole]
        norm_num
      omega
  | down => exact this
  | up => exact le_rfl
  | zero | awayZero => simp only [toInteger]; split_ifs <;> omega

/-- Between two neighbouring halves of integers, rounding does not vary. -/
theorem toInteger_congr (mode : Rounding) {x y : ℚ} (floors : ⌊2 * x⌋ = ⌊2 * y⌋)
    (ceils : ⌈2 * x⌉ = ⌈2 * y⌉) : mode.toInteger x = mode.toInteger y := by
  have floor_half : ∀ z : ℚ, ⌊z⌋ = ⌊2 * z⌋ / 2 := fun z => by
    have h := Int.floor_div_natCast (2 * z) 2
    rwa [Nat.cast_ofNat, mul_div_cancel_left₀ z two_ne_zero] at h
  have floor_eq : ⌊x⌋ = ⌊y⌋ := by rw [floor_half, floors, ← floor_half]
  have ceil_half : ∀ z : ℚ, ⌈z⌉ = -((-⌈2 * z⌉) / 2) := fun z => by
    rw [← Int.floor_neg, ← mul_neg, ← floor_half, Int.floor_neg, neg_neg]
  have ceil_eq : ⌈x⌉ = ⌈y⌉ := by rw [ceil_half, ceils, ← ceil_half]
  have sign_eq : 0 ≤ x ↔ 0 ≤ y := by rw [← Int.floor_nonneg, floor_eq, Int.floor_nonneg]
  have below : ∀ z : ℚ, Int.fract z < 1 / 2 ↔ ⌊2 * z⌋ < 2 * ⌊z⌋ + 1 := fun z => by
    rw [Int.floor_lt, Int.fract]
    push_cast
    constructor <;> intro h <;> linarith
  have above : ∀ z : ℚ, Int.fract z ≤ 1 / 2 ↔ ⌈2 * z⌉ ≤ 2 * ⌊z⌋ + 1 := fun z => by
    rw [Int.ceil_le, Int.fract]
    push_cast
    constructor <;> intro h <;> linarith
  have below_iff : Int.fract x < 1 / 2 ↔ Int.fract y < 1 / 2 := by
    rw [below, below, floors, floor_eq]
  have above_iff : Int.fract x ≤ 1 / 2 ↔ Int.fract y ≤ 1 / 2 := by
    rw [above, above, ceils, floor_eq]
  have half_iff : Int.fract x = 1 / 2 ↔ Int.fract y = 1 / 2 := by
    rw [eq_iff_le_not_lt, eq_iff_le_not_lt, above_iff, below_iff]
  cases mode <;> simp only [toInteger, floor_eq, ceil_eq, sign_eq, below_iff, half_iff]

/-- The nearest integer is within a half; at a half it is the even one. -/
theorem nearest_spec (x : ℚ) :
    |x - nearest.toInteger x| < 1 / 2 ∨
      |x - nearest.toInteger x| = 1 / 2 ∧ Even (nearest.toInteger x) := by
  have part := Int.self_sub_floor x
  have nonneg := Int.fract_nonneg x
  rw [toInteger]
  split
  next h =>
    rw [part, abs_of_nonneg nonneg]
    exact h
  next h =>
    push Not at h
    have distance : |x - ((⌊x⌋ + 1 : ℤ) : ℚ)| = 1 - Int.fract x := by
      push_cast
      rw [abs_sub_comm, abs_of_nonneg] <;> linarith [Int.fract_lt_one x]
    rw [distance]
    rcases h.1.lt_or_eq with above | half
    · left
      linarith
    · right
      have odd : ¬ Even ⌊x⌋ := h.2 half.symm
      exact ⟨by rw [← half]; norm_num, by rwa [Int.even_add_one]⟩

/-- No integer is closer than the nearest one. -/
theorem abs_sub_nearest_le (x : ℚ) (n : ℤ) : |x - nearest.toInteger x| ≤ |x - n| := by
  have spec := nearest_spec x
  generalize nearest.toInteger x = m at *
  have le_half : |x - m| ≤ 1 / 2 := spec.elim le_of_lt fun h => h.1.le
  rcases eq_or_ne m n with rfl | differ
  · exact le_rfl
  · have apart : (1 : ℚ) ≤ |(m : ℚ) - n| := by
      have := Int.one_le_abs (sub_ne_zero.mpr differ)
      exact_mod_cast this
    have triangle : |(m : ℚ) - n| ≤ |x - m| + |x - n| := by
      rw [abs_sub_comm x]
      exact abs_sub_le _ _ _
    linarith

theorem nearest_eq_iff {x : ℚ} {n : ℤ} :
    nearest.toInteger x = n ↔ |x - n| < 1 / 2 ∨ |x - n| = 1 / 2 ∧ Even n := by
  constructor
  · rintro rfl
    exact nearest_spec x
  · intro h
    have spec := nearest_spec x
    generalize nearest.toInteger x = m at *
    have triangle : |(m : ℚ) - n| ≤ |x - m| + |x - n| := by
      rw [abs_sub_comm x]
      exact abs_sub_le _ _ _
    by_contra differ
    have apart : (1 : ℚ) ≤ |(m : ℚ) - n| := by
      have := Int.one_le_abs (sub_ne_zero.mpr differ)
      exact_mod_cast this
    have le_m : |x - m| ≤ 1 / 2 := spec.elim le_of_lt fun h => h.1.le
    have le_n : |x - n| ≤ 1 / 2 := h.elim le_of_lt fun h => h.1.le
    -- Two such integers are neighbours, both at a half and so both even.
    have even_m : Even m := (spec.resolve_left (by linarith)).2
    have even_n : Even n := (h.resolve_left (by linarith)).2
    have neighbours : |m - n| = 1 := by
      have : |(m : ℚ) - n| = 1 := le_antisymm (by linarith) apart
      exact_mod_cast this
    obtain ⟨a, rfl⟩ := even_m
    obtain ⟨b, rfl⟩ := even_n
    rcases (abs_eq zero_le_one).mp neighbours with h | h <;> omega

end Rounding

theorem ten_zpow_split {e low : ℤ} {n : ℕ} (h : e = n + low) :
    (10 : ℚ) ^ e = 10 ^ n * 10 ^ low := by
  rw [h, zpow_add₀ (by norm_num), zpow_natCast]

theorem log_ten_eq_iff {q : ℚ} (hq : 0 < q) (place : ℤ) :
    Int.log 10 q = place ↔ 10 ^ place ≤ q ∧ q < 10 ^ (place + 1) := by
  have general := log_eq_iff (by decide : 1 < 10) hq place
  rwa [Nat.cast_ofNat] at general

theorem ten_zpow_log_le {q : ℚ} (hq : 0 < q) : 10 ^ Int.log 10 q ≤ q :=
  ((log_ten_eq_iff hq _).mp rfl).1

/-- Two numbers that lie alike to every multiple of a power of ten. -/
def AlikeAt (place : ℤ) (x y : ℚ) : Prop :=
  ∀ n : ℤ, (n * 10 ^ place ≤ x ↔ n * 10 ^ place ≤ y) ∧
    (x ≤ n * 10 ^ place ↔ y ≤ n * 10 ^ place)

namespace AlikeAt

variable {place : ℤ} {x y : ℚ}

/-- Numbers strictly inside one cell of multiples lie alike. -/
theorem of_cell {k : ℤ} (hx : k * 10 ^ place < x ∧ x < (k + 1) * 10 ^ place)
    (hy : k * 10 ^ place < y ∧ y < (k + 1) * 10 ^ place) : AlikeAt place x y := by
  have unit : (0 : ℚ) < 10 ^ place := by positivity
  have below : ∀ z : ℚ, k * 10 ^ place < z ∧ z < (k + 1) * 10 ^ place → ∀ n : ℤ,
      n * 10 ^ place ≤ z ↔ n ≤ k := fun z hz n => by
    constructor
    · intro h
      have := lt_of_mul_lt_mul_right (h.trans_lt hz.2) unit.le
      exact Int.lt_add_one_iff.mp (by exact_mod_cast this)
    · intro h
      exact (mul_le_mul_of_nonneg_right (by exact_mod_cast h) unit.le).trans hz.1.le
  have above : ∀ z : ℚ, k * 10 ^ place < z ∧ z < (k + 1) * 10 ^ place → ∀ n : ℤ,
      z ≤ n * 10 ^ place ↔ k + 1 ≤ n := fun z hz n => by
    constructor
    · intro h
      have := lt_of_mul_lt_mul_right (hz.1.trans_le h) unit.le
      exact Int.add_one_le_iff.mpr (by exact_mod_cast this)
    · intro h
      have : ((k : ℚ) + 1) ≤ n := by exact_mod_cast h
      exact hz.2.le.trans (mul_le_mul_of_nonneg_right this unit.le)
  intro n
  rw [below x hx, below y hy, above x hx, above y hy]
  exact ⟨Iff.rfl, Iff.rfl⟩

/-- What is added to a multiple matters only by its sign while it is smaller than a cell. -/
theorem add_small {k : ℤ} {s t : ℚ} (signs : 0 < s ∧ 0 < t ∨ s < 0 ∧ t < 0)
    (hs : |s| < 10 ^ place) (ht : |t| < 10 ^ place) :
    AlikeAt place (k * 10 ^ place + s) (k * 10 ^ place + t) := by
  rw [abs_lt] at hs ht
  rcases signs with ⟨_, _⟩ | ⟨_, _⟩
  · apply of_cell (k := k) <;> constructor <;> linarith
  · apply of_cell (k := k - 1) <;> push_cast <;> constructor <;> linarith

/-- A multiple of a higher power of ten is one of the lower power. -/
theorem mono (h : AlikeAt place x y) {higher : ℤ} (le : place ≤ higher) :
    AlikeAt higher x y := by
  intro n
  have scaled : (n : ℚ) * 10 ^ higher = (n * 10 ^ (higher - place).toNat : ℤ) * 10 ^ place := by
    have split : (10 : ℚ) ^ higher = 10 ^ (higher - place).toNat * 10 ^ place :=
      ten_zpow_split (by omega)
    push_cast
    rw [split, mul_assoc]
  rw [scaled]
  exact h _

theorem neg (h : AlikeAt place x y) : AlikeAt place (-x) (-y) := by
  intro n
  have := h (-n)
  push_cast at this
  rw [neg_mul] at this
  exact ⟨le_neg.trans (this.2.trans le_neg), neg_le.trans (this.1.trans neg_le)⟩

theorem abs_le_iff (h : AlikeAt place x y) : (10 : ℚ) ^ place ≤ |x| ↔ (10 : ℚ) ^ place ≤ |y| := by
  have positive := (h 1).1
  have negative := (h (-1)).2
  simp only [Int.cast_one, one_mul, Int.cast_neg, neg_mul] at positive negative
  rw [le_abs, le_abs, positive, le_neg (b := x), negative, le_neg]

theorem log_eq (h : AlikeAt place x y) (le : place ≤ Int.log 10 |x|) (hx : x ≠ 0) :
    Int.log 10 |x| = Int.log 10 |y| := by
  have bounds := (log_ten_eq_iff (abs_pos.mpr hx) _).mp rfl
  have lower := (h.mono le).abs_le_iff.mp bounds.1
  have upper := mt ((h.mono (le.trans (Int.le_add_one le_rfl))).abs_le_iff.mpr)
    (not_le.mpr bounds.2)
  have hy : 0 < |y| := lt_of_lt_of_le (by positivity) lower
  exact ((log_ten_eq_iff hy _).mpr ⟨lower, not_le.mp upper⟩).symm

/-- Numbers that lie alike one place below their units are rounded alike. -/
theorem correct_eq (h : AlikeAt place x y) (ctx : Context) (hx : x ≠ 0)
    (far : place + ctx.precision ≤ Int.log 10 |x|) : ctx.correct x = ctx.correct y := by
  have log := h.log_eq (by omega) hx
  have units : ctx.unitPlace x = ctx.unitPlace y := by rw [Context.unitPlace, Context.unitPlace, log]
  have above : place + 1 ≤ ctx.unitPlace y := by
    rw [← units, Context.unitPlace]
    exact le_max_of_le_left (by omega)
  have alike := h.mono (show place ≤ ctx.unitPlace y - 1 by omega)
  -- Half a unit is five times the power of ten one place below it.
  have half : (10 : ℚ) ^ ctx.unitPlace y = 2 * (5 * 10 ^ (ctx.unitPlace y - 1)) := by
    rw [zpow_sub_one₀ (by norm_num)]
    ring
  have doubled : ∀ z : ℚ, 2 * (z / 10 ^ ctx.unitPlace y) = z / (5 * 10 ^ (ctx.unitPlace y - 1)) := by
    intro z
    rw [half]
    field_simp
  have step : (0 : ℚ) < 5 * 10 ^ (ctx.unitPlace y - 1) := by positivity
  have multiple : ∀ n : ℤ, (n : ℚ) * (5 * 10 ^ (ctx.unitPlace y - 1)) =
      (5 * n : ℤ) * 10 ^ (ctx.unitPlace y - 1) := by
    intro n
    push_cast
    ring
  have integers : ctx.rounding.toInteger (x / 10 ^ ctx.unitPlace y) =
      ctx.rounding.toInteger (y / 10 ^ ctx.unitPlace y) := by
    apply Rounding.toInteger_congr
    · exact eq_of_forall_le_iff fun n => by
        rw [Int.le_floor, Int.le_floor, doubled, doubled, le_div_iff₀ step, le_div_iff₀ step,
          multiple, (alike _).1]
    · exact eq_of_forall_ge_iff fun n => by
        rw [Int.ceil_le, Int.ceil_le, doubled, doubled, div_le_iff₀ step, div_le_iff₀ step,
          multiple, (alike _).2]
  rw [Context.correct, Context.correct, units, integers]

end AlikeAt

/-- What is added to a multiple matters only by its sign while it stays under the last place
that is kept. -/
theorem Context.correct_add_small (ctx : Context) {place k : ℤ} {s t : ℚ}
    (signs : 0 < s ∧ 0 < t ∨ s < 0 ∧ t < 0) (hs : |s| < 10 ^ place) (ht : |t| < 10 ^ place)
    (far : 10 ^ (place + ctx.precision) ≤ |k * 10 ^ place + s|) :
    ctx.correct (k * 10 ^ place + s) = ctx.correct (k * 10 ^ place + t) := by
  have positive : 0 < |k * 10 ^ place + s| := lt_of_lt_of_le (by positivity) far
  apply (AlikeAt.add_small signs hs ht).correct_eq ctx (abs_pos.mp positive)
  exact (Int.zpow_le_iff_le_log (by decide) positive).mp (by exact_mod_cast far)

/-! The numbers of a context are those of at most its digits at or above its least place, in any
range. Correct rounding chooses among all of them, not only among the multiples of one unit. -/

namespace Context

/-- The numbers that a context without a largest exponent holds exactly. -/
def numbers (ctx : Context) : Set ℚ :=
  {y | ∃ n place : ℤ, |n| < 10 ^ ctx.precision ∧ ctx.etiny ≤ place ∧ y = n * 10 ^ place}

variable (ctx : Context)

theorem correct_zero : ctx.correct 0 = 0 := by
  have := ctx.rounding.toInteger_intCast 0
  simp_all [correct]

theorem neg_mem_numbers {y : ℚ} (hy : y ∈ ctx.numbers) : -y ∈ ctx.numbers := by
  obtain ⟨n, place, digits, least, rfl⟩ := hy
  exact ⟨-n, place, by rwa [abs_neg], least, by push_cast; ring⟩

theorem abs_lt_unit (q : ℚ) : |q| < 10 ^ (ctx.unitPlace q + ctx.precision) := by
  have upper := Int.lt_zpow_succ_log_self (b := 10) (by decide) |q|
  rw [Nat.cast_ofNat] at upper
  refine upper.trans_le (zpow_le_zpow_right₀ (by norm_num) ?_)
  have : Int.log 10 |q| - ctx.precision + 1 ≤ ctx.unitPlace q := le_max_left _ _
  omega

/-- A number of the context is a multiple of the unit of `q`, or smaller than the leading digit
of `q`, which is such a multiple. -/
theorem multiple_or_small {q y : ℚ} (hq : q ≠ 0) (hy : y ∈ ctx.numbers) :
    (∃ n : ℤ, y = n * 10 ^ ctx.unitPlace q) ∨
      ∃ n : ℤ, |y| < n * 10 ^ ctx.unitPlace q ∧ n * 10 ^ ctx.unitPlace q ≤ |q| := by
  obtain ⟨n, place, digits, least, rfl⟩ := hy
  rcases le_or_gt (ctx.unitPlace q) place with le | lt
  · left
    have split : (10 : ℚ) ^ place = 10 ^ (place - ctx.unitPlace q).toNat * 10 ^ ctx.unitPlace q :=
      ten_zpow_split (by omega)
    refine ⟨n * 10 ^ (place - ctx.unitPlace q).toNat, ?_⟩
    rw [split]
    push_cast
    ring
  · right
    have above : ctx.unitPlace q = Int.log 10 |q| - ctx.precision + 1 := by
      rw [unitPlace] at lt ⊢
      omega
    have lower := ten_zpow_log_le (abs_pos.mpr hq)
    have leading : (10 : ℚ) ^ Int.log 10 |q| = 10 ^ (ctx.precision - 1) * 10 ^ ctx.unitPlace q := by
      have := ctx.precision_pos
      exact ten_zpow_split (by omega)
    refine ⟨10 ^ (ctx.precision - 1), ?_, ?_⟩
    · have bound : |(n : ℚ)| < 10 ^ (ctx.precision : ℤ) := by
        rw [zpow_natCast]
        exact_mod_cast digits
      push_cast
      rw [← leading, abs_mul, abs_of_pos (a := (10 : ℚ) ^ place) (by positivity)]
      calc |(n : ℚ)| * 10 ^ place < 10 ^ (ctx.precision : ℤ) * 10 ^ place :=
            mul_lt_mul_of_pos_right bound (by positivity)
        _ = 10 ^ (ctx.precision + place) := (zpow_add₀ (by norm_num) _ _).symm
        _ ≤ 10 ^ Int.log 10 |q| := zpow_le_zpow_right₀ (by norm_num) (by omega)
    · push_cast
      rwa [← leading]

theorem unitPlace_neg (q : ℚ) : ctx.unitPlace (-q) = ctx.unitPlace q := by
  rw [unitPlace, unitPlace, abs_neg]

/-- The multiple of the unit under a number is the largest number of the context there. -/
theorem le_floor_of_mem_numbers {q y : ℚ} (hy : y ∈ ctx.numbers) (le : y ≤ q) :
    y ≤ ⌊q / 10 ^ ctx.unitPlace q⌋ * 10 ^ ctx.unitPlace q := by
  have unit : (0 : ℚ) < 10 ^ ctx.unitPlace q := by positivity
  have multiple : ∀ n : ℤ, (n : ℚ) * 10 ^ ctx.unitPlace q ≤ q →
      (n : ℚ) * 10 ^ ctx.unitPlace q ≤ ⌊q / 10 ^ ctx.unitPlace q⌋ * 10 ^ ctx.unitPlace q := by
    intro n h
    have : n ≤ ⌊q / 10 ^ ctx.unitPlace q⌋ := Int.le_floor.mpr ((le_div_iff₀ unit).mpr h)
    exact mul_le_mul_of_nonneg_right (by exact_mod_cast this) unit.le
  by_cases zero : q = 0
  · simpa [zero] using le
  rcases ctx.multiple_or_small zero hy with ⟨n, rfl⟩ | ⟨n, small, large⟩
  · exact multiple n le
  · rcases lt_or_ge q 0 with negative | nonneg
    · rw [abs_of_neg negative] at large
      rw [abs_of_nonpos (by linarith)] at small
      linarith
    · rw [abs_of_nonneg nonneg] at large
      exact (le_abs_self y).trans (small.le.trans (multiple n large))

theorem ceil_le_of_mem_numbers {q y : ℚ} (hy : y ∈ ctx.numbers) (le : q ≤ y) :
    ⌈q / 10 ^ ctx.unitPlace q⌉ * 10 ^ ctx.unitPlace q ≤ y := by
  have := ctx.le_floor_of_mem_numbers (ctx.neg_mem_numbers hy) (neg_le_neg le)
  rw [unitPlace_neg, neg_div, Int.floor_neg] at this
  push_cast at this
  linarith

/-- Rounding does not pass a number of the context from below. -/
theorem correct_le_of_mem_numbers {q y : ℚ} (hy : y ∈ ctx.numbers) (le : q ≤ y) :
    ctx.correct q ≤ y := by
  refine le_trans ?_ (ctx.ceil_le_of_mem_numbers hy le)
  have below : ((ctx.rounding.toInteger (q / 10 ^ ctx.unitPlace q) : ℤ) : ℚ) ≤
      ⌈q / 10 ^ ctx.unitPlace q⌉ := by
    exact_mod_cast ctx.rounding.toInteger_le_ceil _
  exact mul_le_mul_of_nonneg_right below (by positivity)

theorem correct_nonneg {q : ℚ} (hq : 0 ≤ q) : 0 ≤ ctx.correct q := by
  have above : (0 : ℤ) ≤ ctx.rounding.toInteger (q / 10 ^ ctx.unitPlace q) :=
    (Int.floor_nonneg.mpr (by positivity)).trans (ctx.rounding.floor_le_toInteger _)
  have : (0 : ℚ) ≤ ctx.rounding.toInteger (q / 10 ^ ctx.unitPlace q) := by exact_mod_cast above
  rw [correct]
  positivity

theorem zpow_mem_numbers {place : ℤ} (least : ctx.etiny ≤ place) : 10 ^ place ∈ ctx.numbers := by
  have digits := ctx.precision_pos
  refine ⟨1, place, ?_, least, by simp⟩
  rw [abs_one]
  exact one_lt_pow₀ (by norm_num) digits.ne'

theorem correct_mem_numbers (q : ℚ) : ctx.correct q ∈ ctx.numbers := by
  have bound : |q / 10 ^ ctx.unitPlace q| < 10 ^ ctx.precision := by
    rw [abs_div, abs_of_pos (a := (10 : ℚ) ^ ctx.unitPlace q) (by positivity),
      div_lt_iff₀ (by positivity), ← zpow_natCast, ← zpow_add₀ (by norm_num), add_comm]
    exact ctx.abs_lt_unit q
  have least : ctx.etiny ≤ ctx.unitPlace q := le_max_right _ _
  rw [abs_lt] at bound
  have lower := ctx.rounding.floor_le_toInteger (q / 10 ^ ctx.unitPlace q)
  have upper := ctx.rounding.toInteger_le_ceil (q / 10 ^ ctx.unitPlace q)
  have floor : -10 ^ ctx.precision ≤ ⌊q / 10 ^ ctx.unitPlace q⌋ := by
    rw [Int.le_floor]
    push_cast
    exact bound.1.le
  have ceil : ⌈q / 10 ^ ctx.unitPlace q⌉ ≤ 10 ^ ctx.precision := by
    rw [Int.ceil_le]
    push_cast
    exact bound.2.le
  rw [correct]
  generalize ctx.rounding.toInteger (q / 10 ^ ctx.unitPlace q) = k at *
  rcases lt_or_eq_of_le (abs_le.mpr ⟨floor.trans lower, upper.trans ceil⟩) with lt | eq
  · exact ⟨k, _, lt, least, rfl⟩
  · -- A carry past all digits leaves a power of ten, which one digit holds a place up.
    have tenth : k = k.sign * 10 ^ (ctx.precision - 1) * 10 := by
      rw [mul_assoc, pow_sub_one_mul ctx.precision_pos.ne', ← eq, Int.sign_mul_abs]
    refine ⟨k.sign * 10 ^ (ctx.precision - 1), ctx.unitPlace q + 1, ?_, by omega, ?_⟩
    · have nonzero : k ≠ 0 := by
        rw [← abs_pos, eq]
        positivity
      have smaller : (10 : ℤ) ^ (ctx.precision - 1) < 10 ^ ctx.precision :=
        pow_lt_pow_right₀ (by norm_num) (Nat.sub_lt ctx.precision_pos one_pos)
      rwa [abs_mul, Int.abs_sign_of_ne_zero nonzero, one_mul, abs_of_pos (by positivity)]
    · rw [zpow_add_one₀ (by norm_num)]
      conv_lhs => rw [tenth]
      push_cast
      ring

/-- Rounding downward picks the largest number of the context that is not above. -/
theorem correct_isGreatest (h : ctx.rounding = .down) (q : ℚ) :
    IsGreatest {y ∈ ctx.numbers | y ≤ q} (ctx.correct q) := by
  refine ⟨⟨ctx.correct_mem_numbers q, ?_⟩, fun y hy => ?_⟩
  · rw [correct, h]
    exact (le_div_iff₀ (by positivity)).mp (Int.floor_le _)
  · rw [correct, h]
    exact ctx.le_floor_of_mem_numbers hy.1 hy.2

/-- Rounding upward picks the least number of the context that is not below. -/
theorem correct_isLeast (h : ctx.rounding = .up) (q : ℚ) :
    IsLeast {y ∈ ctx.numbers | q ≤ y} (ctx.correct q) := by
  refine ⟨⟨ctx.correct_mem_numbers q, ?_⟩, fun y hy => ?_⟩
  · rw [correct, h]
    exact (div_le_iff₀ (by positivity)).mp (Int.le_ceil _)
  · rw [correct, h]
    exact ctx.ceil_le_of_mem_numbers hy.1 hy.2

/-- Rounding to nearest leaves no number of the context closer. -/
theorem abs_sub_correct_le (h : ctx.rounding = .nearest) (q : ℚ) {y : ℚ} (hy : y ∈ ctx.numbers) :
    |q - ctx.correct q| ≤ |q - y| := by
  have unit : (0 : ℚ) < 10 ^ ctx.unitPlace q := by positivity
  have scaled : ∀ n : ℤ, |q - n * 10 ^ ctx.unitPlace q| =
      |q / 10 ^ ctx.unitPlace q - n| * 10 ^ ctx.unitPlace q := by
    intro n
    rw [← abs_of_pos unit, ← abs_mul, abs_of_pos unit, sub_mul, div_mul_cancel₀ _ unit.ne']
  have nearest : ∀ n : ℤ, |q - ctx.correct q| ≤ |q - n * 10 ^ ctx.unitPlace q| := by
    intro n
    rw [correct, h, scaled, scaled]
    exact mul_le_mul_of_nonneg_right (Rounding.abs_sub_nearest_le _ n) unit.le
  rcases le_total y q with le | le
  · have below := ctx.le_floor_of_mem_numbers hy le
    have floor := (le_div_iff₀ unit).mp (Int.floor_le (q / 10 ^ ctx.unitPlace q))
    refine (nearest ⌊q / 10 ^ ctx.unitPlace q⌋).trans ?_
    rw [abs_of_nonneg (by linarith), abs_of_nonneg (by linarith)]
    linarith
  · have above := ctx.ceil_le_of_mem_numbers hy le
    have ceil := (div_le_iff₀ unit).mp (Int.le_ceil (q / 10 ^ ctx.unitPlace q))
    refine (nearest ⌈q / 10 ^ ctx.unitPlace q⌉).trans ?_
    rw [abs_of_nonpos (by linarith), abs_of_nonpos (by linarith)]
    linarith

end Context

end Reckoner
