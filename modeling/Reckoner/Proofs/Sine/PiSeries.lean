import Mathlib
import Reckoner.Proofs.Decimal.Comparison
import Reckoner.Proofs.Decimal.HalfUnit
import Reckoner.Proofs.Decimal.Fitting
import Reckoner.Proofs.Sine.ArcsineSeries
import Reckoner.Proofs.Sine.Table

/-! Pi at any precision. The rounded terms of the series stay a fraction of the last place from
the exact ones, so they fall under half of it after some five thirds of the digits, and the total
does not change any more; until then each step adds three fifths of the last place to its error. -/

namespace Reckoner.Sine

/-- The loop of the series without a bound on its steps: the number of steps to the total that
the last of them leaves as it is. -/
inductive PiEnds (ctx : Context) : ℕ → PiState → Decimal → Prop where
  | last {s next : PiState} (step : s.step ctx = .ok next)
    (same : next.total.sameNumber s.total = true) : PiEnds ctx 1 s next.total
  | more {n : ℕ} {s next : PiState} {total : Decimal} (step : s.step ctx = .ok next)
    (changed : next.total.sameNumber s.total = false) (rest : PiEnds ctx n next total) :
    PiEnds ctx (n + 1) s total

theorem PiEnds.piLoop_eq {ctx : Context} {n : ℕ} {s : PiState} {total : Decimal}
    (h : PiEnds ctx n s total) {fuel : ℕ} (enough : n ≤ fuel) :
    piLoop ctx fuel s = .ok total := by
  have unfolds {fuel : ℕ} {s next : PiState} (step : s.step ctx = .ok next) :
      piLoop ctx (fuel + 1) s =
        if next.total.sameNumber s.total then .ok next.total else piLoop ctx fuel next := by
    rw [piLoop, step]
    rfl
  induction h generalizing fuel with
  | last step same =>
    obtain ⟨fuel, rfl⟩ := Nat.exists_eq_add_of_le' enough
    rw [unfolds step, same, if_pos rfl]
  | more step changed _ ih =>
    obtain ⟨fuel, rfl⟩ := Nat.exists_eq_add_of_le' ((Nat.le_add_left 1 _).trans enough)
    rw [unfolds step, changed, if_neg Bool.false_ne_true]
    exact ih (by omega)

/-- The unit of the totals, two digits under the last one that is kept. -/
def piUnit (p : ℕ) : ℚ := 1 / 10 ^ (p + 1)

section Unit

variable {p k : ℕ}

theorem piUnit_pos (p : ℕ) : 0 < piUnit p := by
  rw [piUnit]
  positivity

theorem piUnit_le (positive : 0 < p) : piUnit p ≤ 1 / 100 := by
  have power : (10 : ℚ) ^ 2 ≤ 10 ^ (p + 1) := pow_le_pow_right₀ (by norm_num) (by omega)
  rw [piUnit, div_le_div_iff₀ (by positivity) (by norm_num)]
  linarith

theorem add_three_mul_piUnit_le (positive : 0 < p) : (p + 3) * piUnit p ≤ 1 := by
  have power : p + 3 ≤ 10 ^ (p + 1) := by
    induction p, positive using Nat.le_induction with
    | base => norm_num
    | succ p _ ih =>
      rw [pow_succ]
      omega
  rw [piUnit, mul_one_div, div_le_one (by positivity)]
  exact_mod_cast power

theorem sq_mul_piUnit_le (positive : 0 < p) (early : 3 * k ≤ 5 * p + 9) :
    (2 * k + 1) ^ 2 * piUnit p ≤ 10 / 9 := by
  have power : (10 * p + 21) ^ 2 ≤ 10 * 10 ^ (p + 1) := by
    clear early
    induction p, positive using Nat.le_induction with
    | base => norm_num
    | succ p _ ih =>
      rw [pow_succ 10 (p + 1)]
      nlinarith
  have odd : (3 * (2 * k + 1)) ^ 2 ≤ (10 * p + 21) ^ 2 := Nat.pow_le_pow_left (by omega) 2
  have bound : ((3 * (2 * k + 1)) ^ 2 : ℚ) ≤ 10 * 10 ^ (p + 1) := by
    exact_mod_cast odd.trans power
  rw [piUnit, mul_one_div, div_le_iff₀ (by positivity)]
  linarith

/-- After five thirds of the digits the terms are a quarter of the unit. -/
theorem piTerm_le_quarter (late : 5 * p + 7 ≤ 3 * (k + 1)) : piTerm (k + 1) ≤ piUnit p / 4 := by
  have cubes : (10 ^ (p + 1)) ^ 3 ≤ (2 ^ (2 * k + 1)) ^ 3 := by
    calc (10 ^ (p + 1)) ^ 3 = (10 ^ 3) ^ (p + 1) := by rw [← pow_mul, ← pow_mul, mul_comm]
      _ ≤ (2 ^ 10) ^ (p + 1) := Nat.pow_le_pow_left (by norm_num) _
      _ = 2 ^ (10 * (p + 1)) := by rw [← pow_mul]
      _ ≤ 2 ^ ((2 * k + 1) * 3) := Nat.pow_le_pow_right (by norm_num) (by omega)
      _ = (2 ^ (2 * k + 1)) ^ 3 := by rw [← pow_mul]
  have powers : (10 : ℚ) ^ (p + 1) ≤ 2 * 4 ^ k := by
    have root := le_of_pow_le_pow_left₀ (by norm_num) (Nat.zero_le _) cubes
    have real : (10 : ℚ) ^ (p + 1) ≤ 2 ^ (2 * k + 1) := by exact_mod_cast root
    rw [pow_succ (2 : ℚ) (2 * k), pow_mul] at real
    norm_num at real
    linarith
  refine (piTerm_le k).trans ?_
  rw [piUnit, one_div_pow, mul_one_div, div_div, div_div,
    div_le_div_iff₀ (by positivity) (by positivity)]
  linarith

end Unit

/-- A context with two digits more than are wanted, in which the small terms keep their place. -/
structure Guarded (p : ℕ) (ctx : Context) : Prop where
  digits : ctx.precision = p + 2
  positive : 0 < p
  nearest : ctx.rounding = .nearest
  below : ctx.emin ≤ -1
  range : 0 ≤ ctx.emax

namespace Guarded

variable {p : ℕ} {ctx : Context} (guarded : Guarded p ctx)
include guarded

theorem unit_eq : (10 : ℚ) ^ (1 - ctx.precision : ℤ) = piUnit p := by
  have place : (1 - (p + 2 : ℕ) : ℤ) = -(p + 1 : ℕ) := by omega
  rw [piUnit, guarded.digits, place, zpow_neg, zpow_natCast, one_div]

theorem least : ctx.etiny ≤ 1 - ctx.precision := by
  have below := guarded.below
  rw [Context.etiny]
  omega

theorem least_nonpos : ctx.etiny ≤ 0 := by
  have least := guarded.least
  have digits := ctx.precision_pos
  omega

/-- An operation on the numbers of the loop. -/
theorem exists_rounded {r : Except Signal Decimal} {q : ℚ}
    (h : r.map Decimal.toRat = ctx.roundRat q) (nonneg : 0 ≤ q) (small : q ≤ 9) :
    ∃ d, r = .ok d ∧ d.toRat = ctx.correct q ∧ 0 ≤ d.toRat ∧
      |d.toRat - q| ≤ (q + 1 / 10) * (piUnit p / 2) := by
  obtain ⟨d, delivered, value⟩ :=
    Context.exists_rounded_of_le_nine h nonneg small guarded.least_nonpos guarded.range
  have error := Context.abs_correct_sub_le_half guarded.nearest guarded.below q
  rw [guarded.unit_eq, abs_of_nonneg nonneg, ← value] at error
  exact ⟨d, delivered, value, by rw [value]; exact ctx.correct_nonneg nonneg, error⟩

end Guarded

section Step

/- One step: `t` is the rounded term and `e` the exact one, `f` and `D` the factor and the divisor
of the next term, `m` the rounded product and `z` the rounded quotient; `w` halves at every step,
and `u` is the unit. -/
variable {u w e f D t m z : ℚ} (hu : 0 ≤ u) (small : u ≤ 1 / 100) (hw : 0 ≤ w) (one : w ≤ 1)
  (ht : |t - e| ≤ (1 / 10 + w) * u)

include hu one ht in
theorem piStep_product_le (hf : 0 ≤ f) (exact : e * f ≤ 3) (few : f * u ≤ 10 / 9) : t * f ≤ 5 := by
  have above : t ≤ e + (1 / 10 + w) * u := by linarith [(abs_le.mp ht).2]
  have scaled := mul_le_mul_of_nonneg_right above hf
  have excess : (1 / 10 + w) * (f * u) ≤ 11 / 10 * (10 / 9) :=
    mul_le_mul (by linarith) few (mul_nonneg hf hu) (by norm_num)
  linarith

include hu small hw one ht in
theorem piStep_error (hm : |m - t * f| ≤ (t * f + 1 / 10) * (u / 2)) (hf : 0 ≤ f) (hD : 24 ≤ D)
    (quarter : f / D ≤ 1 / 4) (next : e * (f / D) ≤ w / 8)
    (hz : |z - m / D| ≤ (m / D + 1 / 10) * (u / 2)) : |z - e * (f / D)| ≤ (1 / 10 + w / 2) * u := by
  have positive : 0 < D := by linarith
  have ratio : 0 ≤ f / D := div_nonneg hf positive.le
  have carried : |t * (f / D) - e * (f / D)| ≤ (1 / 10 + w) / 4 * u := by
    rw [← sub_mul, abs_mul, abs_of_nonneg ratio]
    have := mul_le_mul ht quarter ratio (by positivity)
    linarith
  have product : |m / D - t * (f / D)| ≤ (t * (f / D) + 1 / 240) * (u / 2) := by
    have place : 1 / 10 / D ≤ 1 / 240 := by
      rw [div_le_iff₀ positive]
      linarith
    have scaled : |m / D - t * (f / D)| = |m - t * f| / D := by
      rw [← abs_of_pos positive, ← abs_div, abs_of_pos positive]
      congr 1
      ring
    have spread : (t * f + 1 / 10) * (u / 2) / D = (t * (f / D) + 1 / 10 / D) * (u / 2) := by ring
    rw [scaled]
    refine (div_le_div_of_nonneg_right hm positive.le).trans ?_
    rw [spread]
    exact mul_le_mul_of_nonneg_right (by linarith) (by linarith)
  rw [abs_le] at carried product hz ⊢
  have grown : (1 / 10 + w) / 4 * u ≤ 11 / 40 * (1 / 100) :=
    mul_le_mul (by linarith) small hu (by norm_num)
  have first : (t * (f / D) + 1 / 240) * (u / 2) ≤ (w / 8 + 1 / 100) * (u / 2) :=
    mul_le_mul_of_nonneg_right (by linarith) (by linarith)
  have slight : (w / 8 + 1 / 100) * (u / 2) ≤ 1 / 4 * (1 / 200) :=
    mul_le_mul (by linarith) (by linarith) (by linarith) (by norm_num)
  have second : (m / D + 1 / 10) * (u / 2) ≤ (w / 8 + 11 / 100) * (u / 2) :=
    mul_le_mul_of_nonneg_right (by linarith) (by linarith)
  have both := mul_nonneg hw hu
  constructor <;> linarith

end Step

/-- A state after a number of steps, against the exact series. -/
structure Tracks (p : ℕ) (ctx : Context) (k : ℕ) (s : PiState) : Prop where
  factor : s.factor + s.factorStep = (2 * k + 1) ^ 2
  factorStep : s.factorStep = 8 * k
  divisor : s.divisor + s.divisorStep = 8 * (k + 1) * (2 * k + 3)
  divisorStep : s.divisorStep = 32 * k + 24
  term_nonneg : 0 ≤ s.term.toRat
  term : |s.term.toRat - piTerm k| ≤ (1 / 10 + (1 / 2) ^ k) * piUnit p
  total_held : s.total.toRat ∈ ctx.numbers
  total_ge : 3 ≤ s.total.toRat
  total : |s.total.toRat - piSum k| ≤ (3 / 5 * k + 1 - (1 / 2) ^ k) * piUnit p

theorem half_pow_bounds (k : ℕ) : (0 : ℚ) < (1 / 2) ^ k ∧ ((1 : ℚ) / 2) ^ k ≤ 1 :=
  ⟨by positivity, pow_le_one₀ (by norm_num) (by norm_num)⟩

theorem piTerm_succ_le_half_pow (k : ℕ) : piTerm (k + 1) ≤ (1 / 2) ^ k / 8 := by
  have fourth : ((1 : ℚ) / 4) ^ k ≤ (1 / 2) ^ k :=
    pow_le_pow_left₀ (by norm_num) (by norm_num) k
  linarith [piTerm_le k]

section Steps

variable {p k : ℕ} {ctx : Context} {s next : PiState}

theorem tracks_start (guarded : Guarded p ctx) : Tracks p ctx 0 .start := by
  have three : (Decimal.ofNat 3).toRat = 3 := by simp [Decimal.toRat_ofNat]
  have unit := piUnit_pos p
  refine ⟨rfl, rfl, rfl, rfl, ?_, ?_, ?_, ?_, ?_⟩ <;> simp only [PiState.start, three]
  · norm_num
  · rw [show piTerm 0 = 3 by norm_num [piTerm], sub_self, abs_zero]
    positivity
  · exact Context.digit_mem_numbers guarded.least_nonpos 3 (by norm_num)
  · exact le_rfl
  · norm_num [piSum, piTerm]

theorem Tracks.total_le (guarded : Guarded p ctx) (h : Tracks p ctx k s)
    (early : 3 * k ≤ 5 * p + 9) : s.total.toRat ≤ 17 / 4 := by
  have error := (abs_le.mp h.total).2
  have unit := piUnit_pos p
  have steps : (3 / 5 * k + 1 - (1 / 2) ^ k : ℚ) ≤ p + 3 := by
    have real : (3 * k : ℚ) ≤ 5 * p + 9 := by exact_mod_cast early
    linarith [(half_pow_bounds k).1]
  have scaled := mul_le_mul_of_nonneg_right steps unit.le
  linarith [add_three_mul_piUnit_le guarded.positive, piSum_le k]

theorem term_le_one (positive : 0 < p) {z : ℚ}
    (hz : |z - piTerm (k + 1)| ≤ (1 / 10 + (1 / 2) ^ (k + 1)) * piUnit p) : z ≤ 1 := by
  have half := half_pow_bounds (k + 1)
  have exact := piTerm_succ_le_half_pow k
  have scaled : (1 / 10 + (1 / 2) ^ (k + 1)) * piUnit p ≤ 11 / 10 * (1 / 100) :=
    mul_le_mul (by linarith) (piUnit_le positive) (piUnit_pos p).le (by norm_num)
  linarith [(abs_le.mp hz).2, (half_pow_bounds k).2]

/-- The next term: a product and a quotient that stay in range. -/
theorem Tracks.exists_term (guarded : Guarded p ctx) (h : Tracks p ctx k s)
    (early : 3 * k ≤ 5 * p + 9) :
    ∃ m z, ctx.mul s.term (.ofNat (s.factor + s.factorStep)) = .ok m ∧
      ctx.div m (.ofNat (s.divisor + s.divisorStep)) = .ok z ∧ 0 ≤ z.toRat ∧
      |z.toRat - piTerm (k + 1)| ≤ (1 / 10 + (1 / 2) ^ (k + 1)) * piUnit p := by
  have unit := piUnit_pos p
  have small := piUnit_le guarded.positive
  have half := half_pow_bounds k
  have count : (0 : ℚ) ≤ k := k.cast_nonneg
  have product := piStep_product_le unit.le half.2 h.term (by positivity) (piTerm_mul_sq_le k)
    (sq_mul_piUnit_le guarded.positive early)
  rw [h.factor, h.divisor]
  have multiply := ctx.mul_map_toRat s.term (.ofNat ((2 * k + 1) ^ 2))
  rw [Decimal.toRat_ofNat] at multiply
  push_cast at multiply
  obtain ⟨m, multiplied, -, mNonneg, hm⟩ := guarded.exists_rounded multiply
    (mul_nonneg h.term_nonneg (by positivity)) (by linarith)
  have nonzero : (Decimal.ofNat (8 * (k + 1) * (2 * k + 3))).isZero = false := by
    simp [Decimal.isZero, Decimal.ofNat]
  have divide := ctx.div_map_toRat m _ nonzero
  rw [Decimal.toRat_ofNat] at divide
  push_cast at divide
  have wide : (24 : ℚ) ≤ 8 * (k + 1) * (2 * k + 3) := by nlinarith
  have quotient : m.toRat / (8 * (k + 1) * (2 * k + 3)) ≤ 9 := by
    have scaled : (s.term.toRat * (2 * k + 1) ^ 2 + 1 / 10) * (piUnit p / 2) ≤ 6 * (1 / 200) :=
      mul_le_mul (by linarith) (by linarith) (by linarith) (by norm_num)
    rw [div_le_iff₀ (by positivity)]
    linarith [(abs_le.mp hm).2]
  obtain ⟨z, divided, -, zNonneg, hz⟩ := guarded.exists_rounded divide
    (div_nonneg mNonneg (by positivity)) quotient
  have ratio : ((2 * k + 1) ^ 2 / (8 * (k + 1) * (2 * k + 3)) : ℚ) ≤ 1 / 4 := by
    rw [div_le_iff₀ (by positivity)]
    nlinarith
  have next : piTerm k * ((2 * k + 1) ^ 2 / (8 * (k + 1) * (2 * k + 3))) ≤ (1 / 2) ^ k / 8 := by
    rw [← piTerm_succ]
    exact piTerm_succ_le_half_pow k
  have error := piStep_error unit.le small half.1.le half.2 h.term hm (by positivity) wide ratio
    next hz
  rw [← piTerm_succ] at error
  refine ⟨m, z, multiplied, divided, zNonneg, error.trans_eq ?_⟩
  rw [pow_succ]
  ring

theorem step_eq {m z sum : Decimal}
    (multiplied : ctx.mul s.term (.ofNat (s.factor + s.factorStep)) = .ok m)
    (divided : ctx.div m (.ofNat (s.divisor + s.divisorStep)) = .ok z)
    (added : ctx.add s.total z = .ok sum) :
    s.step ctx = .ok ⟨z, sum, s.factor + s.factorStep, s.factorStep + 8,
      s.divisor + s.divisorStep, s.divisorStep + 32⟩ := by
  rw [PiState.step]
  show (ctx.mul s.term (.ofNat (s.factor + s.factorStep)) >>= _) = _
  rw [multiplied]
  show (ctx.div m (.ofNat (s.divisor + s.divisorStep)) >>= _) = _
  rw [divided]
  show (ctx.add s.total z >>= _) = _
  rw [added]
  rfl

/-- One step delivers, and its result tracks the series one term further. -/
theorem Tracks.exists_step (guarded : Guarded p ctx) (h : Tracks p ctx k s)
    (early : 3 * k ≤ 5 * p + 9) :
    ∃ next, s.step ctx = .ok next ∧ Tracks p ctx (k + 1) next ∧
      next.total.toRat = ctx.correct (s.total.toRat + next.term.toRat) := by
  obtain ⟨m, z, multiplied, divided, nonneg, term⟩ := h.exists_term guarded early
  have total := h.total_le guarded early
  have slight := term_le_one guarded.positive term
  have large := h.total_ge
  obtain ⟨sum, added, value, -, -⟩ := guarded.exists_rounded (ctx.add_map_toRat s.total z)
    (by linarith) (by linarith)
  have error := Context.abs_correct_sub_le_of_units guarded.nearest guarded.least
    (q := s.total.toRat + z.toRat) (by linarith) (by linarith)
  rw [guarded.unit_eq, ← value] at error
  have three : ((3 : ℕ) : ℚ) ≤ s.total.toRat + z.toRat := by
    push_cast
    linarith
  refine ⟨_, step_eq multiplied divided added, ?_, value⟩
  constructor <;> dsimp only
  case factor =>
    rw [h.factor, h.factorStep]
    ring
  case factorStep =>
    rw [h.factorStep]
    ring
  case divisor =>
    rw [h.divisor, h.divisorStep]
    ring
  case divisorStep =>
    rw [h.divisorStep]
    ring
  case term_nonneg => exact nonneg
  case term => exact term
  case total_held =>
    rw [value]
    exact ctx.correct_mem_numbers _
  case total_ge =>
    rw [value]
    exact ctx.le_correct_of_mem_numbers
      (Context.digit_mem_numbers guarded.least_nonpos 3 (by norm_num)) three
  case total =>
    have carried := h.total
    have halved : ((1 : ℚ) / 2) ^ k = 2 * (1 / 2) ^ (k + 1) := by
      rw [pow_succ]
      ring
    rw [halved] at carried
    rw [piSum_succ]
    push_cast
    rw [abs_le] at carried term error ⊢
    constructor <;> linarith

/-- A term under half of the unit leaves the total as it is. -/
theorem Tracks.unchanged (guarded : Guarded p ctx) (h : Tracks p ctx k s)
    (h' : Tracks p ctx (k + 1) next)
    (added : next.total.toRat = ctx.correct (s.total.toRat + next.term.toRat))
    (early : 3 * k ≤ 5 * p + 9) (late : 5 * p + 7 ≤ 3 * (k + 1)) :
    next.total.toRat = s.total.toRat := by
  have unit := piUnit_pos p
  have positive := guarded.positive
  have fourth : ((1 : ℚ) / 2) ^ (k + 1) ≤ (1 / 2) ^ 4 :=
    pow_le_pow_of_le_one (by norm_num) (by norm_num) (by omega)
  have scaled : (1 / 10 + (1 / 2) ^ (k + 1)) * piUnit p ≤ 1 / 5 * piUnit p :=
    mul_le_mul_of_nonneg_right (by linarith) unit.le
  have small : next.term.toRat < 10 ^ (1 - ctx.precision : ℤ) / 2 := by
    rw [guarded.unit_eq]
    linarith [(abs_le.mp h'.term).2, piTerm_le_quarter late]
  have sum : s.total.toRat + next.term.toRat < 10 := by
    linarith [h.total_le guarded early, term_le_one positive h'.term]
  rw [added]
  exact Context.correct_add_of_lt_half guarded.nearest guarded.least h.total_held
    (by linarith [h.total_ge]) h'.term_nonneg small sum

/-- A total that stays as it is has met a term of about half the unit. -/
theorem Tracks.term_le_of_unchanged (guarded : Guarded p ctx) (h : Tracks p ctx k s)
    (h' : Tracks p ctx (k + 1) next)
    (added : next.total.toRat = ctx.correct (s.total.toRat + next.term.toRat))
    (early : 3 * k ≤ 5 * p + 9) (same : next.total.toRat = s.total.toRat) :
    piTerm (k + 1) ≤ 11 / 10 * piUnit p := by
  have error := Context.abs_correct_sub_le_of_units guarded.nearest guarded.least
    (q := s.total.toRat + next.term.toRat) (by linarith [h.total_ge, h'.term_nonneg])
    (by linarith [h.total_le guarded early, term_le_one guarded.positive h'.term])
  rw [guarded.unit_eq, ← added, same] at error
  have half : ((1 : ℚ) / 2) ^ (k + 1) ≤ 1 / 2 := by
    rw [pow_succ]
    linarith [(half_pow_bounds k).2]
  have scaled : (1 / 10 + (1 / 2) ^ (k + 1)) * piUnit p ≤ 3 / 5 * piUnit p :=
    mul_le_mul_of_nonneg_right (by linarith) (piUnit_pos p).le
  linarith [(abs_le.mp h'.term).1, (abs_le.mp error).1]

/-- From every state of the first steps the loop ends, close to the series. -/
theorem Tracks.exists_end (guarded : Guarded p ctx) (h : Tracks p ctx k s)
    (early : 3 * k ≤ 5 * p + 6) :
    ∃ n last, PiEnds ctx n s last.total ∧ Tracks p ctx (k + n) last ∧
      3 * (k + n) ≤ 5 * p + 9 ∧ piTerm (k + n) ≤ 11 / 10 * piUnit p := by
  induction left : 5 * p + 9 - 3 * k using Nat.strong_induction_on generalizing k s with
  | h left ih =>
    obtain ⟨next, step, tracks, added⟩ := h.exists_step guarded (by omega)
    by_cases same : next.total.toRat = s.total.toRat
    · have met := h.term_le_of_unchanged guarded tracks added (by omega) same
      have equal : next.total.sameNumber s.total = true := by
        rw [Decimal.sameNumber, Decimal.order_eq, same, compare_eq_iff_eq.mpr rfl]
        rfl
      exact ⟨1, next, .last step equal, tracks, by omega, met⟩
    · have soon : ¬5 * p + 7 ≤ 3 * (k + 1) := fun late =>
        same (h.unchanged guarded tracks added (by omega) late)
      have different : next.total.sameNumber s.total = false := by
        rw [Decimal.sameNumber, Decimal.order_eq, beq_eq_false_iff_ne, Ne, compare_eq_iff_eq]
        exact same
      obtain ⟨n, last, ends, final, bound, met⟩ := ih _ (by omega) tracks (by omega) rfl
      have shift : k + 1 + n = k + (n + 1) := by omega
      rw [shift] at final bound met
      exact ⟨n + 1, last, .more step different ends, final, bound, met⟩

end Steps

/-- The context in which the series is summed. -/
def guard (ctx : Context) : Context :=
  { ctx with precision := ctx.precision + 2, precision_pos := Nat.succ_pos _ }

section Result

variable {ctx : Context} (nearest : ctx.rounding = .nearest) (below : ctx.emin ≤ -1)
  (range : 0 ≤ ctx.emax)
include nearest below range

theorem guard_guarded : Guarded ctx.precision (guard ctx) :=
  ⟨rfl, ctx.precision_pos, nearest, below, range⟩

/-- The total of the loop, and how many steps it takes. -/
theorem exists_total : ∃ n total, n ≤ 2 * ctx.precision + 10 ∧
    PiEnds (guard ctx) n .start total ∧ 3 ≤ total.toRat ∧ total.toRat ≤ 17 / 4 ∧
    |(total.toRat : ℝ) - Real.pi| ≤ (ctx.precision + 4) * piUnit ctx.precision := by
  have guarded := guard_guarded nearest below range
  have unit := piUnit_pos ctx.precision
  obtain ⟨n, last, ends, tracks, bound, met⟩ :=
    (tracks_start guarded).exists_end guarded (Nat.zero_le _)
  rw [Nat.zero_add] at tracks met
  refine ⟨n, last.total, by omega, ends, tracks.total_ge, tracks.total_le guarded (by omega), ?_⟩
  have steps : (3 / 5 * n + 1 - (1 / 2) ^ n : ℚ) ≤ ctx.precision + 3 := by
    have real : (3 * n : ℚ) ≤ 5 * ctx.precision + 9 := by
      rw [Nat.zero_add] at bound
      exact_mod_cast bound
    linarith [(half_pow_bounds n).1]
  have summed : |last.total.toRat - piSum n| ≤ (ctx.precision + 3) * piUnit ctx.precision :=
    tracks.total.trans (mul_le_mul_of_nonneg_right steps unit.le)
  have close := cast_abs_sub_le summed rfl
  have missing := pi_sub_piSum_bounds n
  have tail : (piTerm n : ℝ) ≤ 11 / 10 * piUnit ctx.precision := by
    have real : (piTerm n : ℝ) ≤ (11 / 10 * piUnit ctx.precision : ℚ) := Rat.cast_le.mpr met
    push_cast at real
    exact real
  have positive : (0 : ℝ) < piUnit ctx.precision := by exact_mod_cast unit
  push_cast at close
  rw [abs_le] at close ⊢
  constructor <;> linarith

end Result

/-- The series for pi ends on its own, in fewer steps than are counted out for it, and gives pi
with an error that is small for its digits. The first term that is added is an eighth, so the
least exponent has to be negative for the terms to keep their digits. -/
theorem pi_accurate (ctx : Context) (nearest : ctx.rounding = .nearest) (below : ctx.emin ≤ -1)
    (range : 0 ≤ ctx.emax) :
    ∃ n total d, n ≤ 2 * ctx.precision + 10 ∧ PiEnds (guard ctx) n .start total ∧
      pi ctx = .ok d ∧ ctx.plus total = .ok d ∧ digitCount d.coefficient ≤ ctx.precision ∧
      |(d.toRat : ℝ) - Real.pi| ≤ (ctx.precision + 60) / 10 ^ (ctx.precision + 1) ∧
      HasSum (fun k => (piTerm k : ℝ)) Real.pi := by
  obtain ⟨n, total, few, ends, three, small, close⟩ := exists_total nearest below range
  have digits := ctx.precision_pos
  have least : ctx.etiny ≤ 1 - ctx.precision := by
    rw [Context.etiny]
    omega
  obtain ⟨d, rounded, value⟩ := Context.exists_rounded_of_le_nine (ctx.plus_map_toRat total)
    (by linarith) (by linarith) (by omega) range
  have delivered : pi ctx = .ok d := by
    show (piLoop (guard ctx) (2 * ctx.precision + 10) .start >>= ctx.plus) = _
    rw [ends.piLoop_eq few]
    exact rounded
  have fits := Context.plus_fits ⟨by omega, range⟩ rounded
  have error := Context.abs_correct_sub_le_of_units nearest least (q := total.toRat)
    (by linarith) (by linarith)
  have place : (10 : ℚ) ^ (1 - ctx.precision : ℤ) = 100 * piUnit ctx.precision := by
    have split : (1 - ctx.precision : ℤ) = 2 - (ctx.precision + 1 : ℕ) := by omega
    rw [split, zpow_sub₀ (by norm_num), zpow_natCast, piUnit]
    norm_num
    rfl
  rw [← value, place] at error
  have final := cast_abs_sub_le error rfl
  have unit : (piUnit ctx.precision : ℝ) = 1 / 10 ^ (ctx.precision + 1) := by
    rw [piUnit]
    push_cast
    rfl
  have positive : (0 : ℝ) < 1 / 10 ^ (ctx.precision + 1) := by positivity
  refine ⟨n, total, d, few, ends, delivered, rounded, fits.digits, ?_, hasSum_piTerm⟩
  push_cast at final
  rw [unit] at final close
  rw [div_eq_mul_one_div, abs_le]
  rw [abs_le] at final close
  constructor <;> linarith

/-- Pi to six digits. -/
theorem pi_accurate_six :
    let ctx : Context := { precision := 6 }
    let d : Decimal := ⟨false, 314159, -5⟩
    (ctx.rounding = .nearest ∧ ctx.emin ≤ -1 ∧ 0 ≤ ctx.emax) ∧ pi ctx = .ok d ∧
      (∃ n total, n ≤ 22 ∧ PiEnds (guard ctx) n .start total ∧ ctx.plus total = .ok d) ∧
      |(d.toRat : ℝ) - Real.pi| ≤ 66 / 10 ^ 7 := by
  intro ctx d
  have value : pi ctx = .ok d := by decide +kernel
  obtain ⟨n, total, found, few, ends, delivered, rounded, -, close, -⟩ :=
    pi_accurate ctx rfl (by decide) (by decide)
  cases value.symm.trans delivered
  have bound : ((ctx.precision : ℝ) + 60) / 10 ^ (ctx.precision + 1) = 66 / 10 ^ 7 := by
    norm_num [ctx]
  rw [bound] at close
  exact ⟨⟨rfl, by decide, by decide⟩, value, ⟨n, total, few, ends, rounded⟩, close⟩

end Reckoner.Sine
