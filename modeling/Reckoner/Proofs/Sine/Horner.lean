import Mathlib
import Reckoner.Proofs.Decimal.RoundingError
import Reckoner.Proofs.Outcome
import Reckoner.Sine.Polynomial

/-! Evaluation of polynomials from the highest coefficient down. Coefficients and argument of at
most one keep the running value below the number of coefficients, so that each step adds an error
of a few units of that size; summed over all steps the error is quadratic in their number. -/

namespace Reckoner.Sine

/-- The polynomial with these coefficients, lowest first. -/
def polynomial (coefficients : List ℚ) (s : ℚ) : ℚ :=
  coefficients.foldr (fun c rest => c + s * rest) 0

theorem polynomial_cons (c : ℚ) (cs : List ℚ) (s : ℚ) :
    polynomial (c :: cs) s = c + s * polynomial cs s := rfl

theorem polynomial_append_singleton (cs : List ℚ) (c s : ℚ) :
    polynomial (cs ++ [c]) s = polynomial cs s + c * s ^ cs.length := by
  induction cs with
  | nil => simp [polynomial]
  | cons b cs ih =>
    rw [List.cons_append, polynomial_cons, polynomial_cons, ih, List.length_cons, pow_succ]
    ring

/-- Coefficient `i` multiplies the power `i`. -/
theorem polynomial_range (f : ℕ → ℚ) (n : ℕ) (s : ℚ) :
    polynomial ((List.range n).map f) s = ∑ i ∈ Finset.range n, f i * s ^ i := by
  induction n with
  | zero => rfl
  | succ n ih =>
    rw [List.range_succ, List.map_append, List.map_singleton, polynomial_append_singleton, ih,
      Finset.sum_range_succ, List.length_map, List.length_range]

theorem polynomial_map_toRat (cs : List Decimal) (s : ℚ) :
    polynomial (cs.map Decimal.toRat) s = ∑ i : Fin cs.length, cs[i].toRat * s ^ (i : ℕ) := by
  induction cs with
  | nil => rfl
  | cons c cs ih =>
    rw [List.map_cons, polynomial_cons, ih, Finset.mul_sum]
    show _ = ∑ i : Fin (cs.length + 1), (c :: cs)[i].toRat * s ^ (i : ℕ)
    rw [Fin.sum_univ_succ]
    congr 1
    · show c.toRat = c.toRat * s ^ 0
      rw [pow_zero, mul_one]
    · refine Finset.sum_congr rfl fun i _ => ?_
      show s * (cs[i].toRat * s ^ (i : ℕ)) = cs[i].toRat * s ^ (i + 1 : ℕ)
      ring

section Bounds

variable {cs ds : List ℚ} {s t ε : ℚ}

theorem abs_polynomial_le (bounded : ∀ c ∈ cs, |c| ≤ 1) (hs : |s| ≤ 1) :
    |polynomial cs s| ≤ cs.length := by
  induction cs with
  | nil => simp [polynomial]
  | cons c cs ih =>
    obtain ⟨first, others⟩ := List.forall_mem_cons.mp bounded
    have tail := ih others
    have scaled : |s * polynomial cs s| ≤ cs.length := by
      rw [abs_mul]
      exact (mul_le_of_le_one_left (abs_nonneg _) hs).trans tail
    rw [polynomial_cons, List.length_cons]
    push_cast
    linarith [abs_add_le c (s * polynomial cs s)]

/-- A polynomial moves little with its argument. -/
theorem abs_polynomial_sub_le (bounded : ∀ c ∈ cs, |c| ≤ 1) (hs : |s| ≤ 1) (ht : |t| ≤ 1) :
    |polynomial cs s - polynomial cs t| ≤ cs.length ^ 2 * |s - t| := by
  induction cs with
  | nil => simp [polynomial]
  | cons c cs ih =>
    obtain ⟨-, others⟩ := List.forall_mem_cons.mp bounded
    have split : polynomial (c :: cs) s - polynomial (c :: cs) t =
        s * (polynomial cs s - polynomial cs t) + (s - t) * polynomial cs t := by
      rw [polynomial_cons, polynomial_cons]
      ring
    have first : |s * (polynomial cs s - polynomial cs t)| ≤ cs.length ^ 2 * |s - t| := by
      rw [abs_mul]
      exact (mul_le_of_le_one_left (abs_nonneg _) hs).trans (ih others)
    have second : |(s - t) * polynomial cs t| ≤ cs.length * |s - t| := by
      rw [abs_mul, mul_comm]
      exact mul_le_mul_of_nonneg_right (abs_polynomial_le others ht) (abs_nonneg _)
    rw [split, List.length_cons]
    push_cast
    have longer : (0 : ℚ) ≤ (cs.length + 1) * |s - t| := by positivity
    nlinarith [abs_add_le (s * (polynomial cs s - polynomial cs t)) ((s - t) * polynomial cs t)]

/-- A polynomial moves little with its coefficients. -/
theorem abs_polynomial_sub_le_of_close (close : List.Forall₂ (fun c d => |c - d| ≤ ε) cs ds)
    (hs : |s| ≤ 1) : |polynomial cs s - polynomial ds s| ≤ cs.length * ε := by
  induction close with
  | nil => simp [polynomial]
  | @cons c d cs ds first _ ih =>
    have split : polynomial (c :: cs) s - polynomial (d :: ds) s =
        (c - d) + s * (polynomial cs s - polynomial ds s) := by
      rw [polynomial_cons, polynomial_cons]
      ring
    have tail : |s * (polynomial cs s - polynomial ds s)| ≤ cs.length * ε := by
      rw [abs_mul]
      exact (mul_le_of_le_one_left (abs_nonneg _) hs).trans ih
    rw [split, List.length_cons]
    push_cast
    linarith [abs_add_le (c - d) (s * (polynomial cs s - polynomial ds s))]

end Bounds

theorem horner_cons (ctx : Context) (square c : Decimal) (cs : List Decimal) :
    horner ctx square (c :: cs) =
      horner ctx square cs >>= fun rest => ctx.mul rest square >>= fun product =>
        ctx.add product c := rfl

section Error

variable (ctx : Context) (below : ctx.emin ≤ -1) (above : ctx.precision ≤ ctx.emax + 1)

include below in
/-- The least place is far under the unit of numbers about one. -/
theorem abs_correct_sub_le_scaled (q : ℚ) :
    |ctx.correct q - q| ≤ (|q| + 1 / 10) * 10 ^ (1 - ctx.precision : ℤ) := by
  have least : (10 : ℚ) ^ ctx.etiny ≤ 1 / 10 * 10 ^ (1 - ctx.precision : ℤ) := by
    have tenth : (1 / 10 : ℚ) = 10 ^ (-1 : ℤ) := by norm_num
    rw [tenth, ← zpow_add₀ (by norm_num)]
    exact zpow_le_zpow_right₀ (by norm_num) (by rw [Context.etiny]; omega)
  linarith [ctx.abs_correct_sub_le q]

include below above in
/-- An operation whose exact result is below the power of ten of the precision. -/
theorem exists_near {r : Except Signal Decimal} {q : ℚ}
    (h : r.map Decimal.toRat = ctx.roundRat q) (small : |q| ≤ 10 ^ (ctx.precision - 1 : ℤ)) :
    ∃ d, r = .ok d ∧ d.toRat = ctx.correct q ∧
      |d.toRat - q| ≤ (|q| + 1 / 10) * 10 ^ (1 - ctx.precision : ℤ) := by
  have digits := ctx.precision_pos
  obtain ⟨d, delivered, value⟩ := ctx.exists_rounded h small (by rw [Context.etiny]; omega)
    (by omega)
  exact ⟨d, delivered, value, by rw [value]; exact abs_correct_sub_le_scaled ctx below q⟩

include below in
/-- An operation that succeeds, whatever its exact result. -/
theorem abs_sub_le_of_ok {r : Except Signal Decimal} {q : ℚ} {d : Decimal}
    (h : r.map Decimal.toRat = ctx.roundRat q) (ok : r = .ok d) :
    |d.toRat - q| ≤ (|q| + 1 / 10) * 10 ^ (1 - ctx.precision : ℤ) := by
  rw [ctx.toRat_eq_correct h ok]
  exact abs_correct_sub_le_scaled ctx below q

section Step

/- One step: `a` is the running value and `p` the exact one, `m` the rounded product and `z` the
rounded sum; `n` coefficients came before, and `u` is the unit. -/
variable {n u a p s c m z : ℚ} (hn : 0 ≤ n) (hu : 0 ≤ u) (few : 10 * (n + 1) * u ≤ 1)
  (hs : |s| ≤ 1) (hc : |c| ≤ 1) (hp : |p| ≤ n) (ha : |a - p| ≤ 2 * n ^ 2 * u)

include hn few hs hp ha in
theorem step_product_le : |a * s| ≤ 6 / 5 * n := by
  have error : 2 * n ^ 2 * u ≤ n / 5 := by nlinarith
  have := abs_add_le (a - p) p
  rw [sub_add_cancel] at this
  rw [abs_mul]
  exact (mul_le_of_le_one_right (abs_nonneg _) hs).trans (by linarith)

include hu few hc in
theorem step_sum_le (ht : |a * s| ≤ 6 / 5 * n) (hm : |m - a * s| ≤ (|a * s| + 1 / 10) * u) :
    |m + c| ≤ 6 / 5 * n + 28 / 25 := by
  have product : |m - a * s| ≤ (6 / 5 * n + 1 / 10) * u :=
    hm.trans (mul_le_mul_of_nonneg_right (by linarith) hu)
  have := abs_add_le (m - a * s) (a * s)
  rw [sub_add_cancel] at this
  have := abs_add_le m c
  nlinarith

include hn hu hs ha in
theorem step_error (ht : |a * s| ≤ 6 / 5 * n) (hm : |m - a * s| ≤ (|a * s| + 1 / 10) * u)
    (hw : |m + c| ≤ 6 / 5 * n + 28 / 25) (hz : |z - (m + c)| ≤ (|m + c| + 1 / 10) * u) :
    |z - (c + s * p)| ≤ 2 * (n + 1) ^ 2 * u := by
  have product : |m - a * s| ≤ (6 / 5 * n + 1 / 10) * u :=
    hm.trans (mul_le_mul_of_nonneg_right (by linarith) hu)
  have sum : |z - (m + c)| ≤ (6 / 5 * n + 61 / 50) * u :=
    hz.trans (mul_le_mul_of_nonneg_right (by linarith) hu)
  have carried : |s * (a - p)| ≤ 2 * n ^ 2 * u := by
    rw [abs_mul]
    exact (mul_le_of_le_one_left (abs_nonneg _) hs).trans ha
  have split : z - (c + s * p) = (z - (m + c)) + (m - a * s) + s * (a - p) := by ring
  rw [split]
  have triangle := abs_add_three (z - (m + c)) (m - a * s) (s * (a - p))
  nlinarith [mul_nonneg hn hu]

end Step

include below in
/-- One step on decimals, from a running value `a` that is near the exact one. -/
theorem horner_step {square a c : Decimal} {n p : ℚ} (hn : 0 ≤ n)
    (few : 10 * (n + 1) * 10 ^ (1 - ctx.precision : ℤ) ≤ 1) (hs : |square.toRat| ≤ 1)
    (hc : |c.toRat| ≤ 1) (hp : |p| ≤ n)
    (ha : |a.toRat - p| ≤ 2 * n ^ 2 * 10 ^ (1 - ctx.precision : ℤ)) :
    (10 * (n + 1) ≤ 10 ^ ctx.emax →
      ∃ m z, ctx.mul a square = .ok m ∧ ctx.add m c = .ok z) ∧
    ∀ m z, ctx.mul a square = .ok m → ctx.add m c = .ok z →
      |z.toRat - (c.toRat + square.toRat * p)| ≤
        2 * (n + 1) ^ 2 * 10 ^ (1 - ctx.precision : ℤ) := by
  have unit : (0 : ℚ) ≤ 10 ^ (1 - ctx.precision : ℤ) := by positivity
  have scaled := step_product_le hn few hs hp ha
  have product (m : Decimal) (h : ctx.mul a square = .ok m) :=
    abs_sub_le_of_ok ctx below (ctx.mul_map_toRat a square) h
  have added (m : Decimal) (h : ctx.mul a square = .ok m) :=
    step_sum_le unit few hc scaled (product m h)
  constructor
  · intro room
    have range : 0 ≤ ctx.emax := by
      by_contra negative
      have : (10 : ℚ) ^ ctx.emax < 1 := zpow_lt_one_of_neg₀ (by norm_num) (by omega)
      linarith
    have least : ctx.etiny ≤ ctx.emax := by
      rw [Context.etiny]
      omega
    have productInside : |a.toRat * square.toRat| ≤ 10 ^ ctx.emax := by linarith
    obtain ⟨m, hm, -⟩ := ctx.exists_rounded (ctx.mul_map_toRat a square) productInside least le_rfl
    have sumInside : |m.toRat + c.toRat| ≤ 10 ^ ctx.emax := (added m hm).trans (by linarith)
    obtain ⟨z, hz, -⟩ := ctx.exists_rounded (ctx.add_map_toRat m c) sumInside least le_rfl
    exact ⟨m, z, hm, hz⟩
  · intro m z hm hz
    exact step_error hn unit hs ha scaled (product m hm) (added m hm)
      (abs_sub_le_of_ok ctx below (ctx.add_map_toRat m c) hz)

include below in
/-- A polynomial evaluated with rounded steps. -/
theorem horner_near {square : Decimal} (coefficients : List Decimal)
    (bounded : ∀ c ∈ coefficients, |c.toRat| ≤ 1) (nonneg : 0 ≤ square.toRat)
    (small : square.toRat ≤ 1)
    (few : 10 * (coefficients.length : ℚ) ≤ 10 ^ (ctx.precision - 1 : ℤ)) :
    (10 * (coefficients.length : ℚ) ≤ 10 ^ ctx.emax →
      ∃ d, horner ctx square coefficients = .ok d) ∧
    ∀ d, horner ctx square coefficients = .ok d →
      |d.toRat - polynomial (coefficients.map Decimal.toRat) square.toRat| ≤
        2 * coefficients.length ^ 2 * 10 ^ (1 - ctx.precision : ℤ) := by
  have inverse : (10 : ℚ) ^ (ctx.precision - 1 : ℤ) * 10 ^ (1 - ctx.precision : ℤ) = 1 := by
    rw [← zpow_add₀ (by norm_num)]
    norm_num
  have unit : (0 : ℚ) < 10 ^ (1 - ctx.precision : ℤ) := by positivity
  have argument : |square.toRat| ≤ 1 := by rwa [abs_of_nonneg nonneg]
  induction coefficients with
  | nil =>
    refine ⟨fun _ => ⟨.zero, rfl⟩, ?_⟩
    rintro d ⟨⟩
    simp [polynomial, Decimal.zero, Decimal.toRat_ofNat]
  | cons c cs ih =>
    obtain ⟨first, others⟩ := List.forall_mem_cons.mp bounded
    rw [List.length_cons, Nat.cast_add_one] at few ⊢
    obtain ⟨succeeds, near⟩ := ih others (by linarith)
    have steps : 10 * ((cs.length : ℚ) + 1) * 10 ^ (1 - ctx.precision : ℤ) ≤ 1 := by
      have := mul_le_mul_of_nonneg_right few unit.le
      rwa [inverse] at this
    have exact : |polynomial (cs.map Decimal.toRat) square.toRat| ≤ cs.length := by
      rw [← cs.length_map Decimal.toRat]
      exact abs_polynomial_le (by simpa using others) argument
    have step (a : Decimal) (running : horner ctx square cs = .ok a) :=
      horner_step ctx below (Nat.cast_nonneg _) steps argument first exact (near a running)
    rw [horner_cons]
    constructor
    · intro room
      obtain ⟨a, running⟩ := succeeds (by linarith)
      obtain ⟨m, z, product, sum⟩ := (step a running).1 room
      exact ⟨z, bind_eq_ok.mpr ⟨a, running, bind_eq_ok.mpr ⟨m, product, sum⟩⟩⟩
    · intro d computed
      obtain ⟨a, running, computed⟩ := bind_eq_ok.mp computed
      obtain ⟨m, product, sum⟩ := bind_eq_ok.mp computed
      exact (step a running).2 m d product sum

include below above in
/-- No precision up to the end of the range has room for too many coefficients. -/
theorem exists_horner {square : Decimal} (coefficients : List Decimal)
    (bounded : ∀ c ∈ coefficients, |c.toRat| ≤ 1) (nonneg : 0 ≤ square.toRat)
    (small : square.toRat ≤ 1)
    (few : 10 * (coefficients.length : ℚ) ≤ 10 ^ (ctx.precision - 1 : ℤ)) :
    ∃ d, horner ctx square coefficients = .ok d ∧
      |d.toRat - polynomial (coefficients.map Decimal.toRat) square.toRat| ≤
        2 * coefficients.length ^ 2 * 10 ^ (1 - ctx.precision : ℤ) := by
  obtain ⟨succeeds, near⟩ := horner_near ctx below coefficients bounded nonneg small few
  have power : (10 : ℚ) ^ (ctx.precision - 1 : ℤ) ≤ 10 ^ ctx.emax :=
    zpow_le_zpow_right₀ (by norm_num) (by omega)
  obtain ⟨d, computed⟩ := succeeds (few.trans power)
  exact ⟨d, computed, near d computed⟩

end Error

/-- The error of a polynomial with `n` coefficients, of any length and not above one, at an argument
from zero to one: it is at most `2 * n ^ 2` units of a number below ten, in every direction of
rounding. There is a value as long as `10 * n` is in the range of exponents; for a precision of at
most `emax + 1` digits that follows from the bound on the number of coefficients. -/
theorem abs_horner_sub_sum_le (ctx : Context) (below : ctx.emin ≤ -1) (square : Decimal)
    (coefficients : List Decimal) (bounded : ∀ c ∈ coefficients, |c.toRat| ≤ 1)
    (nonneg : 0 ≤ square.toRat) (small : square.toRat ≤ 1)
    (few : 10 * (coefficients.length : ℚ) ≤ 10 ^ (ctx.precision - 1 : ℤ)) :
    (10 * (coefficients.length : ℚ) ≤ 10 ^ ctx.emax →
      ∃ d, horner ctx square coefficients = .ok d) ∧
    ∀ d, horner ctx square coefficients = .ok d →
      |d.toRat - ∑ i : Fin coefficients.length, coefficients[i].toRat * square.toRat ^ (i : ℕ)| ≤
        2 * coefficients.length ^ 2 * 10 ^ (1 - ctx.precision : ℤ) := by
  rw [← polynomial_map_toRat]
  exact horner_near ctx below coefficients bounded nonneg small few

/-- Three digits rounded upward, and a coefficient with more of them. -/
theorem abs_horner_sub_sum_le_upward :
    let ctx : Context := { precision := 3, rounding := .up }
    let coefficients : List Decimal := [⟨false, 1, 0⟩, ⟨true, 5, -1⟩, ⟨false, 41666667, -9⟩]
    horner ctx ⟨false, 3, -1⟩ coefficients = .ok ⟨false, 854, -3⟩ ∧
      |(854 / 1000 : ℚ) - (1 - 5 / 10 * (3 / 10) + 41666667 / 10 ^ 9 * (3 / 10) ^ 2)| ≤
        2 * 3 ^ 2 * 10 ^ (-2 : ℤ) := by
  intro ctx coefficients
  have computed : horner ctx ⟨false, 3, -1⟩ coefficients = .ok ⟨false, 854, -3⟩ := by decide +kernel
  have bounded : ∀ c ∈ coefficients, |c.toRat| ≤ 1 := by
    simp only [coefficients, List.forall_mem_cons, List.not_mem_nil, Decimal.abs_toRat]
    norm_num
  have near := (abs_horner_sub_sum_le ctx (by decide) ⟨false, 3, -1⟩ coefficients bounded
    (by norm_num [Decimal.toRat]) (by norm_num [Decimal.toRat])
    (by norm_num [ctx, coefficients])).2 _ computed
  have value : (⟨false, 854, -3⟩ : Decimal).toRat = 854 / 1000 := by norm_num [Decimal.toRat]
  have sum : ∑ i : Fin coefficients.length, coefficients[i].toRat *
      (⟨false, 3, -1⟩ : Decimal).toRat ^ (i : ℕ) =
        1 - 5 / 10 * (3 / 10) + 41666667 / 10 ^ 9 * (3 / 10) ^ 2 := by
    simp only [coefficients, List.length_cons, List.length_nil, Fin.sum_univ_succ]
    norm_num [Decimal.toRat]
  have length : (coefficients.length : ℚ) = 3 := by norm_num [coefficients]
  have unit : (1 - ctx.precision : ℤ) = -2 := by decide
  rw [value, sum, length, unit] at near
  exact ⟨computed, near⟩

end Reckoner.Sine
