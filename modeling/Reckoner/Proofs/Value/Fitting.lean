import Reckoner.Proofs.Decimal.Fitting
import Reckoner.Proofs.Value.Tower

/-! Values that stand in a context: exact numbers in lowest terms, and finite decimals that fit. -/

namespace Reckoner

namespace Value

/-- An exact number in lowest terms, or a finite decimal that fits the context. -/
def Fits (ctx : Context) : Value → Prop
  | exact q => 0 < q.den ∧ q.num.natAbs.Coprime q.den
  | decimal (.finite d) => d.Fits ctx
  | decimal _ => False

variable {ctx : Context}

theorem fits_exact (q : ℚ) : (exact q).Fits ctx := ⟨q.den_pos, q.reduced⟩

theorem fits_decimal {d : Decimal} (h : d.Fits ctx) : (decimal (.finite d)).Fits ctx := h

theorem Fits.finite {d : ExtDecimal} (h : (decimal d).Fits ctx) :
    ∃ x, d = .finite x ∧ x.Fits ctx := by
  cases d with
  | finite x => exact ⟨x, rfl, h⟩
  | infinite => exact h.elim
  | nan => exact h.elim

theorem Fits.isFinite {v : Value} (h : v.Fits ctx) : v.IsFinite := by
  cases v with
  | exact q => trivial
  | decimal d =>
    obtain ⟨x, rfl, -⟩ := h.finite
    rfl

end Value

end Reckoner
