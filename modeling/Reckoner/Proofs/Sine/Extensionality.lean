import Mathlib
import Reckoner.Proofs.Decimal.SameNumber
import Reckoner.Proofs.Sine.Accuracy

/-! The sine by number. Each step of it rounds an exact result that its operands determine as
numbers, or compares them as numbers; so angles that denote one number have sines that do. -/

namespace Reckoner

namespace Sine

variable {x y : Decimal}

theorem reduceModuloPi_congr {pi : Decimal} (positive : 0 < pi.toRat) (nonneg : 0 ≤ x.toRat)
    (same : x.SameNumber y) :
    (reduceModuloPi x pi).1.SameNumber (reduceModuloPi y pi).1 ∧
      (reduceModuloPi x pi).2 = (reduceModuloPi y pi).2 := by
  obtain ⟨rest, odd⟩ := reduceModuloPi_exact nonneg positive
  obtain ⟨rest', odd'⟩ := reduceModuloPi_exact (nonneg.trans_eq same) positive
  rw [Decimal.SameNumber, rest, rest', same, Bool.eq_iff_iff, odd, odd', same]
  exact ⟨rfl, Iff.rfl⟩

theorem horner_agree (ctx : Context) (same : x.SameNumber y) (cs : List Decimal) :
    Agree Decimal.SameNumber (horner ctx x cs) (horner ctx y cs) := by
  induction cs with
  | nil => exact .ok rfl
  | cons c cs ih =>
    rw [horner_cons, horner_cons]
    exact ih.bind fun _ _ rest => (ctx.mul_agree rest same).bind fun _ _ product =>
      ctx.add_agree product rfl

theorem quadrant_agree (ctx : Context) (t : Table) (same : x.SameNumber y) :
    Agree Decimal.SameNumber (quadrant ctx t x) (quadrant ctx t y) := by
  unfold quadrant
  rw [Decimal.below_congr rfl same]
  split
  · exact (ctx.sub_agree rfl same).bind fun _ _ complement =>
      (ctx.mul_agree complement complement).bind fun _ _ square => horner_agree ctx square _
  · exact (ctx.mul_agree same same).bind fun _ _ square =>
      (horner_agree ctx square _).bind fun _ _ series => ctx.mul_agree same series

theorem withTable_agree (ctx : Context) {t : Table} (positive : 0 < t.pi.toRat)
    (nonzero : x.isZero = false) (same : x.SameNumber y) :
    Agree Decimal.SameNumber (withTable ctx t x) (withTable ctx t y) := by
  have magnitude : x.abs.SameNumber y.abs := by
    rw [Decimal.SameNumber, Decimal.toRat_abs, Decimal.toRat_abs, same]
  obtain ⟨rest, odd⟩ :=
    reduceModuloPi_congr positive (Decimal.toRat_nonneg_of (d := x.abs) rfl) magnitude
  have folded : Agree Decimal.SameNumber
      (if t.halfPi.below (reduceModuloPi x.abs t.pi).1 then
        ctx.sub t.pi (reduceModuloPi x.abs t.pi).1 else .ok (reduceModuloPi x.abs t.pi).1)
      (if t.halfPi.below (reduceModuloPi y.abs t.pi).1 then
        ctx.sub t.pi (reduceModuloPi y.abs t.pi).1 else .ok (reduceModuloPi y.abs t.pi).1) := by
    rw [Decimal.below_congr rfl rest]
    split
    · exact ctx.sub_agree rfl rest
    · exact .ok rest
  rw [withTable_eq, withTable_eq, odd, Decimal.negative_eq_of_same nonzero same]
  refine folded.bind fun _ _ angle => (quadrant_agree ctx t angle).bind fun _ _ result => ?_
  split
  · exact ctx.minus_agree result
  · exact ctx.plus_agree result

/-- Angles that are one number have one sine, or one failure. -/
theorem sine_agree (ctx : Context) (same : x.SameNumber y) :
    Agree Decimal.SameNumber (sine ctx x) (sine ctx y) := by
  obtain ⟨t, built, accurate⟩ := exists_table
  have positive : 0 < t.pi.toRat := by
    rw [accurate.pi]
    linarith [storedPi_bounds.1]
  rw [sine, sine, ← Decimal.isZero_eq_of_same same, built]
  split
  · exact .ok rfl
  · rename_i nonzero
    exact withTable_agree ctx positive (by simpa using nonzero) same

end Sine

end Reckoner
