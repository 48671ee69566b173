import Mathlib
import Reckoner.Evaluator.Run
import Reckoner.Proofs.Evaluator.Exactness
import Reckoner.Proofs.Source.WrittenNumbers
import Reckoner.Proofs.Value.Enclosure

/-! Sums and products of numbers that are not negative, read and evaluated under several roundings.
Rounding downward stays under the exact value, and rounding upward above it. -/

namespace Reckoner

namespace Expr

/-- Sums and products of numbers that are not negative. -/
inductive Rising : Expr → Prop where
  | constant {v : Value} (h : v.Nonneg) : Rising (.constant v)
  | binary {op : BinaryOp} {left right : Expr} (h : op.Rising) (hl : Rising left)
    (hr : Rising right) : Rising (.binary op left right)

/-- The number of a tree, with everything rounded that is not exact. -/
inductive Reckons (round : ℚ → Except Signal ℚ) : Expr → Number → Prop where
  | constant {v : Value} {n : Number} (h : v.number.read round = .ok n) :
    Reckons round (.constant v) n
  | binary {op : BinaryOp} {left right : Expr} {a b n : Number} (hl : Reckons round left a)
    (hr : Reckons round right b) (h : op.reckon round a b = .ok n) :
    Reckons round (.binary op left right) n

/-- A tree of exact numbers is read as it is written. -/
theorem Arithmetic.rounds_iff {ctx : Context} {e read : Expr} (h : e.Arithmetic) :
    e.Rounds ctx read ↔ read = e := by
  induction h generalizing read with
  | constant q =>
    constructor
    · intro rounds
      cases rounds
      rfl
    · rintro rfl
      exact .exact q
  | neg _ ih =>
    constructor
    · intro rounds
      cases rounds with
      | neg inner => rw [ih.mp inner]
    · rintro rfl
      exact .neg (ih.mpr rfl)
  | binary _ _ ihl ihr =>
    constructor
    · intro rounds
      cases rounds with
      | binary first second => rw [ihl.mp first, ihr.mp second]
    · rintro rfl
      exact .binary (ihl.mpr rfl) (ihr.mpr rfl)

namespace Rising

variable {e : Expr} (rising : e.Rising)
include rising

theorem not_apply (f : Expr) (args : List Expr) : ¬(Expr.apply f args).Within e := by
  induction rising with
  | constant => simp [within_constant_iff]
  | binary _ _ _ ihl ihr => simp [within_binary_iff, ihl, ihr]

theorem closed : e.operandSymbols = [] := by
  induction rising with
  | constant => rfl
  | binary _ _ _ ihl ihr => simp [operandSymbols, ihl, ihr]

theorem reckons_under {low high : ℚ → Except Signal ℚ} (rounds : RoundsUnder low high)
    {m n : Number} (hm : e.Reckons low m) (hn : e.Reckons high n) : m.Under n := by
  induction rising generalizing m n with
  | constant nonneg =>
    obtain ⟨hm⟩ := hm
    obtain ⟨hn⟩ := hn
    exact Number.read_under rounds nonneg.under_self hm hn
  | binary rises _ _ ihl ihr =>
    cases hm with
    | binary hl hr hm =>
      cases hn with
      | binary hl' hr' hn => exact rises.reckon_under rounds (ihl hl hl') (ihr hr hr') hm hn

/-- What is reckoned without any rounding is the rational value of the tree. -/
theorem exists_exact : ∃ n, e.Reckons .ok n ∧ n.Under n ∧
    ∀ env, e.denote (·.number.rat) env = some n.rat := by
  induction rising with
  | @constant v nonneg =>
    exact ⟨v.number, .constant v.number.read_ok, nonneg.under_self, fun _ => rfl⟩
  | binary rises _ _ ihl ihr =>
    obtain ⟨a, hl, left, value⟩ := ihl
    obtain ⟨b, hr, right, value'⟩ := ihr
    obtain ⟨n, reckoned, rat⟩ := BinaryOp.reckon_ok _ left right
    refine ⟨n, .binary hl hr reckoned, ?_, fun env => ?_⟩
    · exact rises.reckon_under exact_under_exact left right reckoned reckoned
    · rw [denote, value, value', rat, Option.bind_some, Option.bind_some, rises.onRat?_eq]

section Alike

variable (ctx : Context) {read : Expr} {m n : Rounding}

theorem of_rounds (rounds : e.Rounds ctx read) : read.Rising := by
  induction rising generalizing read with
  | constant nonneg =>
    cases rounds with
    | exact q => exact .constant nonneg
    | decimal rounded => exact .constant (Value.literal_reckons nonneg rounded).1
  | binary rises _ _ ihl ihr =>
    cases rounds with
    | binary first second => exact .binary rises (ihl first) (ihr second)

theorem rounds_alike (alike : m.Alike n) (rounds : e.Rounds (ctx.withRounding m) read) :
    e.Rounds (ctx.withRounding n) read := by
  induction rising generalizing read with
  | constant nonneg =>
    cases rounds with
    | exact q => exact .exact q
    | decimal rounded =>
      rw [(ctx.roundIn_unsigned nonneg).steady.alike m n alike] at rounded
      exact .decimal rounded
  | binary _ _ _ ihl ihr =>
    cases rounds with
    | binary first second => exact .binary (ihl first) (ihr second)

end Alike

end Rising

end Expr

namespace Evaluator

variable (ev : Evaluator)

def withRounding (mode : Rounding) : Evaluator := { ev with rounding := mode }

/-- The tree as it is written is read in the context of the evaluator and evaluated to `r`. -/
def Computes (written r : Expr) : Prop :=
  ∃ read, written.Rounds ev.context read ∧ ev.evaluate read = .ok r

theorem reduce_iff_computes {source : String} {written r : Expr}
    (h : Source.WrittenAs source written) (plain : ∀ f args, ¬(Expr.apply f args).Within written) :
    (∃ parsed, ev.reduce source = .ok (parsed, r)) ↔ ev.Computes written r := by
  constructor
  · rintro ⟨parsed, computed⟩
    obtain ⟨read, reading, computed⟩ := bind_eq_ok.mp computed
    obtain ⟨reduced, evaluated, same⟩ := bind_eq_ok.mp computed
    cases same
    exact ⟨parsed, (Source.read_iff_rounds h plain).mp (mapError_eq_ok.mp reading),
      mapError_eq_ok.mp evaluated⟩
  · rintro ⟨read, rounds, evaluated⟩
    have reading := (Source.read_iff_rounds h plain).mpr rounds
    exact ⟨read, bind_eq_ok.mpr ⟨read, mapError_eq_ok.mpr reading,
      bind_eq_ok.mpr ⟨r, mapError_eq_ok.mpr evaluated, rfl⟩⟩⟩

section Rising

variable {e written read r : Expr}

/-- Under every rounding the result is a number that is not negative. -/
theorem evaluate_steady (rising : e.Rising) :
    Rounding.Steady (fun r => ∃ v : Value, r = .constant v ∧ v.Nonneg)
      fun mode => (ev.withRounding mode).evaluate e := by
  induction rising with
  | @constant v nonneg =>
    simp only [evaluate]
    exact .ok ⟨v, rfl, nonneg⟩
  | binary rises _ _ ihl ihr =>
    simp only [evaluate_binary]
    refine ihl.bind ?_
    rintro _ ⟨v, rfl, hv⟩
    refine ihr.bind ?_
    rintro _ ⟨w, rfl, hw⟩
    exact ((rises.apply_steady ev.context hv hw).mapError _).map fun u hu => ⟨u, rfl, hu⟩

theorem computes_alike (rising : written.Rising) {m n : Rounding} (alike : m.Alike n)
    (computed : (ev.withRounding m).Computes written r) :
    (ev.withRounding n).Computes written r := by
  obtain ⟨read, rounds, evaluated⟩ := computed
  have risen := rising.of_rounds _ rounds
  refine ⟨read, rising.rounds_alike ev.context alike rounds, ?_⟩
  rwa [← (ev.evaluate_steady risen).alike m n alike]

/-- What is computed is what is reckoned with the rounding of the context. -/
theorem computes_reckons (rising : written.Rising) (computed : ev.Computes written r) :
    ∃ v, r = .constant v ∧ v.Nonneg ∧ written.Reckons ev.context.roundRat v.number := by
  obtain ⟨read, rounds, evaluated⟩ := computed
  induction rising generalizing read r with
  | constant nonneg =>
    cases rounds with
    | exact q =>
      cases evaluated
      exact ⟨_, rfl, nonneg, .constant rfl⟩
    | decimal rounded =>
      cases evaluated
      obtain ⟨unsigned, value⟩ := Value.literal_reckons nonneg rounded
      exact ⟨_, rfl, unsigned, .constant value⟩
  | binary rises _ _ ihl ihr =>
    cases rounds with
    | binary first second =>
      rw [evaluate_binary] at evaluated
      obtain ⟨a, left, evaluated⟩ := bind_eq_ok.mp evaluated
      obtain ⟨b, right, evaluated⟩ := bind_eq_ok.mp evaluated
      obtain ⟨v, rfl, hv, reckoned⟩ := ihl _ first left
      obtain ⟨w, rfl, hw, reckoned'⟩ := ihr _ second right
      obtain ⟨u, applied, rfl⟩ := map_eq_ok.mp evaluated
      obtain ⟨nonneg, whole⟩ := rises.apply_reckons hv hw (mapError_eq_ok.mp applied)
      exact ⟨u, rfl, nonneg, .binary reckoned reckoned' whole⟩

end Rising

/-- A tree of sums and products over numbers that are not negative has an exact value. A text that
is written as the tree is read and evaluated under every rounding to what the tree computes, a
finite number. Rounding downward computes no more than the exact value and no more than any other
rounding, rounding upward no less; rounding toward zero computes the same as downward, and away from
zero the same as upward; and without decimals all compute the exact value itself. -/
theorem rounding_encloses (ev : Evaluator) {written : Expr} (rising : written.Rising) :
    ∃ exact : ℚ, (∀ env, written.denote (·.number.rat) env = some exact) ∧
      (∀ source, Source.WrittenAs source written → ∀ mode r,
        (∃ parsed, (ev.withRounding mode).reduce source = .ok (parsed, r)) ↔
          (ev.withRounding mode).Computes written r) ∧
      (∀ mode r, (ev.withRounding mode).Computes written r →
        ∃ v, r = .constant v ∧ v.IsFinite) ∧
      (∀ d, (ev.withRounding .down).Computes written (.constant d) → d.number.rat ≤ exact ∧
        ∀ mode n, (ev.withRounding mode).Computes written (.constant n) →
          d.number.rat ≤ n.number.rat) ∧
      (∀ u, (ev.withRounding .up).Computes written (.constant u) → exact ≤ u.number.rat ∧
        ∀ mode n, (ev.withRounding mode).Computes written (.constant n) →
          n.number.rat ≤ u.number.rat) ∧
      (∀ r, (ev.withRounding .zero).Computes written r ↔
        (ev.withRounding .down).Computes written r) ∧
      (∀ r, (ev.withRounding .awayZero).Computes written r ↔
        (ev.withRounding .up).Computes written r) ∧
      ((∀ d, ¬(Expr.constant (.decimal d)).Within written) → ∀ mode r,
        (ev.withRounding mode).Computes written r ↔ r = .constant (.exact exact)) := by
  obtain ⟨n, reckoned, -, value⟩ := rising.exists_exact
  have reckons {mode : Rounding} {v : Value}
      (computed : (ev.withRounding mode).Computes written (.constant v)) :
      written.Reckons (ev.context.withRounding mode).roundRat v.number := by
    obtain ⟨_, same, -, reckoned⟩ := computes_reckons _ rising computed
    cases same
    exact reckoned
  refine ⟨n.rat, value, fun source h mode r => ?_, fun mode r computed => ?_, fun d computed => ?_,
    fun u computed => ?_, fun r => ?_, fun r => ?_, fun exact mode r => ?_⟩
  · exact reduce_iff_computes _ h rising.not_apply
  · obtain ⟨v, same, nonneg, -⟩ := computes_reckons _ rising computed
    exact ⟨v, same, nonneg.isFinite⟩
  · have under {high : ℚ → Except Signal ℚ} {m : Number}
        (rounds : RoundsUnder (ev.context.withRounding .down).roundRat high)
        (h : written.Reckons high m) : d.number.rat ≤ m.rat :=
      (rising.reckons_under rounds (reckons computed) h).rat_le
    exact ⟨under ev.context.down_under_exact reckoned,
      fun mode _ other => under (ev.context.down_under mode) (reckons other)⟩
  · have above {low : ℚ → Except Signal ℚ} {m : Number}
        (rounds : RoundsUnder low (ev.context.withRounding .up).roundRat)
        (h : written.Reckons low m) : m.rat ≤ u.number.rat :=
      (rising.reckons_under rounds h (reckons computed)).rat_le
    exact ⟨above ev.context.exact_under_up reckoned,
      fun mode _ other => above (ev.context.under_up mode) (reckons other)⟩
  · exact ⟨ev.computes_alike rising Rounding.zero_alike_down,
      ev.computes_alike rising Rounding.zero_alike_down.symm⟩
  · exact ⟨ev.computes_alike rising Rounding.awayZero_alike_up,
      ev.computes_alike rising Rounding.awayZero_alike_up.symm⟩
  · have arithmetic := Expr.arithmetic_of_closed rising.closed exact rising.not_apply
    have computes := (ev.withRounding mode).evaluate_arithmetic arithmetic fun _ => 0
    rw [value] at computes
    simp [Computes, arithmetic.rounds_iff, computes, eq_comm]

/-- Ten to the hundredth and one, a sum of more than a hundred digits. -/
theorem rounding_encloses_long_sum :
    let ev : Evaluator := {}
    let written : Expr :=
      .binary .add (.constant (.decimal (.finite ⟨false, 1, 100⟩))) (.constant (.exact 1))
    let low : Value := .decimal (.finite ⟨false, 10 ^ 99, 1⟩)
    let high : Value := .decimal (.finite ⟨false, 10 ^ 99 + 1, 1⟩)
    written.Rising ∧ Source.WrittenAs "1e100+1" written ∧
      (∃ parsed, (ev.withRounding .zero).reduce "1e100+1" = .ok (parsed, .constant low)) ∧
      (∃ parsed, (ev.withRounding .awayZero).reduce "1e100+1" = .ok (parsed, .constant high)) ∧
      low.number.rat ≤ 10 ^ 100 + 1 ∧ 10 ^ 100 + 1 ≤ high.number.rat := by
  intro ev written low high
  have rising : written.Rising := .binary (.inl rfl) (.constant rfl) (.constant zero_le_one)
  have spelled : Source.WrittenAs "1e100+1" written := by
    let power : Source.Literal := ⟨['1'], none, some ['1', '0', '0'], by simp, .inr (by simp),
      by simp, by simp⟩
    let one : Source.Literal := ⟨['1'], none, none, by simp, .inr (by simp), by simp, by simp⟩
    have tokens : Source.takenTokens "1e100+1" = [.number .real power.text, .mark .plus,
        .number .integer one.text, .finish] := by decide +kernel
    have atom {k : Source.TokenKind} {e : Expr} (h : Source.Spells k e) :
        Source.Derives Source.Spells .product [k] e :=
      .ofNegation (.ofApplication (.ofAtom (.leaf h)))
    rw [Source.WrittenAs, tokens]
    exact ⟨_, 0, rfl, .sum (.inl rfl) (.ofProduct (atom (.real power)))
      (atom (.integer one ⟨rfl, rfl⟩))⟩
  have computes {mode : Rounding} {v : Value}
      (literal : Decimal.roundIn (ev.withRounding mode).context ⟨false, 1, 100⟩ =
        .ok ⟨false, 1, 100⟩)
      (sum : BinaryOp.add.apply (ev.withRounding mode).context
        (.decimal (.finite ⟨false, 1, 100⟩)) (.exact 1) = .ok v) :
      (ev.withRounding mode).Computes written (.constant v) := by
    refine ⟨written, .binary (.decimal literal) (.exact 1), ?_⟩
    rw [evaluate_binary, evaluate, evaluate]
    show Expr.constant <$> (BinaryOp.add.apply _ _ _).mapError EvalError.ofArithmetic = _
    rw [sum]
    rfl
  have lower : (ev.withRounding .down).Computes written (.constant low) :=
    computes (by decide +kernel) (by decide +kernel)
  have upper : (ev.withRounding .up).Computes written (.constant high) :=
    computes (by decide +kernel) (by decide +kernel)
  obtain ⟨exact, value, reads, -, down, up, zero, away, -⟩ := ev.rounding_encloses rising
  obtain rfl : exact = 10 ^ 100 + 1 := by
    have same := value fun _ => 0
    simpa [written, Expr.denote, BinaryOp.onRat?, BinaryOp.onRat, Value.number, Number.rat,
      Decimal.toRat, eq_comm] using same
  exact ⟨rising, spelled, (reads _ spelled _ _).mpr ((zero _).mpr lower),
    (reads _ spelled _ _).mpr ((away _).mpr upper), (down low lower).1, (up high upper).1⟩

end Evaluator

end Reckoner
