import Mathlib
import Reckoner.Evaluator.Basic
import Reckoner.Expr.Printer
import Reckoner.Proofs.Expr.Spelling

/-! Printed text reads back. An expression is written as a phrase with the parentheses of the
printer, and the phrase is read as a tree with the value of the expression. -/

namespace Reckoner

open Source

section Texts

theorem flat_wrap (needed : Bool) (ps : List Piece) :
    flat (Phrase.wrap needed ps) = Expr.parenthesize needed (flat ps) := by
  cases needed <;> simp [Phrase.wrap, Expr.parenthesize, flat_append, flat_cons, flat_nil, Piece.text]

theorem toList_toString_nat (n : Nat) : (toString n).toList = writeDigits n :=
  Nat.toList_repr

theorem toList_toString_int (z : Int) :
    (toString z).toList = (Literal.ofNat z.natAbs).signed (z < 0) := by
  rw [Int.toString_eq_repr, Int.repr_eq_if, Literal.signed, Literal.text_ofNat]
  by_cases below : z < 0
  · have size : (-z).toNat = z.natAbs := by omega
    simp [below, not_le.mpr below, size, Nat.toList_repr, writeDigits]
  · have size : z.toNat = z.natAbs := by omega
    simp [below, not_lt.mp below, size, Nat.toList_repr, writeDigits]

end Texts

namespace Phrase

/-- A literal with a minus sign before it or none. -/
def signed (negative : Bool) (l : Literal) : Phrase :=
  if negative then .neg (.number l) else .number l

/-- Integers are written in full, other fractions as quotients. -/
def exact (q : ℚ) : Phrase :=
  if q.den = 1 then signed (q.num < 0) (.ofNat q.num.natAbs)
  else .binary .div (signed (q.num < 0) (.ofNat q.num.natAbs)) (.number (.ofNat q.den))

theorem rank_signed (negative : Bool) (required : Precedence) :
    decide ((if negative then Precedence.neg else .atom).rank < required.rank) =
      (negative && decide (Precedence.neg.rank < required.rank)) := by
  cases negative <;> cases required <;> rfl

theorem flat_signed (negative : Bool) (l : Literal) (required : Precedence) :
    flat ((signed negative l).pieces required) =
      Expr.parenthesize (negative && Precedence.neg.rank < required.rank) (l.signed negative) := by
  cases negative with
  | false => simp [signed, pieces, flat_cons, flat_nil, Expr.parenthesize, Literal.signed, Piece.text]
  | true =>
    simp only [signed, if_true, pieces, flat_wrap, flat_cons, flat_nil, Literal.signed, Piece.text]
    simp [BinaryOp.symbol]

theorem all_signed {number : Literal → Prop} {name : String → Prop} {negative : Bool} {l : Literal}
    (h : number l) : (signed negative l).All number name := by
  cases negative <;> exact h

theorem denote_signed (number : Value → ℚ) (env : String → ℚ) (value : Literal → Value)
    (negative : Bool) (l : Literal) :
    ((signed negative l).tree value).denote number env =
      some (withSign negative (number (value l))) := by
  cases negative <;> simp [signed, tree, Expr.denote]

/-- The sign and the quotient of an exact number make up the number. -/
theorem denote_exact (q : ℚ) (round : Decimal → Decimal) (env : String → ℚ) :
    ((exact q).tree (Literal.value round)).denote (·.number.rat) env = some q := by
  have number (n : ℕ) : (Value.exact n).number.rat = n := rfl
  rw [exact]
  split
  · rename_i whole
    rw [denote_signed, Literal.value_ofNat, number, withSign_natAbs]
    exact congrArg some (Rat.coe_int_num_of_den_eq_one whole)
  · rw [tree, Expr.denote, denote_signed, tree, Expr.denote, Literal.value_ofNat,
      Literal.value_ofNat, number, number, withSign_natAbs]
    simp [BinaryOp.onRat?, BinaryOp.onRat, Rat.num_div_den]

theorem exact_natCast (n : ℕ) : exact n = .number (.ofNat n) := by
  have nonneg : decide ((n : ℤ) < 0) = false := decide_eq_false (by omega)
  rw [exact, if_pos (Rat.den_natCast n), Rat.num_natCast, nonneg, Int.natAbs_natCast]
  rfl

/-- Made of names and natural numbers. -/
def Natural : Phrase → Prop := All (fun l => ∃ n, l = .ofNat n) Spellable

theorem exact_leftGrouped (q : ℚ) (value : Literal → Value) :
    ((exact q).tree value).LeftGrouped := by
  have alone (negative : Bool) (l : Literal) : ((signed negative l).tree value).LeftGrouped := by
    cases negative <;> trivial
  rw [exact]
  split
  · exact alone _ _
  · exact ⟨alone _ _, trivial, by simp, by simp⟩

section Evaluation

variable (ev : Evaluator) (round : Decimal → Decimal)

/-- Evaluators keep the digits of all displayed literals. -/
theorem taken_by_evaluator {p : Phrase} (legible : p.All Literal.Displayed Spellable) :
    p.Taken ev.context id := by
  cases h : ev.precision
  refine taken_of_wide legible ?_ ?_ ?_ <;>
    simp [Evaluator.context, Context.etiny, Precision.digits]

theorem evaluate_signed (z : ℤ) :
    ev.evaluate ((signed (z < 0) (.ofNat z.natAbs)).tree (Literal.value round)) =
      .ok (.constant (.exact z)) := by
  have sign := withSign_natAbs z
  by_cases below : z < 0
  · simp only [below, decide_true, withSign_true] at sign
    simp only [below, decide_true, signed, if_true, tree, Literal.value_ofNat, ← sign]
    rfl
  · simp only [below, decide_false, withSign_false] at sign
    simp only [below, decide_false, signed, Bool.false_eq_true, if_false, tree,
      Literal.value_ofNat, ← sign]
    rfl

/-- The text of an exact number computes to the number. -/
theorem evaluate_exact (q : ℚ) :
    ev.evaluate ((exact q).tree (Literal.value round)).regroup = .ok (.constant (.exact q)) := by
  have numerator := evaluate_signed ev round q.num
  rw [Expr.regroup_eq_self (exact_leftGrouped q _), exact]
  split
  · rename_i whole
    rw [numerator, Rat.coe_int_num_of_den_eq_one whole]
  · rw [tree, tree, Literal.value_ofNat, Evaluator.evaluate, numerator, Evaluator.evaluate]
    have divisor : (Value.exact q.den).isZero = false := by simp [Value.isZero]
    have quotient : BinaryOp.div.apply ev.context (.exact q.num) (.exact q.den) =
        .ok (.exact q) := by
      rw [BinaryOp.apply, Value.div, divisor]
      simp [Value.combine, Except.mapError, Rat.num_div_den]
    simp [bind, Except.bind, quotient, Except.mapError]

end Evaluation

end Phrase

namespace Expr

/-- Trees that print in the notation of the expression language: without applications, the names
spellable, and every decimal finite and displayed without an exponent. -/
inductive Printable (digits : Int) : Expr → Prop where
  | exact (q : ℚ) : Printable digits (.constant (.exact q))
  | decimal {d : Decimal} {text : String} (h : (ExtDecimal.finite d).display digits = .ok text)
    (plain : 'e' ∉ text.toList) : Printable digits (.constant (.decimal (.finite d)))
  | symbol {name : String} (h : Spellable name) : Printable digits (.symbol name)
  | neg {operand : Expr} (h : Printable digits operand) : Printable digits (.neg operand)
  | binary {op : BinaryOp} {left right : Expr} (hl : Printable digits left)
    (hr : Printable digits right) : Printable digits (.binary op left right)

/-- The phrase that a tree is printed as. -/
inductive Writes (digits : Int) : Expr → Phrase → Prop where
  | exact (q : ℚ) : Writes digits (.constant (.exact q)) (.exact q)
  | decimal {d : Decimal} {text : String} {l : Literal}
    (h : (ExtDecimal.finite d).display digits = .ok text)
    (spells : text.toList = l.signed (d.negative && !d.isZero)) (displayed : l.Displayed) :
    Writes digits (.constant (.decimal (.finite d))) (.signed (d.negative && !d.isZero) l)
  | symbol {name : String} (h : Spellable name) : Writes digits (.symbol name) (.name name)
  | neg {operand : Expr} {p : Phrase} (h : Writes digits operand p) :
    Writes digits (.neg operand) (.neg p)
  | binary {op : BinaryOp} {left right : Expr} {p q : Phrase} (hl : Writes digits left p)
    (hr : Writes digits right q) : Writes digits (.binary op left right) (.binary op p q)

end Expr

/-- What a value counts as in its text: an exact number as itself, and a decimal as the rational
that its display text denotes. -/
def Value.shown (digits : Int) : Value → ℚ
  | .exact q => q
  | .decimal d =>
    match d.display digits with
    | .ok text => numeralRat text.toList
    | .error _ => 0

namespace Expr

variable {digits : Int} {e : Expr} {p : Phrase}

theorem Printable.exists_writes (few : digits ≤ 50) (h : e.Printable digits) :
    ∃ p, e.Writes digits p := by
  induction h with
  | exact q => exact ⟨_, .exact q⟩
  | @decimal d text h plain =>
    have shown := h
    rw [ExtDecimal.display] at shown
    split at shown
    · dsimp only at shown
      split at shown
      · rename_i laid
        cases shown
        rw [String.toList_ofList] at plain
        obtain ⟨l, spells, displayed⟩ := Decimal.exists_literal_display (by omega) laid plain
        exact ⟨_, .decimal h (String.toList_ofList.trans spells) displayed⟩
      · cases shown
    · cases shown
  | symbol h => exact ⟨_, .symbol h⟩
  | neg _ ih =>
    obtain ⟨p, written⟩ := ih
    exact ⟨_, .neg written⟩
  | binary _ _ ihl ihr =>
    obtain ⟨p, left⟩ := ihl
    obtain ⟨q, right⟩ := ihr
    exact ⟨_, .binary left right⟩

theorem textAt_exact (q : ℚ) (required : Precedence) :
    (constant (.exact q)).textAt digits required = .ok (flat ((Phrase.exact q).pieces required)) := by
  by_cases whole : q.den = 1
  · have precedence : (Value.exact q).precedence =
        if decide (q.num < 0) then .neg else .atom := by
      simp [Value.precedence, whole, Rat.num_neg]
    rw [textAt, Value.display, Value.displayExact, if_pos whole, precedence, Phrase.exact,
      if_pos whole, Phrase.flat_signed, ← toList_toString_int, ← Phrase.rank_signed]
    rfl
  · have precedence : (Value.exact q).precedence = BinaryOp.div.precedence := by
      simp [Value.precedence, whole, BinaryOp.precedence]
    -- A minus sign binds tighter than a quotient, so that it needs no parentheses there.
    have bare : decide (Precedence.neg.rank < BinaryOp.div.precedence.rank) = false := rfl
    have quotient : (toString q.num ++ "/" ++ toString q.den).toList =
        (toString q.num).toList ++ '/' :: writeDigits q.den := by
      simp [← toList_toString_nat]
    have divisor (place : Precedence) :
        flat ((Phrase.number (.ofNat q.den)).pieces place) = writeDigits q.den := by
      simp [Phrase.pieces, flat_cons, flat_nil, Piece.text, Literal.text_ofNat]
    rw [textAt, Value.display, Value.displayExact, if_neg whole, precedence, Phrase.exact,
      if_neg whole, Phrase.pieces, flat_wrap, flat_append, flat_cons, Phrase.flat_signed,
      ← toList_toString_int, bare, Bool.and_false, divisor]
    exact congrArg _ (congrArg _ quotient)

namespace Writes

theorem textAt (h : e.Writes digits p) (required : Precedence) :
    e.textAt digits required = .ok (flat (p.pieces required)) := by
  induction h generalizing required with
  | exact q => exact textAt_exact q required
  | decimal h spells =>
    rw [Phrase.flat_signed, ← spells, ← Phrase.rank_signed, Expr.textAt, Value.display, h]
    rfl
  | symbol => simp [Expr.textAt, Phrase.pieces, flat_cons, flat_nil, Piece.text]
  | neg _ ih =>
    rw [Expr.textAt, ih, Phrase.pieces, flat_wrap, flat_cons]
    rfl
  | @binary op _ _ _ _ _ _ ihl ihr =>
    rw [Expr.textAt, Phrase.pieces, flat_wrap, flat_append, flat_cons, ihl]
    rw [BinaryOp.rightPrecedence, ihr]
    rfl

theorem legible (h : e.Writes digits p) : p.All Literal.Displayed Spellable := by
  induction h with
  | exact q =>
    rw [Phrase.exact]
    split
    · exact Phrase.all_signed (Literal.displayed_ofNat _)
    · exact ⟨Phrase.all_signed (Literal.displayed_ofNat _), Literal.displayed_ofNat _⟩
  | decimal _ _ displayed => exact Phrase.all_signed displayed
  | symbol h => exact h
  | neg _ ih => exact ih
  | binary _ _ ihl ihr => exact ⟨ihl, ihr⟩

/-- The numbers that the text spells make up the value of the tree. -/
theorem denote (h : e.Writes digits p) (env : String → ℚ) :
    (p.tree (Literal.value id)).denote (·.number.rat) env = e.denote (Value.shown digits) env := by
  induction h with
  | exact q => exact Phrase.denote_exact q _ env
  | @decimal d text l h spells displayed =>
    have shown : Value.shown digits (.decimal (.finite d)) = numeralRat text.toList := by
      simp only [Value.shown, h]
    rw [Phrase.denote_signed, Literal.rat_value displayed.exponent, Expr.denote, shown, spells,
      Literal.numeralRat_signed _ displayed.exponent]
  | symbol => rfl
  | neg _ ih => rw [Phrase.tree, Expr.denote, Expr.denote, ih]
  | binary _ _ ihl ihr => rw [Phrase.tree, Expr.denote, Expr.denote, ihl, ihr]

/-- A tree of exact numbers has only integers in its text. -/
theorem natural (h : e.Writes digits p) (exact : e.Every fun v => ∃ q, v = .exact q) : p.Natural := by
  induction h with
  | exact q =>
    rw [Phrase.exact]
    split
    · exact Phrase.all_signed ⟨_, rfl⟩
    · exact ⟨Phrase.all_signed ⟨_, rfl⟩, _, rfl⟩
  | decimal =>
    cases exact with
    | constant h =>
      obtain ⟨q, none⟩ := h
      cases none
  | symbol h => exact h
  | neg _ ih =>
    cases exact with
    | neg h => exact ih h
  | binary _ _ ihl ihr =>
    cases exact with
    | binary hl hr => exact ⟨ihl hl, ihr hr⟩

/-- A tree of natural numbers is the tree of its text. -/
theorem tree_eq (h : e.Writes digits p) (natural : e.Every fun v => ∃ n : ℕ, v = .exact n)
    (round : Decimal → Decimal) : p.tree (Literal.value round) = e := by
  induction h with
  | exact q =>
    cases natural with
    | constant h =>
      obtain ⟨n, same⟩ := h
      cases same
      rw [Phrase.exact_natCast, Phrase.tree, Literal.value_ofNat]
  | decimal =>
    cases natural with
    | constant h =>
      obtain ⟨n, none⟩ := h
      cases none
  | symbol => rfl
  | neg _ ih =>
    cases natural with
    | neg h => rw [Phrase.tree, ih h]
  | binary _ _ ihl ihr =>
    cases natural with
    | binary hl hr => rw [Phrase.tree, ihl hl, ihr hr]

/-- The tree of a phrase of names and natural numbers is printed as the phrase. -/
theorem of_natural (h : p.Natural) (round : Decimal → Decimal) :
    (p.tree (Literal.value round)).Writes digits p := by
  induction p with
  | number l =>
    obtain ⟨n, rfl⟩ := h
    rw [Phrase.tree, Literal.value_ofNat, ← Phrase.exact_natCast]
    exact .exact n
  | name id => exact .symbol h
  | neg operand ih => exact .neg (ih h)
  | binary op left right ihl ihr => exact .binary (ihl h.1) (ihr h.2)

theorem print (h : e.Writes digits p) (positive : 1 ≤ digits) :
    e.print digits = .ok (String.ofList (flat (p.pieces .none))) := by
  rw [Expr.print, if_neg (not_lt.mpr positive), h.textAt]
  rfl

end Writes

theorem print_regroup (e : Expr) (digits : Int) : e.regroup.print digits = e.print digits := by
  rw [print, print, textAt_regroup]

/-- Printed text reads back. A tree without applications that shows no exponent has a text. The text
spells a tree, which evaluators read as it stands and every reader with its decimals rounded; with
the numbers that are spelled the tree has the value of the one printed, decimals as displayed, or
both divide by zero. What is read from the text of exact numbers has the same text, what is read
from natural numbers grouped from the left is the tree that was printed, and the text of one exact
number computes to the number. -/
theorem print_reads_back (digits : Int) (positive : 1 ≤ digits) (few : digits ≤ 50) (e : Expr)
    (printable : e.Printable digits) :
    ∃ text spelled, e.print digits = .ok text ∧
      (∀ ev : Evaluator, read ev.context text = .ok spelled) ∧
      (∀ env, spelled.denote (·.number.rat) env = e.denote (Value.shown digits) env) ∧
      ∀ ctx : Context, ctx.etiny ≤ 50 → 50 ≤ ctx.emax → ∃ parsed, read ctx text = .ok parsed ∧
        Rounds ctx spelled parsed ∧
        ((e.Every fun v => ∃ q, v = .exact q) → parsed.print digits = .ok text) ∧
        ((e.Every fun v => ∃ n : ℕ, v = .exact n) → e.LeftGrouped → parsed = e) ∧
        ∀ q, e = .constant (.exact q) → ∀ ev : Evaluator, ev.evaluate parsed = .ok e := by
  obtain ⟨p, written⟩ := printable.exists_writes few
  refine ⟨_, (p.tree (Literal.value id)).regroup, written.print positive, fun ev => ?_, fun env => ?_,
    fun ctx least range => ?_⟩
  · exact Phrase.read_phrase (Phrase.taken_by_evaluator ev written.legible)
  · rw [denote_regroup, written.denote]
  · have taken := Phrase.taken_rounded written.legible least range
    refine ⟨_, Phrase.read_phrase taken, (Phrase.rounds_tree taken).regroup, fun exact => ?_,
      fun natural grouped => ?_, ?_⟩
    · rw [print_regroup]
      exact (Writes.of_natural (written.natural exact) _).print positive
    · rw [written.tree_eq natural, regroup_eq_self grouped]
    · rintro q rfl ev
      cases written
      exact Phrase.evaluate_exact ev _ q

/-- A difference on the right of a sum, a fraction and a decimal below zero in it. -/
theorem print_reads_back_regrouped :
    let e : Expr := .binary .add (.symbol "x")
      (.binary .sub (.constant (.exact (1 / 2))) (.constant (.decimal (.finite ⟨true, 15, -1⟩))))
    e.Printable 2 ∧ ∃ spelled,
      (∀ ev : Evaluator, read ev.context "x+1/2--1.5" = .ok spelled) ∧
      spelled.denote (·.number.rat) (fun _ => 3) = some 5 ∧
      ∃ parsed, read { precision := 1 } "x+1/2--1.5" = .ok parsed ∧
        Rounds { precision := 1 } spelled parsed := by
  intro e
  have name : Spellable "x" := by
    refine ⟨by decide +kernel, by decide +kernel, rfl, fun run inside _ => ?_⟩
    exact lt_of_le_of_lt inside.length_le (by decide +kernel)
  have display : (ExtDecimal.finite ⟨true, 15, -1⟩).display 2 = .ok "-1.5" := by decide +kernel
  have printable : e.Printable 2 :=
    .binary (.symbol name) (.binary (.exact _) (.decimal display (by decide +kernel)))
  have shown : Value.shown 2 (.decimal (.finite ⟨true, 15, -1⟩)) = -(3 / 2) := by
    have numeral : numeralRat "-1.5".toList = -((15 : ℕ) / 10 ^ 1) := rfl
    simp only [Value.shown, display, numeral]
    norm_num
  obtain ⟨text, spelled, printed, reads, value, readers⟩ :=
    print_reads_back 2 (by decide) (by decide) e printable
  have same : e.print 2 = .ok "x+1/2--1.5" := by decide +kernel
  obtain rfl : text = "x+1/2--1.5" := Except.ok.inj (printed.symm.trans same)
  obtain ⟨parsed, parses, rounds, -⟩ := readers { precision := 1 } (by decide) (by decide)
  refine ⟨printable, spelled, reads, ?_, parsed, parses, rounds⟩
  rw [value]
  have half : Value.shown 2 (.exact (1 / 2)) = 1 / 2 := rfl
  simp only [e, denote, shown, half, Option.bind_some]
  norm_num [BinaryOp.onRat?, BinaryOp.onRat]

end Expr

end Reckoner
