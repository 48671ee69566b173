import Mathlib
import Reckoner.Proofs.Decimal.Layout
import Reckoner.Proofs.Expr.Phrase
import Reckoner.Proofs.Source.Recognition

/-! What phrases read as. The text of a phrase is read as its regrouped tree, each literal as the
number that it spells, rounded in the context of the reader. -/

namespace Reckoner

open Source

theorem readDigits_lt {ds : List Char} (digits : ∀ c ∈ ds, c.isDigit) :
    readDigits ds < 10 ^ ds.length := by
  induction ds using List.reverseRecOn with
  | nil => simp [readDigits]
  | append_singleton ds c ih =>
    have below := ih fun c hc => digits c (by simp [hc])
    have last : digitValue c ≤ 9 := by
      have digit := digits c (by simp)
      simp only [Char.isDigit, Bool.and_eq_true, decide_eq_true_eq] at digit
      have top : c.toNat ≤ '9'.toNat := digit.2
      have nine : '9'.toNat = '0'.toNat + 9 := rfl
      rw [digitValue]
      omega
    have split : readDigits (ds ++ [c]) = 10 * readDigits ds + digitValue c := by
      simp [readDigits]
    rw [split, List.length_append, List.length_singleton, pow_succ]
    omega

/-- The rational that digits with at most one point denote. -/
def unsignedRat (cs : List Char) : ℚ :=
  let whole := cs.takeWhile (· ≠ '.')
  let fraction := (cs.dropWhile (· ≠ '.')).drop 1
  readDigits (whole ++ fraction) / 10 ^ fraction.length

/-- The rational that a numeral without an exponent denotes. -/
def numeralRat : List Char → ℚ
  | '-' :: cs => -unsignedRat cs
  | cs => unsignedRat cs

namespace Source.Literal

variable {l : Literal}

/-- The value of a literal, its decimal taken over by `round`. -/
def value (round : Decimal → Decimal) (l : Literal) : Value :=
  if l.fraction.isSome then .decimal (.finite (round l.decimal)) else .exact (readDigits l.whole)

/-- The text of a literal with a minus sign before it or none. -/
def signed (negative : Bool) (l : Literal) : List Char :=
  if negative then '-' :: l.text else l.text

theorem unsignedRat_text (h : l.exponent = none) : unsignedRat l.text = l.decimal.toRat := by
  have digits : ∀ c ∈ l.whole, decide (c ≠ '.') := by
    intro c hc
    have digit := l.whole_digits c hc
    simp only [decide_eq_true_eq]
    rintro rfl
    exact absurd digit (by decide)
  cases fraction : l.fraction with
  | none =>
    have text : l.text = l.whole := l.text_eq_whole ⟨fraction, h⟩
    have taken : l.whole.takeWhile (· ≠ '.') = l.whole := List.takeWhile_eq_self_iff.mpr digits
    have dropped : l.whole.dropWhile (· ≠ '.') = [] := List.dropWhile_eq_nil_iff.mpr digits
    rw [unsignedRat, text, taken, dropped]
    simp [decimal, fraction, h, Decimal.toRat, readDigits]
  | some ds =>
    have text : l.text = l.whole ++ '.' :: ds := by simp [Literal.text, fraction, h]
    have taken : (l.whole ++ '.' :: ds).takeWhile (· ≠ '.') = l.whole := by
      rw [List.takeWhile_append_of_pos digits]
      simp
    have dropped : (l.whole ++ '.' :: ds).dropWhile (· ≠ '.') = '.' :: ds := by
      rw [List.dropWhile_append_of_pos digits]
      simp
    have exponent : (readDigits (l.exponent.getD []) : ℤ) - ds.length = -ds.length := by
      simp [h, readDigits]
    rw [unsignedRat, text, taken, dropped]
    simp [decimal, fraction, exponent, Decimal.toRat, div_eq_mul_inv]

theorem numeralRat_signed (negative : Bool) (h : l.exponent = none) :
    numeralRat (l.signed negative) = withSign negative l.decimal.toRat := by
  cases negative with
  | true => exact congrArg Neg.neg (unsignedRat_text h)
  | false =>
    have plain : ∀ cs, l.text ≠ '-' :: cs := by
      intro cs minus
      have sign : '-' ∈ l.text := minus ▸ List.mem_cons_self
      have none := l.mem_text sign
      revert none
      decide
    rw [withSign_false, ← unsignedRat_text h]
    unfold signed numeralRat
    split
    · rename_i minus
      exact absurd minus (plain _)
    · rfl

theorem rat_value (h : l.exponent = none) : (l.value id).number.rat = l.decimal.toRat := by
  unfold value
  split
  · rfl
  · rename_i whole
    simp [Value.number, Number.rat, decimal, h, Decimal.toRat, readDigits,
      Option.not_isSome_iff_eq_none.mp whole]

theorem value_ofNat (round : Decimal → Decimal) (n : Nat) : (ofNat n).value round = .exact n := by
  simp [value, ofNat, readDigits_writeDigits]

namespace Displayed

theorem digits_length (h : l.Displayed) (real : l.fraction.isSome) :
    (l.whole ++ l.fraction.getD []).length ≤ 53 := by
  have length := h.length real
  obtain ⟨ds, fraction⟩ := Option.isSome_iff_exists.mp real
  simp only [text, fraction, h.exponent, Option.elim_some, Option.elim_none, List.append_nil,
    List.length_append, List.length_cons] at length
  simp only [fraction, Option.getD_some, List.length_append]
  omega

theorem exponent_eq (h : l.Displayed) :
    l.decimal.exponent = -((l.fraction.getD []).length : ℤ) := by
  simp [decimal, h.exponent, readDigits]

theorem digits_isDigit (l : Literal) : ∀ c ∈ l.whole ++ l.fraction.getD [], c.isDigit := by
  refine List.forall_mem_append.mpr ⟨l.whole_digits, fun c hc => ?_⟩
  cases fraction : l.fraction with
  | none => simp [fraction] at hc
  | some ds =>
    rw [fraction, Option.getD_some] at hc
    exact l.fraction_digits ds fraction c hc

/-- Displayed literals lose no digits in a context that is wide enough for them. -/
theorem fits {ctx : Context} (h : l.Displayed) (real : l.fraction.isSome)
    (digits : 53 ≤ ctx.precision) (place : ctx.etiny ≤ -53) (range : 53 ≤ ctx.emax) :
    l.decimal.Fits ctx := by
  have length := h.digits_length real
  have exponent := h.exponent_eq
  have few : digitCount l.decimal.coefficient ≤ 53 := by
    rw [digitCount_le_iff (by decide)]
    exact (readDigits_lt (digits_isDigit l)).trans_le (Nat.pow_le_pow_right (by decide) length)
  rw [List.length_append] at length
  refine ⟨few.trans digits, by omega, ?_⟩
  rw [Decimal.adjusted]
  omega

/-- Displayed literals overflow no context that goes up to `10 ^ 50`. -/
theorem exists_roundIn {ctx : Context} (h : l.Displayed) (real : l.fraction.isSome)
    (least : ctx.etiny ≤ 50) (range : 50 ≤ ctx.emax) : ∃ r, l.decimal.roundIn ctx = .ok r := by
  have value : l.decimal.toRat = (readDigits (l.whole ++ l.fraction.getD []) : ℚ) /
      10 ^ (l.fraction.getD []).length := by
    rw [Decimal.toRat, h.exponent_eq, zpow_neg, zpow_natCast, ← div_eq_mul_inv]
    rfl
  refine Decimal.exists_roundIn (value ▸ by positivity) ?_ least range
  have below : (readDigits (l.whole ++ l.fraction.getD []) : ℚ) ≤
      10 ^ (l.whole ++ l.fraction.getD []).length := by
    exact_mod_cast (readDigits_lt (digits_isDigit l)).le
  have whole : (10 : ℚ) ^ l.whole.length ≤ 10 ^ 50 :=
    pow_le_pow_right₀ (by norm_num) (h.whole real)
  rw [value, div_le_iff₀ (by positivity)]
  calc (readDigits (l.whole ++ l.fraction.getD []) : ℚ)
      ≤ 10 ^ l.whole.length * 10 ^ (l.fraction.getD []).length := by
        rwa [← pow_add, ← List.length_append]
    _ ≤ 10 ^ (50 : ℤ) * 10 ^ (l.fraction.getD []).length := by
        exact mul_le_mul_of_nonneg_right whole (by positivity)

end Displayed

end Source.Literal

/-- A decimal rounded in a context that it does not overflow. -/
def Decimal.rounded (ctx : Context) (d : Decimal) : Decimal := (d.roundIn ctx).toOption.getD d

/-- A tree and what becomes of it when each of its decimals is rounded in a context. -/
inductive Expr.Rounds (ctx : Context) : Expr → Expr → Prop where
  | exact (q : ℚ) : Rounds ctx (.constant (.exact q)) (.constant (.exact q))
  | decimal {d r : Decimal} (h : d.roundIn ctx = .ok r) :
    Rounds ctx (.constant (.decimal (.finite d))) (.constant (.decimal (.finite r)))
  | symbol (name : String) : Rounds ctx (.symbol name) (.symbol name)
  | neg {a b : Expr} (h : Rounds ctx a b) : Rounds ctx (.neg a) (.neg b)
  | binary {op : BinaryOp} {a b c d : Expr} (hl : Rounds ctx a b) (hr : Rounds ctx c d) :
    Rounds ctx (.binary op a c) (.binary op b d)

namespace Expr.Rounds

variable {ctx : Context} {a b c d : Expr}

theorem graft (op : BinaryOp) (hl : Rounds ctx a b) (hr : Rounds ctx c d) :
    Rounds ctx (Expr.graft op a c) (Expr.graft op b d) := by
  induction hr with
  | @binary inner _ _ _ _ first second ih _ =>
    by_cases same : inner.precedence = op.precedence
    · simpa only [graft_of_eq same] using .binary ih second
    · simpa only [graft_of_ne same] using .binary hl (.binary first second)
  | exact q => exact .binary hl (.exact q)
  | decimal h => exact .binary hl (.decimal h)
  | symbol name => exact .binary hl (.symbol name)
  | neg h => exact .binary hl (.neg h)

theorem regroup (h : Rounds ctx a b) : Rounds ctx a.regroup b.regroup := by
  induction h with
  | @binary op _ _ _ _ _ _ ihl ihr =>
    simp only [Expr.regroup]
    split
    · exact .binary ihl ihr
    · exact ihl.graft op ihr
  | neg _ ih => exact .neg ih
  | exact q => exact .exact q
  | decimal h => exact .decimal h
  | symbol name => exact .symbol name

end Expr.Rounds

namespace Phrase

variable {p : Phrase} {ctx : Context} {round : Decimal → Decimal}

theorem All.imp {number number' : Literal → Prop} {name name' : String → Prop}
    (h : p.All number name) (numbers : ∀ l, number l → number' l)
    (names : ∀ id, name id → name' id) : p.All number' name' := by
  induction p with
  | number l => exact numbers l h
  | name id => exact names id h
  | neg operand ih => exact ih h
  | binary op left right ihl ihr => exact ⟨ihl h.1, ihr h.2⟩

/-- The literals are rounded in the context as `round` says. -/
def Taken (ctx : Context) (round : Decimal → Decimal) : Phrase → Prop :=
  All (fun l => l.Displayed ∧ (l.fraction.isSome → l.decimal.roundIn ctx = .ok (round l.decimal)))
    Spellable

theorem rounds_tree (h : p.Taken ctx round) :
    Expr.Rounds ctx (p.tree (Literal.value id)) (p.tree (Literal.value round)) := by
  induction p with
  | number l =>
    simp only [tree, Literal.value]
    split
    · rename_i real
      exact .decimal (h.2 real)
    · exact .exact _
  | name id => exact .symbol id
  | neg operand ih => exact .neg (ih h)
  | binary op left right ihl ihr => exact .binary (ihl h.1) (ihr h.2)

theorem accepted_value {l : Literal} (h : l.Displayed)
    (rounded : l.fraction.isSome → l.decimal.roundIn ctx = .ok (round l.decimal)) :
    Accepted ctx (.number l.kind l.text) (.constant (l.value round)) := by
  unfold Literal.kind Literal.value
  split
  · rename_i real
    exact accepted_real.mpr ⟨_, rounded real, rfl⟩
  · rename_i whole
    exact (accepted_integer ⟨Option.not_isSome_iff_eq_none.mp whole, h.exponent⟩).mpr rfl

/-- The text of a phrase reads as its regrouped tree. -/
theorem read_phrase (h : p.Taken ctx round) :
    read ctx (String.ofList (flat (p.pieces .none))) = .ok (p.tree (Literal.value round)).regroup := by
  have legible : p.All Literal.Displayed Spellable := h.imp (fun _ hl => hl.1) fun _ => id
  have known : p.Known (Accepted ctx) (Literal.value round) :=
    h.imp (fun _ hl => accepted_value hl.1 hl.2) fun _ _ => rfl
  have operand := pieces_operand legible .none
  rw [read_iff, String.toList_ofList,
    scan_pieces operand.written operand.nonempty (depthAfter_pieces p .none 0)]
  exact ⟨_, 0, by simp, (derived_of_known known).own .none⟩

/-- In a context that is wide enough the literals stay as they are. -/
theorem taken_of_wide (legible : p.All Literal.Displayed Spellable) (digits : 53 ≤ ctx.precision)
    (place : ctx.etiny ≤ -53) (range : 53 ≤ ctx.emax) : p.Taken ctx id :=
  legible.imp (fun _ hl => ⟨hl, fun real =>
    Decimal.roundIn_of_fits (hl.fits real digits place range)⟩) fun _ => id

theorem taken_rounded (legible : p.All Literal.Displayed Spellable) (least : ctx.etiny ≤ 50)
    (range : 50 ≤ ctx.emax) : p.Taken ctx (Decimal.rounded ctx) := by
  refine legible.imp (fun l hl => ⟨hl, fun real => ?_⟩) fun _ => id
  obtain ⟨r, rounded⟩ := hl.exists_roundIn real least range
  rw [Decimal.rounded, rounded]
  rfl

end Phrase

end Reckoner
