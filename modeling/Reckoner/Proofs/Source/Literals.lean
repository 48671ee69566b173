import Mathlib
import Reckoner.Proofs.Source.Derivation
import Reckoner.Proofs.Source.Scanning

/-! Number tokens. The texts that the check of a number lets pass are those of literals, and the
scanner tells integers from the others as a literal does. -/

namespace Reckoner.Source

/-- An exponent without a sign. -/
theorem readExponent_digits {ds : List Char} (nonempty : ds ≠ []) (all : ∀ c ∈ ds, c.isDigit) :
    Numeral.readExponent? ds = some (readDigits ds : Int) := by
  have unsigned : ∀ c ∈ ds, c ≠ '-' ∧ c ≠ '+' := by
    intro c hc
    have digit := all c hc
    constructor <;> rintro rfl <;> exact absurd digit (by decide)
  unfold Numeral.readExponent?
  split
  rename_i negative digits split
  split at split
  · exact absurd rfl (unsigned '-' (by simp)).1
  · exact absurd rfl (unsigned '+' (by simp)).2
  · cases split
    have : ds.all Char.isDigit := by simpa using all
    simp [nonempty, this]

namespace Literal

variable (l : Literal)

theorem text_eq_whole (h : l.IsInteger) : l.text = l.whole := by
  simp [text, h.1, h.2]

theorem mem_text {c : Char} (h : c ∈ l.text) : c.isDigit ∨ c = '.' ∨ c = 'e' := by
  simp only [text, List.mem_append] at h
  rcases h with (h | h) | h
  · exact .inl (l.whole_digits c h)
  · cases fraction : l.fraction with
    | none => simp [fraction] at h
    | some ds =>
      simp only [fraction, Option.elim, List.mem_cons] at h
      rcases h with rfl | h
      · exact .inr (.inl rfl)
      · exact .inl (l.fraction_digits ds fraction c h)
  · cases exponent : l.exponent with
    | none => simp [exponent] at h
    | some ds =>
      simp only [exponent, Option.elim, List.mem_cons] at h
      rcases h with rfl | h
      · exact .inr (.inr rfl)
      · exact .inl ((l.exponent_digits ds exponent).2 c h)

theorem isInteger_iff : l.IsInteger ↔ ∀ c ∈ l.text, c ≠ '.' ∧ c ≠ 'e' := by
  constructor
  · intro h c hc
    rw [l.text_eq_whole h] at hc
    have digit := l.whole_digits c hc
    constructor <;> rintro rfl <;> exact absurd digit (by decide)
  · intro h
    constructor
    · cases fraction : l.fraction with
      | none => rfl
      | some ds => exact absurd rfl (h '.' (by simp [text, fraction])).1
    · cases exponent : l.exponent with
      | none => rfl
      | some ds => exact absurd rfl (h 'e' (by simp [text, exponent])).2

/-- What follows the whole part. -/
def tailText : List Char :=
  l.fraction.elim [] ('.' :: ·) ++ l.exponent.elim [] ('e' :: ·)

theorem text_eq : l.text = l.whole ++ l.tailText := List.append_assoc _ _ _

theorem takeWhile_text : l.text.takeWhile Char.isDigit = l.whole := by
  have stop : l.tailText.takeWhile Char.isDigit = [] := by
    unfold tailText
    cases l.fraction <;> cases l.exponent <;> simp
  rw [text_eq, List.takeWhile_append_of_pos l.whole_digits, stop, List.append_nil]

theorem dropWhile_text : l.text.dropWhile Char.isDigit = l.tailText := by
  have stop : l.tailText.dropWhile Char.isDigit = l.tailText := by
    unfold tailText
    cases l.fraction <;> cases l.exponent <;> simp
  rw [text_eq, List.dropWhile_append_of_pos l.whole_digits, stop]

theorem isPlain_text : Numeral.isPlain l.text = true := by
  have leading : l.whole ≠ [] ∧ (l.whole.head? ≠ some '0' ∨ l.whole.length = 1) := by
    rcases l.whole_leading with h | ⟨h, head⟩
    · simp [h]
    · exact ⟨h, .inl head⟩
  unfold Numeral.isPlain
  simp only [takeWhile_text, dropWhile_text, Bool.and_eq_true]
  refine ⟨⟨by simpa using leading.1, by simpa using leading.2⟩, ?_⟩
  unfold tailText
  cases fraction : l.fraction with
  | none =>
    cases exponent : l.exponent with
    | none => rfl
    | some digits =>
      have := l.exponent_digits digits exponent
      simpa using this
  | some ds =>
    have stop : ∀ more, (ds ++ more).dropWhile Char.isDigit = more.dropWhile Char.isDigit :=
      fun more => List.dropWhile_append_of_pos (l.fraction_digits ds fraction)
    cases exponent : l.exponent with
    | none =>
      have rest : ds.dropWhile Char.isDigit = [] :=
        List.dropWhile_eq_nil_iff.mpr (l.fraction_digits ds fraction)
      simp [rest]
    | some digits =>
      have := l.exponent_digits digits exponent
      simpa [stop] using this

theorem whole_ne_nil : l.whole ≠ [] := by
  rcases l.whole_leading with h | ⟨h, -⟩
  · simp [h]
  · exact h

theorem read_text :
    Numeral.read? l.text =
      some ⟨l.whole, l.fraction.getD [], readDigits (l.exponent.getD [])⟩ := by
  have nonempty := l.whole_ne_nil
  unfold Numeral.read?
  simp only [takeWhile_text, dropWhile_text]
  unfold tailText
  cases fraction : l.fraction with
  | none =>
    cases exponent : l.exponent with
    | none => simp [nonempty, readDigits]
    | some digits =>
      obtain ⟨some, all⟩ := l.exponent_digits digits exponent
      simp [nonempty, readExponent_digits some all]
  | some ds =>
    have kept : ∀ more, (ds ++ more).takeWhile Char.isDigit = ds ++ more.takeWhile Char.isDigit :=
      fun more => List.takeWhile_append_of_pos (l.fraction_digits ds fraction)
    have stop : ∀ more, (ds ++ more).dropWhile Char.isDigit = more.dropWhile Char.isDigit :=
      fun more => List.dropWhile_append_of_pos (l.fraction_digits ds fraction)
    cases exponent : l.exponent with
    | none =>
      have rest : ds.dropWhile Char.isDigit = [] :=
        List.dropWhile_eq_nil_iff.mpr (l.fraction_digits ds fraction)
      have taken : ds.takeWhile Char.isDigit = ds :=
        List.takeWhile_eq_self_iff.mpr (l.fraction_digits ds fraction)
      simp [nonempty, rest, taken, readDigits]
    | some digits =>
      obtain ⟨some, all⟩ := l.exponent_digits digits exponent
      simp [nonempty, kept, stop, readExponent_digits some all]

theorem toDecimal_text {numeral : Numeral} (h : Numeral.read? l.text = some numeral) :
    numeral.toDecimal false = l.decimal := by
  rw [read_text] at h
  cases h
  rfl

/-- The kind that a literal without an exponent scans as. -/
def kind (l : Literal) : NumberKind := if l.fraction.isSome then .real else .integer

/-- Literals as numbers are displayed with at most fifty digits: no exponent, and some digit after
a point. Only integers are longer. -/
structure Displayed (l : Literal) : Prop where
  exponent : l.exponent = none
  fraction : l.fraction ≠ some []
  whole : l.fraction.isSome → l.whole.length ≤ 50
  length : l.fraction.isSome → l.text.length ≤ 54

end Literal

/-- What the check leaves after the whole part and the fraction. -/
theorem exists_exponent {cs : List Char}
    (h : (match cs with
      | [] => true
      | 'e' :: digits => !digits.isEmpty && digits.all Char.isDigit
      | _ => false) = true) :
    ∃ exponent : Option (List Char), (∀ ds ∈ exponent, ds ≠ [] ∧ ∀ c ∈ ds, c.isDigit) ∧
      exponent.elim [] ('e' :: ·) = cs := by
  split at h
  · exact ⟨none, by simp, rfl⟩
  · rename_i digits
    exact ⟨some digits, by simpa using h, rfl⟩
  · cases h

/-- The texts that pass the check are those of literals. -/
theorem exists_literal {cs : List Char} (h : Numeral.isPlain cs = true) :
    ∃ l : Literal, l.text = cs := by
  unfold Numeral.isPlain at h
  simp only [Bool.and_eq_true] at h
  obtain ⟨⟨nonempty, leading⟩, fits⟩ := h
  have digits : ∀ c ∈ cs.takeWhile Char.isDigit, c.isDigit := fun c => List.mem_takeWhile_imp
  have start : cs.takeWhile Char.isDigit = ['0'] ∨
      cs.takeWhile Char.isDigit ≠ [] ∧ (cs.takeWhile Char.isDigit).head? ≠ some '0' := by
    revert nonempty leading
    generalize cs.takeWhile Char.isDigit = whole
    intro nonempty leading
    cases whole with
    | nil => cases nonempty
    | cons c more =>
      by_cases zero : c = '0'
      · left
        simp_all
      · right
        simp_all
  have whole := List.takeWhile_append_dropWhile (p := Char.isDigit) (l := cs)
  obtain ⟨exponent, valid, text⟩ := exists_exponent fits
  split at text
  · rename_i more point
    refine ⟨⟨_, some (more.takeWhile Char.isDigit), exponent, digits, start, ?_, valid⟩, ?_⟩
    · rintro _ ⟨⟩ c hc
      exact List.mem_takeWhile_imp hc
    · simp only [Literal.text, Option.elim_some, text]
      rw [List.append_assoc, List.cons_append, List.takeWhile_append_dropWhile, ← point, whole]
  · refine ⟨⟨_, none, exponent, digits, start, by simp, valid⟩, ?_⟩
    simp only [Literal.text, Option.elim_none, text, List.append_nil]
    exact whole

theorem takeGroups_mem {isDigit : Char → Bool} {cs taken left : List Char}
    (h : takeGroups? isDigit cs = some (taken, left)) : ∀ c ∈ taken, isDigit c ∨ c = '_' := by
  induction cs generalizing taken with
  | nil =>
    cases h
    simp
  | cons c cs ih =>
    unfold takeGroups? at h
    split at h
    · rename_i digit
      obtain ⟨⟨more, rest⟩, groups, same⟩ := Option.map_eq_some_iff.mp h
      cases same
      exact List.forall_mem_cons.mpr ⟨.inl digit, ih groups⟩
    split at h
    · rename_i low
      split at h
      · split at h
        · obtain ⟨⟨more, rest⟩, groups, same⟩ := Option.map_eq_some_iff.mp h
          cases same
          exact List.forall_mem_cons.mpr ⟨.inr low, ih groups⟩
        · cases h
      · cases h
    · cases h
      simp

theorem fractionPart_mem {cs taken left : List Char}
    (h : fractionPart? cs = some (taken, left)) : taken = [] ∨ '.' ∈ taken := by
  unfold fractionPart? at h
  split at h
  · split at h
    · obtain ⟨⟨more, rest⟩, -, same⟩ := Option.map_eq_some_iff.mp h
      cases same
      exact .inr List.mem_cons_self
    · cases h
      exact .inr List.mem_cons_self
  · cases h
    exact .inl rfl

theorem exponentPart_mem {cs taken left : List Char}
    (h : exponentPart? cs = some (taken, left)) : taken = [] ∨ 'e' ∈ taken ∨ 'E' ∈ taken := by
  unfold exponentPart? at h
  split at h
  · split at h
    · rename_i letter
      split at h
      rename_i sign body _
      dsimp only at h
      split at h
      · obtain ⟨⟨more, rest⟩, -, same⟩ := Option.map_eq_some_iff.mp h
        cases same
        rcases letter with rfl | rfl
        · exact .inr (.inl List.mem_cons_self)
        · exact .inr (.inr List.mem_cons_self)
      · split at h
        · cases h
          exact .inl rfl
        · cases h
    · cases h
      exact .inl rfl
  · cases h
    exact .inl rfl

/-- The whole part of a decimal number, before whatever is read on. -/
theorem wholePart_mem {α : Type} {cs : List Char} {f : List Char × List Char → Option α} {a : α}
    (h : (if cs.head?.any Char.isDigit then takeGroups? Char.isDigit cs >>= f
      else some ([], cs) >>= f) = some a) :
    ∃ whole rest, (∀ c ∈ whole, c.isDigit ∨ c = '_') ∧ f (whole, rest) = some a := by
  split at h
  · obtain ⟨⟨whole, rest⟩, groups, h⟩ := Option.bind_eq_some_iff.mp h
    exact ⟨whole, rest, takeGroups_mem groups, h⟩
  · exact ⟨[], cs, by simp, h⟩

/-- The letters of a decimal number tell its kind. -/
theorem decimalNumber_mem {cs text : List Char} {kind : NumberKind}
    (h : decimalNumber? cs = some (kind, text)) :
    kind = .integer ∧ (∀ c ∈ text, c.isDigit ∨ c = '_') ∨
      kind = .real ∧ ('.' ∈ text ∨ 'e' ∈ text ∨ 'E' ∈ text) ∨
        kind = .imaginary ∧ ('j' ∈ text ∨ 'J' ∈ text) := by
  unfold decimalNumber? at h
  obtain ⟨whole, afterWhole, wholes, h⟩ := wholePart_mem h
  obtain ⟨⟨fraction, afterFraction⟩, hf, h⟩ := Option.bind_eq_some_iff.mp h
  obtain ⟨⟨exponent, rest⟩, he, h⟩ := Option.bind_eq_some_iff.mp h
  have fractions := fractionPart_mem hf
  have exponents := exponentPart_mem he
  have plain : (if (!endsNumber rest) = true then none
      else if (!fraction.isEmpty || !exponent.isEmpty) = true then
        some (NumberKind.real, whole ++ fraction ++ exponent)
      else if isPlainInteger whole = true then
        some (NumberKind.integer, whole ++ fraction ++ exponent) else none) = some (kind, text) →
      kind = .integer ∧ (∀ c ∈ text, c.isDigit ∨ c = '_') ∨
        kind = .real ∧ ('.' ∈ text ∨ 'e' ∈ text ∨ 'E' ∈ text) := by
    intro h
    split at h
    · cases h
    split at h
    · rename_i some
      cases h
      refine .inr ⟨rfl, ?_⟩
      simp only [List.mem_append]
      rcases fractions with rfl | point
      · rcases exponents with rfl | letter | letter
        · simp at some
        · exact .inr (.inl (.inr letter))
        · exact .inr (.inr (.inr letter))
      · exact .inl (.inl (.inr point))
    split at h
    · rename_i none _
      cases h
      simp only [Bool.or_eq_true, Bool.not_eq_true', List.isEmpty_eq_false_iff, not_or, not_not] at none
      obtain ⟨rfl, rfl⟩ := none
      exact .inl ⟨rfl, by simpa using wholes⟩
    · cases h
  dsimp only at h
  split at h
  · split at h
    · rename_i letter
      split at h
      · cases h
        refine .inr (.inr ⟨rfl, ?_⟩)
        rcases letter with rfl | rfl <;> simp
      · cases h
    · exact (plain h).imp_right .inl
  · exact (plain h).imp_right .inl

theorem radix_mem {isDigit : Char → Bool} {mark : Char} {body text : List Char} {kind : NumberKind}
    (h : ((radixDigits? isDigit body).map fun (digits, _) =>
      (NumberKind.integer, '0' :: mark :: digits)) = some (kind, text)) : mark ∈ text := by
  obtain ⟨⟨digits, _⟩, -, same⟩ := Option.map_eq_some_iff.mp h
  cases same
  simp

theorem number_mem {cs text : List Char} {kind : NumberKind} (h : number? cs = some (kind, text)) :
    (∃ mark ∈ ['x', 'X', 'o', 'O', 'b', 'B'], mark ∈ text) ∨
      kind = .integer ∧ (∀ c ∈ text, c.isDigit ∨ c = '_') ∨
        kind = .real ∧ ('.' ∈ text ∨ 'e' ∈ text ∨ 'E' ∈ text) ∨
          kind = .imaginary ∧ ('j' ∈ text ∨ 'J' ∈ text) := by
  unfold number? at h
  dsimp only at h
  split at h
  · rename_i mark body
    split at h
    · rename_i letter
      refine .inl ⟨mark, ?_, radix_mem h⟩
      rcases letter with rfl | rfl <;> simp
    split at h
    · rename_i letter
      refine .inl ⟨mark, ?_, radix_mem h⟩
      rcases letter with rfl | rfl <;> simp
    split at h
    · rename_i letter
      refine .inl ⟨mark, ?_, radix_mem h⟩
      rcases letter with rfl | rfl <;> simp
    · exact .inr (decimalNumber_mem h)
  · exact .inr (decimalNumber_mem h)

/-- A scanned literal is an integer for the scanner just when it has only a whole part. -/
theorem number_literal {cs : List Char} {kind : NumberKind} {l : Literal}
    (h : number? cs = some (kind, l.text)) :
    kind = .integer ∧ l.IsInteger ∨ kind = .real ∧ ¬l.IsInteger := by
  have foreign : ∀ c, ¬(c.isDigit = true ∨ c = '.' ∨ c = 'e') → c ∉ l.text := fun c hc mem =>
    hc (l.mem_text mem)
  rcases number_mem h with ⟨mark, letters, mem⟩ | ⟨rfl, digits⟩ | ⟨rfl, letter⟩ | ⟨rfl, letter⟩
  · refine absurd mem (foreign mark ?_)
    simp only [List.mem_cons, List.not_mem_nil, or_false] at letters
    rcases letters with rfl | rfl | rfl | rfl | rfl | rfl <;> decide
  · refine .inl ⟨rfl, l.isInteger_iff.mpr fun c hc => ?_⟩
    rcases digits c hc with digit | rfl
    · constructor <;> rintro rfl <;> exact absurd digit (by decide)
    · decide
  · refine .inr ⟨rfl, fun integer => ?_⟩
    have none := l.isInteger_iff.mp integer
    rcases letter with mem | mem | mem
    · exact (none _ mem).1 rfl
    · exact (none _ mem).2 rfl
    · exact absurd mem (foreign 'E' (by decide))
  · rcases letter with mem | mem
    · exact absurd mem (foreign 'j' (by decide))
    · exact absurd mem (foreign 'J' (by decide))

section Leaves

variable {ctx : Context} {l : Literal} {e : Expr}

theorem accepted_integer (integer : l.IsInteger) :
    Accepted ctx (.number .integer l.text) e ↔ e = .constant (.exact (readDigits l.whole)) := by
  have plain := l.isPlain_text
  rw [l.text_eq_whole integer] at plain ⊢
  simp [Accepted, convertNumber, plain, eq_comm]

theorem accepted_real : Accepted ctx (.number .real l.text) e ↔
    ∃ d, l.decimal.roundIn ctx = .ok d ∧ e = .constant (.decimal (.finite d)) := by
  cases rounded : l.decimal.roundIn ctx <;>
    simp [Accepted, convertNumber, refuse, l.isPlain_text, l.read_text,
      l.toDecimal_text l.read_text, rounded, eq_comm]

theorem Accepted.plain {kind : NumberKind} {text : List Char}
    (h : Accepted ctx (.number kind text) e) : Numeral.isPlain text = true := by
  by_contra unplain
  have unplain := eq_false_of_ne_true unplain
  cases kind <;> simp [Accepted, convertNumber, refuse, unplain] at h

/-- The conversion of a scanned token gives what the token stands for. -/
theorem accepted_iff_denotes {k : TokenKind}
    (scanned : ∀ kind text, k = .number kind text → ∃ cs, number? cs = some (kind, text)) :
    Accepted ctx k e ↔ Denotes ctx k e := by
  cases k with
  | keyword | string | mark | newline | finish | unclosed | fault =>
    exact ⟨fun h => h.elim, fun h => by cases h⟩
  | name id =>
    constructor
    · rintro rfl
      exact .name id
    · intro h
      cases h
      rfl
  | number kind text =>
    obtain ⟨cs, found⟩ := scanned kind text rfl
    constructor
    · intro h
      obtain ⟨l, rfl⟩ := exists_literal h.plain
      rcases number_literal found with ⟨rfl, integer⟩ | ⟨rfl, real⟩
      · rw [(accepted_integer integer).mp h]
        exact .integer _ l integer
      · obtain ⟨d, rounded, rfl⟩ := accepted_real.mp h
        exact .decimal _ l real rounded
    · intro h
      generalize split : TokenKind.number kind text = k at h
      cases h with
      | name => cases split
      | integer _ l integer =>
        cases split
        rcases number_literal found with ⟨rfl, -⟩ | ⟨-, real⟩
        · exact (accepted_integer integer).mpr rfl
        · exact absurd integer real
      | decimal _ l real rounded =>
        cases split
        rcases number_literal found with ⟨-, integer⟩ | ⟨rfl, -⟩
        · exact absurd integer real
        · exact accepted_real.mpr ⟨_, rounded, rfl⟩

end Leaves

end Reckoner.Source
