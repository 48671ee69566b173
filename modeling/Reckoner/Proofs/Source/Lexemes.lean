import Mathlib
import Reckoner.Proofs.Source.Hiding
import Reckoner.Proofs.Source.Literals
import Reckoner.Proofs.Text.Identifier
import Reckoner.Source.Lexeme

/-! Texts that scan as one lexeme: names, literals without an exponent, and the marks of the
expression language, each before the end of the text or before a mark. -/

namespace Reckoner.Source

/-- The text ends or goes on with a mark of the expression language. -/
def Stops (rest : List Char) : Prop := ∀ c ∈ rest.head?, c ∈ ['+', '-', '*', '/', '(', ')']

theorem Stops.cases {rest : List Char} (h : Stops rest) :
    rest = [] ∨ ∃ c after, rest = c :: after ∧ c ∈ ['+', '-', '*', '/', '(', ')'] := by
  cases rest with
  | nil => exact .inl rfl
  | cons c after => exact .inr ⟨c, after, rfl, h c rfl⟩

/-- What holds of no mark does not hold of the next character. -/
theorem Stops.any {rest : List Char} (h : Stops rest) {p : Char → Bool}
    (marks : ['+', '-', '*', '/', '(', ')'].any p = false) : rest.head?.any p = false := by
  rcases h.cases with rfl | ⟨c, after, rfl, mark⟩
  · rfl
  · simpa using List.any_eq_false.mp marks c mark

theorem Stops.line {rest : List Char} (h : Stops rest) : ∀ c ∈ rest.head?, c ≠ '_' := by
  rintro c hc rfl
  simpa using h '_' hc

/-- The names that can be written down: identifiers in compatibility form that are spelled as no
keyword and hold no long run of digits. -/
structure Spellable (id : String) : Prop where
  identifier : Text.isIdentifier id.toList
  compatible : Text.compatibilityForm id.toList = id.toList
  unreserved : Keyword.ofText? id = none
  short : ShortRuns id.toList

theorem wordKind_of_spellable {id : String} (h : Spellable id) :
    wordKind? id.toList = some (.name id) := by
  simp [wordKind?, h.unreserved, h.identifier, h.compatible]

theorem ne_of_beginsWord {c d : Char} (h : Text.beginsWord c) (hd : Text.beginsWord d = false) :
    c ≠ d := by
  rintro rfl
  simp [h] at hd

theorem lexeme_name {id : String} (h : Spellable id) {rest : List Char} (stops : Stops rest) :
    lexeme? (id.toList ++ rest) = some (.name id, id.toList.length) := by
  have word := Text.isIdentifier_word h.identifier
  have start := h.identifier
  have kind := wordKind_of_spellable h
  generalize id.toList = cs at *
  cases cs with
  | nil => cases start
  | cons c w =>
    simp only [Text.isIdentifier, Bool.and_eq_true] at start
    obtain ⟨begins, digit⟩ := Text.beginsWord_of_identifier start.1
    have point : c ≠ '.' := ne_of_beginsWord begins (by decide)
    have quote : isQuote c = false := by
      simp [isQuote, ne_of_beginsWord begins (d := '"') (by decide),
        ne_of_beginsWord begins (d := '\'') (by decide)]
    have stop := stops.any (p := Text.continuesWord) (by decide)
    have unquoted := stops.any (p := isQuote) (by decide)
    have taken : (c :: w ++ rest).takeWhile Text.continuesWord = c :: w := by
      rw [takeWhile_append_stop _ stop, List.takeWhile_eq_self_iff.mpr word]
    have left : (c :: w ++ rest).dropWhile Text.continuesWord = rest := by
      rw [dropWhile_append_stop _ stop, List.dropWhile_eq_nil_iff.mpr word, List.nil_append]
    rw [List.cons_append] at taken left ⊢
    simp only [lexeme?, digit, point, quote, begins, taken, left, unquoted, kind, if_true, if_false,
      Bool.false_eq_true, decide_false, Bool.false_and, Bool.or_self, Option.map_some]

section Signs

theorem longest_sign (op : BinaryOp) {rest : List Char}
    (h : ∀ c ∈ rest.head?, c ∉ ['*', '/', '=', '>']) :
    Mark.longest? (op.symbol :: rest) = some (op.mark, 1) := by
  cases rest with
  | nil => cases op <;> rfl
  | cons c after =>
    have free := h c rfl
    cases op <;> simp_all [Mark.longest?, BinaryOp.symbol, BinaryOp.mark, Mark.longest?.single]

theorem lexeme_sign (op : BinaryOp) {rest : List Char}
    (h : ∀ c ∈ rest.head?, c ∉ ['*', '/', '=', '>']) :
    lexeme? (op.symbol :: rest) = some (.mark op.mark, 1) := by
  have word : Text.beginsWord op.symbol = false := by cases op <;> decide
  have digit : op.symbol.isDigit = false := by cases op <;> decide
  have point : op.symbol ≠ '.' := by cases op <;> decide
  have quote : isQuote op.symbol = false := by cases op <;> decide
  simp [lexeme?, digit, point, quote, word, longest_sign op h]

theorem lexeme_opening (rest : List Char) :
    lexeme? ('(' :: rest) = some (.mark .openParen, 1) := by
  have mark : Mark.longest? ('(' :: rest) = some (.openParen, 1) := by
    cases rest with
    | nil => rfl
    | cons c after => by_cases equal : c = '=' <;> simp [Mark.longest?, Mark.longest?.single, equal]
  simp [lexeme?, mark, isQuote, show Text.beginsWord '(' = false by decide,
    show Char.isDigit '(' = false by decide]

theorem lexeme_closing (rest : List Char) :
    lexeme? (')' :: rest) = some (.mark .closeParen, 1) := by
  have mark : Mark.longest? (')' :: rest) = some (.closeParen, 1) := by
    cases rest with
    | nil => rfl
    | cons c after => by_cases equal : c = '=' <;> simp [Mark.longest?, Mark.longest?.single, equal]
  simp [lexeme?, mark, isQuote, show Text.beginsWord ')' = false by decide,
    show Char.isDigit ')' = false by decide]

end Signs

section Numbers

theorem number_eq_decimalNumber {cs : List Char}
    (h : ∀ mark body, cs = '0' :: mark :: body → mark ∉ ['x', 'X', 'o', 'O', 'b', 'B']) :
    number? cs = decimalNumber? cs := by
  unfold number?
  dsimp only
  split
  · rename_i mark body
    have other := h mark body rfl
    simp only [List.mem_cons, List.not_mem_nil, or_false, not_or] at other
    simp [other]
  · rfl

theorem takeGroups_digits {ds rest : List Char} (digits : ∀ c ∈ ds, c.isDigit)
    (stop : rest.head?.any Char.isDigit = false) (line : ∀ c ∈ rest.head?, c ≠ '_') :
    takeGroups? Char.isDigit (ds ++ rest) = some (ds, rest) := by
  induction ds with
  | nil =>
    cases rest with
    | nil => rfl
    | cons c after =>
      have other : c.isDigit = false := stop
      simp [takeGroups?, other, line c rfl]
  | cons d ds ih =>
    obtain ⟨digit, digits⟩ := List.forall_mem_cons.mp digits
    simp [takeGroups?, digit, ih digits]

theorem fractionPart_stop {rest : List Char} (stops : Stops rest) :
    fractionPart? rest = some ([], rest) := by
  rcases stops.cases with rfl | ⟨c, after, rfl, mark⟩
  · rfl
  · unfold fractionPart?
    split
    · rename_i split
      cases split
      simp at mark
    · rfl

theorem fractionPart_digits {ds rest : List Char} (digits : ∀ c ∈ ds, c.isDigit) (some_ : ds ≠ [])
    (stops : Stops rest) : fractionPart? ('.' :: (ds ++ rest)) = some ('.' :: ds, rest) := by
  have first : (ds ++ rest).head?.any Char.isDigit = true := by
    cases ds with
    | nil => exact absurd rfl some_
    | cons d ds => exact (List.forall_mem_cons.mp digits).1
  have groups := takeGroups_digits digits (stops.any (by decide)) stops.line
  simp only [fractionPart?, first, groups, if_true, Option.map_some]

theorem exponentPart_stop {rest : List Char} (stops : Stops rest) :
    exponentPart? rest = some ([], rest) := by
  rcases stops.cases with rfl | ⟨c, after, rfl, mark⟩
  · rfl
  · have letter : ¬(c = 'e' ∨ c = 'E') := by
      rintro (rfl | rfl) <;> simp at mark
    simp [exponentPart?, letter]

theorem endsNumber_stop {rest : List Char} (stops : Stops rest) : endsNumber rest = true := by
  have word := stops.any (p := Text.continuesWord) (by decide)
  simp [endsNumber, word]

theorem isPlainInteger_whole (l : Literal) (short : l.text.length < longIntegerDigits) :
    isPlainInteger l.whole = true := by
  have length : l.whole.length ≤ l.text.length := by simp [Literal.text]
  have few : l.whole.length ≤ maxIntegerDigits :=
    length.trans (short.le.trans (by decide))
  have same : l.whole.filter (· != '_') = l.whole := by
    refine List.filter_eq_self.mpr fun c hc => ?_
    have digit := l.whole_digits c hc
    have : c ≠ '_' := by
      rintro rfl
      revert digit
      decide
    simpa using this
  rw [isPlainInteger, same]
  rcases l.whole_leading with zero | ⟨-, leading⟩
  · simp [zero]
  · simp [leading, few]

theorem fractionPart_text {l : Literal} (h : l.Displayed) {rest : List Char} (stops : Stops rest) :
    fractionPart? (l.fraction.elim [] ('.' :: ·) ++ rest) =
      some (l.fraction.elim [] ('.' :: ·), rest) := by
  cases fraction : l.fraction with
  | none => exact fractionPart_stop stops
  | some ds =>
    have digits := l.fraction_digits ds fraction
    have nonempty : ds ≠ [] := by
      rintro rfl
      exact h.fraction fraction
    exact fractionPart_digits digits nonempty stops

theorem decimalNumber_text {l : Literal} (h : l.Displayed)
    (short : l.text.length < longIntegerDigits) {rest : List Char} (stops : Stops rest) :
    decimalNumber? (l.text ++ rest) = some (l.kind, l.text) := by
  have split : l.text ++ rest = l.whole ++ (l.fraction.elim [] ('.' :: ·) ++ rest) := by
    simp [Literal.text, h.exponent]
  have text : l.text = l.whole ++ l.fraction.elim [] ('.' :: ·) := by
    simp [Literal.text, h.exponent]
  have first : (l.text ++ rest).head?.any Char.isDigit = true := by
    obtain ⟨d, ds, whole⟩ := List.exists_cons_of_ne_nil l.whole_ne_nil
    have digit : d.isDigit := l.whole_digits d (by simp [whole])
    simp [split, whole, digit]
  have groups : takeGroups? Char.isDigit (l.text ++ rest) =
      some (l.whole, l.fraction.elim [] ('.' :: ·) ++ rest) := by
    rw [split]
    refine takeGroups_digits l.whole_digits ?_ ?_
    · cases l.fraction with
      | none => exact stops.any (by decide)
      | some ds => rfl
    · cases l.fraction with
      | none => exact stops.line
      | some ds => simp
  have imaginary : ∀ c ∈ rest.head?, ¬(c = 'j' ∨ c = 'J') := by
    rintro c hc (rfl | rfl) <;> simpa using stops _ hc
  have integer := isPlainInteger_whole l short
  unfold decimalNumber?
  rw [first, if_pos rfl, groups]
  simp only [Option.bind_eq_bind, Option.bind_some, fractionPart_text h stops,
    exponentPart_stop stops, endsNumber_stop stops]
  cases rest with
  | nil =>
    cases fraction : l.fraction <;> simp [integer, fraction, text, Literal.kind]
  | cons c after =>
    have other := imaginary c rfl
    cases fraction : l.fraction <;> simp [integer, fraction, text, other, Literal.kind]

/-- After a whole part that is zero comes a point or a mark. -/
theorem text_not_radix {l : Literal} (h : l.Displayed) {rest body : List Char} {mark : Char}
    (stops : Stops rest) (text : l.text ++ rest = '0' :: mark :: body) :
    mark ∉ ['x', 'X', 'o', 'O', 'b', 'B'] := by
  have zero : l.whole = ['0'] := by
    rcases l.whole_leading with zero | ⟨nonempty, leading⟩
    · exact zero
    · obtain ⟨d, ds, whole⟩ := List.exists_cons_of_ne_nil nonempty
      simp_all [Literal.text]
  have after : l.fraction.elim [] ('.' :: ·) ++ rest = mark :: body := by
    simpa [Literal.text, h.exponent, zero] using text
  cases fraction : l.fraction with
  | some ds =>
    simp only [fraction, Option.elim, List.cons_append, List.cons.injEq] at after
    simp [← after.1]
  | none =>
    have known := stops mark (by simp_all)
    simp only [List.mem_cons, List.not_mem_nil, or_false] at known ⊢
    rcases known with rfl | rfl | rfl | rfl | rfl | rfl <;> decide

theorem lexeme_number {l : Literal} (h : l.Displayed) (short : l.text.length < longIntegerDigits)
    {rest : List Char} (stops : Stops rest) :
    lexeme? (l.text ++ rest) = some (.number l.kind l.text, l.text.length) := by
  obtain ⟨d, ds, whole⟩ := List.exists_cons_of_ne_nil l.whole_ne_nil
  have digit : d.isDigit := l.whole_digits d (by simp [whole])
  have number : number? (l.text ++ rest) = some (l.kind, l.text) := by
    rw [number_eq_decimalNumber fun _ _ => text_not_radix h stops, decimalNumber_text h short stops]
  have cons : l.text ++ rest = d :: (ds ++ l.fraction.elim [] ('.' :: ·) ++ rest) := by
    simp [Literal.text, h.exponent, whole]
  rw [cons] at number ⊢
  simp only [lexeme?, digit, number, Bool.true_or, if_true, Option.map_some]

end Numbers

end Reckoner.Source
