import Mathlib
import Reckoner.Proofs.Source.Lookahead

/-! Lexemes of a text and of what is shown of it. Up to the first run that is hidden both have the
same lexemes, save for those that the expression language does not hold. -/

namespace Reckoner.Source

/-- The tokens that texts of the language are made of. -/
def expressible : TokenKind → Bool
  | .number _ text => Numeral.isPlain text
  | .newline | .finish => true
  | k => occurs k

/-- Lexemes that no text of the language holds. -/
def Useless (found : Option (TokenKind × Nat)) : Prop :=
  ∀ lexeme ∈ found, expressible lexeme.1 = false

theorem useless_none : Useless none := by
  rintro _ ⟨⟩

theorem useless_string (letters cs : List Char) : Useless (stringLexeme? letters cs) := by
  intro lexeme h
  obtain ⟨form, -, h⟩ := Option.bind_eq_some_iff.mp h
  obtain ⟨body, -, h⟩ := Option.bind_eq_some_iff.mp h
  cases h
  rfl

/-- The characters that a longer mark begins with. -/
def pairs : List (Char × Char) :=
  [('*', '*'), ('/', '/'), ('>', '>'), ('<', '<'), ('<', '>'), ('-', '>'), ('.', '.'), ('<', '='),
    ('>', '='), ('=', '='), ('!', '='), (':', '='), ('+', '='), ('-', '='), ('*', '='), ('/', '='),
    ('%', '='), ('&', '='), ('|', '='), ('^', '='), ('@', '=')]

theorem longest_single {c e : Char} (h : (c, e) ∉ pairs) (rest : List Char) :
    Mark.longest? (c :: e :: rest) = Mark.longest?.single c := by
  simp only [pairs, List.mem_cons, List.not_mem_nil, or_false, not_or, Prod.mk.injEq] at h
  unfold Mark.longest?
  split <;> simp_all

theorem longest_pair {c e : Char} (h : (c, e) ∈ pairs) (rest : List Char) :
    ∀ found ∈ Mark.longest? (c :: e :: rest), expressible (.mark found.1) = false := by
  intro found member
  simp only [pairs, List.mem_cons, List.not_mem_nil, or_false, Prod.mk.injEq] at h
  unfold Mark.longest? at member
  split at member
  case h_17 =>
    have compound : (Mark.other, 2) = found := by simp_all
    rw [← compound]
    rfl
  case h_18 =>
    -- Two points that no third one follows are still read one by one.
    rename_i same
    obtain ⟨rfl, rfl⟩ := List.cons.inj same
    have point : c = '.' := by
      casesm* _ ∨ _, _ ∧ _ <;> simp_all
    subst point
    cases member
    rfl
  case h_19 => cases member
  all_goals
    cases member
    rfl

/-- Whether a character begins a longer mark before a text. -/
def isPaired (c : Char) (rest : List Char) : Bool := rest.head?.any fun d => (c, d) ∈ pairs

/-- Two readings agree, or the language holds neither. -/
def Agree (first second : Option (TokenKind × Nat)) : Prop :=
  first = second ∨ Useless first ∧ Useless second

theorem longest_alone {c : Char} {rest : List Char} (alone : isPaired c rest = false) :
    Mark.longest? (c :: rest) = Mark.longest?.single c := by
  cases rest with
  | nil => simp [Mark.longest?]
  | cons d rest => exact longest_single (by simpa [isPaired] using alone) rest

theorem longest_paired {c : Char} {rest : List Char} (paired : isPaired c rest) :
    Useless ((Mark.longest? (c :: rest)).map fun (mark, length) => (.mark mark, length)) := by
  cases rest with
  | nil => cases paired
  | cons d rest =>
    intro lexeme h
    obtain ⟨found, read, rfl⟩ := Option.map_eq_some_iff.mp h
    exact longest_pair (by simpa [isPaired] using paired) rest found read

theorem longest_agree {c : Char} {x y : List Char} (same : isPaired c x = isPaired c y) :
    Agree ((Mark.longest? (c :: x)).map fun (mark, length) => (.mark mark, length))
      ((Mark.longest? (c :: y)).map fun (mark, length) => (.mark mark, length)) := by
  cases paired : isPaired c x with
  | false => exact .inl (by rw [longest_alone paired, longest_alone (same ▸ paired)])
  | true => exact .inr ⟨longest_paired paired, longest_paired (same ▸ paired)⟩

theorem lexeme_cons (c : Char) (rest : List Char) :
    lexeme? (c :: rest) =
      if c.isDigit || (c = '.' && rest.head?.any Char.isDigit) then
        (number? (c :: rest)).map fun (kind, text) => (.number kind text, text.length)
      else if isQuote c then stringLexeme? [] (c :: rest)
      else if Text.beginsWord c then
        if ((c :: rest).dropWhile Text.continuesWord).head?.any isQuote &&
            (StringForm.ofLetters? ((c :: rest).takeWhile Text.continuesWord)).isSome then
          stringLexeme? ((c :: rest).takeWhile Text.continuesWord)
            ((c :: rest).dropWhile Text.continuesWord)
        else
          (wordKind? ((c :: rest).takeWhile Text.continuesWord)).map fun kind =>
            (kind, ((c :: rest).takeWhile Text.continuesWord).length)
      else (Mark.longest? (c :: rest)).map fun (mark, length) => (.mark mark, length) := rfl

theorem continuesWord_of_beginsWord {c : Char} (h : Text.beginsWord c) : Text.continuesWord c := by
  simp only [Text.beginsWord, Text.continuesWord, Char.isAlphanum, Bool.or_eq_true] at h ⊢
  tauto

/-- The lexeme that begins up to `b` is the same before all texts that make no longer mark. -/
theorem lexeme_agree {b : Char} (free : clings b = false) (front : List Char) {x y : List Char}
    (same : isPaired b x = isPaired b y) :
    Agree (lexeme? (front ++ b :: x)) (lexeme? (front ++ b :: y)) := by
  have word := not_continuesWord_of_not_clings free
  have digit := not_digit_of_not_clings free
  cases front with
  | nil =>
    have point : b ≠ '.' := ne_of_not_clings free (by decide)
    have begins : Text.beginsWord b = false := by
      rw [← Bool.not_eq_true]
      intro begins
      rw [continuesWord_of_beginsWord begins] at word
      cases word
    simp only [List.nil_append, lexeme_cons, digit, point, begins, Bool.false_eq_true, decide_false,
      Bool.false_and, Bool.or_self, if_false]
    split
    · exact .inr ⟨useless_string _ _, useless_string _ _⟩
    · exact longest_agree same
  | cons c front =>
    simp only [List.cons_append, lexeme_cons, any_head_append digit]
    split
    · rcases number_uniform free (c :: front) with ⟨r, hr⟩ | unplain
      · exact .inl (by rw [← List.cons_append, hr, ← List.cons_append, hr])
      · have useless (z : List Char) : Useless ((number? (c :: (front ++ b :: z))).map
            fun (kind, text) => (.number kind text, text.length)) := by
          intro lexeme h
          obtain ⟨number, read, rfl⟩ := Option.map_eq_some_iff.mp h
          exact unplain z number read
        exact .inr ⟨useless x, useless y⟩
    split
    · exact .inr ⟨useless_string _ _, useless_string _ _⟩
    split
    · have taken (z : List Char) : (c :: (front ++ b :: z)).takeWhile Text.continuesWord =
          (c :: front).takeWhile Text.continuesWord := takeWhile_append_stop (c :: front) word
      have left (z : List Char) : (c :: (front ++ b :: z)).dropWhile Text.continuesWord =
          (c :: front).dropWhile Text.continuesWord ++ b :: z :=
        dropWhile_append_stop (c :: front) word
      have head (ds z : List Char) : (ds ++ b :: z).head? = (ds ++ [b]).head? := by
        cases ds <;> rfl
      simp only [taken, left, head]
      split
      · exact .inr ⟨useless_string _ _, useless_string _ _⟩
      · exact .inl rfl
    · refine longest_agree ?_
      cases front <;> rfl

end Reckoner.Source
