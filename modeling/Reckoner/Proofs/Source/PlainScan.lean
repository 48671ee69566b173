import Mathlib
import Reckoner.Source.Scan
import Reckoner.Text.Blank

/-! Scanning without a limit on integers. With other lexemes the scanner takes texts as the language
defines them: an integer has as many digits as are written, and nothing is hidden beforehand. -/

namespace Reckoner.Source

/-- A decimal integer of any length: digits, maybe in groups, that do not begin with a zero. -/
def plainInteger? (cs : List Char) : Option (List Char) := do
  let (whole, rest) ← takeGroups? Char.isDigit cs
  let (fraction, rest) ← fractionPart? rest
  let (exponent, rest) ← exponentPart? rest
  if fraction.isEmpty && exponent.isEmpty && endsNumber rest && whole.head?.any (· != '0') then
    some whole
  else none

/-- The lexemes of the scanner, and integers that are too long for it. -/
def plainLexeme? (cs : List Char) : Option (TokenKind × Nat) :=
  match lexeme? cs with
  | some found => some found
  | none =>
    if cs.head?.any Char.isDigit then
      (plainInteger? cs).map fun text => (.number .integer text, text.length)
    else none

/-- The tokens of a text as it stands. -/
def plainScan (cs : List Char) : List Token := scanWith plainLexeme? cs

/-- The kinds of the tokens of a text without the blanks around it, integers of any length among
them. -/
def plainTokensOf (source : String) : List TokenKind :=
  (plainScan (Text.trimBy Text.isBlank source.toList)).map Token.kind

theorem inlineBlank_cases {c : Char} (h : isInlineBlank c) : c = ' ' ∨ c = '\t' ∨ c = '\x0c' := by
  simpa [isInlineBlank, or_assoc] using h

section Line

variable {lexeme : List Char → Option (TokenKind × Nat)} {fuel : Nat} {state : ScanState}

theorem scanBy_nil (within : (state.lineBegins && state.brackets.isEmpty) = false) :
    scanBy lexeme (fuel + 1) state [] = [lastToken state] := by
  rw [scanBy, within]
  rfl

variable {c : Char} {rest : List Char}

/-- A comment is all of a line. -/
theorem comment_line {cs : List Char} (line : '\n' ∉ cs) :
    (cs.takeWhile fun d => decide (d ≠ '\n')) = cs ∧ (cs.dropWhile fun d => decide (d ≠ '\n')) = [] := by
  have free : ∀ d ∈ cs, d ≠ '\n' := by
    rintro d member rfl
    exact line member
  exact ⟨List.takeWhile_eq_self_iff.mpr (by simpa using free),
    List.dropWhile_eq_nil_iff.mpr (by simpa using free)⟩

/-- One step within a line. -/
theorem scanBy_cons (within : (state.lineBegins && state.brackets.isEmpty) = false)
    (line : '\n' ∉ c :: rest) :
    scanBy lexeme (fuel + 1) state (c :: rest) =
      if isInlineBlank c then scanBy lexeme fuel { state with position := state.position.step c } rest
      else if c = '#' then
        scanBy lexeme fuel { state with position := state.position.advance (c :: rest) } []
      else if c = '\\' then [⟨.fault .malformed, state.position⟩]
      else scanLexeme lexeme (scanBy lexeme fuel) state c rest := by
  have newline : c ≠ '\n' := by
    rintro rfl
    simp at line
  obtain ⟨all, none⟩ := comment_line line
  rw [scanBy, within]
  · simp only [Bool.false_eq_true, if_false, newline, all, none]
  · rintro d more rfl
    intro same
    simp [same] at line

/-- A character that no step of the scanner passes over begins a token. -/
theorem scanBy_token (within : (state.lineBegins && state.brackets.isEmpty) = false)
    (line : '\n' ∉ c :: rest) (blank : isInlineBlank c = false) (comment : c ≠ '#')
    (join : c ≠ '\\') :
    scanBy lexeme (fuel + 1) state (c :: rest) =
      scanLexeme lexeme (scanBy lexeme fuel) state c rest := by
  rw [scanBy_cons within line, blank, if_neg Bool.false_ne_true, if_neg comment, if_neg join]

/-- A line that begins with no blank has no indentation. -/
theorem scanBy_begin {position : Position} (blank : Text.isBlank c = false) (comment : c ≠ '#')
    (line : '\n' ∉ c :: rest) :
    scanBy lexeme (fuel + 1) ⟨position, [], true⟩ (c :: rest) =
      scanBy lexeme fuel ⟨position, [], false⟩ (c :: rest) := by
  have plain : c ≠ ' ' ∧ c ≠ '\t' ∧ c ≠ '\x0c' ∧ c ≠ '\n' := by
    refine ⟨?_, ?_, ?_, ?_⟩ <;> rintro rfl <;> simp [Text.isBlank, Text.isWhiteSpace] at blank
  have width : indentation 0 0 [] (c :: rest) = (0, [], c :: rest) := by
    unfold indentation
    split <;> simp_all
  have unjoined : ∀ d more, c = '\\' → rest = '\n' :: d :: more → False := by
    rintro d more rfl rfl
    simp at line
  rw [scanBy]
  · simp only [List.isEmpty_nil, Bool.and_self, if_true, width, Position.advance, List.foldl_nil]
    split
    · rename_i split
      exact absurd (List.cons.inj split).1 plain.2.2.2
    · rename_i split
      cases split
      simp only [comment, if_false, ne_eq, not_true_eq_false]
    · rename_i split
      cases split
  · exact unjoined

theorem scanBy_comment {position : Position} (line : '\n' ∉ '#' :: rest) :
    scanBy lexeme (fuel + 1) ⟨position, [], true⟩ ('#' :: rest) =
      [⟨.finish, position.advance ('#' :: rest)⟩] := by
  obtain ⟨all, none⟩ := comment_line line
  have width : indentation 0 0 [] ('#' :: rest) = (0, [], '#' :: rest) := rfl
  rw [scanBy]
  · simp only [List.isEmpty_nil, Bool.and_self, if_true, width, all, none]
    rfl
  · intro _ _ same
    cases same

end Line

theorem unifyLineEnds_eq {cs : List Char} (h : '\r' ∉ cs) : unifyLineEnds cs = cs := by
  induction cs with
  | nil => rfl
  | cons c cs ih =>
    simp only [List.mem_cons, not_or] at h
    unfold unifyLineEnds
    split <;> simp_all

end Reckoner.Source
