import Mathlib
import Reckoner.Proofs.Source.Agreement

/-! The characters that lexemes take. A number of the expression language takes the characters it
is written with and no digit comes after it, a name takes a word, and a mark takes one character;
an integer of any length takes its digits. -/

namespace Reckoner.Source

section Parts

theorem takeGroups_split {p : Char → Bool} {cs taken left : List Char}
    (h : takeGroups? p cs = some (taken, left)) : taken ++ left = cs := by
  induction cs generalizing taken with
  | nil =>
    cases h
    rfl
  | cons c cs ih =>
    unfold takeGroups? at h
    split at h
    · obtain ⟨⟨more, rest⟩, groups, same⟩ := Option.map_eq_some_iff.mp h
      cases same
      rw [List.cons_append, ih groups]
    split at h
    · split at h
      · split at h
        · obtain ⟨⟨more, rest⟩, groups, same⟩ := Option.map_eq_some_iff.mp h
          cases same
          rw [List.cons_append, ih groups]
        · cases h
      · cases h
    · cases h
      rfl

theorem wholePart_split {cs taken left : List Char} (h : wholePart? cs = some (taken, left)) :
    taken ++ left = cs := by
  unfold wholePart? at h
  split at h
  · exact takeGroups_split h
  · cases h
    rfl

theorem fractionPart_split {cs taken left : List Char} (h : fractionPart? cs = some (taken, left)) :
    taken ++ left = cs := by
  unfold fractionPart? at h
  split at h
  · split at h
    · obtain ⟨⟨more, rest⟩, groups, same⟩ := Option.map_eq_some_iff.mp h
      cases same
      rw [List.cons_append, takeGroups_split groups]
    · cases h
      rfl
  · cases h
    rfl

theorem exponentDigits_split {letter : Char} {sign whole body taken left : List Char}
    (same : whole = letter :: sign ++ body)
    (h : exponentDigits? letter sign whole body = some (taken, left)) : taken ++ left = whole := by
  unfold exponentDigits? at h
  split at h
  · obtain ⟨⟨more, rest⟩, groups, split⟩ := Option.map_eq_some_iff.mp h
    cases split
    rw [same, List.append_assoc, takeGroups_split groups]
  split at h
  · cases h
    rfl
  · cases h

theorem exponentPart_split {cs taken left : List Char} (h : exponentPart? cs = some (taken, left)) :
    taken ++ left = cs := by
  match cs with
  | [] =>
    cases h
    rfl
  | e :: rest =>
    by_cases letter : e = 'e' ∨ e = 'E'
    · match rest with
      | [] => rcases letter with rfl | rfl <;> cases h
      | s :: more =>
        by_cases sign : s = '+' ∨ s = '-'
        · rw [exponentPart_sign letter sign] at h
          exact exponentDigits_split rfl h
        · rw [exponentPart_unsigned letter sign] at h
          exact exponentDigits_split rfl h
    · simp only [exponentPart?, letter, if_false, Option.some.injEq, Prod.mk.injEq] at h
      rw [← h.1, ← h.2, List.nil_append]

theorem not_digit_of_connective {cs : List Char} (h : beginsConnective cs) :
    cs.head?.any Char.isDigit = false := by
  unfold beginsConnective at h
  split at h <;> first | rfl | cases h

theorem not_digit_of_not_word {o : Option Char} (h : o.any Text.continuesWord = false) :
    o.any Char.isDigit = false := by
  cases o with
  | none => rfl
  | some c =>
    rw [Option.any_some, ← Bool.not_eq_true]
    intro digit
    rw [Option.any_some, continuesWord_of_digit digit] at h
    cases h

theorem not_digit_of_endsNumber {cs : List Char} (h : endsNumber cs) :
    cs.head?.any Char.isDigit = false := by
  simp only [endsNumber, Bool.or_eq_true, Bool.not_eq_true'] at h
  rcases h with connective | stop
  · exact not_digit_of_connective connective
  · exact not_digit_of_not_word stop

end Parts

section Numbers

theorem realNumber_split {whole fraction exponent rest text : List Char} {kind : NumberKind}
    (h : realNumber? whole fraction exponent rest = some (kind, text)) :
    text = whole ++ fraction ++ exponent ∧ rest.head?.any Char.isDigit = false := by
  unfold realNumber? at h
  cases ends : endsNumber rest with
  | false => simp [ends] at h
  | true =>
    refine ⟨?_, not_digit_of_endsNumber ends⟩
    rw [ends, if_neg (by decide)] at h
    split at h
    · cases h
      rfl
    split at h
    · cases h
      rfl
    · cases h

theorem numberEnd_plain {whole fraction exponent rest text : List Char} {kind : NumberKind}
    (h : numberEnd? whole fraction exponent rest = some (kind, text))
    (plain : Numeral.isPlain text) :
    text = whole ++ fraction ++ exponent ∧ rest.head?.any Char.isDigit = false := by
  unfold numberEnd? at h
  split at h
  · split at h
    · rename_i c after letter
      split at h
      · cases h
        -- The mark of an imaginary number is in no number of the language.
        have foreign : c.isDigit = false ∧ c ≠ '.' ∧ c ≠ 'e' := by
          rcases letter with rfl | rfl <;> decide
        rw [isPlain_of_foreign (c := c) (by simp) foreign] at plain
        cases plain
      · cases h
    · exact realNumber_split h
  · exact realNumber_split h

theorem decimalNumber_plain {cs text : List Char} {kind : NumberKind}
    (h : decimalNumber? cs = some (kind, text)) (plain : Numeral.isPlain text) :
    ∃ rest, cs = text ++ rest ∧ rest.head?.any Char.isDigit = false := by
  rw [decimalNumber_eq] at h
  obtain ⟨⟨whole, afterWhole⟩, hw, h⟩ := Option.bind_eq_some_iff.mp h
  obtain ⟨⟨fraction, afterFraction⟩, hf, h⟩ := Option.bind_eq_some_iff.mp h
  obtain ⟨⟨exponent, rest⟩, he, h⟩ := Option.bind_eq_some_iff.mp h
  obtain ⟨rfl, stop⟩ := numberEnd_plain h plain
  refine ⟨rest, ?_, stop⟩
  rw [← wholePart_split hw, ← fractionPart_split hf, ← exponentPart_split he]
  simp

theorem number_plain {cs text : List Char} {kind : NumberKind}
    (h : number? cs = some (kind, text)) (plain : Numeral.isPlain text) :
    ∃ rest, cs = text ++ rest ∧ rest.head?.any Char.isDigit = false := by
  match cs with
  | [] => exact decimalNumber_plain h plain
  | [c] => exact decimalNumber_plain (by simpa [number?] using h) plain
  | c :: d :: body =>
    rcases number_cases c d with ⟨rfl, p, radix⟩ | decimal
    · rw [radix.number] at h
      obtain ⟨digits, -, same⟩ := Option.map_eq_some_iff.mp h
      cases same
      rw [isPlain_of_foreign (c := d) (by simp) radix.mark_foreign] at plain
      cases plain
    · exact decimalNumber_plain (decimal body ▸ h) plain

end Numbers

/-- Where a lexeme of the expression language lies in a text. -/
inductive Extent (cs : List Char) : TokenKind → Nat → Prop where
  | mark {c : Char} {rest : List Char} {m : Mark} (split : cs = c :: rest)
    (free : clings c = false) : Extent cs (.mark m) 1
  | name {c : Char} {word rest : List Char} {id : String} (split : cs = c :: word ++ rest)
    (start : c.isDigit = false) (clinging : ∀ d ∈ c :: word, clings d)
    (stop : rest.head?.any Char.isDigit = false) : Extent cs (.name id) (c :: word).length
  | number {kind : NumberKind} {text rest : List Char} (split : cs = text ++ rest)
    (plain : Numeral.isPlain text) (stop : rest.head?.any Char.isDigit = false) :
    Extent cs (.number kind text) text.length

theorem longest_extent {c : Char} {rest : List Char} {m : Mark} {n : Nat}
    (h : Mark.longest? (c :: rest) = some (m, n)) (occurring : expressible (.mark m)) :
    n = 1 ∧ c ≠ '.' := by
  cases paired : isPaired c rest with
  | true =>
    rw [longest_paired paired (.mark m, n) (by simp [h])] at occurring
    cases occurring
  | false =>
    rw [longest_alone paired] at h
    constructor
    · unfold Mark.longest?.single at h
      split at h <;> cases h <;> rfl
    · rintro rfl
      cases h
      cases occurring

theorem wordKind_expressible {word : List Char} {k : TokenKind} (h : wordKind? word = some k)
    (occurring : expressible k) : ∃ id, k = .name id := by
  unfold wordKind? at h
  split at h
  · cases h
    cases occurring
  split at h
  · cases h
    exact ⟨_, rfl⟩
  · cases h

theorem lexeme_extent {cs : List Char} {k : TokenKind} {n : Nat} (h : lexeme? cs = some (k, n))
    (occurring : expressible k) : Extent cs k n := by
  cases cs with
  | nil => cases h
  | cons c rest =>
    have string (letters cs : List Char) : stringLexeme? letters cs ≠ some (k, n) := by
      intro read
      rw [useless_string letters cs _ read] at occurring
      cases occurring
    rw [lexeme_cons] at h
    split at h
    · obtain ⟨⟨kind, text⟩, read, same⟩ := Option.map_eq_some_iff.mp h
      cases same
      obtain ⟨after, split, stop⟩ := number_plain read occurring
      exact .number split occurring stop
    split at h
    · exact absurd h (string _ _)
    split at h
    · rename_i number _ begins
      split at h
      · exact absurd h (string _ _)
      · obtain ⟨kind, read, same⟩ := Option.map_eq_some_iff.mp h
        cases same
        obtain ⟨id, rfl⟩ := wordKind_expressible read occurring
        have split := List.takeWhile_append_dropWhile (p := Text.continuesWord) (l := c :: rest)
        have stop := not_digit_of_not_word (head_dropWhile Text.continuesWord (c :: rest))
        have word : ∀ d ∈ (c :: rest).takeWhile Text.continuesWord, clings d := by
          intro d hd
          simp [clings, List.mem_takeWhile_imp hd]
        rw [List.takeWhile_cons_of_pos (continuesWord_of_beginsWord begins)] at split word ⊢
        refine .name split.symm ?_ word stop
        simp only [Bool.or_eq_true, not_or] at number
        exact eq_false_of_ne_true number.1
    · obtain ⟨⟨m, length⟩, read, same⟩ := Option.map_eq_some_iff.mp h
      cases same
      obtain ⟨rfl, point⟩ := longest_extent read occurring
      rename_i number _ begins
      refine .mark rfl ?_
      simp only [Bool.or_eq_true, not_or, Bool.not_eq_true] at number
      have word : Text.continuesWord c = false := by
        simp only [Text.beginsWord, Bool.or_eq_true, not_or, Bool.not_eq_true] at begins
        simp [Text.continuesWord, Char.isAlphanum, begins, number.1]
      simp [clings, word, point]

section Integers

/-- A decimal integer of any length at the start of a text. -/
structure IntegerAt (cs whole rest : List Char) : Prop where
  groups : takeGroups? Char.isDigit cs = some (whole, rest)
  fraction : fractionPart? rest = some ([], rest)
  exponent : exponentPart? rest = some ([], rest)
  ends : endsNumber rest
  first : whole.head?.any Char.isDigit
  leading : whole.head? ≠ some '0'

variable {cs whole rest : List Char}

namespace IntegerAt

theorem split (h : IntegerAt cs whole rest) : whole ++ rest = cs := takeGroups_split h.groups

theorem exists_cons (h : IntegerAt cs whole rest) :
    ∃ d ds, whole = d :: ds ∧ d.isDigit ∧ d ≠ '0' := by
  have first := h.first
  have leading := h.leading
  cases whole with
  | nil => cases first
  | cons d ds => exact ⟨d, ds, rfl, first, by simpa using leading⟩

theorem number (h : IntegerAt cs whole rest) :
    number? cs = if isPlainInteger whole then some (.integer, whole) else none := by
  obtain ⟨d, ds, rfl, digit, leading⟩ := h.exists_cons
  have first : cs.head?.any Char.isDigit := by
    rw [← h.split]
    exact digit
  have decimal : number? cs = decimalNumber? cs := number_eq_decimalNumber fun mark body same => by
    rw [← h.split] at same
    exact absurd (List.cons.inj same).1 leading
  have unmarked : numberEnd? (d :: ds) [] [] rest = realNumber? (d :: ds) [] [] rest := by
    unfold numberEnd?
    split
    · refine if_neg ?_
      have ends := h.ends
      rintro (rfl | rfl) <;> cases ends
    · rfl
  rw [decimal, decimalNumber_eq, wholePart?, if_pos first, h.groups]
  simp only [Option.bind_some, h.fraction, h.exponent, unmarked, realNumber?, h.ends]
  simp

theorem lexeme (h : IntegerAt cs whole rest) :
    lexeme? cs = (number? cs).map fun (kind, text) => (.number kind text, text.length) := by
  obtain ⟨d, ds, rfl, digit, -⟩ := h.exists_cons
  rw [← h.split, List.cons_append, lexeme_cons, digit, Bool.true_or, if_pos rfl]

theorem plainInteger (h : IntegerAt cs whole rest) : plainInteger? cs = some whole := by
  obtain ⟨d, ds, rfl, -, leading⟩ := h.exists_cons
  simp [plainInteger?, h.groups, h.fraction, h.exponent, h.ends, leading]

theorem plainLexeme (h : IntegerAt cs whole rest) :
    plainLexeme? cs = some (.number .integer whole, whole.length) := by
  have first : cs.head?.any Char.isDigit := by
    obtain ⟨d, ds, rfl, digit, -⟩ := h.exists_cons
    rw [← h.split]
    exact digit
  rw [plainLexeme?, h.lexeme, h.number, first, h.plainInteger]
  split <;> rename_i read <;> split at read <;> simp_all

end IntegerAt

theorem exists_integerAt (first : cs.head?.any Char.isDigit) (h : plainInteger? cs = some whole) :
    ∃ rest, IntegerAt cs whole rest := by
  unfold plainInteger? at h
  obtain ⟨⟨digits, rest⟩, groups, h⟩ := Option.bind_eq_some_iff.mp h
  obtain ⟨⟨fraction, afterFraction⟩, hf, h⟩ := Option.bind_eq_some_iff.mp h
  obtain ⟨⟨exponent, afterExponent⟩, he, integer⟩ := Option.bind_eq_some_iff.mp h
  dsimp only at integer
  split at integer
  · rename_i fits
    simp only [Bool.and_eq_true, List.isEmpty_iff] at fits
    obtain ⟨⟨⟨rfl, rfl⟩, ends⟩, leading⟩ := fits
    cases integer
    obtain rfl := fractionPart_split hf
    obtain rfl := exponentPart_split he
    have split := takeGroups_split groups
    cases whole with
    | nil => cases leading
    | cons d ds =>
      rw [← split] at first
      exact ⟨_, groups, hf, he, ends, first, by simpa using leading⟩
  · cases integer

/-- The lexemes without a limit are those of the scanner, and integers that it refuses. -/
theorem plainLexeme_cases (cs : List Char) :
    plainLexeme? cs = lexeme? cs ∨ lexeme? cs = none ∧ ∃ whole rest, IntegerAt cs whole rest := by
  cases read : lexeme? cs with
  | some found => exact .inl (by rw [plainLexeme?, read])
  | none =>
    cases first : cs.head?.any Char.isDigit with
    | false => exact .inl (by rw [plainLexeme?, read, first]; rfl)
    | true =>
      cases integer : plainInteger? cs with
      | none => exact .inl (by rw [plainLexeme?, read, first, integer]; rfl)
      | some whole => exact .inr ⟨rfl, whole, exists_integerAt first integer⟩

/-- A run of digits that nothing clings to is an integer unless it begins with a zero. -/
theorem integerAt_run {d : Char} {ds after : List Char} (digits : ∀ c ∈ d :: ds, c.isDigit)
    (leading : d ≠ '0') (free : after.head?.any clings = false) :
    IntegerAt (d :: ds ++ after) (d :: ds) after := by
  have word : after.head?.any Text.continuesWord = false := by
    cases head : after.head? with
    | none => rfl
    | some c =>
      rw [head, Option.any_some] at free
      exact not_continuesWord_of_not_clings free
  have other (c : Char) (h : clings c) : ∀ b ∈ after.head?, b ≠ c := by
    intro b hb
    rw [hb, Option.any_some] at free
    exact ne_of_not_clings free h
  have point := other '.' (by decide)
  have small := other 'e' (by decide)
  have capital := other 'E' (by decide)
  refine ⟨takeGroups_digits digits (not_digit_of_not_word word) (other '_' (by decide)), ?_, ?_,
    by simp [endsNumber, word], digits d List.mem_cons_self, by simpa using leading⟩
  · unfold fractionPart?
    split
    · exact absurd rfl (point '.' rfl)
    · rfl
  · cases after with
    | nil => rfl
    | cons c after => simp [exponentPart?, small c rfl, capital c rfl]

theorem isPlain_zeros {d : Char} {ds : List Char} (digit : d.isDigit) :
    Numeral.isPlain ('0' :: d :: ds) = false := by
  simp [Numeral.isPlain, digit]

/-- No number of the language has a zero before its other digits. -/
theorem useless_zeros {d : Char} {ds : List Char} (digit : d.isDigit) :
    Useless (plainLexeme? ('0' :: d :: ds)) := by
  rintro ⟨k, n⟩ read
  by_contra occurring
  have occurring := Bool.of_not_eq_false occurring
  rcases plainLexeme_cases ('0' :: d :: ds) with same | ⟨-, whole, rest, integer⟩
  · rw [same] at read
    cases lexeme_extent read occurring with
    | mark split free =>
      obtain ⟨rfl, -⟩ := List.cons.inj split
      cases free
    | name split start =>
      obtain ⟨rfl, -⟩ := List.cons.inj split
      cases start
    | @number kind text rest split plain stop =>
      -- The plain number would be the zero alone, and a digit comes after it.
      match text with
      | [] => cases plain
      | [a] =>
        obtain ⟨-, rfl⟩ := List.cons.inj split
        rw [List.head?_cons, Option.any_some, digit] at stop
        cases stop
      | a :: b :: text =>
        simp only [List.cons_append, List.cons.injEq] at split
        obtain ⟨rfl, rfl, -⟩ := split
        rw [isPlain_zeros digit] at plain
        cases plain
  · obtain ⟨a, more, rfl, -, leading⟩ := integer.exists_cons
    exact leading (List.cons.inj integer.split).1

end Integers

end Reckoner.Source
