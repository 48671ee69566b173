import Mathlib
import Reckoner.Proofs.Source.PlainScan
import Reckoner.Proofs.Source.Veil

/-! How far the scanner looks. Before a character that clings to no number, what is found does not
depend on the text after that character, save for an exponent that ends in its sign there; the
number around such an exponent is none of the expression language whatever comes. -/

namespace Reckoner.Source

theorem prefix_append_cons_iff {word front x : List Char} {b : Char} (absent : b ∉ word) :
    word <+: front ++ b :: x ↔ word <+: front := by
  induction word generalizing front with
  | nil => simp
  | cons a word ih =>
    simp only [List.mem_cons, not_or] at absent
    cases front with
    | nil => simp [Ne.symm absent.1]
    | cons c front => rw [List.cons_append, List.cons_prefix_cons, List.cons_prefix_cons, ih absent.2]

/-- The words that end a number. -/
def connectives : List (List Char) :=
  [['a', 'n', 'd'], ['e', 'l', 's', 'e'], ['f', 'o', 'r'], ['i', 'f'], ['i', 'n'], ['i', 's'],
    ['o', 'r'], ['n', 'o', 't']]

theorem connectives_word : ∀ word ∈ connectives, ∀ c ∈ word, Text.continuesWord c := by
  have all : connectives.all (List.all · Text.continuesWord) = true := by decide +kernel
  simpa only [List.all_eq_true] using all

theorem beginsConnective_iff {cs : List Char} :
    beginsConnective cs ↔ ∃ word ∈ connectives, word <+: cs := by
  constructor
  · intro h
    unfold beginsConnective at h
    split at h
    case h_4 c rest =>
      have letter : c = 'f' ∨ c = 'n' ∨ c = 's' := by simpa [or_assoc] using h
      rcases letter with rfl | rfl | rfl <;> simp [connectives, List.cons_prefix_cons]
    all_goals simp_all [connectives, List.cons_prefix_cons]
  · rintro ⟨word, member, rest, rfl⟩
    simp only [connectives, List.mem_cons, List.not_mem_nil, or_false] at member
    rcases member with rfl | rfl | rfl | rfl | rfl | rfl | rfl | rfl <;> rfl

/-- What is read up to the character `b` at the latest, the same before any text. -/
def Uniform (b : Char) (read : List Char → Option (List Char × List Char)) (front : List Char) :
    Prop :=
  ∃ r : Option (List Char × List Char), ∀ x,
    read (front ++ b :: x) = r.map fun part => (part.1, part.2 ++ b :: x)

section Parts

variable {b : Char} (free : clings b = false)
include free

theorem ne_of_not_clings {c : Char} (h : clings c) : b ≠ c := by
  rintro rfl
  rw [free] at h
  cases h

theorem not_continuesWord_of_not_clings : Text.continuesWord b = false := by
  rw [clings, Bool.or_eq_false_iff] at free
  exact free.1

theorem not_digit_of_not_clings : b.isDigit = false := by
  rw [← Bool.not_eq_true]
  intro digit
  rw [clings_of_digit digit] at free
  cases free

omit free in
theorem any_head_append {p : Char → Bool} (hb : p b = false) (front x : List Char) :
    (front ++ b :: x).head?.any p = front.head?.any p := by
  cases front with
  | nil => exact hb
  | cons c front => rfl

theorem beginsConnective_append (front x : List Char) :
    beginsConnective (front ++ b :: x) = beginsConnective front := by
  rw [Bool.eq_iff_iff, beginsConnective_iff, beginsConnective_iff]
  refine exists_congr fun word => and_congr_right fun member => prefix_append_cons_iff ?_
  intro inside
  have letter := connectives_word word member b inside
  rw [not_continuesWord_of_not_clings free] at letter
  cases letter

theorem endsNumber_append (front x : List Char) :
    endsNumber (front ++ b :: x) = endsNumber front := by
  rw [endsNumber, endsNumber, beginsConnective_append free,
    any_head_append (not_continuesWord_of_not_clings free)]

theorem takeGroups_uniform {p : Char → Bool} (hb : p b = false) (front : List Char) :
    Uniform b (takeGroups? p) front := by
  have low : b ≠ '_' := ne_of_not_clings free (by decide)
  induction front with
  | nil => exact ⟨some ([], []), fun x => by simp [takeGroups?, hb, low]⟩
  | cons c front ih =>
    obtain ⟨r, hr⟩ := ih
    by_cases digit : p c
    · refine ⟨r.map fun part => (c :: part.1, part.2), fun x => ?_⟩
      rw [List.cons_append, takeGroups?.eq_def]
      simp only [digit, if_true, hr]
      cases r <;> rfl
    by_cases line : c = '_'
    · subst line
      cases front with
      | nil =>
        refine ⟨none, fun x => ?_⟩
        simp [takeGroups?, digit, hb]
      | cons d front =>
        by_cases next : p d
        · refine ⟨r.map fun part => ('_' :: part.1, part.2), fun x => ?_⟩
          have rest := hr x
          simp only [List.cons_append] at rest ⊢
          rw [takeGroups?.eq_def]
          simp only [digit, next, rest, if_true, if_false, Bool.false_eq_true]
          cases r <;> rfl
        · refine ⟨none, fun x => ?_⟩
          simp [takeGroups?, digit, next]
    · refine ⟨some ([], c :: front), fun x => ?_⟩
      simp [takeGroups?, digit, line]

/-- The whole part of a decimal number, which may be missing before a point. -/
def wholePart? (cs : List Char) : Option (List Char × List Char) :=
  if cs.head?.any Char.isDigit then takeGroups? Char.isDigit cs else some ([], cs)

theorem wholePart_uniform (front : List Char) : Uniform b wholePart? front := by
  have digit := not_digit_of_not_clings free
  obtain ⟨r, hr⟩ := takeGroups_uniform free digit front
  cases first : front.head?.any Char.isDigit with
  | false =>
    refine ⟨some ([], front), fun x => ?_⟩
    rw [wholePart?, any_head_append digit, first]
    rfl
  | true =>
    refine ⟨r, fun x => ?_⟩
    rw [wholePart?, any_head_append digit, first, if_pos rfl, hr]

theorem fractionPart_uniform (front : List Char) : Uniform b fractionPart? front := by
  have point : b ≠ '.' := ne_of_not_clings free (by decide)
  have digit := not_digit_of_not_clings free
  cases front with
  | nil =>
    refine ⟨some ([], []), fun x => ?_⟩
    unfold fractionPart?
    split <;> simp_all
  | cons c front =>
    by_cases start : c = '.'
    · subst start
      obtain ⟨r, hr⟩ := takeGroups_uniform free digit front
      cases first : front.head?.any Char.isDigit with
      | false =>
        refine ⟨some (['.'], front), fun x => ?_⟩
        rw [List.cons_append, fractionPart?, any_head_append digit, first]
        rfl
      | true =>
        refine ⟨r.map fun part => ('.' :: part.1, part.2), fun x => ?_⟩
        rw [List.cons_append, fractionPart?, any_head_append digit, first, if_pos rfl, hr]
        cases r <;> rfl
    · refine ⟨some ([], c :: front), fun x => ?_⟩
      unfold fractionPart?
      split <;> simp_all

/-- An exponent with a sign. -/
def Signed (part : List Char × List Char) : Prop := '+' ∈ part.1 ∨ '-' ∈ part.1

/-- The exponent after its letter and maybe a sign. -/
def exponentDigits? (letter : Char) (sign whole body : List Char) :
    Option (List Char × List Char) :=
  if body.head?.any Char.isDigit then
    (takeGroups? Char.isDigit body).map fun (digits, left) => (letter :: sign ++ digits, left)
  else if sign.isEmpty && beginsConnective whole then some ([], whole)
  else none

omit free in
theorem exponentPart_sign {e s : Char} (letter : e = 'e' ∨ e = 'E') (sign : s = '+' ∨ s = '-')
    (more : List Char) :
    exponentPart? (e :: s :: more) = exponentDigits? e [s] (e :: s :: more) more := by
  rcases sign with rfl | rfl <;> simp only [exponentPart?, letter, if_true] <;> rfl

omit free in
theorem exponentPart_unsigned {e s : Char} (letter : e = 'e' ∨ e = 'E') (sign : ¬(s = '+' ∨ s = '-'))
    (more : List Char) :
    exponentPart? (e :: s :: more) = exponentDigits? e [] (e :: s :: more) (s :: more) := by
  rw [not_or] at sign
  simp only [exponentPart?, letter, if_true]
  split
  · rename_i plus
    exact absurd (List.cons.inj plus).1 sign.1
  · rename_i minus
    exact absurd (List.cons.inj minus).1 sign.2
  · rfl

theorem exponentDigits_uniform (letter : Char) (sign whole front : List Char) :
    ∃ r : Option (List Char × List Char), ∀ x,
      exponentDigits? letter sign (whole ++ b :: x) (front ++ b :: x) =
        r.map fun part => (part.1, part.2 ++ b :: x) := by
  have digit := not_digit_of_not_clings free
  obtain ⟨r, hr⟩ := takeGroups_uniform free digit front
  unfold exponentDigits?
  simp only [any_head_append digit, beginsConnective_append free, hr]
  split
  · exact ⟨r.map fun part => (letter :: sign ++ part.1, part.2), fun x => by cases r <;> rfl⟩
  split
  · exact ⟨some ([], whole), fun x => rfl⟩
  · exact ⟨none, fun x => rfl⟩

omit free in
theorem exponentDigits_signed {letter s : Char} {whole body : List Char} (sign : s = '+' ∨ s = '-') :
    ∀ part ∈ exponentDigits? letter [s] whole body, Signed part := by
  intro part h
  unfold exponentDigits? at h
  split at h
  · obtain ⟨groups, -, rfl⟩ := Option.map_eq_some_iff.mp h
    rcases sign with rfl | rfl
    · exact .inl (by simp)
    · exact .inr (by simp)
  · simp at h

theorem exponentPart_uniform (front : List Char) :
    Uniform b exponentPart? front ∨ ∀ x, ∀ part ∈ exponentPart? (front ++ b :: x), Signed part := by
  cases front with
  | nil =>
    have letter : ¬(b = 'e' ∨ b = 'E') := not_or.mpr
      ⟨ne_of_not_clings free (by decide), ne_of_not_clings free (by decide)⟩
    refine .inl ⟨some ([], []), fun x => ?_⟩
    simp [exponentPart?, letter]
  | cons e front =>
    by_cases letter : e = 'e' ∨ e = 'E'
    · cases front with
      | nil =>
        by_cases sign : b = '+' ∨ b = '-'
        · refine .inr fun x => ?_
          rw [List.cons_append, List.nil_append, exponentPart_sign letter sign]
          exact exponentDigits_signed sign
        · obtain ⟨r, hr⟩ := exponentDigits_uniform free e [] [e] []
          exact .inl ⟨r, fun x => (exponentPart_unsigned letter sign x).trans (hr x)⟩
      | cons s front =>
        by_cases sign : s = '+' ∨ s = '-'
        · refine .inr fun x => ?_
          rw [List.cons_append, List.cons_append, exponentPart_sign letter sign]
          exact exponentDigits_signed sign
        · obtain ⟨r, hr⟩ := exponentDigits_uniform free e [] (e :: s :: front) (s :: front)
          exact .inl ⟨r, fun x => (exponentPart_unsigned letter sign _).trans (hr x)⟩
    · refine .inl ⟨some ([], e :: front), fun x => ?_⟩
      simp [exponentPart?, letter]

/-- A number without the mark of an imaginary one, once its parts are read. -/
def realNumber? (whole fraction exponent rest : List Char) : Option (NumberKind × List Char) :=
  if !endsNumber rest then none
  else if !fraction.isEmpty || !exponent.isEmpty then some (.real, whole ++ fraction ++ exponent)
  else if isPlainInteger whole then some (.integer, whole ++ fraction ++ exponent)
  else none

/-- What a number is once its parts are read. -/
def numberEnd? (whole fraction exponent rest : List Char) : Option (NumberKind × List Char) :=
  match rest with
  | c :: after =>
    if c = 'j' ∨ c = 'J' then
      if endsNumber after then some (.imaginary, whole ++ fraction ++ exponent ++ [c]) else none
    else realNumber? whole fraction exponent rest
  | [] => realNumber? whole fraction exponent rest

omit free in
theorem decimalNumber_eq (cs : List Char) :
    decimalNumber? cs = (wholePart? cs).bind fun (whole, rest) =>
      (fractionPart? rest).bind fun (fraction, rest) =>
        (exponentPart? rest).bind fun (exponent, rest) => numberEnd? whole fraction exponent rest := by
  unfold decimalNumber? wholePart? numberEnd? realNumber?
  split <;> rfl

theorem numberEnd_append (whole fraction exponent front x : List Char) :
    numberEnd? whole fraction exponent (front ++ b :: x) =
      numberEnd? whole fraction exponent front := by
  have letter : ¬(b = 'j' ∨ b = 'J') := not_or.mpr
    ⟨ne_of_not_clings free (by decide), ne_of_not_clings free (by decide)⟩
  have real : realNumber? whole fraction exponent (front ++ b :: x) =
      realNumber? whole fraction exponent front := by
    rw [realNumber?, realNumber?, endsNumber_append free]
  cases front with
  | nil =>
    rw [List.nil_append] at real ⊢
    simp only [numberEnd?, letter, if_false, real]
  | cons c front =>
    rw [List.cons_append] at real ⊢
    simp only [numberEnd?, real, endsNumber_append free]

/-- Numbers that are none of the expression language. -/
def Unplain (found : Option (NumberKind × List Char)) : Prop :=
  ∀ number ∈ found, Numeral.isPlain number.2 = false

omit free in
/-- No number of the language has other characters than literals have. -/
theorem isPlain_of_foreign {text : List Char} {c : Char} (h : c ∈ text)
    (foreign : c.isDigit = false ∧ c ≠ '.' ∧ c ≠ 'e') : Numeral.isPlain text = false := by
  rw [← Bool.not_eq_true]
  intro plain
  obtain ⟨l, rfl⟩ := exists_literal plain
  rcases l.mem_text h with digit | rfl | rfl
  · rw [foreign.1] at digit
    cases digit
  · exact foreign.2.1 rfl
  · exact foreign.2.2 rfl

omit free in
theorem numberEnd_mem {whole fraction exponent rest : List Char} :
    ∀ number ∈ numberEnd? whole fraction exponent rest, exponent ⊆ number.2 := by
  intro number h c hc
  unfold numberEnd? realNumber? at h
  (repeat' split at h) <;> cases h <;> simp [hc]

/-- What a number is does not depend on what comes later, or it is none of the language. -/
theorem decimalNumber_uniform (front : List Char) :
    (∃ r, ∀ x, decimalNumber? (front ++ b :: x) = r) ∨
      ∀ x, Unplain (decimalNumber? (front ++ b :: x)) := by
  obtain ⟨wholes, hw⟩ := wholePart_uniform free front
  cases wholes with
  | none => exact .inl ⟨none, fun x => by rw [decimalNumber_eq, hw]; rfl⟩
  | some whole =>
    obtain ⟨fractions, hf⟩ := fractionPart_uniform free whole.2
    cases fractions with
    | none => exact .inl ⟨none, fun x => by simp [decimalNumber_eq, hw, hf]⟩
    | some fraction =>
      rcases exponentPart_uniform free fraction.2 with ⟨exponents, he⟩ | signed
      · refine .inl ⟨exponents.bind fun exponent =>
          numberEnd? whole.1 fraction.1 exponent.1 exponent.2, fun x => ?_⟩
        cases exponents <;> simp [decimalNumber_eq, hw, hf, he, numberEnd_append free]
      · refine .inr fun x number found => ?_
        simp only [decimalNumber_eq, hw, hf, Option.map_some, Option.bind_some] at found
        obtain ⟨exponent, read, ended⟩ := Option.bind_eq_some_iff.mp found
        have inside := numberEnd_mem number ended
        rcases signed x exponent read with plus | minus
        · exact isPlain_of_foreign (inside plus) (by decide)
        · exact isPlain_of_foreign (inside minus) (by decide)

theorem radixDigits_uniform {p : Char → Bool} (hp : p b = false) (front : List Char) :
    ∃ r : Option (List Char), ∀ x, (radixDigits? p (front ++ b :: x)).map Prod.fst = r := by
  obtain ⟨groups, hr⟩ := takeGroups_uniform free hp front
  cases groups with
  | none => exact ⟨none, fun x => by simp [radixDigits?, hr]⟩
  | some group =>
    refine ⟨if group.1.isEmpty || group.2.head?.any Char.isDigit || !endsNumber group.2 then none
      else some group.1, fun x => ?_⟩
    simp only [radixDigits?, hr, Option.map_some, Option.bind_eq_bind, Option.bind_some,
      endsNumber_append free, any_head_append (not_digit_of_not_clings free)]
    split <;> rfl

/-- The marks of the radixes and their digits. -/
inductive Radix : Char → (Char → Bool) → Prop where
  | hex {mark : Char} (h : mark = 'x' ∨ mark = 'X') : Radix mark isHexDigit
  | octal {mark : Char} (h : mark = 'o' ∨ mark = 'O') : Radix mark isOctalDigit
  | binary {mark : Char} (h : mark = 'b' ∨ mark = 'B') : Radix mark isBinaryDigit

omit free in
theorem Radix.mark_clings {mark : Char} {p : Char → Bool} (h : Radix mark p) : clings mark := by
  cases h with
  | hex h | octal h | binary h => rcases h with rfl | rfl <;> decide

omit free in
theorem Radix.mark_foreign {mark : Char} {p : Char → Bool} (h : Radix mark p) :
    mark.isDigit = false ∧ mark ≠ '.' ∧ mark ≠ 'e' := by
  cases h with
  | hex h | octal h | binary h => rcases h with rfl | rfl <;> decide

omit free in
theorem Radix.word {mark : Char} {p : Char → Bool} (h : Radix mark p) {c : Char} (digit : p c) :
    Text.continuesWord c := by
  have within : 48 ≤ c.toNat ∧ c.toNat ≤ 57 ∨ 97 ≤ c.toNat ∧ c.toNat ≤ 102 ∨
      65 ≤ c.toNat ∧ c.toNat ≤ 70 := by
    cases h with
    | hex =>
      simp only [isHexDigit, Bool.or_eq_true, Bool.and_eq_true, decide_eq_true_eq,
        Text.isDigit_iff, or_assoc] at digit
      exact digit
    | octal =>
      simp only [isOctalDigit, Bool.and_eq_true, decide_eq_true_eq] at digit
      have low : 48 ≤ c.toNat := digit.1
      have high : c.toNat < 56 := digit.2
      omega
    | binary =>
      simp only [isBinaryDigit, Bool.or_eq_true, decide_eq_true_eq] at digit
      rcases digit with rfl | rfl <;> decide
  rw [Text.continuesWord_eq]
  simp only [Text.wordPoint, Bool.and_eq_true, Bool.or_eq_true, decide_eq_true_eq]
  omega

omit free in
theorem Radix.number {mark : Char} {p : Char → Bool} (h : Radix mark p) (body : List Char) :
    number? ('0' :: mark :: body) = ((radixDigits? p body).map Prod.fst).map fun digits =>
      (.integer, '0' :: mark :: digits) := by
  rw [Option.map_map]
  cases h with
  | hex h | octal h | binary h => rcases h with rfl | rfl <;> rfl

omit free in
/-- A number is written with a radix, or it is decimal whatever its second character is. -/
theorem number_cases (c d : Char) :
    (c = '0' ∧ ∃ p, Radix d p) ∨ ∀ body, number? (c :: d :: body) = decimalNumber? (c :: d :: body) := by
  by_cases marked : c = '0' ∧ ∃ p, Radix d p
  · exact .inl marked
  refine .inr fun body => number_eq_decimalNumber fun mark more same member => marked ?_
  simp only [List.cons.injEq] at same
  obtain ⟨rfl, rfl, -⟩ := same
  simp only [List.mem_cons, List.not_mem_nil, or_false, ← or_assoc] at member
  refine ⟨rfl, ?_⟩
  rcases member with ((((h | h) | h) | h) | h) | h
  · exact ⟨_, .hex (.inl h)⟩
  · exact ⟨_, .hex (.inr h)⟩
  · exact ⟨_, .octal (.inl h)⟩
  · exact ⟨_, .octal (.inr h)⟩
  · exact ⟨_, .binary (.inl h)⟩
  · exact ⟨_, .binary (.inr h)⟩

theorem number_uniform (front : List Char) :
    (∃ r, ∀ x, number? (front ++ b :: x) = r) ∨ ∀ x, Unplain (number? (front ++ b :: x)) := by
  have decimal (h : ∀ x, number? (front ++ b :: x) = decimalNumber? (front ++ b :: x)) :
      (∃ r, ∀ x, number? (front ++ b :: x) = r) ∨ ∀ x, Unplain (number? (front ++ b :: x)) := by
    simp only [h]
    exact decimalNumber_uniform free front
  match front, decimal with
  | [], decimal =>
    refine decimal fun x => number_eq_decimalNumber fun mark body same => ?_
    exact absurd (List.cons.inj same).1 (ne_of_not_clings free (by decide))
  | [c], decimal =>
    rcases number_cases c b with ⟨-, p, radix⟩ | same
    · exact absurd rfl (ne_of_not_clings free radix.mark_clings)
    · exact decimal same
  | c :: d :: front, decimal =>
    rcases number_cases c d with ⟨rfl, p, radix⟩ | same
    · have outside : p b = false := by
        rw [← Bool.not_eq_true]
        intro digit
        have word := radix.word digit
        rw [not_continuesWord_of_not_clings free] at word
        cases word
      obtain ⟨r, hr⟩ := radixDigits_uniform free outside front
      refine .inl ⟨r.map fun digits => (.integer, '0' :: d :: digits), fun x => ?_⟩
      rw [List.cons_append, List.cons_append, radix.number, hr]
    · exact decimal fun x => same _

end Parts

end Reckoner.Source
