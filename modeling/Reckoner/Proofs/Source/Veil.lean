import Mathlib
import Reckoner.Proofs.Source.Rescanning

/-! A text beside what is shown of it. The two go along together: single characters and runs of
digits that are kept, and long runs with a low line for each digit. A long run is shown as a name
of its own as long as no character outside ASCII touches it, for the hiding looks for ASCII
neighbours only, while names are made of other letters as well. -/

namespace Reckoner.Source

/-- The characters that do not let a run of digits be a token of its own. -/
def clings (c : Char) : Bool := Text.continuesWord c || c = '.'

theorem clings_eq (c : Char) : clings c = (joinsDigits c || decide (128 ≤ c.toNat)) := by
  rw [clings, Text.continuesWord, joinsDigits]
  cases c.isAlphanum <;> cases decide (c = '_') <;> cases decide (c = '.') <;> simp

theorem continuesWord_of_digit {c : Char} (h : c.isDigit) : Text.continuesWord c := by
  simp [Text.continuesWord, Char.isAlphanum, h]

/-- A text that goes on after a character, what is shown of it, and what is hidden in it. -/
inductive Veil : (before : Option Char) → (offset : Nat) → (cs shown : List Char) →
    (found : LongIntegers) → Prop where
  | nil {before : Option Char} {offset : Nat} : Veil before offset [] [] []
  | char {before : Option Char} {offset : Nat} {c : Char} {cs shown : List Char}
    {found : LongIntegers} (h : c.isDigit = false)
    (rest : Veil (some c) (offset + c.utf8Size) cs shown found) :
    Veil before offset (c :: cs) (c :: shown) found
  | kept {before : Option Char} {offset : Nat} {d : Char} {ds cs shown : List Char}
    {found : LongIntegers} (digits : ∀ c ∈ d :: ds, c.isDigit)
    (stop : cs.head?.any Char.isDigit = false)
    (reason : (d :: ds).length < longIntegerDigits ∨ before.any joinsDigits ∨
      cs.head?.any joinsDigits)
    (rest : Veil (some d) (offset + (d :: ds).length) cs shown found) :
    Veil before offset (d :: ds ++ cs) (d :: ds ++ shown) found
  | hidden {before : Option Char} {offset : Nat} {d : Char} {ds cs shown : List Char}
    {found : LongIntegers} (digits : ∀ c ∈ d :: ds, c.isDigit)
    (long : longIntegerDigits ≤ (d :: ds).length) (left : before.any clings = false)
    (right : cs.head?.any clings = false)
    (rest : Veil (some d) (offset + (d :: ds).length) cs shown found) :
    Veil before offset (d :: ds ++ cs) (List.replicate (d :: ds).length '_' ++ shown)
      ((offset, d :: ds) :: found)

/-- No long run of digits touches a character outside ASCII. -/
def Detached (cs : List Char) : Prop :=
  ∀ before run after, cs = before ++ run ++ after → longIntegerDigits ≤ run.length →
    (∀ c ∈ run, c.isDigit) →
    (∀ c ∈ before.getLast?, c.toNat < 128) ∧ ∀ c ∈ after.head?, c.toNat < 128

theorem Detached.mono {cs part : List Char} (h : Detached cs) (inside : part <:+: cs) :
    Detached part := by
  obtain ⟨front, back, rfl⟩ := inside
  intro before run after split long digits
  have whole : front ++ part ++ back = (front ++ before) ++ run ++ (after ++ back) := by
    simp [split]
  obtain ⟨left, right⟩ := h _ run _ whole long digits
  constructor
  · intro c hc
    exact left c (by simp [List.getLast?_append, Option.mem_def.mp hc])
  · intro c hc
    exact right c (by simp [List.head?_append, Option.mem_def.mp hc])

theorem any_clings_of_joins {o : Option Char} (ascii : ∀ c ∈ o, c.toNat < 128)
    (free : o.any joinsDigits = false) : o.any clings = false := by
  cases o with
  | none => rfl
  | some c =>
    have low := ascii c rfl
    have apart : joinsDigits c = false := free
    simp only [Option.any_some, clings_eq, apart, Bool.false_or, decide_eq_false_iff_not]
    omega

theorem clings_of_digit {c : Char} (h : c.isDigit) : clings c := by
  simp [clings, continuesWord_of_digit h]

/-- What the hiding gives. The front is the text so far. -/
theorem veil_hideFrom (fuel : Nat) (front cs : List Char) {before : Option Char} (offset : Nat)
    (detached : Detached (front ++ cs)) (enough : cs.length < fuel)
    (clinging : before.any clings = front.getLast?.any clings)
    (joining : before.any joinsDigits = front.getLast?.any joinsDigits) :
    Veil before offset cs (hideFrom fuel before offset cs).1 (hideFrom fuel before offset cs).2 := by
  induction cs using runInduction generalizing fuel front before offset with
  | nil => cases fuel <;> exact .nil
  | mark c cs plain ih =>
    obtain ⟨fuel, rfl⟩ := Nat.exists_eq_succ_of_ne_zero (Nat.ne_zero_of_lt enough)
    rw [hideFrom_mark plain]
    refine .char plain (ih fuel (front ++ [c]) _ ?_ (Nat.lt_of_succ_lt_succ enough) ?_ ?_)
    · rwa [List.append_assoc]
    · simp
    · simp
  | run d ds cs digits stop ih =>
    obtain ⟨fuel, rfl⟩ := Nat.exists_eq_succ_of_ne_zero (Nat.ne_zero_of_lt enough)
    obtain ⟨e, last, inside⟩ : ∃ e, (front ++ (d :: ds)).getLast? = some e ∧ e ∈ d :: ds := by
      refine ⟨(d :: ds).getLast (by simp), ?_, List.getLast_mem _⟩
      rw [List.getLast?_append, List.getLast?_eq_some_getLast (by simp)]
      rfl
    have first := digits d List.mem_cons_self
    have whole : front ++ (d :: ds ++ cs) = front ++ (d :: ds) ++ cs :=
      (List.append_assoc _ _ _).symm
    have shorter : cs.length < fuel := by
      simp only [List.length_append, List.length_cons] at enough
      omega
    have tail : Veil (some d) (offset + (d :: ds).length) cs _ _ :=
      ih fuel (front ++ (d :: ds)) (offset + (d :: ds).length) (whole ▸ detached) shorter
        (by simp [last, clings_of_digit first, clings_of_digit (digits e inside)])
        (by simp [last, joinsDigits_of_digit first, joinsDigits_of_digit (digits e inside)])
    by_cases hide : longIntegerDigits ≤ (d :: ds).length ∧ before.any joinsDigits = false ∧
        cs.head?.any joinsDigits = false
    · obtain ⟨long, left, right⟩ := hide
      obtain ⟨ascii, ascii'⟩ := detached front (d :: ds) cs whole long digits
      have free : before.any clings = false :=
        clinging.trans (any_clings_of_joins ascii (joining ▸ left))
      rw [hideFrom_long digits long left right]
      exact .hidden digits long free (any_clings_of_joins ascii' right) tail
    · rw [not_and_or, not_and_or, not_le, Bool.not_eq_false, Bool.not_eq_false] at hide
      rw [hideFrom_kept digits stop hide]
      exact .kept digits stop hide tail

/-- No part of a text ends within a run of digits. -/
theorem exists_append_of_run {ds cs part rest : List Char} (digits : ∀ c ∈ ds, c.isDigit)
    (stop : rest.head?.any Char.isDigit = false) (split : part ++ rest = ds ++ cs) :
    ∃ more, part = ds ++ more ∧ cs = more ++ rest := by
  rcases List.append_eq_append_iff.mp split with ⟨more, run, right⟩ | ⟨more, whole, right⟩
  · cases more with
    | nil => exact ⟨[], by simpa using run.symm, by simpa using right.symm⟩
    | cons m more =>
      have digit : m.isDigit := digits m (by simp [run])
      simp [right, digit] at stop
  · exact ⟨more, whole, right⟩

/-- Digits and low lines move on by one byte and one character. -/
theorem advance_narrow {cs : List Char} (narrow : ∀ c ∈ cs, c.isDigit ∨ c = '_')
    (position : Position) :
    position.advance cs =
      ⟨position.line, position.byteColumn + cs.length, position.column + cs.length⟩ := by
  induction cs generalizing position with
  | nil => rfl
  | cons c cs ih =>
    obtain ⟨first, narrow⟩ := List.forall_mem_cons.mp narrow
    have size : c.utf8Size = 1 := by
      rcases first with digit | rfl
      · exact utf8Size_digit digit
      · rfl
    have newline : c ≠ '\n' := by
      rintro rfl
      simp at first
    have step : position.step c =
        ⟨position.line, position.byteColumn + 1, position.column + 1⟩ := by
      rw [Position.step, if_neg newline, size]
    have tail := ih narrow (position.step c)
    rw [Position.advance] at tail
    rw [Position.advance, List.foldl_cons, tail, step, List.length_cons]
    simp only [Position.mk.injEq, true_and]
    omega

namespace Veil

variable {before : Option Char} {offset : Nat} {cs shown : List Char} {found : LongIntegers}

theorem entry_le (h : Veil before offset cs shown found) : ∀ entry ∈ found, offset ≤ entry.1 := by
  induction h with
  | nil => simp
  | char _ _ ih => exact fun entry member => (Nat.le_add_right _ _).trans (ih entry member)
  | kept _ _ _ _ ih => exact fun entry member => (Nat.le_add_right _ _).trans (ih entry member)
  | hidden _ _ _ _ _ ih =>
    refine List.forall_mem_cons.mpr ⟨le_rfl, fun entry member => ?_⟩
    exact (Nat.le_add_right _ _).trans (ih entry member)

theorem entry_digits (h : Veil before offset cs shown found) :
    ∀ entry ∈ found, ∀ c ∈ entry.2, c.isDigit := by
  induction h with
  | nil => simp
  | char _ _ ih | kept _ _ _ _ ih => exact ih
  | hidden digits _ _ _ _ ih => exact List.forall_mem_cons.mpr ⟨digits, ih⟩

theorem advance (h : Veil before offset cs shown found) (position : Position) :
    position.advance shown = position.advance cs := by
  induction h generalizing position with
  | nil => rfl
  | char _ _ ih => exact ih _
  | kept _ _ _ _ ih =>
    rw [Position.advance, Position.advance, List.foldl_append, List.foldl_append]
    exact ih _
  | @hidden _ _ d ds _ _ _ digits _ _ _ _ ih =>
    have run := advance_narrow (fun c hc => .inl (digits c hc)) position
    have lines : position.advance (List.replicate (d :: ds).length '_') = _ :=
      advance_narrow (fun c hc => .inr (List.eq_of_mem_replicate hc)) position
    rw [List.length_replicate] at lines
    rw [Position.advance] at run lines
    rw [Position.advance, Position.advance, List.foldl_append, List.foldl_append, run, lines]
    exact ih _

theorem length_eq (h : Veil before offset cs shown found) : shown.length = cs.length := by
  induction h with
  | nil => rfl
  | char _ _ ih => simp [ih]
  | kept _ _ _ _ ih => simp [ih]
  | hidden _ _ _ _ _ ih =>
    rw [List.length_append, List.length_append, List.length_replicate, ih]

/-- What is no digit and no low line is neither hidden nor brought in. -/
theorem mem_iff (h : Veil before offset cs shown found) {c : Char} (digit : c.isDigit = false)
    (other : c ≠ '_') : c ∈ shown ↔ c ∈ cs := by
  induction h with
  | nil => rfl
  | char _ _ ih => rw [List.mem_cons, List.mem_cons, ih]
  | kept _ _ _ _ ih => rw [List.mem_append, List.mem_append, ih]
  | hidden digits _ _ _ _ ih =>
    have outside : c ∉ _ := fun inside => Bool.false_ne_true (digit.symm.trans (digits c inside))
    rw [List.mem_append, List.mem_append, ih, or_iff_right outside,
      or_iff_right fun line => other (List.eq_of_mem_replicate line)]

/-- What stands at the head of the text. -/
theorem cons_cases {c : Char} {rest : List Char} (h : Veil before offset (c :: rest) shown found) :
    (c.isDigit = false ∧ ∃ rest', shown = c :: rest' ∧
      Veil (some c) (offset + c.utf8Size) rest rest' found) ∨
    (∃ ds after after', (∀ d ∈ c :: ds, d.isDigit) ∧ rest = ds ++ after ∧
      shown = c :: ds ++ after' ∧ after.head?.any Char.isDigit = false ∧
      ((c :: ds).length < longIntegerDigits ∨ before.any joinsDigits ∨
        after.head?.any joinsDigits)) ∨
    ∃ ds after after' found', (∀ d ∈ c :: ds, d.isDigit) ∧ rest = ds ++ after ∧
      longIntegerDigits ≤ (c :: ds).length ∧
      shown = List.replicate (c :: ds).length '_' ++ after' ∧
      before.any clings = false ∧ after.head?.any clings = false ∧
      found = (offset, c :: ds) :: found' ∧
      Veil (some c) (offset + (c :: ds).length) after after' found' := by
  generalize split : c :: rest = cs at h
  cases h with
  | nil => cases split
  | char digit tail =>
    cases split
    exact .inl ⟨digit, _, rfl, tail⟩
  | kept digits stop reason tail =>
    obtain ⟨rfl, rfl⟩ := List.cons.inj split
    exact .inr (.inl ⟨_, _, _, digits, rfl, rfl, stop, reason⟩)
  | hidden digits long left right tail =>
    obtain ⟨rfl, rfl⟩ := List.cons.inj split
    exact .inr (.inr ⟨_, _, _, _, digits, rfl, long, rfl, left, right, rfl, tail⟩)

/-- The text and what is shown agree up to the first run that is hidden. -/
theorem cut (h : Veil before offset cs shown found) :
    shown = cs ∨ ∃ front x y, cs = front ++ x ∧ shown = front ++ y ∧
      (front.getLast?.or before).any clings = false ∧ x.head?.any Char.isDigit ∧
      y.head? = some '_' := by
  induction h with
  | nil => exact .inl rfl
  | @char _ _ c _ _ _ _ _ ih =>
    rcases ih with rfl | ⟨front, x, y, rfl, rfl, last, hx, hy⟩
    · exact .inl rfl
    · exact .inr ⟨[c] ++ front, x, y, rfl, rfl, by rwa [List.getLast?_append, Option.or_assoc], hx, hy⟩
  | @kept _ _ d ds _ _ _ digits _ _ _ ih =>
    rcases ih with rfl | ⟨front, x, y, rfl, rfl, last, hx, hy⟩
    · exact .inl rfl
    · refine .inr ⟨d :: ds ++ front, x, y, by simp, by simp, ?_, hx, hy⟩
      have clinging := clings_of_digit (digits d List.mem_cons_self)
      cases ends : front.getLast? with
      | none => simp [ends, clinging] at last
      | some b =>
        rw [List.getLast?_append, ends]
        rwa [ends] at last
  | @hidden _ _ d ds _ _ _ digits _ left _ _ _ =>
    refine .inr ⟨[], _, _, rfl, rfl, left, ?_, rfl⟩
    simpa using digits d List.mem_cons_self

/-- After a part that is shown as it stands, up to where no digit follows. -/
theorem drop {part rest rest' : List Char} (h : Veil before offset (part ++ rest) (part ++ rest') found)
    (stop : rest.head?.any Char.isDigit = false) :
    ∃ before', Veil before' (offset + byteSize part) rest rest' found := by
  generalize whole : part ++ rest = cs at h
  generalize whole' : part ++ rest' = shown at h
  induction h generalizing part with
  | nil =>
    obtain ⟨rfl, rfl⟩ := List.append_eq_nil_iff.mp whole
    obtain rfl : rest' = [] := by simpa using whole'
    exact ⟨none, .nil⟩
  | @char _ _ c _ _ _ digit tail ih =>
    cases part with
    | nil =>
      rw [List.nil_append] at whole whole'
      subst whole whole'
      exact ⟨none, .char digit tail⟩
    | cons a part =>
      obtain ⟨rfl, same⟩ := List.cons.inj whole
      obtain ⟨-, same'⟩ := List.cons.inj whole'
      obtain ⟨before', veiled⟩ := ih same same'
      exact ⟨before', by rwa [byteSize_cons, ← Nat.add_assoc]⟩
  | @kept _ _ d ds _ _ _ digits _ _ tail ih =>
    obtain ⟨more, rfl, rfl⟩ := exists_append_of_run digits stop whole
    rw [List.append_assoc] at whole'
    obtain ⟨before', veiled⟩ := ih rfl (List.append_cancel_left whole')
    refine ⟨before', ?_⟩
    rwa [byteSize_append, byteSize_digits digits, ← Nat.add_assoc]
  | @hidden _ _ d ds _ _ _ digits _ _ _ _ _ =>
    have digit := digits d List.mem_cons_self
    cases part with
    | nil =>
      rw [List.nil_append] at whole
      subst whole
      simp [digit] at stop
    | cons a part =>
      obtain ⟨rfl, -⟩ := List.cons.inj whole
      obtain ⟨rfl, -⟩ := List.cons.inj whole'
      exact absurd digit (by decide)

end Veil

end Reckoner.Source
