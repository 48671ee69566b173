import Mathlib
import Reckoner.Source.LongInteger

/-! Hiding of long integers, and the texts that have nothing to hide. -/

namespace Reckoner.Source

theorem takeWhile_append_stop {p : Char → Bool} (cs : List Char) {rest : List Char}
    (stop : rest.head?.any p = false) : (cs ++ rest).takeWhile p = cs.takeWhile p := by
  induction cs with
  | nil => cases rest <;> simp_all
  | cons c cs ih => cases h : p c <;> simp [h, ih]

theorem dropWhile_append_stop {p : Char → Bool} (cs : List Char) {rest : List Char}
    (stop : rest.head?.any p = false) : (cs ++ rest).dropWhile p = cs.dropWhile p ++ rest := by
  induction cs with
  | nil => cases rest <;> simp_all
  | cons c cs ih => cases h : p c <;> simp [h, ih]

/-- No run of digits of the text is long enough to be hidden. -/
def ShortRuns (cs : List Char) : Prop :=
  ∀ run, run <:+: cs → (∀ c ∈ run, c.isDigit) → run.length < longIntegerDigits

theorem ShortRuns.mono {cs part : List Char} (h : ShortRuns cs) (inside : part <:+: cs) :
    ShortRuns part :=
  fun run infixed digits => h run (infixed.trans inside) digits

theorem ShortRuns.of_length {cs : List Char} (h : cs.length < longIntegerDigits) : ShortRuns cs :=
  fun _ infixed _ => infixed.length_le.trans_lt h

/-- The number of bytes of a text. -/
def byteSize (cs : List Char) : Nat := (cs.map Char.utf8Size).sum

theorem byteSize_append (a b : List Char) : byteSize (a ++ b) = byteSize a + byteSize b := by
  simp [byteSize]

theorem byteSize_cons (c : Char) (cs : List Char) :
    byteSize (c :: cs) = c.utf8Size + byteSize cs := by
  simp [byteSize]

theorem utf8Size_digit {c : Char} (h : c.isDigit) : c.utf8Size = 1 := by
  simp only [Char.isDigit, Bool.and_eq_true, decide_eq_true_eq] at h
  exact if_pos (UInt32.le_trans h.2 (by decide))

theorem byteSize_digits {ds : List Char} (digits : ∀ c ∈ ds, c.isDigit) :
    byteSize ds = ds.length := by
  induction ds with
  | nil => rfl
  | cons d ds ih =>
    obtain ⟨digit, digits⟩ := List.forall_mem_cons.mp digits
    rw [byteSize_cons, ih digits, utf8Size_digit digit, List.length_cons, Nat.add_comm]

theorem head_dropWhile (p : Char → Bool) (cs : List Char) :
    (cs.dropWhile p).head?.any p = false := by
  have none := List.head?_dropWhile_not p cs
  cases h : (cs.dropWhile p).head? with
  | none => rfl
  | some c => simpa [h] using none

theorem joinsDigits_of_digit {c : Char} (h : c.isDigit) : joinsDigits c := by
  simp [joinsDigits, Char.isAlphanum, h]

/-- A text goes on by single characters that are no digits and by whole runs of digits. -/
@[elab_as_elim]
theorem runInduction {motive : List Char → Prop} (nil : motive [])
    (mark : ∀ c cs, c.isDigit = false → motive cs → motive (c :: cs))
    (run : ∀ d ds cs, (∀ c ∈ d :: ds, c.isDigit) → cs.head?.any Char.isDigit = false →
      motive cs → motive (d :: ds ++ cs))
    (cs : List Char) : motive cs := by
  induction h : cs.length using Nat.strong_induction_on generalizing cs with
  | _ n ih =>
    subst h
    cases cs with
    | nil => exact nil
    | cons c cs =>
      cases digit : c.isDigit with
      | false => exact mark c cs digit (ih _ (Nat.lt_succ_self _) cs rfl)
      | true =>
        have digits : ∀ d ∈ c :: cs.takeWhile Char.isDigit, d.isDigit :=
          List.forall_mem_cons.mpr ⟨digit, fun d hd => List.mem_takeWhile_imp hd⟩
        have shorter : (cs.dropWhile Char.isDigit).length < (c :: cs).length :=
          Nat.lt_succ_of_le (List.dropWhile_suffix _).length_le
        have whole := run c _ _ digits (head_dropWhile _ cs) (ih _ shorter _ rfl)
        rwa [List.cons_append, List.takeWhile_append_dropWhile] at whole

section Steps

variable {fuel : Nat} {before : Option Char} {offset : Nat} {c d : Char} {ds rest : List Char}

theorem hideFrom_mark (mark : c.isDigit = false) :
    hideFrom (fuel + 1) before offset (c :: rest) =
      (c :: (hideFrom fuel (some c) (offset + c.utf8Size) rest).1,
        (hideFrom fuel (some c) (offset + c.utf8Size) rest).2) := by
  rw [hideFrom, if_neg (by simp [mark])]

/-- A whole run is hidden when it is long and stands alone. -/
theorem hideFrom_run (digits : ∀ c ∈ d :: ds, c.isDigit)
    (stop : rest.head?.any Char.isDigit = false) :
    hideFrom (fuel + 1) before offset (d :: ds ++ rest) =
      if longIntegerDigits ≤ (d :: ds).length ∧ before.any joinsDigits = false ∧
          rest.head?.any joinsDigits = false then
        (List.replicate (d :: ds).length '_' ++
            (hideFrom fuel (some d) (offset + (d :: ds).length) rest).1,
          (offset, d :: ds) :: (hideFrom fuel (some d) (offset + (d :: ds).length) rest).2)
      else
        (d :: ds ++ (hideFrom fuel (some d) (offset + (d :: ds).length) rest).1,
          (hideFrom fuel (some d) (offset + (d :: ds).length) rest).2) := by
  have run : (d :: ds ++ rest).takeWhile Char.isDigit = d :: ds := by
    rw [takeWhile_append_stop _ stop, List.takeWhile_eq_self_iff.mpr digits]
  have left : (d :: ds ++ rest).dropWhile Char.isDigit = rest := by
    rw [dropWhile_append_stop _ stop, List.dropWhile_eq_nil_iff.mpr digits, List.nil_append]
  rw [List.cons_append] at run left ⊢
  rw [hideFrom, if_pos (digits d List.mem_cons_self), run, left]
  simp only [Bool.and_eq_true, Bool.not_eq_true', decide_eq_true_eq]

theorem hideFrom_kept (digits : ∀ c ∈ d :: ds, c.isDigit)
    (stop : rest.head?.any Char.isDigit = false)
    (kept : (d :: ds).length < longIntegerDigits ∨ before.any joinsDigits ∨
      rest.head?.any joinsDigits) :
    hideFrom (fuel + 1) before offset (d :: ds ++ rest) =
      (d :: ds ++ (hideFrom fuel (some d) (offset + (d :: ds).length) rest).1,
        (hideFrom fuel (some d) (offset + (d :: ds).length) rest).2) := by
  rw [hideFrom_run digits stop, if_neg]
  rintro ⟨long, left, right⟩
  rcases kept with short | joined | joined
  · exact absurd long (Nat.not_le.mpr short)
  · exact absurd joined (by simp [left])
  · exact absurd joined (by simp [right])

theorem hideFrom_long (digits : ∀ c ∈ d :: ds, c.isDigit)
    (long : longIntegerDigits ≤ (d :: ds).length) (left : before.any joinsDigits = false)
    (right : rest.head?.any joinsDigits = false) :
    hideFrom (fuel + 1) before offset (d :: ds ++ rest) =
      (List.replicate (d :: ds).length '_' ++
          (hideFrom fuel (some d) (offset + (d :: ds).length) rest).1,
        (offset, d :: ds) :: (hideFrom fuel (some d) (offset + (d :: ds).length) rest).2) := by
  have stop : rest.head?.any Char.isDigit = false := by
    rw [Option.any_eq_false] at right ⊢
    exact fun c hc => eq_false_of_ne_true fun digit =>
      ne_true_of_eq_false (right c hc) (joinsDigits_of_digit digit)
  rw [hideFrom_run digits stop, if_pos ⟨long, left, right⟩]

end Steps

/-- What is no digit and no low line is neither hidden nor brought in. -/
theorem mem_hideFrom_iff {c : Char} (digit : c.isDigit = false) (other : c ≠ '_') (fuel : Nat)
    (before : Option Char) (offset : Nat) (cs : List Char) :
    c ∈ (hideFrom fuel before offset cs).1 ↔ c ∈ cs := by
  induction cs using runInduction generalizing fuel before offset with
  | nil => cases fuel <;> rfl
  | mark d cs plain ih =>
    cases fuel with
    | zero => rfl
    | succ fuel => rw [hideFrom_mark plain, List.mem_cons, List.mem_cons, ih]
  | run d ds cs digits stop ih =>
    cases fuel with
    | zero => rfl
    | succ fuel =>
      have outside : c ∉ d :: ds := fun inside => by
        rw [digits c inside] at digit
        cases digit
      have line : c ∉ List.replicate (d :: ds).length '_' := fun inside =>
        other (List.eq_of_mem_replicate inside)
      rw [hideFrom_run digits stop, List.mem_append, or_iff_right outside, ← ih fuel (some d)
        (offset + (d :: ds).length)]
      split
      · rw [List.mem_append, or_iff_right line]
      · rw [List.mem_append, or_iff_right outside]

/-- A part without long runs stays as it is, and what comes after it is hidden in its place. -/
theorem hideFrom_append {part rest shown : List Char} {found : LongIntegers}
    (short : ShortRuns part) (offset : Nat) (stop : rest.head?.any Char.isDigit = false)
    (after : ∀ fuel before, rest.length < fuel →
      hideFrom fuel before (offset + byteSize part) rest = (shown, found))
    (fuel : Nat) (before : Option Char) (enough : (part ++ rest).length < fuel) :
    hideFrom fuel before offset (part ++ rest) = (part ++ shown, found) := by
  induction part using runInduction generalizing fuel before offset with
  | nil => exact after _ _ enough
  | mark c cs plain ih =>
    obtain ⟨fuel, rfl⟩ := Nat.exists_eq_succ_of_ne_zero (Nat.ne_zero_of_lt enough)
    have later : ShortRuns cs := short.mono (List.suffix_cons c cs).isInfix
    rw [byteSize_cons, ← Nat.add_assoc] at after
    rw [List.cons_append] at enough ⊢
    rw [hideFrom_mark plain, ih later _ after fuel (some c) (Nat.lt_of_succ_lt_succ enough)]
    rfl
  | run d ds cs digits ends ih =>
    obtain ⟨fuel, rfl⟩ := Nat.exists_eq_succ_of_ne_zero (Nat.ne_zero_of_lt enough)
    have few : (d :: ds).length < longIntegerDigits :=
      short _ (List.prefix_append _ cs).isInfix digits
    have later : ShortRuns cs := short.mono (List.suffix_append _ cs).isInfix
    have ends : (cs ++ rest).head?.any Char.isDigit = false := by
      cases cs with
      | nil => exact stop
      | cons => exact ends
    have shorter : (cs ++ rest).length < fuel := by
      simp only [List.length_append, List.length_cons] at enough ⊢
      omega
    rw [byteSize_append, byteSize_digits digits, ← Nat.add_assoc] at after
    rw [List.append_assoc, hideFrom_kept digits ends (.inl few),
      ih later _ after fuel (some d) shorter, List.append_assoc]

theorem hideLongIntegers_short {cs : List Char} (h : ShortRuns cs) :
    hideLongIntegers cs = (cs, []) := by
  have nothing (fuel : Nat) (before : Option Char) (_ : ([] : List Char).length < fuel) :
      hideFrom fuel before (0 + byteSize cs) [] = ([], []) := by
    cases fuel <;> simp [hideFrom]
  have all := hideFrom_append h 0 rfl nothing (cs.length + 1) none (by simp)
  rwa [List.append_nil] at all

end Reckoner.Source
