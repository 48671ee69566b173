import Mathlib
import Reckoner.Proofs.Source.Lexemes
import Reckoner.Source.Scan

/-! Texts made of pieces. A text put together from the pieces of expressions, no two words side by
side and an operand after every sign, is scanned into those pieces again, its long integers hidden
and brought back on the way. -/

namespace Reckoner.Source

theorem Keyword.head_ne_line {s : String} {word : Keyword} (h : Keyword.ofText? s = some word) :
    s.toList.head? ≠ some '_' := by
  unfold Keyword.ofText? at h
  split at h <;> first | decide | cases h

inductive Piece where
  | sign (op : BinaryOp)
  | opening
  | closing
  | name (id : String)
  | number (l : Literal)

namespace Piece

def text : Piece → List Char
  | sign op => [op.symbol]
  | opening => ['(']
  | closing => [')']
  | name id => id.toList
  | number l => l.text

def kind : Piece → TokenKind
  | sign op => .mark op.mark
  | opening => .mark .openParen
  | closing => .mark .closeParen
  | name id => .name id
  | number l => .number l.kind l.text

def Legible : Piece → Prop
  | name id => Spellable id
  | number l => l.Displayed
  | _ => True

def isWord : Piece → Bool
  | name _ | number _ => true
  | _ => false

/-- Whether an operand begins with the piece. -/
def begins : Piece → Bool
  | sign op => op = .sub
  | closing => false
  | _ => true

/-- The second piece may follow the first one. -/
def Apart : Piece → Piece → Prop
  | sign _, next => next.begins
  | name _, next | number _, next => next.isWord = false
  | _, _ => True

/-- The integers that are hidden. -/
def isLong : Piece → Bool
  | number l => longIntegerDigits ≤ l.text.length
  | _ => false

/-- The name that stands for a long integer. -/
def line (length : Nat) : String := String.ofList (List.replicate length '_')

def veil (p : Piece) : Piece := if p.isLong then name (line p.text.length) else p

theorem spellable_line {n : Nat} (h : 0 < n) : Spellable (line n) := by
  obtain ⟨m, rfl⟩ := Nat.exists_eq_succ_of_ne_zero h.ne'
  have start : Text.isIdentifierStart '_' = true := by decide +kernel
  have text : (line (m + 1)).toList = List.replicate (m + 1) '_' := String.toList_ofList
  constructor
  · rw [text]
    simp [List.replicate_succ, Text.isIdentifier, Text.isIdentifierContinue, start]
  · rw [text]
    refine Text.compatibilityForm_ascii ?_
    simp
  · by_contra reserved
    obtain ⟨word, found⟩ := Option.ne_none_iff_exists'.mp reserved
    exact Keyword.head_ne_line found (by simp [text, List.replicate_succ])
  · intro run inside digits
    have none : run = [] := by
      refine List.eq_nil_iff_forall_not_mem.mpr fun c hc => ?_
      rw [text] at inside
      have line : c = '_' := List.eq_of_mem_replicate (inside.subset hc)
      have digit := digits c hc
      simp [line] at digit
    simp [none, longIntegerDigits]

theorem isInteger_of_isLong {l : Literal} (h : l.Displayed) (long : (number l).isLong) :
    l.IsInteger := by
  refine ⟨?_, h.exponent⟩
  by_contra fraction
  have short : l.text.length < longIntegerDigits :=
    (h.length (Option.isSome_iff_ne_none.mpr fraction)).trans_lt (by decide)
  simp only [isLong, decide_eq_true_eq] at long
  omega

theorem digits_of_isLong {p : Piece} (h : p.Legible) (long : p.isLong) :
    ∀ c ∈ p.text, c.isDigit := by
  cases p with
  | number l =>
    have integer := isInteger_of_isLong h long
    intro c hc
    rw [text, l.text_eq_whole integer] at hc
    exact l.whole_digits c hc
  | sign | opening | closing | name => cases long

theorem text_veil (p : Piece) :
    p.veil.text = if p.isLong then List.replicate p.text.length '_' else p.text := by
  unfold veil
  split
  · exact String.toList_ofList
  · rfl

theorem byteSize_text_veil {p : Piece} (h : p.Legible) :
    byteSize p.veil.text = byteSize p.text := by
  rw [text_veil]
  split
  · rename_i long
    rw [byteSize_digits (digits_of_isLong h long)]
    have size : '_'.utf8Size = 1 := rfl
    simp [byteSize, size]
  · rfl

theorem isWord_veil (p : Piece) : p.veil.isWord = p.isWord := by
  unfold veil
  split
  · rename_i long
    cases p <;> first | rfl | cases long
  · rfl

theorem begins_veil (p : Piece) : p.veil.begins = p.begins := by
  unfold veil
  split
  · rename_i long
    cases p <;> first | rfl | cases long
  · rfl

theorem Apart.veil {p q : Piece} (h : Apart p q) : Apart p.veil q.veil := by
  cases p with
  | sign op => exact (begins_veil q).trans h
  | name id => exact (isWord_veil q).trans h
  | opening | closing => trivial
  | number l =>
    have next : q.veil.isWord = false := by rwa [isWord_veil]
    unfold Piece.veil
    split <;> exact next

theorem veil_legible {p : Piece} (h : p.Legible) : p.veil.Legible := by
  unfold veil
  split
  · rename_i long
    have wide : 0 < p.text.length := by
      cases p with
      | number l =>
        simp only [isLong, decide_eq_true_eq] at long
        exact lt_of_lt_of_le (by decide) long
      | sign | opening | closing | name => cases long
    exact spellable_line wide
  · exact h

theorem isLong_veil (p : Piece) : p.veil.isLong = false := by
  unfold veil
  split
  · rfl
  · rename_i short
    exact eq_false_of_ne_true short

theorem text_ne_nil {p : Piece} (h : p.Legible) : p.text ≠ [] := by
  cases p with
  | sign | opening | closing => simp [text]
  | name id =>
    have identifier := h.identifier
    intro empty
    rw [text] at empty
    simp [empty, Text.isIdentifier] at identifier
  | number l =>
    rw [text, l.text_eq]
    simp [l.whole_ne_nil]

/-- Characters that no step of the scanner passes over, and that no text is refused for. -/
def Solid (c : Char) : Prop := Text.isBlank c = false ∧ c ≠ '#' ∧ c ≠ '\\' ∧ c ≠ '\x00'

instance (c : Char) : Decidable (Solid c) := inferInstanceAs (Decidable (_ ∧ _))

theorem solid_of_identifier {c : Char} (h : Text.isIdentifierContinue c) : Solid c := by
  refine ⟨Text.isBlank_of_identifier h, ?_, ?_, ?_⟩ <;> rintro rfl <;> revert h <;> decide +kernel

theorem solid_of_digit {c : Char} (h : c.isDigit) : Solid c := by
  have value := Text.isDigit_iff.mp h
  refine ⟨?_, ?_, ?_, ?_⟩
  · rw [← Bool.not_eq_true]
    intro blank
    rcases Text.isBlank_cases blank with low | high
    · omega
    · simp only [Text.highBlanks, List.mem_cons, List.not_mem_nil, or_false] at high
      omega
  all_goals
    rintro rfl
    simp at h

theorem text_solid {p : Piece} (h : p.Legible) : ∀ c ∈ p.text, Solid c := by
  intro c hc
  cases p with
  | sign op =>
    rw [text, List.mem_singleton] at hc
    subst hc
    cases op <;> decide
  | opening | closing =>
    rw [text, List.mem_singleton] at hc
    subst hc
    decide
  | name id =>
    have identifier := h.identifier
    cases chars : id.toList with
    | nil => simp [text, chars] at hc
    | cons first rest =>
      simp only [chars, Text.isIdentifier, Bool.and_eq_true, List.all_eq_true] at identifier
      simp only [text, chars, List.mem_cons] at hc
      rcases hc with rfl | hc
      · exact solid_of_identifier (by simp [Text.isIdentifierContinue, identifier.1])
      · exact solid_of_identifier (identifier.2 c hc)
  | number l =>
    have point : Solid '.' := by decide
    have letter : Solid 'e' := by decide
    rcases l.mem_text hc with digit | rfl | rfl
    · exact solid_of_digit digit
    · exact point
    · exact letter

end Piece

/-- The text of pieces. -/
def flat (ps : List Piece) : List Char := ps.flatMap Piece.text

theorem flat_nil : flat [] = [] := rfl

theorem flat_cons (p : Piece) (ps : List Piece) : flat (p :: ps) = p.text ++ flat ps :=
  List.flatMap_cons

theorem flat_append (ps qs : List Piece) : flat (ps ++ qs) = flat ps ++ flat qs :=
  List.flatMap_append

/-- Pieces that make a text: each is legible and may follow the one before. -/
structure Written (ps : List Piece) : Prop where
  legible : ∀ p ∈ ps, p.Legible
  apart : ps.IsChain Piece.Apart

namespace Written

variable {p : Piece} {ps : List Piece}

theorem head (h : Written (p :: ps)) : p.Legible := h.legible p List.mem_cons_self

theorem tail (h : Written (p :: ps)) : Written ps :=
  ⟨fun q hq => h.legible q (List.mem_cons_of_mem _ hq), h.apart.of_cons⟩

theorem next (h : Written (p :: ps)) : ∀ q ∈ ps.head?, p.Apart q :=
  (List.isChain_cons.mp h.apart).1

theorem veil (h : Written ps) : Written (ps.map Piece.veil) := by
  constructor
  · intro q hq
    obtain ⟨p, hp, rfl⟩ := List.mem_map.mp hq
    exact Piece.veil_legible (h.legible p hp)
  · exact List.isChain_map_of_isChain Piece.veil (fun _ _ apart => apart.veil) h.apart

theorem solid (h : Written ps) : ∀ c ∈ flat ps, Piece.Solid c := by
  intro c hc
  obtain ⟨p, hp, hc⟩ := List.mem_flatMap.mp hc
  exact Piece.text_solid (h.legible p hp) c hc

/-- A text stops before what is no word. -/
theorem stops (next : ∀ q ∈ ps.head?, q.isWord = false) : Stops (flat ps) := by
  cases ps with
  | nil => simp [flat, Stops]
  | cons q ps =>
    have word := next q rfl
    intro c hc
    cases q with
    | name | number => cases word
    | sign op =>
      obtain rfl : op.symbol = c := by simpa [flat_cons, Piece.text] using hc
      cases op <;> decide
    | opening | closing =>
      simp only [flat_cons, Piece.text, List.cons_append, List.head?_cons, Option.mem_some] at hc
      simp [← hc]

/-- What an operand begins with makes no longer mark together with a sign. -/
theorem head_of_begins (h : Written ps) (next : ∀ q ∈ ps.head?, q.begins) :
    ∀ c ∈ (flat ps).head?, c ∉ ['*', '/', '=', '>'] := by
  cases ps with
  | nil => simp [flat]
  | cons q ps =>
    have operand := next q rfl
    obtain ⟨d, text, chars⟩ := List.exists_cons_of_ne_nil (Piece.text_ne_nil h.head)
    intro c hc
    obtain rfl : d = c := by simpa [flat_cons, chars] using hc
    cases q with
    | sign op =>
      obtain rfl : op = .sub := by simpa [Piece.begins] using operand
      obtain ⟨rfl, -⟩ : '-' = d ∧ [] = text := by simpa [Piece.text, BinaryOp.symbol] using chars
      decide
    | opening =>
      obtain ⟨rfl, -⟩ : '(' = d ∧ [] = text := by simpa [Piece.text] using chars
      decide
    | closing => cases operand
    | name id =>
      have identifier := h.head.identifier
      rw [Piece.text] at chars
      simp only [chars, Text.isIdentifier, Bool.and_eq_true] at identifier
      have cases := Text.identifierStart_cases identifier.1
      simp only [List.mem_cons, List.not_mem_nil, or_false]
      rintro (rfl | rfl | rfl | rfl) <;> revert cases <;> decide
    | number l =>
      have digit : d.isDigit := by
        obtain ⟨e, more, whole⟩ := List.exists_cons_of_ne_nil l.whole_ne_nil
        obtain ⟨rfl, -⟩ : e = d ∧ more ++ l.tailText = text := by
          simpa [Piece.text, l.text_eq, whole] using chars
        exact l.whole_digits e (by simp [whole])
      simp only [List.mem_cons, List.not_mem_nil, or_false]
      rintro (rfl | rfl | rfl | rfl) <;> simp at digit

theorem lexeme (h : Written (p :: ps)) (short : p.isLong = false) :
    lexeme? (flat (p :: ps)) = some (p.kind, p.text.length) := by
  rw [flat_cons]
  cases p with
  | sign op => exact lexeme_sign op (h.tail.head_of_begins h.next)
  | opening => exact lexeme_opening _
  | closing => exact lexeme_closing _
  | name id => exact lexeme_name h.head (stops h.next)
  | number l =>
    simp only [Piece.isLong, decide_eq_false_iff_not, not_le] at short
    exact lexeme_number h.head short (stops h.next)

end Written

end Reckoner.Source
