import Mathlib
import Reckoner.Proofs.Source.Derivation
import Reckoner.Proofs.Source.Pieces
import Reckoner.Proofs.Source.PlainScan

/-! The way of a text made of pieces through hiding, scanning and restoring: what comes out are
the kinds of its pieces and the end of the text. -/

namespace Reckoner.Source

/-- The long integers among pieces that begin at a byte offset. -/
def hiddenAt : Nat → List Piece → LongIntegers
  | _, [] => []
  | offset, p :: ps =>
    let rest := hiddenAt (offset + byteSize p.text) ps
    if p.isLong then (offset, p.text) :: rest else rest

/-- The tokens of pieces that begin at a position. -/
def tokensAt : Position → List Piece → List Token
  | position, [] => [⟨.finish, position⟩]
  | position, p :: ps => ⟨p.kind, position⟩ :: tokensAt (position.advance p.text) ps

/-- How many parentheses are open after pieces, when none is closed too early. -/
def depthAfter : Nat → List Piece → Option Nat
  | depth, [] => some depth
  | depth, .opening :: ps => depthAfter (depth + 1) ps
  | depth, .closing :: ps => if depth = 0 then none else depthAfter (depth - 1) ps
  | depth, _ :: ps => depthAfter depth ps

theorem depthAfter_append (depth : Nat) (ps qs : List Piece) :
    depthAfter depth (ps ++ qs) = (depthAfter depth ps).bind (depthAfter · qs) := by
  induction ps generalizing depth with
  | nil => rfl
  | cons p ps ih =>
    cases p with
    | closing =>
      rw [List.cons_append, depthAfter, depthAfter]
      split
      · rfl
      · exact ih _
    | sign | opening | name | number => exact ih _

theorem depthAfter_veil (depth : Nat) (ps : List Piece) :
    depthAfter depth (ps.map Piece.veil) = depthAfter depth ps := by
  induction ps generalizing depth with
  | nil => rfl
  | cons p ps ih =>
    cases p with
    | number l =>
      have plain (q : Piece) (h : q.isWord) : depthAfter depth (q :: ps.map Piece.veil) =
          depthAfter depth (ps.map Piece.veil) := by
        cases q <;> first | rfl | cases h
      rw [List.map_cons, plain _ (Piece.isWord_veil _)]
      exact ih _
    | closing =>
      rw [List.map_cons, depthAfter]
      show (if depth = 0 then none else depthAfter (depth - 1) (ps.map Piece.veil)) = _
      rw [ih]
    | sign | opening | name => exact ih _

section Hiding

theorem Piece.shortRuns {p : Piece} (h : p.Legible) (word : p.isWord) (short : p.isLong = false) :
    ShortRuns p.text := by
  cases p with
  | name id => exact h.short
  | number l =>
    simp only [isLong, decide_eq_false_iff_not, not_le] at short
    exact .of_length short
  | sign | opening | closing => cases word

theorem Piece.length_of_isLong {p : Piece} (long : p.isLong) :
    longIntegerDigits ≤ p.text.length := by
  cases p with
  | number l =>
    simp only [isLong, decide_eq_true_eq] at long
    exact long
  | sign | opening | closing | name => cases long

theorem Piece.mark_text {p : Piece} (mark : p.isWord = false) :
    ∃ c, p.text = [c] ∧ c.isDigit = false ∧ joinsDigits c = false ∧ p.isLong = false := by
  cases p with
  | name | number => cases mark
  | sign op => exact ⟨op.symbol, rfl, by cases op <;> decide, by cases op <;> decide, rfl⟩
  | opening => exact ⟨'(', rfl, by decide, by decide, rfl⟩
  | closing => exact ⟨')', rfl, by decide, by decide, rfl⟩

theorem Written.apart_word {p : Piece} {ps : List Piece} (h : Written (p :: ps)) (word : p.isWord) :
    ∀ q ∈ ps.head?, q.isWord = false := by
  intro q hq
  have apart := h.next q hq
  cases p with
  | name | number => exact apart
  | sign | opening | closing => cases word

theorem hideFrom_pieces {ps : List Piece} (h : Written ps) {fuel : Nat} {before : Option Char}
    (offset : Nat) (enough : (flat ps).length < fuel)
    (alone : ∀ q ∈ ps.head?, q.isWord → before.any joinsDigits = false) :
    hideFrom fuel before offset (flat ps) = (flat (ps.map Piece.veil), hiddenAt offset ps) := by
  induction ps generalizing fuel before offset with
  | nil =>
    cases fuel with
    | zero => omega
    | succ fuel => rfl
  | cons p ps ih =>
    rw [flat_cons, List.length_append] at enough
    have wide := List.length_pos_iff.mpr (Piece.text_ne_nil h.head)
    have apart : p.isWord → ∀ before : Option Char, ∀ q ∈ ps.head?, q.isWord →
        before.any joinsDigits = false := by
      intro word before q hq next
      rw [h.apart_word word q hq] at next
      cases next
    rw [List.map_cons, flat_cons, flat_cons, Piece.text_veil, hiddenAt]
    cases word : p.isWord with
    | false =>
      obtain ⟨c, text, digit, joins, short⟩ := Piece.mark_text word
      cases fuel with
      | zero => omega
      | succ fuel =>
        have next : ∀ q ∈ ps.head?, q.isWord → (some c).any joinsDigits = false :=
          fun _ _ _ => joins
        simp only [text, List.length_singleton] at enough
        have rest : hideFrom fuel (some c) (offset + c.utf8Size) (flat ps) = _ :=
          ih h.tail _ (by omega) next
        rw [text, List.singleton_append, hideFrom_mark digit, rest, short]
        simp [byteSize]
    | true =>
      have stops := Written.stops (h.apart_word word)
      cases long : p.isLong with
      | false =>
        have after (fuel : Nat) (before : Option Char) (enough : (flat ps).length < fuel) :
            hideFrom fuel before (offset + byteSize p.text) (flat ps) = _ :=
          ih h.tail _ enough (apart word before)
        have all := hideFrom_append (p.shortRuns h.head word long) offset (stops.any (by decide))
          after fuel before (by rwa [List.length_append])
        rw [all]
        rfl
      | true =>
        have digits := Piece.digits_of_isLong h.head long
        have size := Piece.length_of_isLong long
        obtain ⟨d, more, first⟩ := List.exists_cons_of_ne_nil (Piece.text_ne_nil h.head)
        rw [byteSize_digits digits]
        rw [first] at enough wide digits size ⊢
        cases fuel with
        | zero => omega
        | succ fuel =>
          have rest : hideFrom fuel (some d) (offset + (d :: more).length) (flat ps) = _ :=
            ih h.tail _ (by omega) (apart word (some d))
          rw [hideFrom_long digits size (alone p rfl word) (stops.any (by decide)), rest]
          rfl

end Hiding

section Scanning

/-- Only parentheses are open. -/
def Round (brackets : List (Char × Position)) : Prop := ∀ bracket ∈ brackets, bracket.1 = '('

theorem not_mem_of_solid {cs : List Char} (solid : ∀ c ∈ cs, Piece.Solid c) {b : Char}
    (other : ¬Piece.Solid b) : b ∉ cs :=
  fun member => other (solid b member)

theorem scanBy_solid {lexeme : List Char → Option (TokenKind × Nat)} {fuel : Nat}
    {state : ScanState} {c : Char} {rest : List Char}
    (within : (state.lineBegins && state.brackets.isEmpty) = false)
    (solid : ∀ d ∈ c :: rest, Piece.Solid d) :
    scanBy lexeme (fuel + 1) state (c :: rest) =
      scanLexeme lexeme (scanBy lexeme fuel) state c rest := by
  have first := solid c List.mem_cons_self
  have blank : isInlineBlank c = false := by
    rw [← Bool.not_eq_true]
    intro blank
    rcases inlineBlank_cases blank with rfl | rfl | rfl <;> revert first <;> decide
  exact scanBy_token within (not_mem_of_solid solid (by decide)) blank first.2.1 first.2.2.1

/-- A piece that closes nothing too early fits the open brackets. -/
theorem exists_brackets {p : Piece} {ps : List Piece} {state : ScanState} {c : Char}
    {more : List Char} (text : p.text = c :: more) (round : Round state.brackets)
    (closed : depthAfter state.brackets.length (p :: ps) = some 0) :
    ∃ brackets, bracketsAfter p.kind c state = .ok brackets ∧
      Round brackets ∧ depthAfter brackets.length ps = some 0 := by
  cases p with
  | name | number => exact ⟨state.brackets, rfl, round, closed⟩
  | sign op =>
    obtain ⟨rfl, -⟩ : op.symbol = c ∧ [] = more := by simpa [Piece.text] using text
    refine ⟨state.brackets, ?_, round, closed⟩
    cases op <;> rfl
  | opening =>
    obtain ⟨rfl, -⟩ : '(' = c ∧ [] = more := by simpa [Piece.text] using text
    exact ⟨('(', state.position) :: state.brackets, rfl,
      List.forall_mem_cons.mpr ⟨rfl, round⟩, closed⟩
  | closing =>
    obtain ⟨rfl, -⟩ : ')' = c ∧ [] = more := by simpa [Piece.text] using text
    cases brackets : state.brackets with
    | nil => simp [depthAfter, brackets] at closed
    | cons bracket outer =>
      obtain ⟨opening, place⟩ := bracket
      rw [Round, brackets, List.forall_mem_cons] at round
      obtain ⟨rfl, round⟩ := round
      refine ⟨outer, ?_, round, by simpa [depthAfter, brackets] using closed⟩
      simp [bracketsAfter, Piece.kind, bracketStep, brackets, Mark.closerOf]

theorem Written.scan {ps : List Piece} (h : Written ps) (short : ∀ p ∈ ps, p.isLong = false)
    {fuel : Nat} {state : ScanState} (enough : ps.length < fuel) (round : Round state.brackets)
    (within : (state.lineBegins && state.brackets.isEmpty) = false)
    (closed : depthAfter state.brackets.length ps = some 0) :
    scanBy lexeme? fuel state (flat ps) = tokensAt state.position ps := by
  induction ps generalizing fuel state with
  | nil =>
    have none : state.brackets = [] := by simpa [depthAfter] using closed
    cases fuel with
    | zero => omega
    | succ fuel =>
      show scanBy lexeme? (fuel + 1) state [] = [⟨.finish, state.position⟩]
      rw [scanBy_nil within]
      simp [lastToken, none]
  | cons p ps ih =>
    obtain ⟨c, more, text⟩ := List.exists_cons_of_ne_nil (Piece.text_ne_nil h.head)
    have solid := h.solid
    have lexeme := h.lexeme (short p List.mem_cons_self)
    obtain ⟨brackets, fits, round, closed⟩ := exists_brackets text round closed
    have chars : flat (p :: ps) = c :: (more ++ flat ps) := by simp [flat_cons, text]
    cases fuel with
    | zero => omega
    | succ fuel =>
      rw [chars] at lexeme solid
      rw [chars, scanBy_solid within solid, scanLexeme, lexeme]
      simp only [fits]
      rw [← chars, flat_cons, List.take_left, List.drop_left, tokensAt]
      rw [ih h.tail (fun q hq => short q (List.mem_cons_of_mem _ hq)) (by simpa using enough) round
        rfl closed]

theorem trimBy_of_solid {cs : List Char} (solid : ∀ c ∈ cs, Piece.Solid c) :
    Text.trimBy Text.isBlank cs = cs := by
  refine Text.trimBy_of_ends ?_ ?_ <;> rw [Option.any_eq_false] <;> intro c member
  · exact (solid c (List.mem_of_mem_head? member)).1
  · exact (solid c (List.mem_of_mem_getLast? member)).1

theorem Written.length_le {ps : List Piece} (h : Written ps) : ps.length ≤ (flat ps).length := by
  induction ps with
  | nil => simp
  | cons p ps ih =>
    have wide := List.length_pos_iff.mpr (Piece.text_ne_nil h.head)
    have tail := ih h.tail
    rw [flat_cons, List.length_append, List.length_cons]
    omega

theorem Written.scan_eq {ps : List Piece} (h : Written ps) (short : ∀ p ∈ ps, p.isLong = false)
    (nonempty : ps ≠ []) (closed : depthAfter 0 ps = some 0) :
    Source.scan (flat ps) = tokensAt .start ps := by
  have length := h.length_le
  have all : scanBy lexeme? (2 * (flat ps).length + 1) ⟨.start, [], false⟩ (flat ps) = _ :=
    h.scan short (by omega) (by simp [Round]) rfl closed
  have line := not_mem_of_solid h.solid (b := '\n') (by decide)
  have carriage := not_mem_of_solid h.solid (b := '\r') (by decide)
  have null := not_mem_of_solid h.solid (b := '\x00') (by decide)
  rw [Source.scan, scanWith_eq null, unifyLineEnds_eq carriage]
  obtain ⟨p, rest, rfl⟩ := List.exists_cons_of_ne_nil nonempty
  obtain ⟨c, more, text⟩ := List.exists_cons_of_ne_nil (Piece.text_ne_nil h.head)
  have solid : Piece.Solid c := Piece.text_solid h.head c (by simp [text])
  rw [flat_cons, text, List.cons_append] at line all ⊢
  exact (scanBy_begin solid.1 solid.2.1 line).trans all

end Scanning

section Restoring

theorem byteColumn_advance {cs : List Char} (line : '\n' ∉ cs) (position : Position) :
    (position.advance cs).byteColumn = position.byteColumn + byteSize cs := by
  induction cs generalizing position with
  | nil => rfl
  | cons c cs ih =>
    simp only [List.mem_cons, not_or] at line
    have step : (position.step c).byteColumn = position.byteColumn + c.utf8Size := by
      rw [Position.step, if_neg (Ne.symm line.1)]
    have tail := ih line.2 (position.step c)
    rw [Position.advance] at tail
    rw [Position.advance, List.foldl_cons, tail, step, byteSize_cons, Nat.add_assoc]

theorem hiddenAt_offset {offset : Nat} {ps : List Piece} {entry : Nat × List Char}
    (h : entry ∈ hiddenAt offset ps) : offset ≤ entry.1 := by
  induction ps generalizing offset with
  | nil => cases h
  | cons p ps ih =>
    rw [hiddenAt] at h
    split at h
    · rcases List.mem_cons.mp h with rfl | h
      · exact le_rfl
      · exact (Nat.le_add_right _ _).trans (ih h)
    · exact (Nat.le_add_right _ _).trans (ih h)

/-- The entries of earlier pieces begin before the ones from here on. -/
theorem find_earlier {earlier hidden : LongIntegers} {offset : Nat}
    (before : ∀ entry ∈ earlier, entry.1 < offset) :
    (earlier ++ hidden).find? (·.1 == offset) = hidden.find? (·.1 == offset) := by
  have none : earlier.find? (·.1 == offset) = none := by
    refine List.find?_eq_none.mpr fun entry member => ?_
    simpa using (before entry member).ne
  rw [List.find?_append, none, Option.none_or]

theorem Piece.kind_of_isLong {p : Piece} (h : p.Legible) (long : p.isLong) :
    p.kind = .number .integer p.text := by
  cases p with
  | number l =>
    have integer := isInteger_of_isLong h long
    simp [kind, text, Literal.kind, integer.1]
  | sign | opening | closing | name => cases long

theorem Piece.byteSize_pos {p : Piece} (h : p.Legible) : 0 < byteSize p.text := by
  obtain ⟨c, more, text⟩ := List.exists_cons_of_ne_nil (Piece.text_ne_nil h)
  have wide := c.utf8Size_pos
  rw [text, byteSize_cons]
  omega

/-- The entry of the first piece, if it has one, counts as an earlier entry for the others. -/
theorem exists_earlier {p : Piece} (ps : List Piece) (h : p.Legible) {earlier : LongIntegers}
    {offset : Nat} (before : ∀ entry ∈ earlier, entry.1 < offset) :
    ∃ more, earlier ++ hiddenAt offset (p :: ps) =
        more ++ hiddenAt (offset + byteSize p.text) ps ∧
      ∀ entry ∈ more, entry.1 < offset + byteSize p.text := by
  have wide := Piece.byteSize_pos h
  have early : ∀ entry ∈ earlier, entry.1 < offset + byteSize p.text := fun entry member =>
    (before entry member).trans_le (Nat.le_add_right _ _)
  rw [hiddenAt]
  split
  · refine ⟨earlier ++ [(offset, p.text)], by simp, ?_⟩
    simp only [List.forall_mem_append, List.forall_mem_singleton]
    exact ⟨early, by omega⟩
  · exact ⟨earlier, rfl, early⟩

theorem restore_veil {p : Piece} (ps : List Piece) (h : p.Legible) {position : Position}
    {earlier : LongIntegers} (before : ∀ entry ∈ earlier, entry.1 < position.byteColumn) :
    restore (earlier ++ hiddenAt position.byteColumn (p :: ps)) ⟨p.veil.kind, position⟩ =
      p.kind := by
  have wide := Piece.byteSize_pos h
  cases long : p.isLong with
  | true =>
    have veiled : p.veil = .name (Piece.line p.text.length) := if_pos long
    rw [Piece.kind_of_isLong h long, veiled]
    simp only [restore, Piece.kind, find_earlier before, hiddenAt, long, if_true, List.find?_cons,
      beq_self_eq_true]
  | false =>
    have plain : p.veil = p := if_neg (by simp [long])
    have later : (hiddenAt position.byteColumn (p :: ps)).find? (·.1 == position.byteColumn) =
        none := by
      refine List.find?_eq_none.mpr fun entry member => ?_
      rw [hiddenAt, if_neg (by simp [long])] at member
      have := hiddenAt_offset member
      simp only [beq_iff_eq]
      omega
    rw [plain]
    cases p with
    | name id => simp only [restore, Piece.kind, find_earlier before, later]
    | sign | opening | closing | number => rfl

theorem restore_tokensAt {ps : List Piece} (h : Written ps) {position : Position}
    {earlier : LongIntegers} (before : ∀ entry ∈ earlier, entry.1 < position.byteColumn) :
    (tokensAt position (ps.map Piece.veil)).map
      (restore (earlier ++ hiddenAt position.byteColumn ps)) = ps.map Piece.kind ++ [.finish] := by
  induction ps generalizing position earlier with
  | nil => simp [tokensAt, restore]
  | cons p ps ih =>
    have first := restore_veil ps h.head before
    obtain ⟨more, same, early⟩ := exists_earlier ps h.head before
    have column : (position.advance p.veil.text).byteColumn =
        position.byteColumn + byteSize p.text := by
      have line := not_mem_of_solid (Piece.text_solid (Piece.veil_legible h.head)) (b := '\n')
        (by decide)
      rw [byteColumn_advance line, Piece.byteSize_text_veil h.head]
    rw [← column] at same early
    rw [List.map_cons, tokensAt, List.map_cons, List.map_cons, List.cons_append, first, same,
      ih h.tail early]

/-- A text made of pieces is scanned into their kinds. -/
theorem scan_pieces {ps : List Piece} (h : Written ps) (nonempty : ps ≠ [])
    (closed : depthAfter 0 ps = some 0) :
    let text := Text.trimBy Text.isBlank (flat ps)
    (Source.scan (hideLongIntegers text).1).map (restore (hideLongIntegers text).2) =
      ps.map Piece.kind ++ [.finish] := by
  have hides : hideLongIntegers (flat ps) = (flat (ps.map Piece.veil), hiddenAt 0 ps) :=
    hideFrom_pieces h 0 (Nat.lt_succ_self _) (by simp)
  have short : ∀ q ∈ ps.map Piece.veil, q.isLong = false := by
    simp [Piece.isLong_veil]
  rw [trimBy_of_solid h.solid]
  dsimp only
  rw [hides, h.veil.scan_eq short (by simpa using nonempty) (by rwa [depthAfter_veil])]
  have early : ∀ entry ∈ ([] : LongIntegers), entry.1 < Position.start.byteColumn := by simp
  exact restore_tokensAt h early

end Restoring

end Reckoner.Source
