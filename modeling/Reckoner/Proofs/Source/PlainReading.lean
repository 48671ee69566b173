import Mathlib
import Reckoner.Proofs.Source.Transparency

/-! Reading as if nothing were hidden. A text without long runs of digits, and a single line whose
long runs touch no character outside ASCII, is read as its tokens say when integers have no limit.
Hidden integers are brought back by their column within a line, though they were put down by their
place in the whole text, so after a line end a name takes their place. -/

namespace Reckoner.Source

section ShortRuns

theorem indentation_suffix (joined width : Nat) (taken cs : List Char) :
    (indentation joined width taken cs).2.2 <:+ cs := by
  induction joined, width, taken, cs using indentation.induct with
  | case1 _ _ _ _ ih | case2 _ _ _ _ ih | case3 _ _ _ _ ih =>
    rw [indentation]
    exact ih.trans (List.suffix_cons _ _)
  | case4 joined width taken c rest ih =>
    rw [indentation]
    exact ih.trans ((List.suffix_cons _ _).trans (List.suffix_cons _ _))
  | case5 =>
    rw [indentation]
    all_goals assumption

variable {ctx : Context} {fuel : Nat} {state : ScanState} {c : Char} {cs : List Char}

/-- Without long runs the scanner refuses no integer of the language. -/
theorem agree_of_shortRuns (short : ShortRuns cs) : Agree (lexeme? cs) (plainLexeme? cs) := by
  rcases plainLexeme_cases cs with same | ⟨refused, whole, rest, integer⟩
  · exact .inl same.symm
  · refine .inr ⟨by rw [refused]; exact useless_none, ?_⟩
    rw [integer.plainLexeme]
    rintro _ ⟨⟩
    by_contra plain
    have plain := Bool.of_not_eq_false plain
    have digits := integer.digits plain
    have inside : whole <:+: cs := by
      rw [← integer.split]
      exact (List.prefix_append _ _).isInfix
    have few := short whole inside digits
    have many := integer.long digits refused
    omega

/-- A null character is refused on both sides. -/
theorem alike_scanWith {hidden : LongIntegers} {cs shown : List Char}
    (same : '\x00' ∈ shown ↔ '\x00' ∈ cs)
    (alike : '\x00' ∉ cs → ReadAlike ctx hidden
      (scanBy lexeme? (2 * (unifyLineEnds shown).length + 2) ⟨.start, [], true⟩
        (unifyLineEnds shown))
      (scanBy plainLexeme? (2 * (unifyLineEnds cs).length + 2) ⟨.start, [], true⟩
        (unifyLineEnds cs))) :
    ReadAlike ctx hidden (scan shown) (plainScan cs) := by
  rw [scan, plainScan]
  by_cases null : '\x00' ∈ cs
  · rw [scanWith_null null, scanWith_null (same.mpr null)]
    exact .inl rfl
  · rw [scanWith_eq null, scanWith_eq (mt same.mp null)]
    exact alike null

theorem alike_scanLexeme (agree : Agree (lexeme? (c :: cs)) (plainLexeme? (c :: cs)))
    (alike : ∀ state n, ReadAlike ctx [] (scanBy lexeme? fuel state ((c :: cs).drop n))
      (scanBy plainLexeme? fuel state ((c :: cs).drop n))) :
    ReadAlike ctx [] (scanLexeme lexeme? (scanBy lexeme? fuel) state c cs)
      (scanLexeme plainLexeme? (scanBy plainLexeme? fuel) state c cs) := by
  rcases agree with same | ⟨useless, useless'⟩
  · unfold scanLexeme
    rw [← same]
    split
    · exact .inl rfl
    split
    · exact .inl rfl
    · exact ReadAlike.cons (restore_nil _) (alike _ _)
  · exact .inr ⟨dead_scanLexeme useless, dead_scanLexeme useless'⟩

theorem scans_alike_short (fuel : Nat) (state : ScanState) (short : ShortRuns cs) :
    ReadAlike ctx [] (scanBy lexeme? fuel state cs) (scanBy plainLexeme? fuel state cs) := by
  induction fuel generalizing state cs with
  | zero => exact .inl rfl
  | succ fuel ih =>
    have later {part : List Char} (inside : part <:+ cs) (state : ScanState) :
        ReadAlike ctx [] (scanBy lexeme? fuel state part) (scanBy plainLexeme? fuel state part) :=
      ih state (short.mono inside.isInfix)
    unfold scanBy
    split
    · have inside := indentation_suffix 0 0 [] cs
      generalize indentation 0 0 [] cs = indented at inside
      obtain ⟨width, taken, rest⟩ := indented
      dsimp only at inside ⊢
      split
      · exact later ((List.suffix_cons _ _).trans inside) _
      · split
        · have left := (List.dropWhile_suffix fun d => decide (d ≠ '\n')).trans inside
          split
          · exact .inl rfl
          · rename_i next
            rw [next] at left
            exact later ((List.suffix_cons _ _).trans left) _
        split
        · exact .inl rfl
        · exact later inside _
      · exact .inl rfl
    split
    · exact .inl rfl
    · exact later ((List.suffix_cons _ _).trans (List.suffix_cons _ _)) _
    · split
      · exact later (List.suffix_cons _ _) _
      split
      · exact later (List.dropWhile_suffix _) _
      split
      · dsimp only
        split
        · exact ReadAlike.cons (restore_nil _) (later (List.suffix_cons _ _) _)
        · exact later (List.suffix_cons _ _) _
      split
      · exact .inl rfl
      · exact alike_scanLexeme (agree_of_shortRuns short) fun state n =>
          later (List.drop_suffix _ _) state

theorem prefix_of_unify {run cs : List Char} (digits : ∀ c ∈ run, c.isDigit)
    (h : run <+: unifyLineEnds cs) : run <+: cs := by
  induction run generalizing cs with
  | nil => exact List.nil_prefix
  | cons d run ih =>
    obtain ⟨digit, digits⟩ := List.forall_mem_cons.mp digits
    unfold unifyLineEnds at h
    split at h
    · rw [(List.cons_prefix_cons.mp h).1] at digit
      cases digit
    · rw [(List.cons_prefix_cons.mp h).1] at digit
      cases digit
    · obtain ⟨rfl, tail⟩ := List.cons_prefix_cons.mp h
      exact List.cons_prefix_cons.mpr ⟨rfl, ih digits tail⟩
    · exact absurd (List.prefix_nil.mp h) (by simp)

theorem infix_of_unify {run cs : List Char} (digits : ∀ c ∈ run, c.isDigit)
    (h : run <:+: unifyLineEnds cs) : run <:+: cs := by
  have step {d : Char} {cs rest : List Char} (unified : unifyLineEnds cs = d :: unifyLineEnds rest)
      (inside : rest <:+ cs) (h : run <:+: unifyLineEnds cs)
      (ih : run <:+: unifyLineEnds rest → run <:+: rest) : run <:+: cs := by
    rcases List.infix_cons_iff.mp (unified ▸ h) with start | tail
    · exact (prefix_of_unify digits (unified ▸ start)).isInfix
    · exact (ih tail).trans inside.isInfix
  induction cs using unifyLineEnds.induct with
  | case1 rest ih =>
    exact step (by rw [unifyLineEnds]) ((List.suffix_cons _ _).trans (List.suffix_cons _ _)) h ih
  | case2 rest other ih =>
    exact step (by rw [unifyLineEnds]; exact other) (List.suffix_cons _ _) h ih
  | case3 c rest pair single ih =>
    exact step (by rw [unifyLineEnds] <;> assumption) (List.suffix_cons _ _) h ih
  | case4 => exact h

theorem alike_short (short : ShortRuns cs) :
    ReadAlike ctx [] (scan cs) (plainScan cs) := by
  refine alike_scanWith Iff.rfl fun null => ?_
  have unified : ShortRuns (unifyLineEnds cs) := fun run inside digits =>
    short run (infix_of_unify digits inside) digits
  exact scans_alike_short _ _ unified

end ShortRuns

section Line

variable {ctx : Context} {text : List Char}

theorem head_trimBy {drop : Char → Bool} {cs : List Char} :
    (Text.trimBy drop cs).head?.any drop = false := by
  have front := head_dropWhile drop cs
  have kept : Text.trimBy drop cs <+: cs.dropWhile drop := by
    have suffix : (cs.dropWhile drop).reverse.dropWhile drop <:+ (cs.dropWhile drop).reverse :=
      List.dropWhile_suffix drop
    simpa [Text.trimBy] using List.reverse_prefix.mpr suffix
  obtain ⟨rest, split⟩ := kept
  cases trimmed : Text.trimBy drop cs with
  | nil => rfl
  | cons c more =>
    rw [← split, trimmed] at front
    exact front

theorem detached_of_ascii (ascii : ∀ c ∈ text, c.toNat < 128) : Detached text := by
  rintro before run after rfl - -
  constructor
  · intro c hc
    exact ascii c (by simp [List.mem_of_getLast? hc])
  · intro c hc
    exact ascii c (by simp [List.mem_of_head? hc])

theorem veil_hideLongIntegers (detached : Detached text) :
    Veil none 0 text (hideLongIntegers text).1 (hideLongIntegers text).2 :=
  veil_hideFrom (text.length + 1) [] text 0 detached (Nat.lt_succ_self _) rfl rfl

/-- A line and what is shown of it begin alike. -/
theorem alike_line (head : text.head?.any Text.isBlank = false) (newline : '\n' ∉ text)
    (carriage : '\r' ∉ text) (detached : Detached text) :
    ReadAlike ctx (hideLongIntegers text).2 (scan (hideLongIntegers text).1) (plainScan text) := by
  have veil := veil_hideLongIntegers detached
  generalize (hideLongIntegers text).1 = shown at veil ⊢
  generalize (hideLongIntegers text).2 = hidden at veil ⊢
  have newline' := mt (veil.mem_iff (by decide) (by decide)).mp newline
  have carriage' := mt (veil.mem_iff (by decide) (by decide)).mp carriage
  have veiled : Veiled hidden 0 text shown := ⟨none, hidden, veil, fun _ => rfl, fun _ _ => rfl⟩
  have along : ReadAlike ctx hidden _ _ :=
    scans_alike (2 * text.length + 1) ⟨.start, [], false⟩ text shown rfl newline veiled
  refine alike_scanWith (veil.mem_iff (by decide) (by decide)) fun _ => ?_
  rw [unifyLineEnds_eq carriage, unifyLineEnds_eq carriage', veil.length_eq]
  cases text with
  | nil =>
    cases veil
    exact .inl rfl
  | cons c rest =>
    obtain ⟨d, rest', rfl, same⟩ : ∃ d rest', shown = d :: rest' ∧
        (d = c ∨ d = '_' ∧ c.isDigit) := by
      rcases veil.cons_cases with ⟨-, rest', rfl, -⟩ | ⟨ds, after, after', -, rfl, rfl, -⟩ |
        ⟨ds, after, after', found, digits, rfl, -, rfl, -⟩
      · exact ⟨c, rest', rfl, .inl rfl⟩
      · exact ⟨c, _, rfl, .inl rfl⟩
      · exact ⟨'_', _, rfl, .inr ⟨rfl, digits c List.mem_cons_self⟩⟩
    by_cases comment : c = '#'
    · subst comment
      obtain rfl : d = '#' := by
        rcases same with rfl | ⟨-, digit⟩
        · rfl
        · cases digit
      rw [scanBy_comment newline, scanBy_comment newline', veil.advance]
      exact .inl rfl
    · have solid : Text.isBlank d = false ∧ d ≠ '#' := by
        rcases same with rfl | ⟨rfl, -⟩
        · exact ⟨head, comment⟩
        · decide
      rw [scanBy_begin head comment newline, scanBy_begin solid.1 solid.2 newline']
      exact along

end Line

section Reading

variable {ctx : Context}

/-- A hidden integer that is brought back stands for what it is. -/
theorem accepted_digits {ds : List Char} (digits : ∀ c ∈ ds, c.isDigit) (e : Expr) :
    Accepted ctx (.number .integer ds) e ↔ Denotes ctx (.number .integer ds) e := by
  have integer {l : Literal} (text : l.text = ds) : l.IsInteger := l.isInteger_iff.mpr fun c hc => by
    have digit := digits c (text ▸ hc)
    constructor <;> rintro rfl <;> cases digit
  constructor
  · intro h
    obtain ⟨l, rfl⟩ := exists_literal h.plain
    rw [(accepted_integer (integer rfl)).mp h]
    exact .integer _ l (integer rfl)
  · intro h
    generalize split : TokenKind.number .integer ds = k at h
    cases h with
    | name => cases split
    | integer _ l whole =>
      cases split
      exact (accepted_integer whole).mpr rfl
    | decimal _ l real =>
      cases split
      exact absurd (integer rfl) real

theorem accepted_restored {hidden : LongIntegers} {ts : List Token} (shaped : Shaped ts)
    (digits : ∀ entry ∈ hidden, ∀ c ∈ entry.2, c.isDigit) :
    ∀ k ∈ ts.map (restore hidden), ∀ e, Accepted ctx k e ↔ Denotes ctx k e := by
  intro k hk e
  obtain ⟨t, ht, rfl⟩ := List.mem_map.mp hk
  unfold restore
  split
  · split
    · rename_i found
      exact accepted_digits (digits _ (List.mem_of_find?_eq_some found)) e
    · exact accepted_iff_denotes (by simp)
  · exact accepted_iff_denotes fun kind text same => shaped.number (by
      rw [← same]
      exact List.mem_map_of_mem ht)

/-- The hiding does not show. A text without long runs of digits, and a single line whose long
runs touch no character outside ASCII, is read as the expression that its tokens derive when
integers have no limit and nothing is hidden, and refused with issues when they derive none. -/
theorem read_plainly (ctx : Context) (source : String)
    (plain : ShortRuns (Text.trimBy Text.isBlank source.toList) ∨
      Detached (Text.trimBy Text.isBlank source.toList) ∧
        '\n' ∉ Text.trimBy Text.isBlank source.toList ∧
          '\r' ∉ Text.trimBy Text.isBlank source.toList) :
    (∀ e, read ctx source = .ok e ↔ Sentence (Denotes ctx) (plainTokensOf source) e) ∧
      ((∀ e, ¬Sentence (Denotes ctx) (plainTokensOf source) e) →
        ∃ issues, read ctx source = .error issues ∧ issues ≠ []) := by
  have tokens : plainTokensOf source =
      (plainScan (Text.trimBy Text.isBlank source.toList)).map (restore []) :=
    List.map_congr_left fun t _ => (restore_nil t).symm
  have accepts (e : Expr) :
      read ctx source = .ok e ↔ Sentence (Denotes ctx) (plainTokensOf source) e := by
    have head : (Text.trimBy Text.isBlank source.toList).head?.any Text.isBlank = false :=
      head_trimBy
    rw [read_iff, tokens]
    generalize Text.trimBy Text.isBlank source.toList = text at head plain
    have digits : ∀ entry ∈ (hideLongIntegers text).2, ∀ c ∈ entry.2, c.isDigit := by
      rcases plain with short | ⟨detached, -⟩
      · simp [hideLongIntegers_short short]
      · exact (veil_hideLongIntegers detached).entry_digits
    rw [sentence_congr (accepted_restored (scan_shaped _) digits)]
    refine Alike.sentence_iff ?_ e
    rcases plain with short | ⟨detached, newline, carriage⟩
    · rw [hideLongIntegers_short short]
      exact alike_short short
    · exact alike_line head newline carriage detached
  refine ⟨accepts, fun none => ?_⟩
  cases reading : read ctx source with
  | ok e => exact absurd ((accepts e).mp reading) (none e)
  | error issues => exact ⟨issues, rfl, read_eq_error reading⟩

/-- An integer without leading zeros stands for the number of its digits. -/
theorem denotes_digits {d : Char} {ds : List Char} (digits : ∀ c ∈ d :: ds, c.isDigit)
    (leading : d ≠ '0') :
    Denotes ctx (.number .integer (d :: ds)) (.constant (.exact (readDigits (d :: ds)))) := by
  have plain : Numeral.isPlain (d :: ds) = true := by
    have taken := List.takeWhile_eq_self_iff.mpr digits
    have left := List.dropWhile_eq_nil_iff.mpr digits
    simp [Numeral.isPlain, taken, left, leading]
  refine (accepted_digits digits _).mp ?_
  simp [Accepted, convertNumber, plain]

theorem digits_ones (n : Nat) : ∀ c ∈ '1' :: List.replicate n '1', c.isDigit := by
  rw [← List.replicate_succ]
  intro c hc
  rw [List.eq_of_mem_replicate hc]
  rfl

/-- An integer less a name, as a line. -/
theorem plainTokens_difference {d : Char} {ds : List Char} (digits : ∀ c ∈ d :: ds, c.isDigit)
    (leading : d ≠ '0') :
    let text := Text.trimBy Text.isBlank (String.ofList (d :: ds ++ ['-', 'x'])).toList
    (Detached text ∧ '\n' ∉ text ∧ '\r' ∉ text) ∧
      plainTokensOf (String.ofList (d :: ds ++ ['-', 'x'])) =
        [.number .integer (d :: ds), .mark .minus, .name "x", .finish] := by
  intro text
  have chars : ∀ c ∈ d :: ds ++ ['-', 'x'], Piece.Solid c ∧ c.toNat < 128 := by
    intro c hc
    rcases List.mem_append.mp hc with digit | rest
    · have value := Text.isDigit_iff.mp (digits c digit)
      exact ⟨Piece.solid_of_digit (digits c digit), by omega⟩
    · simp only [List.mem_cons, List.not_mem_nil, or_false] at rest
      rcases rest with rfl | rfl <;> decide
  have whole : text = d :: ds ++ ['-', 'x'] :=
    (congrArg _ String.toList_ofList).trans (trimBy_of_solid fun c hc => (chars c hc).1)
  have newline := not_mem_of_solid (fun c hc => (chars c hc).1) (b := '\n') (by decide)
  have carriage := not_mem_of_solid (fun c hc => (chars c hc).1) (b := '\r') (by decide)
  have null := not_mem_of_solid (fun c hc => (chars c hc).1) (b := '\x00') (by decide)
  refine ⟨?_, ?_⟩
  · rw [whole]
    exact ⟨detached_of_ascii fun c hc => (chars c hc).2, newline, carriage⟩
  have minus : plainLexeme? ['-', 'x'] = some (.mark .minus, 1) := by decide +kernel
  have name : plainLexeme? ['x'] = some (.name "x", 1) := by decide +kernel
  have rest (fuel : Nat) (position : Position) :
      (scanBy plainLexeme? (fuel + 3) ⟨position, [], false⟩ ['-', 'x']).map Token.kind =
        [.mark .minus, .name "x", .finish] := by
    have sign : scanBy plainLexeme? (fuel + 3) ⟨position, [], false⟩ ['-', 'x'] =
        scanLexeme plainLexeme? (scanBy plainLexeme? (fuel + 2)) ⟨position, [], false⟩ '-'
          ['x'] := rfl
    rw [sign, scanLexeme, minus]
    show .mark .minus :: (scanBy plainLexeme? (fuel + 2) ⟨_, [], false⟩ ['x']).map Token.kind = _
    rw [scanBy_clings (by decide) rfl (by decide), scanLexeme, name]
    rfl
  have integer : IntegerAt (d :: ds ++ ['-', 'x']) (d :: ds) ['-', 'x'] :=
    integerAt_run digits leading rfl
  have clinging := clings_of_digit (digits d List.mem_cons_self)
  have solid := (chars d List.mem_cons_self).1
  have read := integer.plainLexeme
  obtain ⟨fuel, hf⟩ : ∃ fuel, 2 * (d :: ds ++ ['-', 'x']).length + 2 = fuel + 5 :=
    ⟨2 * ds.length + 3, by simp; omega⟩
  show (plainScan text).map Token.kind = _
  rw [whole, plainScan, scanWith_eq null, unifyLineEnds_eq carriage, hf]
  rw [List.cons_append] at newline read ⊢
  rw [scanBy_begin solid.1 solid.2.1 newline, scanBy_clings clinging rfl newline, scanLexeme, read]
  dsimp only [bracketsAfter]
  rw [List.map_cons, ← List.cons_append, List.drop_left, rest]

/-- A thousand ones less a name. -/
theorem read_plainly_ones :
    let source := String.ofList ('1' :: List.replicate 999 '1' ++ ['-', 'x'])
    let text := Text.trimBy Text.isBlank source.toList
    (Detached text ∧ '\n' ∉ text ∧ '\r' ∉ text) ∧
      read { precision := 5 } source =
        .ok (.binary .sub (.constant (.exact (readDigits ('1' :: List.replicate 999 '1'))))
          (.symbol "x")) := by
  intro source text
  obtain ⟨line, tokens⟩ := plainTokens_difference (digits_ones 999) (by decide)
  refine ⟨line, ((read_plainly _ source (.inr line)).1 _).mpr ?_⟩
  rw [tokens]
  have leaf : Denotes { precision := 5 } _ _ := denotes_digits (digits_ones 999) (by decide)
  have left : Derives (Denotes { precision := 5 }) .sum _ _ :=
    .ofProduct (.ofNegation (.ofApplication (.ofAtom (.leaf leaf))))
  have right : Derives (Denotes { precision := 5 }) .product _ _ :=
    .ofNegation (.ofApplication (.ofAtom (.leaf (.name "x"))))
  exact ⟨_, 0, rfl, .sum (.inr rfl) left right⟩

end Reading

section NextLine

/-- A word in parentheses, on a line of its own. -/
def onNextLine (word : List Char) : List Char := '(' :: '\n' :: (word ++ [')'])

theorem scanWith_onNextLine {lexeme : List Char → Option (TokenKind × Nat)} {k : TokenKind}
    {w : Char} {word : List Char} (clinging : ∀ c ∈ w :: word, clings c) (hk : operand k)
    (opening : lexeme (onNextLine (w :: word)) = some (.mark .openParen, 1))
    (read : lexeme (w :: word ++ [')']) = some (k, (w :: word).length))
    (closing : lexeme [')'] = some (.mark .closeParen, 1)) :
    ∃ close finish, scanWith lexeme (onNextLine (w :: word)) =
      [⟨.mark .openParen, .start⟩, ⟨k, ⟨1, 0, 0⟩⟩, ⟨.mark .closeParen, close⟩, ⟨.finish, finish⟩] := by
  have absent (c : Char) (free : clings c = false) (other : c ≠ ')') : c ∉ w :: (word ++ [')']) := by
    rw [← List.cons_append, List.mem_append, List.mem_singleton]
    rintro (inside | same)
    · rw [clinging c inside] at free
      cases free
    · exact other same
  have null : '\x00' ∉ onNextLine (w :: word) := by
    rw [onNextLine, List.mem_cons, List.mem_cons, not_or, not_or]
    exact ⟨by decide, by decide, absent '\x00' (by decide) (by decide)⟩
  have carriage : '\r' ∉ onNextLine (w :: word) := by
    rw [onNextLine, List.mem_cons, List.mem_cons, not_or, not_or]
    exact ⟨by decide, by decide, absent '\r' (by decide) (by decide)⟩
  obtain ⟨fuel, hf⟩ : ∃ fuel, 2 * (onNextLine (w :: word)).length + 2 = fuel + 6 :=
    ⟨2 * word.length + 4, by simp [onNextLine]; omega⟩
  obtain ⟨close, hclose⟩ : ∃ close, close = (⟨1, 0, 0⟩ : Position).advance (w :: word) := ⟨_, rfl⟩
  have first : scanBy lexeme (fuel + 6) ⟨.start, [], true⟩ (onNextLine (w :: word)) =
      scanLexeme lexeme (scanBy lexeme (fuel + 4)) ⟨.start, [], false⟩ '('
        ('\n' :: (w :: word ++ [')'])) := rfl
  have second : scanBy lexeme (fuel + 4) ⟨⟨0, 1, 1⟩, [('(', .start)], false⟩
        ('\n' :: (w :: word ++ [')'])) =
      scanBy lexeme (fuel + 3) ⟨⟨1, 0, 0⟩, [('(', .start)], true⟩ (w :: (word ++ [')'])) := rfl
  have third : scanBy lexeme (fuel + 2) ⟨close, [('(', .start)], false⟩ [')'] =
      scanLexeme lexeme (scanBy lexeme (fuel + 1)) ⟨close, [('(', .start)], false⟩ ')' [] := rfl
  have operands : bracketsAfter k w ⟨⟨1, 0, 0⟩, [('(', .start)], true⟩ = .ok [('(', .start)] := by
    cases k with
    | mark => cases hk
    | name | number | keyword | string | newline | finish | unclosed | fault => rfl
  refine ⟨close, close.advance [')'], ?_⟩
  rw [scanWith_eq null, unifyLineEnds_eq carriage, hf, first, scanLexeme, ← onNextLine, opening]
  show ⟨.mark .openParen, .start⟩ :: scanBy lexeme (fuel + 4) ⟨⟨0, 1, 1⟩, [('(', .start)], false⟩
    ('\n' :: (w :: word ++ [')'])) = _
  rw [second, scanBy_clings (clinging w List.mem_cons_self) rfl
    (absent '\n' (by decide) (by decide)), scanLexeme, ← List.cons_append, read]
  dsimp only
  rw [operands]
  dsimp only
  rw [List.drop_left, List.take_left, ← hclose, third, scanLexeme, closing]
  rfl

variable {ctx : Context} {d : Char} {ds : List Char}

theorem sentence_group {leaf : TokenKind → Expr → Prop} {k : TokenKind} {e : Expr} (h : leaf k e) :
    Sentence leaf [.mark .openParen, k, .mark .closeParen, .finish] e := by
  have atom : Derives leaf .sum [k] e := .ofProduct (.ofNegation (.ofApplication (.ofAtom (.leaf h))))
  exact ⟨_, 0, rfl, .ofProduct (.ofNegation (.ofApplication (.ofAtom (.group atom))))⟩

theorem trimBy_onNextLine (word : List Char) :
    Text.trimBy Text.isBlank (onNextLine word) = onNextLine word := by
  refine Text.trimBy_of_ends rfl ?_
  rw [onNextLine, ← List.cons_append, ← List.cons_append, List.getLast?_append]
  rfl

theorem plainTokens_onNextLine (digits : ∀ c ∈ d :: ds, c.isDigit) (leading : d ≠ '0') :
    plainTokensOf (String.ofList (onNextLine (d :: ds))) =
      [.mark .openParen, .number .integer (d :: ds), .mark .closeParen, .finish] := by
  have opening : plainLexeme? (onNextLine (d :: ds)) = some (.mark .openParen, 1) := by
    rw [plainLexeme?, onNextLine, lexeme_opening]
  have integer : IntegerAt (d :: ds ++ [')']) (d :: ds) [')'] := integerAt_run digits leading rfl
  obtain ⟨close, finish, tokens⟩ :=
    scanWith_onNextLine (fun c hc => clings_of_digit (digits c hc)) rfl
    opening integer.plainLexeme rfl
  rw [plainTokensOf, String.toList_ofList, trimBy_onNextLine, plainScan, tokens]
  rfl

theorem hide_onNextLine (digits : ∀ c ∈ d :: ds, c.isDigit)
    (long : longIntegerDigits ≤ (d :: ds).length) :
    hideLongIntegers (onNextLine (d :: ds)) =
      (onNextLine (List.replicate (d :: ds).length '_'), [(2, d :: ds)]) := by
  have fuel : (onNextLine (d :: ds)).length + 1 = ds.length + 2 + 1 + 1 + 1 := by simp [onNextLine]
  have run : hideFrom (ds.length + 2 + 1) (some '\n') (0 + '('.utf8Size + '\n'.utf8Size)
      (d :: ds ++ [')']) = _ := hideFrom_long digits long rfl rfl
  rw [hideLongIntegers, fuel, onNextLine, hideFrom_mark rfl, hideFrom_mark rfl, run]
  rfl

/-- A long integer after a line end is read as the name that hides it. -/
theorem read_onNextLine (digits : ∀ c ∈ d :: ds, c.isDigit)
    (long : longIntegerDigits ≤ (d :: ds).length) :
    read ctx (String.ofList (onNextLine (d :: ds))) = .ok (.symbol (Piece.line (d :: ds).length)) := by
  have wide : 2 < (d :: ds).length := lt_of_lt_of_le (by decide) long
  have name : lexeme? ('_' :: List.replicate ds.length '_' ++ [')']) =
      some (.name (Piece.line (d :: ds).length), ('_' :: List.replicate ds.length '_').length) := by
    rw [← List.replicate_succ, List.length_replicate]
    exact lexeme_line wide rfl
  have clinging : ∀ c ∈ '_' :: List.replicate ds.length '_', clings c := by
    rw [← List.replicate_succ]
    intro c hc
    rw [List.eq_of_mem_replicate hc]
    decide
  obtain ⟨close, finish, tokens⟩ := scanWith_onNextLine clinging rfl (lexeme_opening _) name rfl
  rw [read_iff, String.toList_ofList, trimBy_onNextLine, hide_onNextLine digits long, scan,
    List.length_cons, List.replicate_succ, tokens]
  have leaf : Accepted ctx (.name (Piece.line (d :: ds).length)) (.symbol (Piece.line (d :: ds).length)) :=
    rfl
  exact sentence_group leaf

/-- Where an integer of a thousand ones stands on the next line, a name is read. -/
theorem not_read_plainly_onNextLine :
    ¬∀ e, read { precision := 5 } (String.ofList (onNextLine ('1' :: List.replicate 999 '1'))) = .ok e ↔
      Sentence (Denotes { precision := 5 })
        (plainTokensOf (String.ofList (onNextLine ('1' :: List.replicate 999 '1')))) e := by
  have digits := digits_ones 999
  have long : longIntegerDigits ≤ ('1' :: List.replicate 999 '1').length := by
    rw [List.length_cons, List.length_replicate]
    decide
  intro same
  have leaf : Denotes { precision := 5 } _ _ := denotes_digits digits (by decide)
  have derived := sentence_group leaf
  rw [← plainTokens_onNextLine digits (by decide), ← same, read_onNextLine digits long] at derived
  cases derived

end NextLine

end Reckoner.Source
