import Mathlib
import Reckoner.Proofs.Source.Acceptance
import Reckoner.Proofs.Source.DeadEnds
import Reckoner.Proofs.Source.Extent

/-! Hiding and bringing back on a single line. The scan of what is shown, its long integers brought
back, and the scan of the text without a limit go along token by token; where they part, neither
text is a sentence. -/

namespace Reckoner.Source

section Visible

variable {before : Option Char} {offset : Nat} {cs shown : List Char} {found : LongIntegers}

theorem isPaired_of_narrow {b : Char} {x : List Char} (h : ∀ d ∈ x.head?, d.isDigit ∨ d = '_') :
    isPaired b x = false := by
  have foreign : ∀ pair ∈ pairs, pair.2.isDigit = false ∧ pair.2 ≠ '_' := by decide
  cases head : x.head? with
  | none => rw [isPaired, head]; rfl
  | some d =>
    simp only [isPaired, head, Option.any_some, decide_eq_false_iff_not]
    intro member
    obtain ⟨digit, line⟩ := foreign _ member
    rcases h d head with known | known
    · rw [digit] at known
      cases known
    · exact line known

/-- Where the head is visible, text and shown text go together beyond a character that clings to
no number. -/
theorem Veil.visible_cut (h : Veil before offset cs shown found) (visible : shown.head? = cs.head?) :
    shown = cs ∨ ∃ front b x y, cs = front ++ b :: x ∧ shown = front ++ b :: y ∧ clings b = false ∧
      isPaired b x = isPaired b y := by
  rcases h.cut with whole | ⟨front, x, y, rfl, rfl, last, hx, hy⟩
  · exact .inl whole
  cases front using List.reverseRecOn with
  | nil =>
    rw [List.nil_append, List.nil_append, hy] at visible
    rw [← visible] at hx
    cases hx
  | append_singleton front b =>
    refine .inr ⟨front, b, x, y, by simp, by simp, by simpa [List.getLast?_append] using last, ?_⟩
    rw [isPaired_of_narrow, isPaired_of_narrow]
    · rw [hy]
      rintro _ ⟨⟩
      exact .inr rfl
    · intro d hd
      rw [hd] at hx
      exact .inl hx

theorem Veil.head_eq (h : Veil before offset cs shown found)
    (stop : cs.head?.any Char.isDigit = false) : shown.head? = cs.head? := by
  cases h with
  | nil => rfl
  | char => rfl
  | kept digits =>
    rw [List.cons_append, List.head?_cons, Option.any_some, digits _ List.mem_cons_self] at stop
    cases stop
  | hidden digits =>
    rw [List.cons_append, List.head?_cons, Option.any_some, digits _ List.mem_cons_self] at stop
    cases stop

theorem Veil.lexeme_agree (h : Veil before offset cs shown found)
    (visible : shown.head? = cs.head?) : Agree (lexeme? cs) (lexeme? shown) := by
  rcases h.visible_cut visible with rfl | ⟨front, b, x, y, rfl, rfl, free, same⟩
  · exact .inl rfl
  · exact Source.lexeme_agree free front same

theorem Veil.keep {part rest : List Char} (h : Veil before offset (part ++ rest) shown found)
    (visible : shown.head? = (part ++ rest).head?) (clinging : ∀ c ∈ part, clings c) :
    ∃ rest', shown = part ++ rest' := by
  rcases h.visible_cut visible with rfl | ⟨front, b, x, y, split, rfl, free, -⟩
  · exact ⟨rest, rfl⟩
  · have absent : b ∉ part := fun member => ne_of_not_clings free (clinging b member) rfl
    have inside : part <+: front ++ b :: x := ⟨rest, split⟩
    obtain ⟨more, rfl⟩ := (prefix_append_cons_iff absent).mp inside
    exact ⟨more ++ b :: y, by simp⟩

end Visible

/-- A text that goes on at a byte offset and what is shown of it, the long integers of the whole
text known. No number begins within another one. -/
def Veiled (hidden : LongIntegers) (offset : Nat) (cs shown : List Char) : Prop :=
  ∃ before found, Veil before offset cs shown found ∧
    (cs.head?.any Char.isDigit → before.any clings = false) ∧
    ∀ column, offset ≤ column → hidden.find? (·.1 == column) = found.find? (·.1 == column)

namespace Veiled

variable {hidden : LongIntegers} {offset : Nat} {c : Char} {cs shown part rest rest' : List Char}

theorem after_char (h : Veiled hidden offset (c :: cs) (c :: shown)) (free : clings c = false) :
    Veiled hidden (offset + c.utf8Size) cs shown := by
  obtain ⟨before, found, veil, -, known⟩ := h
  have digit := not_digit_of_not_clings free
  rcases veil.cons_cases with ⟨-, rest', same, tail⟩ | ⟨ds, -, -, digits, -⟩ | ⟨ds, -, -, -, digits, -⟩
  · cases same
    exact ⟨_, found, tail, fun _ => free, fun column after => known column (by omega)⟩
  all_goals
    have := digits c List.mem_cons_self
    rw [digit] at this
    cases this

theorem after_part (h : Veiled hidden offset (part ++ rest) (part ++ rest'))
    (stop : rest.head?.any Char.isDigit = false) :
    Veiled hidden (offset + byteSize part) rest rest' := by
  obtain ⟨before, found, veil, -, known⟩ := h
  obtain ⟨before', tail⟩ := veil.drop stop
  refine ⟨before', found, tail, fun digit => ?_, fun column after => known column (by omega)⟩
  rw [stop] at digit
  cases digit

/-- No long integer begins where a character is that is no digit. -/
theorem find_eq_none (h : Veiled hidden offset (c :: cs) shown) (digit : c.isDigit = false) :
    hidden.find? (·.1 == offset) = none := by
  obtain ⟨before, found, veil, -, known⟩ := h
  rw [known offset le_rfl]
  refine List.find?_eq_none.mpr fun entry member => ?_
  rcases veil.cons_cases with ⟨-, rest', -, tail⟩ | ⟨ds, -, -, digits, -⟩ | ⟨ds, -, -, -, digits, -⟩
  · have later := tail.entry_le entry member
    have wide := c.utf8Size_pos
    simp only [beq_iff_eq]
    omega
  all_goals
    have := digits c List.mem_cons_self
    rw [digit] at this
    cases this

end Veiled

section Steps

variable {ctx : Context} {hidden : LongIntegers} {fuel : Nat} {state : ScanState}
variable {lexeme : List Char → Option (TokenKind × Nat)} {c d : Char} {cs shown : List Char}

theorem expressible_restore {t : Token} (h : expressible t.kind = false) :
    restore hidden t = t.kind := by
  unfold restore
  split
  · rename_i name
    rw [name] at h
    cases h
  · rfl

theorem dead_fault (cause : ScanFault) : Dead ctx [.fault cause] := dead_of_not_expressible rfl []

/-- The tokens of what is shown, with the long integers back in their places, do for those of the
text itself. -/
def ReadAlike (ctx : Context) (hidden : LongIntegers) (shown plain : List Token) : Prop :=
  Alike ctx (shown.map (restore hidden)) (plain.map (restore []))

theorem ReadAlike.cons {t u : Token} {ts us : List Token} (same : restore hidden t = u.kind)
    (h : ReadAlike ctx hidden ts us) : ReadAlike ctx hidden (t :: ts) (u :: us) := by
  rw [ReadAlike, List.map_cons, List.map_cons, same, restore_nil]
  exact Alike.cons _ h

theorem dead_scanLexeme {next : ScanState → List Char → List Token}
    (useless : Useless (lexeme (c :: cs))) :
    Dead ctx ((scanLexeme lexeme next state c cs).map (restore hidden)) := by
  unfold scanLexeme
  split
  · exact dead_fault _
  · rename_i kind length read
    have foreign : expressible kind = false := useless _ read
    split
    · exact dead_fault _
    · refine dead_of_not_expressible ?_ _
      rwa [expressible_restore foreign]

/-- One step of the simulation of scans with some fuel. -/
def ScansAlike (ctx : Context) (hidden : LongIntegers) (fuel : Nat) : Prop :=
  ∀ (state : ScanState) (cs shown : List Char),
    (state.lineBegins && state.brackets.isEmpty) = false → '\n' ∉ cs →
    Veiled hidden state.position.byteColumn cs shown →
    ReadAlike ctx hidden (scanBy lexeme? fuel state shown) (scanBy plainLexeme? fuel state cs)

/-- The same token on both sides, and scans that go along after it. -/
theorem ScansAlike.step (h : ScansAlike ctx hidden fuel) {k k' : TokenKind} {n : Nat}
    (read : lexeme? (d :: shown) = some (k, n)) (read' : plainLexeme? (c :: cs) = some (k', n))
    (brackets : bracketsAfter k d state = bracketsAfter k' c state)
    (restored : restore hidden ⟨k, state.position⟩ = k')
    (together : state.position.advance ((d :: shown).take n) =
      state.position.advance ((c :: cs).take n))
    (line : '\n' ∉ c :: cs)
    (veiled : Veiled hidden (state.position.byteColumn + byteSize ((c :: cs).take n))
      ((c :: cs).drop n) ((d :: shown).drop n)) :
    ReadAlike ctx hidden (scanLexeme lexeme? (scanBy lexeme? fuel) state d shown)
      (scanLexeme plainLexeme? (scanBy plainLexeme? fuel) state c cs) := by
  have column : (state.position.advance ((c :: cs).take n)).byteColumn = _ :=
    byteColumn_advance (fun member => line (List.mem_of_mem_take member)) state.position
  simp only [scanLexeme, read, read', brackets]
  cases bracketsAfter k' c state with
  | error cause => exact .inl rfl
  | ok brackets =>
    refine ReadAlike.cons restored ?_
    rw [together]
    exact h _ _ _ rfl (fun member => line (List.mem_of_mem_drop member)) (column ▸ veiled)

/-- The same token on both sides, made of characters that are shown as they stand. -/
theorem ScansAlike.part (h : ScansAlike ctx hidden fuel) {k : TokenKind} {part rest : List Char}
    (split : c :: cs = part ++ rest) (clinging : ∀ d ∈ part, clings d)
    (stop : rest.head?.any Char.isDigit = false)
    (read : lexeme? (c :: shown) = some (k, part.length))
    (read' : plainLexeme? (c :: cs) = some (k, part.length))
    (restored : restore hidden ⟨k, state.position⟩ = k) (line : '\n' ∉ c :: cs)
    (veiled : Veiled hidden state.position.byteColumn (c :: cs) (c :: shown)) :
    ReadAlike ctx hidden (scanLexeme lexeme? (scanBy lexeme? fuel) state c shown)
      (scanLexeme plainLexeme? (scanBy plainLexeme? fuel) state c cs) := by
  obtain ⟨rest', same⟩ : ∃ rest', c :: shown = part ++ rest' := by
    obtain ⟨before, found, veil, -, -⟩ := veiled
    rw [split] at veil
    exact veil.keep (by rw [← split]; rfl) clinging
  rw [split, same] at veiled
  refine h.step read read' rfl restored ?_ line ?_
  · rw [split, same, List.take_left, List.take_left]
  · rw [split, same, List.take_left, List.drop_left, List.drop_left]
    exact veiled.after_part stop

/-- A lexeme of the language whose first character is shown as it stands. -/
theorem ScansAlike.token (h : ScansAlike ctx hidden fuel) {k : TokenKind} {n : Nat}
    (read : lexeme? (c :: shown) = some (k, n)) (read' : plainLexeme? (c :: cs) = some (k, n))
    (extent : Extent (c :: cs) k n) (line : '\n' ∉ c :: cs)
    (veiled : Veiled hidden state.position.byteColumn (c :: cs) (c :: shown)) :
    ReadAlike ctx hidden (scanLexeme lexeme? (scanBy lexeme? fuel) state c shown)
      (scanLexeme plainLexeme? (scanBy plainLexeme? fuel) state c cs) := by
  cases extent with
  | mark split free =>
    obtain ⟨rfl, rfl⟩ := List.cons.inj split
    refine h.step read read' rfl rfl rfl line ?_
    simpa [byteSize] using veiled.after_char free
  | @name w word rest id split start clinging stop =>
    have restored : restore hidden ⟨.name id, state.position⟩ = .name id := by
      obtain ⟨rfl, -⟩ := List.cons.inj split
      simp only [restore, veiled.find_eq_none start]
    exact h.part split clinging stop read read' restored line veiled
  | @number kind text rest split plain stop =>
    have clinging : ∀ d ∈ text, clings d := by
      obtain ⟨l, rfl⟩ := exists_literal plain
      intro d hd
      rcases l.mem_text hd with digit | rfl | rfl
      · exact clings_of_digit digit
      · decide
      · decide
    exact h.part split clinging stop read read' rfl line veiled

theorem scanBy_clings (clinging : clings c)
    (within : (state.lineBegins && state.brackets.isEmpty) = false)
    (line : '\n' ∉ c :: cs) :
    scanBy lexeme (fuel + 1) state (c :: cs) =
      scanLexeme lexeme (scanBy lexeme fuel) state c cs := by
  have blank : isInlineBlank c = false := by
    rw [← Bool.not_eq_true]
    intro blank
    rcases inlineBlank_cases blank with rfl | rfl | rfl <;> cases clinging
  have comment : c ≠ '#' := by
    rintro rfl
    cases clinging
  have join : c ≠ '\\' := by
    rintro rfl
    cases clinging
  exact scanBy_token within line blank comment join

theorem connective_head {cs : List Char} (h : beginsConnective cs) :
    ∃ c rest, cs = c :: rest ∧ clings c ∧ c.isDigit = false := by
  unfold beginsConnective at h
  split at h <;> first | exact ⟨_, _, rfl, by decide⟩ | cases h

/-- Nothing in the language comes after an operand that a word follows at once. -/
theorem dead_connective {k : TokenKind} (hk : operand k)
    (within : (state.lineBegins && state.brackets.isEmpty) = false)
    (line : '\n' ∉ cs) (connective : beginsConnective cs) :
    Dead ctx (k :: (scanBy plainLexeme? fuel state cs).map (restore [])) := by
  cases fuel with
  | zero => exact (dead_fault _).cons k
  | succ fuel =>
    obtain ⟨c, rest, rfl, clinging, digit⟩ := connective_head connective
    rw [scanBy_clings clinging within line]
    by_cases useless : Useless (plainLexeme? (c :: rest))
    · exact (dead_scanLexeme useless).cons k
    simp only [Useless, not_forall] at useless
    obtain ⟨⟨other, n⟩, read, occurring⟩ := useless
    have same : plainLexeme? (c :: rest) = lexeme? (c :: rest) := by
      rcases plainLexeme_cases (c :: rest) with same | ⟨-, whole, after, integer⟩
      · exact same
      · obtain ⟨a, more, rfl, first, -⟩ := integer.exists_cons
        rw [(List.cons.inj integer.split).1, digit] at first
        cases first
    have next : operand other := by
      cases lexeme_extent (same ▸ read) (Bool.of_not_eq_false occurring) with
      | mark split free =>
        obtain ⟨rfl, -⟩ := List.cons.inj split
        rw [clinging] at free
        cases free
      | name | number => rfl
    have brackets : bracketsAfter other c state = .ok state.brackets := by
      cases other with
      | mark => cases next
      | name | number | keyword | string | newline | finish | unclosed | fault => rfl
    simp only [scanLexeme, Option.mem_def.mp read, brackets, List.map_cons, restore_nil]
    exact dead_of_operands hk next _

theorem digits_unique {ds es after rest : List Char} (split : ds ++ after = es ++ rest)
    (digits : ∀ c ∈ ds, c.isDigit) (digits' : ∀ c ∈ es, c.isDigit)
    (stop : after.head?.any Char.isDigit = false) (stop' : rest.head?.any Char.isDigit = false) :
    ds = es ∧ after = rest := by
  have taken := congrArg (List.takeWhile Char.isDigit) split
  rw [takeWhile_append_stop _ stop, takeWhile_append_stop _ stop',
    List.takeWhile_eq_self_iff.mpr digits, List.takeWhile_eq_self_iff.mpr digits'] at taken
  subst taken
  exact ⟨rfl, List.append_cancel_left split⟩

theorem IntegerAt.digits {whole rest : List Char} (h : IntegerAt cs whole rest)
    (plain : Numeral.isPlain whole) : ∀ c ∈ whole, c.isDigit := by
  obtain ⟨l, text⟩ := exists_literal plain
  intro c hc
  rcases takeGroups_mem h.groups c hc with digit | rfl
  · exact digit
  · rcases l.mem_text (text ▸ hc) with digit | point | letter
    · cases digit
    · cases point
    · cases letter

/-- A plain integer that the scanner refuses has more digits than a hidden one. -/
theorem IntegerAt.long {whole rest : List Char} (h : IntegerAt cs whole rest)
    (digits : ∀ c ∈ whole, c.isDigit) (refused : lexeme? cs = none) :
    longIntegerDigits ≤ whole.length := by
  rw [h.lexeme, Option.map_eq_none_iff, h.number] at refused
  have many : isPlainInteger whole = false := by
    cases plain : isPlainInteger whole with
    | false => rfl
    | true => simp [plain] at refused
  have same : whole.filter (· != '_') = whole := by
    refine List.filter_eq_self.mpr fun c hc => ?_
    have digit := digits c hc
    have : c ≠ '_' := by
      rintro rfl
      cases digit
    simpa using this
  have leading : (whole.head? != some '0') = true := by simpa using h.leading
  simp only [isPlainInteger, same, leading, Bool.true_and, Bool.or_eq_false_iff,
    decide_eq_false_iff_not] at many
  have bound : longIntegerDigits ≤ maxIntegerDigits := by decide
  omega

/-- No fraction begins after an integer, so what joins its digits is a word, and the number ends
before it. -/
theorem IntegerAt.connective {whole rest : List Char} (h : IntegerAt cs whole rest)
    (joined : rest.head?.any joinsDigits) : beginsConnective rest := by
  cases rest with
  | nil => cases joined
  | cons a rest =>
    have point : a ≠ '.' := by
      rintro rfl
      have none := h.fraction
      unfold fractionPart? at none
      split at none
      · rename_i split
        cases split
        split at none
        · obtain ⟨groups, -, same⟩ := Option.map_eq_some_iff.mp none
          cases same
        · cases none
      · rename_i other
        exact other _ rfl
    have word : Text.continuesWord a := by
      have joins : joinsDigits a := joined
      have clinging : clings a := by
        rw [clings_eq, joins, Bool.true_or]
      simpa [clings, point] using clinging
    have ends := h.ends
    simpa [endsNumber, word] using ends

/-- An integer that the scanner refuses and that is not hidden has a word right after it. -/
theorem Veiled.connective {offset : Nat} {whole rest : List Char}
    (h : Veiled hidden offset cs shown) (visible : shown.head? = cs.head?)
    (integer : IntegerAt cs whole rest) (plain : Numeral.isPlain whole)
    (refused : lexeme? cs = none) : beginsConnective rest := by
  obtain ⟨before, found, veil, fresh, -⟩ := h
  obtain ⟨d, ds, rfl, digit, -⟩ := integer.exists_cons
  have digits := integer.digits plain
  have long := integer.long digits refused
  have stop := not_digit_of_endsNumber integer.ends
  obtain rfl := integer.split
  have free := fresh digit
  rcases veil.cons_cases with ⟨other, -⟩ | ⟨es, after, -, digits', same, -, stop', reason⟩ |
    ⟨es, after, after', -, -, -, -, rfl, -⟩
  · rw [digit] at other
    cases other
  · have split : d :: ds ++ rest = d :: es ++ after := congrArg (d :: ·) same
    obtain ⟨run, rfl⟩ := digits_unique split digits digits' stop stop'
    rw [← run] at reason
    rcases reason with short | left | right
    · omega
    · cases before with
      | none => cases left
      | some b =>
        have clinging : clings b := by
          rw [clings_eq, Bool.or_eq_true]
          exact .inl left
        rw [Option.any_some, clinging] at free
        cases free
    · exact integer.connective right
  · cases visible
    cases digit

/-- A token whose first character is shown as it stands. -/
theorem ScansAlike.visible (h : ScansAlike ctx hidden fuel) (line : '\n' ∉ c :: cs)
    (veiled : Veiled hidden state.position.byteColumn (c :: cs) (c :: shown)) :
    ReadAlike ctx hidden (scanLexeme lexeme? (scanBy lexeme? fuel) state c shown)
      (scanLexeme plainLexeme? (scanBy plainLexeme? fuel) state c cs) := by
  have agree : Agree (lexeme? (c :: cs)) (lexeme? (c :: shown)) := by
    obtain ⟨before, found, veil, -, -⟩ := veiled
    exact veil.lexeme_agree rfl
  rcases plainLexeme_cases (c :: cs) with same | ⟨refused, whole, rest, integer⟩
  · rcases agree with equal | ⟨useless, useless'⟩
    · by_cases useless : Useless (lexeme? (c :: cs))
      · exact .inr ⟨dead_scanLexeme (equal ▸ useless), dead_scanLexeme (same ▸ useless)⟩
      simp only [Useless, not_forall] at useless
      obtain ⟨⟨k, n⟩, read, occurring⟩ := useless
      have extent := lexeme_extent read (Bool.of_not_eq_false occurring)
      exact h.token (equal ▸ read) (same ▸ read) extent line veiled
    · exact .inr ⟨dead_scanLexeme useless', dead_scanLexeme (same ▸ useless)⟩
  · -- The scanner stops here; without a limit there is an integer that nothing can follow.
    have stuck : Useless (lexeme? (c :: shown)) := by
      rcases agree with equal | ⟨-, useless⟩
      · rw [← equal, refused]
        exact useless_none
      · exact useless
    refine .inr ⟨dead_scanLexeme stuck, ?_⟩
    cases plain : Numeral.isPlain whole with
    | false =>
      refine dead_scanLexeme ?_
      rw [integer.plainLexeme]
      rintro _ ⟨⟩
      exact plain
    | true =>
      have connective := veiled.connective rfl integer plain refused
      have inside : '\n' ∉ rest := fun member => line (by rw [← integer.split]; simp [member])
      simp only [scanLexeme, integer.plainLexeme, bracketsAfter, List.map_cons, restore_nil]
      rw [← integer.split, List.drop_left]
      exact dead_connective rfl rfl inside connective

/-- The low lines that stand for a run are read as one name. -/
theorem lexeme_line {n : Nat} {after : List Char} (wide : 2 < n)
    (stop : after.head?.any Text.continuesWord = false) :
    lexeme? (List.replicate n '_' ++ after) = some (.name (Piece.line n), n) := by
  have spellable := Piece.spellable_line (lt_trans (by decide) wide)
  have text : (Piece.line n).toList = List.replicate n '_' := String.toList_ofList
  have kind : wordKind? (List.replicate n '_') = some (.name (Piece.line n)) := by
    rw [← text, wordKind_of_spellable spellable]
  obtain ⟨m, rfl⟩ : ∃ m, n = m + 3 := ⟨n - 3, by omega⟩
  have word : ∀ c ∈ List.replicate (m + 3) '_', Text.continuesWord c := by
    intro c hc
    rw [List.eq_of_mem_replicate hc]
    decide
  have taken : (List.replicate (m + 3) '_' ++ after).takeWhile Text.continuesWord =
      List.replicate (m + 3) '_' := by
    rw [takeWhile_append_stop _ stop, List.takeWhile_eq_self_iff.mpr word]
  have form : StringForm.ofLetters? (List.replicate (m + 3) '_') = none := rfl
  have head : List.replicate (m + 3) '_' ++ after = '_' :: (List.replicate (m + 2) '_' ++ after) := rfl
  have begins : Text.beginsWord '_' = true := by decide
  rw [head] at taken ⊢
  rw [lexeme_cons, taken, form, kind, begins]
  simp [isQuote]

/-- A long integer that is hidden. -/
theorem ScansAlike.run (h : ScansAlike ctx hidden fuel) {ds after after' : List Char}
    {before : Option Char} {found : LongIntegers} (digits : ∀ b ∈ c :: ds, b.isDigit)
    (long : longIntegerDigits ≤ (c :: ds).length) (right : after.head?.any clings = false)
    (known : ∀ column, state.position.byteColumn ≤ column → hidden.find? (·.1 == column) =
      ((state.position.byteColumn, c :: ds) :: found).find? (·.1 == column))
    (tail : Veil before (state.position.byteColumn + (c :: ds).length) after after' found)
    (line : '\n' ∉ c :: (ds ++ after)) :
    ReadAlike ctx hidden
      (scanLexeme lexeme? (scanBy lexeme? fuel) state '_' (List.replicate ds.length '_' ++ after'))
      (scanLexeme plainLexeme? (scanBy plainLexeme? fuel) state c (ds ++ after)) := by
  have restored : restore hidden ⟨.name (Piece.line (c :: ds).length), state.position⟩ =
      .number .integer (c :: ds) := by
    simp [restore, known _ le_rfl]
  have stop : after.head?.any Text.continuesWord = false := by
    cases head : after.head? with
    | none => rfl
    | some b =>
      rw [head, Option.any_some] at right
      exact not_continuesWord_of_not_clings right
  have read : lexeme? ('_' :: (List.replicate ds.length '_' ++ after')) =
      some (.name (Piece.line (c :: ds).length), (c :: ds).length) := by
    have wide : 2 < (c :: ds).length := lt_of_lt_of_le (by decide) long
    exact lexeme_line wide (tail.head_eq (not_digit_of_not_word stop) ▸ stop)
  by_cases zero : c = '0'
  · subst zero
    obtain ⟨d, more, rfl⟩ : ∃ d more, ds = d :: more := by
      cases ds with
      | nil => simp [longIntegerDigits] at long
      | cons d more => exact ⟨d, more, rfl⟩
    have digit := digits d (by simp)
    refine .inr ⟨?_, dead_scanLexeme (useless_zeros digit)⟩
    simp only [scanLexeme, read, bracketsAfter, List.map_cons, restored]
    have foreign : expressible (.number .integer ('0' :: d :: more)) = false := isPlain_zeros digit
    exact dead_of_not_expressible foreign _
  · have integer : IntegerAt (c :: (ds ++ after)) (c :: ds) after := integerAt_run digits zero right
    have taken : (c :: (ds ++ after)).take (c :: ds).length = c :: ds := List.take_left
    have taken' : ('_' :: (List.replicate ds.length '_' ++ after')).take (c :: ds).length =
        List.replicate (c :: ds).length '_' :=
      List.take_left' List.length_replicate
    have left : (c :: (ds ++ after)).drop (c :: ds).length = after := List.drop_left
    have left' : ('_' :: (List.replicate ds.length '_' ++ after')).drop (c :: ds).length = after' :=
      List.drop_left' List.length_replicate
    refine h.step read integer.plainLexeme rfl restored ?_ line ?_
    · rw [taken, taken', advance_narrow (fun b hb => .inl (digits b hb)),
        advance_narrow (fun b hb => .inr (List.eq_of_mem_replicate hb)), List.length_replicate]
    · rw [taken, byteSize_digits digits, left, left']
      refine ⟨before, found, tail, fun digit => ?_, fun column later => ?_⟩
      · rw [not_digit_of_not_word stop] at digit
        cases digit
      · have wide : 0 < (c :: ds).length := Nat.succ_pos _
        have other : state.position.byteColumn ≠ column := by omega
        rw [known column (by omega)]
        simp [other]

theorem alike_end (fuel : Nat) (within : (state.lineBegins && state.brackets.isEmpty) = false) :
    ReadAlike ctx hidden (scanBy lexeme? fuel state []) (scanBy plainLexeme? fuel state []) := by
  cases fuel with
  | zero => exact .inl rfl
  | succ fuel =>
    rw [scanBy_nil within, scanBy_nil within, lastToken]
    split <;> exact .inl rfl

/-- Within a line the two scans go along. -/
theorem scans_alike (fuel : Nat) : ScansAlike ctx hidden fuel := by
  induction fuel with
  | zero =>
    intro state cs shown _ _ _
    exact .inl rfl
  | succ fuel ih =>
    intro state cs shown within line veiled
    have known := veiled
    obtain ⟨before, found, veil, fresh, lookup⟩ := known
    have line' : '\n' ∉ shown := mt (veil.mem_iff (by decide) (by decide)).mp line
    cases cs with
    | nil =>
      cases veil
      exact alike_end _ within
    | cons c cs =>
      rcases veil.cons_cases with ⟨digit, rest, rfl, tail⟩ | ⟨ds, after, after', digits, rfl, rfl, -⟩ |
        ⟨ds, after, after', found', digits, rfl, long, rfl, left, right, rfl, tail⟩
      · rw [scanBy_cons within line, scanBy_cons within line']
        split
        · rename_i blank
          have free : clings c = false := by
            rcases inlineBlank_cases blank with rfl | rfl | rfl <;> decide
          have column : (state.position.step c).byteColumn =
              state.position.byteColumn + c.utf8Size := by
            rw [Position.step, if_neg fun newline => line (by simp [newline])]
          refine ih _ cs rest within (fun member => line (List.mem_cons_of_mem _ member)) ?_
          exact column ▸ veiled.after_char free
        split
        · rw [veil.advance]
          exact alike_end _ within
        split
        · exact .inl rfl
        · exact ih.visible line veiled
      · have clinging := clings_of_digit (digits c List.mem_cons_self)
        rw [List.cons_append] at line' ⊢
        rw [scanBy_clings clinging within line, scanBy_clings clinging within line']
        exact ih.visible line veiled
      · have clinging := clings_of_digit (digits c List.mem_cons_self)
        rw [List.length_cons, List.replicate_succ, List.cons_append] at line' ⊢
        rw [scanBy_clings clinging within line, scanBy_clings (by decide) within line']
        exact ih.run digits long right lookup tail line

end Steps

end Reckoner.Source
