import Mathlib
import Reckoner.Proofs.Source.Hiding
import Reckoner.Proofs.Source.Literals
import Reckoner.Proofs.Source.Recognition
import Reckoner.Proofs.Text.Identifier
import Reckoner.Proofs.Text.Trimming

/-! What the reader accepts. Without long runs of digits nothing is hidden, and the texts read as
expressions are those whose tokens the grammar derives, each with the tree of its derivation. -/

namespace Reckoner.Source

theorem trimBy_isInfix (drop : Char → Bool) (cs : List Char) : Text.trimBy drop cs <:+: cs := by
  obtain ⟨before, after, whole, -⟩ := Text.exists_trimBy drop cs
  exact ⟨before, after, whole⟩

theorem restore_nil (t : Token) : restore [] t = t.kind := by
  unfold restore
  split <;> simp [*]

theorem Shaped.lexed {ts : List Token} (h : Shaped ts) {k : TokenKind}
    (hk : k ∈ ts.map Token.kind) : k = .newline ∨ Lexed k ∨ Last k := by
  obtain ⟨inner, last, rfl, hl, all⟩ := h
  obtain ⟨t, ht, rfl⟩ := List.mem_map.mp hk
  rcases List.mem_append.mp ht with ht | ht
  · exact (all t ht).imp_right .inl
  · rw [List.mem_singleton.mp ht]
    exact .inr (.inr hl)

theorem Shaped.number {ts : List Token} (h : Shaped ts) {kind : NumberKind} {text : List Char}
    (hk : .number kind text ∈ ts.map Token.kind) : ∃ cs, number? cs = some (kind, text) := by
  rcases h.lexed hk with newline | lexed | last
  · cases newline
  · cases lexed with
    | number found => exact ⟨_, found⟩
  · cases last

theorem Shaped.name {ts : List Token} (h : Shaped ts) {id : String}
    (hk : .name id ∈ ts.map Token.kind) :
    ∃ word, Text.isIdentifier word ∧ Keyword.ofText? (String.ofList word) = none ∧
      id = String.ofList (Text.compatibilityForm word) := by
  rcases h.lexed hk with newline | lexed | last
  · cases newline
  · cases lexed with
    | name identifier unreserved => exact ⟨_, identifier, unreserved, rfl⟩
  · cases last

theorem sentence_congr {leaf other : TokenKind → Expr → Prop} {ks : List TokenKind}
    (same : ∀ k ∈ ks, ∀ e, leaf k e ↔ other k e) (e : Expr) :
    Sentence leaf ks e ↔ Sentence other ks e := by
  refine exists_congr fun body => exists_congr fun ends => and_congr_right fun split => ?_
  subst split
  constructor <;> intro derived <;> refine derived.congr fun k hk e => ?_
  · exact (same k (by simp [hk]) e).mp
  · exact (same k (by simp [hk]) e).mpr

/-- The kinds of the tokens of a text without the blanks around it. -/
def tokensOf (source : String) : List TokenKind :=
  (scan (Text.trimBy Text.isBlank source.toList)).map Token.kind

variable {ctx : Context} {source : String}

theorem read_iff_sentence (short : ShortRuns source.toList) (e : Expr) :
    read ctx source = .ok e ↔ Sentence (Denotes ctx) (tokensOf source) e := by
  rw [read_iff, hideLongIntegers_short (short.mono (trimBy_isInfix _ _)),
    List.map_congr_left fun t _ => restore_nil t]
  refine sentence_congr (fun k hk e => accepted_iff_denotes ?_) e
  rintro kind text rfl
  exact (scan_shaped _).number hk

theorem Denotes.mentions {k : TokenKind} {e : Expr} {name : String} (h : Denotes ctx k e)
    (mentioned : e.Mentions name) : k = .name name := by
  cases h with
  | name => cases mentioned; rfl
  | integer | decimal => cases mentioned

theorem read_mentions (short : ShortRuns source.toList) {e : Expr} {name : String}
    (h : read ctx source = .ok e) (mentioned : e.Mentions name) :
    ∀ c ∈ name.toList, Text.continuesWord c := by
  obtain ⟨body, ends, split, derived⟩ := (read_iff_sentence short e).mp h
  have named : .name name ∈ body := derived.mentions mentioned fun _ _ => Denotes.mentions
  have member : .name name ∈ tokensOf source := by
    rw [split]
    simp [named]
  obtain ⟨word, identifier, -, rfl⟩ := (scan_shaped _).name member
  rw [String.toList_ofList]
  exact Text.compatibilityForm_word (Text.isIdentifier_word identifier)

/-- The reader accepts exactly the grammar: a text is read as a tree just when its tokens derive
the tree, no other tree is derived from them, every other text is refused with issues, and the
stand-in for faulty parts is in no tree that is returned. Names are identifiers that are spelled
as no keyword, in compatibility form. -/
theorem read_accepts_exactly (ctx : Context) (source : String)
    (short : ∀ run, run <:+: source.toList → (∀ c ∈ run, c.isDigit) →
      run.length < longIntegerDigits) :
    (∀ e, read ctx source = .ok e ↔ Sentence (Denotes ctx) (tokensOf source) e) ∧
      (∀ a b, Sentence (Denotes ctx) (tokensOf source) a →
        Sentence (Denotes ctx) (tokensOf source) b → a = b) ∧
      ((∀ e, ¬Sentence (Denotes ctx) (tokensOf source) e) →
        ∃ issues, read ctx source = .error issues ∧ issues ≠ []) ∧
      (∀ e, read ctx source = .ok e → ¬e.Mentions "?") ∧
      ∀ id, .name id ∈ tokensOf source →
        ∃ word, Text.isIdentifier word ∧ Keyword.ofText? (String.ofList word) = none ∧
          id = String.ofList (Text.compatibilityForm word) := by
  have accepts : ∀ e, read ctx source = .ok e ↔ Sentence (Denotes ctx) (tokensOf source) e :=
    read_iff_sentence short
  refine ⟨accepts, fun a b ha hb => ?_, fun none => ?_, fun e reading mentioned => ?_,
    fun id named => (scan_shaped _).name named⟩
  · have same : Except.ok a = Except.ok b := ((accepts a).mpr ha).symm.trans ((accepts b).mpr hb)
    exact Except.ok.inj same
  · cases reading : read ctx source with
    | ok e => exact absurd ((accepts e).mp reading) (none e)
    | error issues => exact ⟨issues, rfl, read_eq_error reading⟩
  · have word := read_mentions short reading mentioned '?' (by decide)
    revert word
    decide

/-- A call with a comma after its last argument, less a number, before a comment. -/
theorem read_accepts_exactly_call :
    (∀ run, run <:+: "f(x,)-2 # two".toList → (∀ c ∈ run, c.isDigit) →
      run.length < longIntegerDigits) ∧
      read { precision := 5 } "f(x,)-2 # two" =
        .ok (.binary .sub (.apply (.symbol "f") [.symbol "x"]) (.constant (.exact 2))) := by
  have short : ∀ run, run <:+: "f(x,)-2 # two".toList → (∀ c ∈ run, c.isDigit) →
      run.length < longIntegerDigits := fun run infixed _ =>
    lt_of_le_of_lt infixed.length_le (by decide +kernel)
  have tokens : tokensOf "f(x,)-2 # two" = [.name "f", .mark .openParen, .name "x", .mark .comma,
      .mark .closeParen, .mark .minus, .number .integer ['2'], .finish] := by decide +kernel
  let two : Literal := ⟨['2'], none, none, by simp, .inr (by simp), by simp, by simp⟩
  have name (id : String) : Derives (Denotes { precision := 5 }) .application [.name id]
      (.symbol id) := .ofAtom (.leaf (.name id))
  have args : ∀ arg ∈ [([TokenKind.name "x"], Expr.symbol "x")],
      Derives (Denotes { precision := 5 }) .sum arg.1 arg.2 := by
    simpa using .ofProduct (.ofNegation (.ofApplication (name "x")))
  have call := (name "f").application args (.more _ .none)
  have number : Derives (Denotes { precision := 5 }) .product [.number .integer ['2']]
      (.constant (.exact 2)) :=
    .ofNegation (.ofApplication (.ofAtom (.leaf (.integer _ two ⟨rfl, rfl⟩))))
  refine ⟨short, ((read_accepts_exactly _ _ short).1 _).mpr ?_⟩
  rw [tokens]
  exact ⟨_, 0, rfl, .sum (.inr rfl) (.ofProduct (.ofNegation (.ofApplication call))) number⟩

theorem readLine_null {cs : List Char} (null : '\x00' ∈ cs) :
    readLine cs = .error ⟨0, .nullCharacter⟩ := by
  have refused : Grammar.line [⟨.fault .nullCharacter, .start⟩] =
      .error [⟨.fault .nullCharacter, .start⟩] := by cbv
  rw [readLine, scan, scanWith_null null, refused]
  rfl

/-- A null character is all that is wrong with a text. -/
theorem read_null (ctx : Context) (source : String) (null : '\x00' ∈ source.toList) :
    read ctx source = .error [⟨0, .line .nullCharacter⟩] := by
  have kept : '\x00' ∈ Text.trimBy Text.isBlank source.toList := Text.mem_trimBy null (by decide)
  have nonempty : (Text.trimBy Text.isBlank source.toList).isEmpty = false := by
    simpa using List.ne_nil_of_mem kept
  have shown : '\x00' ∈ (hideLongIntegers (Text.trimBy Text.isBlank source.toList)).1 :=
    (mem_hideFrom_iff (by decide) (by decide) _ _ _ _).mpr kept
  rw [read, nonempty, if_neg Bool.false_ne_true]
  dsimp only
  rw [readLine_null shown]

end Reckoner.Source
