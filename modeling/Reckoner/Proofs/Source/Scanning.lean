import Mathlib
import Reckoner.Source.Scan

/-! What token lists look like: lexemes and line ends, then one token that ends the text or tells
why it cannot be scanned further. -/

namespace Reckoner.Source

/-- The tokens that lexemes are. -/
inductive Lexed : TokenKind → Prop where
  | name {word : List Char} (h : Text.isIdentifier word)
    (unreserved : Keyword.ofText? (String.ofList word) = none) :
    Lexed (.name (String.ofList (Text.compatibilityForm word)))
  | keyword (word : Keyword) : Lexed (.keyword word)
  | number {cs text : List Char} {kind : NumberKind} (h : number? cs = some (kind, text)) :
    Lexed (.number kind text)
  | string (form : StringForm) (body : List Char) : Lexed (.string form body)
  | mark (mark : Mark) : Lexed (.mark mark)

/-- The tokens after which nothing is scanned. -/
inductive Last : TokenKind → Prop where
  | finish : Last .finish
  | unclosed (opening : Char) : Last (.unclosed opening)
  | fault (cause : ScanFault) : Last (.fault cause)

/-- Lexemes and line ends up to one last token. -/
def Shaped (ts : List Token) : Prop :=
  ∃ inner last, ts = inner ++ [last] ∧ Last last.kind ∧
    ∀ t ∈ inner, t.kind = .newline ∨ Lexed t.kind

theorem lexed_of_stringLexeme {letters cs : List Char} {k : TokenKind} {n : Nat}
    (h : stringLexeme? letters cs = some (k, n)) : Lexed k := by
  unfold stringLexeme? at h
  obtain ⟨form, -, h⟩ := Option.bind_eq_some_iff.mp h
  obtain ⟨⟨body, length⟩, -, h⟩ := Option.bind_eq_some_iff.mp h
  cases h
  exact .string form body

theorem lexed_of_wordKind {word : List Char} {k : TokenKind} (h : wordKind? word = some k) :
    Lexed k := by
  unfold wordKind? at h
  split at h
  · cases h
    exact .keyword _
  · rename_i unreserved
    split at h
    · rename_i identifier
      cases h
      exact .name identifier unreserved
    · cases h

theorem lexed_of_lexeme {cs : List Char} {k : TokenKind} {n : Nat}
    (h : lexeme? cs = some (k, n)) : Lexed k := by
  unfold lexeme? at h
  split at h
  · cases h
  split at h
  · obtain ⟨⟨kind, text⟩, number, same⟩ := Option.map_eq_some_iff.mp h
    cases same
    exact .number number
  split at h
  · exact lexed_of_stringLexeme h
  split at h
  · dsimp only at h
    split at h
    · exact lexed_of_stringLexeme h
    · obtain ⟨kind, word, same⟩ := Option.map_eq_some_iff.mp h
      cases same
      exact lexed_of_wordKind word
  · obtain ⟨⟨mark, length⟩, -, same⟩ := Option.map_eq_some_iff.mp h
    cases same
    exact .mark mark

theorem shaped_single {t : Token} (h : Last t.kind) : Shaped [t] :=
  ⟨[], t, rfl, h, by simp⟩

theorem shaped_cons {t : Token} {ts : List Token} (h : t.kind = .newline ∨ Lexed t.kind)
    (hs : Shaped ts) : Shaped (t :: ts) := by
  obtain ⟨inner, last, rfl, hl, hi⟩ := hs
  exact ⟨t :: inner, last, rfl, hl, List.forall_mem_cons.mpr ⟨h, hi⟩⟩

section Scan

variable {lexeme : List Char → Option (TokenKind × Nat)}
variable (lexed : ∀ cs k n, lexeme cs = some (k, n) → Lexed k)
include lexed

theorem scanLexeme_shaped {next : ScanState → List Char → List Token}
    (tail : ∀ state cs, Shaped (next state cs)) (state : ScanState) (c : Char) (rest : List Char) :
    Shaped (scanLexeme lexeme next state c rest) := by
  unfold scanLexeme
  split
  · exact shaped_single (.fault _)
  · rename_i read
    split
    · exact shaped_single (.fault _)
    · exact shaped_cons (.inr (lexed _ _ _ read)) (tail _ _)

theorem scanBy_shaped (fuel : Nat) (state : ScanState) (cs : List Char) :
    Shaped (scanBy lexeme fuel state cs) := by
  induction fuel generalizing state cs with
  | zero => exact shaped_single (.fault _)
  | succ fuel ih =>
    unfold scanBy
    split
    · dsimp only
      split
      · exact ih _ _
      · split
        · split
          · exact shaped_single .finish
          · exact ih _ _
        · split
          · exact shaped_single (.fault _)
          · exact ih _ _
      · exact shaped_single .finish
    · split
      · unfold lastToken
        split
        · exact shaped_single .finish
        · exact shaped_single (.unclosed _)
      · exact ih _ _
      · split
        · exact ih _ _
        split
        · exact ih _ _
        split
        · dsimp only
          split
          · exact shaped_cons (.inl rfl) (ih _ _)
          · exact ih _ _
        split
        · exact shaped_single (.fault _)
        · exact scanLexeme_shaped lexed ih _ _ _

end Scan

theorem scan_shaped (cs : List Char) : Shaped (scan cs) := by
  rw [scan]
  by_cases null : '\x00' ∈ cs
  · rw [scanWith_null null]
    exact shaped_single (.fault _)
  · rw [scanWith_eq null]
    exact scanBy_shaped (fun _ _ _ => lexed_of_lexeme) _ _ _

end Reckoner.Source
