import Mathlib
import Reckoner.Proofs.Source.Conversion
import Reckoner.Proofs.Source.Language
import Reckoner.Source.Grammar

/-! Derivations over the tokens of a line. A name token that hides a long integer counts as that
integer, and a derivation is followed from the tokens where it begins to the tokens left. -/

namespace Reckoner.Source

/-- The kind of a token, with a hidden integer brought back. -/
def restore (hidden : LongIntegers) (t : Token) : TokenKind :=
  match t.kind with
  | .name id =>
    match hidden.find? (·.1 == t.position.byteColumn) with
    | some (_, digits) => .number .integer digits
    | none => .name id
  | kind => kind

/-- What a name or a number converts to. -/
def Accepted (ctx : Context) : TokenKind → Expr → Prop
  | .name id, e => e = .symbol id
  | .number kind text, e => convertNumber ctx 0 kind text = (e, [])
  | _, _ => False

theorem convertNumber_column {ctx : Context} {column : Nat} {kind : NumberKind}
    {text : List Char} {e : Expr} :
    convertNumber ctx column kind text = (e, []) ↔ Accepted ctx (.number kind text) e := by
  cases kind with
  | imaginary => simp [Accepted, convertNumber, refuse]
  | integer =>
    cases plain : Numeral.isPlain text <;> simp [Accepted, convertNumber, refuse, plain]
  | real =>
    cases plain : Numeral.isPlain text with
    | false => simp [Accepted, convertNumber, refuse, plain]
    | true =>
      cases parts : Numeral.read? text with
      | none => simp [Accepted, convertNumber, refuse, plain, parts]
      | some numeral =>
        cases rounded : (numeral.toDecimal false).roundIn ctx <;>
          simp [Accepted, convertNumber, refuse, plain, parts, rounded]

section Tokens

variable {ctx : Context} {hidden : LongIntegers} {e : Expr}

theorem converts_name {t : Token} {id : String} (h : t.kind = .name id) :
    Converts ctx hidden (.name t.position.byteColumn id) e ↔
      Accepted ctx (restore hidden t) e := by
  simp only [Converts, convert, convertName, restore, h]
  cases hidden.find? (·.1 == t.position.byteColumn) with
  | none => simp [Accepted, eq_comm]
  | some found =>
    simp only [Accepted, convertNumber, refuse]
    split <;> simp

theorem converts_number {t : Token} {kind : NumberKind} {text : List Char}
    (h : t.kind = .number kind text) :
    Converts ctx hidden (.number t.position.byteColumn kind text) e ↔
      Accepted ctx (restore hidden t) e := by
  simp only [Converts, convert, restore, h, convertNumber_column]

theorem restore_eq_iff {t : Token} {k : TokenKind} (unnamed : ∀ id, k ≠ .name id)
    (unnumbered : ∀ kind text, k ≠ .number kind text) : restore hidden t = k ↔ t.kind = k := by
  unfold restore
  split
  · rename_i id name
    rw [name]
    split <;> simp [(unnamed id).symm, (unnumbered _ _).symm]
  · rfl

theorem restore_mark {t : Token} {mark : Mark} :
    restore hidden t = .mark mark ↔ t.kind = .mark mark :=
  restore_eq_iff (by simp) (by simp)

/-- Where a mark is read, the tokens divide. -/
theorem exists_mark {body : Tokens} {ls rs : List TokenKind} {mark : Mark}
    (split : body.map (restore hidden) = ls ++ .mark mark :: rs) :
    ∃ left t right, body = left ++ t :: right ∧ left.map (restore hidden) = ls ∧
      t.kind = .mark mark ∧ right.map (restore hidden) = rs := by
  obtain ⟨left, more, rfl, hleft, hmore⟩ := List.map_eq_append_iff.mp split
  obtain ⟨t, right, rfl, ht, hright⟩ := List.map_eq_cons_iff.mp hmore
  exact ⟨left, t, right, rfl, hleft, restore_mark.mp ht, hright⟩

theorem restore_newline {t : Token} : restore hidden t = .newline ↔ t.kind = .newline :=
  restore_eq_iff (by simp) (by simp)

theorem restore_finish {t : Token} : restore hidden t = .finish ↔ t.kind = .finish :=
  restore_eq_iff (by simp) (by simp)

end Tokens

section Peek

variable {ts : Tokens}

theorem cons_of_peek {k : TokenKind} (h : Grammar.peek ts = k) (hk : k ≠ .finish) :
    ∃ t, ts = t :: ts.tail ∧ t.kind = k := by
  cases ts with
  | nil => exact absurd h.symm hk
  | cons t ts => exact ⟨t, rfl, h⟩

theorem cons_of_isMark {mark : Mark} (h : Grammar.isMark ts mark = true) :
    ∃ t, ts = t :: ts.tail ∧ t.kind = .mark mark :=
  cons_of_peek (by simpa [Grammar.isMark] using h) (by simp)

theorem cons_of_expectMark {mark : Mark} {rest : Tokens}
    (h : Grammar.expectMark mark ts = .ok rest) : ∃ t, ts = t :: rest ∧ t.kind = .mark mark := by
  unfold Grammar.expectMark at h
  split at h
  · rename_i marked
    cases h
    exact cons_of_isMark marked
  · cases h

/-- The arithmetic operators by their levels. -/
theorem infixOp_arithmetic {level : Nat} {k : TokenKind} {op : InfixOp} {arithmetic : BinaryOp}
    (h : Grammar.infixOp? level k = some op) (ha : op.arithmetic? = some arithmetic) :
    k = .mark arithmetic.mark ∧
      (level = 4 ∧ (arithmetic = .add ∨ arithmetic = .sub) ∨
        level = 5 ∧ (arithmetic = .mul ∨ arithmetic = .div)) := by
  unfold Grammar.infixOp? at h
  split at h
  · split at h <;> cases h <;> cases ha <;> decide
  · cases h

end Peek

/-- The tokens that expressions are made of. -/
def occurs : TokenKind → Bool
  | .name _ | .number _ _ => true
  | .mark mark =>
    mark ∈ [.plus, .minus, .star, .slash, .openParen, .closeParen, .comma]
  | _ => false

/-- The tokens that expressions of a category begin with. -/
def begins (c : Category) : TokenKind → Bool
  | .name _ | .number _ _ | .mark .openParen => true
  | .mark .minus => c ≠ .application && c ≠ .atom
  | _ => false

theorem begins_restore (hidden : LongIntegers) (c : Category) (t : Token) :
    begins c (restore hidden t) = begins c t.kind := by
  unfold restore
  split
  · rename_i id name
    rw [name]
    split <;> rfl
  · rfl

theorem occurs_restore (hidden : LongIntegers) (t : Token) :
    occurs (restore hidden t) = occurs t.kind := by
  unfold restore
  split
  · rename_i id name
    rw [name]
    split <;> rfl
  · rfl

theorem Accepted.begins {ctx : Context} {k : TokenKind} {e : Expr} (h : Accepted ctx k e)
    (c : Category) : begins c k := by
  cases k with
  | name | number => rfl
  | keyword | string | mark | newline | finish | unclosed | fault => exact h.elim

theorem occurs_of_begins {c : Category} {k : TokenKind} (h : begins c k) : occurs k := by
  unfold begins at h
  split at h <;> first | rfl | cases h

namespace Derives

variable {ctx : Context} {c : Category} {ks : List TokenKind} {e : Expr}

theorem exists_begins (h : Derives (Accepted ctx) c ks e) :
    ∃ k rest, ks = k :: rest ∧ begins c k := by
  induction h with
  | sum _ _ _ ih _ | product _ _ _ ih _ | application _ _ _ ih _ =>
    obtain ⟨k, rest, rfl, hk⟩ := ih
    exact ⟨k, _, rfl, hk⟩
  | negation => exact ⟨_, _, rfl, rfl⟩
  | leaf h => exact ⟨_, _, rfl, h.begins _⟩
  | group => exact ⟨_, _, rfl, rfl⟩
  | ofProduct _ ih | ofNegation _ ih | ofApplication _ ih | ofAtom _ ih =>
    obtain ⟨k, rest, rfl, hk⟩ := ih
    refine ⟨k, rest, rfl, ?_⟩
    revert hk
    unfold begins
    split <;> simp

theorem length_pos (h : Derives (Accepted ctx) c ks e) : 0 < ks.length := by
  obtain ⟨k, rest, rfl, -⟩ := h.exists_begins
  exact Nat.succ_pos _

theorem all_occur (h : Derives (Accepted ctx) c ks e) : ∀ k ∈ ks, occurs k :=
  h.forall_mem (fun _ _ accepted => occurs_of_begins (accepted.begins .atom)) (by decide)

end Derives

/-- A derivation from the tokens where it begins to the tokens left. -/
def Spans (ctx : Context) (hidden : LongIntegers) (c : Category) (ts : Tokens) (e : Expr)
    (rest : Tokens) : Prop :=
  ∃ body, ts = body ++ rest ∧ Derives (Accepted ctx) c (body.map (restore hidden)) e

/-- The arguments from one on, up to the closing parenthesis of the call. -/
def SpansArgs (ctx : Context) (hidden : LongIntegers) (ts : Tokens) (es : List Expr)
    (rest : Tokens) : Prop :=
  ∃ (args : List (List TokenKind × Expr)) (inner : Tokens) (close : Token),
    ts = inner ++ close :: rest ∧ close.kind = .mark .closeParen ∧ args.map Prod.snd = es ∧
      Separated (args.map Prod.fst) (inner.map (restore hidden)) ∧
      ∀ arg ∈ args, Derives (Accepted ctx) .sum arg.1 arg.2

namespace Spans

variable {ctx : Context} {hidden : LongIntegers} {ts mid rest : Tokens} {t : Token} {a b e : Expr}

theorem sum {op : BinaryOp} (h : op = .add ∨ op = .sub) (ht : t.kind = .mark op.mark)
    (hl : Spans ctx hidden .sum ts a (t :: mid)) (hr : Spans ctx hidden .product mid b rest) :
    Spans ctx hidden .sum ts (.binary op a b) rest := by
  obtain ⟨left, rfl, hl⟩ := hl
  obtain ⟨right, rfl, hr⟩ := hr
  refine ⟨left ++ t :: right, by simp, ?_⟩
  rw [List.map_append, List.map_cons, restore_mark.mpr ht]
  exact .sum h hl hr

theorem product {op : BinaryOp} (h : op = .mul ∨ op = .div) (ht : t.kind = .mark op.mark)
    (hl : Spans ctx hidden .product ts a (t :: mid))
    (hr : Spans ctx hidden .negation mid b rest) :
    Spans ctx hidden .product ts (.binary op a b) rest := by
  obtain ⟨left, rfl, hl⟩ := hl
  obtain ⟨right, rfl, hr⟩ := hr
  refine ⟨left ++ t :: right, by simp, ?_⟩
  rw [List.map_append, List.map_cons, restore_mark.mpr ht]
  exact .product h hl hr

theorem ofProduct (h : Spans ctx hidden .product ts e rest) : Spans ctx hidden .sum ts e rest := by
  obtain ⟨body, split, h⟩ := h
  exact ⟨body, split, .ofProduct h⟩

theorem ofNegation (h : Spans ctx hidden .negation ts e rest) :
    Spans ctx hidden .product ts e rest := by
  obtain ⟨body, split, h⟩ := h
  exact ⟨body, split, .ofNegation h⟩

theorem ofApplication (h : Spans ctx hidden .application ts e rest) :
    Spans ctx hidden .negation ts e rest := by
  obtain ⟨body, split, h⟩ := h
  exact ⟨body, split, .ofApplication h⟩

theorem ofAtom (h : Spans ctx hidden .atom ts e rest) : Spans ctx hidden .application ts e rest := by
  obtain ⟨body, split, h⟩ := h
  exact ⟨body, split, .ofAtom h⟩

theorem negation (ht : t.kind = .mark .minus) (h : Spans ctx hidden .negation ts e rest) :
    Spans ctx hidden .negation (t :: ts) (.neg e) rest := by
  obtain ⟨body, rfl, h⟩ := h
  refine ⟨t :: body, rfl, ?_⟩
  rw [List.map_cons, restore_mark.mpr ht]
  exact .negation h

theorem leaf (h : Accepted ctx (restore hidden t) e) : Spans ctx hidden .atom (t :: rest) e rest :=
  ⟨[t], rfl, .leaf h⟩

theorem group {close : Token} (ht : t.kind = .mark .openParen) (hc : close.kind = .mark .closeParen)
    (h : Spans ctx hidden .sum ts e (close :: rest)) :
    Spans ctx hidden .atom (t :: ts) e rest := by
  obtain ⟨body, rfl, h⟩ := h
  refine ⟨t :: (body ++ [close]), by simp, ?_⟩
  rw [List.map_cons, List.map_append, List.map_singleton, restore_mark.mpr ht, restore_mark.mpr hc]
  exact .group h

theorem application {es : List Expr} (ht : t.kind = .mark .openParen)
    (hf : Spans ctx hidden .application ts e (t :: mid)) (ha : SpansArgs ctx hidden mid es rest) :
    Spans ctx hidden .application ts (.apply e es) rest := by
  obtain ⟨body, rfl, hf⟩ := hf
  obtain ⟨args, inner, close, rfl, hc, rfl, layout, each⟩ := ha
  refine ⟨body ++ t :: (inner ++ [close]), by simp, ?_⟩
  rw [List.map_append, List.map_cons, List.map_append, List.map_singleton, restore_mark.mpr ht,
    restore_mark.mpr hc]
  exact .application hf each layout

end Spans

namespace SpansArgs

variable {ctx : Context} {hidden : LongIntegers} {ts mid rest : Tokens} {t : Token} {e : Expr}
  {es : List Expr}

theorem none (ht : t.kind = .mark .closeParen) : SpansArgs ctx hidden (t :: rest) [] rest :=
  ⟨[], [], t, rfl, ht, rfl, .none, by simp⟩

theorem last (ht : t.kind = .mark .closeParen) (h : Spans ctx hidden .sum ts e (t :: rest)) :
    SpansArgs ctx hidden ts [e] rest := by
  obtain ⟨body, rfl, h⟩ := h
  exact ⟨[(_, e)], body, t, rfl, ht, rfl, .last _, by simpa using h⟩

theorem more (ht : t.kind = .mark .comma) (h : Spans ctx hidden .sum ts e (t :: mid))
    (hs : SpansArgs ctx hidden mid es rest) : SpansArgs ctx hidden ts (e :: es) rest := by
  obtain ⟨body, rfl, h⟩ := h
  obtain ⟨args, inner, close, rfl, hc, rfl, layout, each⟩ := hs
  refine ⟨(body.map (restore hidden), e) :: args, body ++ t :: inner, close, by simp, hc, rfl, ?_, ?_⟩
  · simp only [List.map_append, List.map_cons, restore_mark.mpr ht]
    exact .more _ layout
  · intro arg member
    rcases List.mem_cons.mp member with rfl | member
    · exact h
    · exact each arg member

end SpansArgs

end Reckoner.Source
