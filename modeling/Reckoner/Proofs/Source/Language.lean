import Mathlib
import Reckoner.Decimal.Numeral
import Reckoner.Proofs.Expr.Every
import Reckoner.Source.Token

/-! The expression language as a grammar over tokens. Sums and products join from the left, a
minus sign binds tighter than both, and applications bind tightest. -/

namespace Reckoner

/-- The operator sign of an operation. -/
def BinaryOp.mark : BinaryOp → Source.Mark
  | .add => .plus
  | .sub => .minus
  | .mul => .star
  | .div => .slash

namespace Source

/-- The digits of a number without leading zeros, then a point with any digits and the letter `e`
with at least one, both optional. -/
structure Literal where
  whole : List Char
  fraction : Option (List Char)
  exponent : Option (List Char)
  whole_digits : ∀ c ∈ whole, c.isDigit
  whole_leading : whole = ['0'] ∨ whole ≠ [] ∧ whole.head? ≠ some '0'
  fraction_digits : ∀ ds ∈ fraction, ∀ c ∈ ds, c.isDigit
  exponent_digits : ∀ ds ∈ exponent, ds ≠ [] ∧ ∀ c ∈ ds, c.isDigit

namespace Literal

def text (l : Literal) : List Char :=
  l.whole ++ l.fraction.elim [] ('.' :: ·) ++ l.exponent.elim [] ('e' :: ·)

def IsInteger (l : Literal) : Prop := l.fraction = none ∧ l.exponent = none

/-- The number with exactly the digits of the literal. -/
def decimal (l : Literal) : Decimal :=
  ⟨false, readDigits (l.whole ++ l.fraction.getD []),
    (readDigits (l.exponent.getD []) : Int) - (l.fraction.getD []).length⟩

end Literal

/-- What single tokens stand for: names for symbols, integers for exact numbers, and the other
numbers for decimals of a context that they do not overflow. -/
inductive Denotes (ctx : Context) : TokenKind → Expr → Prop where
  | name (id : String) : Denotes ctx (.name id) (.symbol id)
  | integer (kind : NumberKind) (l : Literal) (h : l.IsInteger) :
    Denotes ctx (.number kind l.text) (.constant (.exact (readDigits l.whole)))
  | decimal (kind : NumberKind) (l : Literal) (h : ¬l.IsInteger) {d : Decimal}
    (rounded : l.decimal.roundIn ctx = .ok d) :
    Denotes ctx (.number kind l.text) (.constant (.decimal (.finite d)))

inductive Category where
  | sum | product | negation | application | atom
deriving DecidableEq, Repr

/-- Parts with commas between them, and maybe one after the last. -/
inductive Separated : List (List TokenKind) → List TokenKind → Prop where
  | none : Separated [] []
  | last (ks : List TokenKind) : Separated [ks] ks
  | more (ks : List TokenKind) {parts : List (List TokenKind)} {rest : List TokenKind}
    (h : Separated parts rest) : Separated (ks :: parts) (ks ++ .mark .comma :: rest)

theorem Separated.nil_eq {ks : List TokenKind} (h : Separated [] ks) : ks = [] := by
  cases h
  rfl

theorem Separated.cons_cases {part : List TokenKind} {parts : List (List TokenKind)}
    {ks : List TokenKind} (h : Separated (part :: parts) ks) :
    parts = [] ∧ ks = part ∨ ∃ rest, Separated parts rest ∧ ks = part ++ .mark .comma :: rest := by
  cases h with
  | last => exact .inl ⟨rfl, rfl⟩
  | more _ h => exact .inr ⟨_, h, rfl⟩

/-- The grammar, with its trees; `leaf` says what single tokens stand for. -/
inductive Derives (leaf : TokenKind → Expr → Prop) : Category → List TokenKind → Expr → Prop where
  | sum {op : BinaryOp} (h : op = .add ∨ op = .sub) {ls rs : List TokenKind} {a b : Expr}
    (hl : Derives leaf .sum ls a) (hr : Derives leaf .product rs b) :
    Derives leaf .sum (ls ++ .mark op.mark :: rs) (.binary op a b)
  | ofProduct {ks : List TokenKind} {e : Expr} (h : Derives leaf .product ks e) :
    Derives leaf .sum ks e
  | product {op : BinaryOp} (h : op = .mul ∨ op = .div) {ls rs : List TokenKind} {a b : Expr}
    (hl : Derives leaf .product ls a) (hr : Derives leaf .negation rs b) :
    Derives leaf .product (ls ++ .mark op.mark :: rs) (.binary op a b)
  | ofNegation {ks : List TokenKind} {e : Expr} (h : Derives leaf .negation ks e) :
    Derives leaf .product ks e
  | negation {ks : List TokenKind} {e : Expr} (h : Derives leaf .negation ks e) :
    Derives leaf .negation (.mark .minus :: ks) (.neg e)
  | ofApplication {ks : List TokenKind} {e : Expr} (h : Derives leaf .application ks e) :
    Derives leaf .negation ks e
  | application {ks inner : List TokenKind} {f : Expr} {args : List (List TokenKind × Expr)}
    (hf : Derives leaf .application ks f) (ha : ∀ arg ∈ args, Derives leaf .sum arg.1 arg.2)
    (layout : Separated (args.map Prod.fst) inner) :
    Derives leaf .application (ks ++ .mark .openParen :: (inner ++ [.mark .closeParen]))
      (.apply f (args.map Prod.snd))
  | ofAtom {ks : List TokenKind} {e : Expr} (h : Derives leaf .atom ks e) :
    Derives leaf .application ks e
  | leaf {k : TokenKind} {e : Expr} (h : leaf k e) : Derives leaf .atom [k] e
  | group {ks : List TokenKind} {e : Expr} (h : Derives leaf .sum ks e) :
    Derives leaf .atom (.mark .openParen :: (ks ++ [.mark .closeParen])) e

theorem Separated.mem {parts : List (List TokenKind)} {ks : List TokenKind}
    (h : Separated parts ks) {part : List TokenKind} (hp : part ∈ parts) {k : TokenKind}
    (hk : k ∈ part) : k ∈ ks := by
  induction h with
  | none => cases hp
  | last => simp_all
  | more ks _ ih =>
    rcases List.mem_cons.mp hp with rfl | hp
    · exact List.mem_append_left _ hk
    · exact List.mem_append_right _ (List.mem_cons_of_mem _ (ih hp))

theorem Separated.forall_mem {p : TokenKind → Prop} {parts : List (List TokenKind)}
    {ks : List TokenKind} (h : Separated parts ks) (comma : p (.mark .comma))
    (each : ∀ part ∈ parts, ∀ k ∈ part, p k) : ∀ k ∈ ks, p k := by
  induction h with
  | none => simp
  | last ks => simpa using each
  | more ks _ ih =>
    simp only [List.forall_mem_cons] at each
    simp only [List.forall_mem_append, List.forall_mem_cons]
    exact ⟨each.1, comma, ih each.2⟩

namespace Derives

variable {leaf other : TokenKind → Expr → Prop} {c : Category} {ks : List TokenKind} {e : Expr}

theorem congr (h : Derives leaf c ks e) (same : ∀ k ∈ ks, ∀ e, leaf k e → other k e) :
    Derives other c ks e := by
  induction h with
  | sum hop _ _ ihl ihr =>
    exact .sum hop (ihl fun k hk => same k (by simp [hk])) (ihr fun k hk => same k (by simp [hk]))
  | product hop _ _ ihl ihr =>
    exact .product hop (ihl fun k hk => same k (by simp [hk]))
      (ihr fun k hk => same k (by simp [hk]))
  | ofProduct _ ih => exact .ofProduct (ih same)
  | ofNegation _ ih => exact .ofNegation (ih same)
  | negation _ ih => exact .negation (ih fun k hk => same k (by simp [hk]))
  | ofApplication _ ih => exact .ofApplication (ih same)
  | application _ _ layout ihf iha =>
    refine .application (ihf fun k hk => same k (by simp [hk])) (fun arg member => ?_) layout
    exact iha arg member fun k hk =>
      same k (by simp [layout.mem (List.mem_map_of_mem member) hk])
  | ofAtom _ ih => exact .ofAtom (ih same)
  | leaf h => exact .leaf (same _ (by simp) _ h)
  | group _ ih => exact .group (ih fun k hk => same k (by simp [hk]))

/-- What holds of the leaves and of the marks of the grammar holds of all tokens. -/
theorem forall_mem {p : TokenKind → Prop} (h : Derives leaf c ks e) (leaves : ∀ k e, leaf k e → p k)
    (marks : ∀ mark ∈ [Mark.plus, .minus, .star, .slash, .openParen, .closeParen, .comma],
      p (.mark mark)) : ∀ k ∈ ks, p k := by
  induction h with
  | @sum op _ _ _ _ _ _ _ ihl ihr | @product op _ _ _ _ _ _ _ ihl ihr =>
    have sign : p (.mark op.mark) := marks _ (by cases op <;> decide)
    simp only [List.forall_mem_append, List.forall_mem_cons]
    exact ⟨ihl, sign, ihr⟩
  | ofProduct _ ih | ofNegation _ ih | ofApplication _ ih | ofAtom _ ih => exact ih
  | negation _ ih =>
    simp only [List.forall_mem_cons]
    exact ⟨marks _ (by decide), ih⟩
  | @application ks inner f args _ _ layout ihf iha =>
    have inside := layout.forall_mem (marks _ (by decide)) (by simpa using iha)
    simp only [List.forall_mem_append, List.forall_mem_cons]
    exact ⟨ihf, marks _ (by decide), inside, marks _ (by decide), by simp⟩
  | leaf h => simpa using leaves _ _ h
  | group _ ih =>
    simp only [List.forall_mem_append, List.forall_mem_cons]
    exact ⟨marks _ (by decide), ih, marks _ (by decide), by simp⟩

/-- The symbols of a tree are names among its tokens. -/
theorem mentions {name : String} (h : Derives leaf c ks e) (mentioned : e.Mentions name)
    (leaves : ∀ k e, leaf k e → e.Mentions name → k = .name name) : .name name ∈ ks := by
  induction h with
  | sum _ _ _ ihl ihr | product _ _ _ ihl ihr =>
    cases mentioned with
    | left h => exact List.mem_append_left _ (ihl h)
    | right h => exact List.mem_append_right _ (List.mem_cons_of_mem _ (ihr h))
  | ofProduct _ ih | ofNegation _ ih | ofApplication _ ih | ofAtom _ ih => exact ih mentioned
  | negation _ ih =>
    cases mentioned with
    | neg h => exact List.mem_cons_of_mem _ (ih h)
  | application _ _ layout ihf iha =>
    cases mentioned with
    | callee h => exact List.mem_append_left _ (ihf h)
    | arg ha h =>
      obtain ⟨arg, member, rfl⟩ := List.mem_map.mp ha
      have inside := layout.mem (List.mem_map_of_mem member) (iha arg member h)
      simp [inside]
  | leaf h => exact List.mem_singleton.mpr (leaves _ _ h mentioned).symm
  | group _ ih => exact List.mem_cons_of_mem _ (List.mem_append_left _ (ih mentioned))

end Derives

/-- A whole text: one expression, and line ends after it. -/
def Sentence (leaf : TokenKind → Expr → Prop) (ks : List TokenKind) (e : Expr) : Prop :=
  ∃ (body : List TokenKind) (ends : Nat),
    ks = body ++ List.replicate ends .newline ++ [.finish] ∧ Derives leaf .sum body e

end Source

end Reckoner
