import Mathlib
import Reckoner.Proofs.Expr.Regrouping
import Reckoner.Proofs.Source.Rescanning

/-! Phrases: expressions as they are written, every constant spelled by a literal, with the pieces
of their text. The pieces derive the regrouped tree of the phrase. -/

namespace Reckoner

open Source

inductive Phrase where
  | number (l : Literal)
  | name (id : String)
  | neg (operand : Phrase)
  | binary (op : BinaryOp) (left right : Phrase)

/-- The expressions that bind at least as strong as required. -/
def Precedence.category : Precedence → Category
  | none | sum => .sum
  | product => .product
  | neg => .negation
  | application => .application
  | atom => .atom

/-- The binding that the right operand of an operation needs. -/
def BinaryOp.rightPrecedence (op : BinaryOp) : Precedence :=
  if op.bindsRightTighter then op.precedence.tighter else op.precedence

namespace Phrase

def wrap (needed : Bool) (ps : List Piece) : List Piece :=
  if needed then .opening :: (ps ++ [.closing]) else ps

/-- The pieces of a phrase where at least the binding `required` is needed. -/
def pieces (required : Precedence) : Phrase → List Piece
  | number l => [.number l]
  | name id => [.name id]
  | neg operand =>
    wrap (Precedence.neg.rank < required.rank) (.sign .sub :: operand.pieces .neg)
  | binary op left right =>
    wrap (op.precedence.rank < required.rank)
      (left.pieces op.precedence ++ .sign op :: right.pieces op.rightPrecedence)

/-- The tree of a phrase, given the values of its literals. -/
def tree (value : Literal → Value) : Phrase → Expr
  | number l => .constant (value l)
  | name id => .symbol id
  | neg operand => .neg (operand.tree value)
  | binary op left right => .binary op (left.tree value) (right.tree value)

/-- What holds of all literals and of all names of a phrase. -/
def All (number : Literal → Prop) (name : String → Prop) : Phrase → Prop
  | .number l => number l
  | .name id => name id
  | .neg operand => operand.All number name
  | .binary _ left right => left.All number name ∧ right.All number name

section Text

theorem depthAfter_wrap {needed : Bool} {ps : List Piece} {depth : Nat}
    (h : ∀ depth, depthAfter depth ps = some depth) :
    depthAfter depth (wrap needed ps) = some depth := by
  cases needed with
  | false => exact h depth
  | true => simp [wrap, depthAfter, depthAfter_append, h]

theorem depthAfter_pieces (p : Phrase) (required : Precedence) (depth : Nat) :
    depthAfter depth (p.pieces required) = some depth := by
  induction p generalizing required depth with
  | number | name => rfl
  | neg operand ih => exact depthAfter_wrap fun depth => ih .neg depth
  | binary op left right ihl ihr =>
    refine depthAfter_wrap fun depth => ?_
    rw [depthAfter_append, ihl]
    exact ihr _ depth

/-- Pieces that make an operand. -/
structure Operand (ps : List Piece) : Prop where
  written : Written ps
  nonempty : ps ≠ []
  first : ∀ q ∈ ps.head?, q.begins
  last : ∀ q ∈ ps.getLast?, q.isWord ∨ q = .closing

namespace Operand

variable {ps qs : List Piece}

theorem word {p : Piece} (legible : p.Legible) (word : p.isWord) : Operand [p] := by
  refine ⟨⟨by simpa using legible, .singleton _⟩, by simp, ?_, by simp [word]⟩
  cases p with
  | name | number => simp [Piece.begins]
  | sign | opening | closing => cases word

theorem after_sign (op : BinaryOp) (h : Operand ps) : Written (.sign op :: ps) := by
  constructor
  · exact List.forall_mem_cons.mpr ⟨trivial, h.written.legible⟩
  · exact List.isChain_cons.mpr ⟨fun q hq => h.first q hq, h.written.apart⟩

theorem neg (h : Operand ps) : Operand (.sign .sub :: ps) := by
  refine ⟨h.after_sign .sub, by simp, by simp [Piece.begins], ?_⟩
  rw [List.getLast?_cons_of_ne_nil h.nonempty]
  exact h.last

theorem before_mark {q : Piece} (h : Operand ps) (mark : q.isWord = false) :
    ∀ p ∈ ps.getLast?, p.Apart q := by
  intro p hp
  rcases h.last p hp with word | rfl
  · cases p with
    | name | number => exact mark
    | sign | opening | closing => cases word
  · trivial

theorem binary (op : BinaryOp) (hl : Operand ps) (hr : Operand qs) :
    Operand (ps ++ .sign op :: qs) := by
  have right := hr.after_sign op
  constructor
  · constructor
    · exact List.forall_mem_append.mpr ⟨hl.written.legible, right.legible⟩
    · refine List.isChain_append.mpr ⟨hl.written.apart, right.apart, fun p hp q hq => ?_⟩
      obtain rfl : .sign op = q := by simpa using hq
      exact hl.before_mark rfl p hp
  · simp
  · rw [List.head?_append_of_ne_nil _ hl.nonempty]
    exact hl.first
  · rw [List.getLast?_append_of_ne_nil _ (by simp), List.getLast?_cons_of_ne_nil hr.nonempty]
    exact hr.last

theorem wrap (needed : Bool) (h : Operand ps) : Operand (wrap needed ps) := by
  cases needed with
  | false => exact h
  | true =>
    constructor
    · constructor
      · simp only [Phrase.wrap, if_true, List.forall_mem_cons, List.forall_mem_append]
        exact ⟨trivial, h.written.legible, trivial, by simp⟩
      · refine List.isChain_cons.mpr ⟨fun q _ => trivial, List.isChain_append.mpr
          ⟨h.written.apart, .singleton _, fun p hp q hq => ?_⟩⟩
        obtain rfl : .closing = q := by simpa using hq
        exact h.before_mark rfl p hp
    · simp [Phrase.wrap]
    · simp [Phrase.wrap, Piece.begins]
    · intro q hq
      rw [Phrase.wrap, if_pos rfl, ← List.cons_append, List.getLast?_append_of_ne_nil _ (by simp),
        List.getLast?_singleton] at hq
      exact .inr (Option.some.inj hq).symm

end Operand

theorem pieces_operand {p : Phrase} (legible : p.All Literal.Displayed Spellable)
    (required : Precedence) : Operand (p.pieces required) := by
  induction p generalizing required with
  | number l => exact .word legible rfl
  | name id => exact .word legible rfl
  | neg operand ih => exact (ih legible .neg).neg.wrap _
  | binary op left right ihl ihr => exact ((ihl legible.1 _).binary op (ihr legible.2 _)).wrap _

end Text

section Derivation

variable {leaf : TokenKind → Expr → Prop} {ks ls rs : List TokenKind} {a b e : Expr}

theorem derives_atom (h : Derives leaf .atom ks e) (required : Precedence) :
    Derives leaf required.category ks e := by
  cases required with
  | none | sum => exact .ofProduct (.ofNegation (.ofApplication (.ofAtom h)))
  | product => exact .ofNegation (.ofApplication (.ofAtom h))
  | neg => exact .ofApplication (.ofAtom h)
  | application => exact .ofAtom h
  | atom => exact h

theorem derives_negation {required : Precedence} (h : Derives leaf .negation ks e)
    (loose : required.rank ≤ Precedence.neg.rank) : Derives leaf required.category ks e := by
  cases required with
  | none | sum => exact .ofProduct (.ofNegation h)
  | product => exact .ofNegation h
  | neg => exact h
  | application | atom => simp [Precedence.rank] at loose

theorem derives_operation {op : BinaryOp} {required : Precedence}
    (h : Derives leaf op.precedence.category ks e) (loose : required.rank ≤ op.precedence.rank) :
    Derives leaf required.category ks e := by
  cases op <;> cases required <;>
    first | exact h | exact .ofProduct h | simp [Precedence.rank, BinaryOp.precedence] at loose

theorem derives_binary (op : BinaryOp) (hl : Derives leaf op.precedence.category ls a)
    (hr : Derives leaf op.precedence.tighter.category rs b) :
    Derives leaf op.precedence.category (ls ++ .mark op.mark :: rs) (.binary op a b) := by
  cases op with
  | add | sub => exact .sum (by simp) hl hr
  | mul | div => exact .product (by simp) hl hr

/-- Parentheses around a phrase that binds too weak make it fit every place. -/
theorem derives_wrap {own required : Precedence} {ps : List Piece}
    (h : Derives leaf own.category (ps.map Piece.kind) e)
    (fits : required.rank ≤ own.rank → Derives leaf required.category (ps.map Piece.kind) e) :
    Derives leaf required.category ((wrap (own.rank < required.rank) ps).map Piece.kind) e := by
  by_cases weak : own.rank < required.rank
  · have sum : Derives leaf .sum (ps.map Piece.kind) e := by
      cases own with
      | none | sum => exact h
      | product => exact .ofProduct h
      | neg => exact .ofProduct (.ofNegation h)
      | application => exact .ofProduct (.ofNegation (.ofApplication h))
      | atom => exact derives_atom h .sum
    have group := derives_atom (.group sum) required
    simpa [wrap, weak, Piece.kind] using group
  · simpa [wrap, weak] using fits (not_lt.mp weak)

variable {value : Literal → Value}

/-- What the grammar has to know of the literals and names of a phrase. -/
def Known (leaf : TokenKind → Expr → Prop) (value : Literal → Value) : Phrase → Prop :=
  All (fun l => leaf (.number l.kind l.text) (.constant (value l)))
    fun id => leaf (.name id) (.symbol id)

/-- A phrase is the right operand of a loose operation in two ways: as the operand that it is, or
with its own operators in the chain of the operation. -/
structure Derived (leaf : TokenKind → Expr → Prop) (value : Literal → Value) (p : Phrase) : Prop where
  own : ∀ required : Precedence, Derives leaf required.category
    ((p.pieces required).map Piece.kind) (p.tree value).regroup
  chain : ∀ (op : BinaryOp) (ls : List TokenKind) (a : Expr), op.bindsRightTighter = false →
    Derives leaf op.precedence.category ls a → Derives leaf op.precedence.category
      (ls ++ .mark op.mark :: (p.pieces op.precedence).map Piece.kind)
      (Expr.graft op a (p.tree value).regroup)

theorem derived_atom {p : Phrase} (all : ∀ required : Precedence, Derives leaf required.category
    ((p.pieces required).map Piece.kind) (p.tree value).regroup)
    (apart : ∀ op a, Expr.graft op a (p.tree value).regroup = .binary op a (p.tree value).regroup)
    (same : ∀ op : BinaryOp, p.pieces op.precedence = p.pieces op.precedence.tighter) :
    Derived leaf value p := by
  refine ⟨all, fun op ls a _ hl => ?_⟩
  rw [apart, same]
  exact derives_binary op hl (all _)

/-- An operation of another precedence needs parentheses on the right of a loose one just when it
needs them in the tighter place. -/
theorem pieces_tighter {op inner : BinaryOp} {left right : Phrase}
    (ne : inner.precedence ≠ op.precedence) :
    (binary inner left right).pieces op.precedence =
      (binary inner left right).pieces op.precedence.tighter := by
  cases op <;> cases inner <;> first | rfl | exact absurd rfl ne

theorem derived_binary {inner : BinaryOp} {left right : Phrase} (hl : Derived leaf value left)
    (hr : Derived leaf value right) : Derived leaf value (binary inner left right) := by
  have body : Derives leaf inner.precedence.category
      ((left.pieces inner.precedence ++ .sign inner :: right.pieces inner.rightPrecedence).map
        Piece.kind) ((binary inner left right).tree value).regroup := by
    rw [List.map_append, List.map_cons, tree, Expr.regroup, BinaryOp.rightPrecedence]
    split
    · exact derives_binary inner (hl.own _) (hr.own _)
    · rename_i loose
      exact hr.chain inner _ _ (eq_false_of_ne_true loose) (hl.own _)
  have own (required : Precedence) : Derives leaf required.category
      (((binary inner left right).pieces required).map Piece.kind)
      ((binary inner left right).tree value).regroup :=
    derives_wrap body fun loose => derives_operation body loose
  refine ⟨own, fun op ls a loose ha => ?_⟩
  by_cases same : inner.precedence = op.precedence
  · have first := hl.chain op ls a loose ha
    rw [← same] at first
    have split : ls ++ .mark op.mark ::
        (((binary inner left right).pieces op.precedence).map Piece.kind) =
        (ls ++ .mark op.mark :: (left.pieces inner.precedence).map Piece.kind) ++
          .mark inner.mark :: (right.pieces inner.rightPrecedence).map Piece.kind := by
      simp [pieces, wrap, same, Piece.kind]
    rw [split, ← same, tree, Expr.regroup, BinaryOp.rightPrecedence]
    split
    · rw [Expr.graft_of_eq same]
      exact derives_binary inner first (hr.own _)
    · rename_i inner_loose
      obtain rfl : inner = op := by
        cases op <;> cases inner <;>
          simp_all [BinaryOp.precedence, BinaryOp.bindsRightTighter]
      rw [Expr.graft_graft]
      exact hr.chain inner _ _ loose first
  · obtain ⟨last, x, y, regrouped, of_inner⟩ :=
      Expr.regroup_eq_binary inner (left.tree value) (right.tree value)
    have apart : Expr.graft op a ((binary inner left right).tree value).regroup =
        .binary op a ((binary inner left right).tree value).regroup := by
      rw [tree, regrouped, Expr.graft_of_ne (of_inner ▸ same)]
    rw [apart, pieces_tighter same]
    exact derives_binary op ha (own _)

/-- The pieces of a phrase derive its regrouped tree. -/
theorem derived_of_known {p : Phrase} (known : p.Known leaf value) : Derived leaf value p := by
  induction p with
  | number l => exact derived_atom (derives_atom (.leaf known)) (fun _ _ => rfl) fun _ => rfl
  | name id => exact derived_atom (derives_atom (.leaf known)) (fun _ _ => rfl) fun _ => rfl
  | neg operand ih =>
    have negation := Derives.negation ((ih known).own .neg)
    refine derived_atom (fun required => ?_) (fun _ _ => rfl) fun op => ?_
    · exact derives_wrap negation fun loose => derives_negation negation loose
    · cases op <;> rfl
  | binary inner left right ihl ihr => exact derived_binary (ihl known.1) (ihr known.2)

end Derivation

end Phrase

end Reckoner
