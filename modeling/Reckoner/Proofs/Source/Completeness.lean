import Mathlib
import Reckoner.Proofs.Outcome
import Reckoner.Proofs.Source.Derivation

/-! The descent recognises what is derivable. A derivation that joins from the left is met by a
loop: after its tokens the loop stands at the tokens left with the tree so far. The fuel of a
call is measured by the tokens of its part, thirty-two for each of them less a few for the
levels that lie above it. -/

namespace Reckoner.Source

open Grammar

variable {ctx : Context} {hidden : LongIntegers}

/-- The tokens that may stand after a part of a category. -/
def follows (c : Category) : TokenKind → Bool
  | .newline | .finish | .mark .closeParen | .mark .comma => true
  | .mark .plus | .mark .minus => c ≠ .sum
  | .mark .star | .mark .slash => c = .negation
  | _ => false

/-- What a derivation of the tokens `body` lets the descent do. -/
def Recognised (ctx : Context) (hidden : LongIntegers) :
    Category → Tokens → Expr → Prop
  | .sum, body, e => ∀ fuel rest, 32 * body.length ≤ fuel + 25 → follows .product (peek rest) →
    ∃ n s, n < body.length ∧ Converts ctx hidden s e ∧
      chain fuel 4 (body ++ rest) = chainRest (fuel - 1 - n) 4 (columnOf (body ++ rest)) s rest
  | .product, body, e => ∀ fuel rest, 32 * body.length ≤ fuel + 26 → follows .negation (peek rest) →
    ∃ n s, n < body.length ∧ Converts ctx hidden s e ∧
      chain fuel 5 (body ++ rest) = chainRest (fuel - 1 - n) 5 (columnOf (body ++ rest)) s rest
  | .negation, body, e => ∀ fuel rest, 32 * body.length ≤ fuel + 28 →
    follows .negation (peek rest) →
      ∃ s, Converts ctx hidden s e ∧ factor fuel (body ++ rest) = .ok (s, rest)
  | .application, body, e => ∀ fuel rest, 32 * body.length ≤ fuel + 30 →
    ∃ n s, n < body.length ∧ Converts ctx hidden s e ∧
      primary fuel (body ++ rest) = trailers (fuel - 1 - n) (columnOf (body ++ rest)) s rest
  | .atom, body, e => ∀ fuel rest, 32 * body.length ≤ fuel + 31 →
    ∃ s, Converts ctx hidden s e ∧ atom fuel (body ++ rest) = .ok (s, rest)

section Follows

variable {c : Category} {ts : Tokens}

theorem peek_of_follows (h : follows c (peek ts)) :
    peek ts = .newline ∨ peek ts = .finish ∨ peek ts = .mark .closeParen ∨
      peek ts = .mark .comma ∨ c ≠ .sum ∧ (peek ts = .mark .plus ∨ peek ts = .mark .minus) ∨
        c = .negation ∧ (peek ts = .mark .star ∨ peek ts = .mark .slash) := by
  unfold follows at h
  split at h <;> simp_all

theorem isWord_of_follows (h : follows c (peek ts)) (word : Keyword) : isWord ts word = false := by
  rcases peek_of_follows h with h | h | h | h | ⟨-, h | h⟩ | ⟨-, h | h⟩ <;> simp [isWord, h]

theorem isMark_of_follows (h : follows c (peek ts)) {mark : Mark}
    (hm : mark ∉ [.closeParen, .comma, .plus, .minus, .star, .slash]) : isMark ts mark = false := by
  simp only [List.mem_cons, List.not_mem_nil, or_false, not_or] at hm
  rcases peek_of_follows h with h | h | h | h | ⟨-, h | h⟩ | ⟨-, h | h⟩ <;>
    simp [isMark, h] <;> tauto

theorem infixOp_of_follows (h : follows c (peek ts)) {level : Nat}
    (other : level < 4 ∨ level = 4 ∧ c = .sum ∨ level = 5 ∧ c ≠ .negation) :
    infixOp? level (peek ts) = none := by
  rcases peek_of_follows h with h | h | h | h | ⟨hc, h | h⟩ | ⟨hc, h | h⟩ <;> rw [h] <;>
    unfold infixOp? <;> dsimp only <;> split <;> simp_all

theorem afterComparison_of_follows (h : follows c (peek ts)) : afterComparison? ts = .ok none := by
  rcases peek_of_follows h with h | h | h | h | ⟨-, h | h⟩ | ⟨-, h | h⟩ <;>
    simp [afterComparison?, h]

theorem trailers_of_follows (h : follows c (peek ts)) {fuel start : Nat} {s : Surface} :
    trailers (fuel + 1) start s ts = .ok (s, ts) := by
  rw [trailers]
  rcases peek_of_follows h with h | h | h | h | ⟨-, h | h⟩ | ⟨-, h | h⟩ <;> rw [h] <;> rfl

theorem chainRest_of_follows (h : follows c (peek ts)) {level : Nat}
    (other : level < 4 ∨ level = 4 ∧ c = .sum ∨ level = 5 ∧ c ≠ .negation)
    {fuel start : Nat} {s : Surface} :
    chainRest (fuel + 1) level start s ts = .ok (s, ts) := by
  rw [chainRest, infixOp_of_follows h other]
  rfl

theorem follows_negation (h : follows c (peek ts)) : follows .negation (peek ts) := by
  rcases peek_of_follows h with h | h | h | h | ⟨-, h | h⟩ | ⟨-, h | h⟩ <;> rw [h] <;> rfl

end Follows

section Begins

variable {c : Category} {body rest ts : Tokens} {e : Expr}

theorem peek_of_begins (h : begins c (peek ts)) :
    (∃ id, peek ts = .name id) ∨ (∃ kind text, peek ts = .number kind text) ∨
      peek ts = .mark .openParen ∨ (c ≠ .application ∧ c ≠ .atom) ∧ peek ts = .mark .minus := by
  unfold begins at h
  split at h <;> simp_all

theorem isWord_of_begins (h : begins c (peek ts)) (word : Keyword) : isWord ts word = false := by
  rcases peek_of_begins h with ⟨_, h⟩ | ⟨_, _, h⟩ | h | ⟨-, h⟩ <;> simp [isWord, h]

theorem isMark_of_begins (h : begins c (peek ts)) {mark : Mark} (hm : mark ∉ [.openParen, .minus]) :
    isMark ts mark = false := by
  simp only [List.mem_cons, List.not_mem_nil, or_false, not_or] at hm
  rcases peek_of_begins h with ⟨_, h⟩ | ⟨_, _, h⟩ | h | ⟨-, h⟩ <;> simp [isMark, h] <;> tauto

theorem unaryOp_of_begins (h : begins .application (peek ts)) : unaryOp? (peek ts) = none := by
  rcases peek_of_begins h with ⟨_, h⟩ | ⟨_, _, h⟩ | h | ⟨hc, -⟩
  · rw [h]
    rfl
  · rw [h]
    rfl
  · rw [h]
    rfl
  · exact absurd rfl hc.1

variable (h : Derives (Accepted ctx) c (body.map (restore hidden)) e)
include h

theorem begins_body : begins c (peek (body ++ rest)) := by
  obtain ⟨k, more, split, hk⟩ := h.exists_begins
  obtain ⟨t, ts, rfl, rfl, -⟩ := List.map_eq_cons_iff.mp split
  rwa [begins_restore] at hk

/-- No part begins with a name before one of the signs that give names to values. -/
theorem isNamed_body (hf : follows c (peek rest)) {mark : Mark} (hm : mark ∈ [.colonEqual, .assign]) :
    isNamed (body ++ rest) mark = false := by
  have occur := h.all_occur
  obtain ⟨k, more, split, -⟩ := h.exists_begins
  obtain ⟨t, ts, rfl, -, -⟩ := List.map_eq_cons_iff.mp split
  have second : isMark (ts ++ rest) mark = false := by
    cases ts with
    | nil =>
      refine isMark_of_follows hf ?_
      simp only [List.mem_cons, List.not_mem_nil, or_false] at hm
      rcases hm with rfl | rfl <;> decide
    | cons u us =>
      have allowed := occur (restore hidden u) (by simp)
      rw [occurs_restore] at allowed
      simp only [List.mem_cons, List.not_mem_nil, or_false] at hm
      by_contra marked
      have kind : u.kind = .mark mark := of_decide_eq_true (eq_true_of_ne_false marked)
      rw [kind] at allowed
      rcases hm with rfl | rfl <;> exact absurd allowed (by decide)
  unfold isNamed
  split
  · rename_i split
    cases split
    exact second
  · rfl

end Begins

theorem chain_raise {fuel level : Nat} {ts rest : Tokens} {s : Surface} (hl : level < infixLevels)
    (h : chain (fuel + 1) (level + 1) ts = .ok (s, rest))
    (none : infixOp? level (peek rest) = none) : chain (fuel + 2) level ts = .ok (s, rest) := by
  rw [chain, if_pos hl, h]
  show chainRest (fuel + 1) level (columnOf ts) s rest = _
  rw [chainRest, none]
  rfl

section Lifted

variable {body rest : Tokens} {e : Expr}
  (h : Derives (Accepted ctx) .sum (body.map (restore hidden)) e)
  (hs : Recognised ctx hidden .sum body e) (hf : follows .sum (peek rest))
include h hs hf

theorem chain_complete (fuel : Nat) (enough : 32 * body.length ≤ fuel + 25) :
    ∃ s, Converts ctx hidden s e ∧ chain fuel 4 (body ++ rest) = .ok (s, rest) := by
  have nonempty : 0 < body.length := by simpa using h.length_pos
  have later : follows .product (peek rest) := by
    rcases peek_of_follows hf with h | h | h | h | ⟨hc, -⟩ | ⟨hc, -⟩
    · rw [h]; rfl
    · rw [h]; rfl
    · rw [h]; rfl
    · rw [h]; rfl
    · exact absurd rfl hc
    · cases hc
  obtain ⟨n, s, hn, converted, loop⟩ := hs fuel rest enough later
  obtain ⟨f, hfuel⟩ : ∃ f, fuel - 1 - n = f + 1 := ⟨fuel - 2 - n, by omega⟩
  rw [loop, hfuel]
  exact ⟨s, converted, chainRest_of_follows hf (.inr (.inl ⟨rfl, rfl⟩))⟩

theorem expression_complete (fuel : Nat) (enough : 32 * body.length ≤ fuel + 16) :
    ∃ s, Converts ctx hidden s e ∧ expression fuel (body ++ rest) = .ok (s, rest) := by
  have nonempty : 0 < body.length := by simpa using h.length_pos
  have first : begins .sum (peek (body ++ rest)) := begins_body h
  obtain ⟨f, rfl⟩ : ∃ f, fuel = f + 10 := ⟨fuel - 10, by omega⟩
  obtain ⟨s, converted, level4⟩ := chain_complete h hs hf (f + 1) (by omega)
  have below : ∀ level < 4, infixOp? level (peek rest) = none := fun level hl =>
    infixOp_of_follows hf (.inl hl)
  have level0 : chain (f + 5) 0 (body ++ rest) = .ok (s, rest) :=
    chain_raise (by decide) (chain_raise (by decide) (chain_raise (by decide)
      (chain_raise (by decide) level4 (below 3 (by decide))) (below 2 (by decide)))
      (below 1 (by decide))) (below 0 (by decide))
  have compared : comparison (f + 6) (body ++ rest) = .ok (s, rest) := by
    rw [comparison, level0]
    show afterComparison? rest >>= _ = _
    rw [afterComparison_of_follows hf]
    rfl
  have inverted : inversion (f + 7) (body ++ rest) = .ok (s, rest) := by
    rw [inversion, isWord_of_begins first]
    exact compared
  have conjoined : conjunction (f + 8) (body ++ rest) = .ok (s, rest) := by
    rw [conjunction, inverted]
    show (if isWord rest .kwAnd then _ else _) = _
    rw [isWord_of_follows hf]
    rfl
  have disjoined : disjunction (f + 9) (body ++ rest) = .ok (s, rest) := by
    rw [disjunction, conjoined]
    show (if isWord rest .kwOr then _ else _) = _
    rw [isWord_of_follows hf]
    rfl
  refine ⟨s, converted, ?_⟩
  rw [expression, isWord_of_begins first, disjoined]
  show (if isWord rest .kwIf then _ else _) = _
  rw [isWord_of_follows hf]
  rfl

theorem namedExpression_complete (fuel : Nat) (enough : 32 * body.length ≤ fuel + 15) :
    ∃ s, Converts ctx hidden s e ∧ namedExpression fuel (body ++ rest) = .ok (s, rest) := by
  obtain ⟨f, rfl⟩ : ∃ f, fuel = f + 1 := by
    have := h.length_pos
    rw [List.length_map] at this
    exact ⟨fuel - 1, by omega⟩
  obtain ⟨s, converted, parsed⟩ := expression_complete h hs hf f (by omega)
  refine ⟨s, converted, ?_⟩
  rw [namedExpression, isNamed_body h hf (by decide)]
  exact parsed

end Lifted

/-- One argument, whatever closes it. -/
theorem argument_complete {ks : List TokenKind} {e : Expr} {body after : Tokens}
    (derived : Derives (Accepted ctx) .sum ks e) (recognised : Recognised ctx hidden .sum body e)
    (split : body.map (restore hidden) = ks) (hf : follows .sum (peek after)) (open_ : Nat)
    (seen : List Surface) (fuel : Nat) (enough : 32 * body.length ≤ fuel + 16) :
    ∃ s, Converts ctx hidden s e ∧
      arguments (fuel + 2) open_ .positional seen [] (body ++ after) =
        argumentsRest (fuel + 1) open_ .positional (s :: seen) [] after := by
  subst split
  have first : begins .sum (peek (body ++ after)) := begins_body derived
  obtain ⟨s, converted, parsed⟩ :=
    namedExpression_complete derived recognised hf (fuel + 1) (by omega)
  refine ⟨s, converted, ?_⟩
  rw [arguments, isMark_of_begins first (by decide), isMark_of_begins first (by decide),
    isMark_of_begins first (by decide), isNamed_body derived hf (by decide), parsed]
  show (if beginsClause after && seen.isEmpty then _ else _) = _
  rw [beginsClause, isWord_of_follows hf, isWord_of_follows hf]
  rfl

theorem arguments_complete {args : List (List TokenKind × Expr)}
    (each : ∀ arg ∈ args, Derives (Accepted ctx) .sum arg.1 arg.2 ∧
      ∀ body, body.map (restore hidden) = arg.1 → Recognised ctx hidden .sum body arg.2)
    {inner : Tokens} (layout : Separated (args.map Prod.fst) (inner.map (restore hidden)))
    {close : Token} (hc : close.kind = .mark .closeParen) (rest : Tokens) (open_ : Nat)
    (seen : List Surface) (fuel : Nat) (enough : 32 * inner.length + 20 ≤ fuel) :
    ∃ ss, List.Forall₂ (Converts ctx hidden) ss (args.map Prod.snd) ∧
      arguments fuel open_ .positional seen [] (inner ++ close :: rest) =
        .ok ((seen.reverse ++ ss, []), rest) := by
  have closing : isMark (close :: rest) .closeParen = true := decide_eq_true hc
  induction args generalizing inner seen fuel with
  | nil =>
    obtain rfl : inner = [] := List.map_eq_nil_iff.mp layout.nil_eq
    obtain ⟨f, rfl⟩ : ∃ f, fuel = f + 1 := ⟨fuel - 1, by omega⟩
    refine ⟨[], .nil, ?_⟩
    rw [arguments, List.nil_append, if_pos closing, List.append_nil]
    rfl
  | cons arg args ih =>
    obtain ⟨⟨derived, recognised⟩, each⟩ := List.forall_mem_cons.mp each
    obtain ⟨f, rfl⟩ : ∃ f, fuel = f + 2 := ⟨fuel - 2, by omega⟩
    rcases layout.cons_cases with ⟨single, split⟩ | ⟨tail, layout, split⟩
    · obtain rfl : args = [] := List.map_eq_nil_iff.mp single
      have hf : follows .sum (peek (close :: rest)) := by rw [peek, hc]; rfl
      obtain ⟨s, converted, step⟩ := argument_complete derived (recognised inner split) split hf
        open_ seen f (by omega)
      refine ⟨[s], .cons converted .nil, ?_⟩
      rw [step, argumentsRest, if_neg (by simp [isMark, peek, hc]), if_pos closing]
      simp
    · obtain ⟨body, comma, inner, rfl, hbody, hcomma, rfl⟩ := exists_mark split
      rw [List.length_append, List.length_cons] at enough
      have hf : follows .sum (peek (comma :: (inner ++ close :: rest))) := by
        rw [peek, hcomma]
        rfl
      obtain ⟨s, converted, step⟩ := argument_complete derived (recognised body hbody) hbody hf
        open_ seen f (by omega)
      obtain ⟨ss, all, parsed⟩ := ih each layout (s :: seen) f (by omega)
      refine ⟨s :: ss, .cons converted all, ?_⟩
      rw [List.append_assoc, List.cons_append, step, argumentsRest,
        if_pos (by simp [isMark, peek, hcomma])]
      simpa using parsed

theorem infixOp_sum {op : BinaryOp} (h : op = .add ∨ op = .sub) :
    ∃ joined, infixOp? 4 (.mark op.mark) = some joined ∧ joined.arithmetic? = some op := by
  rcases h with rfl | rfl
  · exact ⟨.add, rfl, rfl⟩
  · exact ⟨.sub, rfl, rfl⟩

theorem infixOp_product {op : BinaryOp} (h : op = .mul ∨ op = .div) :
    ∃ joined, infixOp? 5 (.mark op.mark) = some joined ∧ joined.arithmetic? = some op := by
  rcases h with rfl | rfl
  · exact ⟨.mul, rfl, rfl⟩
  · exact ⟨.div, rfl, rfl⟩

/-- One turn of the loop at an operator. -/
theorem chainRest_step {level fuel start : Nat} {left right : Surface} {t : Token}
    {ts rest : Tokens} {joined : InfixOp} (hj : infixOp? level t.kind = some joined)
    (h : chain fuel (level + 1) ts = .ok (right, rest)) :
    chainRest (fuel + 1) level start left (t :: ts) =
      chainRest fuel level start (.binary start joined left right) rest := by
  have peeked : infixOp? level (peek (t :: ts)) = some joined := hj
  rw [chainRest, peeked]
  show (chain fuel (level + 1) ts >>= _) = _
  rw [h]
  rfl

namespace Recognised

variable {body left right rest : Tokens} {t : Token} {a b e : Expr}

theorem chain_product (h : Recognised ctx hidden .product body e) (nonempty : 0 < body.length)
    (hf : follows .product (peek rest)) (fuel : Nat) (enough : 32 * body.length ≤ fuel + 26) :
    ∃ s, Converts ctx hidden s e ∧ chain fuel 5 (body ++ rest) = .ok (s, rest) := by
  obtain ⟨n, s, hn, converted, loop⟩ := h fuel rest enough (follows_negation hf)
  obtain ⟨f, hfuel⟩ : ∃ f, fuel - 1 - n = f + 1 := ⟨fuel - 2 - n, by omega⟩
  rw [loop, hfuel]
  exact ⟨s, converted, chainRest_of_follows hf (.inr (.inr ⟨rfl, by decide⟩))⟩

theorem chain_negation (h : Recognised ctx hidden .negation body e) (nonempty : 0 < body.length)
    (hf : follows .negation (peek rest)) (fuel : Nat) (enough : 32 * body.length ≤ fuel + 27) :
    ∃ s, Converts ctx hidden s e ∧ chain fuel 6 (body ++ rest) = .ok (s, rest) := by
  obtain ⟨f, rfl⟩ : ∃ f, fuel = f + 1 := ⟨fuel - 1, by omega⟩
  rw [chain, if_neg (by decide)]
  exact h f rest (by omega) hf

theorem sum {op : BinaryOp} (hop : op = .add ∨ op = .sub) (ht : t.kind = .mark op.mark)
    (hl : Recognised ctx hidden .sum left a) (hr : Recognised ctx hidden .product right b)
    (nonempty : 0 < right.length) :
    Recognised ctx hidden .sum (left ++ t :: right) (.binary op a b) := by
  intro fuel rest enough hf
  simp only [List.length_append, List.length_cons] at enough ⊢
  obtain ⟨joined, found, arithmetic⟩ := infixOp_sum hop
  obtain ⟨n, sl, hn, cl, loop⟩ := hl fuel (t :: (right ++ rest)) (by omega)
    (by rw [peek, ht]; rcases hop with rfl | rfl <;> rfl)
  obtain ⟨f, hfuel⟩ : ∃ f, fuel - 1 - n = f + 1 := ⟨fuel - 2 - n, by omega⟩
  obtain ⟨sr, cr, operand⟩ := hr.chain_product nonempty hf f (by omega)
  refine ⟨n + 1, .binary (columnOf (left ++ t :: (right ++ rest))) joined sl sr, by omega,
    converts_binary.mpr ⟨op, a, b, arithmetic, cl, cr, rfl⟩, ?_⟩
  rw [List.append_assoc, List.cons_append, loop, hfuel, chainRest_step (by rw [ht, found]) operand]
  congr 1
  omega

theorem product {op : BinaryOp} (hop : op = .mul ∨ op = .div) (ht : t.kind = .mark op.mark)
    (hl : Recognised ctx hidden .product left a) (hr : Recognised ctx hidden .negation right b)
    (nonempty : 0 < right.length) :
    Recognised ctx hidden .product (left ++ t :: right) (.binary op a b) := by
  intro fuel rest enough hf
  simp only [List.length_append, List.length_cons] at enough ⊢
  obtain ⟨joined, found, arithmetic⟩ := infixOp_product hop
  obtain ⟨n, sl, hn, cl, loop⟩ := hl fuel (t :: (right ++ rest)) (by omega)
    (by rw [peek, ht]; rcases hop with rfl | rfl <;> rfl)
  obtain ⟨f, hfuel⟩ : ∃ f, fuel - 1 - n = f + 1 := ⟨fuel - 2 - n, by omega⟩
  obtain ⟨sr, cr, operand⟩ := hr.chain_negation nonempty hf f (by omega)
  refine ⟨n + 1, .binary (columnOf (left ++ t :: (right ++ rest))) joined sl sr, by omega,
    converts_binary.mpr ⟨op, a, b, arithmetic, cl, cr, rfl⟩, ?_⟩
  rw [List.append_assoc, List.cons_append, loop, hfuel, chainRest_step (by rw [ht, found]) operand]
  congr 1
  omega

theorem ofProduct (h : Recognised ctx hidden .product body e) (nonempty : 0 < body.length) :
    Recognised ctx hidden .sum body e := by
  intro fuel rest enough hf
  obtain ⟨f, rfl⟩ : ∃ f, fuel = f + 1 := ⟨fuel - 1, by omega⟩
  obtain ⟨s, converted, first⟩ := h.chain_product nonempty hf f (by omega)
  refine ⟨0, s, nonempty, converted, ?_⟩
  rw [chain, if_pos (by decide), first]
  rfl

theorem ofNegation (h : Recognised ctx hidden .negation body e) (nonempty : 0 < body.length) :
    Recognised ctx hidden .product body e := by
  intro fuel rest enough hf
  obtain ⟨f, rfl⟩ : ∃ f, fuel = f + 1 := ⟨fuel - 1, by omega⟩
  obtain ⟨s, converted, first⟩ := h.chain_negation nonempty hf f (by omega)
  refine ⟨0, s, nonempty, converted, ?_⟩
  rw [chain, if_pos (by decide), first]
  rfl

theorem negation (ht : t.kind = .mark .minus) (h : Recognised ctx hidden .negation body e) :
    Recognised ctx hidden .negation (t :: body) (.neg e) := by
  intro fuel rest enough hf
  rw [List.length_cons] at enough
  obtain ⟨f, rfl⟩ : ∃ f, fuel = f + 1 := ⟨fuel - 1, by omega⟩
  obtain ⟨s, converted, operand⟩ := h f rest (by omega) hf
  refine ⟨.unary (columnOf (t :: body ++ rest)) .minus s,
    converts_unary.mpr ⟨rfl, e, converted, rfl⟩, ?_⟩
  have peeked : unaryOp? (peek (t :: body ++ rest)) = some .minus := by
    show unaryOp? t.kind = _
    rw [ht]
    rfl
  rw [factor, peeked]
  show (factor f (body ++ rest) >>= _) = _
  rw [operand]
  rfl

theorem ofApplication (h : Recognised ctx hidden .application body e)
    (hb : ∀ rest, begins .application (peek (body ++ rest))) (nonempty : 0 < body.length) :
    Recognised ctx hidden .negation body e := by
  intro fuel rest enough hf
  obtain ⟨f, rfl⟩ : ∃ f, fuel = f + 2 := ⟨fuel - 2, by omega⟩
  obtain ⟨n, s, hn, converted, loop⟩ := h f rest (by omega)
  obtain ⟨g, hfuel⟩ : ∃ g, f - 1 - n = g + 1 := ⟨f - 2 - n, by omega⟩
  have complete : awaited (f + 1) (body ++ rest) = .ok (s, rest) := by
    rw [awaited, isWord_of_begins (hb rest), loop, hfuel]
    exact trailers_of_follows hf
  refine ⟨s, converted, ?_⟩
  rw [factor, unaryOp_of_begins (hb rest), complete]
  show (if isMark rest .doubleStar then _ else _) = _
  rw [isMark_of_follows hf (by decide)]
  rfl

theorem ofAtom (h : Recognised ctx hidden .atom body e) (nonempty : 0 < body.length) :
    Recognised ctx hidden .application body e := by
  intro fuel rest enough
  obtain ⟨f, rfl⟩ : ∃ f, fuel = f + 1 := ⟨fuel - 1, by omega⟩
  obtain ⟨s, converted, parsed⟩ := h f rest (by omega)
  refine ⟨0, s, nonempty, converted, ?_⟩
  rw [primary, parsed]
  rfl

theorem leaf (h : Accepted ctx (restore hidden t) e) : Recognised ctx hidden .atom [t] e := by
  intro fuel rest enough
  rw [List.length_singleton] at enough
  obtain ⟨f, rfl⟩ : ∃ f, fuel = f + 1 := ⟨fuel - 1, by omega⟩
  cases ht : t.kind with
  | name id =>
    have peeked : peek ([t] ++ rest) = .name id := ht
    refine ⟨_, (converts_name ht).mpr h, ?_⟩
    rw [atom, peeked]
    rfl
  | number kind text =>
    have peeked : peek ([t] ++ rest) = .number kind text := ht
    refine ⟨_, (converts_number ht).mpr h, ?_⟩
    rw [atom, peeked]
    rfl
  | keyword | string | mark | newline | finish | unclosed | fault =>
    rw [restore, ht] at h
    exact h.elim

theorem group {close : Token} (ht : t.kind = .mark .openParen) (hc : close.kind = .mark .closeParen)
    (derived : Derives (Accepted ctx) .sum (body.map (restore hidden)) e)
    (h : Recognised ctx hidden .sum body e) :
    Recognised ctx hidden .atom (t :: (body ++ [close])) e := by
  intro fuel rest enough
  simp only [List.length_cons, List.length_append, List.length_nil] at enough
  obtain ⟨f, rfl⟩ : ∃ f, fuel = f + 2 := ⟨fuel - 2, by omega⟩
  have hf : follows .sum (peek (close :: rest)) := by
    rw [peek, hc]
    rfl
  have first : begins .sum (peek (body ++ close :: rest)) := begins_body derived
  obtain ⟨s, converted, parsed⟩ := namedExpression_complete derived h hf f (by omega)
  have peeked : peek (t :: (body ++ close :: rest)) = .mark .openParen := ht
  refine ⟨s, converted, ?_⟩
  rw [List.cons_append, List.append_assoc, List.singleton_append, atom, peeked]
  show parenthesized (f + 1) (columnOf (t :: (body ++ close :: rest))) (body ++ close :: rest) = _
  rw [parenthesized, isMark_of_begins first (by decide), isWord_of_begins first,
    isMark_of_begins first (by decide), parsed]
  show (if beginsClause (close :: rest) then _ else if isMark (close :: rest) .comma then _
    else expectMark .closeParen (close :: rest) >>= _) = _
  rw [beginsClause, isWord_of_follows hf, isWord_of_follows hf, expectMark,
    if_neg (by simp), if_neg (by simp [isMark, peek, hc]), if_pos (by simp [isMark, peek, hc])]
  rfl

theorem application {close : Token} {inner : Tokens} {args : List (List TokenKind × Expr)}
    (ht : t.kind = .mark .openParen) (hc : close.kind = .mark .closeParen)
    (h : Recognised ctx hidden .application body e)
    (each : ∀ arg ∈ args, Derives (Accepted ctx) .sum arg.1 arg.2 ∧
      ∀ body, body.map (restore hidden) = arg.1 → Recognised ctx hidden .sum body arg.2)
    (layout : Separated (args.map Prod.fst) (inner.map (restore hidden))) :
    Recognised ctx hidden .application (body ++ t :: (inner ++ [close]))
      (.apply e (args.map Prod.snd)) := by
  intro fuel rest enough
  simp only [List.length_append, List.length_cons, List.length_nil] at enough ⊢
  obtain ⟨n, s, hn, converted, loop⟩ := h fuel (t :: (inner ++ close :: rest)) (by omega)
  obtain ⟨f, hfuel⟩ : ∃ f, fuel - 1 - n = f + 1 := ⟨fuel - 2 - n, by omega⟩
  obtain ⟨ss, all, parsed⟩ := arguments_complete each layout hc rest
    (columnOf (t :: (inner ++ close :: rest))) [] f (by omega)
  have peeked : peek (t :: (inner ++ close :: rest)) = .mark .openParen := ht
  refine ⟨n + 1, .call (columnOf (body ++ t :: (inner ++ close :: rest))) s ss [], by omega,
    converts_call.mpr ⟨rfl, e, _, converted, all, rfl⟩, ?_⟩
  simp only [List.append_assoc, List.cons_append, List.nil_append]
  rw [loop, hfuel, trailers, peeked]
  show (arguments f (columnOf (t :: (inner ++ close :: rest))) .positional [] []
    (inner ++ close :: rest) >>= _) = _
  rw [parsed]
  show trailers f _ _ rest = _
  congr 1
  omega

end Recognised

theorem complete {c : Category} {ks : List TokenKind} {e : Expr}
    (h : Derives (Accepted ctx) c ks e) :
    ∀ body, body.map (restore hidden) = ks → Recognised ctx hidden c body e := by
  induction h with
  | sum hop hl hr ihl ihr =>
    intro body split
    obtain ⟨left, t, right, rfl, rfl, ht, rfl⟩ := exists_mark split
    exact .sum hop ht (ihl left rfl) (ihr right rfl) (by simpa using hr.length_pos)
  | product hop hl hr ihl ihr =>
    intro body split
    obtain ⟨left, t, right, rfl, rfl, ht, rfl⟩ := exists_mark split
    exact .product hop ht (ihl left rfl) (ihr right rfl) (by simpa using hr.length_pos)
  | ofProduct h ih =>
    rintro body rfl
    exact (ih body rfl).ofProduct (by simpa using h.length_pos)
  | ofNegation h ih =>
    rintro body rfl
    exact (ih body rfl).ofNegation (by simpa using h.length_pos)
  | negation _ ih =>
    intro body split
    obtain ⟨t, operand, rfl, ht, hoperand⟩ := List.map_eq_cons_iff.mp split
    exact .negation (restore_mark.mp ht) (ih operand hoperand)
  | ofApplication h ih =>
    rintro body rfl
    exact (ih body rfl).ofApplication (fun rest => begins_body h) (by simpa using h.length_pos)
  | @application ks inner f args hf ha layout ihf iha =>
    intro body split
    obtain ⟨callee, t, more, rfl, rfl, ht, hmore⟩ := exists_mark split
    obtain ⟨inside, close, last, rfl, rfl, hc, ends⟩ := exists_mark hmore
    obtain rfl := List.map_eq_nil_iff.mp ends
    exact .application ht hc (ihf callee rfl) (fun arg member => ⟨ha arg member, iha arg member⟩) layout
  | ofAtom h ih =>
    rintro body rfl
    exact (ih body rfl).ofAtom (by simpa using h.length_pos)
  | leaf h =>
    intro body split
    obtain ⟨t, rfl, rfl⟩ := List.map_eq_singleton_iff.mp split
    exact .leaf h
  | group h ih =>
    intro body split
    obtain ⟨t, more, rfl, ht, hmore⟩ := List.map_eq_cons_iff.mp split
    obtain ⟨inside, close, last, rfl, rfl, hc, ends⟩ := exists_mark hmore
    obtain rfl := List.map_eq_nil_iff.mp ends
    exact .group (restore_mark.mp ht) hc h (ih inside rfl)

end Reckoner.Source
