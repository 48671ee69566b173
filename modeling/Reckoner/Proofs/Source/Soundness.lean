import Mathlib
import Reckoner.Proofs.Outcome
import Reckoner.Proofs.Source.Derivation

/-! What the descent recognises and converts without an issue is derivable. The grammar has a
rule for each function on the way from expressions to atoms; all other functions lead to parts
with issues. -/

namespace Reckoner.Source

variable {ctx : Context} {hidden : LongIntegers}

/-- The category of the operands that one level of binary operators joins. -/
def levelCategory (level : Nat) : Category :=
  if level ≤ 4 then .sum else if level = 5 then .product else .negation

theorem not_converts_strings {ts : Tokens} {e : Expr} :
    ¬Converts ctx hidden (Grammar.strings ts).1 e := by
  unfold Grammar.strings
  dsimp only
  split
  · exact not_converts_foreign
  · exact not_converts_literal

theorem not_converts_bracketed {fuel open_ : Nat} {ts rest : Tokens} {s : Surface} {e : Expr}
    (h : Grammar.bracketed fuel open_ ts = .ok (s, rest)) : ¬Converts ctx hidden s e := by
  cases fuel with
  | zero => simp [Grammar.bracketed] at h
  | succ fuel =>
    rw [Grammar.bracketed] at h
    split at h
    · obtain ⟨_, -, h⟩ := bind_eq_ok.mp h
      cases h
      exact not_converts_foreign
    · obtain ⟨⟨_, after⟩, -, h⟩ := bind_eq_ok.mp h
      dsimp only at h
      split at h
      · obtain ⟨_, -, h⟩ := bind_eq_ok.mp h
        obtain ⟨_, -, h⟩ := bind_eq_ok.mp h
        cases h
        exact not_converts_foreign
      · obtain ⟨_, -, h⟩ := bind_eq_ok.mp h
        cases h
        exact not_converts_foreign

theorem not_converts_braced {fuel open_ : Nat} {ts rest : Tokens} {s : Surface} {e : Expr}
    (h : Grammar.braced fuel open_ ts = .ok (s, rest)) : ¬Converts ctx hidden s e := by
  cases fuel with
  | zero => simp [Grammar.braced] at h
  | succ fuel =>
    rw [Grammar.braced] at h
    split at h
    · obtain ⟨_, -, h⟩ := bind_eq_ok.mp h
      cases h
      exact not_converts_foreign
    · split at h
      · obtain ⟨_, -, h⟩ := bind_eq_ok.mp h
        cases h
        exact not_converts_foreign
      · obtain ⟨⟨_, after⟩, -, h⟩ := bind_eq_ok.mp h
        dsimp only at h
        split at h
        · obtain ⟨⟨_, later⟩, -, h⟩ := bind_eq_ok.mp h
          dsimp only at h
          split at h
          · obtain ⟨_, -, h⟩ := bind_eq_ok.mp h
            obtain ⟨_, -, h⟩ := bind_eq_ok.mp h
            cases h
            exact not_converts_foreign
          · obtain ⟨_, -, h⟩ := bind_eq_ok.mp h
            cases h
            exact not_converts_foreign
        · split at h
          · obtain ⟨_, -, h⟩ := bind_eq_ok.mp h
            obtain ⟨_, -, h⟩ := bind_eq_ok.mp h
            cases h
            exact not_converts_foreign
          · obtain ⟨_, -, h⟩ := bind_eq_ok.mp h
            cases h
            exact not_converts_foreign

structure Sound (ctx : Context) (hidden : LongIntegers) (fuel : Nat) : Prop where
  expression : ∀ {ts rest s e}, Grammar.expression fuel ts = .ok (s, rest) →
    Converts ctx hidden s e → Spans ctx hidden .sum ts e rest
  namedExpression : ∀ {ts rest s e}, Grammar.namedExpression fuel ts = .ok (s, rest) →
    Converts ctx hidden s e → Spans ctx hidden .sum ts e rest
  disjunction : ∀ {ts rest s e}, Grammar.disjunction fuel ts = .ok (s, rest) →
    Converts ctx hidden s e → Spans ctx hidden .sum ts e rest
  conjunction : ∀ {ts rest s e}, Grammar.conjunction fuel ts = .ok (s, rest) →
    Converts ctx hidden s e → Spans ctx hidden .sum ts e rest
  inversion : ∀ {ts rest s e}, Grammar.inversion fuel ts = .ok (s, rest) →
    Converts ctx hidden s e → Spans ctx hidden .sum ts e rest
  comparison : ∀ {ts rest s e}, Grammar.comparison fuel ts = .ok (s, rest) →
    Converts ctx hidden s e → Spans ctx hidden .sum ts e rest
  chain : ∀ {level ts rest s e}, Grammar.chain fuel level ts = .ok (s, rest) →
    Converts ctx hidden s e → Spans ctx hidden (levelCategory level) ts e rest
  chainRest : ∀ {level start left ts rest s e},
    Grammar.chainRest fuel level start left ts = .ok (s, rest) → Converts ctx hidden s e →
      ∃ a, Converts ctx hidden left a ∧
        ∀ before, Spans ctx hidden (levelCategory level) before a ts →
          Spans ctx hidden (levelCategory level) before e rest
  factor : ∀ {ts rest s e}, Grammar.factor fuel ts = .ok (s, rest) →
    Converts ctx hidden s e → Spans ctx hidden .negation ts e rest
  awaited : ∀ {ts rest s e}, Grammar.awaited fuel ts = .ok (s, rest) →
    Converts ctx hidden s e → Spans ctx hidden .application ts e rest
  primary : ∀ {ts rest s e}, Grammar.primary fuel ts = .ok (s, rest) →
    Converts ctx hidden s e → Spans ctx hidden .application ts e rest
  trailers : ∀ {start base ts rest s e}, Grammar.trailers fuel start base ts = .ok (s, rest) →
    Converts ctx hidden s e → ∃ a, Converts ctx hidden base a ∧
      ∀ before, Spans ctx hidden .application before a ts →
        Spans ctx hidden .application before e rest
  atom : ∀ {ts rest s e}, Grammar.atom fuel ts = .ok (s, rest) →
    Converts ctx hidden s e → Spans ctx hidden .atom ts e rest
  parenthesized : ∀ {open_ ts rest s e},
    Grammar.parenthesized fuel open_ ts = .ok (s, rest) → Converts ctx hidden s e →
      ∃ close, close.kind = .mark .closeParen ∧ Spans ctx hidden .sum ts e (close :: rest)

  arguments : ∀ {open_ stage args keywords ts as columns rest es},
    Grammar.arguments fuel open_ stage args keywords ts = .ok ((as, columns), rest) →
      columns = [] → List.Forall₂ (Converts ctx hidden) as es →
        keywords = [] ∧ ∃ seen more, es = seen.reverse ++ more ∧
          List.Forall₂ (Converts ctx hidden) args seen ∧ SpansArgs ctx hidden ts more rest
  argumentsRest : ∀ {open_ stage args keywords ts as columns rest es},
    Grammar.argumentsRest fuel open_ stage args keywords ts = .ok ((as, columns), rest) →
      columns = [] → List.Forall₂ (Converts ctx hidden) as es →
        keywords = [] ∧ ∃ seen more, es = seen.reverse ++ more ∧
          List.Forall₂ (Converts ctx hidden) args seen ∧
            ∀ before e, Spans ctx hidden .sum before e ts →
              SpansArgs ctx hidden before (e :: more) rest

namespace Sound

theorem zero : Sound ctx hidden 0 := by
  constructor <;> intros <;> exfalso <;>
    simp_all only [Grammar.expression, Grammar.namedExpression, Grammar.disjunction,
      Grammar.conjunction, Grammar.inversion, Grammar.comparison, Grammar.chain, Grammar.chainRest,
      Grammar.factor, Grammar.awaited, Grammar.primary, Grammar.trailers, Grammar.atom,
      Grammar.parenthesized, Grammar.arguments, Grammar.argumentsRest, reduceCtorEq]

variable {fuel : Nat} (ih : Sound ctx hidden fuel)
include ih

theorem expression_succ {ts rest : Tokens} {s : Surface} {e : Expr}
    (h : Grammar.expression (fuel + 1) ts = .ok (s, rest)) (hs : Converts ctx hidden s e) :
    Spans ctx hidden .sum ts e rest := by
  rw [Grammar.expression] at h
  split at h
  · obtain ⟨_, -, h⟩ := bind_eq_ok.mp h
    obtain ⟨_, -, h⟩ := bind_eq_ok.mp h
    cases h
    exact absurd hs not_converts_foreign
  · obtain ⟨⟨value, after⟩, first, h⟩ := bind_eq_ok.mp h
    dsimp only at h
    split at h
    · obtain ⟨_, -, h⟩ := bind_eq_ok.mp h
      obtain ⟨_, -, h⟩ := bind_eq_ok.mp h
      obtain ⟨_, -, h⟩ := bind_eq_ok.mp h
      cases h
      exact absurd hs not_converts_foreign
    · cases h
      exact ih.disjunction first hs

theorem namedExpression_succ {ts rest : Tokens} {s : Surface} {e : Expr}
    (h : Grammar.namedExpression (fuel + 1) ts = .ok (s, rest)) (hs : Converts ctx hidden s e) :
    Spans ctx hidden .sum ts e rest := by
  rw [Grammar.namedExpression] at h
  split at h
  · obtain ⟨_, -, h⟩ := bind_eq_ok.mp h
    cases h
    exact absurd hs not_converts_foreign
  · exact ih.expression h hs

theorem disjunction_succ {ts rest : Tokens} {s : Surface} {e : Expr}
    (h : Grammar.disjunction (fuel + 1) ts = .ok (s, rest)) (hs : Converts ctx hidden s e) :
    Spans ctx hidden .sum ts e rest := by
  rw [Grammar.disjunction] at h
  obtain ⟨⟨value, after⟩, first, h⟩ := bind_eq_ok.mp h
  dsimp only at h
  split at h
  · obtain ⟨_, -, h⟩ := bind_eq_ok.mp h
    cases h
    exact absurd hs not_converts_foreign
  · cases h
    exact ih.conjunction first hs

theorem conjunction_succ {ts rest : Tokens} {s : Surface} {e : Expr}
    (h : Grammar.conjunction (fuel + 1) ts = .ok (s, rest)) (hs : Converts ctx hidden s e) :
    Spans ctx hidden .sum ts e rest := by
  rw [Grammar.conjunction] at h
  obtain ⟨⟨value, after⟩, first, h⟩ := bind_eq_ok.mp h
  dsimp only at h
  split at h
  · obtain ⟨_, -, h⟩ := bind_eq_ok.mp h
    cases h
    exact absurd hs not_converts_foreign
  · cases h
    exact ih.inversion first hs

theorem inversion_succ {ts rest : Tokens} {s : Surface} {e : Expr}
    (h : Grammar.inversion (fuel + 1) ts = .ok (s, rest)) (hs : Converts ctx hidden s e) :
    Spans ctx hidden .sum ts e rest := by
  rw [Grammar.inversion] at h
  split at h
  · obtain ⟨_, -, h⟩ := bind_eq_ok.mp h
    cases h
    exact absurd (converts_unary.mp hs).1 (by decide)
  · exact ih.comparison h hs

theorem comparison_succ {ts rest : Tokens} {s : Surface} {e : Expr}
    (h : Grammar.comparison (fuel + 1) ts = .ok (s, rest)) (hs : Converts ctx hidden s e) :
    Spans ctx hidden .sum ts e rest := by
  rw [Grammar.comparison] at h
  obtain ⟨⟨value, after⟩, first, h⟩ := bind_eq_ok.mp h
  obtain ⟨next, -, h⟩ := bind_eq_ok.mp h
  cases next with
  | some later =>
    obtain ⟨_, -, h⟩ := bind_eq_ok.mp h
    cases h
    exact absurd hs not_converts_foreign
  | none =>
    cases h
    exact ih.chain first hs

omit ih in
theorem raise {level : Nat} {ts rest : Tokens} {e : Expr}
    (h : Spans ctx hidden (levelCategory (level + 1)) ts e rest) :
    Spans ctx hidden (levelCategory level) ts e rest := by
  unfold levelCategory at *
  split_ifs at * with a b c d e f
  all_goals first
    | exact h
    | exact .ofProduct h
    | exact .ofNegation h
    | omega

theorem chain_succ {level : Nat} {ts rest : Tokens} {s : Surface} {e : Expr}
    (h : Grammar.chain (fuel + 1) level ts = .ok (s, rest)) (hs : Converts ctx hidden s e) :
    Spans ctx hidden (levelCategory level) ts e rest := by
  rw [Grammar.chain] at h
  split at h
  · obtain ⟨⟨first, after⟩, operand, h⟩ := bind_eq_ok.mp h
    obtain ⟨a, ha, extend⟩ := ih.chainRest h hs
    exact extend ts (raise (ih.chain operand ha))
  · rename_i last
    have : levelCategory level = .negation := by
      unfold levelCategory Grammar.infixLevels at *
      rw [if_neg (by omega), if_neg (by omega)]
    rw [this]
    exact ih.factor h hs

omit ih in
theorem extend_binary {level : Nat} {arithmetic : BinaryOp} {before mid rest : Tokens} {t : Token}
    {a b : Expr} (ht : t.kind = .mark arithmetic.mark)
    (joins : level = 4 ∧ (arithmetic = .add ∨ arithmetic = .sub) ∨
      level = 5 ∧ (arithmetic = .mul ∨ arithmetic = .div))
    (hl : Spans ctx hidden (levelCategory level) before a (t :: mid))
    (hr : Spans ctx hidden (levelCategory (level + 1)) mid b rest) :
    Spans ctx hidden (levelCategory level) before (.binary arithmetic a b) rest := by
  rcases joins with ⟨rfl, op⟩ | ⟨rfl, op⟩
  · exact .sum op ht hl hr
  · exact .product op ht hl hr

theorem chainRest_succ {level start : Nat} {left : Surface} {ts rest : Tokens} {s : Surface}
    {e : Expr} (h : Grammar.chainRest (fuel + 1) level start left ts = .ok (s, rest))
    (hs : Converts ctx hidden s e) :
    ∃ a, Converts ctx hidden left a ∧
      ∀ before, Spans ctx hidden (levelCategory level) before a ts →
        Spans ctx hidden (levelCategory level) before e rest := by
  rw [Grammar.chainRest] at h
  split at h
  · rename_i op found
    obtain ⟨⟨right, after⟩, operand, h⟩ := bind_eq_ok.mp h
    obtain ⟨c, joined, extend⟩ := ih.chainRest h hs
    obtain ⟨arithmetic, a, b, same, ha, hb, rfl⟩ := converts_binary.mp joined
    obtain ⟨marked, joins⟩ := infixOp_arithmetic found same
    obtain ⟨t, split, ht⟩ := cons_of_peek marked (by simp)
    refine ⟨a, ha, fun before hl => extend before ?_⟩
    rw [split] at hl
    exact extend_binary ht joins hl (ih.chain operand hb)
  · cases h
    exact ⟨e, hs, fun _ h => h⟩

theorem factor_succ {ts rest : Tokens} {s : Surface} {e : Expr}
    (h : Grammar.factor (fuel + 1) ts = .ok (s, rest)) (hs : Converts ctx hidden s e) :
    Spans ctx hidden .negation ts e rest := by
  rw [Grammar.factor] at h
  split at h
  · rename_i op found
    obtain ⟨⟨operand, after⟩, inner, h⟩ := bind_eq_ok.mp h
    cases h
    obtain ⟨rfl, a, ha, rfl⟩ := converts_unary.mp hs
    have marked : Grammar.peek ts = .mark .minus := by
      unfold Grammar.unaryOp? at found
      split at found <;> cases found
      assumption
    obtain ⟨t, split, ht⟩ := cons_of_peek marked (by simp)
    rw [split]
    exact .negation ht (ih.factor inner ha)
  · obtain ⟨⟨base, after⟩, inner, h⟩ := bind_eq_ok.mp h
    dsimp only at h
    split at h
    · obtain ⟨_, -, h⟩ := bind_eq_ok.mp h
      cases h
      obtain ⟨_, _, _, power, -⟩ := converts_binary.mp hs
      cases power
    · cases h
      exact .ofApplication (ih.awaited inner hs)

theorem awaited_succ {ts rest : Tokens} {s : Surface} {e : Expr}
    (h : Grammar.awaited (fuel + 1) ts = .ok (s, rest)) (hs : Converts ctx hidden s e) :
    Spans ctx hidden .application ts e rest := by
  rw [Grammar.awaited] at h
  split at h
  · obtain ⟨_, -, h⟩ := bind_eq_ok.mp h
    cases h
    exact absurd hs not_converts_foreign
  · exact ih.primary h hs

theorem primary_succ {ts rest : Tokens} {s : Surface} {e : Expr}
    (h : Grammar.primary (fuel + 1) ts = .ok (s, rest)) (hs : Converts ctx hidden s e) :
    Spans ctx hidden .application ts e rest := by
  rw [Grammar.primary] at h
  obtain ⟨⟨base, after⟩, first, h⟩ := bind_eq_ok.mp h
  obtain ⟨a, ha, extend⟩ := ih.trailers h hs
  exact extend ts (.ofAtom (ih.atom first ha))

theorem trailers_succ {start : Nat} {base : Surface} {ts rest : Tokens} {s : Surface} {e : Expr}
    (h : Grammar.trailers (fuel + 1) start base ts = .ok (s, rest))
    (hs : Converts ctx hidden s e) :
    ∃ a, Converts ctx hidden base a ∧
      ∀ before, Spans ctx hidden .application before a ts →
        Spans ctx hidden .application before e rest := by
  rw [Grammar.trailers] at h
  split at h
  · split at h
    · obtain ⟨_, member, -⟩ := ih.trailers h hs
      exact absurd member not_converts_foreign
    · cases h
  · rename_i marked
    obtain ⟨⟨⟨args, columns⟩, after⟩, inside, h⟩ := bind_eq_ok.mp h
    obtain ⟨c, call, extend⟩ := ih.trailers h hs
    obtain ⟨none, f, es, hf, hes, rfl⟩ := converts_call.mp call
    obtain ⟨-, seen, more, rfl, nothing, spans⟩ := ih.arguments inside none hes
    cases nothing
    obtain ⟨t, split, ht⟩ := cons_of_peek marked (by simp)
    refine ⟨f, hf, fun before hb => extend before ?_⟩
    rw [split] at hb
    exact .application ht hb spans
  · obtain ⟨_, -, h⟩ := bind_eq_ok.mp h
    obtain ⟨_, subscript, -⟩ := ih.trailers h hs
    exact absurd subscript not_converts_foreign
  · cases h
    exact ⟨e, hs, fun _ h => h⟩

theorem atom_succ {ts rest : Tokens} {s : Surface} {e : Expr}
    (h : Grammar.atom (fuel + 1) ts = .ok (s, rest)) (hs : Converts ctx hidden s e) :
    Spans ctx hidden .atom ts e rest := by
  rw [Grammar.atom] at h
  split at h
  · rename_i id marked
    obtain ⟨t, split, ht⟩ := cons_of_peek marked (by simp)
    cases h
    rw [split] at hs ⊢
    exact .leaf ((converts_name ht).mp hs)
  · rename_i kind text marked
    obtain ⟨t, split, ht⟩ := cons_of_peek marked (by simp)
    cases h
    rw [split] at hs ⊢
    exact .leaf ((converts_number ht).mp hs)
  -- the words and the ellipsis that are constants without a number
  iterate 4
    · cases h
      exact absurd hs not_converts_literal
  · cases h
    exact absurd hs not_converts_strings
  · rename_i marked
    obtain ⟨t, split, ht⟩ := cons_of_peek marked (by simp)
    obtain ⟨close, hc, inner⟩ := ih.parenthesized h hs
    rw [split]
    exact .group ht hc inner
  · exact absurd hs (not_converts_bracketed h)
  · exact absurd hs (not_converts_braced h)
  · cases h

theorem parenthesized_succ {open_ : Nat} {ts rest : Tokens} {s : Surface} {e : Expr}
    (h : Grammar.parenthesized (fuel + 1) open_ ts = .ok (s, rest))
    (hs : Converts ctx hidden s e) :
    ∃ close, close.kind = .mark .closeParen ∧ Spans ctx hidden .sum ts e (close :: rest) := by
  rw [Grammar.parenthesized] at h
  split at h
  · cases h
    exact absurd hs not_converts_foreign
  split at h
  · obtain ⟨⟨_, _⟩, -, h⟩ := bind_eq_ok.mp h
    obtain ⟨_, -, h⟩ := bind_eq_ok.mp h
    cases h
    exact absurd hs not_converts_foreign
  split at h
  · obtain ⟨_, -, h⟩ := bind_eq_ok.mp h
    obtain ⟨_, -, h⟩ := bind_eq_ok.mp h
    obtain ⟨_, -, h⟩ := bind_eq_ok.mp h
    cases h
    exact absurd hs not_converts_foreign
  obtain ⟨⟨value, after⟩, inner, h⟩ := bind_eq_ok.mp h
  dsimp only at h
  split at h
  · obtain ⟨_, -, h⟩ := bind_eq_ok.mp h
    obtain ⟨_, -, h⟩ := bind_eq_ok.mp h
    cases h
    exact absurd hs not_converts_foreign
  split at h
  · obtain ⟨_, -, h⟩ := bind_eq_ok.mp h
    cases h
    exact absurd hs not_converts_foreign
  obtain ⟨_, closed, h⟩ := bind_eq_ok.mp h
  cases h
  obtain ⟨close, rfl, hc⟩ := cons_of_expectMark closed
  exact ⟨close, hc, ih.namedExpression inner hs⟩

theorem arguments_succ {open_ : Nat} {stage : Grammar.ArgumentStage} {args : List Surface}
    {keywords : List Nat} {ts : Tokens} {as : List Surface} {columns : List Nat} {rest : Tokens}
    {es : List Expr}
    (h : Grammar.arguments (fuel + 1) open_ stage args keywords ts = .ok ((as, columns), rest))
    (none : columns = []) (hs : List.Forall₂ (Converts ctx hidden) as es) :
    keywords = [] ∧ ∃ seen more, es = seen.reverse ++ more ∧
      List.Forall₂ (Converts ctx hidden) args seen ∧ SpansArgs ctx hidden ts more rest := by
  rw [Grammar.arguments] at h
  split at h
  · rename_i marked
    obtain ⟨t, split, ht⟩ := cons_of_isMark marked
    cases h
    refine ⟨List.reverse_eq_nil_iff.mp none, es.reverse, [], by simp, ?_, ?_⟩
    · simpa using List.rel_reverse hs
    · rw [split]
      exact .none ht
  split at h
  · split at h
    · cases h
    · obtain ⟨⟨_, after⟩, -, h⟩ := bind_eq_ok.mp h
      obtain ⟨-, _, _, -, starred, -⟩ := ih.argumentsRest h none hs
      cases starred with
      | cons first _ => exact absurd first not_converts_starred
  split at h
  · obtain ⟨⟨_, after⟩, -, h⟩ := bind_eq_ok.mp h
    exact absurd (ih.argumentsRest h none hs).1 (List.cons_ne_nil _ _)
  split at h
  · obtain ⟨⟨_, after⟩, -, h⟩ := bind_eq_ok.mp h
    exact absurd (ih.argumentsRest h none hs).1 (List.cons_ne_nil _ _)
  split at h
  · cases h
  obtain ⟨⟨value, after⟩, first, h⟩ := bind_eq_ok.mp h
  dsimp only at h
  split at h
  · obtain ⟨_, -, h⟩ := bind_eq_ok.mp h
    obtain ⟨_, -, h⟩ := bind_eq_ok.mp h
    cases h
    cases hs with
    | cons generator _ => exact absurd generator not_converts_foreign
  · obtain ⟨nothing, seen, more, rfl, done, spans⟩ := ih.argumentsRest h none hs
    cases done with
    | @cons _ v _ seen converted done =>
      refine ⟨nothing, seen, v :: more, by simp, done, spans ts v ?_⟩
      exact ih.namedExpression first converted

theorem argumentsRest_succ {open_ : Nat} {stage : Grammar.ArgumentStage} {args : List Surface}
    {keywords : List Nat} {ts : Tokens} {as : List Surface} {columns : List Nat} {rest : Tokens}
    {es : List Expr}
    (h : Grammar.argumentsRest (fuel + 1) open_ stage args keywords ts = .ok ((as, columns), rest))
    (none : columns = []) (hs : List.Forall₂ (Converts ctx hidden) as es) :
    keywords = [] ∧ ∃ seen more, es = seen.reverse ++ more ∧
      List.Forall₂ (Converts ctx hidden) args seen ∧
        ∀ before e, Spans ctx hidden .sum before e ts →
          SpansArgs ctx hidden before (e :: more) rest := by
  rw [Grammar.argumentsRest] at h
  split at h
  · rename_i marked
    obtain ⟨t, split, ht⟩ := cons_of_isMark marked
    obtain ⟨nothing, seen, more, rfl, done, spans⟩ := ih.arguments h none hs
    refine ⟨nothing, seen, more, rfl, done, fun before e first => ?_⟩
    rw [split] at first
    exact .more ht first spans
  split at h
  · rename_i marked
    obtain ⟨t, split, ht⟩ := cons_of_isMark marked
    cases h
    refine ⟨List.reverse_eq_nil_iff.mp none, es.reverse, [], by simp, ?_, fun before e first => ?_⟩
    · simpa using List.rel_reverse hs
    · rw [split] at first
      exact .last ht first
  · cases h

end Sound

theorem sound (fuel : Nat) : Sound ctx hidden fuel := by
  induction fuel with
  | zero => exact .zero
  | succ fuel ih =>
    exact ⟨ih.expression_succ, ih.namedExpression_succ, ih.disjunction_succ, ih.conjunction_succ,
      ih.inversion_succ, ih.comparison_succ, ih.chain_succ, ih.chainRest_succ, ih.factor_succ,
      ih.awaited_succ, ih.primary_succ, ih.trailers_succ, ih.atom_succ, ih.parenthesized_succ,
      ih.arguments_succ, ih.argumentsRest_succ⟩

end Reckoner.Source
