import Mathlib
import Reckoner.Proofs.Source.Agreement

/-! What no sentence goes on with: tokens from outside the language, numbers that are not plain,
and two operands side by side. -/

namespace Reckoner.Source

section Derivations

def operand : TokenKind → Bool
  | .name _ | .number _ _ => true
  | _ => false

/-- Operands do not stand side by side. -/
def Apart (a b : TokenKind) : Prop := operand a = false ∨ operand b = false

theorem apart_cons {ks : List TokenKind} {k : TokenKind} (hk : operand k = false)
    (h : ks.IsChain Apart) : (k :: ks).IsChain Apart :=
  List.isChain_cons.mpr ⟨fun _ _ => .inl hk, h⟩

theorem apart_join {ls rs : List TokenKind} {k : TokenKind} (hk : operand k = false)
    (hl : ls.IsChain Apart) (hr : rs.IsChain Apart) : (ls ++ k :: rs).IsChain Apart := by
  refine List.isChain_append.mpr ⟨hl, apart_cons hk hr, ?_⟩
  rintro _ _ _ ⟨⟩
  exact .inr hk

theorem Separated.apart {parts : List (List TokenKind)} {ks : List TokenKind}
    (h : Separated parts ks) (each : ∀ part ∈ parts, part.IsChain Apart) : ks.IsChain Apart := by
  induction h with
  | none => exact .nil
  | last ks => simpa using each
  | more ks _ ih =>
    simp only [List.forall_mem_cons] at each
    exact apart_join rfl each.1 (ih each.2)

variable {leaf : TokenKind → Expr → Prop} {c : Category} {ks : List TokenKind} {e : Expr}

theorem Derives.apart (h : Derives leaf c ks e) : ks.IsChain Apart := by
  induction h with
  | sum _ _ _ ihl ihr | product _ _ _ ihl ihr => exact apart_join rfl ihl ihr
  | ofProduct _ ih | ofNegation _ ih | ofApplication _ ih | ofAtom _ ih => exact ih
  | negation _ ih => exact apart_cons rfl ih
  | application _ _ layout ihf iha =>
    have inside := layout.apart (by simpa using iha)
    exact apart_join rfl ihf (apart_join rfl inside .nil)
  | leaf => exact .singleton _
  | group _ ih => exact apart_cons rfl (apart_join rfl ih .nil)

theorem Sentence.apart (h : Sentence leaf ks e) : ks.IsChain Apart := by
  obtain ⟨body, ends, rfl, derived⟩ := h
  have tail : ∀ n, (List.replicate n TokenKind.newline ++ [TokenKind.finish]).IsChain Apart := by
    intro n
    induction n with
    | zero => exact .singleton _
    | succ n ih => exact apart_cons rfl ih
  rw [List.append_assoc]
  refine List.isChain_append.mpr ⟨derived.apart, tail ends, fun a _ b hb => .inr ?_⟩
  cases ends <;> cases hb <;> rfl

theorem Denotes.expressible {ctx : Context} {k : TokenKind} (h : Denotes ctx k e) :
    expressible k := by
  cases h with
  | name => rfl
  | integer _ l | decimal _ l => exact l.isPlain_text

theorem Sentence.expressible {ctx : Context} (h : Sentence (Denotes ctx) ks e) :
    ∀ k ∈ ks, expressible k := by
  obtain ⟨body, ends, rfl, derived⟩ := h
  have inside := derived.forall_mem (fun _ _ => Denotes.expressible) (by decide)
  simp only [List.forall_mem_append]
  exact ⟨⟨inside, fun k hk => by rw [List.eq_of_mem_replicate hk]; rfl⟩, by simp [Source.expressible]⟩

end Derivations

section Dead

variable {ctx : Context} {k : TokenKind} {ks ls : List TokenKind}

/-- No sentence ends with these tokens. -/
def Dead (ctx : Context) (ks : List TokenKind) : Prop :=
  ∀ front e, ¬Sentence (Denotes ctx) (front ++ ks) e

theorem Dead.cons (k : TokenKind) (h : Dead ctx ks) : Dead ctx (k :: ks) := by
  intro front e sentence
  refine h (front ++ [k]) e ?_
  rwa [List.append_assoc]

theorem dead_of_not_expressible (h : expressible k = false) (ks : List TokenKind) :
    Dead ctx (k :: ks) := by
  intro front e sentence
  have holds := sentence.expressible k (by simp)
  rw [h] at holds
  cases holds

theorem dead_of_operands {a b : TokenKind} (ha : operand a) (hb : operand b)
    (ks : List TokenKind) : Dead ctx (a :: b :: ks) := by
  intro front e sentence
  have apart := (List.isChain_cons.mp (List.isChain_append.mp sentence.apart).2.1).1 b rfl
  rcases apart with none | none
  · rw [none] at ha
    cases ha
  · rw [none] at hb
    cases hb

/-- The same tokens, or two lists that no sentence ends with. -/
def Alike (ctx : Context) (ks ls : List TokenKind) : Prop := ks = ls ∨ Dead ctx ks ∧ Dead ctx ls

theorem Alike.cons (k : TokenKind) (h : Alike ctx ks ls) : Alike ctx (k :: ks) (k :: ls) := by
  rcases h with rfl | ⟨first, second⟩
  · exact .inl rfl
  · exact .inr ⟨first.cons k, second.cons k⟩

theorem Alike.sentence_iff (h : Alike ctx ks ls) (e : Expr) :
    Sentence (Denotes ctx) ks e ↔ Sentence (Denotes ctx) ls e := by
  rcases h with rfl | ⟨first, second⟩
  · rfl
  · exact ⟨fun h => (first [] e h).elim, fun h => (second [] e h).elim⟩

end Dead

end Reckoner.Source
