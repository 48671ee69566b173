import Mathlib
import Reckoner.Source.Reading
import Reckoner.Proofs.Expr.Every
import Reckoner.Proofs.Value.Fitting

/-! Conversion of surface trees. Decimal literals are rounded on the way, so a tree that is read
holds decimals of its context only. -/

namespace Reckoner.Source

namespace Surface

@[elab_as_elim, induction_eliminator]
theorem inductionOn {motive : Surface → Prop}
    (number : ∀ column kind text, motive (number column kind text))
    (literal : ∀ column, motive (literal column)) (name : ∀ column id, motive (name column id))
    (unary : ∀ column op operand, motive operand → motive (unary column op operand))
    (binary : ∀ column op left right, motive left → motive right →
      motive (binary column op left right))
    (call : ∀ column callee args keywordColumns, motive callee → (∀ arg ∈ args, motive arg) →
      motive (call column callee args keywordColumns))
    (starred : ∀ column, motive (starred column))
    (foreign : ∀ column construct, motive (foreign column construct)) (s : Surface) : motive s :=
  @Surface.rec motive (fun args => ∀ arg ∈ args, motive arg) number literal name unary binary
    (fun column callee args columns hc ha => call column callee args columns hc ha) starred foreign
    (fun _ none => absurd none List.not_mem_nil)
    (fun _ _ first rest _ h => (List.mem_cons.mp h).elim (fun same => same ▸ first) (rest _)) s

end Surface

theorem convertAll_fst (ctx : Context) (hidden : LongIntegers) (args : List Surface) :
    (convertAll ctx hidden args).1 = args.map fun arg => (convert ctx hidden arg).1 := by
  induction args with
  | nil => simp [convertAll]
  | cons first rest ih => simp [convertAll, ih]

/-- A surface tree without issues, and its expression. -/
def Converts (ctx : Context) (hidden : LongIntegers) (s : Surface) (e : Expr) : Prop :=
  convert ctx hidden s = (e, [])

section Converts

variable {ctx : Context} {hidden : LongIntegers} {e : Expr}

theorem not_converts_literal {column : Nat} : ¬Converts ctx hidden (.literal column) e := by
  simp [Converts, convert, refuse]

theorem not_converts_starred {column : Nat} : ¬Converts ctx hidden (.starred column) e := by
  simp [Converts, convert, refuse]

theorem not_converts_foreign {column : Nat} {construct : Construct} :
    ¬Converts ctx hidden (.foreign column construct) e := by
  simp [Converts, convert, refuse]

theorem converts_unary {column : Nat} {op : UnaryOp} {s : Surface} :
    Converts ctx hidden (.unary column op s) e ↔
      op = .minus ∧ ∃ a, Converts ctx hidden s a ∧ e = .neg a := by
  simp only [Converts]
  rw [convert]
  generalize convert ctx hidden s = result
  obtain ⟨a, issues⟩ := result
  cases op with
  | minus =>
    constructor
    · intro h
      cases h
      exact ⟨rfl, a, rfl, rfl⟩
    · rintro ⟨-, _, same, rfl⟩
      cases same
      rfl
  | plus | invert | logicalNot => simp

theorem converts_binary {column : Nat} {op : InfixOp} {l r : Surface} :
    Converts ctx hidden (.binary column op l r) e ↔
      ∃ arithmetic a b, op.arithmetic? = some arithmetic ∧ Converts ctx hidden l a ∧
        Converts ctx hidden r b ∧ e = .binary arithmetic a b := by
  simp only [Converts]
  rw [convert]
  generalize convert ctx hidden l = left
  generalize convert ctx hidden r = right
  obtain ⟨a, issues⟩ := left
  obtain ⟨b, more⟩ := right
  cases op.arithmetic? with
  | none => simp
  | some arithmetic =>
    simp only [Prod.mk.injEq, List.append_eq_nil_iff, Option.some.injEq]
    constructor
    · rintro ⟨rfl, rfl, rfl⟩
      exact ⟨arithmetic, a, b, rfl, ⟨rfl, rfl⟩, ⟨rfl, rfl⟩, rfl⟩
    · rintro ⟨_, _, _, rfl, ⟨rfl, rfl⟩, ⟨rfl, rfl⟩, rfl⟩
      exact ⟨rfl, rfl, rfl⟩

theorem convertAll_eq {args : List Surface} {es : List Expr} :
    convertAll ctx hidden args = (es, []) ↔ List.Forall₂ (Converts ctx hidden) args es := by
  induction args generalizing es with
  | nil => simp [convertAll, eq_comm]
  | cons first rest ih =>
    rw [convertAll]
    cases es with
    | nil => simp
    | cons e es =>
      rw [List.forall₂_cons, ← ih, Converts]
      generalize convert ctx hidden first = value
      generalize convertAll ctx hidden rest = values
      obtain ⟨a, issues⟩ := value
      obtain ⟨as, more⟩ := values
      simp only [Prod.mk.injEq, List.cons.injEq, List.append_eq_nil_iff]
      tauto

theorem converts_call {column : Nat} {callee : Surface} {args : List Surface}
    {keywordColumns : List Nat} :
    Converts ctx hidden (.call column callee args keywordColumns) e ↔
      keywordColumns = [] ∧ ∃ f es, Converts ctx hidden callee f ∧
        List.Forall₂ (Converts ctx hidden) args es ∧ e = .apply f es := by
  simp only [← convertAll_eq]
  simp only [Converts]
  rw [convert]
  generalize convertAll ctx hidden args = values
  generalize convert ctx hidden callee = function
  obtain ⟨es, more⟩ := values
  obtain ⟨f, issues⟩ := function
  simp only [Prod.mk.injEq, List.append_eq_nil_iff, List.map_eq_nil_iff]
  constructor
  · rintro ⟨rfl, ⟨rfl, rfl⟩, rfl⟩
    exact ⟨rfl, f, es, ⟨rfl, rfl⟩, ⟨rfl, rfl⟩, rfl⟩
  · rintro ⟨rfl, _, _, ⟨rfl, rfl⟩, ⟨rfl, rfl⟩, rfl⟩
    exact ⟨rfl, ⟨rfl, rfl⟩, rfl⟩

end Converts

/-- A source is read as what its line converts to without an issue. -/
theorem read_eq_ok {ctx : Context} {source : String} {tree : Expr} :
    read ctx source = .ok tree ↔
      Text.trimBy Text.isBlank source.toList ≠ [] ∧
        ∃ s, readLine (hideLongIntegers (Text.trimBy Text.isBlank source.toList)).1 = .ok s ∧
          convert ctx (hideLongIntegers (Text.trimBy Text.isBlank source.toList)).2 s =
            (tree, []) := by
  unfold read
  generalize Text.trimBy Text.isBlank source.toList = text
  by_cases empty : text = []
  · simp [empty]
  cases line : readLine (hideLongIntegers text).1 with
  | error misfit => simp [empty, line]
  | ok surface =>
    generalize converted : convert ctx (hideLongIntegers text).2 surface = result
    obtain ⟨value, issues⟩ := result
    cases issues <;> simp [empty, line, converted]

theorem read_eq_error {ctx : Context} {source : String} {issues : Issues}
    (h : read ctx source = .error issues) : issues ≠ [] := by
  unfold read at h
  generalize Text.trimBy Text.isBlank source.toList = text at h
  by_cases empty : text = []
  · rintro rfl
    simp [empty] at h
  cases line : readLine (hideLongIntegers text).1 with
  | error misfit =>
    rintro rfl
    simp [empty, line] at h
  | ok surface =>
    generalize converted : convert ctx (hideLongIntegers text).2 surface = result at h
    obtain ⟨value, found⟩ := result
    rintro rfl
    cases found with
    | nil => simp [empty, line, converted] at h
    | cons issue more =>
      have sorted : sortIssues (issue :: more) = [] := by simpa [empty, line, converted] using h
      have := congrArg List.length sorted
      simp [sortIssues] at this

section Fits

variable {ctx : Context} (spans : ctx.Spans)
include spans

theorem convertNumber_fits (column : Nat) (kind : NumberKind) (text : List Char) :
    (convertNumber ctx column kind text).1.Every (Value.Fits ctx) := by
  unfold convertNumber
  dsimp only
  split
  · exact .symbol
  · split
    · exact .constant (Value.fits_exact _)
    · exact .symbol
  · split
    · exact .symbol
    · split
      · exact .symbol
      · split
        next rounded => exact .constant (Context.roundIn_fits spans rounded)
        next => exact .symbol

/-- Every part of a surface tree converts to a tree within the range, issues or not. -/
theorem convert_fits (hidden : LongIntegers) (s : Surface) :
    (convert ctx hidden s).1.Every (Value.Fits ctx) := by
  induction s with
  | number column kind text => exact convertNumber_fits spans column kind text
  | literal | starred | foreign => exact .symbol
  | name column id =>
    unfold convert convertName
    split
    · exact .symbol
    · split
      · exact .constant (Value.fits_exact _)
      · exact .symbol
  | unary column op operand ih =>
    unfold convert
    cases op with
    | minus => exact .neg ih
    | plus | invert | logicalNot => exact .symbol
  | binary column op left right ihl ihr =>
    unfold convert
    dsimp only
    split
    · exact .binary ihl ihr
    · exact .symbol
  | call column callee args keywordColumns ihc iha =>
    unfold convert
    refine .apply ihc ?_
    rw [convertAll_fst]
    intro arg h
    obtain ⟨s, hs, rfl⟩ := List.mem_map.mp h
    exact iha s hs

/-- Every tree that is read is within the range. -/
theorem read_fits {source : String} {tree : Expr} (h : read ctx source = .ok tree) :
    tree.Every (Value.Fits ctx) := by
  obtain ⟨-, s, -, converted⟩ := read_eq_ok.mp h
  have fits := convert_fits spans (hideLongIntegers (Text.trimBy Text.isBlank source.toList)).2 s
  rwa [converted] at fits

end Fits

end Reckoner.Source
