import Mathlib
import Reckoner.Proofs.Source.Acceptance
import Reckoner.Proofs.Source.DecimalLiteral

/-! The issues of a line. They are those of the offending parts among all parts that conversion
comes to: one for each of them, sorted by their columns, and in the order of conversion where the
columns are equal. A part is told from equal ones by its path from the whole line. -/

namespace Reckoner.Source

section Ties

variable {α : Type} {le : α → α → Bool} (trans : ∀ a b c, le a b → le b c → le a c)
  (total : ∀ a b, le a b || le b a)
include trans total

theorem filter_mergeSort_ties (l : List α) (a : α) :
    (l.mergeSort le).filter (fun x => le a x && le x a) =
      l.filter (fun x => le a x && le x a) := by
  have tied : (l.filter fun x => le a x && le x a).Pairwise fun x y => le x y := by
    refine List.pairwise_of_forall_mem_list fun x hx y hy => ?_
    have hx := Bool.and_eq_true_iff.mp (List.mem_filter.mp hx).2
    have hy := Bool.and_eq_true_iff.mp (List.mem_filter.mp hy).2
    exact trans x a y hx.2 hy.1
  have kept := (List.sublist_mergeSort trans total tied List.filter_sublist).filter
    fun x => le a x && le x a
  rw [List.filter_filter] at kept
  simp only [Bool.and_self] at kept
  refine (kept.eq_of_length ?_).symm
  exact ((List.mergeSort_perm l le).filter _).length_eq.symm

/-- A sort that keeps ties in their order. -/
theorem pairwise_mergeSort_ties {R : α → α → Prop} {l : List α} (order : l.Pairwise R) :
    (l.mergeSort le).Pairwise fun a b => le a b ∧ (le b a → R a b) := by
  rw [List.pairwise_iff_forall_sublist]
  intro a b pair
  have before : le a b :=
    List.pairwise_iff_forall_sublist.mp (List.pairwise_mergeSort trans total l) pair
  refine ⟨before, fun tie => ?_⟩
  have self : le a a := by simpa using total a a
  have filtered := pair.filter fun x => le a x && le x a
  rw [filter_mergeSort_ties trans total] at filtered
  simp only [List.filter_cons, List.filter_nil, self, before, tie, Bool.and_self, if_true]
    at filtered
  exact List.pairwise_iff_forall_sublist.mp order (filtered.trans List.filter_sublist)

end Ties

/-- A part that conversion comes to: a node of the surface tree, or a keyword argument, of which
there is only the column of its value. -/
inductive Part where
  | node (surface : Surface)
  | keyword (column : Nat)

namespace Part

def column : Part → Nat
  | node surface => surface.column
  | keyword column => column

/-- The parts directly within a part, in the order of conversion. -/
def children : Part → List Part
  | node (.unary _ _ operand) => [node operand]
  | node (.binary _ _ left right) => [node left, node right]
  | node (.call _ callee args keywordColumns) =>
    node callee :: (args.map node ++ keywordColumns.map keyword)
  | _ => []

/-- The part that a path leads to; every step of it counts among the children. -/
def at? : Part → List Nat → Option Part
  | part, [] => some part
  | part, i :: path => part.children[i]?.bind fun child => child.at? path

@[elab_as_elim]
theorem induction {motive : Part → Prop}
    (step : ∀ part, (∀ child ∈ part.children, motive child) → motive part) (part : Part) :
    motive part := by
  cases part with
  | keyword column => exact step _ (by simp [children])
  | node surface =>
    induction surface with
    | number | literal | name | starred | foreign => exact step _ (by simp [children])
    | unary _ _ _ operand => exact step _ (by simpa [children])
    | binary _ _ _ _ left right => exact step _ (by simpa [children] using ⟨left, right⟩)
    | call column callee args keywordColumns function values =>
      refine step _ fun child member => ?_
      simp only [children, List.mem_cons, List.mem_append, List.mem_map] at member
      rcases member with rfl | ⟨arg, inside, rfl⟩ | ⟨column, -, rfl⟩
      · exact function
      · exact values arg inside
      · exact step _ (by simp [children])

end Part

/-- The order of conversion: what is within a part comes before the part, and its children come
one after another. -/
inductive Precedes : List Nat → List Nat → Prop where
  | inside (i : Nat) (path : List Nat) : Precedes (i :: path) []
  | earlier {i j : Nat} (path other : List Nat) (h : i < j) : Precedes (i :: path) (j :: other)
  | within (i : Nat) {path other : List Nat} (h : Precedes path other) :
    Precedes (i :: path) (i :: other)

theorem not_precedes_self (path : List Nat) : ¬Precedes path path := by
  induction path with
  | nil => nofun
  | cons i path ih =>
    intro h
    cases h with
    | earlier _ _ h => exact lt_irrefl i h
    | within _ h => exact ih h

/-- The parts that do not belong to the expression language, and why. -/
inductive Offends (ctx : Context) : Part → IssueCause → Prop where
  | literal (column : Nat) : Offends ctx (.node (.literal column)) .notNumeric
  | imaginary (column : Nat) (text : List Char) :
    Offends ctx (.node (.number column .imaginary text)) .notNumeric
  | number (column : Nat) {kind : NumberKind} {text : List Char} (numeric : kind ≠ .imaginary)
    (foreign : ∀ l : Literal, l.text ≠ text) :
    Offends ctx (.node (.number column kind text)) (.badNumber (String.ofList text))
  | large (column : Nat) (l : Literal) (large : l.TooLarge ctx) :
    Offends ctx (.node (.number column .real l.text)) (.tooLarge (String.ofList l.text))
  | unary (column : Nat) (operand : Surface) {op : UnaryOp} (foreign : op ≠ .minus) :
    Offends ctx (.node (.unary column op operand)) (.operator op.symbol)
  | binary (column : Nat) (left right : Surface) {op : InfixOp}
    (foreign : op ∉ [.add, .sub, .mul, .div]) :
    Offends ctx (.node (.binary column op left right)) (.operator op.symbol)
  | starred (column : Nat) : Offends ctx (.node (.starred column)) .starredArgument
  | keyword (column : Nat) : Offends ctx (.keyword column) .keywordArgument
  | foreign (column : Nat) (construct : Construct) :
    Offends ctx (.node (.foreign column construct)) (.foreign construct)

/-- An offending part at a path, and its issue. -/
def Part.IssueAt (ctx : Context) (whole : Part) (path : List Nat) (issue : Issue) : Prop :=
  ∃ part, whole.at? path = some part ∧ Offends ctx part issue.cause ∧ issue.column = part.column

/-- What is wrong with a part itself, if anything is. -/
def Part.Owns (ctx : Context) (part : Part) (own : Option IssueCause) : Prop :=
  ∀ cause, own = some cause ↔ Offends ctx part cause

section Owns

variable {ctx : Context} {part : Part}

theorem Part.owns_none (faultless : ∀ cause, ¬Offends ctx part cause) : part.Owns ctx none :=
  fun cause => ⟨nofun, fun offends => absurd offends (faultless cause)⟩

theorem Part.owns_some {cause : IssueCause} (offends : Offends ctx part cause)
    (only : ∀ other, Offends ctx part other → other = cause) : part.Owns ctx (some cause) := by
  intro other
  constructor
  · rintro ⟨⟩
    exact offends
  · intro h
    rw [only other h]

theorem isPlain_iff {text : List Char} :
    Numeral.isPlain text = true ↔ ∃ l : Literal, l.text = text := by
  refine ⟨exists_literal, ?_⟩
  rintro ⟨l, rfl⟩
  exact l.isPlain_text

theorem Literal.tooLarge_congr {l m : Literal} (same : l.text = m.text) :
    l.TooLarge ctx ↔ m.TooLarge ctx := by
  have read := l.read_text
  have decimal := l.toDecimal_text read
  rw [same] at read
  rw [m.toDecimal_text read] at decimal
  rw [TooLarge, TooLarge, ← l.toRat_decimal, ← m.toRat_decimal, decimal]

variable {column : Nat} {kind : NumberKind} {text : List Char} {cause : IssueCause}

theorem offends_literal {l : Literal} :
    Offends ctx (.node (.number column kind l.text)) cause ↔
      kind = .imaginary ∧ cause = .notNumeric ∨
        kind = .real ∧ l.TooLarge ctx ∧ cause = .tooLarge (String.ofList l.text) := by
  constructor
  · intro h
    generalize same : l.text = text at h
    cases h with
    | imaginary => exact .inl ⟨rfl, rfl⟩
    | number _ _ foreign => exact absurd same (foreign l)
    | large _ m large => exact .inr ⟨rfl, (l.tooLarge_congr same).mpr large, rfl⟩
  · rintro (⟨rfl, rfl⟩ | ⟨rfl, large, rfl⟩)
    · exact .imaginary column _
    · exact .large column l large

theorem offends_unplain (foreign : ∀ l : Literal, l.text ≠ text) :
    Offends ctx (.node (.number column kind text)) cause ↔
      kind = .imaginary ∧ cause = .notNumeric ∨
        kind ≠ .imaginary ∧ cause = .badNumber (String.ofList text) := by
  constructor
  · intro h
    cases h with
    | imaginary => exact .inl ⟨rfl, rfl⟩
    | number _ numeric => exact .inr ⟨numeric, rfl⟩
    | large _ l => exact absurd rfl (foreign l)
  · rintro (⟨rfl, rfl⟩ | ⟨numeric, rfl⟩)
    · exact .imaginary column _
    · exact .number column numeric foreign

theorem exists_owns_literal (ctx : Context) (column : Nat) (kind : NumberKind) (l : Literal) :
    ∃ own, (convertNumber ctx column kind l.text).2 = own.toList.map (⟨column, ·⟩) ∧
      (Part.node (.number column kind l.text)).Owns ctx own := by
  cases kind with
  | imaginary =>
    refine ⟨some .notNumeric, rfl, fun cause => ?_⟩
    simp [offends_literal, eq_comm]
  | integer =>
    refine ⟨none, by simp [convertNumber, l.isPlain_text], fun cause => ?_⟩
    simp [offends_literal]
  | real =>
    by_cases large : l.TooLarge ctx
    · obtain ⟨signal, overflow⟩ := l.roundIn_error_iff.mpr large
      rw [Literal.convertNumber_of_overflow overflow]
      refine ⟨some (.tooLarge (String.ofList l.text)), rfl, fun cause => ?_⟩
      simp [offends_literal, large, eq_comm]
    · obtain ⟨d, rounded, -⟩ := l.exists_roundIn large
      rw [Literal.convertNumber_of_rounded rounded]
      refine ⟨none, rfl, fun cause => ?_⟩
      simp [offends_literal, large]

/-- The issue of a number token is what is wrong with it. -/
theorem exists_owns_number (ctx : Context) (column : Nat) (kind : NumberKind) (text : List Char) :
    ∃ own, (convertNumber ctx column kind text).2 = own.toList.map (⟨column, ·⟩) ∧
      (Part.node (.number column kind text)).Owns ctx own := by
  by_cases plain : ∃ l : Literal, l.text = text
  · obtain ⟨l, rfl⟩ := plain
    exact exists_owns_literal ctx column kind l
  · have unplain : Numeral.isPlain text = false := by
      rw [← Bool.not_eq_true, isPlain_iff]
      exact plain
    push Not at plain
    cases kind with
    | imaginary =>
      refine ⟨some .notNumeric, rfl, fun cause => ?_⟩
      simp [offends_unplain plain, eq_comm]
    | integer | real =>
      refine ⟨some (.badNumber (String.ofList text)), ?_, fun cause => ?_⟩
      · simp [convertNumber, refuse, unplain]
      · simp [offends_unplain plain, eq_comm]

end Owns

theorem arithmetic_eq_none_iff {op : InfixOp} :
    op.arithmetic? = none ↔ op ∉ [InfixOp.add, .sub, .mul, .div] := by
  cases op <;> simp [InfixOp.arithmetic?]

theorem convertAll_snd (ctx : Context) (hidden : LongIntegers) (args : List Surface) :
    (convertAll ctx hidden args).2 = args.flatMap fun arg => (convert ctx hidden arg).2 := by
  induction args with
  | nil => simp [convertAll]
  | cons first rest ih => simp [convertAll, ih]

namespace Part

variable {ctx : Context}

/-- The issues that conversion meets within a part, when no integer is hidden. -/
def issues (ctx : Context) : Part → Issues
  | node surface => (convert ctx [] surface).2
  | keyword column => [⟨column, .keywordArgument⟩]

/-- A part has the issues of its children in their order, and then its own. -/
theorem exists_own (ctx : Context) (part : Part) :
    ∃ own, part.issues ctx =
        part.children.flatMap (issues ctx) ++ own.toList.map (⟨part.column, ·⟩) ∧
      part.Owns ctx own := by
  cases part with
  | keyword column =>
    exact ⟨some .keywordArgument, rfl, owns_some (.keyword column) fun other h => by cases h; rfl⟩
  | node surface =>
    cases surface with
    | number column kind text =>
      obtain ⟨own, found, owns⟩ := exists_owns_number ctx column kind text
      refine ⟨own, ?_, owns⟩
      simpa [issues, convert, children, Part.column, Surface.column] using found
    | literal column =>
      refine ⟨some .notNumeric, by rw [issues, convert]; rfl,
        owns_some (.literal column) fun other h => by cases h; rfl⟩
    | name column id =>
      refine ⟨none, by simp [issues, convert, convertName, children], owns_none fun cause h => ?_⟩
      cases h
    | unary column op operand =>
      by_cases minus : op = .minus
      · subst minus
        refine ⟨none, by simp [issues, convert, children], owns_none fun cause h => ?_⟩
        cases h with
        | unary _ _ foreign => exact foreign rfl
      · refine ⟨some (.operator op.symbol), ?_,
          owns_some (.unary column operand minus) fun other h => by cases h; rfl⟩
        cases op <;> simp_all [issues, convert, children, Part.column, Surface.column]
    | binary column op left right =>
      cases arithmetic : op.arithmetic? with
      | some operator =>
        refine ⟨none, by simp [issues, convert, children, arithmetic], owns_none fun cause h => ?_⟩
        cases h with
        | binary _ _ _ foreign =>
          rw [arithmetic_eq_none_iff.mpr foreign] at arithmetic
          cases arithmetic
      | none =>
        have foreign := arithmetic_eq_none_iff.mp arithmetic
        refine ⟨some (.operator op.symbol), ?_,
          owns_some (.binary column left right foreign) fun other h => by cases h; rfl⟩
        simp [issues, convert, children, arithmetic, Part.column, Surface.column]
    | call column callee args keywordColumns =>
      refine ⟨none, ?_, owns_none fun cause h => by cases h⟩
      simpa [issues, convert, children, convertAll_snd, List.flatMap_map] using List.map_eq_flatMap
    | starred column =>
      refine ⟨some .starredArgument, by rw [issues, convert]; rfl,
        owns_some (.starred column) fun other h => by cases h; rfl⟩
    | foreign column construct =>
      refine ⟨some (.foreign construct), by rw [issues, convert]; rfl,
        owns_some (.foreign column construct) fun other h => by cases h; rfl⟩

theorem issueAt_nil {part : Part} {issue : Issue} :
    part.IssueAt ctx [] issue ↔ Offends ctx part issue.cause ∧ issue.column = part.column := by
  simp [IssueAt, at?]

theorem issueAt_cons {part : Part} {i : Nat} {path : List Nat} {issue : Issue} :
    part.IssueAt ctx (i :: path) issue ↔
      ∃ child, part.children[i]? = some child ∧ child.IssueAt ctx path issue := by
  simp only [IssueAt, at?, Option.bind_eq_some_iff]
  constructor
  · rintro ⟨offending, ⟨child, step, reached⟩, offends⟩
    exact ⟨child, step, offending, reached, offends⟩
  · rintro ⟨child, step, offending, reached, offends⟩
    exact ⟨offending, ⟨child, step, reached⟩, offends⟩

/-- The issues of a part in the order of conversion, each with the path of its part. -/
structure Listing (ctx : Context) (part : Part) (found : List (List Nat × Issue)) : Prop where
  issues : found.map Prod.snd = part.issues ctx
  ordered : found.Pairwise fun a b => Precedes a.1 b.1
  complete : ∀ path issue, (path, issue) ∈ found ↔ part.IssueAt ctx path issue

/-- Listings of children side by side, the children counted from a number on. -/
theorem exists_side_by_side {children : List Part} (n : Nat)
    (listed : ∀ child ∈ children, ∃ found, child.Listing ctx found) :
    ∃ found : List (List Nat × Issue), found.map Prod.snd = children.flatMap (issues ctx) ∧
      (found.Pairwise fun a b => Precedes a.1 b.1) ∧
      ∀ path issue, (path, issue) ∈ found ↔ ∃ i child rest, children[i]? = some child ∧
        path = (n + i) :: rest ∧ child.IssueAt ctx rest issue := by
  induction children generalizing n with
  | nil => exact ⟨[], by simp⟩
  | cons child more ih =>
    obtain ⟨here, hereListing⟩ := listed child List.mem_cons_self
    obtain ⟨later, laterIssues, laterOrdered, laterComplete⟩ :=
      ih (n + 1) fun c hc => listed c (List.mem_cons_of_mem child hc)
    refine ⟨here.map (Prod.map (n :: ·) id) ++ later, ?_, ?_, fun path issue => ?_⟩
    · rw [List.map_append, List.map_map, laterIssues, List.flatMap_cons, ← hereListing.issues]
      rfl
    · rw [List.pairwise_append, List.pairwise_map]
      refine ⟨hereListing.ordered.imp (.within n), laterOrdered, fun a first b second => ?_⟩
      obtain ⟨⟨path, issue⟩, -, rfl⟩ := List.mem_map.mp first
      obtain ⟨i, _, rest, -, same, -⟩ := (laterComplete b.1 b.2).mp second
      rw [same]
      exact .earlier _ _ (by omega)
    · rw [List.mem_append, List.mem_map, laterComplete]
      constructor
      · rintro (⟨⟨rest, _⟩, member, same⟩ | ⟨i, found, rest, step, rfl, issueAt⟩)
        · cases same
          exact ⟨0, child, rest, rfl, rfl, (hereListing.complete _ _).mp member⟩
        · exact ⟨i + 1, found, rest, step, by rw [Nat.add_right_comm, Nat.add_assoc], issueAt⟩
      · rintro ⟨_ | i, found, rest, step, rfl, issueAt⟩
        · cases step
          exact .inl ⟨(rest, issue), (hereListing.complete _ _).mpr issueAt, rfl⟩
        · exact .inr ⟨i, found, rest, step, by rw [Nat.add_right_comm, Nat.add_assoc], issueAt⟩

theorem exists_listing (ctx : Context) (part : Part) : ∃ found, part.Listing ctx found := by
  induction part using Part.induction with
  | step part ih =>
    obtain ⟨within, issues, ordered, complete⟩ := exists_side_by_side 0 ih
    obtain ⟨own, whole, owns⟩ := part.exists_own ctx
    refine ⟨within ++ own.toList.map fun cause => ([], ⟨part.column, cause⟩), ?_, ?_, ?_⟩
    · rw [List.map_append, issues, whole, List.map_map]
      rfl
    · rw [List.pairwise_append]
      refine ⟨ordered, by cases own <;> simp, fun a inside b outside => ?_⟩
      obtain ⟨i, _, rest, -, same, -⟩ := (complete a.1 a.2).mp inside
      obtain ⟨cause, -, rfl⟩ := List.mem_map.mp outside
      rw [same]
      exact .inside _ _
    · rintro (_ | ⟨i, path⟩) issue
      · rw [issueAt_nil, ← owns, List.mem_append, complete, List.mem_map]
        constructor
        · rintro (⟨_, _, _, -, same, -⟩ | ⟨cause, member, same⟩)
          · cases same
          · cases same
            exact ⟨Option.mem_toList.mp member, rfl⟩
        · rintro ⟨own, column⟩
          exact .inr ⟨issue.cause, Option.mem_toList.mpr own, by rw [← column]⟩
      · rw [issueAt_cons, List.mem_append, complete, List.mem_map]
        constructor
        · rintro (⟨j, child, rest, step, same, issueAt⟩ | ⟨_, -, same⟩)
          · cases same
            exact ⟨child, by simpa using step, issueAt⟩
          · cases same
        · rintro ⟨child, step, issueAt⟩
          exact .inl ⟨i, child, path, step, by rw [Nat.zero_add], issueAt⟩

end Part

section Reading

variable {ctx : Context} {source : String} {surface : Surface}

theorem read_of_line (short : ShortRuns source.toList)
    (line : readLine (Text.trimBy Text.isBlank source.toList) = .ok surface) :
    read ctx source =
      if ((Part.node surface).issues ctx).isEmpty then .ok (convert ctx [] surface).1
      else .error (sortIssues ((Part.node surface).issues ctx)) := by
  have nonempty : (Text.trimBy Text.isBlank source.toList).isEmpty = false := by
    rw [← Bool.not_eq_true, List.isEmpty_iff]
    intro empty
    rw [empty] at line
    have refused : readLine [] = .error ⟨0, .invalid⟩ := by cbv
    rw [refused] at line
    cases line
  rw [read, nonempty, if_neg Bool.false_ne_true,
    hideLongIntegers_short (short.mono (trimBy_isInfix _ _))]
  dsimp only
  rw [line]
  rfl

theorem sortIssues_snd (found : List (List Nat × Issue)) :
    (found.mergeSort fun a b => a.2.column ≤ b.2.column).map Prod.snd =
      sortIssues (found.map Prod.snd) :=
  List.map_mergeSort fun _ _ _ _ => rfl

end Reading

/-- Every issue of a line that is no expression belongs to an offending part of it, and every such
part has one issue; they are sorted by their columns, and those at one column stand in the order of
conversion. A line without offending parts is read. -/
theorem read_reports_every_offence (ctx : Context) (source : String)
    (short : ∀ run, run <:+: source.toList → (∀ c ∈ run, c.isDigit) →
      run.length < longIntegerDigits)
    {surface : Surface} (line : readLine (Text.trimBy Text.isBlank source.toList) = .ok surface) :
    ((∃ e, read ctx source = .ok e) ↔
      ∀ path issue, ¬(Part.node surface).IssueAt ctx path issue) ∧
    ∀ issues, read ctx source = .error issues →
      ∃ found : List (List Nat × Issue), found.map Prod.snd = issues ∧
        (found.map Prod.fst).Nodup ∧
        (∀ path issue, (path, issue) ∈ found ↔ (Part.node surface).IssueAt ctx path issue) ∧
        found.Pairwise fun a b =>
          a.2.column < b.2.column ∨ a.2.column = b.2.column ∧ Precedes a.1 b.1 := by
  obtain ⟨found, issues, ordered, complete⟩ := (Part.node surface).exists_listing ctx
  rw [read_of_line short line, ← issues]
  constructor
  · constructor
    · rintro ⟨e, reads⟩ path issue offending
      have member := (complete path issue).mpr offending
      have some : (found.map Prod.snd).isEmpty = false := by
        simpa using List.ne_nil_of_mem member
      rw [some, if_neg Bool.false_ne_true] at reads
      cases reads
    · intro faultless
      have none : found = [] := List.eq_nil_iff_forall_not_mem.mpr fun ⟨path, issue⟩ member =>
        faultless path issue ((complete path issue).mp member)
      rw [none]
      exact ⟨_, rfl⟩
  · intro reported refused
    split at refused
    · cases refused
    have sorted := Except.error.inj refused
    have trans : ∀ a b c : List Nat × Issue, decide (a.2.column ≤ b.2.column) →
        decide (b.2.column ≤ c.2.column) → decide (a.2.column ≤ c.2.column) := by
      simp only [decide_eq_true_eq]
      exact fun a b c => le_trans
    have total : ∀ a b : List Nat × Issue,
        decide (a.2.column ≤ b.2.column) || decide (b.2.column ≤ a.2.column) := by
      simp only [Bool.or_eq_true, decide_eq_true_eq]
      exact fun a b => le_total _ _
    have distinct : (found.map Prod.fst).Nodup := by
      rw [List.Nodup, List.pairwise_map]
      refine ordered.imp fun {a b} before same => ?_
      rw [same] at before
      exact not_precedes_self _ before
    refine ⟨found.mergeSort fun a b => a.2.column ≤ b.2.column, ?_, ?_, fun path issue => ?_, ?_⟩
    · rw [sortIssues_snd, sorted]
    · exact ((List.mergeSort_perm _ _).map _).nodup_iff.mpr distinct
    · rw [List.mem_mergeSort, complete]
    · refine (pairwise_mergeSort_ties trans total ordered).imp fun {a b} h => ?_
      simp only [decide_eq_true_eq] at h
      rcases h.1.lt_or_eq with less | equal
      · exact .inl less
      · exact .inr ⟨equal, h.2 equal.ge⟩

/-- A number and the operator after it at one column, before the arguments of a call. -/
theorem read_reports_every_offence_tied :
    let source := "1j%f(*x,k=2)"
    let surface : Surface := .binary 0 .modulo (.number 0 .imaginary ['1', 'j'])
      (.call 3 (.name 3 "f") [.starred 5] [10])
    let issues : Issues := [⟨0, .notNumeric⟩, ⟨0, .operator "%"⟩, ⟨5, .starredArgument⟩,
      ⟨10, .keywordArgument⟩]
    (∀ run, run <:+: source.toList → (∀ c ∈ run, c.isDigit) → run.length < longIntegerDigits) ∧
      readLine (Text.trimBy Text.isBlank source.toList) = .ok surface ∧
      read { precision := 5 } source = .error issues ∧
      ∃ found : List (List Nat × Issue), found.map Prod.snd = issues ∧
        (found.map Prod.fst).Nodup ∧
        (∀ path issue, (path, issue) ∈ found ↔
          (Part.node surface).IssueAt { precision := 5 } path issue) ∧
        found.Pairwise fun a b =>
          a.2.column < b.2.column ∨ a.2.column = b.2.column ∧ Precedes a.1 b.1 := by
  intro source surface issues
  have short : ∀ run, run <:+: source.toList → (∀ c ∈ run, c.isDigit) →
      run.length < longIntegerDigits := fun run infixed _ =>
    lt_of_le_of_lt infixed.length_le (by decide +kernel)
  let tokens : Tokens := [⟨.number .imaginary ['1', 'j'], ⟨0, 0, 0⟩⟩, ⟨.mark .percent, ⟨0, 2, 2⟩⟩,
    ⟨.name "f", ⟨0, 3, 3⟩⟩, ⟨.mark .openParen, ⟨0, 4, 4⟩⟩, ⟨.mark .star, ⟨0, 5, 5⟩⟩,
    ⟨.name "x", ⟨0, 6, 6⟩⟩, ⟨.mark .comma, ⟨0, 7, 7⟩⟩, ⟨.name "k", ⟨0, 8, 8⟩⟩,
    ⟨.mark .assign, ⟨0, 9, 9⟩⟩, ⟨.number .integer ['2'], ⟨0, 10, 10⟩⟩,
    ⟨.mark .closeParen, ⟨0, 11, 11⟩⟩, ⟨.finish, ⟨0, 12, 12⟩⟩]
  have scanned : scan (Text.trimBy Text.isBlank source.toList) = tokens := by decide +kernel
  have recognised : Grammar.line tokens = .ok surface := by cbv
  have line : readLine (Text.trimBy Text.isBlank source.toList) = .ok surface := by
    rw [readLine, scanned, recognised, stringsWellFormed_of_none (by simp [tokens])]
    rfl
  have refused : read { precision := 5 } source = .error issues := by
    rw [read_of_line short line]
    cbv
  exact ⟨short, line, refused, (read_reports_every_offence _ _ short line).2 _ refused⟩

end Reckoner.Source
