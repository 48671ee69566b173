import Mathlib
import Reckoner.Proofs.Source.Completeness
import Reckoner.Proofs.Source.Scanning
import Reckoner.Proofs.Source.Soundness
import Reckoner.Source.Line

/-! Lines and texts. A text is read as an expression just when its tokens, the hidden integers
brought back, are derivable and nothing but line ends follows. -/

namespace Reckoner.Source

open Grammar

variable {ctx : Context} {hidden : LongIntegers}

/-- Line ends alone, or line ends and then the end of the text. -/
theorem ending_eq_ok {ts : Tokens} (h : ending ts = .ok ()) :
    (∀ t ∈ ts, t.kind = .newline) ∨ ∃ (ends : Tokens) (t : Token) (more : Tokens),
      ts = ends ++ t :: more ∧ (∀ u ∈ ends, u.kind = .newline) ∧ t.kind = .finish := by
  induction ts with
  | nil => exact .inl (by simp)
  | cons t ts ih =>
    rw [ending] at h
    split at h
    · rename_i newline
      rcases ih h with all | ⟨ends, u, more, rfl, all, finish⟩
      · exact .inl (List.forall_mem_cons.mpr ⟨newline, all⟩)
      · exact .inr ⟨t :: ends, u, more, rfl, List.forall_mem_cons.mpr ⟨newline, all⟩, finish⟩
    · rename_i finish
      exact .inr ⟨[], t, ts, rfl, by simp, finish⟩
    · cases h

theorem ending_complete {ends : Tokens} {t : Token} (all : ∀ u ∈ ends, u.kind = .newline)
    (ht : t.kind = .finish) : ending (ends ++ [t]) = .ok () := by
  induction ends with
  | nil => rw [List.nil_append, ending, ht]
  | cons u ends ih =>
    obtain ⟨hu, all⟩ := List.forall_mem_cons.mp all
    rw [List.cons_append, ending, hu]
    exact ih all

theorem map_restore_newlines {ends : Tokens} {n : Nat} :
    ends.map (restore hidden) = List.replicate n .newline ↔
      n = ends.length ∧ ∀ u ∈ ends, u.kind = .newline := by
  rw [List.eq_replicate_iff, List.length_map, List.forall_mem_map, eq_comm]
  simp only [restore_newline]

/-- In a token list of the right shape the end of the text comes last and only once. -/
theorem Shaped.split {body ends more : Tokens} {t : Token}
    (h : Shaped (body ++ (ends ++ t :: more))) (ht : t.kind = .finish) : more = [] := by
  obtain ⟨inner, last, split, -, all⟩ := h
  cases more using List.reverseRecOn with
  | nil => rfl
  | append_singleton more u =>
    have front : inner = body ++ (ends ++ t :: more) := by
      have : (body ++ (ends ++ t :: more)) ++ [u] = inner ++ [last] := by simpa using split
      exact (List.append_inj_left' this rfl).symm
    rcases all t (by simp [front]) with newline | lexed
    · rw [ht] at newline
      cases newline
    · rw [ht] at lexed
      cases lexed

/-- A token list of the right shape holds more than an expression and line ends. -/
theorem Shaped.not_all {ts : Tokens} (h : Shaped ts)
    (all : ∀ t ∈ ts, occurs t.kind ∨ t.kind = .newline) : False := by
  obtain ⟨inner, last, rfl, hl, -⟩ := h
  have ended := all last (by simp)
  generalize last.kind = k at hl ended
  cases hl <;> simp [occurs] at ended

theorem sentence_of_line {ts : Tokens} {s : Surface} {e : Expr} (shaped : Shaped ts)
    (parsed : line ts = .ok s) (converted : Converts ctx hidden s e) :
    Sentence (Accepted ctx) (ts.map (restore hidden)) e := by
  unfold line at parsed
  obtain ⟨⟨first, rest⟩, expr, parsed⟩ := bind_eq_ok.mp parsed
  dsimp only at parsed
  split at parsed
  · obtain ⟨_, -, parsed⟩ := bind_eq_ok.mp parsed
    obtain ⟨_, -, parsed⟩ := bind_eq_ok.mp parsed
    cases parsed
    exact absurd converted not_converts_foreign
  obtain ⟨_, ended, parsed⟩ := bind_eq_ok.mp parsed
  cases parsed
  obtain ⟨body, split, derived⟩ := (sound _).expression expr converted
  rcases ending_eq_ok ended with all | ⟨ends, t, more, rfl, all, finish⟩
  · exfalso
    refine shaped.not_all fun t ht => ?_
    rw [split] at ht
    rcases List.mem_append.mp ht with ht | ht
    · rw [← occurs_restore hidden]
      exact .inl (derived.all_occur _ (List.mem_map_of_mem ht))
    · exact .inr (all t ht)
  · subst split
    obtain rfl := shaped.split finish
    refine ⟨_, ends.length, ?_, derived⟩
    rw [List.map_append, List.map_append, map_restore_newlines.mpr ⟨rfl, all⟩, List.append_assoc,
      List.map_singleton, restore_finish.mpr finish]

/-- What stands after an expression: a line end or the end of the text. -/
theorem peek_ends {ends : Tokens} {t : Token} (all : ∀ u ∈ ends, u.kind = .newline)
    (finish : t.kind = .finish) :
    peek (ends ++ [t]) = .newline ∨ peek (ends ++ [t]) = .finish := by
  cases ends with
  | nil => exact .inr finish
  | cons u ends => exact .inl (all u List.mem_cons_self)

theorem line_of_sentence {ts : Tokens} {e : Expr}
    (derived : Sentence (Accepted ctx) (ts.map (restore hidden)) e) :
    ∃ s, line ts = .ok s ∧ Converts ctx hidden s e := by
  obtain ⟨ks, n, split, derived⟩ := derived
  obtain ⟨front, last, rfl, hfront, hlast⟩ := List.map_eq_append_iff.mp split
  obtain ⟨body, ends, rfl, rfl, hends⟩ := List.map_eq_append_iff.mp hfront
  obtain ⟨t, rfl, ht⟩ := List.map_eq_singleton_iff.mp hlast
  have finish := restore_finish.mp ht
  obtain ⟨rfl, all⟩ := map_restore_newlines.mp hends
  have next := peek_ends all finish
  have hf : follows .sum (peek (ends ++ [t])) := by rcases next with h | h <;> rw [h] <;> rfl
  have single : isMark (ends ++ [t]) .comma = false := by
    rcases next with h | h <;> simp [isMark, h]
  obtain ⟨s, converted, parsed⟩ := expression_complete derived (complete derived body rfl) hf
    (32 * ((body ++ ends ++ [t]).length + 1)) (by simp; omega)
  refine ⟨s, ?_, converted⟩
  rw [line, List.append_assoc] at *
  rw [parsed]
  show (if isMark (ends ++ [t]) .comma then _ else ending (ends ++ [t]) >>= _) = _
  rw [single, ending_complete all finish]
  rfl

theorem line_iff {ts : Tokens} {e : Expr} (shaped : Shaped ts) :
    (∃ s, line ts = .ok s ∧ Converts ctx hidden s e) ↔
      Sentence (Accepted ctx) (ts.map (restore hidden)) e :=
  ⟨fun ⟨_, parsed, converted⟩ => sentence_of_line shaped parsed converted, line_of_sentence⟩

theorem stringsAgree_of_none {ts : Tokens}
    (none : ∀ t ∈ ts, ∀ form body, t.kind ≠ .string form body) : stringsAgree ts = true := by
  induction ts with
  | nil => rfl
  | cons t ts ih =>
    obtain ⟨first, none⟩ := List.forall_mem_cons.mp none
    unfold stringsAgree
    split
    · rename_i split
      cases split
      exact absurd rfl (first _ _)
    · rename_i split
      cases split
      exact ih none
    · rfl

theorem fieldExpressions_of_none {ts : Tokens}
    (none : ∀ t ∈ ts, ∀ form body, t.kind ≠ .string form body) :
    fieldExpressions ts = .ok [] := by
  induction ts with
  | nil => rfl
  | cons t ts ih =>
    obtain ⟨first, none⟩ := List.forall_mem_cons.mp none
    unfold fieldExpressions
    split
    · rename_i string
      exact absurd string (first _ _)
    · exact ih none

theorem stringsWellFormed_of_none {ts : Tokens}
    (none : ∀ t ∈ ts, ∀ form body, t.kind ≠ .string form body) (fuel : Nat) :
    stringsWellFormed (fuel + 1) ts = true := by
  rw [stringsWellFormed, stringsAgree_of_none none, fieldExpressions_of_none none]
  rfl

theorem Sentence.no_string {ts : Tokens} {e : Expr}
    (h : Sentence (Accepted ctx) (ts.map (restore hidden)) e) :
    ∀ t ∈ ts, ∀ form body, t.kind ≠ .string form body := by
  obtain ⟨ks, n, split, derived⟩ := h
  intro t ht form body string
  have mem : TokenKind.string form body ∈ ts.map (restore hidden) :=
    List.mem_map.mpr ⟨t, ht, (restore_eq_iff (by simp) (by simp)).mpr string⟩
  rw [split] at mem
  simp only [List.mem_append, List.mem_singleton, reduceCtorEq, or_false] at mem
  rcases mem with occur | newline
  · exact absurd (derived.all_occur _ occur) (by simp [occurs])
  · exact absurd (List.eq_of_mem_replicate newline) (by simp)

theorem readLine_iff {cs : List Char} {e : Expr} :
    (∃ s, readLine cs = .ok s ∧ Converts ctx hidden s e) ↔
      Sentence (Accepted ctx) ((scan cs).map (restore hidden)) e := by
  rw [← line_iff (scan_shaped cs)]
  unfold readLine
  dsimp only
  constructor
  · rintro ⟨s, parsed, converted⟩
    cases parsed' : line (scan cs) with
    | error rest => simp [parsed'] at parsed
    | ok surface =>
      rw [parsed'] at parsed
      dsimp only at parsed
      split at parsed
      · cases parsed
        exact ⟨s, rfl, converted⟩
      · cases parsed
  · rintro ⟨s, parsed, converted⟩
    have none := ((line_iff (scan_shaped cs)).mp ⟨s, parsed, converted⟩).no_string
    refine ⟨s, ?_, converted⟩
    rw [parsed]
    dsimp only
    rw [stringsWellFormed_of_none none, if_pos rfl]

theorem Sentence.ne_finish {e : Expr} (h : Sentence (Accepted ctx) [.finish] e) : False := by
  obtain ⟨body, n, split, derived⟩ := h
  have := congrArg List.length split
  have := derived.length_pos
  simp at *
  omega

/-- Reading is recognition of the tokens of the text, the long integers brought back. -/
theorem read_iff {source : String} {e : Expr} :
    read ctx source = .ok e ↔
      Sentence (Accepted ctx)
        ((scan (hideLongIntegers (Text.trimBy Text.isBlank source.toList)).1).map
          (restore (hideLongIntegers (Text.trimBy Text.isBlank source.toList)).2)) e := by
  rw [read_eq_ok, ← readLine_iff]
  refine ⟨fun h => h.2, fun h => ⟨?_, h⟩⟩
  intro empty
  rw [readLine_iff, empty] at h
  exact Sentence.ne_finish h

end Reckoner.Source
