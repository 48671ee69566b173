import Mathlib
import Reckoner.Text.Blank

/-! Text that is stripped twice, of fewer characters first. -/

namespace Reckoner.Text

section TrimBy

variable {drop : Char → Bool} {cs outside : List Char}

theorem trimBy_append_left (h : ∀ c ∈ outside, drop c) :
    trimBy drop (outside ++ cs) = trimBy drop cs := by
  rw [trimBy, List.dropWhile_append_of_pos h, trimBy]

theorem trimBy_append_right (h : ∀ c ∈ outside, drop c) :
    trimBy drop (cs ++ outside) = trimBy drop cs := by
  rw [trimBy, trimBy, List.dropWhile_append]
  split
  next gone =>
    rw [List.isEmpty_iff.mp gone, List.dropWhile_eq_nil_iff.mpr h]
  next =>
    rw [List.reverse_append, List.dropWhile_append_of_pos fun c hc => h c (List.mem_reverse.mp hc)]

/-- What is removed stands before and after what is left. -/
theorem exists_trimBy (drop : Char → Bool) (cs : List Char) :
    ∃ before after, before ++ trimBy drop cs ++ after = cs ∧ (∀ c ∈ before, drop c) ∧
      ∀ c ∈ after, drop c := by
  refine ⟨cs.takeWhile drop, ((cs.dropWhile drop).reverse.takeWhile drop).reverse, ?_,
    fun c hc => List.mem_takeWhile_imp hc,
    fun c hc => List.mem_takeWhile_imp (List.mem_reverse.mp hc)⟩
  rw [trimBy, List.append_assoc, ← List.reverse_append, List.takeWhile_append_dropWhile,
    List.reverse_reverse, List.takeWhile_append_dropWhile]

theorem mem_trimBy {drop : Char → Bool} {cs : List Char} {c : Char} (member : c ∈ cs)
    (kept : drop c = false) : c ∈ trimBy drop cs := by
  obtain ⟨before, after, whole, hb, ha⟩ := exists_trimBy drop cs
  rw [← whole, List.mem_append, List.mem_append] at member
  rcases member with (first | inside) | last
  · exact absurd (hb c first) (by simp [kept])
  · exact inside
  · exact absurd (ha c last) (by simp [kept])

/-- What goes in the first pass would have gone in the second. -/
theorem trimBy_trimBy {fewer : Char → Bool} (more : ∀ c, fewer c → drop c) (cs : List Char) :
    trimBy drop (trimBy fewer cs) = trimBy drop cs := by
  obtain ⟨before, after, whole, hb, ha⟩ := exists_trimBy fewer cs
  conv_rhs => rw [← whole]
  rw [trimBy_append_right fun c hc => more c (ha c hc),
    trimBy_append_left fun c hc => more c (hb c hc)]

end TrimBy

theorem isBlank_of_isWhiteSpace {c : Char} (h : isWhiteSpace c) : isBlank c := by
  rw [isBlank, h, Bool.true_or]

end Reckoner.Text
