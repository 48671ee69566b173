import Mathlib
import Reckoner.Text.Identifier

/-! The compatibility form of a word is a word: no entry of the tables leads from the characters
of words to an ASCII character outside them. -/

namespace Reckoner.Text

/-- The code points of the characters that words go on with. -/
def wordPoint (n : Nat) : Bool :=
  (128 ≤ n || 48 ≤ n && n ≤ 57 || 65 ≤ n && n ≤ 90 || n = 95 || 97 ≤ n && n ≤ 122) &&
    (n < 0xD800 || 0xDFFF < n && n < 0x110000)

theorem continuesWord_eq (c : Char) : continuesWord c = wordPoint c.toNat := by
  have valid : c.toNat < 0xD800 ∨ 0xDFFF < c.toNat ∧ c.toNat < 0x110000 := c.valid
  have low : (c = '_') ↔ c.toNat = 95 := by
    rw [← Char.toNat_inj]
    rfl
  rw [Bool.eq_iff_iff]
  simp only [continuesWord, wordPoint, Char.isAlphanum, Char.isAlpha, Char.isUpper, Char.isLower,
    Char.isDigit, Bool.or_eq_true, Bool.and_eq_true, decide_eq_true_eq, low, ge_iff_le,
    UInt32.le_iff_toNat_le]
  have same : c.val.toNat = c.toNat := rfl
  rw [same]
  have : 'A'.val.toNat = 65 ∧ 'Z'.val.toNat = 90 ∧ 'a'.val.toNat = 97 ∧ 'z'.val.toNat = 122 ∧
    '0'.val.toNat = 48 ∧ '9'.val.toNat = 57 := by decide
  omega

theorem toNat_ofNat {n : Nat} (h : wordPoint n) : (Char.ofNat n).toNat = n := by
  have valid : n.isValidChar := by
    simp only [wordPoint, Bool.and_eq_true, Bool.or_eq_true, decide_eq_true_eq] at h
    exact h.2
  rw [Char.ofNat, dif_pos valid]
  rfl

theorem singleDecompositions_word :
    singleDecompositions.all (fun (first, last, target) =>
      (List.range (last - first + 1)).all fun n => wordPoint (target + n)) = true := by
  decide +kernel

theorem longDecompositions_word :
    longDecompositions.all (fun (_, targets) => targets.all wordPoint) = true := by
  decide +kernel

theorem compositions_word :
    compositions.all (fun (_, _, composed) => wordPoint composed) = true := by
  decide +kernel

theorem hangul_decompose_word {n m : Nat} {letters : List Nat}
    (h : Hangul.decompose? n = some letters) (hm : m ∈ letters) : wordPoint m := by
  unfold Hangul.decompose? at h
  split at h
  · rename_i inside
    rw [← Option.some.inj h] at hm
    have bound : m = 0x1100 + (n - 0xAC00) / (21 * 28) ∨
        m = 0x1161 + (n - 0xAC00) % (21 * 28) / 28 ∨ m = 0x11A7 + (n - 0xAC00) % 28 := by
      split at hm <;> simp only [List.mem_cons, List.not_mem_nil, or_false] at hm
      · exact hm.imp_right .inl
      · exact hm
    simp only [Hangul.firstSyllable, Hangul.syllableCount] at inside
    simp only [wordPoint, Bool.and_eq_true, Bool.or_eq_true, decide_eq_true_eq]
    omega
  · cases h

theorem decompose_word {n m : Nat} (hn : wordPoint n) (hm : m ∈ decompose n) : wordPoint m := by
  unfold decompose at hm
  split at hm
  · rwa [List.mem_singleton.mp hm]
  split at hm
  · rename_i letters found
    exact hangul_decompose_word found hm
  split at hm
  · rename_i first last target found
    have member := List.mem_of_find?_eq_some found
    have range : first ≤ n ∧ n ≤ last := by simpa using List.find?_some found
    have checked := List.all_eq_true.mp singleDecompositions_word _ member
    rw [List.mem_singleton.mp hm]
    exact List.all_eq_true.mp checked (n - first) (List.mem_range.mpr (by omega))
  split at hm
  · rename_i targets found
    have member := List.mem_of_find?_eq_some found
    exact List.all_eq_true.mp (List.all_eq_true.mp longDecompositions_word _ member) m hm
  · rwa [List.mem_singleton.mp hm]

theorem mem_insertMark {n value : Nat} {before : List (Nat × Nat)} {p : Nat × Nat}
    (h : p ∈ insertMark n value before) : p = (n, value) ∨ p ∈ before := by
  induction before with
  | nil => simpa [insertMark] using h
  | cons last before ih =>
    unfold insertMark at h
    split at h
    · rcases List.mem_cons.mp h with rfl | h
      · exact .inr List.mem_cons_self
      · exact (ih h).imp_right (List.mem_cons_of_mem _)
    · exact List.mem_cons.mp h

theorem canonicalOrder_word {ns : List Nat} (h : ∀ n ∈ ns, wordPoint n) :
    ∀ p ∈ canonicalOrder ns, wordPoint p.1 := by
  unfold canonicalOrder
  simp only [List.mem_reverse]
  have start : ∀ p ∈ ([] : List (Nat × Nat)), wordPoint p.1 := by simp
  generalize [] = before at start
  induction ns generalizing before with
  | nil => exact start
  | cons n ns ih =>
    obtain ⟨hn, h⟩ := List.forall_mem_cons.mp h
    refine ih h _ fun p hp => ?_
    dsimp only at hp
    split at hp
    · rcases List.mem_cons.mp hp with rfl | hp
      · exact hn
      · exact start p hp
    · rcases mem_insertMark hp with rfl | hp
      · exact hn
      · exact start p hp

theorem compose?_word {a b c : Nat} (h : compose? a b = some c) : wordPoint c := by
  unfold compose? at h
  split at h
  · rename_i syllable found
    cases h
    unfold Hangul.compose? at found
    simp only [wordPoint, Bool.and_eq_true, Bool.or_eq_true, decide_eq_true_eq]
    split at found
    · have value := Option.some.inj found
      simp only [Hangul.firstSyllable, Hangul.leadBase, Hangul.vowelBase, Hangul.vowelCount,
        Hangul.tailCount, Hangul.leadCount] at *
      omega
    split at found
    · have value := Option.some.inj found
      simp only [Hangul.firstSyllable, Hangul.syllableCount, Hangul.tailBase,
        Hangul.tailCount] at *
      omega
    · cases found
  · obtain ⟨⟨first, second, composed⟩, found, rfl⟩ := Option.map_eq_some_iff.mp h
    exact List.all_eq_true.mp compositions_word _ (List.mem_of_find?_eq_some found)

theorem composeFrom_word {starter lastClass : Nat} {kept : List Nat} {rest : List (Nat × Nat)}
    (hs : wordPoint starter) (hk : ∀ n ∈ kept, wordPoint n) (hr : ∀ p ∈ rest, wordPoint p.1) :
    ∀ n ∈ composeFrom starter kept lastClass rest, wordPoint n := by
  induction rest generalizing starter kept lastClass with
  | nil => simpa [composeFrom] using ⟨hs, hk⟩
  | cons p rest ih =>
    obtain ⟨hp, hr⟩ := List.forall_mem_cons.mp hr
    unfold composeFrom
    dsimp only
    split
    · rename_i composed found
      refine ih ?_ hk hr
      split at found
      · cases found
      · exact compose?_word found
    · split
      · rw [List.cons_append, List.forall_mem_cons, List.forall_mem_append]
        exact ⟨hs, by simpa using hk, ih hp (by simp) hr⟩
      · exact ih hs (List.forall_mem_cons.mpr ⟨hp, hk⟩) hr

theorem compose_word {ps : List (Nat × Nat)} (h : ∀ p ∈ ps, wordPoint p.1) :
    ∀ n ∈ compose ps, wordPoint n := by
  induction ps with
  | nil => simp [compose]
  | cons p ps ih =>
    obtain ⟨hp, h⟩ := List.forall_mem_cons.mp h
    unfold compose
    split
    · exact composeFrom_word hp (by simp) h
    · exact List.forall_mem_cons.mpr ⟨hp, ih h⟩

theorem compatibilityForm_word {cs : List Char} (h : ∀ c ∈ cs, continuesWord c) :
    ∀ c ∈ compatibilityForm cs, continuesWord c := by
  unfold compatibilityForm
  split
  · exact h
  · intro c hc
    obtain ⟨n, hn, rfl⟩ := List.mem_map.mp hc
    have word : wordPoint n := by
      refine compose_word (canonicalOrder_word fun m hm => ?_) n hn
      obtain ⟨d, hd, hm⟩ := List.mem_flatMap.mp hm
      exact decompose_word ((continuesWord_eq d).symm.trans (h d hd)) hm
    rw [continuesWord_eq, toNat_ofNat word]
    exact word

end Reckoner.Text
