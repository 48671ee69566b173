import Mathlib
import Reckoner.Proofs.Expr.Parts
import Reckoner.Proofs.Expr.Spelling
import Reckoner.Proofs.Source.Recognition

/-! Texts at their written value. The grammar gives a text a tree whose decimals have all digits as
they were written, whatever the context; reading the text in a context rounds these decimals. -/

namespace Reckoner.Source

/-- What single tokens spell: names, exact integers, and decimals with all their digits. -/
inductive Spells : TokenKind → Expr → Prop where
  | name (id : String) : Spells (.name id) (.symbol id)
  | integer (l : Literal) (h : l.IsInteger) :
    Spells (.number .integer l.text) (.constant (.exact (readDigits l.whole)))
  | real (l : Literal) : Spells (.number .real l.text) (.constant (.decimal (.finite l.decimal)))

/-- The kinds of the tokens of a text without the blanks around it. Integers of any length are
among them. -/
def takenTokens (source : String) : List TokenKind :=
  let (shown, hidden) := hideLongIntegers (Text.trimBy Text.isBlank source.toList)
  (scan shown).map (restore hidden)

/-- The grammar derives the tree from the text, decimals with all their digits. -/
def WrittenAs (source : String) (written : Expr) : Prop :=
  Sentence Spells (takenTokens source) written

variable {ctx : Context} {k : TokenKind} {written e : Expr}

theorem Spells.accepted (h : Spells k written) (rounds : written.Rounds ctx e) :
    Accepted ctx k e := by
  cases h with
  | name id =>
    cases rounds
    rfl
  | integer l h =>
    cases rounds
    exact (accepted_integer h).mpr rfl
  | real l =>
    cases rounds with
    | decimal rounded => exact accepted_real.mpr ⟨_, rounded, rfl⟩

/-- A token that is accepted in a context spells what can be rounded in it. -/
theorem Spells.rounds (h : Spells k written) (accepted : Accepted ctx k e) :
    written.Rounds ctx e := by
  cases h with
  | name id =>
    cases accepted
    exact .symbol id
  | integer l h =>
    rw [(accepted_integer h).mp accepted]
    exact .exact _
  | real l =>
    obtain ⟨d, rounded, rfl⟩ := accepted_real.mp accepted
    exact .decimal rounded

/-- A derivation with all digits becomes one of a context when its decimals are rounded in it. -/
theorem Derives.rounded {c : Category} {ks : List TokenKind} (h : Derives Spells c ks written)
    (rounds : written.Rounds ctx e) : Derives (Accepted ctx) c ks e := by
  induction h generalizing e with
  | sum hop _ _ ihl ihr =>
    cases rounds with
    | binary first second => exact .sum hop (ihl first) (ihr second)
  | product hop _ _ ihl ihr =>
    cases rounds with
    | binary first second => exact .product hop (ihl first) (ihr second)
  | negation _ ih =>
    cases rounds with
    | neg inner => exact .negation (ih inner)
  | application => cases rounds
  | leaf h => exact .leaf (h.accepted rounds)
  | ofProduct _ ih => exact .ofProduct (ih rounds)
  | ofNegation _ ih => exact .ofNegation (ih rounds)
  | ofApplication _ ih => exact .ofApplication (ih rounds)
  | ofAtom _ ih => exact .ofAtom (ih rounds)
  | group _ ih => exact .group (ih rounds)

/-- Without applications all decimals of a derivation can be rounded if those of its tokens can. -/
theorem Derives.exists_rounds {c : Category} {ks : List TokenKind} (h : Derives Spells c ks written)
    (plain : ∀ f args, ¬(Expr.apply f args).Within written)
    (each : ∀ k ∈ ks, ∀ w, Spells k w → ∃ e, Accepted ctx k e) : ∃ e, written.Rounds ctx e := by
  induction h with
  | sum _ _ _ ihl ihr | product _ _ _ ihl ihr =>
    obtain ⟨a, first⟩ := ihl (fun f args inside => plain f args (.left inside))
      fun k hk => each k (by simp [hk])
    obtain ⟨b, second⟩ := ihr (fun f args inside => plain f args (.right inside))
      fun k hk => each k (by simp [hk])
    exact ⟨_, .binary first second⟩
  | negation _ ih =>
    obtain ⟨a, inner⟩ := ih (fun f args inside => plain f args (.neg inside))
      fun k hk => each k (by simp [hk])
    exact ⟨_, .neg inner⟩
  | application => exact absurd .self (plain _ _)
  | leaf h =>
    obtain ⟨e, accepted⟩ := each _ (by simp) _ h
    exact ⟨e, h.rounds accepted⟩
  | group _ ih => exact ih plain fun k hk => each k (by simp [hk])
  | ofProduct _ ih | ofNegation _ ih | ofApplication _ ih | ofAtom _ ih => exact ih plain each

/-- Every token of a text that is read is accepted, if it spells anything. -/
theorem accepted_of_read {source : String} (h : read ctx source = .ok e) :
    ∀ k ∈ takenTokens source, ∀ w, Spells k w → ∃ e, Accepted ctx k e := by
  obtain ⟨body, ends, split, derived⟩ := read_iff.mp h
  have inside : ∀ k ∈ body, ∀ w, Spells k w → ∃ e, Accepted ctx k e :=
    derived.forall_mem (fun k e accepted _ _ => ⟨e, accepted⟩) fun _ _ _ spelled => nomatch spelled
  intro k member w spelled
  have member : k ∈ body ++ List.replicate ends .newline ++ [.finish] := split ▸ member
  simp only [List.mem_append, List.mem_singleton] at member
  rcases member with (member | newline) | rfl
  · exact inside k member w spelled
  · rw [List.eq_of_mem_replicate newline] at spelled
    nomatch spelled
  · nomatch spelled

/-- A text without applications is read as the tree that it is written as, rounded. -/
theorem read_iff_rounds {source : String} (h : WrittenAs source written)
    (plain : ∀ f args, ¬(Expr.apply f args).Within written) :
    read ctx source = .ok e ↔ written.Rounds ctx e := by
  have reads {e : Expr} (rounds : written.Rounds ctx e) : read ctx source = .ok e := by
    obtain ⟨body, ends, split, derived⟩ := h
    exact read_iff.mpr ⟨body, ends, split, derived.rounded rounds⟩
  refine ⟨fun reading => ?_, reads⟩
  obtain ⟨body, ends, split, derived⟩ := h
  obtain ⟨other, rounds⟩ := derived.exists_rounds plain fun k hk => accepted_of_read reading k
    (by rw [split]; simp [hk])
  have same : Except.ok e = Except.ok other := reading.symm.trans (reads rounds)
  rwa [Except.ok.inj same]

end Reckoner.Source
