import Mathlib

/-! Computations that may fail, taken apart by their outcomes. -/

namespace Reckoner

variable {ε ε' α β : Type}

theorem bind_eq_ok {r : Except ε α} {f : α → Except ε β} {b : β} :
    (r >>= f) = .ok b ↔ ∃ a, r = .ok a ∧ f a = .ok b := by
  constructor
  · intro h
    cases r with
    | ok a => exact ⟨a, rfl, h⟩
    | error e => cases h
  · rintro ⟨a, rfl, h⟩
    exact h

theorem bind_eq_error {r : Except ε α} {f : α → Except ε β} {e : ε} :
    (r >>= f) = .error e ↔ r = .error e ∨ ∃ a, r = .ok a ∧ f a = .error e := by
  constructor
  · intro h
    cases r with
    | ok a => exact .inr ⟨a, rfl, h⟩
    | error cause => exact .inl (congrArg _ (Except.error.inj h))
  · rintro (rfl | ⟨a, rfl, h⟩)
    · rfl
    · exact h

theorem map_eq_ok {r : Except ε α} {f : α → β} {b : β} :
    f <$> r = .ok b ↔ ∃ a, r = .ok a ∧ f a = b := by
  cases r <;> simp [Functor.map, Except.map]

theorem mapError_eq_ok {r : Except ε α} {f : ε → ε'} {a : α} :
    r.mapError f = .ok a ↔ r = .ok a := by
  cases r <;> simp [Except.mapError]

theorem mapError_eq_error {r : Except ε α} {f : ε → ε'} {e' : ε'} :
    r.mapError f = .error e' ↔ ∃ e, r = .error e ∧ f e = e' := by
  cases r <;> simp [Except.mapError]

theorem map_mapError (f : ε → ε') (g : α → β) (r : Except ε α) :
    (r.mapError f).map g = (r.map g).mapError f := by
  cases r <;> rfl

theorem exists_mapM {f : α → Except ε β} {good : α → β → Prop} {as : List α}
    (each : ∀ a ∈ as, ∃ b, f a = .ok b ∧ good a b) :
    ∃ bs, as.mapM f = .ok bs ∧ List.Forall₂ good as bs := by
  induction as with
  | nil => exact ⟨[], rfl, .nil⟩
  | cons a as ih =>
    obtain ⟨b, first, hb⟩ := each a List.mem_cons_self
    obtain ⟨bs, others, hbs⟩ := ih fun a h => each a (List.mem_cons_of_mem _ h)
    refine ⟨b :: bs, ?_, .cons hb hbs⟩
    rw [List.mapM_cons, first, others]
    rfl

/-- A computation that succeeds where a condition holds, and else fails in one way. -/
inductive SucceedsIff (condition : Prop) (failure : ε) : Except ε α → Prop where
  | ok (h : condition) (a : α) : SucceedsIff condition failure (.ok a)
  | error (h : ¬condition) : SucceedsIff condition failure (.error failure)

namespace SucceedsIff

variable {p q : Prop} {failure : ε} {r : Except ε α}

theorem bind {f : α → Except ε β} (hr : SucceedsIff p failure r)
    (hf : ∀ a, SucceedsIff q failure (f a)) : SucceedsIff (p ∧ q) failure (r >>= f) := by
  cases hr with
  | error h => exact .error fun both => h both.1
  | ok h a =>
    show SucceedsIff (p ∧ q) failure (f a)
    have second := hf a
    generalize f a = s at second
    cases second with
    | ok h' b => exact .ok ⟨h, h'⟩ b
    | error h' => exact .error fun both => h' both.2

theorem bind_pure (hr : SucceedsIff p failure r) (f : α → β) :
    SucceedsIff p failure (r >>= fun a => pure (f a)) := by
  cases hr with
  | ok h a => exact .ok h (f a)
  | error h => exact .error h

theorem exists_ok (hr : SucceedsIff p failure r) (h : p) : ∃ a, r = .ok a := by
  cases hr with
  | ok _ a => exact ⟨a, rfl⟩
  | error h' => exact absurd h h'

theorem eq_error (hr : SucceedsIff p failure r) (h : ¬p) : r = .error failure := by
  cases hr with
  | ok h' => exact absurd h' h
  | error => rfl

theorem mapM {f : α → Except ε β} {good : α → Prop} {as : List α}
    (each : ∀ a ∈ as, SucceedsIff (good a) failure (f a)) :
    SucceedsIff (∀ a ∈ as, good a) failure (as.mapM f) := by
  induction as with
  | nil => exact .ok (by simp) []
  | cons a as ih =>
    rw [List.mapM_cons, List.forall_mem_cons]
    have others := ih fun a h => each a (List.mem_cons_of_mem _ h)
    exact (each a List.mem_cons_self).bind fun _ => others.bind_pure _

end SucceedsIff

/-- Two computations with one outcome: related results, or the same failure. -/
inductive Agree (related : α → β → Prop) : Except ε α → Except ε β → Prop where
  | ok {a : α} {b : β} (h : related a b) : Agree related (.ok a) (.ok b)
  | error (e : ε) : Agree related (.error e) (.error e)

namespace Agree

variable {γ δ : Type} {related : α → β → Prop} {close : γ → δ → Prop} {r : Except ε α}
  {s : Except ε β}

theorem bind {f : α → Except ε γ} {g : β → Except ε δ} (h : Agree related r s)
    (next : ∀ a b, related a b → Agree close (f a) (g b)) : Agree close (r >>= f) (s >>= g) := by
  cases h with
  | ok h => exact next _ _ h
  | error e => exact .error e

theorem map {f : α → γ} {g : β → δ} (h : Agree related r s)
    (next : ∀ a b, related a b → close (f a) (g b)) : Agree close (f <$> r) (g <$> s) := by
  cases h with
  | ok h => exact .ok (next _ _ h)
  | error e => exact .error e

theorem mapError (f : ε → ε') (h : Agree related r s) :
    Agree related (r.mapError f) (s.mapError f) := by
  cases h with
  | ok h => exact .ok h
  | error e => exact .error (f e)

theorem imp {weaker : α → β → Prop} (h : Agree related r s)
    (next : ∀ a b, r = .ok a → s = .ok b → related a b → weaker a b) : Agree weaker r s := by
  cases h with
  | ok h => exact .ok (next _ _ rfl rfl h)
  | error e => exact .error e

/-- Outcomes that agree after their results are read as one kind of thing. -/
theorem of_map {f : α → γ} {g : β → γ} (h : r.map f = s.map g) :
    Agree (fun a b => f a = g b) r s := by
  cases r with
  | ok a =>
    cases s with
    | ok b => exact .ok (Except.ok.inj h)
    | error e => cases h
  | error e =>
    cases s with
    | ok b => cases h
    | error e' =>
      cases h
      exact .error e

/-- The results are the same when no two results are told apart. -/
theorem eq {s : Except ε α} (h : Agree (· = ·) r s) : r = s := by
  cases h with
  | ok h => rw [h]
  | error => rfl

end Agree

end Reckoner
