import Mathlib
import Reckoner.Proofs.Binary64
import Reckoner.Proofs.Outcome
import Reckoner.Settings

/-! Loading of settings, entry by entry. A field follows its own entry and no other: it takes what
the entry says, numbers brought between their bounds, or its default when the entry is missing or
says nothing of use. An infinite number has no whole part, and is the one thing that loading does
not pass over: it ends it. -/

namespace Reckoner.Settings

/-- An entry as a number, if it is one or its text reads as one. -/
def numberOf? : Json → Option ExtDecimal
  | .bool value => some (.finite (.ofNat (if value then 1 else 0)))
  | .integer n => some (.finite (.ofInt n))
  | .real value => some value
  | .string text => Text.readReal? text
  | .null | .array _ | .object _ => none

/-- An infinity in floating point, by its name or by its size. -/
def IsInfinite : ExtDecimal → Prop
  | .finite d => Binary64.threshold ≤ |d.toRat|
  | .infinite _ => True
  | .nan _ _ _ => False

def SaysInfinite (entry : Option Json) : Prop :=
  ∃ value, entry.bind numberOf? = some value ∧ IsInfinite value

/-- An entry that says a finite number, and its whole part in floating point. -/
def SaysWhole (entry : Option Json) (n : ℤ) : Prop :=
  ∃ d, entry.bind numberOf? = some (.finite d) ∧ |d.toRat| < Binary64.threshold ∧
    n = withSign d.negative ⌊Binary64.nearest |d.toRat|⌋

/-- A text without blanks around it, in small letters. -/
def folded (text : String) : String := String.ofList ((Text.strip text).toList.map Char.toLower)

def Names (entry : Option Json) (name : String) : Prop :=
  ∃ text, entry = some (.string text) ∧ folded text = name

def bring (lower : ℕ) (upper : Option ℕ) (n : ℤ) : ℤ :=
  match upper with
  | none => max n lower
  | some upper => min (max n lower) upper

/-- What a number entry makes of its field. -/
inductive NumberField (default lower : ℕ) (upper : Option ℕ) (entry : Option Json) :
    ℕ → Prop where
  | said {n : ℤ} {field : ℕ} (h : SaysWhole entry n) (value : field = bring lower upper n) :
    NumberField default lower upper entry field
  | fallback (h : ∀ n, ¬SaysWhole entry n) : NumberField default lower upper entry default

/-- What a name entry makes of its field. -/
inductive NameField {α : Type} (name : α → String) (default : α) (entry : Option Json) :
    α → Prop where
  | named {mode : α} (h : Names entry (name mode)) : NameField name default entry mode
  | fallback (h : ∀ mode, ¬Names entry (name mode)) : NameField name default entry default

/-- Settings that follow a document, each field its entry. -/
structure Follows (raw : Json) (settings : Settings) : Prop where
  precision : NameField Precision.name .decent (raw.member? "precision") settings.precision
  rounding : NameField Rounding.name .nearest (raw.member? "rounding") settings.rounding
  displayDigits : NumberField defaultDisplayDigits 1 (some maxDisplayDigits)
    (raw.member? "display_digits") settings.displayDigits
  maxExpressionLength : NumberField defaultMaxExpressionLength 1 none
    (raw.member? "max_expression_length") settings.maxExpressionLength

/-- Settings that agree in every field whose entry two documents share. -/
structure AgreeOnShared (raw other : Json) (settings settings' : Settings) : Prop where
  precision : raw.member? "precision" = other.member? "precision" →
    settings.precision = settings'.precision
  rounding : raw.member? "rounding" = other.member? "rounding" →
    settings.rounding = settings'.rounding
  displayDigits : raw.member? "display_digits" = other.member? "display_digits" →
    settings.displayDigits = settings'.displayDigits
  maxExpressionLength :
    raw.member? "max_expression_length" = other.member? "max_expression_length" →
      settings.maxExpressionLength = settings'.maxExpressionLength

section Number

variable {entry : Option Json} {default lower : ℕ} {upper : Option ℕ}

theorem ofReal_large {d : Decimal} (large : Binary64.threshold ≤ |d.toRat|) :
    Reading.ofReal (.finite d) = .infinite := by
  rw [Reading.ofReal, Binary64.truncate?_eq, if_pos large]

theorem ofReal_small {d : Decimal} (small : |d.toRat| < Binary64.threshold) :
    Reading.ofReal (.finite d) =
      .whole (withSign d.negative ⌊Binary64.nearest |d.toRat|⌋) := by
  rw [Reading.ofReal, Binary64.truncate?_eq, if_neg (not_le.mpr small)]

theorem ofEntry_eq (value : Json) :
    Reading.ofEntry value = (numberOf? value).elim .unusable .ofReal := by
  cases value with
  | bool b => cases b <;> decide
  | string text =>
    rw [Reading.ofEntry, numberOf?]
    cases Text.readReal? text <;> rfl
  | null | integer | real | array | object => rfl

theorem SaysWhole.unique {m n : ℤ} (hm : SaysWhole entry m) (hn : SaysWhole entry n) : m = n := by
  obtain ⟨d, same, -, rfl⟩ := hm
  obtain ⟨e, other, -, rfl⟩ := hn
  cases Option.some.inj (same.symm.trans other)
  rfl

theorem not_saysWhole_of_ne_finite (h : ∀ d, entry.bind numberOf? ≠ some (.finite d)) (n : ℤ) :
    ¬SaysWhole entry n := by
  rintro ⟨d, said, -⟩
  exact h d said

theorem saysInfinite_iff {value : ExtDecimal} (said : entry.bind numberOf? = some value) :
    SaysInfinite entry ↔ IsInfinite value := by
  constructor
  · rintro ⟨other, same, infinite⟩
    rwa [Option.some.inj (said.symm.trans same)]
  · intro infinite
    exact ⟨value, said, infinite⟩

/-- The reading of an entry decides what becomes of its field. -/
theorem number_eq (entry : Option Json) (default lower : ℕ) (upper : Option ℕ) :
    number entry default lower upper =
      match (entry.bind numberOf?).elim .unusable Reading.ofReal with
      | .unusable => .ok default
      | .infinite => .error .infiniteNumber
      | .whole n => .ok (upper.elim (max n.toNat lower) (min (max n.toNat lower))) := by
  cases entry with
  | none => rfl
  | some value =>
    rw [number, Option.bind_some, ← ofEntry_eq]
    cases upper <;> rfl

theorem toNat_bring (lower : ℕ) (upper : Option ℕ) (n : ℤ) :
    (upper.elim (max n.toNat lower) (min (max n.toNat lower)) : ℕ) = bring lower upper n := by
  cases upper with
  | none =>
    rw [Option.elim_none, bring]
    omega
  | some upper =>
    rw [Option.elim_some, bring]
    omega

/-- An entry is infinite, or its field follows it. -/
theorem number_outcome (entry : Option Json) (default lower : ℕ) (upper : Option ℕ) :
    (SaysInfinite entry ∧ number entry default lower upper = .error .infiniteNumber) ∨
      ¬SaysInfinite entry ∧ ∃ field, number entry default lower upper = .ok field ∧
        NumberField default lower upper entry field := by
  rw [number_eq]
  cases said : entry.bind numberOf? with
  | none =>
    have silent : ¬SaysInfinite entry := by
      rintro ⟨value, some, -⟩
      cases said.symm.trans some
    exact .inr ⟨silent, default, rfl, .fallback (not_saysWhole_of_ne_finite (by simp [said]))⟩
  | some value =>
    rw [saysInfinite_iff said, Option.elim_some]
    cases value with
    | finite d =>
      rcases le_or_gt Binary64.threshold |d.toRat| with large | small
      · rw [ofReal_large large]
        exact .inl ⟨large, rfl⟩
      · rw [ofReal_small small]
        have whole : SaysWhole entry _ := ⟨d, said, small, rfl⟩
        exact .inr ⟨not_le.mpr small, _, rfl, .said whole (toNat_bring lower upper _)⟩
    | infinite negative => exact .inl ⟨trivial, rfl⟩
    | nan negative signaling payload =>
      exact .inr ⟨id, default, rfl, .fallback (not_saysWhole_of_ne_finite (by simp [said]))⟩

namespace NumberField

variable {field other : ℕ}

theorem lower_le (h : NumberField default lower upper entry field) (within : lower ≤ default)
    (room : ∀ u ∈ upper, lower ≤ u) : lower ≤ field := by
  cases h with
  | fallback => exact within
  | said _ value =>
    cases upper with
    | none =>
      rw [bring] at value
      omega
    | some u =>
      have := room u rfl
      rw [bring] at value
      omega

/-- An entry makes one thing of a field. -/
theorem unique (h : NumberField default lower upper entry field)
    (h' : NumberField default lower upper entry other) : field = other := by
  cases h with
  | said whole value =>
    cases h' with
    | said whole' value' =>
      rw [whole.unique whole', ← value'] at value
      exact_mod_cast value
    | fallback silent => exact absurd whole (silent _)
  | fallback silent =>
    cases h' with
    | said whole => exact absurd whole (silent _)
    | fallback => rfl

end NumberField

end Number

section Name

variable {α : Type} {name : α → String} {default : α} {entry : Option Json}

theorem Names.unique {first second : String} (h : Names entry first) (h' : Names entry second) :
    first = second := by
  obtain ⟨text, given, rfl⟩ := h
  obtain ⟨other, same, rfl⟩ := h'
  cases given.symm.trans same
  rfl

theorem choice_field {ofName? : String → Option α}
    (knows : ∀ text mode, ofName? text = some mode ↔ text = name mode) (entry : Option Json)
    (default : α) : NameField name default entry (choice entry ofName? default) := by
  have silent (other : ∀ text, entry ≠ some (.string text)) (mode : α) :
      ¬Names entry (name mode) := by
    rintro ⟨text, given, -⟩
    exact other text given
  cases entry with
  | none => exact .fallback (silent (by simp))
  | some value =>
    cases value with
    | string text =>
      show NameField name default _ ((ofName? (folded text)).getD default)
      cases found : ofName? (folded text) with
      | some mode => exact .named ⟨text, rfl, (knows _ _).mp found⟩
      | none =>
        refine .fallback ?_
        rintro mode ⟨_, ⟨⟩, same⟩
        rw [(knows _ _).mpr same] at found
        cases found
    | null | bool | integer | real | array | object => exact .fallback (silent (by simp))

theorem NameField.unique (injective : Function.Injective name) {mode other : α}
    (h : NameField name default entry mode) (h' : NameField name default entry other) :
    mode = other := by
  cases h with
  | named names =>
    cases h' with
    | named names' => exact injective (names.unique names')
    | fallback silent => exact absurd names (silent _)
  | fallback silent =>
    cases h' with
    | named names' => exact absurd names' (silent _)
    | fallback => rfl

end Name

theorem precision_knows (text : String) (mode : Precision) :
    Precision.ofName? text = some mode ↔ text = mode.name := by
  cases mode
  rw [Precision.ofName?]
  split <;> simp_all

theorem rounding_knows (text : String) (mode : Rounding) :
    Rounding.ofName? text = some mode ↔ text = mode.name := by
  constructor
  · intro found
    have same := List.find?_some found
    exact (beq_iff_eq.mp same).symm
  · rintro rfl
    exact Rounding.ofName?_name mode

theorem precision_name_injective : Function.Injective Precision.name := by
  intro first second _
  cases first
  cases second
  rfl

theorem rounding_name_injective : Function.Injective Rounding.name := by
  intro first second same
  have named := Rounding.ofName?_name first
  rw [same, Rounding.ofName?_name] at named
  exact (Option.some.inj named).symm

/-- A document that is loaded entry by entry: a mapping, or whatever is as good as an empty one. -/
def Loadable (raw : Json) : Prop := raw.isFalsy ∨ ∃ members, raw = .object members

section Load

variable {raw other : Json} {settings : Settings}

theorem load_eq (mapping : Loadable raw) :
    load raw = do
      let displayDigits ←
        number (raw.member? "display_digits") defaultDisplayDigits 1 (some maxDisplayDigits)
      let maxExpressionLength ←
        number (raw.member? "max_expression_length") defaultMaxExpressionLength 1 none
      return {
        precision := choice (raw.member? "precision") Precision.ofName? .decent
        rounding := choice (raw.member? "rounding") Rounding.ofName? .nearest
        displayDigits
        maxExpressionLength } := by
  by_cases falsy : raw.isFalsy
  · have missing (key : String) : raw.member? key = none := by
      cases raw with
      | object members =>
        obtain rfl : members = [] := List.isEmpty_iff.mp falsy
        rfl
      | null | bool | integer | real | string | array => rfl
    unfold load
    rw [if_pos falsy, missing, missing, missing, missing]
    rfl
  · obtain ⟨members, rfl⟩ := mapping.resolve_left falsy
    unfold load
    rw [if_neg falsy]

/-- Loading fails at an infinite number, and else the settings follow the document. -/
theorem load_outcome (mapping : Loadable raw) :
    (SaysInfinite (raw.member? "display_digits") ∨
        SaysInfinite (raw.member? "max_expression_length")) ∧ load raw = .error .infiniteNumber ∨
      ¬(SaysInfinite (raw.member? "display_digits") ∨
        SaysInfinite (raw.member? "max_expression_length")) ∧
        ∃ settings, load raw = .ok settings ∧ Follows raw settings := by
  rw [load_eq mapping]
  rcases number_outcome (raw.member? "display_digits") defaultDisplayDigits 1
    (some maxDisplayDigits) with ⟨infinite, failed⟩ | ⟨finite, digits, read, digitsField⟩
  · rw [failed]
    exact .inl ⟨.inl infinite, rfl⟩
  rw [read]
  rcases number_outcome (raw.member? "max_expression_length") defaultMaxExpressionLength 1
    none with ⟨infinite, failed⟩ | ⟨finite', length, read', lengthField⟩
  · rw [failed]
    exact .inl ⟨.inr infinite, rfl⟩
  rw [read']
  refine .inr ⟨not_or.mpr ⟨finite, finite'⟩, _, rfl, ?_⟩
  exact ⟨choice_field precision_knows _ _, choice_field rounding_knows _ _, digitsField, lengthField⟩

theorem loadable_of_ok (success : load raw = .ok settings) : Loadable raw := by
  by_cases falsy : raw.isFalsy
  · exact .inl falsy
  · unfold load at success
    rw [if_neg falsy] at success
    cases raw with
    | object members => exact .inr ⟨members, rfl⟩
    | null | bool | integer | real | string | array => cases success

theorem follows_of_ok (success : load raw = .ok settings) : Follows raw settings := by
  rcases load_outcome (loadable_of_ok success) with ⟨-, failed⟩ | ⟨-, loaded, succeeded, follows⟩
  · cases success.symm.trans failed
  · cases success.symm.trans succeeded
    exact follows

/-- Settings from a document show at least one digit. -/
theorem load_displayDigits (success : load raw = .ok settings) : 0 < settings.displayDigits :=
  (follows_of_ok success).displayDigits.lower_le (by decide) (by decide)

/-- An entry is all that a field hangs on. -/
theorem Follows.agree {settings' : Settings} (h : Follows raw settings)
    (h' : Follows other settings') : AgreeOnShared raw other settings settings' where
  precision same := h.precision.unique precision_name_injective (same ▸ h'.precision)
  rounding same := h.rounding.unique rounding_name_injective (same ▸ h'.rounding)
  displayDigits same := h.displayDigits.unique (same ▸ h'.displayDigits)
  maxExpressionLength same := h.maxExpressionLength.unique (same ▸ h'.maxExpressionLength)

end Load

end Reckoner.Settings
