import Mathlib
import Reckoner.CommandLine.Invocation
import Reckoner.Proofs.Outcome
import Reckoner.Service.Application

/-! One configuration for the service and for the command line. Both look for the same sections, and
both take null for an empty mapping everywhere but in one place: the service does not start when
the section of the calculator itself is null. -/

namespace Reckoner

namespace Configuration

/-- What a section may be: null, or a mapping. -/
inductive IsSection : Json → Prop where
  | null : IsSection .null
  | mapping (members : List (String × Json)) : IsSection (.object members)

/-- The section of the calculator, if there is one. -/
def calculator? (document : Json) : Option Json :=
  (document.member? pluginsKey).bind (·.member? calculatorKey)

/-- A document with sections where sections are looked for. -/
structure Sectioned (document : Json) : Prop where
  whole : IsSection document
  site : ∀ part ∈ document.member? siteKey, IsSection part
  plugins : ∀ part ∈ document.member? pluginsKey, IsSection part
  calculator : ∀ part ∈ calculator? document, IsSection part

theorem entry_eq {part : Json} (h : IsSection part) (key : String) :
    entry? part key = .ok (part.member? key) := by
  cases h with
  | null => rfl
  | mapping members => cases members <;> rfl

theorem subsection_eq {part : Json} (h : IsSection part) (key : String) :
    subsection part key = .ok ((part.member? key).getD .null) := by
  rw [subsection, entry_eq h]
  rfl

/-- A mapping with no entries is as good as none. -/
theorem load_falsy {part : Json} (h : part.isFalsy) : Settings.load part = .ok {} := by
  unfold Settings.load
  rw [if_pos h]

namespace Sectioned

variable {document : Json}

/-- Both programs come from the plugins to the calculator in one way. -/
theorem exists_plugins (sections : Sectioned document) :
    ∃ plugins, subsection document pluginsKey = .ok plugins ∧
      entry? plugins calculatorKey = .ok (calculator? document) := by
  refine ⟨_, subsection_eq sections.whole _, ?_⟩
  cases found : document.member? pluginsKey with
  | none =>
    rw [calculator?, found]
    rfl
  | some part =>
    rw [calculator?, found]
    exact entry_eq (sections.plugins part found) _

/-- The command line takes a calculator that is missing for one that is null. -/
theorem settings_eq (sections : Sectioned document) :
    settings document = Settings.load ((calculator? document).getD .null) := by
  obtain ⟨plugins, found, calculator⟩ := sections.exists_plugins
  rw [settings, found]
  show subsection plugins calculatorKey >>= Settings.load = _
  rw [subsection, calculator]
  rfl

end Sectioned

end Configuration

namespace Service.Application

open Reckoner.Configuration

variable {document : Json}

theorem start_of_null (sections : Sectioned document) (null : calculator? document = some .null) :
    start document = .error .notMapping := by
  obtain ⟨plugins, found, calculator⟩ := sections.exists_plugins
  -- A key with null is not a missing key: the entry is there, and it is no mapping.
  rw [start, subsection_eq sections.whole, found]
  show entry? plugins calculatorKey >>= (fun calculator => _) = _
  rw [calculator, null]
  rfl

theorem start_of_ne_null (sections : Sectioned document) (h : calculator? document ≠ some .null) :
    ∃ app, start document = .ok app ∧ app.calculator = (calculator? document).getD .null := by
  obtain ⟨plugins, found, calculator⟩ := sections.exists_plugins
  rw [start, subsection_eq sections.whole, found]
  show ∃ app, entry? plugins calculatorKey >>= (fun calculator => _) = .ok app ∧ _
  rw [calculator]
  cases entry : calculator? document with
  | none => exact ⟨_, rfl, rfl⟩
  | some part =>
    cases sections.calculator part entry with
    | null => exact absurd entry h
    | mapping members => exact ⟨_, rfl, rfl⟩

/-- The service and the command line under one configuration, a text or none, that any reader takes
for one document. Unless the section of the calculator is null the service starts, and its requests
are answered with the settings of the command line, or none has settings; sections that are missing
or empty give the defaults. The command line takes the defaults for a section that is null, too, but
the service does not start. -/
theorem start_as_configured (reader : String → Except Yaml.Fault Json)
    (configuration : Option String) (document : Json)
    (reads : configuration.elim (.ok .null) reader = .ok document)
    (sections : Sectioned document) :
    (calculator? document ≠ some .null → ∃ app, start document = .ok app ∧
      app.settings =
        (CommandLine.configuredBy reader configuration).mapError fun _ => .unforeseen) ∧
    ((∀ part ∈ calculator? document, part.isFalsy) →
      CommandLine.configuredBy reader configuration = .ok {}) ∧
    (calculator? document = some .null → start document = .error .notMapping) := by
  have configured : CommandLine.configuredBy reader configuration =
      (Settings.load ((calculator? document).getD .null)).mapError .settings := by
    cases configuration with
    | none =>
      obtain rfl : Json.null = document := Except.ok.inj reads
      rfl
    | some text =>
      have read : reader text = .ok document := reads
      rw [CommandLine.configuredBy, read, ← sections.settings_eq]
      rfl
  refine ⟨fun h => ?_, fun empty => ?_, start_of_null sections⟩
  · obtain ⟨app, started, calculator⟩ := start_of_ne_null sections h
    refine ⟨app, started, ?_⟩
    rw [Application.settings, calculator, configured]
    cases Settings.load ((calculator? document).getD .null) <;> rfl
  · have falsy : ((calculator? document).getD .null).isFalsy := by
      cases entry : calculator? document with
      | none => rfl
      | some part => exact empty part entry
    rw [configured, load_falsy falsy]
    rfl

/-- A section with one entry, beside a site that is null. -/
theorem start_as_configured_rounding :
    let text := "site:\nplugins:\n  precise_calculator:\n    rounding: up\n"
    let document : Json := .object [("site", .null), ("plugins",
      .object [("precise_calculator", .object [("rounding", .string "up")])])]
    Yaml.read text = .ok document ∧ Sectioned document ∧ calculator? document ≠ some .null ∧
      ∃ app, start document = .ok app ∧ app.settings = .ok { rounding := .up } := by
  intro text document
  have reads : Yaml.read text = .ok document := by
    show Yaml.read "site:\nplugins:\n  precise_calculator:\n    rounding: up\n" = .ok document
    rfl
  have sections : Sectioned document := by
    refine ⟨.mapping _, ?_, ?_, ?_⟩ <;> rintro part found <;> obtain rfl := Option.some.inj found
    · exact .null
    · exact .mapping _
    · exact .mapping _
  have present : calculator? document ≠ some .null := nofun
  have configured : CommandLine.configured (some text) = .ok { rounding := .up } := by
    decide +kernel
  obtain ⟨app, started, same⟩ :=
    (start_as_configured Yaml.read (some text) document reads sections).1 present
  rw [← CommandLine.configured, configured] at same
  exact ⟨reads, sections, present, app, started, same⟩

/-- A key with nothing after it: the command line runs with the defaults, and there is no service. -/
theorem not_start_of_null_section :
    ¬∀ (text : String) (document : Json), Yaml.read text = .ok document → Sectioned document →
      ∀ settings, CommandLine.configured (some text) = .ok settings →
        ∃ app, start document = .ok app ∧ app.settings = .ok settings := by
  intro claim
  have sections : Sectioned (.object [("plugins", .object [("precise_calculator", .null)])]) := by
    refine ⟨.mapping _, nofun, ?_, ?_⟩ <;> rintro part found <;> obtain rfl := Option.some.inj found
    · exact .mapping _
    · exact .null
  have configured : CommandLine.configured (some "plugins:\n  precise_calculator:\n") = .ok {} := by
    decide +kernel
  obtain ⟨app, started, -⟩ :=
    claim "plugins:\n  precise_calculator:\n" _ rfl sections {} configured
  cases started

end Service.Application

end Reckoner
