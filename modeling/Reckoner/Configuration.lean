import Reckoner.Settings
import Reckoner.Yaml.Reader

/-! Configuration documents: what they say about the site, and the section of the calculator. An
entry that is missing, null or empty stands for an empty section. -/

namespace Reckoner.Configuration

/-- The configuration that is used unless another is named. -/
def standard : String :=
  "site:\n  title: calq\n\nplugins:\n  precise_calculator:\n    precision: decent\n" ++
  "    rounding: nearest\n    display_digits: 8\n    max_expression_length: 1024\n"

def siteKey : String := "site"

def pluginsKey : String := "plugins"

def calculatorKey : String := "precise_calculator"

/-- The entry of a section; one that is not empty has to be a mapping. -/
def entry? (part : Json) (key : String) : Except SettingsError (Option Json) :=
  if part.isFalsy then .ok none
  else
    match part with
    | .object _ => .ok (part.member? key)
    | _ => .error .notMapping

/-- The section of a key, null if there is none. -/
def subsection (part : Json) (key : String) : Except SettingsError Json :=
  (·.getD .null) <$> entry? part key

/-- The settings of the calculator in a document. -/
def settings (document : Json) : Except SettingsError Settings := do
  Settings.load (← subsection (← subsection document pluginsKey) calculatorKey)

end Reckoner.Configuration
