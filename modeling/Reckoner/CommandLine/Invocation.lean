import Reckoner.CommandLine.Arguments
import Reckoner.Configuration
import Reckoner.Loop

/-! What the command line starts: one expression or the loop, with the settings of the
configuration as changed by the arguments. -/

namespace Reckoner.CommandLine

structure Invocation where
  evaluator : Evaluator
  expression : Option Operand := none

/-- Why nothing starts. An option whose value was dropped is of no use except for the expression
and the rounding. -/
inductive StartError where
  | exit (cause : Exit)
  | unusable (flag : Flag)
  | unreadable (fault : Yaml.Fault)
  | settings (cause : SettingsError)
deriving DecidableEq, Repr

/-- The settings of a configuration text with a reader of documents; where there is no text, all
have their defaults. -/
def configuredBy (reader : String → Except Yaml.Fault Json) :
    Option String → Except StartError Settings
  | none => .ok {}
  | some text => do
    let document ← (reader text).mapError .unreadable
    (Configuration.settings document).mapError .settings

/-- The settings of a configuration text. -/
def configured (configuration : Option String) : Except StartError Settings :=
  configuredBy Yaml.read configuration

/-- Put a configuration text and the arguments together. -/
def Invocation.of (arguments : Arguments) (configuration : Option String) :
    Except StartError Invocation := do
  if arguments.config = some .dropped then throw (.unusable .config)
  let settings ← configured configuration
  let settings :=
    match arguments.rounding with
    | some rounding => { settings with rounding }
    | none => settings
  let settings ← match arguments.displayDigits with
    | none => pure settings
    | some none => throw (.unusable .displayDigits)
    | some (some n) =>
      if 1 ≤ n ∧ n ≤ maxDisplayDigits then pure { settings with displayDigits := n.toNat }
      else throw (.exit .usage)
  return { evaluator := settings.evaluator, expression := arguments.expression }

/-- The output for one expression, and whether it had a result. -/
def single (ev : Evaluator) : Operand → Except RunError (Output × Bool)
  | .text source => ev.respond source
  | .dropped =>
    let issues : Source.Issues := [⟨0, .notText⟩]
    .ok (.ofComplaint ⟨Source.parseErrorCode, issues.message, issues⟩, false)

def exitCode (succeeded : Bool) : Nat := if succeeded then 0 else 1

/-- Everything an invocation prints, and its exit code; the loop reads the events. -/
def Invocation.run (invocation : Invocation) (events : List Loop.Event) :
    Except RunError (Output × Nat) := do
  match invocation.expression with
  | some operand =>
    let (output, succeeded) ← single invocation.evaluator operand
    return (output, exitCode succeeded)
  | none =>
    let (outputs, held) ← Loop.run invocation.evaluator events
    return (Loop.screen outputs, exitCode held)

end Reckoner.CommandLine
