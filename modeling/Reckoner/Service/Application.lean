import Reckoner.Configuration
import Reckoner.Evaluator.Run
import Reckoner.Service.Payload
import Reckoner.Service.Problem

/-! The service and what it answers: its own description, its functions, and the results of
expressions. -/

namespace Reckoner.Service

/-- A page of the service that a site lists. -/
structure Plugin where
  title : String
  summary : Json
  category : String
  key : String

def Plugin.toJson (plugin : Plugin) : Json :=
  .object [("title", .string plugin.title), ("summary", plugin.summary),
    ("category", .string plugin.category), ("blueprint", .string plugin.key)]

def calculatorPlugin : Plugin :=
  { title := "Precise Calculator"
    summary :=
      .string "Exact rational and 100-digit decimal arithmetic with a fixed-accuracy sine."
    category := "General Utilities"
    key := Configuration.calculatorKey }

/-- The sections of its configuration that a running service uses. -/
structure Application where
  site : Json
  calculator : Json
  plugins : List Plugin

namespace Application

/-- Start the service. The section of the calculator may be missing; if there is one, it has to be
a mapping, and a summary in it replaces the usual one. -/
def start (document : Json) : Except SettingsError Application := do
  let site ← Configuration.subsection document Configuration.siteKey
  let plugins ← Configuration.subsection document Configuration.pluginsKey
  let calculator ← Configuration.entry? plugins Configuration.calculatorKey
  let summary ← match calculator with
    | none => pure calculatorPlugin.summary
    | some part =>
      match part with
      | .object _ =>
        let summary := (part.member? "summary").getD .null
        pure (if summary.isFalsy then calculatorPlugin.summary else summary)
      | _ => throw .notMapping
  return {
    site
    calculator := calculator.getD .null
    plugins := [{ calculatorPlugin with summary }] }

/-- The settings are read anew for each request. -/
def settings (app : Application) : Except Failure Settings :=
  (Settings.load app.calculator).mapError fun _ => .unforeseen

/-- The title of the site and its plugins. -/
def home (app : Application) : Except Failure Json :=
  match Configuration.entry? app.site "title" with
  | .ok title =>
    .ok (.object [("title", title.getD (.string "calq")),
      ("plugins", .array (app.plugins.map Plugin.toJson))])
  | .error _ => .error .unforeseen

/-- The functions of the calculator by name. -/
def functions (app : Application) : Except Failure Json := do
  let settings ← app.settings
  let sorted := List.mergeSort settings.evaluator.functions fun a b => a.name ≤ b.name
  return .object [("functions", .array (sorted.map fun function =>
    .object [("name", .string function.name), ("arity", .integer function.arity),
      ("summary", .string function.summary)]))]

/-- What is told of a source that has no result; other failures are kept to the server. -/
def refusal (error : RunError) : Failure :=
  match error.complaint? with
  | none => .unforeseen
  | some complaint =>
    let errors := complaint.issues.map fun issue =>
      Json.object [("column", .integer issue.column), ("message", .string issue.message)]
    .refused { Problem.of .invalidRequest complaint.message with
      code := complaint.code
      details := if errors.isEmpty then [] else [("errors", .array errors)] }

/-- The terms of an exact result as texts, which keep integers of any size intact. -/
def terms : Expr → List (String × Json)
  | .constant (.exact q) =>
    [("numerator", .string (toString q.num)), ("denominator", .string (toString q.den))]
  | _ => []

/-- Run a source under settings: the tree as it was read, its result, and how it was found. -/
def answer (settings : Settings) (source : String) : Except Failure Json := do
  let ev := settings.evaluator
  let (parsed, reduced) ← (ev.reduce source).mapError refusal
  let input ← (ev.render parsed).mapError fun _ => .unforeseen
  let result ← (ev.render reduced).mapError fun _ => .unforeseen
  return .object ([("input", .string input), ("result", .string result),
    ("kind", .string reduced.kind.name), ("precision", .integer ev.precision.digits),
    ("rounding", .string ev.rounding.name)] ++ terms reduced)

/-- Answer a validated request, unless its source is too long. -/
def evaluate (app : Application) (payload : Payload) : Except Failure Json := do
  let settings ← app.settings
  if settings.maxExpressionLength < payload.expression.length then
    throw (.refused (.of .invalidRequest "Expression is too long"))
  answer (payload.adjust settings) payload.expression

/-- Answer the document of a request. -/
def evaluateDocument (app : Application) (document : Json) : Except Failure Json :=
  match Payload.validate document with
  | .ok payload => app.evaluate payload
  | .error faults =>
    .error (.refused { Problem.of .invalidRequest Payload.rejection with
      details := Payload.details faults })

end Application

end Reckoner.Service
