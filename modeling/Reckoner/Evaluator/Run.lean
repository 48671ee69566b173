import Reckoner.Evaluator.Basic
import Reckoner.Source.Reading

/-! One source from its text to the text of its result, and what is said of a failure on the way. -/

namespace Reckoner

/-- Why a source has no result text, by the stage that failed. -/
inductive RunError where
  | issues (issues : Source.Issues)
  | evaluation (error : EvalError)
  | display (error : DisplayError)
deriving DecidableEq, Repr

/-- What the user is told of a failure. Only a source that cannot be read has issues. -/
structure Complaint where
  code : String
  message : String
  issues : Source.Issues := []
deriving DecidableEq, Repr

namespace Complaint

/-- One line for each issue, or one for the failure. -/
def lines (complaint : Complaint) : List String :=
  match complaint.issues with
  | [] => [complaint.message]
  | issues => issues.map Source.Issue.report

end Complaint

namespace RunError

/-- Failures outside the calculator's own errors have no complaint and end the program. -/
def complaint? : RunError → Option Complaint
  | .issues found => some ⟨Source.parseErrorCode, Source.Issues.message found, found⟩
  | .evaluation error => error.code?.map fun code => ⟨code, error.message, []⟩
  | .display _ => none

def message : RunError → String
  | .issues found => Source.Issues.message found
  | .evaluation error => error.message
  | .display error => error.message

end RunError

namespace Evaluator

/-- The tree of a source and its reduction. -/
def reduce (ev : Evaluator) (source : String) : Except RunError (Expr × Expr) := do
  let parsed ← (Source.read ev.context source).mapError .issues
  let reduced ← (ev.evaluate parsed).mapError .evaluation
  return (parsed, reduced)

/-- The reduction of a source and its text. -/
def run (ev : Evaluator) (source : String) : Except RunError (Expr × String) := do
  let (_, reduced) ← ev.reduce source
  let text ← (ev.render reduced).mapError .display
  return (reduced, text)

end Evaluator

end Reckoner
