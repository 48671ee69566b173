import Reckoner.Value

/-! Why an expression cannot be reduced. -/

namespace Reckoner

/-- Why an application has no reduction. -/
inductive Unimplemented where
  | calleeNotNamed
  | unknownFunction (name : String)
  | wrongArity (name : String) (expected given : Nat)
  | symbolicArgument (name : String)
  | exactSine
deriving DecidableEq, Repr

namespace Unimplemented

def message : Unimplemented → String
  | calleeNotNamed => "only named functions can be applied"
  | unknownFunction name => s!"function '{name}' is not implemented"
  | wrongArity name expected given =>
    let noun := if expected = 1 then "argument" else "arguments"
    s!"function '{name}' takes {expected} {noun}, got {given}"
  | symbolicArgument name => s!"'{name}' needs a numeric argument"
  | exactSine => "sin is not defined for exact arguments; use a decimal literal such as 1.0"

end Unimplemented

/-- The last three constructors lie outside the calculator's own errors: a sine of a value that
is not finite, and functions registered with an arity that their implementation does not have. -/
inductive EvalError where
  | divisionByZero
  | overflow
  | invalid (cause : Signal)
  | notImplemented (reason : Unimplemented)
  | notFinite
  | argumentCount (expected given : Nat)
  | missingArgument (index : Nat)
deriving DecidableEq, Repr

def Signal.name : Signal → String
  | overflow => "Overflow"
  | invalidOperation => "InvalidOperation"
  | divisionByZero => "DivisionByZero"

namespace EvalError

def ofSignal : Signal → EvalError
  | .overflow => overflow
  | cause => invalid cause

def ofArithmetic : ArithmeticError → EvalError
  | .zeroDivisor => divisionByZero
  | .signal cause => ofSignal cause

def message : EvalError → String
  | divisionByZero => "division by zero"
  | overflow => "numeric overflow"
  | invalid cause => "invalid decimal operation: " ++ cause.name
  | notImplemented reason => reason.message
  | notFinite => "sin is only defined for finite values"
  | argumentCount expected given =>
    if expected < given then s!"too many values to unpack (expected {expected})"
    else s!"not enough values to unpack (expected {expected}, got {given})"
  | missingArgument _ => "list index out of range"

/-- The code reported to clients; absent for what is not a calculator error. -/
def code? : EvalError → Option String
  | divisionByZero => some "calc.division_by_zero"
  | overflow => some "calc.overflow"
  | invalid _ => some "calc.evaluation_error"
  | notImplemented _ => some "calc.not_implemented"
  | notFinite | argumentCount _ _ | missingArgument _ => none

end EvalError

end Reckoner
