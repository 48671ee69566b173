import Reckoner.Evaluator.Functions
import Reckoner.Expr.Printer

/-! Reduction of expressions. Symbols stay in place inside arithmetic, everything numeric is
computed from left to right, and the first failure ends the whole evaluation. -/

namespace Reckoner

/-- How many digits decimals keep; the one setting there is keeps a hundred. -/
inductive Precision where
  | decent
deriving DecidableEq, Repr

def Precision.digits : Precision → Nat
  | decent => 100

theorem Precision.digits_pos (p : Precision) : 0 < p.digits := by
  cases p; decide

structure Evaluator where
  precision : Precision := .decent
  rounding : Rounding := .nearest
  displayDigits : Int := defaultDisplayDigits
  functions : Registry := .standard

namespace Evaluator

def context (ev : Evaluator) : Context :=
  { precision := ev.precision.digits
    rounding := ev.rounding
    precision_pos := ev.precision.digits_pos }

mutual

def evaluate (ev : Evaluator) : Expr → Except EvalError Expr
  | .constant value => .ok (.constant value)
  | .symbol name => .ok (.symbol name)
  | .neg operand => do
    match ← ev.evaluate operand with
    | .constant value => .constant <$> (value.neg ev.context).mapError .ofSignal
    | rest => return .neg rest
  | .binary op left right => do
    let left ← ev.evaluate left
    let right ← ev.evaluate right
    match left, right with
    | .constant a, .constant b => .constant <$> (op.apply ev.context a b).mapError .ofArithmetic
    | _, _ => return .binary op left right
  | .apply callee args => do
    match ← ev.evaluate callee with
    | .symbol name =>
      let function ← (ev.functions.lookup name args.length).mapError .notImplemented
      let values ← ev.evaluateArgs name args
      .constant <$> function.implementation ev.context values
    | _ => .error (.notImplemented .calleeNotNamed)

/-- The values of the arguments of a function; one that stays symbolic is refused. -/
def evaluateArgs (ev : Evaluator) (name : String) : List Expr → Except EvalError (List Value)
  | [] => .ok []
  | first :: rest => do
    match ← ev.evaluate first with
    | .constant value => return value :: (← ev.evaluateArgs name rest)
    | _ => .error (.notImplemented (.symbolicArgument name))

end

def render (ev : Evaluator) (e : Expr) : Except DisplayError String :=
  e.print ev.displayDigits

end Evaluator

end Reckoner
