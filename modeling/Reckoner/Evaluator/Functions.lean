import Reckoner.Evaluator.Error
import Reckoner.Expr.Basic
import Reckoner.Sine.Polynomial

/-! Named functions and their registry. A registry is searched by name; of two entries with one
name the later definition has replaced the earlier. -/

namespace Reckoner

/-- What a function does with its arguments in a context. -/
abbrev Implementation := Context → List Value → Except EvalError Value

structure NamedFunction where
  name : String
  arity : Nat
  implementation : Implementation
  summary : String := ""

namespace Implementation

/-- The sine of a decimal; exact arguments are refused, since their sine is not a rational. -/
def sine : Implementation := fun ctx args =>
  match args with
  | [.decimal (.finite x)] =>
    match Sine.sine ctx x with
    | .ok result => .ok (.decimal (.finite result))
    | .error cause => .error (.ofSignal cause)
  | [.decimal _] => .error .notFinite
  | [.exact _] => .error (.notImplemented .exactSine)
  | _ => .error (.argumentCount 1 args.length)

/-- An argument by its position. -/
def argument (args : List Value) (index : Nat) : Except EvalError Value :=
  match args[index]? with
  | some value => .ok value
  | none => .error (.missingArgument index)

def first : Implementation := fun _ args => argument args 0

def negation : Implementation := fun ctx args => do
  let value ← argument args 0
  (value.neg ctx).mapError .ofSignal

def zero : Implementation := fun _ _ => .ok (.exact 0)

/-- An arithmetic operation on the first two arguments. -/
def arithmetic (op : BinaryOp) : Implementation := fun ctx args => do
  let left ← argument args 0
  let right ← argument args 1
  (op.apply ctx left right).mapError .ofArithmetic

end Implementation

abbrev Registry := List NamedFunction

namespace Registry

def standard : Registry :=
  [⟨"sin", 1, .sine, "Sine of a decimal angle in radians"⟩]

def named? (registry : Registry) (name : String) : Option NamedFunction :=
  List.find? (·.name == name) registry

/-- Take a function out. -/
def undefine (registry : Registry) (name : String) : Registry :=
  registry.filter (·.name != name)

/-- Put a function in, in place of any other of its name. -/
def define (registry : Registry) (function : NamedFunction) : Registry :=
  registry.undefine function.name ++ [function]

theorem named?_define_self (registry : Registry) (function : NamedFunction) :
    (registry.define function).named? function.name = some function := by
  have absent : List.find? (·.name == function.name) (registry.undefine function.name) = none := by
    simp [undefine]
  simp [define, named?, List.find?_append, absent]

/-- The function of a name, if it takes that number of arguments. -/
def lookup (registry : Registry) (name : String) (given : Nat) : Except Unimplemented NamedFunction :=
  match registry.named? name with
  | none => .error (.unknownFunction name)
  | some function =>
    if function.arity = given then .ok function
    else .error (.wrongArity name function.arity given)

end Registry

end Reckoner
