import Reckoner.CommandLine.Invocation

/-! The calculator as a program: it reads its configuration and its input, and prints. -/

namespace Reckoner.CommandLine

def usage : String :=
  "usage: calq [-h] [-e EXPRESSION] [--rounding MODE] [--display-digits N] [--config PATH] [-v]"

/-- The text of the named configuration, if there is such a file, or the standard one. -/
def configurationText (arguments : Arguments) : IO (Option String) := do
  match arguments.config with
  | some (.text path) =>
    match ← (IO.FS.readFile path).toBaseIO with
    | .ok text => return some text
    | .error (.noFileOrDirectory ..) => return none
    | .error error => throw error
  | _ => return some Configuration.standard

def describe : StartError → String
  | .exit _ => usage
  | .unusable flag => flag.longName ++ " has no value"
  | .unreadable _ => "the configuration cannot be read"
  | .settings .notMapping => "a section of the configuration is no mapping"
  | .settings .infiniteNumber => "a number in the configuration is infinite"

def print (output : Output) : IO Unit := do
  let out ← IO.getStdout
  out.putStr output.out
  out.flush
  let err ← IO.getStderr
  err.putStr output.err
  err.flush

/-- A line without the characters that end it. -/
def withoutEnd (line : String) : String :=
  let cs := line.toList.reverse
  let cs := if cs.head? == some '\n' then cs.tail else cs
  String.ofList (if cs.head? == some '\r' then cs.tail else cs).reverse

/-- Read and answer lines until the input ends. -/
partial def converse (ev : Evaluator) : IO UInt32 := do
  print { out := Loop.prompt }
  match ← (do (← IO.getStdin).getLine : IO String).toBaseIO with
  | .error error =>
    print { err := toString error ++ "\n" }
    return 1
  | .ok line =>
    if line.isEmpty then
      print { out := "\n" }
      return 0
    else
      match Loop.step ev (withoutEnd line) with
      | .ok output =>
        print output
        converse ev
      | .error error => throw (IO.userError error.message)

def start (words : List String) : IO UInt32 := do
  match Arguments.read words with
  | .error .help =>
    print { out := usage ++ "\n" }
    return UInt32.ofNat Exit.help.code
  | .error .usage =>
    print { err := usage ++ "\n" }
    return UInt32.ofNat Exit.usage.code
  | .ok arguments =>
    match Invocation.of arguments (← configurationText arguments) with
    | .error (.exit cause) =>
      print { err := usage ++ "\n" }
      return UInt32.ofNat cause.code
    | .error error => throw (IO.userError (describe error))
    | .ok invocation =>
      match invocation.expression with
      | none => converse invocation.evaluator
      | some operand =>
        match single invocation.evaluator operand with
        | .ok (output, succeeded) =>
          print output
          return UInt32.ofNat (exitCode succeeded)
        | .error error => throw (IO.userError error.message)

end Reckoner.CommandLine

def main (words : List String) : IO UInt32 := Reckoner.CommandLine.start words
