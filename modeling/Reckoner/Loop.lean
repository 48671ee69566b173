import Reckoner.Evaluator.Run

/-! The interactive loop. Each line that is not blank is run on its own; its result goes to one
channel and what is wrong with it to the other. -/

namespace Reckoner

/-- Text for the two channels. -/
structure Output where
  out : String := ""
  err : String := ""
deriving DecidableEq, Repr

namespace Output

def append (first second : Output) : Output := ⟨first.out ++ second.out, first.err ++ second.err⟩

instance : Append Output := ⟨append⟩

/-- A complaint, each of its lines marked as an error. -/
def ofComplaint (complaint : Complaint) : Output :=
  { err := String.join (complaint.lines.map fun line => "Error: " ++ line ++ "\n") }

end Output

namespace Evaluator

/-- Run a source for the channels: what is printed, and whether there was a result. A failure
that has no complaint is passed on. -/
def respond (ev : Evaluator) (source : String) : Except RunError (Output × Bool) :=
  match ev.run source with
  | .ok (_, text) => .ok ({ out := text ++ "\n" }, true)
  | .error error =>
    match error.complaint? with
    | some complaint => .ok (.ofComplaint complaint, false)
    | none => .error error

end Evaluator

namespace Loop

def prompt : String := "calq> "

/-- What a read yields: a line, the end of the input or an interrupt, or a broken channel. -/
inductive Event where
  | line (text : String)
  | closed
  | broken
deriving DecidableEq, Repr

/-- The lines of a text without their line feeds; what follows the last of these is a line only
if it is not empty. -/
def linesOf (text : String) : List Event :=
  let lines := text.splitOn "\n"
  let kept := if lines.getLast? = some "" then lines.dropLast else lines
  kept.map .line

/-- What is printed after a line. -/
def step (ev : Evaluator) (line : String) : Except RunError Output :=
  if (Text.strip line).isEmpty then .ok {} else (·.1) <$> ev.respond line

/-- The output after each read, and whether the channel held until the end. Input that runs out
is closed. -/
def run (ev : Evaluator) : List Event → Except RunError (List Output × Bool)
  | [] | .closed :: _ => .ok ([{ out := "\n" }], true)
  | .broken :: _ => .ok ([{}], false)
  | .line text :: rest => do
    let output ← step ev text
    let (outputs, held) ← run ev rest
    return (output :: outputs, held)

/-- All that is printed, with a prompt before each read. -/
def screen (outputs : List Output) : Output :=
  outputs.foldl (fun shown output => shown ++ { out := prompt } ++ output) {}

end Loop

end Reckoner
