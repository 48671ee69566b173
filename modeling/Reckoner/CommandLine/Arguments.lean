import Reckoner.Evaluator.Basic
import Reckoner.Settings
import Reckoner.Text.NumberText

/-! Arguments of the command line. Options have long names, which may be cut short as long as one
option fits, and some have a letter; letters may be run together. A value is attached to its option
or is the next word, if that looks like neither an option nor the separator `--`. There are no
positional arguments. -/

namespace Reckoner.CommandLine

inductive Flag where
  | help | expression | rounding | displayDigits | config | verbose
deriving DecidableEq, Repr

/-- Why the arguments start nothing: help is wanted, or they are wrong. -/
inductive Exit where
  | help
  | usage
deriving DecidableEq, Repr

def Exit.code : Exit → Nat
  | help => 0
  | usage => 2

namespace Flag

def all : List Flag := [help, expression, rounding, displayDigits, config, verbose]

def longName : Flag → String
  | help => "--help"
  | expression => "--expression"
  | rounding => "--rounding"
  | displayDigits => "--display-digits"
  | config => "--config"
  | verbose => "--verbose"

def letter? : Flag → Option Char
  | help => some 'h'
  | expression => some 'e'
  | verbose => some 'v'
  | rounding | displayDigits | config => none

def takesValue : Flag → Bool
  | help | verbose => false
  | expression | rounding | displayDigits | config => true

def ofLetter? (c : Char) : Option Flag := all.find? (·.letter? == some c)

/-- The option of a full spelling, and whether this is its letter. -/
def ofSpelling? (cs : List Char) : Option (Flag × Bool) :=
  match all.find? (·.longName.toList == cs) with
  | some flag => some (flag, false)
  | none =>
    match cs with
    | ['-', c] => (ofLetter? c).map (·, true)
    | _ => none

/-- The options whose long names start with `cs`. -/
def ofStart (cs : List Char) : List Flag := all.filter (cs.isPrefixOf ·.longName.toList)

end Flag

/-- A classified word. The value attached to an option comes without the equals sign. -/
inductive Word where
  | separator
  | value (text : String)
  | option (flag : Flag) (isLetter : Bool) (attached : Option (List Char))
  | unknown
deriving DecidableEq, Repr

def Word.isOption : Word → Bool
  | option _ _ _ => true
  | _ => false

def isDigit (c : Char) : Bool := (Text.decimalDigit? c).isSome

/-- Whether a word after its minus is a plain number, perhaps with a line feed after it. -/
def isNumber (cs : List Char) : Bool :=
  let cs := if cs.getLast? == some '\n' then cs.dropLast else cs
  match cs.dropWhile isDigit with
  | [] => !cs.isEmpty
  | '.' :: fraction => !fraction.isEmpty && fraction.all isDigit
  | _ => false

/-- Words with a minus that spell no option: negative numbers and words with a space are values. -/
def otherWord (text : String) : Word :=
  if isNumber (text.toList.drop 1) || text.contains ' ' then .value text else .unknown

def classify (text : String) : Except Exit Word :=
  match text.toList with
  | '-' :: second :: more =>
    let cs := text.toList
    let name := cs.takeWhile (· != '=')
    let attached := (cs.dropWhile (· != '=')).tail?
    match Flag.ofSpelling? cs, Flag.ofSpelling? name with
    | some (flag, isLetter), _ => .ok (.option flag isLetter none)
    | none, some (flag, isLetter) => .ok (.option flag isLetter attached)
    | none, none =>
      if second = '-' then
        match Flag.ofStart name with
        | [] => .ok (otherWord text)
        | [flag] => .ok (.option flag false attached)
        | _ => .error .usage
      else
        match Flag.ofLetter? second with
        | some flag => .ok (.option flag true (some more))
        | none => .ok (otherWord text)
  | _ => .ok (.value text)

/-- Classify the words up to the separator; after it, all are values. -/
def classifyAll : List String → Except Exit (List Word)
  | [] => .ok []
  | word :: rest =>
    if word = "--" then .ok (.separator :: rest.map .value)
    else do
      let word ← classify word
      return word :: (← classifyAll rest)

/-- The value of an option. A separator that is attached to its option is dropped. -/
inductive Operand where
  | text (value : String)
  | dropped
deriving DecidableEq, Repr

def Operand.ofText (text : String) : Operand := if text = "--" then dropped else .text text

structure Arguments where
  expression : Option Operand := none
  rounding : Option Rounding := none
  displayDigits : Option (Option Int) := none
  config : Option Operand := none
  verbose : Bool := false
deriving DecidableEq, Repr

namespace Arguments

/-- Take in the value of an option; a later value replaces an earlier one. -/
def set (found : Arguments) (flag : Flag) (operand : Operand) : Except Exit Arguments :=
  match flag, operand with
  | .expression, _ => .ok { found with expression := some operand }
  | .config, _ => .ok { found with config := some operand }
  | .rounding, .dropped => .ok { found with rounding := none }
  | .rounding, .text name =>
    match Rounding.ofName? name with
    | some mode => .ok { found with rounding := some mode }
    | none => .error .usage
  | .displayDigits, .dropped => .ok { found with displayDigits := some none }
  | .displayDigits, .text digits =>
    match Text.readInteger? digits with
    | some n => .ok { found with displayDigits := some (some n) }
    | none => .error .usage
  | .help, _ | .verbose, _ => .error .usage

/-- Take in an option without a value. -/
def mark (found : Arguments) : Flag → Except Exit Arguments
  | .help => .error .help
  | .verbose => .ok { found with verbose := true }
  | _ => .error .usage

/-- Letters run together: those without a value, the last option, and what is attached to it. -/
def runTogether (flag : Flag) : List Char → Except Exit (List Flag × Flag × Option String)
  | [] => if flag.takesValue then .ok ([], flag, some "") else .error .usage
  | c :: rest =>
    if flag.takesValue then .ok ([], flag, some (String.ofList (c :: rest)))
    else
      match Flag.ofLetter? c, rest with
      | none, _ => .error .usage
      | some next, [] => .ok ([flag], next, none)
      | some next, _ => do
        let (before, last, value) ← runTogether next rest
        return (flag :: before, last, value)

/-- The options in a word. -/
def options (flag : Flag) (isLetter : Bool) :
    Option (List Char) → Except Exit (List Flag × Flag × Option String)
  | none => .ok ([], flag, none)
  | some attached =>
    if isLetter then runTogether flag attached
    else if flag.takesValue then .ok ([], flag, some (String.ofList attached))
    else .error .usage

/-- Take in a word before `next`, and tell whether that was the value of its option. -/
def take (found : Arguments) (word : Word) (next : Option Word) : Except Exit (Arguments × Bool) :=
  match word with
  | .option flag isLetter attached => do
    let (before, last, value) ← options flag isLetter attached
    if last.takesValue then
      let (text, follows) ← match value, next with
        | some text, _ => pure (text, false)
        | none, some (.value text) => pure (text, true)
        | none, _ => .error .usage
      let found ← before.foldlM mark found
      return (← found.set last (.ofText text), follows)
    else return (← (before ++ [last]).foldlM mark found, false)
  | _ => .ok (found, false)

/-- Take in words from left to right, the first of them not if it has been `used` as a value.
Words that are neither options nor their values are `spare`; they are refused last. -/
def consume (found : Arguments) (spare used : Bool) : List Word → Except Exit Arguments
  | [] => if spare then .error .usage else .ok found
  | word :: rest =>
    if used then consume found spare false rest
    else do
      let (found, follows) ← take found word rest.head?
      consume found (spare || !word.isOption) follows rest

def read (words : List String) : Except Exit Arguments := do
  consume {} false false (← classifyAll words)

end Arguments

end Reckoner.CommandLine
