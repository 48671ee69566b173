import Reckoner.Expr.Basic
import Reckoner.Source.Line
import Reckoner.Source.LongInteger
import Reckoner.Text.Blank

/-! Reading of expressions. A line is recognised in the larger language first and then converted;
everything outside the expression language is an issue, and all issues of a line are reported
together in the order of their columns. -/

namespace Reckoner.Source

inductive IssueCause where
  | notText
  | empty
  | line (fault : LineFault)
  | leadingZeros
  | badNumber (text : String)
  | tooLarge (text : String)
  | notNumeric
  | operator (symbol : String)
  | starredArgument
  | keywordArgument
  | foreign (construct : Construct)
deriving DecidableEq, Repr

/-- A problem at a column; columns count bytes of the line of the offending part. -/
structure Issue where
  column : Nat
  cause : IssueCause
deriving DecidableEq, Repr

namespace LineFault

def message : LineFault → String
  | nullCharacter => "source code string cannot contain null bytes"
  | invalid => "invalid syntax"
  | neverClosed opening => s!"'{opening}' was never closed"
  | unmatched closing => s!"unmatched '{closing}'"
  | mismatched closing opening none =>
    s!"closing parenthesis '{closing}' does not match opening parenthesis '{opening}'"
  | mismatched closing opening (some number) =>
    s!"closing parenthesis '{closing}' does not match opening parenthesis '{opening}' on line {number}"

end LineFault

namespace Issue

def message (issue : Issue) : String :=
  match issue.cause with
  | .notText => "expression must be a string"
  | .empty => "empty expression"
  | .line fault => fault.message
  | .leadingZeros => "invalid number: leading zeros"
  | .badNumber text => s!"invalid number '{text}'"
  | .tooLarge text => s!"number '{text}' is too large"
  | .notNumeric => "only numeric literals are allowed"
  | .operator symbol => s!"operator '{symbol}' is not supported"
  | .starredArgument => "starred arguments are not supported"
  | .keywordArgument => "keyword arguments are not supported"
  | .foreign construct => s!"unsupported syntax '{construct.name}'"

/-- The message with its place, columns counted from one. -/
def report (issue : Issue) : String := s!"{issue.message} at column {issue.column + 1}"

/-- Whether the line was no line of the larger language. -/
def rejectsLine (issue : Issue) : Bool :=
  match issue.cause with
  | .line _ => true
  | _ => false

end Issue

/-- The issues of a line that is no expression. -/
abbrev Issues := List Issue

def Issues.message (issues : Issues) : String :=
  String.intercalate "; " (issues.map Issue.report)

def parseErrorCode : String := "calc.parse_error"

/-- The numbers of the language: an integer part without leading zeros, a point with any digits,
an exponent without a sign after a small letter. -/
def Numeral.isPlain (cs : List Char) : Bool :=
  let whole := cs.takeWhile Char.isDigit
  let rest := cs.dropWhile Char.isDigit
  let rest :=
    match rest with
    | '.' :: more => more.dropWhile Char.isDigit
    | _ => rest
  let exponentFits :=
    match rest with
    | [] => true
    | 'e' :: digits => !digits.isEmpty && digits.all Char.isDigit
    | _ => false
  !whole.isEmpty && (whole.head? != some '0' || whole.length == 1) && exponentFits

def UnaryOp.symbol : UnaryOp → String
  | minus => "-"
  | plus => "unary +"
  | invert => "~"
  | logicalNot => "not"

def InfixOp.symbol : InfixOp → String
  | add => "+"
  | sub => "-"
  | mul => "*"
  | div => "/"
  | power => "**"
  | modulo => "%"
  | floorDiv => "//"
  | matMul => "@"
  | shiftLeft => "<<"
  | shiftRight => ">>"
  | bitAnd => "&"
  | bitOr => "|"
  | bitXor => "^"

/-- The arithmetic of the expression language among the binary operators. -/
def InfixOp.arithmetic? : InfixOp → Option BinaryOp
  | add => some .add
  | sub => some .sub
  | mul => some .mul
  | div => some .div
  | _ => none

/-- What stands for a part with an issue while the rest is converted. -/
def placeholder : Expr := .symbol "?"

/-- A converted part with its issues in the order in which they were met. -/
abbrev Converted := Expr × Issues

def refuse (column : Nat) (cause : IssueCause) : Converted := (placeholder, [⟨column, cause⟩])

/-- The number of a literal: integers exact, all others rounded once in the context. -/
def convertNumber (ctx : Context) (column : Nat) (kind : NumberKind) (text : List Char) :
    Converted :=
  let shown := String.ofList text
  match kind with
  | .imaginary => refuse column .notNumeric
  | .integer =>
    if Numeral.isPlain text then (.constant (.exact (readDigits text : Int)), [])
    else refuse column (.badNumber shown)
  | .real =>
    if !Numeral.isPlain text then refuse column (.badNumber shown)
    else
      match Numeral.read? text with
      | none => refuse column (.badNumber shown)
      | some numeral =>
        match (numeral.toDecimal false).roundIn ctx with
        | .ok d => (.constant (.decimal (.finite d)), [])
        | .error _ => refuse column (.tooLarge shown)

/-- A name, or the long integer that was hidden at its column. -/
def convertName (hidden : LongIntegers) (column : Nat) (id : String) : Converted :=
  match hidden.find? (·.1 == column) with
  | none => (.symbol id, [])
  | some (_, digits) =>
    if Numeral.isPlain digits then (.constant (.exact (readDigits digits : Int)), [])
    else refuse column .leadingZeros

mutual

/-- Convert a tree; operands come before their operator, and arguments before keywords. -/
def convert (ctx : Context) (hidden : LongIntegers) : Surface → Converted
  | .number column kind text => convertNumber ctx column kind text
  | .literal column => refuse column .notNumeric
  | .name column id => convertName hidden column id
  | .unary column op operand =>
    let (value, issues) := convert ctx hidden operand
    match op with
    | .minus => (.neg value, issues)
    | _ => (placeholder, issues ++ [⟨column, .operator op.symbol⟩])
  | .binary column op left right =>
    let (leftValue, leftIssues) := convert ctx hidden left
    let (rightValue, rightIssues) := convert ctx hidden right
    let issues := leftIssues ++ rightIssues
    match op.arithmetic? with
    | some arithmetic => (.binary arithmetic leftValue rightValue, issues)
    | none => (placeholder, issues ++ [⟨column, .operator op.symbol⟩])
  | .call _ callee args keywordColumns =>
    let (function, calleeIssues) := convert ctx hidden callee
    let (values, argIssues) := convertAll ctx hidden args
    let keywordIssues := keywordColumns.map (⟨·, .keywordArgument⟩)
    (.apply function values, calleeIssues ++ argIssues ++ keywordIssues)
  | .starred column => refuse column .starredArgument
  | .foreign column construct => refuse column (.foreign construct)

def convertAll (ctx : Context) (hidden : LongIntegers) : List Surface → List Expr × Issues
  | [] => ([], [])
  | first :: rest =>
    let (value, issues) := convert ctx hidden first
    let (values, more) := convertAll ctx hidden rest
    (value :: values, issues ++ more)

end

/-- Order by column; equal columns keep their order. -/
def sortIssues (issues : Issues) : Issues := issues.mergeSort (·.column ≤ ·.column)

/-- Read an expression, with its decimal literals rounded in a context. -/
def read (ctx : Context) (source : String) : Except Issues Expr :=
  let text := Text.trimBy Text.isBlank source.toList
  if text.isEmpty then .error [⟨0, .empty⟩]
  else
    let (shown, hidden) := hideLongIntegers text
    match readLine shown with
    | .error misfit => .error [⟨misfit.column, .line misfit.fault⟩]
    | .ok surface =>
      let (value, issues) := convert ctx hidden surface
      if issues.isEmpty then .ok value else .error (sortIssues issues)

end Reckoner.Source
