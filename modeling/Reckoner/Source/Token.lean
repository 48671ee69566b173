import Reckoner.Text.Identifier

/-! Tokens of the expression language and of the larger language around it. The larger one is
scanned in full, since a line is told apart as foreign or as malformed only by its grammar. -/

namespace Reckoner.Source

/-- A place in the text: the line, and the column counted in bytes and in characters. -/
structure Position where
  line : Nat
  byteColumn : Nat
  column : Nat
deriving DecidableEq, Repr

namespace Position

def start : Position := ⟨0, 0, 0⟩

def step (p : Position) (c : Char) : Position :=
  if c = '\n' then ⟨p.line + 1, 0, 0⟩ else ⟨p.line, p.byteColumn + c.utf8Size, p.column + 1⟩

def advance (p : Position) (cs : List Char) : Position := cs.foldl step p

end Position

inductive NumberKind where
  | integer | real | imaginary
deriving DecidableEq, Repr

/-- What the letters before the quotes of a string say. -/
structure StringForm where
  isBytes : Bool
  isRaw : Bool
  hasFields : Bool
deriving DecidableEq, Repr

/-- The words that are no identifiers. Those that only begin statements are not told apart. -/
inductive Keyword where
  | kwAnd | kwOr | kwNot | kwIn | kwIs | kwIf | kwElse | kwFor | kwAsync | kwAwait | kwLambda
  | kwYield | kwFrom | kwNone | kwTrue | kwFalse | statement
deriving DecidableEq, Repr

def Keyword.ofText? : String → Option Keyword
  | "and" => some kwAnd
  | "or" => some kwOr
  | "not" => some kwNot
  | "in" => some kwIn
  | "is" => some kwIs
  | "if" => some kwIf
  | "else" => some kwElse
  | "for" => some kwFor
  | "async" => some kwAsync
  | "await" => some kwAwait
  | "lambda" => some kwLambda
  | "yield" => some kwYield
  | "from" => some kwFrom
  | "None" => some kwNone
  | "True" => some kwTrue
  | "False" => some kwFalse
  | "as" | "assert" | "break" | "class" | "continue" | "def" | "del" | "elif" | "except"
  | "finally" | "global" | "import" | "nonlocal" | "pass" | "raise" | "return" | "try"
  | "while" | "with" => some statement
  | _ => none

/-- Operators and delimiters; those that no expression contains are not told apart. -/
inductive Mark where
  | plus | minus | star | slash | doubleStar | doubleSlash | percent | atSign | shiftLeft | shiftRight
  | ampersand | bar | caret | tilde | less | greater | lessEqual | greaterEqual | equal | notEqual
  | openParen | closeParen | openBracket | closeBracket | openBrace | closeBrace
  | comma | colon | colonEqual | dot | ellipsis | assign | other
deriving DecidableEq, Repr

/-- The mark at the start of a text and its length, the longest one there is. -/
def Mark.longest? : List Char → Option (Mark × Nat)
  | '*' :: '*' :: '=' :: _ => some (other, 3)
  | '/' :: '/' :: '=' :: _ => some (other, 3)
  | '>' :: '>' :: '=' :: _ => some (other, 3)
  | '<' :: '<' :: '=' :: _ => some (other, 3)
  | '.' :: '.' :: '.' :: _ => some (ellipsis, 3)
  | '*' :: '*' :: _ => some (doubleStar, 2)
  | '/' :: '/' :: _ => some (doubleSlash, 2)
  | '>' :: '>' :: _ => some (shiftRight, 2)
  | '<' :: '<' :: _ => some (shiftLeft, 2)
  | '<' :: '>' :: _ => some (other, 2)
  | '-' :: '>' :: _ => some (other, 2)
  | '<' :: '=' :: _ => some (lessEqual, 2)
  | '>' :: '=' :: _ => some (greaterEqual, 2)
  | '=' :: '=' :: _ => some (equal, 2)
  | '!' :: '=' :: _ => some (notEqual, 2)
  | ':' :: '=' :: _ => some (colonEqual, 2)
  | c :: '=' :: _ =>
    if c ∈ ['+', '-', '*', '/', '%', '&', '|', '^', '@'] then some (other, 2) else single c
  | c :: _ => single c
  | [] => none
where
  single (c : Char) : Option (Mark × Nat) :=
    match c with
    | '+' => some (plus, 1)
    | '-' => some (minus, 1)
    | '*' => some (star, 1)
    | '/' => some (slash, 1)
    | '%' => some (percent, 1)
    | '@' => some (atSign, 1)
    | '&' => some (ampersand, 1)
    | '|' => some (bar, 1)
    | '^' => some (caret, 1)
    | '~' => some (tilde, 1)
    | '<' => some (less, 1)
    | '>' => some (greater, 1)
    | '(' => some (openParen, 1)
    | ')' => some (closeParen, 1)
    | '[' => some (openBracket, 1)
    | ']' => some (closeBracket, 1)
    | '{' => some (openBrace, 1)
    | '}' => some (closeBrace, 1)
    | ',' => some (comma, 1)
    | ':' => some (colon, 1)
    | '.' => some (dot, 1)
    | '=' => some (assign, 1)
    | _ => some (other, 1)

/-- The closing bracket of an opening one, as characters. -/
def Mark.closerOf : Char → Char
  | '(' => ')'
  | '[' => ']'
  | _ => '}'

/-- Why no further token can be scanned. -/
inductive ScanFault where
  | nullCharacter
  | malformed
  | unmatched (closing : Char)
  | mismatched (closing opening : Char) (openingLine : Option Nat)
deriving DecidableEq, Repr

/-- The last token of a text is `finish`, or `unclosed` at the innermost open bracket, or
`fault`. -/
inductive TokenKind where
  | name (id : String)
  | keyword (word : Keyword)
  | number (kind : NumberKind) (text : List Char)
  | string (form : StringForm) (body : List Char)
  | mark (mark : Mark)
  | newline
  | finish
  | unclosed (opening : Char)
  | fault (cause : ScanFault)
deriving DecidableEq, Repr

structure Token where
  kind : TokenKind
  position : Position
deriving DecidableEq, Repr

end Reckoner.Source
