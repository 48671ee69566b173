import Reckoner.Source.Lexeme
import Reckoner.Text.Blank

/-! Bodies of strings. A string belongs to no expression of the calculator, but a line with a
malformed one is no line at all: escapes have to be complete, and the expressions in the fields
of a string with fields have to be expressions. -/

namespace Reckoner.Source.StringBody

/-- Whether `count` hexadecimal digits begin a text, and what follows them. -/
def hexDigits? (count : Nat) (cs : List Char) : Option (List Char × List Char) :=
  let digits := cs.take count
  if digits.length = count && digits.all isHexDigit then some (digits, cs.drop count) else none

def hexNumber (digits : List Char) : Nat :=
  digits.foldl
    (fun n c =>
      16 * n + (if c.isDigit then c.toNat - 48 else if 'a' ≤ c then c.toNat - 87 else c.toNat - 55))
    0

def isNameChar (c : Char) : Bool := c.isAlphanum || c = ' ' || c = '-'

/-- Whether every escape is complete; `wide` allows those of code points and character names. -/
def escapesComplete (wide : Bool) : (fuel : Nat) → List Char → Bool
  | 0, _ => false
  | _ + 1, [] => true
  | fuel + 1, '\\' :: 'x' :: rest =>
    match hexDigits? 2 rest with
    | some (_, rest) => escapesComplete wide fuel rest
    | none => false
  | fuel + 1, '\\' :: c :: rest =>
    if wide && (c = 'u' || c = 'U') then
      match hexDigits? (if c = 'u' then 4 else 8) rest with
      | some (digits, rest) => hexNumber digits < 0x110000 && escapesComplete wide fuel rest
      | none => false
    else if wide && c = 'N' then
      match rest with
      | '{' :: more =>
        let name := more.takeWhile isNameChar
        match more.dropWhile isNameChar with
        | '}' :: rest => !name.isEmpty && escapesComplete wide fuel rest
        | _ => false
      | _ => false
    else escapesComplete wide fuel rest
  | fuel + 1, _ :: rest => escapesComplete wide fuel rest

/-- What an expression in a field is read up to: the depth of brackets, and the quotes that are
open, single or triple. -/
structure FieldState where
  brackets : List Char := []
  quote : Option (Char × Bool) := none

/-- The expression at the start of a field and what follows it. -/
def fieldExpression? : (fuel : Nat) → FieldState → List Char → Option (List Char × List Char)
  | 0, _, _ => none
  | _ + 1, _, [] => none
  | fuel + 1, state, c :: rest =>
    let go (count : Nat) (state : FieldState) : Option (List Char × List Char) :=
      (fieldExpression? fuel state ((c :: rest).drop count)).map fun (text, left) =>
        ((c :: rest).take count ++ text, left)
    let triple := rest.head? = some c && rest.tail.head? = some c
    if c = '\\' then none
    else
      match state.quote with
      | some (quote, isTriple) =>
        if c = quote then
          if !isTriple then go 1 { state with quote := none }
          else if triple then go 3 { state with quote := none }
          else go 1 state
        else go 1 state
      | none =>
        if isQuote c then
          if triple then go 3 { state with quote := some (c, true) }
          else go 1 { state with quote := some (c, false) }
        else if c = '(' ∨ c = '[' ∨ c = '{' then go 1 { state with brackets := c :: state.brackets }
        else if c = '#' then none
        else if state.brackets.isEmpty then
          if (c = '!' ∨ c = '=' ∨ c = '<' ∨ c = '>') ∧ rest.head? = some '=' then go 2 state
          else if c = '!' ∨ c = ':' ∨ c = '}' ∨ c = '=' then some ([], c :: rest)
          else if c = ')' ∨ c = ']' then none
          else go 1 state
        else if c = ')' ∨ c = ']' ∨ c = '}' then
          match state.brackets with
          | opening :: outer =>
            if Mark.closerOf opening = c then go 1 { state with brackets := outer } else none
          | [] => none
        else go 1 state

/-- The literal text up to a field, the end of a nested text, or the end. Doubled braces stand
for braces in an outer text only. -/
def literalPart? (raw : Bool) (nested : Bool) : (fuel : Nat) → List Char →
    Option (List Char × List Char)
  | 0, _ => none
  | _ + 1, [] => some ([], [])
  | fuel + 1, c :: rest =>
    let keep (count : Nat) : Option (List Char × List Char) :=
      (literalPart? raw nested fuel ((c :: rest).drop count)).map fun (text, left) =>
        ((c :: rest).take count ++ text, left)
    if !raw && c = '\\' then
      match rest with
      | 'N' :: '{' :: more => keep (4 + (more.takeWhile (· ≠ '}')).length)
      | d :: more =>
        if d ≠ '{' ∧ d ≠ '}' then keep 2
        else if !nested && more.head? = some d then keep 3
        else some ([c], rest)
      | [] => keep 1
    else if c = '{' ∨ c = '}' then
      if !nested && rest.head? = some c then keep 2
      else if !nested && c = '}' then none
      else some ([], c :: rest)
    else keep 1

/-- A conversion is one of three letters. -/
def afterConversion? (cs : List Char) : Option (List Char) :=
  match cs with
  | '!' :: c :: rest =>
    if (c = 's' ∨ c = 'r' ∨ c = 'a') ∧ (rest.head? = some '}' ∨ rest.head? = some ':') then some rest
    else none
  | _ => some cs

def isFieldBlank (c : Char) : Bool := c = ' ' || c = '\t' || c = '\n' || c = '\x0c'

/-- The expressions of the fields of a text, in order; `depth` is how much deeper fields may
nest in formats. The text left begins with the brace that ends a nested text. -/
def fields? (raw : Bool) : (fuel : Nat) → (depth : Nat) → (nested : Bool) → List Char →
    Option (List (List Char) × List Char)
  | 0, _, _, _ => none
  | fuel + 1, depth, nested, cs => do
    let (text, rest) ← literalPart? raw nested (cs.length + 1) cs
    if !raw && !escapesComplete true (text.length + 1) text then none
    else
      match rest with
      | '{' :: body =>
        if depth = 0 then none
        else
          let (expression, rest) ← fieldExpression? (body.length + 1) {} body
          if expression.all isFieldBlank then none
          else
            let rest :=
              match rest with
              | '=' :: more => more.dropWhile Text.isAsciiBlank
              | _ => rest
            let rest ← afterConversion? rest
            let (inner, rest) ←
              match rest with
              | ':' :: format => fields? raw fuel (depth - 1) true format
              | _ => some ([], rest)
            match rest with
            | '}' :: rest =>
              let (others, rest) ← fields? raw fuel depth nested rest
              return (expression :: inner ++ others, rest)
            | _ => none
      | _ => return ([], rest)

/-- The expressions in the fields of a string, or nothing when the string is malformed. -/
def expressions? (form : StringForm) (body : List Char) : Option (List (List Char)) :=
  if form.hasFields then
    match fields? form.isRaw (body.length + 1) 2 false body with
    | some (expressions, []) => some expressions
    | _ => none
  else if form.isBytes then
    if body.all (·.toNat < 128) && (form.isRaw || escapesComplete false (body.length + 1) body) then
      some []
    else none
  else if form.isRaw || escapesComplete true (body.length + 1) body then some []
  else none

end Reckoner.Source.StringBody
