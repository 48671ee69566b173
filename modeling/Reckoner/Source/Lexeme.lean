import Reckoner.Decimal.Numeral
import Reckoner.Source.Token

/-! Single lexemes: what kind of token begins a text and how many characters it takes. The text
begins with no blank, comment or line end. -/

namespace Reckoner.Source

/-- Digits with single low lines between them; one may also lead. Fails at a low line that no
digit follows. -/
def takeGroups? (isDigit : Char → Bool) : List Char → Option (List Char × List Char)
  | [] => some ([], [])
  | c :: rest =>
    if isDigit c then (takeGroups? isDigit rest).map fun (taken, left) => (c :: taken, left)
    else if c = '_' then
      match rest with
      | d :: _ =>
        if isDigit d then (takeGroups? isDigit rest).map fun (taken, left) => (c :: taken, left)
        else none
      | [] => none
    else some ([], c :: rest)

/-- Whether a word that may follow a number without a blank begins here. -/
def beginsConnective : List Char → Bool
  | 'a' :: 'n' :: 'd' :: _ => true
  | 'e' :: 'l' :: 's' :: 'e' :: _ => true
  | 'f' :: 'o' :: 'r' :: _ => true
  | 'i' :: c :: _ => c = 'f' || c = 'n' || c = 's'
  | 'o' :: 'r' :: _ => true
  | 'n' :: 'o' :: 't' :: _ => true
  | _ => false

/-- A number ends before a connective or before a character that continues no word. -/
def endsNumber (rest : List Char) : Bool :=
  beginsConnective rest || !rest.head?.any Text.continuesWord

def isHexDigit (c : Char) : Bool := c.isDigit || ('a' ≤ c && c ≤ 'f') || ('A' ≤ c && c ≤ 'F')

def isOctalDigit (c : Char) : Bool := '0' ≤ c && c < '8'

def isBinaryDigit (c : Char) : Bool := c = '0' || c = '1'

/-- The digits after a radix mark such as `0x`, and the rest. -/
def radixDigits? (isDigit : Char → Bool) (body : List Char) : Option (List Char × List Char) := do
  let (digits, rest) ← takeGroups? isDigit body
  if digits.isEmpty || rest.head?.any Char.isDigit || !endsNumber rest then none
  else some (digits, rest)

/-- An exponent with its digits, nothing when a connective follows in its place. -/
def exponentPart? (cs : List Char) : Option (List Char × List Char) :=
  match cs with
  | e :: rest =>
    if e = 'e' ∨ e = 'E' then
      let (sign, body) :=
        match rest with
        | '+' :: more => (['+'], more)
        | '-' :: more => (['-'], more)
        | _ => ([], rest)
      if body.head?.any Char.isDigit then
        (takeGroups? Char.isDigit body).map fun (digits, left) => (e :: sign ++ digits, left)
      else if sign.isEmpty && beginsConnective cs then some ([], cs)
      else none
    else some ([], cs)
  | [] => some ([], [])

/-- A point with the digits after it. -/
def fractionPart? (cs : List Char) : Option (List Char × List Char) :=
  match cs with
  | '.' :: rest =>
    if rest.head?.any Char.isDigit then
      (takeGroups? Char.isDigit rest).map fun (digits, left) => ('.' :: digits, left)
    else some (['.'], rest)
  | _ => some ([], cs)

/-- Whether a decimal integer is written as one may be: without leading zeros unless it is zero,
and not too long. -/
def isPlainInteger (digits : List Char) : Bool :=
  let digits := digits.filter (· != '_')
  digits.all (· = '0') || (digits.head? != some '0' && digits.length ≤ maxIntegerDigits)

/-- A decimal number: whole part, fraction, exponent, and the mark of an imaginary one. -/
def decimalNumber? (cs : List Char) : Option (NumberKind × List Char) := do
  let (whole, rest) ←
    if cs.head?.any Char.isDigit then takeGroups? Char.isDigit cs else some ([], cs)
  let (fraction, rest) ← fractionPart? rest
  let (exponent, rest) ← exponentPart? rest
  let text := whole ++ fraction ++ exponent
  match rest with
  | c :: after =>
    if c = 'j' ∨ c = 'J' then
      if endsNumber after then return (.imaginary, text ++ [c]) else none
  | [] => pure ()
  if !endsNumber rest then none
  else if !fraction.isEmpty || !exponent.isEmpty then return (.real, text)
  else if isPlainInteger whole then return (.integer, text)
  else none

/-- The number at the start of a text that begins with a digit, or a point and a digit. -/
def number? (cs : List Char) : Option (NumberKind × List Char) :=
  let radix (isDigit : Char → Bool) (mark : Char) (body : List Char) :=
    (radixDigits? isDigit body).map fun (digits, _) => (NumberKind.integer, '0' :: mark :: digits)
  match cs with
  | '0' :: mark :: body =>
    if mark = 'x' ∨ mark = 'X' then radix isHexDigit mark body
    else if mark = 'o' ∨ mark = 'O' then radix isOctalDigit mark body
    else if mark = 'b' ∨ mark = 'B' then radix isBinaryDigit mark body
    else decimalNumber? cs
  | _ => decimalNumber? cs

/-- The body of a string in single quotes and the number of characters up to the end. -/
def shortBody? (quote : Char) : List Char → Option (List Char)
  | [] => none
  | c :: rest =>
    if c = quote then some []
    else if c = '\n' then none
    else if c = '\\' then
      match rest with
      | d :: more => (shortBody? quote more).map fun body => c :: d :: body
      | [] => none
    else (shortBody? quote rest).map (c :: ·)

/-- The body of a string in triple quotes. -/
def longBody? (quote : Char) : List Char → Option (List Char)
  | [] => none
  | c :: rest =>
    if c = quote then
      match rest with
      | d :: e :: _ =>
        if d = quote ∧ e = quote then some [] else (longBody? quote rest).map (c :: ·)
      | _ => none
    else if c = '\\' then
      match rest with
      | d :: more => (longBody? quote more).map fun body => c :: d :: body
      | [] => none
    else (longBody? quote rest).map (c :: ·)

/-- The body of a string from its opening quotes on, and its length with all quotes. -/
def quoted? (cs : List Char) : Option (List Char × Nat) :=
  match cs with
  | a :: b :: c :: rest =>
    if a = b ∧ b = c then (longBody? a rest).map fun body => (body, body.length + 6)
    else (shortBody? a (b :: c :: rest)).map fun body => (body, body.length + 2)
  | a :: rest => (shortBody? a rest).map fun body => (body, body.length + 2)
  | [] => none

/-- The form that the letters before a quote give a string. -/
def StringForm.ofLetters? (letters : List Char) : Option StringForm :=
  match letters.map Char.toLower with
  | [] => some ⟨false, false, false⟩
  | ['r'] => some ⟨false, true, false⟩
  | ['u'] => some ⟨false, false, false⟩
  | ['b'] => some ⟨true, false, false⟩
  | ['f'] => some ⟨false, false, true⟩
  | ['b', 'r'] | ['r', 'b'] => some ⟨true, true, false⟩
  | ['f', 'r'] | ['r', 'f'] => some ⟨false, true, true⟩
  | _ => none

def isQuote (c : Char) : Bool := c = '"' || c = '\''

/-- A string whose quotes begin after the given letters. -/
def stringLexeme? (letters cs : List Char) : Option (TokenKind × Nat) := do
  let form ← StringForm.ofLetters? letters
  let (body, length) ← quoted? cs
  return (.string form body, letters.length + length)

/-- A keyword, or an identifier in compatibility form. -/
def wordKind? (word : List Char) : Option TokenKind :=
  match Keyword.ofText? (String.ofList word) with
  | some keyword => some (.keyword keyword)
  | none =>
    if Text.isIdentifier word then
      some (.name (String.ofList (Text.compatibilityForm word)))
    else none

/-- The token at the start of a text, with its length. -/
def lexeme? (cs : List Char) : Option (TokenKind × Nat) :=
  match cs with
  | [] => none
  | c :: rest =>
    if c.isDigit || (c = '.' && rest.head?.any Char.isDigit) then
      (number? cs).map fun (kind, text) => (.number kind text, text.length)
    else if isQuote c then stringLexeme? [] cs
    else if Text.beginsWord c then
      let word := cs.takeWhile Text.continuesWord
      let after := cs.dropWhile Text.continuesWord
      if after.head?.any isQuote && (StringForm.ofLetters? word).isSome then
        stringLexeme? word after
      else (wordKind? word).map fun kind => (kind, word.length)
    else (Mark.longest? cs).map fun (mark, length) => (.mark mark, length)

end Reckoner.Source
