import Reckoner.Json.Basic

/-! Reading JSON text. Besides the standard grammar it takes the words `NaN`, `Infinity` and
`-Infinity` as numbers; a whole number may have at most 4300 digits. -/

namespace Reckoner.Json

def isBlank (c : Char) : Bool := c = ' ' || c = '\t' || c = '\n' || c = '\r'

def skipBlanks (cs : List Char) : List Char := cs.dropWhile isBlank

def hexValue? (c : Char) : Option Nat :=
  if c.isDigit then some (c.toNat - '0'.toNat)
  else if 'a' ≤ c ∧ c ≤ 'f' then some (c.toNat - 'a'.toNat + 10)
  else if 'A' ≤ c ∧ c ≤ 'F' then some (c.toNat - 'A'.toNat + 10)
  else none

/-- The code unit of four hexadecimal digits. -/
def readUnit? : List Char → Option (Nat × List Char)
  | a :: b :: c :: d :: rest => do
    let a ← hexValue? a
    let b ← hexValue? b
    let c ← hexValue? c
    let d ← hexValue? d
    return (((a * 16 + b) * 16 + c) * 16 + d, rest)
  | _ => none

/-- The character of an escape after `\u`; two surrogate halves make one character. -/
def readUnicode? (cs : List Char) : Option (Char × List Char) := do
  let (high, rest) ← readUnit? cs
  if 0xD800 ≤ high ∧ high < 0xDC00 then
    match rest with
    | '\\' :: 'u' :: more =>
      match readUnit? more with
      | some (low, after) =>
        if 0xDC00 ≤ low ∧ low < 0xE000 then
          return (Char.ofNat (0x10000 + (high - 0xD800) * 0x400 + (low - 0xDC00)), after)
        else return ('\ufffd', rest)
      | none => return ('\ufffd', rest)
    | _ => return ('\ufffd', rest)
  else if 0xDC00 ≤ high ∧ high < 0xE000 then return ('\ufffd', rest)
  else return (Char.ofNat high, rest)

/-- The characters of a string up to its closing quote. -/
def readString? : (fuel : Nat) → List Char → Option (List Char × List Char)
  | 0, _ => none
  | fuel + 1, cs =>
    let keep (c : Char) (rest : List Char) : Option (List Char × List Char) :=
      (readString? fuel rest).map fun (text, after) => (c :: text, after)
    match cs with
    | [] => none
    | '"' :: rest => some ([], rest)
    | '\\' :: '"' :: rest => keep '"' rest
    | '\\' :: '\\' :: rest => keep '\\' rest
    | '\\' :: '/' :: rest => keep '/' rest
    | '\\' :: 'b' :: rest => keep '\x08' rest
    | '\\' :: 'f' :: rest => keep '\x0c' rest
    | '\\' :: 'n' :: rest => keep '\n' rest
    | '\\' :: 'r' :: rest => keep '\r' rest
    | '\\' :: 't' :: rest => keep '\t' rest
    | '\\' :: 'u' :: rest =>
      match readUnicode? rest with
      | some (c, after) => keep c after
      | none => none
    | c :: rest => if c = '\\' ∨ c.toNat < 32 then none else keep c rest

/-- The digits of an exponent, if one follows. -/
def splitExponent (cs : List Char) : Option Int × List Char :=
  match cs with
  | c :: rest =>
    if c = 'e' ∨ c = 'E' then
      let (sign, body) :=
        match rest with
        | '-' :: more => (['-'], more)
        | '+' :: more => ([], more)
        | _ => ([], rest)
      let digits := body.takeWhile Char.isDigit
      match Numeral.readExponent? (sign ++ digits) with
      | some exponent => (some exponent, body.dropWhile Char.isDigit)
      | none => (none, cs)
    else (none, cs)
  | [] => (none, [])

/-- The digits after a point, if there are any. -/
def splitFraction (cs : List Char) : List Char × List Char :=
  match cs with
  | '.' :: rest =>
    let digits := rest.takeWhile Char.isDigit
    if digits.isEmpty then ([], cs) else (digits, rest.dropWhile Char.isDigit)
  | _ => ([], cs)

/-- An unsigned number: no zero leads other digits. -/
def readNumber? (negative : Bool) (cs : List Char) : Option (Json × List Char) :=
  let whole :=
    match cs with
    | '0' :: _ => ['0']
    | _ => cs.takeWhile Char.isDigit
  if whole.isEmpty then none
  else
    let (fraction, afterFraction) := splitFraction (cs.drop whole.length)
    let (exponent, rest) := splitExponent afterFraction
    if fraction.isEmpty && exponent.isNone then
      if maxIntegerDigits < whole.length then none
      else
        let n : Int := readDigits whole
        some (integer (if negative then -n else n), rest)
    else
      some (real (.finite (Numeral.toDecimal ⟨whole, fraction, exponent.getD 0⟩ negative)), rest)

/-- What follows a word at the start of a text. -/
def afterWord? (word : String) (cs : List Char) : Option (List Char) :=
  if word.toList.isPrefixOf cs then some (cs.drop word.length) else none

/-- A number or one of the words that stand for a value. -/
def readScalar? (cs : List Char) : Option (Json × List Char) :=
  match cs with
  | 'n' :: _ => (afterWord? "null" cs).map (null, ·)
  | 't' :: _ => (afterWord? "true" cs).map (bool true, ·)
  | 'f' :: _ => (afterWord? "false" cs).map (bool false, ·)
  | 'N' :: _ => (afterWord? "NaN" cs).map (real (.nan false false 0), ·)
  | 'I' :: _ => (afterWord? "Infinity" cs).map (real (.infinite false), ·)
  | '-' :: 'I' :: rest => (afterWord? "Infinity" ('I' :: rest)).map (real (.infinite true), ·)
  | '-' :: rest => readNumber? true rest
  | _ => readNumber? false cs

mutual

def readValue? : (fuel : Nat) → List Char → Option (Json × List Char)
  | 0, _ => none
  | fuel + 1, cs =>
    match skipBlanks cs with
    | '"' :: rest => do
      let (text, after) ← readString? (rest.length + 1) rest
      return (string (String.ofList text), after)
    | '[' :: rest =>
      match skipBlanks rest with
      | ']' :: after => some (array [], after)
      | _ => do
        let (items, after) ← readItems? fuel rest
        return (array items, after)
    | '{' :: rest =>
      match skipBlanks rest with
      | '}' :: after => some (object [], after)
      | _ => do
        let (members, after) ← readMembers? fuel [] rest
        return (object members, after)
    | other => readScalar? other

/-- The items of an array after its bracket, up to the closing one. -/
def readItems? : (fuel : Nat) → List Char → Option (List Json × List Char)
  | 0, _ => none
  | fuel + 1, cs => do
    let (item, rest) ← readValue? fuel cs
    match skipBlanks rest with
    | ',' :: more =>
      let (items, after) ← readItems? fuel more
      return (item :: items, after)
    | ']' :: after => return ([item], after)
    | _ => none

/-- The members of an object after its brace; a repeated key takes the last value. -/
def readMembers? : (fuel : Nat) → List (String × Json) → List Char →
    Option (List (String × Json) × List Char)
  | 0, _, _ => none
  | fuel + 1, members, cs => do
    let afterQuote ← match skipBlanks cs with
      | '"' :: rest => some rest
      | _ => none
    let (key, afterKey) ← readString? (afterQuote.length + 1) afterQuote
    let afterColon ← match skipBlanks afterKey with
      | ':' :: rest => some rest
      | _ => none
    let (value, rest) ← readValue? fuel afterColon
    let members := setMember members (String.ofList key) value
    match skipBlanks rest with
    | ',' :: more => readMembers? fuel members more
    | '}' :: after => return (members, after)
    | _ => none

end

/-- Read one document with nothing but blanks around it. -/
def ofText? (text : String) : Option Json := do
  let cs := match text.toList with
    | '\ufeff' :: rest => rest
    | cs => cs
  let (value, rest) ← readValue? (cs.length + 1) cs
  if (skipBlanks rest).isEmpty then some value else none

end Reckoner.Json
