import Reckoner.Json.Basic

/-! What plain YAML scalars stand for: missing values, truth values, integers in four bases or in
base sixty, and numbers with a point. Every other scalar is its own text. -/

namespace Reckoner.Yaml

def nullWords : List String := ["", "~", "null", "Null", "NULL"]

def trueWords : List String :=
  ["yes", "Yes", "YES", "true", "True", "TRUE", "on", "On", "ON"]

def falseWords : List String :=
  ["no", "No", "NO", "false", "False", "FALSE", "off", "Off", "OFF"]

/-- A sign, if there is one, and the rest. -/
def splitSign : List Char → Bool × List Char
  | '-' :: rest => (true, rest)
  | '+' :: rest => (false, rest)
  | cs => (false, cs)

/-- The value of digits of a base; low lines among them do not count, other characters spoil it. -/
def readBase? (base : Nat) (cs : List Char) : Option Nat :=
  let step (value : Option Nat) (c : Char) : Option Nat := do
    let value ← value
    if c = '_' then some value
    else
      let digit ←
        if c.isDigit then some (c.toNat - '0'.toNat)
        else if 'a' ≤ c ∧ c ≤ 'f' then some (c.toNat - 'a'.toNat + 10)
        else if 'A' ≤ c ∧ c ≤ 'F' then some (c.toNat - 'A'.toNat + 10)
        else none
      if digit < base then some (value * base + digit) else none
  if cs.all (· == '_') then none else cs.foldl step (some 0)

/-- The places of a number in base sixty: colons part them, and all but the first are below sixty
with at most two digits. -/
def readSixties? (cs : List Char) : Option Nat :=
  match cs.splitOn ':' with
  | first :: second :: more => do
    let first ← readBase? 10 first
    (second :: more).foldlM
      (fun value place => do
        let digit ← readBase? 10 place
        if place.length ≤ 2 && digit < 60 && !place.contains '_' then some (value * 60 + digit)
        else none)
      first
  | _ => none

def startsWithDigit (cs : List Char) : Bool := cs.head?.any Char.isDigit

/-- An unsigned integer. A zero before other digits makes them octal. -/
def readInteger? (cs : List Char) : Option Nat :=
  match cs with
  | ['0'] => some 0
  | '0' :: 'b' :: rest => readBase? 2 rest
  | '0' :: 'x' :: rest => readBase? 16 rest
  | '0' :: rest => if rest.all (· == '_') then some 0 else readBase? 8 rest
  | _ =>
    if startsWithDigit cs then
      match readBase? 10 cs with
      | some value => some value
      | none => readSixties? cs
    else none

/-- The exponent after a number with a point: it has to have a sign. -/
def readSignedExponent? (cs : List Char) : Option Int :=
  match cs with
  | [] => some 0
  | c :: sign :: digits =>
    if (c = 'e' ∨ c = 'E') ∧ (sign = '+' ∨ sign = '-') ∧ digits.all Char.isDigit then
      Numeral.readExponent? (if sign = '-' then '-' :: digits else digits)
    else none
  | _ => none

/-- An unsigned number with a point. -/
def readPointed? (cs : List Char) : Option Decimal := do
  let isPlace (c : Char) : Bool := c.isDigit || c == '_'
  let whole := cs.takeWhile (· != '.')
  let fraction ← match cs.dropWhile (· != '.') with
    | '.' :: rest => some rest
    | _ => none
  let places := (fraction.takeWhile isPlace).filter Char.isDigit
  let rest := fraction.dropWhile isPlace
  let exponent ← readSignedExponent? rest
  let value ←
    if whole.isEmpty then if startsWithDigit fraction then some 0 else none
    else if whole.contains ':' then if rest.isEmpty then readSixties? whole else none
    else if startsWithDigit whole then readBase? 10 whole
    else none
  return ⟨false, readDigits places + value * 10 ^ places.length, exponent - places.length⟩

def infinityWords : List String := [".inf", ".Inf", ".INF"]

def nanWords : List String := [".nan", ".NaN", ".NAN"]

/-- What a plain scalar stands for. -/
def resolve (text : String) : Json :=
  let (negative, cs) := splitSign text.toList
  if nullWords.contains text then .null
  else if trueWords.contains text then .bool true
  else if falseWords.contains text then .bool false
  else if infinityWords.contains (String.ofList cs) then .real (.infinite negative)
  else if nanWords.contains text then .real (.nan false false 0)
  else
    match readInteger? cs with
    | some value => .integer (if negative then -(value : Int) else value)
    | none =>
      match readPointed? cs with
      | some d =>
        if text.startsWith "." || !cs.head?.any (· == '.') then
          .real (.finite { d with negative })
        else .string text
      | none => .string text

end Reckoner.Yaml
