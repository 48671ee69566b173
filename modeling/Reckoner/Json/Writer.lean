import Reckoner.Json.Basic

/-! JSON as text, without blanks. Control characters, quotes and backslashes of strings are
escaped; every other character stands for itself. -/

namespace Reckoner.Json

def hexDigit (n : Nat) : Char := Nat.digitChar (n % 16)

def escapeChar (c : Char) : List Char :=
  match c with
  | '"' => ['\\', '"']
  | '\\' => ['\\', '\\']
  | '\n' => ['\\', 'n']
  | '\r' => ['\\', 'r']
  | '\t' => ['\\', 't']
  | _ =>
    if c.toNat < 32 then ['\\', 'u', '0', '0', hexDigit (c.toNat / 16), hexDigit c.toNat] else [c]

def quote (text : String) : String :=
  String.ofList ('"' :: text.toList.flatMap escapeChar ++ ['"'])

/-- A number with all its digits and an exponent, or the word of an infinity or not-a-number. -/
def realText : ExtDecimal → String
  | .finite d =>
    (if d.negative then "-" else "") ++ toString d.coefficient ++ "E" ++ toString d.exponent
  | .infinite negative => if negative then "-Infinity" else "Infinity"
  | .nan _ _ _ => "NaN"

mutual

def text : Json → String
  | null => "null"
  | bool value => if value then "true" else "false"
  | integer value => toString value
  | real value => realText value
  | string value => quote value
  | array items => "[" ++ String.intercalate "," (texts items) ++ "]"
  | object members => "\x7b" ++ String.intercalate "," (memberTexts members) ++ "\x7d"

def texts : List Json → List String
  | [] => []
  | item :: rest => item.text :: texts rest

def memberTexts : List (String × Json) → List String
  | [] => []
  | (key, value) :: rest => (quote key ++ ":" ++ value.text) :: memberTexts rest

end

end Reckoner.Json
