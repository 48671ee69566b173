import Reckoner.Source.Grammar
import Reckoner.Source.Scan
import Reckoner.Source.StringBody

/-! Lines of source as surface trees. The first misfit of a line decides what is wrong with it;
a bracket that matches none wins over whatever stands before it. -/

namespace Reckoner.Source

/-- Why a text is no expression of the larger language, with the column in characters. -/
inductive LineFault where
  | nullCharacter
  | invalid
  | neverClosed (opening : Char)
  | unmatched (closing : Char)
  | mismatched (closing opening : Char) (openingLine : Option Nat)
deriving DecidableEq, Repr

structure Misfit where
  column : Nat
  fault : LineFault
deriving DecidableEq, Repr

namespace Misfit

def ofScanFault (position : Position) : ScanFault → Misfit
  | .nullCharacter => ⟨position.column, .nullCharacter⟩
  | .malformed => ⟨position.column, .invalid⟩
  | .unmatched closing => ⟨position.column, .unmatched closing⟩
  | .mismatched closing opening line => ⟨position.column, .mismatched closing opening line⟩

/-- The misfit that the tokens from an unexpected one on show: a bracket that does not match, a
bracket that was left open before the line of the token, or the token itself. A text that ends
too early is at fault as a whole. -/
def ofTokens (ts : Tokens) : Misfit :=
  match ts, ts.getLast? with
  | first :: _, some last =>
    match last.kind with
    | .fault cause => ofScanFault last.position cause
    | .unclosed opening =>
      if first.kind = last.kind || last.position.line < first.position.line then
        ⟨last.position.column, .neverClosed opening⟩
      else ⟨first.position.column, .invalid⟩
    | _ => ⟨if first.kind = .finish then 0 else first.position.column, .invalid⟩
  | _, _ => ⟨0, .invalid⟩

end Misfit

/-- Whether two strings side by side are of one sort. -/
def stringsAgree : Tokens → Bool
  | ⟨.string first _, _⟩ :: ⟨.string second body, position⟩ :: rest =>
    first.isBytes = second.isBytes && stringsAgree (⟨.string second body, position⟩ :: rest)
  | _ :: rest => stringsAgree rest
  | [] => true

/-- The expressions in the fields of all strings, or the first malformed string. -/
def fieldExpressions : Tokens → Except Position (List (List Char))
  | [] => .ok []
  | token :: rest =>
    match token.kind with
    | .string form body =>
      match StringBody.expressions? form body with
      | some expressions => (expressions ++ ·) <$> fieldExpressions rest
      | none => .error token.position
    | _ => fieldExpressions rest

/-- Whether the strings of a line are well formed, those within their fields included. The fuel
bounds the nesting of strings. -/
def stringsWellFormed : (fuel : Nat) → Tokens → Bool
  | 0, _ => false
  | fuel + 1, ts =>
    stringsAgree ts &&
      match fieldExpressions ts with
      | .ok expressions =>
        expressions.all fun expression =>
          let inner := scan ('(' :: expression ++ [')'])
          (Grammar.line inner).isOk && stringsWellFormed fuel inner
      | .error _ => false

/-- The surface tree of a text without long integers. -/
def readLine (cs : List Char) : Except Misfit Surface :=
  let ts := scan cs
  match Grammar.line ts with
  | .error rest => .error (.ofTokens rest)
  | .ok surface =>
    if stringsWellFormed (cs.length + 1) ts then .ok surface else .error ⟨0, .invalid⟩

end Reckoner.Source
