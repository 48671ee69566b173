import Reckoner.Binary64
import Reckoner.Settings

/-! Validation of evaluation requests. Fields are checked in a fixed order and all faults are
reported; a field that is not known is a fault. -/

namespace Reckoner.Service

structure Payload where
  expression : String
  rounding : Option Rounding := none
  displayDigits : Option Nat := none
deriving DecidableEq, Repr

/-- What is wrong with a field, or with the whole payload. -/
structure FieldFault where
  field : String
  message : String
deriving DecidableEq, Repr

namespace Payload

/-- Settings with what the request asks for in place of their own. -/
def adjust (payload : Payload) (settings : Settings) : Settings :=
  { settings with
    rounding := payload.rounding.getD settings.rounding
    displayDigits := payload.displayDigits.getD settings.displayDigits }

inductive IntegerFault where
  | notInteger
  | notFinite
  | fraction
  | unreadable
  | tooLong
  | tooSmall
  | tooLarge
deriving DecidableEq, Repr

def IntegerFault.message : IntegerFault → String
  | notInteger => "Input should be a valid integer"
  | notFinite => "Input should be a finite number"
  | fraction => "Input should be a valid integer, got a number with a fractional part"
  | unreadable => "Input should be a valid integer, unable to parse string as an integer"
  | tooLong => "Unable to parse input string as an integer, exceeded maximum size"
  | tooSmall => "Input should be greater than or equal to 1"
  | tooLarge => s!"Input should be less than or equal to {maxDisplayDigits}"

/-- Digits with single low lines between them. -/
def readDigits? (cs : List Char) : Option Nat :=
  match Text.withoutLowLines? none cs with
  | some digits =>
    if !digits.isEmpty && digits.all Char.isDigit then some (readDigits digits) else none
  | none => none

/-- An integer in a text: a sign, digits, and perhaps a point with nothing but zeros after it. -/
def integerOfText (text : String) : Except IntegerFault Int :=
  let cs := Text.trimBy Text.isWhiteSpace text.toList
  let (negative, unsigned) :=
    match cs with
    | '-' :: rest => (true, rest)
    | '+' :: rest => (false, rest)
    | _ => (false, cs)
  let whole := unsigned.takeWhile (· != '.')
  let zeros := (unsigned.dropWhile (· != '.')).drop 1
  if maxIntegerDigits < cs.length then .error .tooLong
  else
    match readDigits? whole with
    | some n =>
      if zeros.all (· == '0') then .ok (if negative then -(n : Int) else n)
      else .error .unreadable
    | none => .error .unreadable

/-- The least size of a whole number that 64 bits with a sign do not hold. -/
def wordLimit : Nat := 0x8000000000000000

/-- An integral number in floating point of less than that size. -/
def integerOfReal : ExtDecimal → Except IntegerFault Int
  | .finite d =>
    match Binary64.ofDecimal? d with
    | none => .error .notFinite
    | some x =>
      if !x.isWhole then .error .fraction
      else if wordLimit ≤ x.truncate then .error .tooLong
      else .ok (if d.negative then -(x.truncate : Int) else x.truncate)
  | .infinite _ | .nan _ _ _ => .error .notFinite

def integerOf : Json → Except IntegerFault Int
  | .integer n => .ok n
  | .bool value => .ok (if value then 1 else 0)
  | .real value => integerOfReal value
  | .string text => integerOfText text
  | .null | .array _ | .object _ => .error .notInteger

def displayDigitsOf (value : Json) : Except IntegerFault Nat := do
  let n ← integerOf value
  if n < 1 then throw .tooSmall
  if (maxDisplayDigits : Int) < n then throw .tooLarge
  return n.toNat

def expressionKey : String := "expression"

def roundingKey : String := "rounding"

def displayDigitsKey : String := "display_digits"

def knownKeys : List String := [expressionKey, roundingKey, displayDigitsKey]

def checkExpression : Option Json → Except String String
  | none => .error "Field required"
  | some (.string text) => .ok (Text.trimWhiteSpace text)
  | some _ => .error "Input should be a valid string"

def checkRounding : Option Json → Except String (Option Rounding)
  | none | some .null => .ok none
  | some value =>
    let mode? :=
      match value with
      | .string name => Rounding.ofName? name
      | _ => none
    match mode? with
    | some mode => .ok (some mode)
    | none => .error "Input should be 'nearest', 'zero', 'up', 'down' or 'away_zero'"

def checkDisplayDigits : Option Json → Except String (Option Nat)
  | none | some .null => .ok none
  | some value =>
    match displayDigitsOf value with
    | .ok n => .ok (some n)
    | .error fault => .error fault.message

/-- The name a fault is reported under; the empty name stands for the payload. -/
def shownName (key : String) : String := if key.isEmpty then "payload" else key

def faultOf {α : Type} (key : String) : Except String α → List FieldFault
  | .ok _ => []
  | .error message => [⟨key, message⟩]

/-- Validate a document; an empty one stands for no fields. -/
def validate (raw : Json) : Except (List FieldFault) Payload :=
  let raw := if raw.isFalsy then .object [] else raw
  match raw with
  | .object members =>
    let expression := checkExpression (raw.member? expressionKey)
    let rounding := checkRounding (raw.member? roundingKey)
    let displayDigits := checkDisplayDigits (raw.member? displayDigitsKey)
    let extra := members.filter fun (key, _) => !knownKeys.contains key
    let unknown : List FieldFault :=
      extra.map fun (key, _) => ⟨shownName key, "Extra inputs are not permitted"⟩
    match expression, rounding, displayDigits, unknown with
    | .ok expression, .ok rounding, .ok displayDigits, [] =>
      .ok { expression, rounding, displayDigits }
    | _, _, _, _ =>
      .error (faultOf expressionKey expression ++ faultOf roundingKey rounding ++
        faultOf displayDigitsKey displayDigits ++ unknown)
  | _ =>
    .error [⟨"payload", "Input should be a valid dictionary or instance of EvaluatePayload"⟩]

def rejection : String := "Invalid request payload"

/-- The faults as the details of a rejection. -/
def details (faults : List FieldFault) : List (String × Json) :=
  [("errors", .array (faults.map fun fault =>
    .object [("field", .string fault.field), ("message", .string fault.message)]))]

end Payload

end Reckoner.Service
