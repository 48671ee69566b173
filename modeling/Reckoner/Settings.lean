import Reckoner.Binary64
import Reckoner.Evaluator.Basic
import Reckoner.Json.Basic
import Reckoner.Text.NumberText

/-! Settings of the calculator. They come from a document with one optional entry each; an entry
that is missing or unusable takes its default, and numbers are brought into their range. -/

namespace Reckoner

def Rounding.name : Rounding → String
  | nearest => "nearest"
  | zero => "zero"
  | up => "up"
  | down => "down"
  | awayZero => "away_zero"

def Rounding.all : List Rounding := [.nearest, .zero, .up, .down, .awayZero]

def Rounding.ofName? (name : String) : Option Rounding := Rounding.all.find? (·.name == name)

theorem Rounding.ofName?_name (mode : Rounding) : Rounding.ofName? mode.name = some mode := by
  cases mode <;> decide

def Precision.name : Precision → String
  | decent => "decent"

def Precision.ofName? (name : String) : Option Precision :=
  if name = Precision.decent.name then some .decent else none

def maxDisplayDigits : Nat := 50

def defaultMaxExpressionLength : Nat := 1024

structure Settings where
  precision : Precision := .decent
  rounding : Rounding := .nearest
  displayDigits : Nat := defaultDisplayDigits
  maxExpressionLength : Nat := defaultMaxExpressionLength
deriving DecidableEq, Repr

/-- Why a document gives no settings: it is no mapping, or a number is infinite. -/
inductive SettingsError where
  | notMapping
  | infiniteNumber
deriving DecidableEq, Repr

namespace Settings

def evaluator (settings : Settings) : Evaluator :=
  { precision := settings.precision
    rounding := settings.rounding
    displayDigits := settings.displayDigits }

/-- What an entry says as a number: nothing usable, an infinity, or a whole part. -/
inductive Reading where
  | unusable
  | infinite
  | whole (value : Int)
deriving DecidableEq, Repr

def Reading.ofReal : ExtDecimal → Reading
  | .finite d =>
    match Binary64.truncate? d with
    | some value => whole value
    | none => infinite
  | .infinite _ => infinite
  | .nan _ _ _ => unusable

/-- Read an entry as a number in floating point and drop its fraction. -/
def Reading.ofEntry : Json → Reading
  | .bool value => whole (if value then 1 else 0)
  | .integer n => ofReal (.finite (.ofInt n))
  | .real value => ofReal value
  | .string text =>
    match Text.readReal? text with
    | some value => ofReal value
    | none => unusable
  | .null | .array _ | .object _ => unusable

/-- A number entry, not below `lower` and not above `upper`. -/
def number (entry : Option Json) (default lower : Nat) (upper : Option Nat) :
    Except SettingsError Nat :=
  match entry with
  | none => .ok default
  | some value =>
    match Reading.ofEntry value with
    | .unusable => .ok default
    | .infinite => .error .infiniteNumber
    | .whole n =>
      let raised := max n.toNat lower
      .ok (match upper with
        | some upper => min raised upper
        | none => raised)

/-- A name entry: blanks around it and the case of its letters do not matter. -/
def choice {α : Type} (entry : Option Json) (ofName? : String → Option α) (default : α) : α :=
  match entry with
  | some (.string text) =>
    (ofName? (String.ofList ((Text.strip text).toList.map Char.toLower))).getD default
  | _ => default

/-- Load settings from a document; an empty one stands for no entries. -/
def load (raw : Json) : Except SettingsError Settings :=
  if raw.isFalsy then .ok {}
  else
    match raw with
    | .object _ => do
      let displayDigits ←
        number (raw.member? "display_digits") defaultDisplayDigits 1 (some maxDisplayDigits)
      let maxExpressionLength ←
        number (raw.member? "max_expression_length") defaultMaxExpressionLength 1 none
      return {
        precision := choice (raw.member? "precision") Precision.ofName? .decent
        rounding := choice (raw.member? "rounding") Rounding.ofName? .nearest
        displayDigits
        maxExpressionLength }
    | _ => .error .notMapping

end Settings

end Reckoner
