import Reckoner.Text.NumberText

/-! Settings that the service takes from environment variables. -/

namespace Reckoner.Environment

/-- The variables that are set, by name. -/
abbrev Variables := List (String × String)

/-- The value of a variable, unless it is missing or empty. -/
def value? (bindings : Variables) (name : String) : Option String :=
  (bindings.lookup name).filter (!·.isEmpty)

def defaultAddress : String := "5001"

/-- The number that the service listens at, or what to say when it is none. -/
def listenNumber (bindings : Variables) : Except String Int :=
  let text :=
    ((value? bindings "CALQ_PORT").or (value? bindings "PORT")).getD defaultAddress
  match Text.readInteger? text with
  | some n => .ok n
  | none => .error s!"Invalid port '{text}'. Set CALQ_PORT to a number."

/-- How many characters a random secret has. -/
def randomSecretLength : Nat := 86

/-- The secret that was set; without one, the service makes a random one. -/
def secret? (bindings : Variables) : Option String := value? bindings "CALQ_SECRET"

end Reckoner.Environment
