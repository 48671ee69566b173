import Reckoner.Json.Basic
import Reckoner.Service.Status

/-! Failures of requests as clients see them. Every failure becomes a problem with a message, a
code and a status; one that nobody foresaw shows nothing of its cause. -/

namespace Reckoner.Service

structure Problem where
  message : String
  code : String
  status : Int
  details : List (String × Json) := []

namespace Problem

/-- The kinds of problem differ in what they say unless told otherwise. -/
inductive Kind where
  | general | invalidRequest | notFound | http | internal
deriving DecidableEq, Repr

namespace Kind

/-- What is said without a message; most kinds have to be given one. -/
def message? : Kind → Option String
  | notFound => some "Resource not found"
  | internal => some "Internal server error"
  | general | invalidRequest | http => none

def code : Kind → String
  | general => "error"
  | invalidRequest => "calc.invalid_request"
  | notFound => "not_found"
  | http => "http_error"
  | internal => "internal_error"

def status : Kind → Int
  | notFound => 404
  | internal => 500
  | general | invalidRequest | http => 400

end Kind

/-- A problem with the usual code and status of its kind. -/
def of (kind : Kind) (message : String) : Problem :=
  { message, code := kind.code, status := kind.status }

/-- A problem that needs no message. -/
def bare (kind : Kind) : Problem := of kind (kind.message?.getD "")

/-- A failure of the protocol. Without a description it is named by its reason, and without a
status it is the server's. -/
def ofStatus (status : Nat) (description : Option String) : Problem :=
  let message :=
    match description with
    | some text => if text.isEmpty then Status.reason status else text
    | none => Status.reason status
  { of .http message with status := if status = 0 then 500 else status }

/-- The problem as an object; details appear only if there are any. -/
def toJson (problem : Problem) : Json :=
  let body := [("code", Json.string problem.code), ("message", Json.string problem.message)]
  .object (if problem.details.isEmpty then body
    else body ++ [("details", .object problem.details)])

end Problem

/-- Why a request has no answer. -/
inductive Failure where
  | refused (problem : Problem)
  | http (status : Nat) (description : Option String)
  | unforeseen

/-- The problem that a failure is reported as. -/
def Failure.toProblem : Failure → Problem
  | refused problem => problem
  | http status description => .ofStatus status description
  | unforeseen => .bare .internal

end Reckoner.Service
