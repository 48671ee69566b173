import Reckoner.Json.Reader
import Reckoner.Service.Application

/-! Requests and responses of the service: which path and method lead where, what a body says, and
the envelope and headers of every answer. -/

namespace Reckoner.Service

/-- A request. Its path is decoded and has no query. -/
structure Request where
  method : String
  path : String
  contentType : String := ""
  identifier : String := ""
  body : String := ""

structure Response where
  status : Int
  body : Option Json
  headers : List (String × String)

def Response.header? (response : Response) (name : String) : Option String :=
  let folded (text : String) : List Char := text.toList.map Char.toLower
  (response.headers.find? fun entry => folded entry.1 == folded name).map (·.2)

namespace Request

/-- The path of a target: up to a query or a fragment, with ASCII escapes decoded. -/
def pathOf (target : String) : String :=
  let rec decode : List Char → List Char
    | '%' :: a :: b :: rest =>
      match Json.hexValue? a, Json.hexValue? b with
      | some high, some low =>
        if high < 8 then Char.ofNat (high * 16 + low) :: decode rest
        else '%' :: a :: b :: decode rest
      | _, _ => '%' :: decode (a :: b :: rest)
    | c :: rest => c :: decode rest
    | [] => []
  String.ofList (decode (target.toList.takeWhile fun c => c != '?' && c != '#'))

/-- The media type without its parameters. -/
def mediaType (request : Request) : String :=
  let cs := request.contentType.toList.takeWhile (· != ';')
  String.ofList ((Text.trimBy Text.isBlank cs).map Char.toLower)

def isJson (request : Request) : Bool :=
  let type := request.mediaType
  type == "application/json" || (type.startsWith "application/" && type.endsWith "+json")

/-- The most bytes that a body may have. -/
def maxBodySize : Nat := 64 * 1024

/-- The document in a body. One that cannot be read, or is not meant to be, counts as missing. -/
def document (request : Request) : Except Failure Json :=
  if !request.isJson then .ok .null
  else if maxBodySize < request.body.utf8ByteSize then
    .error (.http 413 (some Status.tooLarge))
  else .ok ((Json.ofText? request.body).getD .null)

end Request

/-- The resources of the service. There is a place for assets, but none are installed. -/
inductive Resource where
  | home | evaluate | functions | asset
deriving DecidableEq, Repr

namespace Resource

def interface : String := "/api/" ++ Configuration.calculatorKey

def assetRoot : String := "/static/"

/-- The resource of a path that matches exactly. -/
def ofPath? (path : String) : Option Resource :=
  if path = "/" then some home
  else if path = interface ++ "/evaluate" then some evaluate
  else if path = interface ++ "/functions" then some functions
  else if path.startsWith assetRoot then
    match path.toList.drop assetRoot.length with
    | [] | '/' :: _ => none
    | _ => some asset
  else none

/-- The methods besides OPTIONS, which every resource has. -/
def methods : Resource → List String
  | evaluate => ["POST"]
  | home | functions | asset => ["GET", "HEAD"]

def allows (resource : Resource) (method : String) : Bool :=
  method == "OPTIONS" || resource.methods.contains method

end Resource

/-- Where a request leads. -/
inductive Target where
  | resource (resource : Resource)
  | redirect
  | wrongMethod
  | nowhere
deriving DecidableEq, Repr

/-- Replace each pair of slashes by one. -/
def mergeSlashes : List Char → List Char
  | '/' :: '/' :: rest => '/' :: mergeSlashes rest
  | c :: rest => c :: mergeSlashes rest
  | [] => []

namespace Target

/-- Find the target of a path and a method. Slashes at the start count once; a path that matches
only after its pairs of slashes are merged is redirected. -/
def find (path method : String) : Target :=
  let path := String.ofList ('/' :: path.toList.dropWhile (· == '/'))
  let merged := String.ofList (mergeSlashes path.toList)
  let exact := Resource.ofPath? path
  let near := if merged = path then none else Resource.ofPath? merged
  match exact.filter (·.allows method), near.filter (·.allows method) with
  | some found, _ => .resource found
  | none, some _ => .redirect
  | none, none => if exact.isSome || near.isSome then .wrongMethod else .nowhere

end Target

def jsonType : String := "application/json"

def pageType : String := "text/html; charset=utf-8"

/-- The headers that every response has. -/
def protection : List (String × String) := [
  ("X-Content-Type-Options", "nosniff"),
  ("X-Frame-Options", "DENY"),
  ("Content-Security-Policy", "default-src 'none'; frame-ancestors 'none'"),
  ("Referrer-Policy", "no-referrer")]

/-- The envelope of an answer. -/
def envelope : Except Failure Json → Int × Json
  | .ok data => (200, .object [("success", .bool true), ("data", data)])
  | .error failure =>
    let problem := failure.toProblem
    (problem.status, .object [("success", .bool false), ("error", problem.toJson)])

/-- The status, the document and the type of the answer to a request. -/
def Application.handle (app : Application) (request : Request) :
    Int × Option Json × String :=
  let method := String.ofList (request.method.toList.map Char.toUpper)
  let enveloped (answer : Except Failure Json) : Int × Option Json × String :=
    let (status, body) := envelope answer
    (status, if method = "HEAD" then none else some body, jsonType)
  let missing : Failure := .refused (.bare .notFound)
  match Target.find request.path method with
  | .nowhere => enveloped (.error missing)
  | .wrongMethod => enveloped (.error (.http 405 (some Status.methodNotAllowed)))
  | .redirect => (308, none, pageType)
  | .resource resource =>
    if method = "OPTIONS" then (200, none, pageType)
    else
      match resource with
      | .home => enveloped app.home
      | .functions => enveloped app.functions
      | .asset => enveloped (.error missing)
      | .evaluate => enveloped (request.document >>= app.evaluateDocument)

/-- Respond to a request; `fresh` identifies it if it does not identify itself. -/
def Application.respond (app : Application) (fresh : String) (request : Request) : Response :=
  let (status, body, type) := app.handle request
  let identifier := if request.identifier.isEmpty then fresh else request.identifier
  { status, body
    headers := ("Content-Type", type) :: ("X-Request-ID", identifier) :: protection }

end Reckoner.Service
