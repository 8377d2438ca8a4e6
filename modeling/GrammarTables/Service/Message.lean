import GrammarTables.Json.Writer
import GrammarTables.Service.Address

/-!
# Requests and responses

What the service receives and answers.  A body that is JSON is kept as a value, since only
its value counts; that it has a text which can be sent is checked apart.  A request or a
response that cannot be sent ends in a failure instead of a response.
-/

namespace GrammarTables.Service

/-- Why there is no response to a request. -/
inductive Failure where
  | address (problem : AddressProblem)
  /-- A label of the host that the address names is not sound. -/
  | label (problem : Hostname.LabelProblem)
  /-- The service cannot be reached by the scheme of the address. -/
  | unknownScheme (scheme : String)
  /-- The host that the request asks for cannot be part of an address. -/
  | redirected (problem : AddressProblem)
  /-- A header field or a page has characters that cannot be sent. -/
  | unencodable (error : Text.EncodeError)
  /-- A body cannot be written as JSON. -/
  | unwritable (error : Json.WriteError)
  deriving DecidableEq, Repr

def Failure.message : Failure → String
  | address problem => problem.message
  | label problem => problem.message
  | unknownScheme scheme => Text.quoted scheme
  | redirected problem => "Invalid URL in location header: " ++ problem.message ++ "."
  | unencodable error => error.message
  | unwritable error => error.message

abbrev Headers : Type := List (String × String)

/-- The body of a request or a response. -/
inductive Body where
  | json (value : Json)
  | text (value : String)
  deriving Repr

/-- The text of a body. -/
def Body.written : Body → Except Failure String
  | json value => value.write.mapError .unwritable
  | text value => .ok value

def jsonType : String := "application/json"

/-- A request.  Its address is a path on the service or a whole URL. -/
structure Request where
  method : String
  address : String
  headers : Headers
  body : Body
  deriving Repr

namespace Request

/-- The value of a header field.  Names are compared without regard to case. -/
def header? (request : Request) (name : String) : Option String :=
  (request.headers.find? fun field =>
    field.1.toList.map Char.toLower == name.toList).map Prod.snd

/-- The content type of the body, which need not be given for JSON. -/
def contentType? (request : Request) : Option String :=
  match request.header? "content-type", request.body with
  | some value, _ => some value
  | none, .json _ => some jsonType
  | none, .text _ => none

/-- The error of sending the header fields. -/
def headerError? (request : Request) : Option Text.EncodeError :=
  request.headers.findSome? fun field =>
    (Text.Charset.ascii.error? (Text.codePoints field.1)).or
      (Text.Charset.ascii.error? (Text.codePoints field.2))

/-- The schemes by which the service can be reached. -/
def knownSchemes : List String := ["http", "https", "ws", "wss"]

/-- Why an address cannot be reached, which only matters for a whole URL.  A header field
with the host is taken in place of the host itself, which is then looked at last. -/
def placeFailure? (request : Request) (address : Address) : Option Failure :=
  let scheme := String.ofList address.scheme
  let unencodable := (Hostname.encodeError? address.host).map Failure.unencodable
  let unlabelled := (Hostname.encodedProblem? address.host).map Failure.label
  let unknown := if knownSchemes.contains scheme then none else some (.unknownScheme scheme)
  if !address.isWhole then none
  else if (request.header? "host").isSome then unencodable.or (unknown.or unlabelled)
  else unlabelled.or (unencodable.or unknown)

/-- Sends a request: the path on the service that it leads to, and the text of its body. -/
def sent (request : Request) : Except Failure (String × String) := do
  let address ← (Address.read request.address).mapError .address
  match request.headerError? with
  | some error => throw (.unencodable error)
  | none =>
    let text ← request.body.written
    match request.placeFailure? address with
    | some failure => throw failure
    | none => return (address.resolvedPath, text)

end Request

structure Response where
  status : Nat
  contentType : String
  headers : Headers
  body : Body
  deriving Repr

namespace Response

def ofJson (status : Nat) (value : Json) : Response := ⟨status, jsonType, [], .json value⟩

/-- A response that says in a word or two why there is no other. -/
def ofDetail (status : Nat) (detail : String) : Response :=
  ofJson status (.object [("detail", .text detail)])

def addHeaders (response : Response) (headers : Headers) : Response :=
  { response with headers := response.headers ++ headers }

/-- The response, if its body can be sent. -/
def checked (response : Response) : Except Failure Response :=
  response.body.written.map fun _ => response

end Response

end GrammarTables.Service
