import GrammarTables.Service.Message

/-!
# Origins

Every origin may use the service.  A request that names its origin is told so, and before
it sends what it means to send it may ask whether it may.
-/

namespace GrammarTables.Service

/-- The header fields for a request that names its origin. -/
def originHeaders (request : Request) : Headers :=
  match request.header? "origin" with
  | none => []
  | some origin =>
    [("access-control-allow-credentials", "true"), ("access-control-allow-origin", origin)]

/-- The methods that every origin may use. -/
def sharedMethods : List String :=
  ["DELETE", "GET", "HEAD", "OPTIONS", "PATCH", "POST", "PUT", "QUERY"]

/-- What an origin asks for and may not have: a method that is not shared, and the way from
a public network into a private one. -/
def disallowed (request : Request) (method : String) : List String :=
  (if sharedMethods.contains method then [] else ["method"]) ++
    (if (request.header? "access-control-request-private-network").isSome then
      ["private-network"] else [])

/-- The answer to an origin that asks whether it may use a method. -/
def permission (request : Request) (method : String) : Response :=
  let requested :=
    match request.header? "access-control-request-headers" with
    | some names => [("access-control-allow-headers", names)]
    | none => []
  let headers := originHeaders request ++ requested ++
    [("access-control-allow-methods", ", ".intercalate sharedMethods),
      ("access-control-max-age", "600")]
  let (status, message) :=
    match disallowed request method with
    | [] => (200, "OK")
    | parts => (400, "Disallowed CORS " ++ ", ".intercalate parts)
  ⟨status, "text/plain; charset=utf-8", headers, .text message⟩

/-- The method that a request asks permission to use, if it does so. -/
def requestedMethod? (request : Request) : Option String :=
  match request.method == "OPTIONS", request.header? "origin" with
  | true, some _ => request.header? "access-control-request-method"
  | _, _ => none

end GrammarTables.Service
