import GrammarTables.Export.Rows
import GrammarTables.Literal.Table
import GrammarTables.Service.Document
import GrammarTables.Service.Origin
import GrammarTables.Service.Redirect
import GrammarTables.Text.LetterCase

/-!
# The service

The web service that transcribes submitted documents.  Each of its paths answers one
method.  A table is answered as a literal together with its entries; a defect is answered
with its class, its summary and the display forms of its details, and is reported.
-/

namespace GrammarTables.Service

/-- The paths that the service answers. -/
inductive Route where
  | index
  | health
  | firstFollow
  | parseTable
  deriving DecidableEq, Repr

namespace Route

/-- The paths in the order in which they are tried. -/
def all : List Route := [index, health, firstFollow, parseTable]

def path : Route → String
  | index => "/"
  | health => "/health"
  | firstFollow => "/api/first-follow"
  | parseTable => "/api/ll1-table"

def method : Route → String
  | index | health => "GET"
  | firstFollow | parseTable => "POST"

/-- The route of exactly this path. -/
def ofPath? (path : String) : Option Route := all.find? fun route => route.path == path

/-- The route that a request for a path leads to.  Slashes at the end of a path which has
no route itself do not matter. -/
def find? (path : String) : Option Route :=
  match ofPath? path with
  | some route => some route
  | none =>
    if path.toList.getLast? == some '/' then
      ofPath? (String.ofList (path.toList.reverse.dropWhile (· == '/')).reverse)
    else none

end Route

/-- What the service does for a request: the events it reports, and its response if there
is one. -/
structure Reply where
  events : List Event
  outcome : Except Failure Response

/-- The page that describes the service. -/
def indexPage : String :=
  "<h2>LL(1) Table Transcriber API</h2>" ++
    "<p>POST <code>/api/first-follow</code> or <code>/api/ll1-table</code> with JSON: " ++
    "<code>\x7b\"document\": \"&lt;html&gt;...\"\x7d</code></p>"

/-- The response to a defect. -/
def defectResponse (defect : Defect) : Response :=
  .ofJson 422 (.object [("error", .text defect.code), ("message", .text defect.summary),
    ("context", .object (defect.details.map fun detail =>
      (detail.1, .text detail.2.display)))])

/-- The report of a defect that a request for a path met with. -/
def defectEvent (path : String) (defect : Defect) : Event :=
  .aborted ("Transcription of " ++ path) defect

/-- The display names of the members of a set. -/
def setValue (members : List Terminal) : Json :=
  .array (members.map fun member => .text member.display)

def setEntryValue (entry : String × SetEntry) : Json :=
  .object [("nonterminal", .text entry.1), ("first", setValue entry.2.first),
    ("follow", setValue entry.2.follow)]

/-- A reference in an answered production. -/
def referenceValue : SymbolRef → Except RenderError Json
  | .terminal symbol => .ok (.object [("kind", .text "term"), ("value", .text symbol.display)])
  | .nonterminal name => .ok (.object [("kind", .text "nonterm"), ("value", .text name)])
  | .action name kind => .ok (.object [("kind", .text kind), ("value", .text name)])
  | .foreign value => .error value.refusal

def parseEntryValue (entry : ParseKey × List SymbolRef) : Except RenderError Json :=
  (entry.2.mapM referenceValue).map fun body =>
    .object [("nonterminal", .text entry.1.1), ("terminal", .text entry.1.2.display),
      ("body", .array body)]

def firstFollowValue (table : FirstFollowTable) : Except RenderError Json :=
  table.literal.map fun literal =>
    .object [("text", .text literal), ("entries", .array (table.toList.map setEntryValue))]

def parseTableValue (table : ParseTable) : Except RenderError Json := do
  let entries ← table.toList.mapM parseEntryValue
  let literal ← table.literal
  return .object [("text", .text literal), ("entries", .array entries)]

/-- Answers a transcription.  A table read from a page can always be rendered. -/
def replyTable {Table : Type} (path : String) (value : Table → Except RenderError Json)
    (run : Transcription Table) : Reply :=
  match run.outcome with
  | .ok table =>
    match value table with
    | .ok answer => ⟨run.events, .ok (.ofJson 200 answer)⟩
    | .error _ => ⟨run.events, .ok (.ofDetail 500 "Internal Server Error")⟩
  | .error defect =>
    ⟨run.events ++ [defectEvent path defect], .ok (defectResponse defect)⟩

def replyFirstFollow (page : String) : Reply :=
  replyTable Route.firstFollow.path firstFollowValue (FirstFollowTable.transcribe page)

def replyParseTable (page : String) : Reply :=
  replyTable Route.parseTable.path parseTableValue (ParseTable.transcribe page)

/-- Answers the document that a request submits in a body of the given text. -/
def replyDocument (request : Request) (text : String) (reply : String → Reply) : Reply :=
  match submittedDocument request text with
  | .error refusal => ⟨[], .ok refusal.response⟩
  | .ok document =>
    match pageOf document with
    | .ok page => reply page
    | .error failure => ⟨[], .error failure⟩

/-- Answers a request for a route with the route's method and a body of the given text. -/
def replyRoute (request : Request) (text : String) : Route → Reply
  | .index => ⟨[], .ok ⟨200, "text/html; charset=utf-8", [], .text indexPage⟩⟩
  | .health => ⟨[], .ok (.ofJson 200 (.object [("status", .text "ok")]))⟩
  | .firstFollow => replyDocument request text replyFirstFollow
  | .parseTable => replyDocument request text replyParseTable

/-- Answers a request for a path, whatever its origin. -/
def replyPath (request : Request) (path text : String) : Reply :=
  match Route.find? path with
  | none => ⟨[], .ok (.ofDetail 404 "Not Found")⟩
  | some route =>
    match if route.path == path then none else redirectFailure? request with
    | some failure => ⟨[], .error failure⟩
    | none =>
      if request.method == route.method then replyRoute request text route
      else
        ⟨[], .ok ((Response.ofDetail 405 "Method Not Allowed").addHeaders
          [("allow", route.method)])⟩

/-- The response as it is sent to who made a request.  The answer to a request for the head
of a response has no body. -/
def finished (request : Request) (response : Response) : Except Failure Response :=
  (response.addHeaders (originHeaders request)).checked.map fun response =>
    if request.method == "HEAD" then { response with body := .text "" } else response

/-- Answers a request that has been sent, given its path and the text of its body. -/
def replySent (request : Request) (path text : String) : Reply :=
  match requestedMethod? request with
  | some method => ⟨[], .ok (permission request method)⟩
  | none =>
    let reply := replyPath request path text
    { reply with outcome := reply.outcome.bind (finished request) }

/-- Answers a request.  The name of its method may be written in either case. -/
def reply (request : Request) : Reply :=
  match request.sent with
  | .error failure => ⟨[], .error failure⟩
  | .ok (path, text) =>
    replySent { request with method := Text.upperCase request.method } path text

end GrammarTables.Service
