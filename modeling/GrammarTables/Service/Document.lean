import GrammarTables.Json.Reader
import GrammarTables.Service.Message
import GrammarTables.Text.Encoding

/-!
# Submitted documents

A transcription is asked for with a JSON object whose member `document` is the text of a
page.  Whatever else a request carries is refused, with a description of what is wrong and
where.
-/

namespace GrammarTables.Service

/-- Why a request does not submit a document. -/
inductive Refusal where
  /-- There is no body. -/
  | missingBody
  /-- The body is not an object. -/
  | notObject (body : Json)
  /-- The object has no document. -/
  | missingDocument (body : Json)
  /-- The document is not a text. -/
  | notText (document : Json)
  /-- The body is declared as JSON and is none. -/
  | malformed (error : Json.SyntaxError)
  /-- The body is declared as JSON and cannot be read. -/
  | unreadable
  deriving Repr

namespace Refusal

/-- Whether a member of an object is kept to itself. -/
def isPrivateName (name : CodeText) : Bool :=
  (Text.codePoints "_sa").isPrefixOf name.codes

mutual

/-- A value as it is shown to who sent it: without private members. -/
def shown : Json → Json
  | .array items => .array (shownItems items)
  | .object members => .object (shownMembers members)
  | value => value

def shownItems : List Json → List Json
  | [] => []
  | item :: rest => shown item :: shownItems rest

def shownMembers : List (CodeText × Json) → List (CodeText × Json)
  | [] => []
  | (name, value) :: rest =>
    if isPrivateName name then shownMembers rest else (name, shown value) :: shownMembers rest

end

/-- The description of one thing that is wrong, with further members if there are any. -/
def issue (type : String) (place : List Json) (message : String) (input : Json)
    (more : List (CodeText × Json)) : Json :=
  .object (("type", .text type) :: ("loc", .array place) :: ("msg", .text message) ::
    ("input", shown input) :: more)

/-- The place of the body, and of the document in it. -/
def bodyPlace : List Json := [.text "body"]

def documentPlace : List Json := bodyPlace ++ [.text "document"]

/-- The response that describes one thing that is wrong. -/
def ofIssue (issue : Json) : Response := .ofJson 422 (.object [("detail", .array [issue])])

/-- The response to a request that is refused. -/
def response : Refusal → Response
  | missingBody => ofIssue (issue "missing" bodyPlace "Field required" .null [])
  | notObject body =>
    ofIssue (issue "model_attributes_type" bodyPlace
      "Input should be a valid dictionary or object to extract fields from" body [])
  | missingDocument body => ofIssue (issue "missing" documentPlace "Field required" body [])
  | notText document =>
    ofIssue (issue "string_type" documentPlace "Input should be a valid string" document [])
  | malformed error =>
    ofIssue (issue "json_invalid" (bodyPlace ++ [.integer error.position]) "JSON decode error"
      (.object []) [("ctx", .object [("error", .text error.problem.message)])])
  | unreadable => .ofDetail 400 "There was an error parsing the body"

end Refusal

/-- The media type of a content type: what is in front of its parameters. -/
def mediaType (contentType : String) : List Char :=
  (Text.trimWhere Text.isBlank (contentType.toList.takeWhile (· != ';'))).map Char.toLower

/-- Whether a content type is that of JSON, or of a format that is written in JSON. -/
def isJsonType (contentType : String) : Bool :=
  let value := mediaType contentType
  let subtype := value.drop "application/".length
  "application/".toList.isPrefixOf value && !subtype.contains '/' &&
    (subtype == "json".toList || "+json".toList.isSuffixOf subtype)

/-- Reads a text that is declared as JSON.  Its encoding is recognized by its bytes. -/
def readDeclared (text : String) : Except Refusal Json :=
  match Text.decodeRecognized? text.toUTF8.toList with
  | none => .error .unreadable
  | some points =>
    match Json.parsePoints points with
    | .ok value => .ok value
    | .error error => .error (if error.problem.isLimit then .unreadable else .malformed error)

/-- The value of the body of a request, whose text is given, if there is one.  A body that
is not declared as JSON is a text. -/
def bodyValue (request : Request) (text : String) : Except Refusal Json :=
  let isDeclared := (request.contentType?.map isJsonType).getD false
  match isDeclared, request.body with
  | true, .json value => .ok value
  | true, .text "" => .error .missingBody
  | true, .text text => readDeclared text
  | false, _ => if text.isEmpty then .error .missingBody else .ok (.text text)

def submittedDocument (request : Request) (text : String) : Except Refusal CodeText := do
  match ← bodyValue request text with
  | .object members =>
    match members.lookup (.whole "document") with
    | some (.text page) => return page
    | some other => throw (.notText other)
    | none => throw (.missingDocument (.object members))
  | other => throw (.notObject other)

/-- The page of a document.  A mark in front of it is not counted as part of the page. -/
def pageOf : CodeText → Except Failure String
  | .whole page => .ok page
  | .broken codes =>
    let unmarked := if codes.head? == some 0xFEFF then codes.drop 1 else codes
    match Text.Charset.utf8.error? unmarked with
    | some error => .error (.unencodable error)
    | none => .ok (CodeText.broken codes).repaired

end GrammarTables.Service
