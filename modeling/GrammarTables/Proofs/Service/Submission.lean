import GrammarTables.Proofs.Json.Writing
import GrammarTables.Proofs.Traversal
import GrammarTables.Service.Answer

/-!
# Submitting a document

A request that posts a document to the path of a route reaches that route, and its response
is sent if its body can be written.  The answers to documents have texts and objects only,
so that they can be.
-/

namespace GrammarTables.Service

/-! ## The request -/

/-- The request that posts a page to a route. -/
def submission (route : Route) (page : String) : Request :=
  ⟨"POST", route.path, [], .json (.object [("document", .text page)])⟩

/-- The path of a route is an address of its own. -/
theorem exists_address (route : Route) :
    ∃ address, Address.read route.path = .ok address ∧ address.isWhole = false ∧
      address.resolvedPath = route.path := by
  cases route <;> exact ⟨_, rfl, by decide +kernel, by decide +kernel⟩

/-- A plain body has a text. -/
theorem exists_written {value : Json} (plain : value.IsPlain) :
    ∃ text, (Body.json value).written = .ok text := by
  obtain ⟨text, written⟩ := plain.exists_write
  exact ⟨text, by rw [Body.written, written]; rfl⟩

theorem isPlain_submission (page : String) :
    Json.IsPlain (.object [("document", .text page)]) :=
  ⟨trivial, trivial, trivial⟩

theorem exists_sent_submission (route : Route) (page : String) :
    ∃ text, (submission route page).sent = .ok (route.path, text) := by
  obtain ⟨address, read, notWhole, path⟩ := exists_address route
  obtain ⟨text, written⟩ := exists_written (isPlain_submission page)
  have noPlaceFailure : (submission route page).placeFailure? address = none := by
    simp [Request.placeFailure?, notWhole]
  refine ⟨text, ?_⟩
  have addressRead : Address.read (submission route page).address = .ok address := read
  have bodyWritten : (submission route page).body.written = .ok text := written
  have noHeaderError : (submission route page).headerError? = none := rfl
  simp only [Request.sent, addressRead, bodyWritten, noHeaderError, Except.mapError, bind,
    Except.bind, noPlaceFailure, path]
  rfl

theorem submittedDocument_submission (route : Route) (page text : String) :
    submittedDocument (submission route page) text = .ok (.whole page) := by
  have isDeclared : isJsonType jsonType = true := by decide +kernel
  have value : bodyValue (submission route page) text =
      .ok (.object [("document", .text page)]) := by
    have contentType : (submission route page).contentType? = some jsonType := rfl
    simp only [bodyValue, contentType, Option.map_some, isDeclared]
    rfl
  rw [submittedDocument, value]
  rfl

/-! ## The response -/

theorem find?_path (route : Route) : Route.find? route.path = some route := by
  cases route <;> decide

theorem upperCase_submission (route : Route) (page : String) :
    { submission route page with method := Text.upperCase (submission route page).method } =
      submission route page := by
  have upper : Text.upperCase "POST" = "POST" := by decide +kernel
  change Request.mk (Text.upperCase "POST") _ _ _ = _
  rw [upper]
  rfl

/-- The response to a submission is sent as it is: no origin is named, and a body is asked
for. -/
theorem finished_submission (route : Route) (page : String) :
    finished (submission route page) = Response.checked := by
  funext response
  have noHeaders : response.addHeaders (originHeaders (submission route page)) = response := by
    obtain ⟨status, contentType, headers, body⟩ := response
    change Response.mk status contentType (headers ++ []) body = _
    rw [List.append_nil]
  have notHead : ((submission route page).method == "HEAD") = false := by
    change ("POST" == "HEAD") = false
    decide
  simp only [finished, noHeaders, notHead, Bool.false_eq_true, if_false]
  cases response.checked <;> rfl

theorem replyPath_submission (route : Route) (answer : String → Reply)
    (answers : ∀ request text, replyRoute request text route = replyDocument request text answer)
    (isPost : route.method = "POST") (page text : String) :
    replyPath (submission route page) route.path text = answer page := by
  have isRoutes : ((submission route page).method == route.method) = true := by
    rw [isPost]
    rfl
  simp only [replyPath, find?_path, beq_self_eq_true, if_true, isRoutes, answers,
    replyDocument, submittedDocument_submission, pageOf]

/-- What is answered to a submission: what the route answers to the page, if it can be sent
as it is. -/
theorem reply_submission (route : Route) (answer : String → Reply)
    (answers : ∀ request text, replyRoute request text route = replyDocument request text answer)
    (isPost : route.method = "POST") (page : String) :
    reply (submission route page) =
      ⟨(answer page).events, (answer page).outcome.bind Response.checked⟩ := by
  obtain ⟨text, sent⟩ := exists_sent_submission route page
  have notAsked : requestedMethod? (submission route page) = none := rfl
  simp only [reply, sent, upperCase_submission, replySent, notAsked,
    replyPath_submission route answer answers isPost, finished_submission]

/-! ## Answers that can be sent -/

theorem isPlain_setValue (members : List Terminal) : (setValue members).IsPlain := by
  rw [setValue, Json.IsPlain, Json.arePlain_iff]
  intro item isItem
  obtain ⟨symbol, -, rfl⟩ := List.mem_map.mp isItem
  exact trivial

theorem isPlain_setEntryValue (entry : String × SetEntry) : (setEntryValue entry).IsPlain :=
  ⟨trivial, trivial, trivial, isPlain_setValue _, trivial, isPlain_setValue _, trivial⟩

theorem isPlain_referenceValue {reference : SymbolRef} {value : Json}
    (made : referenceValue reference = .ok value) : value.IsPlain := by
  cases reference with
  | foreign other => cases made
  | terminal | nonterminal | action =>
      cases made
      exact ⟨trivial, trivial, trivial, trivial, trivial⟩

theorem arePlain_of_mapM {Item : Type} {convert : Item → Except RenderError Json}
    (plain : ∀ item value, convert item = .ok value → value.IsPlain) {items : List Item}
    {values : List Json} (made : items.mapM convert = .ok values) : Json.ArePlain values :=
  (Json.arePlain_iff values).mpr (forall_mem_of_mapM made fun item _ => plain item)

theorem isPlain_parseEntryValue {entry : ParseKey × List SymbolRef} {value : Json}
    (made : parseEntryValue entry = .ok value) : value.IsPlain := by
  obtain ⟨body, bodyMade, rfl⟩ := (map_eq_ok_iff ..).mp made
  exact ⟨trivial, trivial, trivial, trivial, trivial,
    arePlain_of_mapM (fun _ _ => isPlain_referenceValue) bodyMade, trivial⟩

/-- The answer with a text and entries. -/
def tableValue (text : String) (entries : List Json) : Json :=
  .object [("text", .text text), ("entries", .array entries)]

theorem isPlain_tableValue (text : String) {entries : List Json}
    (plain : Json.ArePlain entries) : (tableValue text entries).IsPlain :=
  ⟨trivial, trivial, trivial, plain, trivial⟩

/-- The answer that describes a defect. -/
def defectValue (defect : Defect) : Json :=
  .object [("error", .text defect.code), ("message", .text defect.summary),
    ("context", .object (defect.details.map fun detail => (detail.1, .text detail.2.display)))]

theorem isPlain_defectValue (defect : Defect) : (defectValue defect).IsPlain := by
  refine ⟨trivial, trivial, trivial, trivial, trivial, ?_, trivial⟩
  rw [Json.IsPlain, Json.membersArePlain_iff]
  intro member isMember
  obtain ⟨detail, -, rfl⟩ := List.mem_map.mp isMember
  exact ⟨trivial, trivial⟩

theorem checked_ofJson (status : Nat) {value : Json} (plain : value.IsPlain) :
    (Response.ofJson status value).checked = .ok (.ofJson status value) := by
  obtain ⟨text, written⟩ := exists_written plain
  have bodyWritten : (Response.ofJson status value).body.written = .ok text := written
  rw [Response.checked, bodyWritten]
  rfl

end GrammarTables.Service
