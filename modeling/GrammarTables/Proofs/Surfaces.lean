import GrammarTables.Proofs.Command.Export
import GrammarTables.Proofs.Documents
import GrammarTables.Proofs.Service.Submission
import GrammarTables.Proofs.Text.Utf8

/-!
# The surfaces agree

A page can be transcribed by a command and by the service.  Both transcribe it alike and
differ only in how they deliver what comes of it: the command prints the literal of the
whole table or reports the defect, and the service answers with one or the other.
-/

namespace GrammarTables

open Command Service

/-! ## Documents of commands -/

/-- The document of a name has the bytes: the standard input, or the file of that name. -/
def Command.Workspace.Holds (workspace : Workspace) (name : String) (bytes : List UInt8) :
    Prop :=
  if isInputName name then workspace.input = bytes
  else workspace.readFile (Path.read name) (Path.read name).render = .ok bytes

/-- A document is read as its text, if that has no carriage returns. -/
theorem Command.Workspace.Holds.exists_readDocument {workspace : Workspace}
    {name page : String} (holds : workspace.Holds name page.toUTF8.toList)
    (noReturns : '\r' ∉ page.toList) :
    ∃ later, workspace.readDocument name = .ok (page, later) := by
  have decoded := Text.Utf8.readText_toUTF8 noReturns
  rw [Holds] at holds
  split at holds
  · next isInput =>
      refine ⟨{ workspace with input := [] }, ?_⟩
      simp only [readDocument, isInput, if_true, holds, decoded]
      rfl
  · next isFile =>
      refine ⟨workspace, ?_⟩
      simp only [readDocument, isFile, Bool.false_eq_true, if_false, holds]
      simp only [Except.mapError, bind, Except.bind, decoded]
      rfl

/-! ## The two surfaces -/

/-- The shapes of documents that both surfaces transcribe. -/
inductive Shape where
  | firstFollow
  | parseTable

namespace Shape

def program : Shape → Program
  | firstFollow => .firstFollow
  | parseTable => .parseTable

def route : Shape → Route
  | firstFollow => .firstFollow
  | parseTable => .parseTable

/-- The defect for which a page is abandoned. -/
def defect? (page : String) : Shape → Option Defect
  | firstFollow => (FirstFollowTable.transcribe page).defect?
  | parseTable => (ParseTable.transcribe page).defect?

/-- The text and the entries are those of the whole table that a page is transcribed to. -/
def IsWhole (page text : String) (entries : List Json) : Shape → Prop
  | firstFollow => ∃ table, (FirstFollowTable.transcribe page).outcome = .ok table ∧
      table.literal = .ok text ∧ entries = table.toList.map setEntryValue
  | parseTable => ∃ table, (ParseTable.transcribe page).outcome = .ok table ∧
      table.literal = .ok text ∧ table.toList.mapM parseEntryValue = .ok entries

end Shape

/-- Both surfaces deliver a text, and the service delivers entries with it.  The command
reports no error and writes no files. -/
structure Delivers (text : String) (entries : List Json) (run : Command.Run) (reply : Reply) :
    Prop where
  ending : run.ending = .exit 0 (text ++ "\n")
  errors : errorsOf run.events = []
  directories : run.directories = []
  files : run.files = []
  answer : reply.outcome = .ok (.ofJson 200 (tableValue text entries))

/-- Both surfaces refuse a page for a defect.  The command delivers nothing and reports one
error, whose message ends with that of the defect; the service answers with the class, the
summary and the details of the defect. -/
structure Refuses (defect : Defect) (run : Command.Run) (reply : Reply) : Prop where
  abandoned : ∃ activity, run.IsAbandoned activity defect
  message : ∃ front, (errorsOf run.events).map Event.message = [front ++ defect.message]
  answer : reply.outcome = .ok (.ofJson 422 (defectValue defect))

section Shared

variable {Table : Type} {transcribe : String → Transcription Table}
  {literal : Table → Except RenderError String} {value : Table → Except RenderError Json}
  {workspace later : Workspace} {flags : Flags} {page : String}

theorem delivers_of_outcome (activity path : String) (calm : (transcribe page).IsCalm)
    (read : workspace.readDocument ((flags.get? documentFlag).getD "-") = .ok (page, later))
    {table : Table} (ended : (transcribe page).outcome = .ok table) {text : String}
    {entries : List Json} (written : literal table = .ok text)
    (valued : value table = .ok (tableValue text entries)) (plain : Json.ArePlain entries) :
    Delivers text entries (printTable activity transcribe literal workspace flags)
      ⟨(replyTable path value (transcribe page)).events,
        (replyTable path value (transcribe page)).outcome.bind Response.checked⟩ := by
  have printed : printTable activity transcribe literal workspace flags =
      ⟨(transcribe page).events, [], [], .exit 0 (text ++ "\n")⟩ := by
    simp only [printTable, read, ended, written]
  have replied : (replyTable path value (transcribe page)).outcome =
      .ok (.ofJson 200 (tableValue text entries)) := by
    simp only [replyTable, ended, valued]
  rw [printed, replied]
  exact ⟨rfl, calm, rfl, rfl, checked_ofJson 200 (isPlain_tableValue text plain)⟩

theorem refuses_of_outcome (activity path : String) (calm : (transcribe page).IsCalm)
    (read : workspace.readDocument ((flags.get? documentFlag).getD "-") = .ok (page, later))
    {defect : Defect} (ended : (transcribe page).outcome = .error defect) :
    Refuses defect (printTable activity transcribe literal workspace flags)
      ⟨(replyTable path value (transcribe page)).events,
        (replyTable path value (transcribe page)).outcome.bind Response.checked⟩ := by
  have printed : printTable activity transcribe literal workspace flags =
      (Run.aborted activity defect).after (transcribe page).events := by
    simp only [printTable, read, ended]
  have replied : (replyTable path value (transcribe page)).outcome =
      .ok (.ofJson 422 (defectValue defect)) := by
    simp only [replyTable, ended]
    rfl
  have errors : errorsOf ((transcribe page).events ++ [.aborted activity defect]) =
      [.aborted activity defect] := by
    rw [errorsOf_append, calm, errorsOf_aborted, List.nil_append]
  rw [printed, replied]
  refine ⟨⟨activity, rfl, errors, rfl, rfl⟩, ⟨activity ++ " aborted: ", ?_⟩,
    checked_ofJson 422 (isPlain_defectValue defect)⟩
  change (errorsOf ((transcribe page).events ++ [.aborted activity defect])).map Event.message =
    _
  rw [errors]
  rfl

end Shared

/-! ## Whole tables -/

/-- A First/Follow table of a page has an answer with all of its entries. -/
theorem exists_firstFollowValue {page : String} {table : FirstFollowTable}
    (ended : (FirstFollowTable.ofDocument (.parse page)).outcome = .ok table) :
    ∃ text entries, table.literal = .ok text ∧
      firstFollowValue table = .ok (tableValue text entries) ∧ Json.ArePlain entries ∧
      Shape.IsWhole page text entries .firstFollow := by
  obtain ⟨text, written⟩ :=
    (FirstFollowTable.isLegible_of_outcome_ofDocument ended).isRenderable.literal
  have plain : Json.ArePlain (table.toList.map setEntryValue) := by
    rw [Json.arePlain_iff]
    intro value isValue
    obtain ⟨entry, -, rfl⟩ := List.mem_map.mp isValue
    exact isPlain_setEntryValue entry
  have valued : firstFollowValue table =
      .ok (tableValue text (table.toList.map setEntryValue)) := by
    rw [firstFollowValue, written]
    rfl
  exact ⟨text, _, written, valued, plain, table, ended, written, rfl⟩

theorem exists_parseTableValue {page : String} {table : ParseTable}
    (ended : (ParseTable.ofDocument (.parse page)).outcome = .ok table) :
    ∃ text entries, table.literal = .ok text ∧
      parseTableValue table = .ok (tableValue text entries) ∧ Json.ArePlain entries ∧
      Shape.IsWhole page text entries .parseTable := by
  have renderable := (ParseTable.isSound_of_outcome_ofDocument ended).isRenderable
  obtain ⟨text, written⟩ := renderable.literal
  have converts : ∀ entry ∈ table.toList, ∃ value, parseEntryValue entry = .ok value := by
    intro entry isEntry
    obtain ⟨body, bodyMade⟩ := exists_mapM_of_forall (renderable.values entry isEntry)
    exact ⟨_, by rw [parseEntryValue, bodyMade]; rfl⟩
  obtain ⟨entries, made⟩ := exists_mapM_of_forall converts
  have plain := arePlain_of_mapM (fun _ _ => isPlain_parseEntryValue) made
  have valued : parseTableValue table = .ok (tableValue text entries) := by
    rw [parseTableValue, made, written]
    rfl
  exact ⟨text, entries, written, valued, plain, table, ended, written, made⟩

/-! ## Agreement -/

/-- The command ends with exit code zero. -/
def Succeeds (run : Command.Run) : Prop := ∃ output, run.ending = .exit 0 output

/-- The service answers with status 200. -/
def IsAnswered (reply : Reply) : Prop :=
  ∃ response, reply.outcome = .ok response ∧ response.status = 200

/-- The surfaces agree on a page of a shape: both deliver the whole table, or both refuse the
page for its defect. -/
def Shape.Agrees (shape : Shape) (page : String) (run : Command.Run) (reply : Reply) : Prop :=
  match shape.defect? page with
  | none => ∃ text entries, shape.IsWhole page text entries ∧ Delivers text entries run reply
  | some defect => Refuses defect run reply

theorem Shape.Agrees.succeeds_iff {shape : Shape} {page : String} {run : Command.Run}
    {reply : Reply} (agrees : shape.Agrees page run reply) : Succeeds run ↔ IsAnswered reply := by
  rw [Agrees] at agrees
  cases found : shape.defect? page with
  | none =>
      rw [found] at agrees
      obtain ⟨text, entries, -, delivers⟩ := agrees
      exact iff_of_true ⟨_, delivers.ending⟩ ⟨_, delivers.answer, rfl⟩
  | some defect =>
      rw [found] at agrees
      obtain ⟨activity, abandoned⟩ := agrees.abandoned
      apply iff_of_false
      · intro succeeds
        obtain ⟨output, ended⟩ := succeeds
        rw [abandoned.ending] at ended
        cases ended
      · intro answered
        obtain ⟨response, replied, status⟩ := answered
        rw [agrees.answer] at replied
        cases replied
        cases status

/-- Surfaces that transcribe alike agree, if every table has an answer with all of its
entries. -/
theorem agrees_of_outcome {Table : Type} {shape : Shape}
    {transcribe : String → Transcription Table} {literal : Table → Except RenderError String}
    {value : Table → Except RenderError Json} {workspace later : Workspace} {flags : Flags}
    {page activity path : String}
    (read : workspace.readDocument ((flags.get? documentFlag).getD "-") = .ok (page, later))
    (prints : shape.program.runWith flags workspace =
      printTable activity transcribe literal workspace flags)
    (answers : ∀ request text, replyRoute request text shape.route =
      replyDocument request text fun page => replyTable path value (transcribe page))
    (isPost : shape.route.method = "POST")
    (defects : shape.defect? page = (transcribe page).defect?)
    (calm : (transcribe page).IsCalm)
    (whole : ∀ table, (transcribe page).outcome = .ok table →
      ∃ text entries, literal table = .ok text ∧ value table = .ok (tableValue text entries) ∧
        Json.ArePlain entries ∧ shape.IsWhole page text entries) :
    shape.Agrees page (shape.program.runWith flags workspace)
      (reply (submission shape.route page)) := by
  rw [prints, reply_submission shape.route _ answers isPost page, Shape.Agrees, defects,
    Transcription.defect?]
  cases ended : (transcribe page).outcome with
  | ok table =>
      obtain ⟨text, entries, written, valued, plain, isWhole⟩ := whole table ended
      exact ⟨text, entries, isWhole,
        delivers_of_outcome activity path calm read ended written valued plain⟩
  | error defect => exact refuses_of_outcome activity path calm read ended

/-- Both surfaces agree on every document without carriage returns, whether the command reads
it from a file or from the standard input.  The command succeeds exactly if the service
answers with status 200, and then it prints the text of the answer and a line feed. -/
theorem surfaces_agree (shape : Shape) {page : String} (noReturns : '\r' ∉ page.toList)
    (workspace : Workspace) (flags : Flags)
    (holds : workspace.Holds ((flags.get? documentFlag).getD "-") page.toUTF8.toList) :
    (Succeeds (shape.program.runWith flags workspace) ↔
        IsAnswered (reply (submission shape.route page))) ∧
      shape.Agrees page (shape.program.runWith flags workspace)
        (reply (submission shape.route page)) := by
  obtain ⟨later, read⟩ := holds.exists_readDocument noReturns
  have agrees : shape.Agrees page (shape.program.runWith flags workspace)
      (reply (submission shape.route page)) := by
    cases shape with
    | firstFollow =>
        exact agrees_of_outcome read rfl (fun _ _ => rfl) rfl rfl
          (FirstFollowTable.isCalm_transcribe page) fun _ => exists_firstFollowValue
    | parseTable =>
        exact agrees_of_outcome read rfl (fun _ _ => rfl) rfl rfl
          (ParseTable.isCalm_transcribe page) fun _ => exists_parseTableValue
  exact ⟨agrees.succeeds_iff, agrees⟩

/-- A file with a table of sets, and a page without a parse table in the standard input. -/
def mixedWorkspace : Workspace :=
  .ofFiles [("sets.html", "<p class=stats>".toUTF8.toList)] "<p>".toUTF8.toList

/-- The flags that name the file. -/
def fileFlags : Flags := ⟨[(documentFlag, .text "sets.html")]⟩

/-- The sets are delivered from the file, and the page in the standard input is refused. -/
theorem surfaces_agree_mixedWorkspace :
    (Succeeds (Program.firstFollow.runWith fileFlags mixedWorkspace) ∧
        IsAnswered (reply (submission .firstFollow "<p class=stats>"))) ∧
      Refuses (.missingHeader "table region '.parse_table'" none)
        (Program.parseTable.runWith ⟨[]⟩ mixedWorkspace)
        (reply (submission .parseTable "<p>")) := by
  constructor
  · have noReturns : '\r' ∉ "<p class=stats>".toList := by decide
    have holds : mixedWorkspace.Holds ((fileFlags.get? documentFlag).getD "-")
        "<p class=stats>".toUTF8.toList := by
      have name : (fileFlags.get? documentFlag).getD "-" = "sets.html" := by decide
      rw [name, Workspace.Holds, if_neg (by decide)]
      rfl
    have made : Shape.firstFollow.defect? "<p class=stats>" = none :=
      Option.isNone_iff_eq_none.mp (by decide +kernel)
    have agree := surfaces_agree .firstFollow noReturns mixedWorkspace fileFlags holds
    rw [Shape.Agrees, made] at agree
    have delivered := agree.right
    obtain ⟨text, entries, -, delivers⟩ := delivered
    have succeeds : Succeeds (Program.firstFollow.runWith fileFlags mixedWorkspace) :=
      ⟨_, delivers.ending⟩
    exact ⟨succeeds, agree.left.mp succeeds⟩
  · have noReturns : '\r' ∉ "<p>".toList := by decide
    have holds : mixedWorkspace.Holds ((Flags.get? ⟨[]⟩ documentFlag).getD "-")
        "<p>".toUTF8.toList := by
      have name : (Flags.get? ⟨[]⟩ documentFlag).getD "-" = "-" := by decide
      rw [name, Workspace.Holds, if_pos (by decide)]
      rfl
    have found : Shape.parseTable.defect? "<p>" =
        some (.missingHeader "table region '.parse_table'" none) := rfl
    have agree := surfaces_agree .parseTable noReturns mixedWorkspace ⟨[]⟩ holds
    rw [Shape.Agrees, found] at agree
    exact agree.right

end GrammarTables
