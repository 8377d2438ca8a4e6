import GrammarTables.Command.Program
import GrammarTables.Proofs.Events
import GrammarTables.Proofs.Traversal

/-!
# Exports are all or nothing

The documents of an export are taken one after the other, each read and then transcribed,
and the first step that fails ends the command.  It decides how the command ends: nothing
has been made or written by then, whatever was transcribed before.  Only if no step fails
are tables written.
-/

namespace GrammarTables.Command

/-! ## The steps of an export -/

/-- How a step fails: a document cannot be read, or its page has a defect. -/
inductive Halt where
  | unreadable (error : ReadError)
  | defective (defect : Defect)

/-- What has been made of the given documents when all of them are transcribed, and what is
left of the workspace. -/
structure Gathered where
  sets : Option FirstFollowTable
  entries : Option ParseTable
  workspace : Workspace

namespace Gathered

/-- The files of the tables, and the error of the export if it has one. -/
def exported (gathered : Gathered) : Export.Run := Export.run gathered.sets gathered.entries

/-- The workspace once a directory for the files has been made, as far as that goes. -/
def destination (gathered : Gathered) (directory : Path) : Workspace :=
  gathered.workspace.withDirectories (gathered.workspace.makeDirectory directory).1

/-- The directory is there or can be made, and then every file of the export has a place in
it. -/
structure IsWritable (gathered : Gathered) (directory : Path) : Prop where
  made : (gathered.workspace.makeDirectory directory).2 = none
  places : ∀ asked ∈ gathered.exported.files, ∃ place,
    (gathered.destination directory).writable (directory.child asked.1) = .ok place

end Gathered

/-- Reads a document and transcribes it, if one is given, up to the first failure. -/
def gather {Table : Type} (document : Option String)
    (transcribe : String → Transcription Table) (workspace : Workspace) :
    Except Halt (Option Table × Workspace) :=
  match document with
  | none => .ok (none, workspace)
  | some name =>
    match workspace.readDocument name with
    | .error error => .error (.unreadable error)
    | .ok (page, later) =>
      match (transcribe page).outcome with
      | .error defect => .error (.defective defect)
      | .ok table => .ok (some table, later)

/-- The given documents are taken one after the other, up to the first failure. -/
def gatherAll (workspace : Workspace) (flags : Flags) : Except Halt Gathered := do
  let (sets, workspace) ←
    gather (givenValue flags firstFollowFlag) FirstFollowTable.transcribe workspace
  let (entries, workspace) ←
    gather (givenValue flags parseTableFlag) ParseTable.transcribe workspace
  return ⟨sets, entries, workspace⟩

section Gather

variable {Table : Type} {transcribe : String → Transcription Table}
  {workspace later : Workspace} {name page : String}

theorem gather_of_ok (read : workspace.readDocument name = .ok (page, later)) {table : Table}
    (ended : (transcribe page).outcome = .ok table) :
    gather (some name) transcribe workspace = .ok (some table, later) := by
  simp only [gather, read, ended]

theorem gather_of_error (read : workspace.readDocument name = .ok (page, later))
    {defect : Defect} (ended : (transcribe page).outcome = .error defect) :
    gather (some name) transcribe workspace = .error (.defective defect) := by
  simp only [gather, read, ended]

end Gather

/-- A defect of the second document is the first failure if the first document has none. -/
theorem gatherAll_of_second {workspace later last : Workspace} {flags : Flags}
    {sets entries page secondPage : String}
    (setsGiven : givenValue flags firstFollowFlag = some sets)
    (entriesGiven : givenValue flags parseTableFlag = some entries)
    (read : workspace.readDocument sets = .ok (page, later))
    (secondRead : later.readDocument entries = .ok (secondPage, last))
    {table : FirstFollowTable} (ended : (FirstFollowTable.transcribe page).outcome = .ok table)
    {defect : Defect}
    (secondEnded : (ParseTable.transcribe secondPage).outcome = .error defect) :
    gatherAll workspace flags = .error (.defective defect) := by
  rw [gatherAll, setsGiven, entriesGiven, gather_of_ok read ended]
  change (gather (some entries) ParseTable.transcribe later).bind _ = _
  rw [gather_of_error secondRead secondEnded]
  rfl

/-- The directory that receives the files. -/
def outputDirectory (flags : Flags) : Path := Path.read ((flags.get? directoryFlag).getD ".")

/-! ## How commands end -/

/-- The last name in the path of a written file. -/
def WrittenFile.name (file : WrittenFile) : String := file.path.parts.getLastD ""

/-- The file is in the directory, under the name and with the content that are asked for. -/
structure IsFileFor (workspace : Workspace) (directory : Path)
    (asked : String × Export.Content) (file : WrittenFile) : Prop where
  path_eq : file.path = directory.child asked.1
  content_eq : file.content = asked.2
  locates : workspace.locate file.path = .ok file.place

namespace Run

/-- The command fails with exit code one and without output, it reports the defect as its
only error, and it leaves nothing behind. -/
structure IsAbandoned (activity : String) (defect : Defect) (run : Run) : Prop where
  ending : run.ending = .exit 1 ""
  errors : errorsOf run.events = [.aborted activity defect]
  directories : run.directories = []
  files : run.files = []

/-- A document cannot be read, which ends the command with that failure.  It leaves nothing
behind. -/
structure IsUnread (error : ReadError) (run : Run) : Prop where
  ending : run.ending = .failure (.reading error)
  errors : errorsOf run.events = []
  directories : run.directories = []
  files : run.files = []

/-- The files written are those asked for, in order. -/
def HasFiles (directory : Path) (gathered : Gathered) (asked : List (String × Export.Content))
    (run : Run) : Prop :=
  List.Forall₂ (IsFileFor (gathered.destination directory) directory) asked run.files

/-- The command writes the tables, after events without errors.  It makes the directories that
the directory of the files needs and writes the files of the export, up to the first that
cannot be written.  If all of them can be, they are all written, and the command ends with the
error of the export or else with exit code zero; then it prints the names of the files. -/
structure IsWritten (directory : Path) (gathered : Gathered) (run : Run) : Prop where
  errors : errorsOf run.events = []
  writes : ∃ events, run = (writeTables directory gathered.sets gathered.entries
    gathered.workspace).after events
  directories : run.directories = (gathered.workspace.makeDirectory directory).1
  files : ∃ asked, asked <+: gathered.exported.files ∧ run.HasFiles directory gathered asked
  reaches : gathered.IsWritable directory →
    run.HasFiles directory gathered gathered.exported.files ∧
      (∀ error, gathered.exported.error = some error →
        run.ending = .failure (.exporting error)) ∧
      (gathered.exported.error = none → ∃ output, run.ending = .exit 0 output)
  complete : ∀ code output, run.ending = .exit code output →
    gathered.exported.error = none ∧ run.HasFiles directory gathered gathered.exported.files
  prints : ∀ code output, run.ending = .exit code output →
    code = 0 ∧
      output = "Wrote: " ++ ", ".intercalate (run.files.map WrittenFile.name) ++ "\n"

/-- The command does what the first failure says, or it writes if there is none. -/
def Accords (directory : Path) (steps : Except Halt Gathered) (run : Run) : Prop :=
  match steps with
  | .error (.defective defect) => run.IsAbandoned "Export" defect
  | .error (.unreadable error) => run.IsUnread error
  | .ok gathered => run.IsWritten directory gathered

theorem Accords.after {directory : Path} {steps : Except Halt Gathered} {run : Run}
    (accords : run.Accords directory steps) {events : List Event}
    (noErrors : errorsOf events = []) : (run.after events).Accords directory steps := by
  have errors : errorsOf (run.after events).events = errorsOf run.events := by
    change errorsOf (events ++ run.events) = errorsOf run.events
    rw [errorsOf_append, noErrors, List.nil_append]
  match steps with
  | .error (.defective defect) =>
      exact ⟨accords.ending, errors.trans accords.errors, accords.directories, accords.files⟩
  | .error (.unreadable error) =>
      exact ⟨accords.ending, errors.trans accords.errors, accords.directories, accords.files⟩
  | .ok gathered =>
      refine ⟨errors.trans accords.errors, ?_, accords.directories, accords.files,
        accords.reaches, accords.complete, accords.prints⟩
      obtain ⟨earlier, writes⟩ := accords.writes
      refine ⟨events ++ earlier, ?_⟩
      rw [writes, Run.after, Run.after, Run.after, List.append_assoc]

end Run

/-! ## Writing -/

theorem IsFileFor.name_eq {workspace : Workspace} {directory : Path}
    {asked : String × Export.Content} {file : WrittenFile}
    (isFile : IsFileFor workspace directory asked file) : file.name = asked.1 := by
  simp [WrittenFile.name, isFile.path_eq, Path.child]

theorem locate_of_writable {workspace : Workspace} {path : Path} {place : Place}
    (canWrite : workspace.writable path = .ok place) : workspace.locate path = .ok place := by
  rw [Workspace.writable] at canWrite
  split at canWrite
  · cases canWrite
  · next found located =>
      split at canWrite
      · cases canWrite
      · cases canWrite
        exact located

/-- Files are written in order, up to the first that cannot be. -/
theorem exists_prefix_writeFiles (workspace : Workspace) (directory : Path)
    (files : List (String × Export.Content)) :
    ∃ asked, asked <+: files ∧
      List.Forall₂ (IsFileFor workspace directory) asked
        (writeFiles workspace directory files).1 ∧
      ((writeFiles workspace directory files).2 = none → asked = files) := by
  induction files with
  | nil => exact ⟨[], List.prefix_rfl, .nil, fun _ => rfl⟩
  | cons file rest ih =>
      obtain ⟨asked, isPrefix, written, complete⟩ := ih
      rw [writeFiles]
      cases canWrite : workspace.writable (directory.child file.1) with
      | error error => exact ⟨[], List.nil_prefix, .nil, nofun⟩
      | ok place =>
          have isFile : IsFileFor workspace directory file
              ⟨directory.child file.1, place, file.2⟩ :=
            ⟨rfl, rfl, locate_of_writable canWrite⟩
          refine ⟨file :: asked, List.prefix_cons_inj file |>.mpr isPrefix,
            .cons isFile written, ?_⟩
          intro noError
          rw [complete noError]

/-- If every file has a place, then nothing stops the writing. -/
theorem error_writeFiles {workspace : Workspace} {directory : Path}
    {files : List (String × Export.Content)}
    (places : ∀ file ∈ files, ∃ place,
      workspace.writable (directory.child file.1) = .ok place) :
    (writeFiles workspace directory files).2 = none := by
  induction files with
  | nil => rfl
  | cons file rest ih =>
      obtain ⟨⟨place, canWrite⟩, others⟩ := List.forall_mem_cons.mp places
      rw [writeFiles, canWrite]
      exact ih others

section WriteTables

/-- Writes the tables of the documents. -/
def Gathered.write (gathered : Gathered) (directory : Path) : Run :=
  writeTables directory gathered.sets gathered.entries gathered.workspace

variable (gathered : Gathered) (directory : Path)

theorem events_write : (gathered.write directory).events = [] := by
  rw [Gathered.write, writeTables]
  split
  · rfl
  · dsimp only
    split <;> rfl

theorem directories_write :
    (gathered.write directory).directories =
      (gathered.workspace.makeDirectory directory).1 := by
  rw [Gathered.write, writeTables]
  split
  · next made => rw [made]
  · next made =>
      rw [made]
      dsimp only
      split <;> rfl

theorem files_write :
    (gathered.write directory).files =
      if (gathered.workspace.makeDirectory directory).2.isSome then []
      else (writeFiles (gathered.destination directory) directory gathered.exported.files).1 := by
  rw [Gathered.write, writeTables, Gathered.destination]
  split
  · next made => rw [made]; rfl
  · next made =>
      rw [made]
      dsimp only
      split <;> rfl

variable {gathered directory}

/-- What ends the writing is a directory that cannot be made, else a file that has no place,
else an error of the export. -/
theorem ending_write :
    (gathered.write directory).ending =
      match (gathered.workspace.makeDirectory directory).2 with
      | some error => .failure (.writing error)
      | none =>
        match (writeFiles (gathered.destination directory) directory
            gathered.exported.files).2 with
        | some error => .failure (.writing error)
        | none =>
          match gathered.exported.error with
          | some error => .failure (.exporting error)
          | none => .exit 0 ("Wrote: " ++
              ", ".intercalate (gathered.exported.files.map Prod.fst) ++ "\n") := by
  rw [Gathered.write, writeTables, Gathered.destination]
  split
  · next made => rw [made]
  · next made =>
      rw [made]
      dsimp only [Gathered.exported]
      split <;> simp only [*]

/-- The files written come from those of the export, up to the first without a place. -/
theorem exists_prefix_write :
    ∃ asked, asked <+: gathered.exported.files ∧
      (gathered.write directory).HasFiles directory gathered asked := by
  simp only [Run.HasFiles, files_write]
  split
  · exact ⟨[], List.nil_prefix, .nil⟩
  · obtain ⟨asked, isPrefix, written, -⟩ := exists_prefix_writeFiles
      (gathered.destination directory) directory gathered.exported.files
    exact ⟨asked, isPrefix, written⟩

/-- Unless the directory or a place stops it, all files are written. -/
theorem hasFiles_write (made : (gathered.workspace.makeDirectory directory).2 = none)
    (noError : (writeFiles (gathered.destination directory) directory
      gathered.exported.files).2 = none) :
    (gathered.write directory).HasFiles directory gathered gathered.exported.files := by
  obtain ⟨asked, -, written, complete⟩ := exists_prefix_writeFiles
    (gathered.destination directory) directory gathered.exported.files
  rw [complete noError] at written
  rw [Run.HasFiles, files_write, made]
  exact written

theorem reaches_write (writable : gathered.IsWritable directory) :
    (gathered.write directory).HasFiles directory gathered gathered.exported.files ∧
      (∀ error, gathered.exported.error = some error →
        (gathered.write directory).ending = .failure (.exporting error)) ∧
      (gathered.exported.error = none →
        ∃ output, (gathered.write directory).ending = .exit 0 output) := by
  have noError := error_writeFiles writable.places
  refine ⟨hasFiles_write writable.made noError, ?_, ?_⟩
  · intro error exportError
    rw [ending_write, writable.made, noError, exportError]
  · intro exportError
    rw [ending_write, writable.made, noError, exportError]
    exact ⟨_, rfl⟩

/-- Without a failure all files are written, and what is printed are their names in order. -/
theorem complete_write {code : Nat} {output : String}
    (ended : (gathered.write directory).ending = .exit code output) :
    gathered.exported.error = none ∧
      (gathered.write directory).HasFiles directory gathered gathered.exported.files ∧
      code = 0 ∧ output = "Wrote: " ++
        ", ".intercalate (gathered.exported.files.map Prod.fst) ++ "\n" := by
  rw [ending_write] at ended
  cases made : (gathered.workspace.makeDirectory directory).2 with
  | some error => simp [made] at ended
  | none =>
      cases noError : (writeFiles (gathered.destination directory) directory
          gathered.exported.files).2 with
      | some error => simp [made, noError] at ended
      | none =>
          cases exportError : gathered.exported.error with
          | some error => simp [made, noError, exportError] at ended
          | none =>
              simp only [made, noError, exportError, Ending.exit.injEq] at ended
              exact ⟨rfl, hasFiles_write made noError, ended.1.symm, ended.2.symm⟩

theorem isWritten_write (gathered : Gathered) (directory : Path) :
    (gathered.write directory).IsWritten directory gathered where
  errors := by rw [events_write, errorsOf_nil]
  writes := ⟨[], rfl⟩
  directories := directories_write gathered directory
  files := exists_prefix_write
  reaches := reaches_write
  complete _ _ ended := by
    obtain ⟨noError, written, -⟩ := complete_write ended
    exact ⟨noError, written⟩
  prints _ _ ended := by
    obtain ⟨-, written, isZero, output⟩ := complete_write ended
    rw [map_eq_map_of_forall₂ written fun _ _ isFile => isFile.name_eq]
    exact ⟨isZero, output⟩

end WriteTables

/-! ## Transcribing the documents -/

/-- One document is read and transcribed, and what comes next is done if there was no
failure. -/
theorem accords_withTable {Table : Type} {transcribe : String → Transcription Table}
    (calm : ∀ page, (transcribe page).IsCalm) {directory : Path}
    {next : Option Table → Workspace → Run}
    {rest : Option Table × Workspace → Except Halt Gathered}
    (accords : ∀ table later, (next table later).Accords directory (rest (table, later)))
    (document : Option String) (workspace : Workspace) :
    (withTable document transcribe workspace next).Accords directory
      ((gather document transcribe workspace).bind rest) := by
  cases document with
  | none => exact accords none workspace
  | some name =>
      simp only [withTable, gather]
      cases workspace.readDocument name with
      | error error => exact ⟨rfl, rfl, rfl, rfl⟩
      | ok found =>
          obtain ⟨page, later⟩ := found
          dsimp only
          cases (transcribe page).outcome with
          | error defect =>
              have aborted : (Run.aborted "Export" defect).Accords directory
                  (.error (.defective defect)) := ⟨rfl, rfl, rfl, rfl⟩
              exact aborted.after (calm page)
          | ok table =>
              -- What has been reported so far is no error, whatever happens next.
              exact (accords (some table) later).after (calm page)

/-- An export without failures writes, and with one it does what that says. -/
theorem accords_exportTables (workspace : Workspace) {flags : Flags}
    (given : (givenValue flags firstFollowFlag).isSome ∨
      (givenValue flags parseTableFlag).isSome) :
    (exportTables workspace flags).Accords (outputDirectory flags)
      (gatherAll workspace flags) := by
  have anyGiven : ((givenValue flags firstFollowFlag).isNone &&
      (givenValue flags parseTableFlag).isNone) = false := by
    rcases given with isGiven | isGiven <;> simp [Option.isNone_eq_false_iff.mpr isGiven]
  rw [exportTables]
  simp only [anyGiven, Bool.false_eq_true, if_false]
  apply accords_withTable FirstFollowTable.isCalm_transcribe
  intro sets later
  apply accords_withTable ParseTable.isCalm_transcribe
  intro entries last
  exact isWritten_write ⟨sets, entries, last⟩ _

theorem readDocument_input {workspace : Workspace} {page : String}
    (decoded : Text.Utf8.readText workspace.input = .ok page) :
    workspace.readDocument "-" = .ok (page, { workspace with input := [] }) := by
  have isInput : Workspace.isInputName "-" = true := by decide
  simp only [Workspace.readDocument, isInput, if_true, decoded]
  rfl

theorem exists_defect_of_empty :
    ∃ defect, (ParseTable.transcribe "").outcome = .error defect :=
  ⟨_, rfl⟩

/-- The standard input can be read once, so that of two documents in it the second is
empty. -/
theorem gatherAll_input {workspace : Workspace} {flags : Flags}
    (sets : givenValue flags firstFollowFlag = some "-")
    (entries : givenValue flags parseTableFlag = some "-") {page : String}
    (decoded : Text.Utf8.readText workspace.input = .ok page) :
    ∃ defect, gatherAll workspace flags = .error (.defective defect) := by
  have emptyDecoded : Text.Utf8.readText ({ workspace with input := [] } : Workspace).input =
      .ok "" := rfl
  cases ended : (FirstFollowTable.transcribe page).outcome with
  | error defect =>
      refine ⟨defect, ?_⟩
      rw [gatherAll, sets, gather_of_error (readDocument_input decoded) ended]
      rfl
  | ok table =>
      obtain ⟨defect, noTable⟩ := exists_defect_of_empty
      exact ⟨defect, gatherAll_of_second sets entries (readDocument_input decoded)
        (readDocument_input emptyDecoded) ended noTable⟩

/-- An export of at least one document is all or nothing.  The first step that fails, in the
order of the flags and each document read before it is transcribed, decides how the command
ends, and then nothing is written or made; only without failures are the tables of the
documents written.  If both documents are in the standard input, the export fails for some
defect. -/
theorem exportTables_all_or_nothing (workspace : Workspace) (flags : Flags)
    (given : (givenValue flags firstFollowFlag).isSome ∨
      (givenValue flags parseTableFlag).isSome) :
    (match gatherAll workspace flags with
      | .error (.defective defect) => (exportTables workspace flags).IsAbandoned "Export" defect
      | .error (.unreadable error) => (exportTables workspace flags).IsUnread error
      | .ok gathered =>
        (exportTables workspace flags).IsWritten (outputDirectory flags) gathered) ∧
    (givenValue flags firstFollowFlag = some "-" → givenValue flags parseTableFlag = some "-" →
      ∀ page, Text.Utf8.readText workspace.input = .ok page →
        ∃ defect, (exportTables workspace flags).IsAbandoned "Export" defect) := by
  have accords := accords_exportTables workspace given
  constructor
  · exact accords
  · intro sets entries page decoded
    obtain ⟨defect, found⟩ := gatherAll_input sets entries decoded
    rw [found] at accords
    exact ⟨defect, accords⟩

/-- A file with a table of sets, and a page without a parse table in the standard input. -/
def setsWorkspace : Workspace :=
  .ofFiles [("sets.html", "<p class=stats>".toUTF8.data.toList)] "<p>".toUTF8.data.toList

/-- The flags that give the file and the standard input. -/
def setsFlags : Flags := ⟨[(firstFollowFlag, .text "sets.html"), (parseTableFlag, .text "-")]⟩

/-- The sets are transcribed, and nothing is written. -/
theorem exportTables_all_or_nothing_setsWorkspace :
    (givenValue setsFlags firstFollowFlag).isSome ∧
      (FirstFollowTable.transcribe "<p class=stats>").defect? = none ∧
      (exportTables setsWorkspace setsFlags).IsAbandoned "Export"
        (.missingHeader "table region '.parse_table'" none) := by
  have given : (givenValue setsFlags firstFollowFlag).isSome := rfl
  have sets : givenValue setsFlags firstFollowFlag = some "sets.html" := rfl
  have entries : givenValue setsFlags parseTableFlag = some "-" := rfl
  have setsRead : setsWorkspace.readDocument "sets.html" =
      .ok ("<p class=stats>", setsWorkspace) := rfl
  have decoded : Text.Utf8.readText setsWorkspace.input = .ok "<p>" := rfl
  have setsMade : (FirstFollowTable.transcribe "<p class=stats>").defect? = none :=
    Option.isNone_iff_eq_none.mp (by decide +kernel)
  have noEntries : (ParseTable.transcribe "<p>").outcome =
      .error (.missingHeader "table region '.parse_table'" none) := rfl
  obtain ⟨table, ended⟩ : ∃ table, (FirstFollowTable.transcribe "<p class=stats>").outcome =
      .ok table := by
    rw [Transcription.defect?] at setsMade
    cases ended : (FirstFollowTable.transcribe "<p class=stats>").outcome with
    | ok table => exact ⟨table, rfl⟩
    | error defect => simp [ended] at setsMade
  have failure := gatherAll_of_second sets entries setsRead (readDocument_input decoded) ended
    noEntries
  have outcome := exportTables_all_or_nothing setsWorkspace setsFlags (.inl given)
  rw [failure] at outcome
  exact ⟨given, setsMade, outcome.left⟩

end GrammarTables.Command
