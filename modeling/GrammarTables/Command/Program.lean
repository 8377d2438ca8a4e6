import GrammarTables.Command.CommandLine
import GrammarTables.Export.Files
import GrammarTables.Literal.Table

/-!
# Commands

Three commands transcribe documents.  Two of them print a table as literals, and the third
exports one table or both to files.  A defect in a document is reported and makes the
command fail without output; whatever else goes wrong is a failure of its own.
-/

namespace GrammarTables.Command

inductive Program where
  | firstFollow
  | parseTable
  | exportFiles
  deriving DecidableEq, Repr

/-- What goes wrong apart from defects. -/
inductive Failure where
  | flags (error : FlagError)
  | usage (message : String)
  | reading (error : ReadError)
  | writing (error : FileError)
  | exporting (error : Export.Error)
  | rendering (error : RenderError)
  deriving Repr

def Failure.message : Failure → String
  | flags error => error.message
  | usage message => message
  | reading error => error.message
  | writing error => error.message
  | exporting error => error.message
  | rendering error => error.message

/-- How a command ends: with an exit code and what it printed, or with a failure. -/
inductive Ending where
  | exit (code : Nat) (output : String)
  | failure (failure : Failure)
  deriving Repr

/-- A file that is written: its path, the place to which that leads, and its content. -/
structure WrittenFile where
  path : Path
  place : Place
  content : Export.Content
  deriving Repr

/-- What a command does: the events it reports, the directories it makes, the files it
writes, and how it ends. -/
structure Run where
  events : List Event
  directories : List MadeDirectory
  files : List WrittenFile
  ending : Ending

namespace Run

/-- A command that fails at once. -/
def failed (failure : Failure) : Run := ⟨[], [], [], .failure failure⟩

/-- The command with earlier events in front. -/
def after (events : List Event) (run : Run) : Run := { run with events := events ++ run.events }

/-- The command with those of its events that flags let through. -/
def reporting (flags : Flags) (run : Run) : Run :=
  { run with events := run.events.filter flags.reports }

/-- A command that a defect ends. -/
def aborted (activity : String) (defect : Defect) : Run :=
  ⟨[.aborted activity defect], [], [], .exit 1 ""⟩

end Run

/-- The flag that names the document of the printing commands. -/
def documentFlag : String := "document"

/-- Prints the literal of the table of one document. -/
def printTable {Table : Type} (activity : String) (transcribe : String → Transcription Table)
    (literal : Table → Except RenderError String) (workspace : Workspace) (flags : Flags) :
    Run :=
  match workspace.readDocument ((flags.get? documentFlag).getD "-") with
  | .error error => .failed (.reading error)
  | .ok (page, _) =>
    let transcription := transcribe page
    match transcription.outcome with
    | .error defect => (Run.aborted activity defect).after transcription.events
    | .ok table =>
      match literal table with
      | .error error => (Run.failed (.rendering error)).after transcription.events
      | .ok text => ⟨transcription.events, [], [], .exit 0 (text ++ "\n")⟩

/-- The flags of the exporting command that name documents, and the one for the directory
that receives the files. -/
def firstFollowFlag : String := "first_follow"

def parseTableFlag : String := "ll1_table"

def directoryFlag : String := "out_dir"

/-- The value of a flag, unless it is empty. -/
def givenValue (flags : Flags) (name : String) : Option String :=
  (flags.get? name).filter fun value => !value.isEmpty

/-- Transcribes a document for an export, if there is one, and goes on with its table. -/
def withTable {Table : Type} (document : Option String)
    (transcribe : String → Transcription Table) (workspace : Workspace)
    (next : Option Table → Workspace → Run) : Run :=
  match document with
  | none => next none workspace
  | some name =>
    match workspace.readDocument name with
    | .error error => .failed (.reading error)
    | .ok (page, workspace) =>
      let transcription := transcribe page
      match transcription.outcome with
      | .error defect => (Run.aborted "Export" defect).after transcription.events
      | .ok table => (next (some table) workspace).after transcription.events

/-- Writes files to a directory, up to the first that cannot be written. -/
def writeFiles (workspace : Workspace) (directory : Path) :
    List (String × Export.Content) → List WrittenFile × Option FileError
  | [] => ([], none)
  | (name, content) :: rest =>
    let path := directory.child name
    match workspace.writable path with
    | .error error => ([], some error)
    | .ok place =>
      let (written, error) := writeFiles workspace directory rest
      (⟨path, place, content⟩ :: written, error)

/-- Writes tables to a directory, which is made if it is missing.  What is made and written
before an error remains. -/
def writeTables (directory : Path) (firstFollow : Option FirstFollowTable)
    (parseTable : Option ParseTable) (workspace : Workspace) : Run :=
  match workspace.makeDirectory directory with
  | (made, some error) => ⟨[], made, [], .failure (.writing error)⟩
  | (made, none) =>
    let exported := Export.run firstFollow parseTable
    let (written, stopped) :=
      writeFiles (workspace.withDirectories made) directory exported.files
    match stopped, exported.error with
    | some error, _ => ⟨[], made, written, .failure (.writing error)⟩
    | none, some error => ⟨[], made, written, .failure (.exporting error)⟩
    | none, none =>
      let names := ", ".intercalate (exported.files.map Prod.fst)
      ⟨[], made, written, .exit 0 ("Wrote: " ++ names ++ "\n")⟩

/-- Exports the tables of the given documents.  Nothing is written before all of them have
been transcribed. -/
def exportTables (workspace : Workspace) (flags : Flags) : Run :=
  let firstFollow := givenValue flags firstFollowFlag
  let parseTable := givenValue flags parseTableFlag
  if firstFollow.isNone && parseTable.isNone then
    .failed (.usage "Pass --first_follow and/or --ll1_table.")
  else
    let directory := Path.read ((flags.get? directoryFlag).getD ".")
    withTable firstFollow FirstFollowTable.transcribe workspace fun sets workspace =>
      withTable parseTable ParseTable.transcribe workspace fun entries workspace =>
        writeTables directory sets entries workspace

namespace Program

/-- The flags of a command, without those of every command. -/
def flagNames : Program → List String
  | firstFollow | parseTable => [documentFlag]
  | exportFiles => [firstFollowFlag, parseTableFlag, directoryFlag]

def flagDefinitions (program : Program) : List FlagDefinition :=
  program.flagNames.map .ofText ++ FlagDefinition.common

def runWith (program : Program) (flags : Flags) (workspace : Workspace) : Run :=
  match program with
  | firstFollow =>
    printTable "FIRST/FOLLOW transcription" FirstFollowTable.transcribe
      FirstFollowTable.literal workspace flags
  | parseTable =>
    printTable "LL(1) table transcription" ParseTable.transcribe ParseTable.literal
      workspace flags
  | exportFiles => exportTables workspace flags

/-- Runs a command on its arguments. -/
def run (program : Program) (arguments : List String) (workspace : Workspace) : Run :=
  match Flags.read program.flagDefinitions workspace arguments with
  | .error error => .failed (.flags error)
  | .ok flags => (program.runWith flags workspace).reporting flags

end Program

end GrammarTables.Command
