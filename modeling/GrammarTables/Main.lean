import GrammarTables.Command.Program

/-!
# Command line

`grammar-tables COMMAND ARGUMENTS` with one of the commands `first-follow`, `ll1-table`
and `export`.  Events are printed to the standard error, each with its level.

The container format of spreadsheet programs is not produced: the file of a workbook has
the titles and cells of its sheets as text, divided by tabulators.
-/

namespace GrammarTables.CommandLine

open Command

def programOf? (name : String) : Option Program :=
  if name == "first-follow" then some .firstFollow
  else if name == "ll1-table" then some .parseTable
  else if name == "export" then some .exportFiles
  else none

/-- The text of a file that is written. -/
def contentText : Export.Content → String
  | .text value => value
  | .workbook sheets =>
    let sheetText (sheet : Sheet) : String :=
      let lines := sheet.cells.map fun row =>
        "\t".intercalate (row.map fun cell => Csv.fieldOf cell.value)
      "\n".intercalate (sheet.title :: lines) ++ "\n"
    String.join (sheets.map sheetText)

/-- The names of files that arguments may mean: each argument, and what follows an equals
sign in it. -/
def candidates (arguments : List String) : List String :=
  arguments.flatMap fun argument =>
    [argument, String.ofList ((argument.toList.dropWhile (· != '=')).drop 1)]

/-- Reads the files that arguments may mean, as far as they are there, and those that flag
files among them may mean, to the given depth. -/
def loadFiles : Nat → List String → IO (List (String × List UInt8))
  | 0, _ => return []
  | depth + 1, arguments => do
    let mut files := []
    for name in candidates arguments do
      try
        let bytes ← IO.FS.readBinFile name
        files := (name, bytes.toList) :: files
      catch _ => pure ()
    let lines := files.flatMap fun (_, bytes) =>
      match Text.Utf8.readText bytes with
      | .ok text => ((FlagFile.lines text).map Prod.fst).filter (·.startsWith "-")
      | .error _ => []
    return files ++ (← if lines.isEmpty then pure [] else loadFiles depth lines)

/-- How deep flag files are looked for in each other. -/
def loadDepth : Nat := 16

/-- Whether the standard input may be read: no document is named, or one by a dash. -/
def mayReadInput (program : Program) (flags : Flags) : Bool :=
  (program.flagNames.filterMap flags.get?).any Workspace.isInputName ||
    (program != .exportFiles && (flags.get? documentFlag).isNone)

/-- Reads what the command needs. -/
def loadWorkspace (program : Program) (arguments : List String) : IO Workspace := do
  let workspace := Workspace.ofFiles (← loadFiles loadDepth arguments) []
  match Flags.read program.flagDefinitions workspace arguments with
  | .error _ => return workspace
  | .ok flags =>
    if mayReadInput program flags then
      return { workspace with input := (← (← IO.getStdin).readBinToEnd).toList }
    else return workspace

/-- Runs a command and does what it says. -/
def runProgram (program : Program) (arguments : List String) : IO UInt32 := do
  let workspace ← loadWorkspace program arguments
  let result := program.run arguments workspace
  for event in result.events do
    IO.eprintln (event.level.name ++ ": " ++ event.message)
  for directory in result.directories do
    IO.FS.createDirAll directory.path.render
  for file in result.files do
    IO.FS.writeFile file.path.render (contentText file.content)
  match result.ending with
  | .exit code output =>
    IO.print output
    return UInt32.ofNat code
  | .failure failure =>
    IO.eprintln failure.message
    return 1

/-- Runs the command that the first argument names. -/
def run (arguments : List String) : IO UInt32 := do
  match arguments with
  | name :: rest =>
    match programOf? name with
    | some program => runProgram program rest
    | none =>
      IO.eprintln ("Unknown command: " ++ name)
      return 2
  | [] =>
    IO.eprintln "Usage: grammar-tables first-follow|ll1-table|export [flags]"
    return 2

end GrammarTables.CommandLine

/-- The command line. -/
def main (arguments : List String) : IO UInt32 :=
  GrammarTables.CommandLine.run arguments
