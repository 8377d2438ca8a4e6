import GrammarTables.Export.Csv
import GrammarTables.Export.Rows
import GrammarTables.Export.Workbook

/-!
# Exported files

The files of an export: one of comma separated values for each set column and for the
parse table, as far as the tables are given, and a workbook with a sheet for each of
them.  Files are written in this order, and those written before an error remain.
-/

namespace GrammarTables.Export

/-- The content of a file. -/
inductive Content where
  | text (value : String)
  | workbook (sheets : Workbook)
  deriving Repr

/-- A reason for which an export stops. -/
inductive Error where
  | rendering (reason : RenderError)
  | encoding (reason : Text.EncodeError)
  | workbook (reason : WorkbookError)
  deriving Repr

def Error.message : Error → String
  | rendering reason => reason.message
  | encoding reason => reason.message
  | workbook reason => reason.message

/-- The files written, by name and in order, and the reason to stop if there was one. -/
structure Run where
  files : List (String × Content)
  error : Option Error
  deriving Repr

namespace Run

def nothing : Run := ⟨[], none⟩

/-- A run and then another one, unless the first one stops. -/
def andThen (first next : Run) : Run :=
  match first.error with
  | some _ => first
  | none => ⟨first.files ++ next.files, next.error⟩

end Run

/-- A table ready to be written: the title of its sheet, the name of its file without the
ending, and its rows. -/
structure Part where
  title : String
  fileName : String
  rows : List TextRow
  deriving Repr

def setParts (table : FirstFollowTable) : List Part :=
  [⟨"FIRST", "FIRST.csv", table.rows .first⟩, ⟨"FOLLOW", "FOLLOW.csv", table.rows .follow⟩]

def parsePart (table : ParseTable) : Except RenderError Part :=
  table.rows.map fun rows => ⟨"ParseTable", "ParseTable.csv", rows⟩

def workbookName : String := "LL1_Tables.xlsx"

/-- Writes the file of comma separated values of a part. -/
def Part.write (part : Part) : Run :=
  let written := Csv.write (Csv.ofTexts part.rows)
  ⟨[(part.fileName, .text written.text)], written.error.map .encoding⟩

/-- Writes the files of parts, one after the other. -/
def writeFiles (parts : List Part) : Run :=
  parts.foldr (fun part later => part.write.andThen later) .nothing

/-- The content of the sheet of a part. -/
def Part.sheet (part : Part) : String × List (List Scalar) :=
  (part.title, part.rows.map fun row => row.map Scalar.text)

/-- Writes the workbook of parts; without parts, nothing. -/
def writeWorkbook (parts : List Part) : Run :=
  if parts.isEmpty then .nothing
  else
    match Workbook.make (parts.map Part.sheet) with
    | .ok workbook => ⟨[(workbookName, .workbook workbook)], none⟩
    | .error reason => ⟨[], some (.workbook reason)⟩

/-- Writes the parts and then their workbook. -/
def writeParts (parts : List Part) : Run := (writeFiles parts).andThen (writeWorkbook parts)

/-- Writes the tables that are given. -/
def run (firstFollow : Option FirstFollowTable) (parseTable : Option ParseTable) : Run :=
  let sets := (firstFollow.map setParts).getD []
  match parseTable.map parsePart with
  | none => writeParts sets
  | some (.ok part) => writeParts (sets ++ [part])
  | some (.error reason) => (writeFiles sets).andThen ⟨[], some (.rendering reason)⟩

end GrammarTables.Export
