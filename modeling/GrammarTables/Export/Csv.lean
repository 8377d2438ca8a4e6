import GrammarTables.Scalar
import GrammarTables.Text.EncodeError

/-!
# Comma separated values

Fields are divided by commas and rows are ended by a carriage return and a line feed.  A
field that holds one of these characters or a double quote stands between double quotes,
and double quotes inside of it are written twice.  A row of one empty field is written as
an empty quoted field, so that it differs from a row without fields.

Rows are encoded one by one.  A row that cannot be encoded ends the file in front of it.
-/

namespace GrammarTables.Csv

open Text (CodePoint)

abbrev Field : Type := List CodePoint

/-- Rows of texts as rows of fields. -/
def ofTexts (rows : List (List String)) : List (List Field) :=
  rows.map fun row => row.map CodePoint.ofText

/-- Whether a code point may only stand inside a quoted field. -/
def needsQuotes (point : CodePoint) : Bool :=
  point == ',' || point == '"' || point == '\r' || point == '\n'

/-- A code point between quotes. -/
def renderQuoted (point : CodePoint) : List CodePoint :=
  if point == '"' then ['"', '"'] else [point]

def quoteField (field : Field) : List CodePoint :=
  .char '"' :: field.flatMap renderQuoted ++ [.char '"']

def renderField (field : Field) : List CodePoint :=
  if field.any needsQuotes then quoteField field else field

/-- The fields of a row, without the end of the row. -/
def renderFields : List Field → List CodePoint
  | [] => []
  | [field] => if field.isEmpty then quoteField [] else renderField field
  | fields => [.char ','].intercalate (fields.map renderField)

def rowEnd : List CodePoint := ['\r', '\n']

def renderRow (row : List Field) : List CodePoint := renderFields row ++ rowEnd

/-- The text in a file, and what ended the writing before all rows were in it. -/
structure Written where
  text : String
  error : Option Text.EncodeError
  deriving DecidableEq, Repr

/-- Writes rows, up to the first that cannot be encoded. -/
def write : List (List Field) → Written
  | [] => ⟨"", none⟩
  | row :: rest =>
    match Text.Charset.utf8.encode (renderRow row) with
    | .error error => ⟨"", some error⟩
    | .ok line =>
      let later := write rest
      ⟨line ++ later.text, later.error⟩

/-- A scalar as a field: an absent value is empty. -/
def fieldOf : Scalar → String
  | .absent => ""
  | value => value.display

end GrammarTables.Csv
