import GrammarTables.Reading.RowStream

/-!
# Rows of First/Follow tables

The rows after the title row have three cells: the nonterminal, the members of its First
set and the members of its Follow set.  Names are reported as they stand; they are not
looked up in the vocabulary here.
-/

namespace GrammarTables

/-- A row of a First/Follow table. -/
structure SetRow where
  /-- The position of the row, where the title row has position zero. -/
  index : Int
  nonterminal : String
  first : List String
  follow : List String
  deriving DecidableEq, Repr

namespace SetRow

/-- The class of the region that holds the table. -/
def region : Markup.Selector := .ofClass "stats"

/-- The names of the symbols in a cell. -/
def memberNames (cell : Markup.Element) : List String :=
  (cell.findAll ["nonterm", "term"]).map Markup.Element.reading

def read (index : Int) (row : Markup.Element) : Except Defect SetRow :=
  match rowCells row with
  | [nameCell, firstCell, followCell] =>
    match nameCell.find? "nonterm" with
    | some name => .ok ⟨index, name.reading, memberNames firstCell, memberNames followCell⟩
    | none => .error (.missingHeader "nonterminal name cell" (some index))
  | cells => .error (.malformedRow index 3 cells.length [])

/-- The rows of a document.  A document without the region has this defect in place of a
first row. -/
def stream (document : Markup.Document) : RowStream SetRow :=
  match tableRows document region with
  | .ok rows => RowStream.read read 1 (rows.drop 1)
  | .error defect => .ofDefect defect

end SetRow

end GrammarTables
