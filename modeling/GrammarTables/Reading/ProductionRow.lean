import GrammarTables.Reading.RowStream
import GrammarTables.Symbol

/-!
# Rows of LL(1) tables

The first row names the terminals of the columns.  Each further row is headed by a
nonterminal and has one cell for each column: an empty cell, or the marker and the
symbols of a production.  Names are reported as they stand.
-/

namespace GrammarTables

/-- A cell of an LL(1) table: nothing, or a marker followed by the body of a production. -/
abbrev ProductionCell : Type := Option (List RawSymbol)

/-- A row of an LL(1) table. -/
structure ProductionRow where
  /-- The position of the row, where the header row has position zero. -/
  index : Int
  nonterminal : String
  cells : List ProductionCell
  deriving DecidableEq, Repr

namespace ProductionRow

/-- The class of the region that holds the table. -/
def region : Markup.Selector := .ofClass "parse_table"

/-- The symbols in a cell, in document order. -/
def cellSymbols (cell : Markup.Element) : List RawSymbol :=
  (cell.findAll ["nonterm", "term", "action"]).map fun symbol => ⟨symbol.name, symbol.reading⟩

/-- A cell without symbols is empty. -/
def readCell (cell : Markup.Element) : ProductionCell :=
  match cellSymbols cell with
  | [] => none
  | symbols => some symbols

/-- Reads one row of a table with the given number of columns. -/
def read (width : Nat) (index : Int) (row : Markup.Element) : Except Defect ProductionRow :=
  match row.findInside? "th" "nonterm" with
  | none => .error (.missingHeader "production row header" (some index))
  | some name =>
    let cells := rowCells row
    if cells.length = width then .ok ⟨index, name.reading, cells.map readCell⟩
    else .error (.malformedRow index width cells.length [("nonterminal", .text name.reading)])

/-- The names of the columns, and the rows below them.  The header is read at once: its
defects come before any request for a row. -/
def open? (document : Markup.Document) :
    Except Defect (List String × RowStream ProductionRow) :=
  match tableRows document region with
  | .error defect => .error defect
  | .ok [] => .error (.missingHeader "terminal header row" none)
  | .ok (header :: rows) =>
    match (header.findAll ["terminal"]).map Markup.Element.reading with
    | [] => .error (.missingHeader "terminal header row" (some 0))
    | terminals => .ok (terminals, RowStream.read (read terminals.length) 1 rows)

end ProductionRow

end GrammarTables
