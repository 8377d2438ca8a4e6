import GrammarTables.Reading.ProductionRow
import GrammarTables.RenderError
import GrammarTables.Transcription

/-!
# Parse tables

An LL(1) parse table maps a nonterminal and a lookahead terminal to the body of a
production.  Cells belong to columns by position, and empty cells make no entry.  The
first symbol of a cell marks the left hand side and is no part of the body.  Where two
cells have the same key, the entry keeps the place of the first and takes the body of the
last.
-/

namespace GrammarTables

/-- A nonterminal and a lookahead terminal. -/
abbrev ParseKey : Type := String × Terminal

/-- The bodies of productions. -/
abbrev ParseTable : Type := OrderedMap ParseKey (List SymbolRef)

namespace ParseTable

/-- The table that entries make when inserted in order.  A list cannot be part of a key. -/
def ofEntries (entries : List (ParseKey × List SymbolRef)) :
    Except RenderError ParseTable :=
  match entries.find? fun entry => entry.1.2.payload.isList with
  | some entry => .error (.notKey entry.1.2.payload)
  | none => .ok (.ofList entries)

/-- The terminals of the columns, counted from the given one on. -/
def resolveHeader (column : Int) : List String → Except Defect (List Terminal)
  | [] => .ok []
  | name :: rest =>
    match Vocabulary.find? name with
    | none => .error (.unknownSymbol name
        [("row", .integer 0), ("column", .integer column)])
    | some symbol => (resolveHeader (column + 1) rest).map (symbol :: ·)

/-- The references that marked up symbols make, where a defect names row and column. -/
def resolveSymbols (row : ProductionRow) (column : Int) :
    List RawSymbol → Except Defect (List SymbolRef)
  | [] => .ok []
  | symbol :: rest =>
    match SymbolRef.ofRaw symbol with
    | .error _ => .error (.unknownSymbol symbol.name
        [("row", .integer row.index), ("nonterminal", .text row.nonterminal),
          ("column", .integer column)])
    | .ok reference => (resolveSymbols row column rest).map (reference :: ·)

/-- The body of a production: what follows the marker. -/
def bodyOf (row : ProductionRow) (column : Int) (symbols : List RawSymbol) :
    Except Defect (List SymbolRef) :=
  resolveSymbols row column symbols.tail

/-- The events of a cell that is added to a table. -/
def eventsOf (table : ParseTable) (row : ProductionRow) (terminal : Terminal) : List Event :=
  if table.contains (row.nonterminal, terminal) then
    [.overwrittenEntry row.index row.nonterminal terminal.kind]
  else []

/-- Adds the cells of a row to a table, from the given column on.  That a cell replaces an
entry is reported before its body is looked at. -/
def extendRow (table : ParseTable) (row : ProductionRow) (column : Int) :
    List (Terminal × ProductionCell) → Transcription ParseTable
  | [] => .completed [] table
  | (_, none) :: rest => extendRow table row (column + 1) rest
  | (terminal, some symbols) :: rest =>
    let events := eventsOf table row terminal
    match bodyOf row column symbols with
    | .error defect => (Transcription.abandoned defect).after events
    | .ok body =>
      (extendRow (table.insert (row.nonterminal, terminal) body) row (column + 1) rest).after
        events

/-- Adds rows to a table, up to the first that has a defect. -/
def extend (terminals : List Terminal) (table : ParseTable) :
    List ProductionRow → Transcription ParseTable
  | [] => .completed [] table
  | row :: rest =>
    if row.cells.length = terminals.length then
      (extendRow table row 0 (terminals.zip row.cells)).andThen fun table =>
        extend terminals table rest
    else
      .abandoned (.malformedRow row.index terminals.length row.cells.length
        [("nonterminal", .text row.nonterminal)])

/-- The table that named columns and a stream of rows make. -/
def build (names : List String) (stream : RowStream ProductionRow) :
    Transcription ParseTable :=
  match resolveHeader 0 names with
  | .error defect => .abandoned defect
  | .ok terminals =>
    (extend terminals .empty stream.rows).andThen fun table =>
      match stream.defect with
      | some defect => .abandoned defect
      | none =>
        .completed [.entriesTranscribed table.size stream.rows.length terminals.length] table

def ofDocument (document : Markup.Document) : Transcription ParseTable :=
  match ProductionRow.open? document with
  | .error defect => .abandoned defect
  | .ok (names, stream) => build names stream

/-- The table of a page. -/
def transcribe (page : String) : Transcription ParseTable :=
  ofDocument (.parse page)

end ParseTable

end GrammarTables
