import GrammarTables.Reading.SetRow
import GrammarTables.Transcription
import GrammarTables.Vocabulary

/-!
# First/Follow tables

A table maps nonterminals to their First and Follow sets, in the order of the page.  The
members of a set keep their order and their repetitions.  A nonterminal whose row is
repeated keeps the place of its first row and takes the sets of its last.
-/

namespace GrammarTables

/-- The sets of a nonterminal. -/
structure SetEntry where
  first : List Terminal
  follow : List Terminal
  deriving Repr

/-- The two sets that a table has for each nonterminal. -/
inductive SetColumn where
  | first
  | follow
  deriving DecidableEq, Repr

namespace SetColumn

def name : SetColumn → String
  | first => "first"
  | follow => "follow"

def title : SetColumn → String
  | first => "FIRST"
  | follow => "FOLLOW"

def ofName? (name : String) : Option SetColumn :=
  if name == "first" then some first
  else if name == "follow" then some follow
  else none

end SetColumn

def SetEntry.column (entry : SetEntry) : SetColumn → List Terminal
  | .first => entry.first
  | .follow => entry.follow

/-- The sets of each nonterminal. -/
abbrev FirstFollowTable : Type := OrderedMap String SetEntry

namespace FirstFollowTable

/-- The members of a set, where a name that is not in the vocabulary is a defect of the
given row and column. -/
def resolveMembers (row : SetRow) (column : SetColumn) :
    List String → Except Defect (List Terminal)
  | [] => .ok []
  | name :: rest =>
    match Vocabulary.find? name with
    | none => .error (.unknownSymbol name
        [("row", .integer row.index), ("nonterminal", .text row.nonterminal),
          ("column", .text column.name)])
    | some symbol => (resolveMembers row column rest).map (symbol :: ·)

/-- The sets that a row gives. -/
def entryOf (row : SetRow) : Except Defect SetEntry := do
  let first ← resolveMembers row .first row.first
  let follow ← resolveMembers row .follow row.follow
  return ⟨first, follow⟩

/-- The events of a row that is added to a table. -/
def eventsOf (table : FirstFollowTable) (row : SetRow) : List Event :=
  if table.contains row.nonterminal then [.repeatedNonterminal row.index row.nonterminal]
  else []

/-- Adds rows to a table, up to the first that has a defect. -/
def extend (table : FirstFollowTable) : List SetRow → Transcription FirstFollowTable
  | [] => .completed [] table
  | row :: rest =>
    match entryOf row with
    | .error defect => .abandoned defect
    | .ok entry =>
      (extend (table.insert row.nonterminal entry) rest).after (eventsOf table row)

/-- The table that a stream of rows makes. -/
def build (stream : RowStream SetRow) : Transcription FirstFollowTable :=
  (extend .empty stream.rows).andThen fun table =>
    match stream.defect with
    | some defect => .abandoned defect
    | none => .completed [.setsTranscribed table.size] table

def ofDocument (document : Markup.Document) : Transcription FirstFollowTable :=
  build (SetRow.stream document)

/-- The table of a page. -/
def transcribe (page : String) : Transcription FirstFollowTable :=
  ofDocument (.parse page)

end FirstFollowTable

end GrammarTables
