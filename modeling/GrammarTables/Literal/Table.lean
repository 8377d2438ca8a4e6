import GrammarTables.FirstFollow
import GrammarTables.Literal.Symbol
import GrammarTables.ParseTable

/-!
# Literals of tables

Tables are written one entry to a line, in table order, so that a regenerated literal
differs from an older one only where the tables do.
-/

namespace GrammarTables

/-- The literals of the items of a vector, divided by commas. -/
def Literal.items {Item : Type} (literal : Item → Except RenderError String)
    (items : List Item) : Except RenderError String :=
  (items.mapM literal).map fun literals => ", ".intercalate literals

namespace FirstFollowTable

/-- The line of one entry in the literal of a set column. -/
def setLine (column : SetColumn) (entry : String × SetEntry) : Except RenderError String :=
  (Literal.items Terminal.literal (entry.2.column column)).map fun members =>
    "    (" ++ Literal.text entry.1 ++ ", vec![" ++ members ++ "]),"

/-- The lines of the literal of a set column. -/
def setLines (table : FirstFollowTable) (column : SetColumn) :
    Except RenderError (List String) :=
  (table.toList.mapM (setLine column)).map fun lines =>
    "HashMap::from([" :: lines ++ ["])"]

def setLiteral (table : FirstFollowTable) (column : SetColumn) : Except RenderError String :=
  (table.setLines column).map fun lines => "\n".intercalate lines

/-- The literal of the set column with a name. -/
def setLiteralOf (table : FirstFollowTable) (name : String) : Except RenderError String :=
  match SetColumn.ofName? name with
  | some column => table.setLiteral column
  | none => .error (.unknownColumn name)

/-- The literals of both set columns, each under its title. -/
def literal (table : FirstFollowTable) : Except RenderError String := do
  let first ← table.setLiteral .first
  let follow ← table.setLiteral .follow
  return "\n".intercalate ["First set:", first, "Follow set:", follow]

end FirstFollowTable

namespace ParseTable

/-- The line of one entry in the literal of a parse table. -/
def entryLine (entry : ParseKey × List SymbolRef) : Except RenderError String := do
  let body ← Literal.items SymbolRef.literal entry.2
  let terminal ← entry.1.2.literal
  return "((" ++ Literal.text entry.1.1 ++ ", " ++ terminal ++ "), vec![" ++ body ++ "]),"

def lines (table : ParseTable) : Except RenderError (List String) :=
  table.toList.mapM entryLine

/-- The literal of a parse table. -/
def literal (table : ParseTable) : Except RenderError String :=
  table.lines.map fun lines => "\n".intercalate lines

end ParseTable

end GrammarTables
