import GrammarTables.FirstFollow
import GrammarTables.ParseTable
import GrammarTables.RenderError
import GrammarTables.Text.LetterCase

/-!
# Exported rows

Tables as rows of text for spreadsheets, under a row of titles.  Terminals go by the names
that the lexer displays, and the references of a production are told apart by brackets.
-/

namespace GrammarTables

abbrev TextRow : Type := List String

/-- A reference in an exported production. -/
def SymbolRef.shown : SymbolRef → Except RenderError String
  | terminal symbol => .ok symbol.display
  | nonterminal name => .ok ("<" ++ name ++ ">")
  | action name _ => .ok ("[" ++ name ++ "]")
  | foreign value => .error value.refusal

/-- The word for a production without symbols. -/
def emptyBody : String := "eps"

/-- The body of an exported production: its references, divided by spaces. -/
def shownBody (body : List SymbolRef) : Except RenderError String :=
  if body.isEmpty then .ok emptyBody
  else (body.mapM SymbolRef.shown).map fun references => " ".intercalate references

/-- The members of an exported set, divided by spaces. -/
def shownSet (members : List Terminal) : String :=
  " ".intercalate (members.map Terminal.display)

namespace SetEntry

/-- What entries have under reserved names that hold texts. -/
def textNames : List String :=
  ["__annotations__", "__dataclass_fields__", "__dict__", "__doc__", "__match_args__",
   "__module__"]

/-- What entries have under the other reserved names, with the words for their kinds. -/
def reservedKinds : List (String × List String) :=
  [("type", ["__class__"]),
   ("_DataclassParams", ["__dataclass_params__"]),
   ("NoneType", ["__weakref__"]),
   ("method",
     ["__delattr__", "__eq__", "__hash__", "__init__", "__repr__", "__setattr__"]),
   ("method-wrapper",
     ["__ge__", "__getattribute__", "__gt__", "__le__", "__lt__", "__ne__", "__str__"]),
   ("builtin_function_or_method",
     ["__dir__", "__format__", "__getstate__", "__init_subclass__", "__new__", "__reduce__",
      "__reduce_ex__", "__sizeof__", "__subclasshook__"])]

/-- Why an entry has no set of a name that is not the name of a column.  Reserved names
stand for something else. -/
def refusal (name : String) : RenderError :=
  if textNames.contains name then .textMembers
  else
    match reservedKinds.find? fun reserved => reserved.2.contains name with
    | some reserved => .notSet reserved.1
    | none => .missingColumn name

end SetEntry

namespace FirstFollowTable

def rows (table : FirstFollowTable) (column : SetColumn) : List TextRow :=
  ["NonTerminal", column.title] ::
    table.toList.map fun entry => [entry.1, shownSet (entry.2.column column)]

/-- The rows of the set column with a name.  A table without entries has a title row for
every name. -/
def rowsOf (table : FirstFollowTable) (name : String) : Except RenderError (List TextRow) :=
  match SetColumn.ofName? name with
  | some column => .ok (table.rows column)
  | none =>
    if table.toList.isEmpty then .ok [["NonTerminal", Text.upperCase name]]
    else .error (SetEntry.refusal name)

end FirstFollowTable

namespace ParseTable

def entryRow (entry : ParseKey × List SymbolRef) : Except RenderError TextRow :=
  (shownBody entry.2).map fun body => [entry.1.1, entry.1.2.display, body]

def rows (table : ParseTable) : Except RenderError (List TextRow) :=
  (table.toList.mapM entryRow).map fun rows =>
    ["NonTerminal", "Terminal", "Production"] :: rows

end ParseTable

end GrammarTables
