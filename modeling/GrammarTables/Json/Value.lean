import GrammarTables.Json.CodeText
import GrammarTables.Number.Binary64

/-!
# JSON values

The values that requests carry and answers are made of.  Integers are kept apart from
other numbers, and the members of an object keep their order.
-/

namespace GrammarTables

inductive Json where
  | null
  | boolean (value : Bool)
  | integer (value : Int)
  | real (value : Binary64)
  | text (value : CodeText)
  | array (items : List Json)
  | object (members : List (CodeText × Json))
  deriving Repr

namespace Json

instance : Inhabited Json := ⟨null⟩

/-- The member of an object with a name. -/
def member? : Json → String → Option Json
  | object members, name => members.lookup (.whole name)
  | _, _ => none

end Json

end GrammarTables
