import GrammarTables.Number.Decimal
import GrammarTables.Text.Quoted

/-!
# Scalars

Payloads of terminals, details of defects and cells of exported rows are values of mixed
kind that a caller supplies.  They are compared by value across the numeric kinds, and
they have two texts: the display form, and the quoted form in which texts keep their
marks.  Lists of scalars occur in details and payloads; they are never keys.
-/

namespace GrammarTables

/-- A value of mixed kind. -/
inductive Scalar where
  | absent
  | boolean (value : Bool)
  | integer (value : Int)
  | real (value : Binary64)
  | text (value : String)
  | list (items : List Scalar)
  deriving Repr

namespace Scalar

instance : Inhabited Scalar := ⟨absent⟩

/-- The integer that a boolean or integer denotes. -/
def toInt? : Scalar → Option Int
  | boolean value => some (if value then 1 else 0)
  | integer value => some value
  | _ => none

mutual

/-- Whether two scalars count as the same key: numbers compare by value whatever their
kind, and texts are never equal to numbers. -/
def sameKey : Scalar → Scalar → Bool
  | absent, absent => true
  | text left, text right => left == right
  | real left, real right => left.sameValue right
  | real left, right =>
    match right.toInt? with
    | some value => left.equalsInt value
    | none => false
  | left, real right =>
    match left.toInt? with
    | some value => right.equalsInt value
    | none => false
  | list left, list right => sameKeys left right
  | left, right =>
    match left.toInt?, right.toInt? with
    | some leftValue, some rightValue => leftValue == rightValue
    | _, _ => false

/-- Whether two lists have the same keys in order. -/
def sameKeys : List Scalar → List Scalar → Bool
  | [], [] => true
  | left :: lefts, right :: rights => sameKey left right && sameKeys lefts rights
  | _, _ => false

end

instance : BEq Scalar := ⟨sameKey⟩

def isList : Scalar → Bool
  | list _ => true
  | _ => false

def booleanWord (value : Bool) : String := if value then "True" else "False"

mutual

/-- The form in diagnostics, where texts stand between quotation marks. -/
def quoted : Scalar → String
  | absent => "None"
  | boolean value => booleanWord value
  | integer value => toString value
  | real value => value.shortest
  | text value => Text.quoted value
  | list items => "[" ++ ", ".intercalate (quotedItems items) ++ "]"

/-- The quoted forms of the items of a list. -/
def quotedItems : List Scalar → List String
  | [] => []
  | item :: rest => quoted item :: quotedItems rest

end

/-- The form for display, where a text stands for itself. -/
def display : Scalar → String
  | text value => value
  | other => other.quoted

/-- The word for the kind of a scalar in diagnostics of conversions. -/
def kindWord : Scalar → String
  | absent => "NoneType"
  | boolean _ => "bool"
  | integer _ => "int"
  | real _ => "float"
  | text _ => "str"
  | list _ => "list"

end Scalar

end GrammarTables
