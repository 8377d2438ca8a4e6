import GrammarTables.OrderedMap
import GrammarTables.Scalar

/-!
# Defects

The reasons for which the transcription of a page is abandoned.  A defect says what is
wrong and carries the details of where: the row and column, and the nonterminal whose row
it is.  Its wording is computed here and nowhere else.
-/

namespace GrammarTables

/-- Named details, in the order in which they are reported. -/
abbrev Details : Type := List (String × Scalar)

/-- A reason to abandon a transcription. -/
inductive Defect where
  /-- Any other reason, in words. -/
  | general (message : String) (details : Details)
  /-- A name stands where a terminal is expected and is not in the vocabulary. -/
  | unknownSymbol (name : String) (details : Details)
  /-- A row has the wrong number of cells. -/
  | malformedRow (row expected found : Int) (details : Details)
  /-- Something that a table must have is missing, from a row or altogether. -/
  | missingHeader (what : String) (row : Option Int)
  deriving Repr

namespace Defect

/-- The class of the defect, as answers name it. -/
def code : Defect → String
  | general .. => "TranscriptionError"
  | unknownSymbol .. => "UnknownSymbol"
  | malformedRow .. => "MalformedRow"
  | missingHeader .. => "MissingHeader"

/-- What is wrong, without the details. -/
def summary : Defect → String
  | general message _ => message
  | unknownSymbol name _ => "Unknown terminal name: " ++ Text.quoted name
  | malformedRow _ expected found _ =>
    "Expected " ++ toString expected ++ " cells but found " ++ toString found
  | missingHeader what _ => "Missing " ++ what

/-- The details.  A malformed row reports its index first, unless other details say
otherwise about the row. -/
def details : Defect → Details
  | general _ details => (OrderedMap.ofList details).toList
  | unknownSymbol _ details => (OrderedMap.ofList details).toList
  | malformedRow row _ _ details =>
    (OrderedMap.ofList (("row", .integer row) :: details)).toList
  | missingHeader _ none => []
  | missingHeader _ (some row) => [("row", .integer row)]

def detailText (detail : String × Scalar) : String :=
  detail.1 ++ "=" ++ detail.2.quoted

/-- The defect in words: the summary, and the details in brackets if there are any. -/
def message (defect : Defect) : String :=
  match defect.details with
  | [] => defect.summary
  | details => defect.summary ++ " (" ++ ", ".intercalate (details.map detailText) ++ ")"

end Defect

end GrammarTables
