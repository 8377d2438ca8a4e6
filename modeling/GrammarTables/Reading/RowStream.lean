import GrammarTables.Defect
import GrammarTables.Markup.Selector

/-!
# Streams of rows

A table is read row by row, and whoever asks for the rows may stop early.  What asking
again and again would answer is fixed by the page: some rows, then at most one defect,
then the end for ever.  A stream holds exactly that.
-/

namespace GrammarTables

/-- What one request for a row answers. -/
inductive Answer (Row : Type) where
  | row (row : Row)
  | defect (defect : Defect)
  | ended
  deriving Repr

/-- The rows of a table up to the first defect, and that defect if there is one. -/
structure RowStream (Row : Type) where
  rows : List Row
  defect : Option Defect
  deriving Repr

namespace RowStream

variable {Row : Type}

/-- The stream of given rows, without a defect. -/
def ofRows (rows : List Row) : RowStream Row := ⟨rows, none⟩

/-- The stream that begins with a defect. -/
def ofDefect (defect : Defect) : RowStream Row := ⟨[], some defect⟩

/-- The stream with one more row in front. -/
def cons (row : Row) (stream : RowStream Row) : RowStream Row :=
  { stream with rows := row :: stream.rows }

/-- What the requests answer that come after the given number of requests. -/
def answer (stream : RowStream Row) (earlier : Nat) : Answer Row :=
  match stream.rows[earlier]?, stream.defect with
  | some row, _ => .row row
  | none, some defect => if earlier = stream.rows.length then .defect defect else .ended
  | none, none => .ended

/-- The answers to a number of requests. -/
def answers (stream : RowStream Row) (count : Nat) : List (Answer Row) :=
  (List.range count).map stream.answer

/-- Reads elements one after the other, counting from an index, up to the first that has
a defect. -/
def read (readRow : Int → Markup.Element → Except Defect Row) (index : Int) :
    List Markup.Element → RowStream Row
  | [] => ofRows []
  | element :: rest =>
    match readRow index element with
    | .ok row => cons row (read readRow (index + 1) rest)
    | .error defect => ofDefect defect

end RowStream

/-- The rows of the first region of a document that a selector matches: all row elements
inside of it, at any depth. -/
def tableRows (document : Markup.Document) (selector : Markup.Selector) :
    Except Defect (List Markup.Element) :=
  match document.select? selector with
  | some region => .ok (region.findAll ["tr"])
  | none => .error (.missingHeader ("table region " ++ Text.quoted selector.source) none)

/-- The cells of a row: the data cells directly inside of it. -/
def rowCells (row : Markup.Element) : List Markup.Element :=
  row.childElements.filter fun cell => cell.name == "td"

end GrammarTables
