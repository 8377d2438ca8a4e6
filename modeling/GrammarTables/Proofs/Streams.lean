import GrammarTables.Reading.ProductionRow
import GrammarTables.Transcription

/-!
# Streams and the runs over them

A stream that is read from elements has what reading them one after the other gives.  Where
each element gives a row, or a defect that can be told from that row, the stream is the rows
cut at the first one with a defect.  Runs that go on with one another can be grouped either
way.
-/

namespace GrammarTables

namespace RowStream

variable {Row Item : Type}

/-- Rows up to the first that has a defect, and that defect. -/
def upTo (defect? : Row → Option Defect) : List Row → RowStream Row
  | [] => ofRows []
  | row :: rest =>
    match defect? row with
    | none => cons row (upTo defect? rest)
    | some defect => ofDefect defect

theorem upTo_eq_ofRows (rows : List Row) : upTo (fun _ => none) rows = ofRows rows := by
  induction rows with
  | nil => rfl
  | cons row rest ih =>
      simp only [upTo, ih]
      rfl

/-- Elements that are made from items are read as the rows of the items, counted from the
index on and cut at the first that has a defect. -/
theorem read_map (defect? : Row → Option Defect)
    {readRow : Int → Markup.Element → Except Defect Row} {made : Item → Markup.Element}
    {row : Int → Item → Row} {items : List Item}
    (reads : ∀ item ∈ items, ∀ index, readRow index (made item) =
      match defect? (row index item) with
      | none => .ok (row index item)
      | some defect => .error defect) (index : Int) :
    read readRow index (items.map made) =
      upTo defect? (items.mapIdx fun position item => row (index + position) item) := by
  induction items generalizing index with
  | nil => rfl
  | cons item rest ih =>
      obtain ⟨here, others⟩ := List.forall_mem_cons.mp reads
      have counted (position : Nat) : index + 1 + position = index + (position + 1 : Nat) := by
        omega
      have behind := ih others (index + 1)
      simp only [counted] at behind
      rw [List.map_cons, read, here, List.mapIdx_cons, upTo, behind]
      simp only [Int.natCast_zero, Int.add_zero]
      cases defect? (row index item) <;> rfl

theorem exists_of_mem_rows_read {readRow : Int → Markup.Element → Except Defect Row}
    {elements : List Markup.Element} {index : Int} {row : Row}
    (isIn : row ∈ (read readRow index elements).rows) :
    ∃ element ∈ elements, ∃ position, readRow position element = .ok row := by
  induction elements generalizing index with
  | nil => cases isIn
  | cons element rest ih =>
      rw [read] at isIn
      cases here : readRow index element with
      | error defect => simp [here, ofDefect] at isIn
      | ok first =>
          simp only [here, cons, List.mem_cons] at isIn
          cases isIn with
          | inl isFirst => exact ⟨element, List.mem_cons_self, index, by rw [here, isFirst]⟩
          | inr inRest =>
              obtain ⟨other, member, position, gives⟩ := ih inRest
              exact ⟨other, List.mem_cons_of_mem _ member, position, gives⟩

end RowStream

/-- A document is opened if its first row names terminals; the other rows are left to be read. -/
theorem ProductionRow.exists_of_open?_eq_ok {document : Markup.Document} {names : List String}
    {stream : RowStream ProductionRow} (opened : open? document = .ok (names, stream)) :
    ∃ header rows, tableRows document region = .ok (header :: rows) ∧
      (header.findAll ["terminal"]).map Markup.Element.reading = names ∧
        stream = RowStream.read (read names.length) 1 rows := by
  rw [open?] at opened
  split at opened
  · cases opened
  · cases opened
  · next header rows found =>
      split at opened
      · cases opened
      · cases opened
        exact ⟨header, rows, found, rfl, rfl⟩

namespace Transcription

variable {Result Other Last : Type}

theorem andThen_after (events : List Event) (run : Transcription Result)
    (next : Result → Transcription Other) :
    (run.after events).andThen next = (run.andThen next).after events := by
  obtain ⟨earlier, outcome⟩ := run
  cases outcome with
  | error defect => rfl
  | ok result => simp [andThen, after]

theorem andThen_assoc (run : Transcription Result) (next : Result → Transcription Other)
    (last : Other → Transcription Last) :
    (run.andThen next).andThen last = run.andThen fun result => (next result).andThen last := by
  obtain ⟨events, outcome⟩ := run
  cases outcome with
  | error defect => rfl
  | ok result => exact andThen_after events (next result) last

end Transcription

end GrammarTables
