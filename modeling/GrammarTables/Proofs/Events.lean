import GrammarTables.FirstFollow
import GrammarTables.ParseTable

/-!
# Errors that are reported

A transcription reports repetitions and its completion, and no errors: the defect that ends
it is reported by whoever asked for the table.
-/

namespace GrammarTables

/-- The events that are errors. -/
def errorsOf (events : List Event) : List Event :=
  events.filter fun event => event.level == .error

@[simp] theorem errorsOf_nil : errorsOf [] = [] := rfl

@[simp] theorem errorsOf_append (earlier later : List Event) :
    errorsOf (earlier ++ later) = errorsOf earlier ++ errorsOf later :=
  List.filter_append ..

@[simp] theorem errorsOf_aborted (activity : String) (defect : Defect) :
    errorsOf [.aborted activity defect] = [.aborted activity defect] := rfl

namespace Transcription

variable {Result Other : Type}

/-- The defect that ended the run. -/
def defect? (run : Transcription Result) : Option Defect :=
  match run.outcome with
  | .ok _ => none
  | .error defect => some defect

/-- The run reports no errors. -/
def IsCalm (run : Transcription Result) : Prop := errorsOf run.events = []

theorem isCalm_abandoned (defect : Defect) :
    (abandoned defect : Transcription Result).IsCalm := rfl

theorem IsCalm.after {run : Transcription Result} (calm : run.IsCalm) {events : List Event}
    (noErrors : errorsOf events = []) : (run.after events).IsCalm := by
  rw [IsCalm, events_after, errorsOf_append, noErrors]
  exact calm

theorem IsCalm.andThen {run : Transcription Result} (calm : run.IsCalm)
    {next : Result → Transcription Other} (nextCalm : ∀ result, (next result).IsCalm) :
    (run.andThen next).IsCalm := by
  rw [Transcription.andThen]
  cases run.outcome with
  | ok result => exact (nextCalm result).after calm
  | error defect => exact calm

end Transcription

/-! ## First/Follow tables -/

namespace FirstFollowTable

theorem errorsOf_eventsOf (table : FirstFollowTable) (row : SetRow) :
    errorsOf (eventsOf table row) = [] := by
  rw [eventsOf]
  split <;> rfl

theorem isCalm_extend (table : FirstFollowTable) (rows : List SetRow) :
    (extend table rows).IsCalm := by
  induction rows generalizing table with
  | nil => rfl
  | cons row rest ih =>
      rw [extend]
      cases entryOf row with
      | error defect => rfl
      | ok entry => exact (ih _).after (errorsOf_eventsOf table row)

theorem isCalm_build (stream : RowStream SetRow) : (build stream).IsCalm := by
  apply (isCalm_extend .empty stream.rows).andThen
  intro table
  cases stream.defect <;> rfl

theorem isCalm_transcribe (page : String) : (transcribe page).IsCalm := isCalm_build _

end FirstFollowTable

/-! ## Parse tables -/

namespace ParseTable

theorem errorsOf_eventsOf (table : ParseTable) (row : ProductionRow) (terminal : Terminal) :
    errorsOf (eventsOf table row terminal) = [] := by
  rw [eventsOf]
  split <;> rfl

theorem isCalm_extendRow (table : ParseTable) (row : ProductionRow) (column : Int)
    (cells : List (Terminal × ProductionCell)) : (extendRow table row column cells).IsCalm := by
  induction cells generalizing table column with
  | nil => rfl
  | cons cell rest ih =>
      obtain ⟨terminal, content⟩ := cell
      have noErrors := errorsOf_eventsOf table row terminal
      cases content with
      | none => exact ih table (column + 1)
      | some symbols =>
          rw [extendRow]
          cases bodyOf row column symbols with
          | error defect => exact (Transcription.isCalm_abandoned defect).after noErrors
          | ok body => exact (ih _ _).after noErrors

theorem isCalm_extend (terminals : List Terminal) (table : ParseTable)
    (rows : List ProductionRow) : (extend terminals table rows).IsCalm := by
  induction rows generalizing table with
  | nil => rfl
  | cons row rest ih =>
      rw [extend]
      split
      · exact (isCalm_extendRow table row 0 _).andThen ih
      · rfl

theorem isCalm_build (names : List String) (stream : RowStream ProductionRow) :
    (build names stream).IsCalm := by
  rw [build]
  cases resolveHeader 0 names with
  | error defect => rfl
  | ok terminals =>
      apply (isCalm_extend terminals .empty stream.rows).andThen
      intro table
      cases stream.defect <;> rfl

theorem isCalm_transcribe (page : String) : (transcribe page).IsCalm := by
  rw [transcribe, ofDocument]
  cases ProductionRow.open? (.parse page) with
  | error defect => rfl
  | ok headed => exact isCalm_build headed.1 headed.2

end ParseTable

end GrammarTables
