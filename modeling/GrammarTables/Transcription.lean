import GrammarTables.Event

/-!
# Transcriptions

What a transcription leaves behind: the events it reported, in order, and a result or the
defect that ended it.  Events reported before a defect stand.
-/

namespace GrammarTables

/-- The events of a run and how it ended. -/
structure Transcription (Result : Type) where
  events : List Event
  outcome : Except Defect Result

namespace Transcription

variable {Result Other : Type}

/-- A run that ends at once with a defect. -/
def abandoned (defect : Defect) : Transcription Result := ⟨[], .error defect⟩

/-- A run that ends at once with a result, after some events. -/
def completed (events : List Event) (result : Result) : Transcription Result :=
  ⟨events, .ok result⟩

/-- The run with earlier events in front. -/
def after (events : List Event) (run : Transcription Result) : Transcription Result :=
  { run with events := events ++ run.events }

/-- Goes on with the result of a run, unless a defect ended it. -/
def andThen (run : Transcription Result) (next : Result → Transcription Other) :
    Transcription Other :=
  match run.outcome with
  | .ok result => (next result).after run.events
  | .error defect => ⟨run.events, .error defect⟩

@[simp] theorem events_after (events : List Event) (run : Transcription Result) :
    (run.after events).events = events ++ run.events := rfl

@[simp] theorem outcome_after (events : List Event) (run : Transcription Result) :
    (run.after events).outcome = run.outcome := rfl

@[simp] theorem outcome_completed (events : List Event) (result : Result) :
    (completed events result).outcome = .ok result := rfl

@[simp] theorem outcome_abandoned (defect : Defect) :
    (abandoned defect : Transcription Result).outcome = .error defect := rfl

@[simp] theorem outcome_andThen (run : Transcription Result)
    (next : Result → Transcription Other) :
    (run.andThen next).outcome = run.outcome.bind fun result => (next result).outcome := by
  cases ended : run.outcome <;> simp [andThen, ended, Except.bind]

end Transcription

end GrammarTables
