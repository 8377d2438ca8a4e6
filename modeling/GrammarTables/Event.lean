import GrammarTables.Defect
import GrammarTables.Terminal

/-!
# Events

What a transcription reports while it runs, besides its result.  Each event is a fact
about the page or about the run; the level and the wording are computed from it.
-/

namespace GrammarTables

/-- How serious an event is. -/
inductive Level where
  | info
  | warning
  | error
  deriving DecidableEq, Repr

def Level.name : Level → String
  | info => "INFO"
  | warning => "WARNING"
  | error => "ERROR"

def Level.severity : Level → Nat
  | info => 20
  | warning => 30
  | error => 40

/-- Something that a run reports. -/
inductive Event where
  /-- A row repeats the nonterminal of an earlier one, whose sets it replaces. -/
  | repeatedNonterminal (row : Int) (nonterminal : String)
  /-- A First/Follow table is complete. -/
  | setsTranscribed (nonterminals : Nat)
  /-- A cell has the nonterminal and terminal of an earlier one, which it replaces. -/
  | overwrittenEntry (row : Int) (nonterminal : String) (terminal : TokenKind)
  /-- A parse table is complete. -/
  | entriesTranscribed (entries rows terminals : Nat)
  /-- An activity was abandoned. -/
  | aborted (activity : String) (defect : Defect)
  deriving Repr

namespace Event

def level : Event → Level
  | repeatedNonterminal .. | overwrittenEntry .. => .warning
  | setsTranscribed .. | entriesTranscribed .. => .info
  | aborted .. => .error

def message : Event → String
  | repeatedNonterminal row nonterminal =>
    "Row " ++ toString row ++ " repeats nonterminal " ++ Text.quoted nonterminal ++
      "; keeping the later sets"
  | setsTranscribed nonterminals =>
    "Transcribed FIRST/FOLLOW sets for " ++ toString nonterminals ++ " nonterminals"
  | overwrittenEntry row nonterminal terminal =>
    "Row " ++ toString row ++ " overwrites M[" ++ nonterminal ++ ", " ++ terminal.display ++ "]"
  | entriesTranscribed entries rows terminals =>
    "Transcribed " ++ toString entries ++ " parse table entries from " ++ toString rows ++
      " rows x " ++ toString terminals ++ " terminals"
  | aborted activity defect => activity ++ " aborted: " ++ defect.message

end Event

end GrammarTables
