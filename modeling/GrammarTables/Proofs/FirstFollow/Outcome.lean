import GrammarTables.FirstFollow
import GrammarTables.Proofs.Traversal
import GrammarTables.Proofs.Vocabulary

/-!
# Outcomes of runs over set rows

The members of a set are resolved one after the other, and where all of them are registered
the row and the column play no part.  The outcome of a run over a stream of rows is that of
its rows, each added before the next one is asked for, and then the defect of the stream.
-/

namespace GrammarTables.FirstFollowTable

theorem resolveMembers_eq_ok_iff (row : SetRow) (column : SetColumn) (names : List String)
    (members : List Terminal) :
    resolveMembers row column names = .ok members ↔
      List.Forall₂ (fun name symbol => Vocabulary.find? name = some symbol) names members := by
  induction names generalizing members with
  | nil => simp [resolveMembers, eq_comm]
  | cons name rest ih =>
      rw [List.forall₂_cons_left_iff]
      cases found : Vocabulary.find? name with
      | none => simp [resolveMembers, found]
      | some symbol =>
          simp only [resolveMembers, found, map_eq_ok_iff, ih]
          constructor
          · rintro ⟨others, resolved, rfl⟩
            exact ⟨symbol, others, rfl, resolved, rfl⟩
          · rintro ⟨_, others, ⟨⟩, resolved, rfl⟩
            exact ⟨others, resolved, rfl⟩

/-- The First set of a row is resolved before its Follow set. -/
theorem entryOf_eq (row : SetRow) :
    entryOf row = (resolveMembers row .first row.first).bind fun first =>
      (resolveMembers row .follow row.follow).map (SetEntry.mk first) := by
  cases firstEq : resolveMembers row .first row.first with
  | error defect => simp [entryOf, firstEq, bind, Except.bind]
  | ok first =>
      cases followEq : resolveMembers row .follow row.follow <;>
        simp [entryOf, firstEq, followEq, bind, pure, Except.bind, Except.pure, Except.map]

theorem outcome_extend_cons (table : FirstFollowTable) (row : SetRow) (rest : List SetRow) :
    (extend table (row :: rest)).outcome =
      (entryOf row).bind fun entry =>
        (extend (table.insert row.nonterminal entry) rest).outcome := by
  cases resolved : entryOf row <;> simp [extend, resolved, Except.bind]

/-! ## Streams -/

/-- The rows of a stream added to a table, up to the first defect of the reader or of the
builder. -/
def collect (table : FirstFollowTable) (stream : RowStream SetRow) :
    Except Defect FirstFollowTable :=
  (extend table stream.rows).outcome.bind fun table =>
    match stream.defect with
    | some defect => .error defect
    | none => .ok table

theorem outcome_build (stream : RowStream SetRow) :
    (build stream).outcome = collect .empty stream := by
  simp only [build, Transcription.outcome_andThen, collect]
  cases (extend .empty stream.rows).outcome with
  | error defect => rfl
  | ok table => cases stream.defect <;> rfl

/-- A table is complete if its rows could be added and no defect stands behind them. -/
theorem collect_eq_ok_iff (table : FirstFollowTable) (stream : RowStream SetRow)
    (result : FirstFollowTable) :
    collect table stream = .ok result ↔
      (extend table stream.rows).outcome = .ok result ∧ stream.defect = none := by
  rw [collect]
  cases (extend table stream.rows).outcome <;> cases stream.defect <;> simp [Except.bind]

theorem collect_ofDefect (table : FirstFollowTable) (defect : Defect) :
    collect table (.ofDefect defect) = .error defect := rfl

theorem collect_cons (table : FirstFollowTable) (row : SetRow) (stream : RowStream SetRow) :
    collect table (stream.cons row) =
      (entryOf row).bind fun entry =>
        collect (table.insert row.nonterminal entry) stream := by
  simp only [collect, RowStream.cons, outcome_extend_cons]
  cases entryOf row <;> rfl

end GrammarTables.FirstFollowTable
