import GrammarTables.ParseTable
import GrammarTables.Proofs.Traversal
import GrammarTables.Proofs.Vocabulary

/-!
# Outcomes of runs

The loops over the names of a header and the symbols of a cell count columns for the
defects they may report.  Where they succeed, the count does not matter: each name or
symbol is resolved on its own.  The outcome of a run over a stream of rows is that of its
rows, one after the other, and then the defect of the stream; the reported events play no
part in it.
-/

namespace GrammarTables.ParseTable

theorem resolveHeader_eq_ok_iff (names : List String) (column : Int)
    (terminals : List Terminal) :
    resolveHeader column names = .ok terminals ↔
      List.Forall₂ (fun name symbol => Vocabulary.find? name = some symbol) names
        terminals := by
  induction names generalizing column terminals with
  | nil => simp [resolveHeader, eq_comm]
  | cons name rest ih =>
      rw [List.forall₂_cons_left_iff]
      cases found : Vocabulary.find? name with
      | none => simp [resolveHeader, found]
      | some symbol =>
          simp only [resolveHeader, found, map_eq_ok_iff, ih]
          constructor
          · rintro ⟨others, resolved, rfl⟩
            exact ⟨symbol, others, rfl, resolved, rfl⟩
          · rintro ⟨_, others, ⟨⟩, resolved, rfl⟩
            exact ⟨others, resolved, rfl⟩

theorem resolveHeader_eq_ok_iff_mapM (names : List String) (column : Int)
    (terminals : List Terminal) :
    resolveHeader column names = .ok terminals ↔
      names.mapM Vocabulary.resolve = .ok terminals := by
  rw [resolveHeader_eq_ok_iff, mapM_eq_ok_iff]
  simp only [Vocabulary.resolve_eq_ok_iff]

theorem length_of_resolveHeader {names : List String} {column : Int}
    {terminals : List Terminal} (resolved : resolveHeader column names = .ok terminals) :
    terminals.length = names.length :=
  ((resolveHeader_eq_ok_iff names column terminals).mp resolved).length_eq.symm

theorem isRegistered_of_resolveHeader {names : List String} {column : Int}
    {terminals : List Terminal} (resolved : resolveHeader column names = .ok terminals) :
    ∀ symbol ∈ terminals, symbol.IsRegistered :=
  Terminal.isRegistered_of_forall₂ ((resolveHeader_eq_ok_iff names column terminals).mp resolved)

theorem resolveSymbols_eq_ok_iff (row : ProductionRow) (column : Int)
    (symbols : List RawSymbol) (body : List SymbolRef) :
    resolveSymbols row column symbols = .ok body ↔
      symbols.mapM SymbolRef.ofRaw = .ok body := by
  rw [mapM_eq_ok_iff]
  induction symbols generalizing body with
  | nil => simp [resolveSymbols, eq_comm]
  | cons symbol rest ih =>
      rw [List.forall₂_cons_left_iff]
      cases referred : SymbolRef.ofRaw symbol with
      | error defect => simp [resolveSymbols, referred]
      | ok reference =>
          simp only [resolveSymbols, referred, map_eq_ok_iff, ih]
          constructor
          · rintro ⟨others, resolved, rfl⟩
            exact ⟨reference, others, rfl, resolved, rfl⟩
          · rintro ⟨_, others, ⟨⟩, resolved, rfl⟩
            exact ⟨others, resolved, rfl⟩

/-! ## Streams -/

/-- The rows of a stream added to a table, up to the first defect of the reader or of the
builder. -/
def collect (terminals : List Terminal) (table : ParseTable)
    (stream : RowStream ProductionRow) : Except Defect ParseTable :=
  (extend terminals table stream.rows).outcome.bind fun table =>
    match stream.defect with
    | some defect => .error defect
    | none => .ok table

theorem outcome_build (names : List String) (stream : RowStream ProductionRow) :
    (build names stream).outcome =
      (resolveHeader 0 names).bind fun terminals => collect terminals .empty stream := by
  cases resolved : resolveHeader 0 names with
  | error defect => simp [build, resolved, Except.bind]
  | ok terminals =>
      simp only [build, resolved, Transcription.outcome_andThen, Except.bind, collect]
      cases (extend terminals .empty stream.rows).outcome with
      | error defect => rfl
      | ok table => cases stream.defect <;> rfl

/-- A table is complete if its rows could be added and no defect stands behind them. -/
theorem collect_eq_ok_iff (terminals : List Terminal) (table : ParseTable)
    (stream : RowStream ProductionRow) (result : ParseTable) :
    collect terminals table stream = .ok result ↔
      (extend terminals table stream.rows).outcome = .ok result ∧ stream.defect = none := by
  rw [collect]
  cases (extend terminals table stream.rows).outcome <;> cases stream.defect <;>
    simp [Except.bind]

theorem collect_ofRows (terminals : List Terminal) (table : ParseTable)
    (rows : List ProductionRow) :
    collect terminals table (.ofRows rows) = (extend terminals table rows).outcome := by
  simp only [collect, RowStream.ofRows]
  cases (extend terminals table rows).outcome <;> rfl

theorem collect_ofDefect (terminals : List Terminal) (table : ParseTable)
    (defect : Defect) : collect terminals table (.ofDefect defect) = .error defect := rfl

theorem collect_cons (terminals : List Terminal) (table : ParseTable)
    (row : ProductionRow) (aligned : row.cells.length = terminals.length)
    (stream : RowStream ProductionRow) :
    collect terminals table (stream.cons row) =
      (extendRow table row 0 (terminals.zip row.cells)).outcome.bind fun table =>
        collect terminals table stream := by
  simp only [collect, RowStream.cons, extend, aligned, if_true,
    Transcription.outcome_andThen]
  cases (extendRow table row 0 (terminals.zip row.cells)).outcome <;> rfl

end GrammarTables.ParseTable
