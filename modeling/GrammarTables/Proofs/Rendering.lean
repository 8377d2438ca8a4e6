import GrammarTables.Export.Rows
import GrammarTables.Proofs.Literal.FirstFollow
import GrammarTables.Service.Answer

/-!
# Tables that can be rendered

Literals, exported rows and answers refuse payloads that are no numbers where numbers are
expected, and values that are no references.  A table of registered terminals and proper
references has neither, and nothing that is made from it fails.
-/

namespace GrammarTables

/-! ## Terminals and references -/

/-- The symbol is registered, and it carries what stands for the data of its kind. -/
structure Terminal.IsGeneric (symbol : Terminal) : Prop where
  registered : symbol.IsRegistered
  payload_eq : symbol.payload = symbol.kind.placeholder

theorem Terminal.IsRegistered.isGeneric {symbol : Terminal}
    (registered : symbol.IsRegistered) : symbol.IsGeneric := by
  refine ⟨registered, ?_⟩
  obtain ⟨kind, rfl⟩ := (Terminal.isRegistered_iff symbol).mp registered
  rfl

theorem Terminal.IsRegistered.exists_literal {symbol : Terminal}
    (registered : symbol.IsRegistered) : ∃ text, symbol.literal = .ok text := by
  obtain ⟨kind, rfl⟩ := (Terminal.isRegistered_iff symbol).mp registered
  exact ⟨_, Literal.literal_ofKind kind⟩

theorem SymbolRef.exists_shown {reference : SymbolRef}
    (isReference : ∀ value, reference ≠ .foreign value) :
    ∃ text, reference.shown = .ok text := by
  cases reference with
  | foreign value => exact absurd rfl (isReference value)
  | _ => exact ⟨_, rfl⟩

/-- A reference that pages can make: to a registered terminal or a nonterminal, or an action
that is marked up as one. -/
def SymbolRef.IsProper : SymbolRef → Prop
  | terminal symbol => symbol.IsGeneric
  | nonterminal _ => True
  | action _ kind => kind = "action"
  | foreign _ => False

namespace SymbolRef.IsProper

variable {reference : SymbolRef}

theorem exists_literal (proper : reference.IsProper) :
    ∃ text, reference.literal = .ok text := by
  cases reference with
  | terminal symbol =>
      obtain ⟨text, written⟩ := proper.registered.exists_literal
      exact ⟨_, by rw [SymbolRef.literal, written]; rfl⟩
  | nonterminal name => exact ⟨_, rfl⟩
  | action name kind => exact ⟨_, rfl⟩
  | foreign value => exact proper.elim

theorem ne_foreign (proper : reference.IsProper) (value : Scalar) :
    reference ≠ .foreign value := by
  rintro rfl
  exact proper

theorem exists_referenceValue (proper : reference.IsProper) :
    ∃ value, Service.referenceValue reference = .ok value := by
  cases reference with
  | foreign value => exact proper.elim
  | _ => exact ⟨_, rfl⟩

end SymbolRef.IsProper

/-! ## First/Follow tables -/

namespace FirstFollowTable

/-- The terminals of a First/Follow table are those of the vocabulary. -/
def IsSound (table : FirstFollowTable) : Prop :=
  ∀ entry ∈ table.toList, ∀ column, ∀ symbol ∈ entry.2.column column, symbol.IsGeneric

/-- All that is made from a First/Follow table can be made. -/
structure IsRenderable (table : FirstFollowTable) : Prop where
  literal : ∃ text, table.literal = .ok text
  rows : ∀ column : SetColumn, ∃ rows, table.rowsOf column.name = .ok rows

theorem IsLegible.isSound {table : FirstFollowTable} (legible : table.IsLegible) :
    table.IsSound :=
  fun entry isEntry column symbol isMember =>
    (legible entry isEntry column symbol isMember).isGeneric

theorem IsLegible.isRenderable {table : FirstFollowTable} (legible : table.IsLegible) :
    table.IsRenderable := by
  constructor
  · obtain ⟨text, written, -⟩ := readColumns?_literal legible
    exact ⟨text, written⟩
  · intro column
    cases column <;> exact ⟨_, rfl⟩

end FirstFollowTable

/-! ## Parse tables -/

namespace ParseTable

/-- The terminals of a parse table are those of the vocabulary, and what its bodies hold are
references. -/
structure IsSound (table : ParseTable) : Prop where
  keys : ∀ entry ∈ table.toList, entry.1.2.IsGeneric
  bodies : ∀ entry ∈ table.toList, ∀ reference ∈ entry.2, reference.IsProper

/-- All that is made from a parse table can be made. -/
structure IsRenderable (table : ParseTable) : Prop where
  literal : ∃ text, table.literal = .ok text
  rows : ∃ rows, table.rows = .ok rows
  values : ∀ entry ∈ table.toList, ∀ reference ∈ entry.2,
    ∃ value, Service.referenceValue reference = .ok value

theorem exists_entryLine {entry : ParseKey × List SymbolRef}
    (registered : entry.1.2.IsRegistered)
    (written : ∀ reference ∈ entry.2, ∃ text, reference.literal = .ok text) :
    ∃ line, entryLine entry = .ok line := by
  obtain ⟨terminal, terminalWritten⟩ := registered.exists_literal
  obtain ⟨references, allWritten⟩ := exists_mapM_of_forall written
  have body : Literal.items SymbolRef.literal entry.2 = .ok (", ".intercalate references) := by
    rw [Literal.items, allWritten]
    rfl
  exact ⟨_, by rw [entryLine, body, terminalWritten]; rfl⟩

theorem exists_literal {table : ParseTable}
    (registered : ∀ entry ∈ table.toList, entry.1.2.IsRegistered)
    (written : ∀ entry ∈ table.toList, ∀ reference ∈ entry.2,
      ∃ text, reference.literal = .ok text) : ∃ text, table.literal = .ok text := by
  obtain ⟨_, allWritten⟩ := exists_mapM_of_forall fun entry isIn =>
    exists_entryLine (registered entry isIn) (written entry isIn)
  exact ⟨_, by rw [ParseTable.literal, lines, allWritten]; rfl⟩

theorem exists_entryRow {entry : ParseKey × List SymbolRef}
    (allShown : ∀ reference ∈ entry.2, ∃ text, reference.shown = .ok text) :
    ∃ row, entryRow entry = .ok row ∧ row.length = 3 := by
  obtain ⟨references, shown⟩ := exists_mapM_of_forall allShown
  rw [entryRow, shownBody]
  split
  · exact ⟨_, rfl, rfl⟩
  · rw [shown]
    exact ⟨_, rfl, rfl⟩

/-- A table whose references are all shown has a row of three fields for each entry, below
the row of titles. -/
theorem exists_rows {table : ParseTable}
    (allShown : ∀ entry ∈ table.toList, ∀ reference ∈ entry.2,
      ∃ text, reference.shown = .ok text) :
    ∃ rows, table.rows = .ok rows ∧
      rows.map List.length = List.replicate (table.size + 1) 3 := by
  obtain ⟨below, written, lengths⟩ := exists_mapM_eq_ok fun entry isIn =>
    exists_entryRow (allShown entry isIn)
  refine ⟨_, by rw [ParseTable.rows, written]; rfl, ?_⟩
  have three : below.map List.length = table.toList.map fun _ => 3 :=
    map_eq_map_of_forall₂ lengths fun _ _ isThree => isThree
  rw [List.map_cons, three, List.map_const', List.replicate_succ]
  rfl

theorem IsSound.isRenderable {table : ParseTable} (sound : table.IsSound) :
    table.IsRenderable where
  literal := exists_literal (fun entry isIn => (sound.keys entry isIn).registered)
    fun entry isIn reference inBody => (sound.bodies entry isIn reference inBody).exists_literal
  rows := by
    obtain ⟨rows, written, -⟩ := exists_rows fun entry isIn reference inBody =>
      SymbolRef.exists_shown (sound.bodies entry isIn reference inBody).ne_foreign
    exact ⟨rows, written⟩
  values := fun entry isEntry reference isIn =>
    (sound.bodies entry isEntry reference isIn).exists_referenceValue

end ParseTable

end GrammarTables
