import GrammarTables.Export.Rows
import GrammarTables.Proofs.Literal.FirstFollow

/-!
# Exported sets are read back

A set is exported as the names that the lexer displays, divided by spaces.  No such name
is empty or holds a space, and each is registered as a name of its own symbol, so dividing
the text at spaces and resolving the pieces gives the members of the set.
-/

namespace GrammarTables

namespace TokenKind

theorem display_ne_empty (kind : TokenKind) : kind.display ≠ "" := by
  cases kind <;> decide

theorem space_notMem_display (kind : TokenKind) : ' ' ∉ kind.display.toList := by
  cases kind <;> decide

end TokenKind

/-- The name that is displayed for a kind is resolved to the symbol of the kind. -/
theorem Vocabulary.resolve_display (kind : TokenKind) :
    resolve kind.display = .ok (.ofKind kind) := by
  rw [resolve_eq_ok_iff, find?, kind?_display]
  rfl

namespace FirstFollowTable

/-! ## The field of a set -/

/-- The names in the field of a set: what stands between single spaces.  The empty field
has no names. -/
def namesIn (field : String) : List String :=
  if field = "" then [] else (field.split ' ').toList.map String.Slice.copy

def readSet (field : String) : Except Defect (List Terminal) :=
  (namesIn field).mapM Vocabulary.resolve

theorem namesIn_shownSet (members : List Terminal) :
    namesIn (shownSet members) = members.map Terminal.display := by
  cases members with
  | nil => rfl
  | cons first others =>
      have notEmpty : shownSet (first :: others) ≠ "" :=
        Text.intercalate_cons_ne_empty first.kind.display_ne_empty
      have noSpaces : ∀ name ∈ (first :: others).map Terminal.display, ' ' ∉ name.toList := by
        intro name isName
        obtain ⟨symbol, -, rfl⟩ := List.mem_map.mp isName
        exact symbol.kind.space_notMem_display
      have divided := String.toList_split_intercalate noSpaces
      rw [namesIn, if_neg notEmpty]
      exact divided

theorem readSet_shownSet {members : List Terminal}
    (registered : ∀ symbol ∈ members, symbol.IsRegistered) :
    readSet (shownSet members) = .ok members := by
  rw [readSet, namesIn_shownSet, mapM_eq_ok_iff, List.forall₂_map_left_iff, List.forall₂_same]
  intro symbol isMember
  obtain ⟨kind, rfl⟩ := (Terminal.isRegistered_iff symbol).mp (registered symbol isMember)
  exact Vocabulary.resolve_display kind

/-! ## The rows of a column -/

/-- The nonterminal and the set of a row. -/
def readRow? : TextRow → Option (String × List Terminal)
  | [nonterminal, field] =>
    match readSet field with
    | .ok members => some (nonterminal, members)
    | .error _ => none
  | _ => none

/-- The nonterminal of an entry with its set in a column. -/
def inColumn (column : SetColumn) (entry : String × SetEntry) : String × List Terminal :=
  (entry.1, entry.2.column column)

/-- Below its titles a column has one row for each entry, from which its set is read. -/
theorem exists_rowsOf (column : SetColumn) {table : FirstFollowTable}
    (legible : table.IsLegible) :
    ∃ below, table.rowsOf column.name = .ok (["NonTerminal", column.title] :: below) ∧
      below.map readRow? = table.toList.map fun entry => some (inColumn column entry) := by
  have named : SetColumn.ofName? column.name = some column := by
    cases column <;> rfl
  refine ⟨_, by rw [rowsOf, named]; rfl, ?_⟩
  rw [List.map_map]
  apply List.map_congr_left
  intro entry isIn
  have setRead := readSet_shownSet (legible entry isIn column)
  simp only [Function.comp_apply, readRow?, setRead, inColumn]

/-- Two columns are joined to entries. -/
def joinColumns (first follow : List (String × List Terminal)) : List (String × SetEntry) :=
  List.zipWith (fun first follow => (first.1, ⟨first.2, follow.2⟩)) first follow

theorem joinColumns_map_inColumn (entries : List (String × SetEntry)) :
    joinColumns (entries.map (inColumn .first)) (entries.map (inColumn .follow)) = entries := by
  simp [joinColumns, inColumn, SetEntry.column, List.zipWith_map_left, List.zipWith_map_right]

theorem eq_of_map_inColumn_eq {entries others : List (String × SetEntry)}
    (same : ∀ column, entries.map (inColumn column) = others.map (inColumn column)) :
    entries = others := by
  rw [← joinColumns_map_inColumn entries, same, same, joinColumns_map_inColumn]

/-- The rows of both columns determine a table of registered members.  Below the titles
each column has the nonterminals in the order of the table, and dividing the field beside a
nonterminal at spaces and resolving the pieces gives its set, with the order and the
repetitions of the members. -/
theorem sets_determined_by_rows {table : FirstFollowTable} (legible : table.IsLegible) :
    (∀ column : SetColumn, ∃ below,
      table.rowsOf column.name = .ok (["NonTerminal", column.title] :: below) ∧
        below.map readRow? =
          table.toList.map fun entry => some (entry.1, entry.2.column column)) ∧
      ∀ other : FirstFollowTable, other.IsLegible →
        (∀ column : SetColumn, other.rowsOf column.name = table.rowsOf column.name) →
          other.toList = table.toList := by
  constructor
  · intro column
    exact exists_rowsOf column legible
  · intro other otherLegible sameRows
    apply eq_of_map_inColumn_eq
    intro column
    obtain ⟨below, written, rowsRead⟩ := exists_rowsOf column legible
    obtain ⟨otherBelow, otherWritten, otherRead⟩ := exists_rowsOf column otherLegible
    have sameBelow : otherBelow = below := by
      have bothWritten := otherWritten.symm.trans ((sameRows column).trans written)
      exact (List.cons.inj (Except.ok.inj bothWritten)).2
    rw [sameBelow, rowsRead] at otherRead
    apply List.map_injective_iff.mpr fun _ _ => Option.some.inj
    rw [List.map_map, List.map_map]
    exact otherRead.symm

/-- An empty set, a member that is repeated, and nonterminals that look like members. -/
def blanksTable : FirstFollowTable :=
  ⟨[("id  eps", ⟨[.openParenthesis, .identifier, .openParenthesis].map .ofKind, []⟩),
    ("", ⟨[], [.endOfFile].map .ofKind⟩)]⟩

theorem isLegible_blanksTable : blanksTable.IsLegible := by
  intro entry isIn column symbol isMember
  rw [Terminal.isRegistered_iff]
  rcases List.mem_pair.mp isIn with rfl | rfl
  · cases column with
    | first =>
        obtain ⟨kind, -, rfl⟩ := List.mem_map.mp isMember
        exact ⟨kind, rfl⟩
    | follow => cases isMember
  · cases column with
    | first => cases isMember
    | follow =>
        obtain ⟨kind, -, rfl⟩ := List.mem_map.mp isMember
        exact ⟨kind, rfl⟩

theorem sets_determined_by_rows_blanksTable :
    blanksTable.IsLegible ∧
      [["id  eps", "openpar id openpar"], ["", ""]].map readRow? =
        blanksTable.toList.map fun entry => some (entry.1, entry.2.first) := by
  obtain ⟨columns, -⟩ := sets_determined_by_rows isLegible_blanksTable
  obtain ⟨below, written, rowsRead⟩ := columns .first
  refine ⟨isLegible_blanksTable, ?_⟩
  have rowsWritten : [["id  eps", "openpar id openpar"], ["", ""]] = below :=
    (List.cons.inj (Except.ok.inj written)).2
  rw [rowsWritten]
  exact rowsRead

end FirstFollowTable

end GrammarTables
