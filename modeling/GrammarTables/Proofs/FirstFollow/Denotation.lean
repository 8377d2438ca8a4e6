import GrammarTables.Proofs.FirstFollow.Outcome
import GrammarTables.Proofs.OrderedMap

/-!
# What a First/Follow table says about the rows

Rows can repeat a nonterminal.  The table has each nonterminal once, where it first occurs,
with the sets of its last row and nothing of the others.  Those have to be registered all the
same: there is a table exactly if every name of every row is in the vocabulary.
-/

namespace GrammarTables

/-- The names of the members of a set, as the row has them. -/
def SetRow.names (row : SetRow) : SetColumn → List String
  | .first => row.first
  | .follow => row.follow

/-- All names in both columns of the row are in the vocabulary. -/
def SetRow.IsRegistered (row : SetRow) : Prop :=
  ∀ column, ∀ name ∈ row.names column, ∃ symbol, Vocabulary.find? name = some symbol

/-- The entry has, in both columns, the terminals of the row's names: one for each name, in
the order of the names. -/
def SetEntry.IsSetsOf (entry : SetEntry) (row : SetRow) : Prop :=
  ∀ column, (row.names column).mapM Vocabulary.resolve = .ok (entry.column column)

namespace FirstFollowTable

/-- The table that rows mean. -/
structure IsTableOf (rows : List SetRow) (table : FirstFollowTable) : Prop where
  /-- The keys are the nonterminals of the rows without later repetitions. -/
  keys_eq : table.keys = (rows.map SetRow.nonterminal).eraseDups
  keys_nodup : table.keys.Nodup
  /-- The value of a nonterminal is the sets of the last row that has it. -/
  sets_of_last : ∀ earlier row later, rows = earlier ++ row :: later →
    row.nonterminal ∉ later.map SetRow.nonterminal →
      ∃ entry, table.get? row.nonterminal = some entry ∧ entry.IsSetsOf row

/-- The key and the value that a row inserts. -/
def IsEntryOf (row : SetRow) (entry : String × SetEntry) : Prop :=
  entry.1 = row.nonterminal ∧ entry.2.IsSetsOf row

theorem isExact_text : OrderedMap.IsExact fun _ : String => True := by
  intro left right _ _
  exact beq_iff_eq

/-! ## Rows -/

theorem resolveMembers_eq_ok_iff_mapM (row : SetRow) (column : SetColumn)
    (names : List String) (members : List Terminal) :
    resolveMembers row column names = .ok members ↔
      names.mapM Vocabulary.resolve = .ok members := by
  rw [resolveMembers_eq_ok_iff, mapM_eq_ok_iff]
  simp only [Vocabulary.resolve_eq_ok_iff]

theorem entryOf_eq_ok_iff (row : SetRow) (entry : SetEntry) :
    entryOf row = .ok entry ↔ entry.IsSetsOf row := by
  obtain ⟨first, follow⟩ := entry
  simp only [entryOf_eq, bind_eq_ok_iff, map_eq_ok_iff, resolveMembers_eq_ok_iff_mapM]
  constructor
  · rintro ⟨_, firstResolved, _, followResolved, ⟨⟩⟩ column
    cases column with
    | first => exact firstResolved
    | follow => exact followResolved
  · intro resolved
    exact ⟨first, resolved .first, follow, resolved .follow, rfl⟩

theorem exists_isSetsOf_iff (row : SetRow) :
    (∃ entry : SetEntry, entry.IsSetsOf row) ↔ row.IsRegistered := by
  have resolves (column : SetColumn) :
      (∃ members, (row.names column).mapM Vocabulary.resolve = .ok members) ↔
        ∀ name ∈ row.names column, ∃ symbol, Vocabulary.find? name = some symbol := by
    simp only [mapM_eq_ok_iff, exists_forall₂_iff, Vocabulary.resolve_eq_ok_iff]
  constructor
  · intro ⟨entry, resolved⟩ column
    exact (resolves column).mp ⟨entry.column column, resolved column⟩
  · intro registered
    obtain ⟨first, firstResolved⟩ := (resolves .first).mpr (registered .first)
    obtain ⟨follow, followResolved⟩ := (resolves .follow).mpr (registered .follow)
    refine ⟨⟨first, follow⟩, ?_⟩
    intro column
    cases column with
    | first => exact firstResolved
    | follow => exact followResolved

theorem exists_isEntryOf_iff (row : SetRow) :
    (∃ entry, IsEntryOf row entry) ↔ row.IsRegistered := by
  rw [← exists_isSetsOf_iff]
  constructor
  · rintro ⟨⟨_, sets⟩, rfl, isSets⟩
    exact ⟨sets, isSets⟩
  · rintro ⟨sets, isSets⟩
    exact ⟨(row.nonterminal, sets), rfl, isSets⟩

/-! ## The loop as insertions -/

theorem outcome_extend_eq_ok_iff (table : FirstFollowTable) (rows : List SetRow)
    (result : FirstFollowTable) :
    (extend table rows).outcome = .ok result ↔
      ∃ entries, List.Forall₂ IsEntryOf rows entries ∧ result = table.insertAll entries := by
  induction rows generalizing table with
  | nil => simp [extend, eq_comm]
  | cons row rest ih =>
      simp only [outcome_extend_cons, bind_eq_ok_iff, entryOf_eq_ok_iff, ih,
        List.forall₂_cons_left_iff]
      constructor
      · rintro ⟨sets, isSets, entries, all, rfl⟩
        exact ⟨_, ⟨(row.nonterminal, sets), entries, ⟨rfl, isSets⟩, all, rfl⟩, rfl⟩
      · rintro ⟨_, ⟨⟨_, sets⟩, entries, ⟨rfl, isSets⟩, all, rfl⟩, rfl⟩
        exact ⟨sets, isSets, entries, all, rfl⟩

theorem outcome_build_ofRows_eq_ok_iff (rows : List SetRow) (table : FirstFollowTable) :
    (build (.ofRows rows)).outcome = .ok table ↔
      ∃ entries, List.Forall₂ IsEntryOf rows entries ∧ table = .ofList entries := by
  simp only [outcome_build, collect_eq_ok_iff, RowStream.ofRows, outcome_extend_eq_ok_iff,
    and_true]
  rfl

theorem map_fst_of_forall₂ {rows : List SetRow} {entries : List (String × SetEntry)}
    (all : List.Forall₂ IsEntryOf rows entries) :
    entries.map Prod.fst = rows.map SetRow.nonterminal :=
  map_eq_map_of_forall₂ all fun _ _ isEntry => isEntry.1

/-! ## The table -/

theorem isTableOf_ofList {rows : List SetRow} {entries : List (String × SetEntry)}
    (all : List.Forall₂ IsEntryOf rows entries) : IsTableOf rows (.ofList entries) := by
  have keysEq := map_fst_of_forall₂ all
  have anyText : ∀ key ∈ entries.map Prod.fst, True := fun _ _ => trivial
  constructor
  · rw [OrderedMap.keys_ofList isExact_text anyText, keysEq]
  · exact (OrderedMap.nodup_and_mem_keys_insertAll isExact_text OrderedMap.keysHave_empty
      List.nodup_nil anyText).1
  · rintro earlier row later rfl last
    obtain ⟨before, after, rfl, -, rest⟩ := (forall₂_append_left_iff ..).mp all
    obtain ⟨⟨_, sets⟩, others, ⟨rfl, isSets⟩, laterAll, rfl⟩ :=
      List.forall₂_cons_left_iff.mp rest
    rw [← map_fst_of_forall₂ laterAll] at last
    exact ⟨sets, OrderedMap.get?_insertAll_of_last isExact_text OrderedMap.keysHave_empty
      anyText last, isSets⟩

/-- A nonterminal that rows have is that of a last row. -/
theorem exists_last_of_mem {rows : List SetRow} {nonterminal : String}
    (isIn : nonterminal ∈ rows.map SetRow.nonterminal) :
    ∃ earlier row later, rows = earlier ++ row :: later ∧ row.nonterminal = nonterminal ∧
      nonterminal ∉ later.map SetRow.nonterminal := by
  induction rows with
  | nil => cases isIn
  | cons row rest ih =>
      by_cases inRest : nonterminal ∈ rest.map SetRow.nonterminal
      · obtain ⟨earlier, last, later, rfl, same, fresh⟩ := ih inRest
        exact ⟨row :: earlier, last, later, rfl, same, fresh⟩
      · rw [List.map_cons, List.mem_cons, or_iff_left inRest] at isIn
        exact ⟨[], row, rest, rfl, isIn.symm, inRest⟩

theorem isSetsOf_unique {row : SetRow} {left right : SetEntry}
    (leftSets : left.IsSetsOf row) (rightSets : right.IsSetsOf row) : left = right := by
  have left := (entryOf_eq_ok_iff ..).mpr leftSets
  have right := (entryOf_eq_ok_iff ..).mpr rightSets
  exact Except.ok.inj (left.symm.trans right)

/-- Rows mean at most one table. -/
theorem IsTableOf.unique {rows : List SetRow} {left right : FirstFollowTable}
    (leftTable : IsTableOf rows left) (rightTable : IsTableOf rows right) : left = right := by
  apply OrderedMap.eq_of_get?_eq isExact_text (fun _ _ => trivial) leftTable.keys_nodup
    (leftTable.keys_eq.trans rightTable.keys_eq.symm)
  intro nonterminal isKey
  rw [leftTable.keys_eq, List.mem_eraseDups] at isKey
  obtain ⟨earlier, row, later, rowsEq, rfl, last⟩ := exists_last_of_mem isKey
  obtain ⟨leftEntry, leftFound, leftSets⟩ := leftTable.sets_of_last _ _ _ rowsEq last
  obtain ⟨rightEntry, rightFound, rightSets⟩ := rightTable.sets_of_last _ _ _ rowsEq last
  rw [leftFound, rightFound, isSetsOf_unique leftSets rightSets]

/-- There is a table exactly if all rows are registered, those that a later row overwrites
among them, and the table is the one that the rows mean. -/
theorem outcome_build_eq_ok_iff_isTableOf (rows : List SetRow) :
    ((∃ table, (build (.ofRows rows)).outcome = .ok table) ↔
        ∀ row ∈ rows, row.IsRegistered) ∧
      ∀ table, (build (.ofRows rows)).outcome = .ok table ↔
        (∀ row ∈ rows, row.IsRegistered) ∧ IsTableOf rows table := by
  have returns : (∃ table, (build (.ofRows rows)).outcome = .ok table) ↔
      ∀ row ∈ rows, row.IsRegistered := by
    simp only [← exists_isEntryOf_iff, ← exists_forall₂_iff, outcome_build_ofRows_eq_ok_iff]
    constructor
    · rintro ⟨_, entries, all, rfl⟩
      exact ⟨entries, all⟩
    · rintro ⟨entries, all⟩
      exact ⟨_, entries, all, rfl⟩
  refine ⟨returns, ?_⟩
  intro table
  constructor
  · intro built
    obtain ⟨entries, all, rfl⟩ := (outcome_build_ofRows_eq_ok_iff ..).mp built
    exact ⟨returns.mp ⟨_, built⟩, isTableOf_ofList all⟩
  · rintro ⟨registered, isTable⟩
    obtain ⟨built, ended⟩ := returns.mpr registered
    obtain ⟨entries, all, rfl⟩ := (outcome_build_ofRows_eq_ok_iff ..).mp ended
    rw [ended, isTable.unique (isTableOf_ofList all)]

/-- The place of the first row with the sets of the last, none of which were in the first. -/
example : (build (.ofRows
    [⟨1, "T", ["eof", "eof"], ["id"]⟩, ⟨2, "E", [], []⟩, ⟨3, "T", ["id"], []⟩])).outcome =
      .ok ⟨[("T", ⟨[.ofKind .identifier], []⟩), ("E", ⟨[], []⟩)]⟩ := by
  rfl

end FirstFollowTable

end GrammarTables
