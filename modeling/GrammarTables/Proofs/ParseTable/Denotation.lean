import GrammarTables.Proofs.OrderedMap
import GrammarTables.Proofs.ParseTable.Outcome

/-!
# What a parse table says about the cells

The cells of a table that are not empty, taken row by row and in each row from left to
right, have keys and bodies.  Several of them can have the same key: rows can repeat a
nonterminal, and columns can be headed by two names of one terminal.  The table has each
key once, where it first occurs, with the body of the last cell that has it.
-/

namespace GrammarTables.ParseTable

/-- The cells of a row that are not empty, each with its key. -/
def filledCells (nonterminal : String) (cells : List (Terminal × ProductionCell)) :
    List (ParseKey × List RawSymbol) :=
  cells.filterMap fun cell => cell.2.map fun symbols => ((nonterminal, cell.1), symbols)

/-- The cells of all rows that are not empty, row by row. -/
def tableCells (terminals : List Terminal) (rows : List ProductionRow) :
    List (ParseKey × List RawSymbol) :=
  rows.flatMap fun row => filledCells row.nonterminal (terminals.zip row.cells)

/-- The entry has the key of the cell and its body: the references that its symbols make,
without the first, which is the marker. -/
def IsEntryOf (cell : ParseKey × List RawSymbol) (entry : ParseKey × List SymbolRef) :
    Prop :=
  entry.1 = cell.1 ∧ cell.2.tail.mapM SymbolRef.ofRaw = .ok entry.2

/-- The keys that tables have: any text with a registered terminal. -/
def IsTableKey (key : ParseKey) : Prop := key.2.IsRegistered

theorem isExact_isTableKey : OrderedMap.IsExact IsTableKey := by
  rintro ⟨left, leftTerminal⟩ ⟨right, rightTerminal⟩ leftRegistered rightRegistered
  change (left == right && leftTerminal == rightTerminal) = true ↔ _
  rw [Bool.and_eq_true, beq_iff_eq, leftRegistered.beq_iff_eq rightRegistered, Prod.mk.injEq]

theorem tableCells_cons (terminals : List Terminal) (row : ProductionRow)
    (rest : List ProductionRow) :
    tableCells terminals (row :: rest) =
      filledCells row.nonterminal (terminals.zip row.cells) ++ tableCells terminals rest :=
  List.flatMap_cons

theorem tableCells_append (terminals : List Terminal) (left right : List ProductionRow) :
    tableCells terminals (left ++ right) =
      tableCells terminals left ++ tableCells terminals right :=
  List.flatMap_append

/-- A cell belongs to a row by its nonterminal and to a column by its position. -/
theorem mem_tableCells (terminals : List Terminal) (rows : List ProductionRow)
    (nonterminal : String) (terminal : Terminal) (symbols : List RawSymbol) :
    ((nonterminal, terminal), symbols) ∈ tableCells terminals rows ↔
      ∃ row ∈ rows, row.nonterminal = nonterminal ∧
        ∃ column : Nat, terminals[column]? = some terminal ∧
          row.cells[column]? = some (some symbols) := by
  simp only [tableCells, filledCells, List.mem_flatMap, List.mem_filterMap,
    List.mem_iff_getElem? (l := List.zip _ _), List.getElem?_zip_eq_some]
  constructor
  · rintro ⟨row, member, ⟨other, content⟩, ⟨column, inHeader, inRow⟩, made⟩
    obtain ⟨symbols', rfl, eq⟩ := Option.map_eq_some_iff.mp made
    cases eq
    exact ⟨row, member, rfl, column, inHeader, inRow⟩
  · rintro ⟨row, member, rfl, column, inHeader, inRow⟩
    exact ⟨row, member, (terminal, some symbols), ⟨column, inHeader, inRow⟩, rfl⟩

theorem isTableKey_of_mem_tableCells {terminals : List Terminal}
    (registered : ∀ symbol ∈ terminals, symbol.IsRegistered) {rows : List ProductionRow} :
    ∀ key ∈ (tableCells terminals rows).map Prod.fst, IsTableKey key := by
  intro key member
  obtain ⟨⟨⟨nonterminal, terminal⟩, symbols⟩, inCells, rfl⟩ := List.mem_map.mp member
  obtain ⟨row, -, -, column, inHeader, -⟩ := (mem_tableCells ..).mp inCells
  exact registered terminal (List.mem_of_getElem? inHeader)

/-- Where all cells are empty below a terminal, in rows of a nonterminal, no cell has the key
of both. -/
theorem notMem_map_fst_tableCells {terminals : List Terminal} {rows : List ProductionRow}
    {nonterminal : String} {terminal : Terminal}
    (allEmpty : ∀ row ∈ rows, row.nonterminal = nonterminal →
      ∀ column : Nat, terminals[column]? = some terminal → row.cells[column]? = some none) :
    (nonterminal, terminal) ∉ (tableCells terminals rows).map Prod.fst := by
  intro member
  obtain ⟨⟨_, symbols⟩, inCells, rfl⟩ := List.mem_map.mp member
  obtain ⟨row, inRows, same, column, inHeader, filled⟩ := (mem_tableCells ..).mp inCells
  rw [allEmpty row inRows same column inHeader] at filled
  cases filled

theorem sublist_filledCells (nonterminal : String)
    (cells : List (Terminal × ProductionCell)) :
    ((filledCells nonterminal cells).map Prod.fst).Sublist
      ((cells.map Prod.fst).map fun terminal => (nonterminal, terminal)) := by
  induction cells with
  | nil => exact .slnil
  | cons cell rest ih =>
      obtain ⟨terminal, content⟩ := cell
      cases content with
      | none => exact ih.cons _
      | some symbols => exact ih.cons_cons _

/-- Rows with different nonterminals below different terminals have no key twice. -/
theorem nodup_tableCells {terminals : List Terminal} {rows : List ProductionRow}
    (aligned : ∀ row ∈ rows, row.cells.length = terminals.length)
    (rowsDiffer : (rows.map ProductionRow.nonterminal).Nodup)
    (columnsDiffer : terminals.Nodup) :
    ((tableCells terminals rows).map Prod.fst).Nodup := by
  induction rows with
  | nil => simp [tableCells]
  | cons row rest ih =>
      obtain ⟨rowAligned, restAligned⟩ := List.forall_mem_cons.mp aligned
      obtain ⟨fresh, restDiffer⟩ := List.nodup_cons.mp rowsDiffer
      have rowKeys : ((filledCells row.nonterminal (terminals.zip row.cells)).map
          Prod.fst).Sublist (terminals.map fun terminal => (row.nonterminal, terminal)) := by
        have keys := sublist_filledCells row.nonterminal (terminals.zip row.cells)
        rwa [List.map_fst_zip (Nat.le_of_eq rowAligned.symm)] at keys
      rw [tableCells_cons, List.map_append, List.nodup_append]
      refine ⟨rowKeys.nodup ?_, ih restAligned restDiffer, ?_⟩
      · exact columnsDiffer.map fun left right equal => (Prod.mk.inj equal).2
      · rintro key inRow _ inRest rfl
        obtain ⟨terminal, -, rfl⟩ := List.mem_map.mp (rowKeys.subset inRow)
        obtain ⟨⟨_, symbols⟩, inCells, rfl⟩ := List.mem_map.mp inRest
        obtain ⟨other, member, same, -⟩ := (mem_tableCells ..).mp inCells
        exact fresh (List.mem_map.mpr ⟨other, member, same⟩)

/-! ## The loops as insertions -/

theorem outcome_extendRow_eq_ok_iff (table : ParseTable) (row : ProductionRow) (column : Int)
    (cells : List (Terminal × ProductionCell)) (result : ParseTable) :
    (extendRow table row column cells).outcome = .ok result ↔
      ∃ entries, List.Forall₂ IsEntryOf (filledCells row.nonterminal cells) entries ∧
        result = table.insertAll entries := by
  induction cells generalizing table column with
  | nil => simp [extendRow, filledCells, eq_comm]
  | cons cell rest ih =>
      obtain ⟨terminal, content⟩ := cell
      cases content with
      | none =>
          simp only [extendRow, filledCells, List.filterMap_cons, Option.map_none]
          exact ih table (column + 1)
      | some symbols =>
          have resolved := resolveSymbols_eq_ok_iff row column symbols.tail
          simp only [filledCells, List.filterMap_cons, Option.map_some,
            List.forall₂_cons_left_iff, IsEntryOf, ← resolved] at ih ⊢
          cases bodyEq : resolveSymbols row column symbols.tail with
          | error defect =>
              simp only [extendRow, bodyOf, bodyEq, Transcription.outcome_after,
                Transcription.outcome_abandoned, reduceCtorEq, false_iff]
              rintro ⟨_, ⟨entry, others, ⟨-, impossible⟩, -⟩, -⟩
              cases impossible
          | ok body =>
              simp only [extendRow, bodyOf, bodyEq, Transcription.outcome_after, ih]
              constructor
              · rintro ⟨entries, all, rfl⟩
                exact ⟨_, ⟨(_, body), entries, ⟨rfl, rfl⟩, all, rfl⟩, rfl⟩
              · rintro ⟨_, ⟨⟨key, body'⟩, entries, ⟨rfl, ⟨⟩⟩, all, rfl⟩, rfl⟩
                exact ⟨entries, all, rfl⟩

theorem outcome_extend_eq_ok_iff (terminals : List Terminal) (table : ParseTable)
    (rows : List ProductionRow) (result : ParseTable) :
    (extend terminals table rows).outcome = .ok result ↔
      (∀ row ∈ rows, row.cells.length = terminals.length) ∧
        ∃ entries, List.Forall₂ IsEntryOf (tableCells terminals rows) entries ∧
          result = table.insertAll entries := by
  induction rows generalizing table with
  | nil => simp [extend, tableCells, eq_comm]
  | cons row rest ih =>
      rw [List.forall_mem_cons]
      by_cases aligned : row.cells.length = terminals.length
      · simp only [extend, aligned, if_true, Transcription.outcome_andThen, bind_eq_ok_iff,
          outcome_extendRow_eq_ok_iff, ih, true_and]
        rw [tableCells_cons]
        simp only [forall₂_append_left_iff]
        constructor
        · rintro ⟨_, ⟨entries, all, rfl⟩, restAligned, others, restAll, rfl⟩
          exact ⟨restAligned, _, ⟨entries, others, rfl, all, restAll⟩,
            (OrderedMap.insertAll_append ..).symm⟩
        · rintro ⟨restAligned, _, ⟨entries, others, rfl, all, restAll⟩, rfl⟩
          exact ⟨_, ⟨entries, all, rfl⟩, restAligned, others, restAll,
            OrderedMap.insertAll_append ..⟩
      · simp [extend, aligned]

theorem outcome_build_ofRows_eq_ok_iff (names : List String) (rows : List ProductionRow)
    (table : ParseTable) :
    (build names (.ofRows rows)).outcome = .ok table ↔
      ∃ terminals, resolveHeader 0 names = .ok terminals ∧
        (∀ row ∈ rows, row.cells.length = terminals.length) ∧
          ∃ entries, List.Forall₂ IsEntryOf (tableCells terminals rows) entries ∧
            table = .ofList entries := by
  simp only [outcome_build, bind_eq_ok_iff, collect_ofRows, outcome_extend_eq_ok_iff]
  rfl

theorem map_fst_of_forall₂ {cells : List (ParseKey × List RawSymbol)}
    {entries : List (ParseKey × List SymbolRef)} (all : List.Forall₂ IsEntryOf cells entries) :
    entries.map Prod.fst = cells.map Prod.fst :=
  map_eq_map_of_forall₂ all fun _ _ isEntry => isEntry.1

theorem isTableKey_of_forall₂ {terminals : List Terminal}
    (registered : ∀ symbol ∈ terminals, symbol.IsRegistered) {rows : List ProductionRow}
    {entries : List (ParseKey × List SymbolRef)}
    (all : List.Forall₂ IsEntryOf (tableCells terminals rows) entries) :
    ∀ key ∈ entries.map Prod.fst, IsTableKey key := by
  rw [map_fst_of_forall₂ all]
  exact isTableKey_of_mem_tableCells registered

/-! ## The table -/

/-- The table that rows mean below a header of terminals. -/
structure IsTableOf (terminals : List Terminal) (rows : List ProductionRow)
    (table : ParseTable) : Prop where
  /-- Each row has a cell in every column. -/
  aligned : ∀ row ∈ rows, row.cells.length = terminals.length
  /-- The keys are those of the filled cells without later repetitions. -/
  keys_eq : table.keys = ((tableCells terminals rows).map Prod.fst).eraseDups
  keys_nodup : table.keys.Nodup
  /-- A filled cell has an entry, and an entry has a filled cell. -/
  mem_keys_iff : ∀ nonterminal terminal, (nonterminal, terminal) ∈ table.keys ↔
    ∃ row ∈ rows, row.nonterminal = nonterminal ∧
      ∃ (column : Nat) (symbols : List RawSymbol), terminals[column]? = some terminal ∧
        row.cells[column]? = some (some symbols)
  /-- A filled cell has a body, with one reference for each symbol after the marker. -/
  body_exists : ∀ cell ∈ tableCells terminals rows,
    ∃ body, cell.2.tail.mapM SymbolRef.ofRaw = .ok body ∧ body.length = cell.2.length - 1
  /-- The value of a key is the body of the last filled cell that has the key. -/
  body_of_last : ∀ earlier key symbols later,
    tableCells terminals rows = earlier ++ (key, symbols) :: later →
      key ∉ later.map Prod.fst →
        ∃ body, symbols.tail.mapM SymbolRef.ofRaw = .ok body ∧ table.get? key = some body

theorem isTableOf_ofList {terminals : List Terminal}
    (registered : ∀ symbol ∈ terminals, symbol.IsRegistered) {rows : List ProductionRow}
    (aligned : ∀ row ∈ rows, row.cells.length = terminals.length)
    {entries : List (ParseKey × List SymbolRef)}
    (all : List.Forall₂ IsEntryOf (tableCells terminals rows) entries) :
    IsTableOf terminals rows (.ofList entries) := by
  have keysEq := map_fst_of_forall₂ all
  have keysHave := isTableKey_of_forall₂ registered all
  obtain ⟨nodup, mem⟩ := OrderedMap.nodup_and_mem_keys_insertAll isExact_isTableKey
    OrderedMap.keysHave_empty List.nodup_nil keysHave
  refine ⟨aligned, ?_, nodup, ?_, ?_, ?_⟩
  · rw [OrderedMap.keys_ofList isExact_isTableKey keysHave, keysEq]
  · intro nonterminal terminal
    have inMap : (nonterminal, terminal) ∈ (OrderedMap.ofList entries).keys ↔
        (nonterminal, terminal) ∈ (tableCells terminals rows).map Prod.fst := by
      rw [← keysEq]
      exact (mem _).trans (or_iff_right nofun)
    rw [inMap]
    simp only [List.mem_map, Prod.exists, exists_and_right, exists_eq_right, mem_tableCells]
    constructor
    · rintro ⟨symbols, row, member, same, column, inHeader, inRow⟩
      exact ⟨row, member, same, column, symbols, inHeader, inRow⟩
    · rintro ⟨row, member, same, column, symbols, inHeader, inRow⟩
      exact ⟨symbols, row, member, same, column, inHeader, inRow⟩
  · intro cell member
    obtain ⟨earlier, later, cellsEq⟩ := List.append_of_mem member
    rw [cellsEq, forall₂_append_left_iff] at all
    obtain ⟨before, after, -, -, restAll⟩ := all
    obtain ⟨⟨_, body⟩, others, ⟨-, resolved⟩, -, -⟩ := List.forall₂_cons_left_iff.mp restAll
    refine ⟨body, resolved, ?_⟩
    rw [← ((mapM_eq_ok_iff ..).mp resolved).length_eq, List.length_tail]
  · rintro earlier key symbols later cellsEq last
    rw [cellsEq, forall₂_append_left_iff] at all
    obtain ⟨before, after, rfl, earlierAll, restAll⟩ := all
    obtain ⟨⟨_, body⟩, others, ⟨rfl, resolved⟩, laterAll, rfl⟩ :=
      List.forall₂_cons_left_iff.mp restAll
    refine ⟨body, resolved, ?_⟩
    rw [← map_fst_of_forall₂ laterAll] at last
    exact OrderedMap.get?_insertAll_of_last isExact_isTableKey OrderedMap.keysHave_empty
      keysHave last

/-- A table that is built from rows is the one that the rows mean.  In particular, where no
two cells have the same key every filled cell has an entry of its own and an empty one has
none; and rows that have only empty cells at a key leave the entry of earlier rows. -/
theorem isTableOf_of_outcome_build {names : List String} {rows : List ProductionRow}
    {table : ParseTable} (built : (build names (.ofRows rows)).outcome = .ok table) :
    ∃ terminals, names.mapM Vocabulary.resolve = .ok terminals ∧
      IsTableOf terminals rows table ∧
      ((rows.map ProductionRow.nonterminal).Nodup → terminals.Nodup →
        table.keys = (tableCells terminals rows).map Prod.fst ∧
          ∀ row ∈ rows, ∀ (column : Nat) (terminal : Terminal),
            terminals[column]? = some terminal → row.cells[column]? = some none →
              (row.nonterminal, terminal) ∉ table.keys) ∧
      ∀ earlier later, rows = earlier ++ later →
        ∀ nonterminal, ∀ terminal ∈ terminals,
          (∀ row ∈ later, row.nonterminal = nonterminal →
            ∀ column : Nat, terminals[column]? = some terminal →
              row.cells[column]? = some none) →
          ∃ before, (build names (.ofRows earlier)).outcome = .ok before ∧
            table.get? (nonterminal, terminal) = before.get? (nonterminal, terminal) := by
  obtain ⟨terminals, resolved, aligned, entries, all, rfl⟩ :=
    (outcome_build_ofRows_eq_ok_iff ..).mp built
  have registered := isRegistered_of_resolveHeader resolved
  have isTable := isTableOf_ofList registered aligned all
  refine ⟨terminals, (resolveHeader_eq_ok_iff_mapM ..).mp resolved, isTable, ?_, ?_⟩
  · intro rowsDiffer columnsDiffer
    have keysEq : (OrderedMap.ofList entries).keys =
        (tableCells terminals rows).map Prod.fst := by
      rw [isTable.keys_eq]
      exact isExact_isTableKey.eraseDups_eq_self (isTableKey_of_mem_tableCells registered)
        (nodup_tableCells aligned rowsDiffer columnsDiffer)
    refine ⟨keysEq, ?_⟩
    intro row member column terminal inHeader empty
    rw [keysEq]
    apply notMem_map_fst_tableCells
    -- No other row has the nonterminal, and no other column the terminal.
    intro other otherMember same otherColumn otherInHeader
    have rowEq := List.inj_on_of_nodup_map rowsDiffer otherMember member same
    have inBounds := (List.getElem?_eq_some_iff.mp inHeader).1
    have columnEq := (List.getElem?_inj inBounds columnsDiffer).mp
      (inHeader.trans otherInHeader.symm)
    rw [rowEq, ← columnEq, empty]
  · rintro earlier later rfl nonterminal terminal inHeader allEmpty
    -- The entries of the later rows come after a table that the earlier ones make alone.
    rw [tableCells_append, forall₂_append_left_iff] at all
    obtain ⟨before, after, rfl, earlierAll, laterAll⟩ := all
    have earlierAligned : ∀ row ∈ earlier, row.cells.length = terminals.length :=
      fun row member => aligned row (List.mem_append_left later member)
    have beforeHas := OrderedMap.keysHave_insertAll OrderedMap.keysHave_empty
      (isTableKey_of_forall₂ registered earlierAll)
    have absent : (nonterminal, terminal) ∉ after.map Prod.fst := by
      rw [map_fst_of_forall₂ laterAll]
      exact notMem_map_fst_tableCells allEmpty
    refine ⟨.ofList before, (outcome_build_ofRows_eq_ok_iff ..).mpr
      ⟨terminals, resolved, earlierAligned, before, earlierAll, rfl⟩, ?_⟩
    rw [OrderedMap.ofList, OrderedMap.insertAll_append]
    exact OrderedMap.get?_insertAll_of_notMem isExact_isTableKey beforeHas
      (isTableKey_of_forall₂ registered laterAll) (registered terminal inHeader) absent

/-- Two names of one terminal head columns whose cells have one key, and the cell further to
the right decides, even if it has no symbols at all. -/
theorem isTableOf_synonymColumns :
    (build ["lpar", "openpar"] (.ofRows
        [⟨1, "E", [some [⟨"nonterm", "E"⟩, ⟨"term", "id"⟩], some []]⟩,
          ⟨2, "E", [none, none]⟩])).outcome =
        .ok ⟨[(("E", .ofKind .openParenthesis), [])]⟩ ∧
      ∃ terminals, ["lpar", "openpar"].mapM Vocabulary.resolve = .ok terminals ∧
        IsTableOf terminals
          [⟨1, "E", [some [⟨"nonterm", "E"⟩, ⟨"term", "id"⟩], some []]⟩,
            ⟨2, "E", [none, none]⟩]
          ⟨[(("E", .ofKind .openParenthesis), [])]⟩ := by
  have built : (build ["lpar", "openpar"] (.ofRows
      [⟨1, "E", [some [⟨"nonterm", "E"⟩, ⟨"term", "id"⟩], some []]⟩,
        ⟨2, "E", [none, none]⟩])).outcome =
      .ok ⟨[(("E", .ofKind .openParenthesis), [])]⟩ := by rfl
  obtain ⟨terminals, resolved, isTable, -, -⟩ := isTableOf_of_outcome_build built
  exact ⟨built, terminals, resolved, isTable⟩

end GrammarTables.ParseTable
