import GrammarTables.Proofs.FirstFollow.Denotation
import GrammarTables.Proofs.ParseTable.Denotation

/-!
# Overwritten entries are reported

A row or a cell either makes an entry of its own or replaces one, and it reports the latter.
So reports and entries together are as many as rows or filled cells, and nothing goes missing
without a report.  The invariant ties a table to the items that went into it and to the events
so far; a single insertion keeps it, and therefore a whole run.
-/

namespace GrammarTables

variable {Item Key Value : Type}

/-- The items that have the key of an item before them, in order. -/
def repeated [BEq Key] (key : Item → Key) (items : List Item) : List Item :=
  (items.zipIdx.filter fun placed =>
    (items.take placed.2).any fun earlier => key earlier == key placed.1).map Prod.fst

/-- The events that are warnings. -/
def warningsOf (events : List Event) : List Event :=
  events.filter fun event => event.level == .warning

/-- An event as a line of the log. -/
def Event.line (event : Event) : Level × String := (event.level, event.message)

/-- In a log of warnings that ends with a notice, what comes before are the warnings. -/
theorem warningsOf_concat {report : Item → Event}
    (isWarning : ∀ item, (report item).level = .warning) (items : List Item) {last : Event}
    (isInfo : last.level = .info) :
    warningsOf (items.map report ++ [last]) = items.map report := by
  have all : ∀ event ∈ items.map report, (event.level == .warning) = true := by
    intro event isIn
    obtain ⟨item, -, rfl⟩ := List.mem_map.mp isIn
    rw [isWarning item]
    rfl
  rw [warningsOf, List.filter_append, List.filter_eq_self.mpr all]
  simp [isInfo]

/-! ## Items and their repetitions -/

section Repeated

variable [BEq Key]

@[simp] theorem repeated_nil (key : Item → Key) : repeated key [] = [] := rfl

/-- Whether the last item is a repetition does not change what the others are. -/
theorem repeated_concat (key : Item → Key) (items : List Item) (item : Item) :
    repeated key (items ++ [item]) =
      repeated key items ++ if items.any (fun earlier => key earlier == key item) then [item]
        else [] := by
  have same : (items.zipIdx.filter fun placed =>
        ((items ++ [item]).take placed.2).any fun earlier => key earlier == key placed.1) =
      items.zipIdx.filter fun placed =>
        (items.take placed.2).any fun earlier => key earlier == key placed.1 := by
    apply List.filter_congr
    intro placed isIn
    have bound := List.snd_lt_of_mem_zipIdx isIn
    rw [List.take_append_of_le_length (by omega)]
  rw [repeated, List.zipIdx_append, List.filter_append, List.map_append, same, ← repeated]
  congr 1
  by_cases known : items.any (fun earlier => key earlier == key item) = true <;> simp [known]

end Repeated

/-! ## The invariant -/

/-- The map and the events after items have been inserted: the map has the keys of the items,
each repetition is reported, and the other items have an entry each. -/
structure Accounts [BEq Key] (property : Key → Prop) (key : Item → Key)
    (report : Item → Event) (map : OrderedMap Key Value) (events : List Event)
    (items : List Item) : Prop where
  itemsHave : ∀ item ∈ items, property (key item)
  mem_keys_iff : ∀ other, other ∈ map.keys ↔ other ∈ items.map key
  events_eq : events = (repeated key items).map report
  conserved : events.length + map.size = items.length

namespace Accounts

variable [BEq Key] {property : Key → Prop} {key : Item → Key} {report : Item → Event}
variable {map : OrderedMap Key Value} {events : List Event} {items : List Item}

theorem empty : Accounts property key report (.empty : OrderedMap Key Value) [] [] := by
  constructor
  · exact nofun
  · intro other
    exact Iff.rfl
  · rfl
  · rfl

theorem keysHave (accounts : Accounts property key report map events items) :
    ∀ other ∈ map.keys, property other := by
  intro other isKey
  rw [accounts.mem_keys_iff] at isKey
  obtain ⟨item, isIn, rfl⟩ := List.mem_map.mp isKey
  exact accounts.itemsHave item isIn

theorem contains_eq (accounts : Accounts property key report map events items)
    (exact : OrderedMap.IsExact property) {other : Key} (has : property other) :
    map.contains other = items.any fun item => key item == other := by
  have itemKeysHave : ∀ other ∈ items.map key, property other := by
    intro other isKey
    exact accounts.keysHave other ((accounts.mem_keys_iff other).mpr isKey)
  have inItems : (items.any fun item => key item == other) = (items.map key).any (· == other) := by
    rw [List.any_map]
    rfl
  rw [inItems, OrderedMap.contains_eq_any_keys, Bool.eq_iff_iff,
    exact.any_beq_iff_mem accounts.keysHave has, exact.any_beq_iff_mem itemKeysHave has]
  exact accounts.mem_keys_iff other

/-- One more insertion, reported if the key is in the map already. -/
theorem insert (accounts : Accounts property key report map events items)
    (exact : OrderedMap.IsExact property) (item : Item) (has : property (key item))
    (value : Value) :
    Accounts property key report (map.insert (key item) value)
      (events ++ if map.contains (key item) then [report item] else []) (items ++ [item]) := by
  have known := accounts.contains_eq exact has
  constructor
  · intro other isIn
    rcases List.mem_append.mp isIn with inItems | isItem
    · exact accounts.itemsHave other inItems
    · rwa [List.mem_singleton.mp isItem]
  · intro other
    rw [OrderedMap.mem_keys_insert exact accounts.keysHave has, accounts.mem_keys_iff,
      List.map_append, List.mem_append, List.map_singleton, List.mem_singleton]
  · rw [repeated_concat, List.map_append, ← known, accounts.events_eq]
    split <;> rfl
  · have conserved := accounts.conserved
    rw [OrderedMap.size_insert]
    split <;> simp <;> omega

end Accounts

/-! ## First/Follow tables -/

namespace FirstFollowTable

/-- What is reported about a row that repeats a nonterminal. -/
def repetition (row : SetRow) : Event := .repeatedNonterminal row.index row.nonterminal

/-- What a finished run over rows reports. -/
structure IsAccounted (rows : List SetRow) (table : FirstFollowTable) (events : List Event) :
    Prop where
  /-- Each row whose nonterminal an earlier row has is reported, in order. -/
  events_eq : events = (repeated SetRow.nonterminal rows).map repetition ++
    [.setsTranscribed table.size]
  lines_eq : events.map Event.line =
    (repeated SetRow.nonterminal rows).map (fun row =>
      (.warning, "Row " ++ toString row.index ++ " repeats nonterminal " ++
        Text.quoted row.nonterminal ++ "; keeping the later sets")) ++
    [(.info, "Transcribed FIRST/FOLLOW sets for " ++ toString table.size ++ " nonterminals")]
  conserved : (warningsOf events).length + table.size = rows.length

/-- Rows added to a table are accounted for behind those that made it. -/
theorem accounts_extend {rows earlier : List SetRow} {table result : FirstFollowTable}
    {events : List Event}
    (accounts : Accounts (fun _ => True) SetRow.nonterminal repetition table events earlier)
    (ended : (extend table rows).outcome = .ok result) :
    Accounts (fun _ => True) SetRow.nonterminal repetition result
      (events ++ (extend table rows).events) (earlier ++ rows) := by
  induction rows generalizing table events earlier with
  | nil =>
      cases ended
      simpa [extend, Transcription.completed] using accounts
  | cons row rest ih =>
      rw [outcome_extend_cons, bind_eq_ok_iff] at ended
      obtain ⟨entry, made, ended⟩ := ended
      have next := accounts.insert isExact_text row trivial entry
      have run := ih next ended
      simpa [extend, made, eventsOf, repetition] using run

theorem isAccounted_of_outcome_build {stream : RowStream SetRow} {table : FirstFollowTable}
    (ended : (build stream).outcome = .ok table) :
    IsAccounted stream.rows table (build stream).events := by
  have collected := ended
  rw [outcome_build, collect_eq_ok_iff] at collected
  obtain ⟨added, noDefect⟩ := collected
  have accounts := accounts_extend Accounts.empty added
  rw [List.nil_append, List.nil_append] at accounts
  have eventsEq : (build stream).events =
      (extend .empty stream.rows).events ++ [.setsTranscribed table.size] := by
    simp [build, Transcription.andThen, added, noDefect, Transcription.completed]
  rw [eventsEq, accounts.events_eq]
  constructor
  · rfl
  · rw [List.map_append, List.map_map]
    rfl
  · rw [warningsOf_concat (fun _ => rfl) _ rfl, ← accounts.events_eq]
    exact accounts.conserved

end FirstFollowTable

/-! ## Parse tables -/

namespace ParseTable

/-- The filled cells of all rows, row by row and each row from left to right, with the index of
the row and the key. -/
def placedKeys (terminals : List Terminal) (rows : List ProductionRow) :
    List (Int × ParseKey) :=
  rows.flatMap fun row =>
    (filledCells row.nonterminal (terminals.zip row.cells)).map fun cell => (row.index, cell.1)

/-- What is reported about a cell that overwrites an entry. -/
def overwriting (placed : Int × ParseKey) : Event :=
  .overwrittenEntry placed.1 placed.2.1 placed.2.2.kind

/-- What a finished run over rows reports, below a header of names. -/
structure IsAccounted (names : List String) (terminals : List Terminal)
    (rows : List ProductionRow) (table : ParseTable) (events : List Event) : Prop where
  resolved : names.mapM Vocabulary.resolve = .ok terminals
  /-- The keys of filled cells count as the same only if they are equal. -/
  beq_iff_eq : ∀ left ∈ placedKeys terminals rows, ∀ right ∈ placedKeys terminals rows,
    (left.2 == right.2) = true ↔ left.2 = right.2
  /-- Each filled cell whose key an earlier one has is reported, in order. -/
  events_eq : events = (repeated Prod.snd (placedKeys terminals rows)).map overwriting ++
    [.entriesTranscribed table.size rows.length names.length]
  lines_eq : events.map Event.line =
    (repeated Prod.snd (placedKeys terminals rows)).map (fun placed =>
      (.warning, "Row " ++ toString placed.1 ++ " overwrites M[" ++ placed.2.1 ++ ", " ++
        placed.2.2.display ++ "]")) ++
    [(.info, "Transcribed " ++ toString table.size ++ " parse table entries from " ++
      toString rows.length ++ " rows x " ++ toString names.length ++ " terminals")]
  conserved : (warningsOf events).length + table.size =
    (rows.flatMap ProductionRow.cells).countP Option.isSome

theorem accounts_extendRow {row : ProductionRow} {cells : List (Terminal × ProductionCell)}
    (registered : ∀ cell ∈ cells, cell.1.IsRegistered) {column : Int}
    {earlier : List (Int × ParseKey)} {table result : ParseTable} {events : List Event}
    (accounts : Accounts IsTableKey Prod.snd overwriting table events earlier)
    (ended : (extendRow table row column cells).outcome = .ok result) :
    Accounts IsTableKey Prod.snd overwriting result
      (events ++ (extendRow table row column cells).events)
      (earlier ++ (filledCells row.nonterminal cells).map fun cell => (row.index, cell.1)) := by
  induction cells generalizing table column events earlier with
  | nil =>
      cases ended
      simpa [extendRow, filledCells, Transcription.completed] using accounts
  | cons cell rest ih =>
      obtain ⟨terminal, content⟩ := cell
      obtain ⟨has, restHave⟩ := List.forall_mem_cons.mp registered
      cases content with
      | none => exact ih restHave accounts ended
      | some symbols =>
          cases made : bodyOf row column symbols with
          | error defect => simp [extendRow, made] at ended
          | ok body =>
              simp only [extendRow, made, Transcription.outcome_after] at ended
              have next := accounts.insert isExact_isTableKey
                (row.index, (row.nonterminal, terminal)) has body
              have run := ih restHave next ended
              simpa [extendRow, made, eventsOf, overwriting, filledCells] using run

/-- Rows added to a table are accounted for behind those that made it. -/
theorem accounts_extend {terminals : List Terminal}
    (registered : ∀ symbol ∈ terminals, symbol.IsRegistered) {rows : List ProductionRow}
    {earlier : List (Int × ParseKey)} {table result : ParseTable} {events : List Event}
    (accounts : Accounts IsTableKey Prod.snd overwriting table events earlier)
    (ended : (extend terminals table rows).outcome = .ok result) :
    Accounts IsTableKey Prod.snd overwriting result
      (events ++ (extend terminals table rows).events)
      (earlier ++ placedKeys terminals rows) := by
  induction rows generalizing table events earlier with
  | nil =>
      cases ended
      simpa [extend, placedKeys, Transcription.completed] using accounts
  | cons row rest ih =>
      by_cases aligned : row.cells.length = terminals.length
      · simp only [extend, aligned, if_true, Transcription.outcome_andThen,
          bind_eq_ok_iff] at ended
        obtain ⟨between, rowAdded, restAdded⟩ := ended
        have cellsRegistered : ∀ cell ∈ terminals.zip row.cells, cell.1.IsRegistered := by
          intro cell isIn
          exact registered cell.1 (List.of_mem_zip isIn).1
        have next := accounts_extendRow cellsRegistered accounts rowAdded
        have run := ih next restAdded
        simpa [extend, aligned, Transcription.andThen, rowAdded, placedKeys] using run
      · simp [extend, aligned] at ended

/-- In rows with a cell for each column, the filled cells are all cells that are not empty. -/
theorem length_placedKeys {terminals : List Terminal} {rows : List ProductionRow}
    (aligned : ∀ row ∈ rows, row.cells.length = terminals.length) :
    (placedKeys terminals rows).length =
      (rows.flatMap ProductionRow.cells).countP Option.isSome := by
  have filled (nonterminal : String) (cells : List (Terminal × ProductionCell)) :
      (filledCells nonterminal cells).length = (cells.map Prod.snd).countP Option.isSome := by
    induction cells with
    | nil => rfl
    | cons cell rest ih =>
        obtain ⟨terminal, content⟩ := cell
        cases content <;> simp_all [filledCells]
  induction rows with
  | nil => rfl
  | cons row rest ih =>
      obtain ⟨rowAligned, restAligned⟩ := List.forall_mem_cons.mp aligned
      have ofRow := filled row.nonterminal (terminals.zip row.cells)
      rw [List.map_snd_zip (Nat.le_of_eq rowAligned)] at ofRow
      rw [placedKeys, List.flatMap_cons, List.flatMap_cons, List.length_append, List.length_map,
        List.countP_append, ofRow, ← placedKeys, ih restAligned]

theorem isAccounted_of_outcome_build {names : List String} {stream : RowStream ProductionRow}
    {table : ParseTable} (ended : (build names stream).outcome = .ok table) :
    ∃ terminals, IsAccounted names terminals stream.rows table (build names stream).events := by
  have collected := ended
  simp only [outcome_build, bind_eq_ok_iff, collect_eq_ok_iff] at collected
  obtain ⟨terminals, resolved, added, noDefect⟩ := collected
  have registered := isRegistered_of_resolveHeader resolved
  have accounts := accounts_extend registered Accounts.empty added
  rw [List.nil_append, List.nil_append] at accounts
  have eventsEq : (build names stream).events =
      (extend terminals .empty stream.rows).events ++
        [.entriesTranscribed table.size stream.rows.length names.length] := by
    simp [build, resolved, Transcription.andThen, added, noDefect, Transcription.completed,
      length_of_resolveHeader resolved]
  refine ⟨terminals, ?_⟩
  rw [eventsEq, accounts.events_eq]
  constructor
  · exact (resolveHeader_eq_ok_iff_mapM ..).mp resolved
  · intro left leftIn right rightIn
    exact isExact_isTableKey left.2 right.2 (accounts.itemsHave left leftIn)
      (accounts.itemsHave right rightIn)
  · rfl
  · rw [List.map_append, List.map_map]
    rfl
  · have aligned := ((outcome_extend_eq_ok_iff ..).mp added).1
    rw [warningsOf_concat (fun _ => rfl) _ rfl, ← accounts.events_eq,
      ← length_placedKeys aligned]
    exact accounts.conserved

end ParseTable

/-! ## Both kinds of tables -/

/-- A finished run reports every entry that is overwritten, and nothing else before the line of
its completion: what has no entry of its own has a warning. -/
theorem overwritten_entries_reported :
    (∀ names stream table, (ParseTable.build names stream).outcome = .ok table →
        ∃ terminals, ParseTable.IsAccounted names terminals stream.rows table
          (ParseTable.build names stream).events) ∧
      ∀ stream table, (FirstFollowTable.build stream).outcome = .ok table →
        FirstFollowTable.IsAccounted stream.rows table (FirstFollowTable.build stream).events := by
  constructor
  · intro names stream table ended
    exact ParseTable.isAccounted_of_outcome_build ended
  · intro stream table ended
    exact FirstFollowTable.isAccounted_of_outcome_build ended

/-- A row with two cells of one key, and one that repeats its nonterminal below an empty cell. -/
def synonymRows : RowStream ProductionRow :=
  .ofRows [⟨1, "E", [some [], some [⟨"nonterm", "E"⟩]]⟩, ⟨2, "E", [none, some []]⟩]

/-- A row of sets that a later one replaces. -/
def repeatedRows : RowStream SetRow :=
  .ofRows [⟨1, "T", ["eof"], []⟩, ⟨2, "E", [], []⟩, ⟨3, "T", [], ["$"]⟩]

/-- Three cells make one entry, and three rows make two. -/
theorem overwritten_entries_reported_synonymRows :
    (∃ terminals table, (ParseTable.build ["lpar", "openpar"] synonymRows).outcome = .ok table ∧
      ParseTable.IsAccounted ["lpar", "openpar"] terminals synonymRows.rows table
        (ParseTable.build ["lpar", "openpar"] synonymRows).events) ∧
    (ParseTable.build ["lpar", "openpar"] synonymRows).events.map Event.message =
      ["Row 1 overwrites M[E, openpar]", "Row 2 overwrites M[E, openpar]",
        "Transcribed 1 parse table entries from 2 rows x 2 terminals"] ∧
    ∃ table, (FirstFollowTable.build repeatedRows).outcome = .ok table ∧
      FirstFollowTable.IsAccounted repeatedRows.rows table
        (FirstFollowTable.build repeatedRows).events := by
  have entriesMade : (ParseTable.build ["lpar", "openpar"] synonymRows).outcome =
      .ok ⟨[(("E", .ofKind .openParenthesis), [])]⟩ := by rfl
  have setsMade : (FirstFollowTable.build repeatedRows).outcome =
      .ok ⟨[("T", ⟨[], [.ofKind .endOfFile]⟩), ("E", ⟨[], []⟩)]⟩ := by rfl
  obtain ⟨ofEntries, ofSets⟩ := overwritten_entries_reported
  obtain ⟨terminals, accounted⟩ := ofEntries _ _ _ entriesMade
  exact ⟨⟨terminals, _, entriesMade, accounted⟩, by decide +kernel,
    _, setsMade, ofSets _ _ setsMade⟩

end GrammarTables
