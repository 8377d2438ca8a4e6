import GrammarTables.Proofs.FirstFollow.Defects
import GrammarTables.Proofs.FirstFollow.Denotation
import GrammarTables.Proofs.ParseTable.Defects
import GrammarTables.Proofs.ParseTable.Denotation
import GrammarTables.Proofs.Rendering
import GrammarTables.Proofs.Streams

/-!
# What documents are transcribed to

Whatever a document holds, its transcription ends with a table that can be rendered or with
one of the defects that are there for pages.  What the readers let through keeps the builders
from all other failures: rows have a cell for each column, filled cells have symbols, and the
symbols are of known kinds.
-/

namespace GrammarTables

/-! ## First/Follow tables -/

namespace FirstFollowTable

theorem isRegistered_of_isSetsOf {row : SetRow} {entry : SetEntry} (isSets : entry.IsSetsOf row)
    (column : SetColumn) : ∀ symbol ∈ entry.column column, symbol.IsRegistered :=
  forall_mem_of_mapM (isSets column) fun name _ _ resolved =>
    ⟨name, (Vocabulary.resolve_eq_ok_iff ..).mp resolved⟩

theorem isLegible_of_outcome_extend {rows : List SetRow} {table result : FirstFollowTable}
    (legible : table.IsLegible) (ended : (extend table rows).outcome = .ok result) :
    result.IsLegible := by
  obtain ⟨entries, all, rfl⟩ := (outcome_extend_eq_ok_iff ..).mp ended
  have entriesRegistered : ∀ entry ∈ entries, ∀ column, ∀ symbol ∈ entry.2.column column,
      symbol.IsRegistered :=
    forall_mem_of_forall₂ all fun _ _ _ isEntry => isRegistered_of_isSetsOf isEntry.2
  exact OrderedMap.valuesHave_insertAll
    (fun sets : SetEntry => ∀ column, ∀ symbol ∈ sets.column column, symbol.IsRegistered)
    legible entriesRegistered

theorem isLegible_of_outcome_build {stream : RowStream SetRow} {table : FirstFollowTable}
    (built : (build stream).outcome = .ok table) : table.IsLegible := by
  rw [outcome_build, collect_eq_ok_iff] at built
  have emptyLegible : FirstFollowTable.IsLegible .empty := by
    intro entry isIn
    exact absurd isIn List.not_mem_nil
  exact isLegible_of_outcome_extend emptyLegible built.1

theorem isLegible_of_outcome_ofDocument {document : Markup.Document} {table : FirstFollowTable}
    (ended : (ofDocument document).outcome = .ok table) : table.IsLegible :=
  isLegible_of_outcome_build ended

end FirstFollowTable

/-! ## Rows of parse tables -/

/-- The symbol is of one of the kinds that are read from cells. -/
def RawSymbol.IsKnown (symbol : RawSymbol) : Prop :=
  symbol.kind ∈ ["nonterm", "term", "action"]

/-- A row as it is read below a header of some width. -/
structure ProductionRow.IsReadBelow (width : Nat) (row : ProductionRow) : Prop where
  aligned : row.cells.length = width
  filled : ∀ symbols, some symbols ∈ row.cells → symbols ≠ []
  known : ∀ symbols, some symbols ∈ row.cells → ∀ symbol ∈ symbols, symbol.IsKnown

namespace ProductionRow

theorem isKnown_of_mem_cellSymbols {cell : Markup.Element} {symbol : RawSymbol}
    (isIn : symbol ∈ cellSymbols cell) : symbol.IsKnown := by
  obtain ⟨element, found, rfl⟩ := List.mem_map.mp isIn
  exact List.contains_iff_mem.mp (List.mem_filter.mp found).2

theorem cellSymbols_eq_of_readCell {cell : Markup.Element} {symbols : List RawSymbol}
    (gives : readCell cell = some symbols) : cellSymbols cell = symbols ∧ symbols ≠ [] := by
  rw [readCell] at gives
  cases inCell : cellSymbols cell with
  | nil => simp [inCell] at gives
  | cons first rest =>
      simp only [inCell, Option.some.injEq] at gives
      rw [← gives]
      exact ⟨rfl, List.cons_ne_nil first rest⟩

/-- A row is read exactly if it has a name and as many cells as the header. -/
theorem read_eq_ok_iff (width : Nat) (index : Int) (element : Markup.Element)
    (row : ProductionRow) :
    read width index element = .ok row ↔
      ∃ name, element.findInside? "th" "nonterm" = some name ∧
        (rowCells element).length = width ∧
          row = ⟨index, name.reading, (rowCells element).map readCell⟩ := by
  cases named : element.findInside? "th" "nonterm" with
  | none => simp [read, named]
  | some name => by_cases aligned : (rowCells element).length = width <;>
      simp [read, named, aligned, eq_comm]

theorem isReadBelow_of_read {width : Nat} {index : Int} {element : Markup.Element}
    {row : ProductionRow} (gives : read width index element = .ok row) :
    row.IsReadBelow width := by
  obtain ⟨name, -, aligned, rfl⟩ := (read_eq_ok_iff ..).mp gives
  have fromCell (symbols : List RawSymbol) :
      some symbols ∈ (rowCells element).map readCell →
        ∃ cell, cellSymbols cell = symbols ∧ symbols ≠ [] := by
    intro isIn
    obtain ⟨cell, -, gives⟩ := List.mem_map.mp isIn
    exact ⟨cell, cellSymbols_eq_of_readCell gives⟩
  constructor
  · rw [List.length_map, aligned]
  · intro symbols isIn
    obtain ⟨cell, -, filled⟩ := fromCell symbols isIn
    exact filled
  · intro symbols isIn symbol inSymbols
    obtain ⟨cell, rfl, -⟩ := fromCell symbols isIn
    exact isKnown_of_mem_cellSymbols inSymbols

theorem isReadBelow_of_open? {document : Markup.Document} {names : List String}
    {stream : RowStream ProductionRow} (opened : open? document = .ok (names, stream)) :
    ∀ row ∈ stream.rows, row.IsReadBelow names.length := by
  intro row isIn
  obtain ⟨header, rows, -, -, rfl⟩ := exists_of_open?_eq_ok opened
  obtain ⟨element, -, position, gives⟩ := RowStream.exists_of_mem_rows_read isIn
  exact isReadBelow_of_read gives

end ProductionRow

/-! ## Parse tables -/

namespace ParseTable

theorem isProper_of_ofRaw {symbol : RawSymbol} {reference : SymbolRef}
    (known : symbol.IsKnown) (made : SymbolRef.ofRaw symbol = .ok reference) :
    reference.IsProper := by
  obtain ⟨kind, name⟩ := symbol
  simp only [RawSymbol.IsKnown, List.mem_cons, List.not_mem_nil, or_false] at known
  rcases known with rfl | rfl | rfl
  · cases made
    trivial
  · obtain ⟨terminal, resolved, rfl⟩ := (map_eq_ok_iff ..).mp made
    have registered : terminal.IsRegistered :=
      ⟨name, (Vocabulary.resolve_eq_ok_iff ..).mp resolved⟩
    exact registered.isGeneric
  · cases made
    rfl

theorem isProper_of_mapM {symbols : List RawSymbol} {body : List SymbolRef}
    (known : ∀ symbol ∈ symbols, symbol.IsKnown)
    (made : symbols.mapM SymbolRef.ofRaw = .ok body) :
    ∀ reference ∈ body, reference.IsProper :=
  forall_mem_of_mapM made fun symbol isIn _ here => isProper_of_ofRaw (known symbol isIn) here

/-- The bodies of rows that were read hold nothing but proper references. -/
theorem isProper_of_forall₂ {cells : List (ParseKey × List RawSymbol)}
    {entries : List (ParseKey × List SymbolRef)}
    (known : ∀ cell ∈ cells, ∀ symbol ∈ cell.2, symbol.IsKnown)
    (all : List.Forall₂ IsEntryOf cells entries) :
    ∀ entry ∈ entries, ∀ reference ∈ entry.2, reference.IsProper := by
  have each : ∀ cell ∈ cells, ∀ entry, IsEntryOf cell entry →
      ∀ reference ∈ entry.2, reference.IsProper := by
    intro cell isCell entry isEntry
    apply isProper_of_mapM _ isEntry.2
    intro symbol isIn
    exact known cell isCell symbol (List.mem_of_mem_tail isIn)
  exact forall_mem_of_forall₂ all each

theorem isSound_of_outcome_extend {terminals : List Terminal} {rows : List ProductionRow}
    {table : ParseTable} (registered : ∀ symbol ∈ terminals, symbol.IsRegistered)
    (read : ∀ row ∈ rows, row.IsReadBelow terminals.length)
    (ended : (extend terminals .empty rows).outcome = .ok table) : table.IsSound := by
  obtain ⟨-, entries, all, rfl⟩ := (outcome_extend_eq_ok_iff ..).mp ended
  have known : ∀ cell ∈ tableCells terminals rows, ∀ symbol ∈ cell.2, symbol.IsKnown := by
    rintro ⟨⟨nonterminal, terminal⟩, symbols⟩ isCell
    obtain ⟨row, isRow, -, column, -, inRow⟩ := (mem_tableCells ..).mp isCell
    exact (read row isRow).known symbols (List.mem_of_getElem? inRow)
  constructor
  · intro entry isIn
    have keys := OrderedMap.keysHave_insertAll OrderedMap.keysHave_empty
      (isTableKey_of_forall₂ registered all)
    exact (keys entry.1 (List.mem_map_of_mem isIn)).isGeneric
  · exact OrderedMap.valuesHave_insertAll
      (fun body : List SymbolRef => ∀ reference ∈ body, reference.IsProper)
      (by simp) (isProper_of_forall₂ known all)

theorem isSound_of_outcome_ofDocument {document : Markup.Document} {table : ParseTable}
    (ended : (ofDocument document).outcome = .ok table) : table.IsSound := by
  rw [ofDocument] at ended
  cases opened : ProductionRow.open? document with
  | error defect =>
      rw [opened] at ended
      cases ended
  | ok headed =>
      obtain ⟨names, stream⟩ := headed
      simp only [opened, outcome_build, bind_eq_ok_iff, collect_eq_ok_iff] at ended
      obtain ⟨terminals, resolved, rowsAdded, -⟩ := ended
      have read := ProductionRow.isReadBelow_of_open? opened
      rw [← length_of_resolveHeader resolved] at read
      exact isSound_of_outcome_extend (isRegistered_of_resolveHeader resolved) read rowsAdded

/-! ## Defects -/

theorem code_of_resolveSymbols {row : ProductionRow} {column : Int} {symbols : List RawSymbol}
    {defect : Defect} (ended : resolveSymbols row column symbols = .error defect) :
    defect.code = "UnknownSymbol" := by
  induction symbols with
  | nil => cases ended
  | cons symbol rest ih =>
      rw [resolveSymbols] at ended
      cases made : SymbolRef.ofRaw symbol with
      | error other =>
          rw [made] at ended
          cases ended
          rfl
      | ok reference =>
          rw [made] at ended
          cases others : resolveSymbols row column rest with
          | error other =>
              rw [others] at ended
              cases ended
              exact ih others
          | ok body =>
              rw [others] at ended
              cases ended

theorem code_of_outcome_extendRow {table : ParseTable} {row : ProductionRow} {column : Int}
    {cells : List (Terminal × ProductionCell)} {defect : Defect}
    (ended : (extendRow table row column cells).outcome = .error defect) :
    defect.code = "UnknownSymbol" := by
  induction cells generalizing table column with
  | nil => cases ended
  | cons cell rest ih =>
      obtain ⟨terminal, content⟩ := cell
      cases content with
      | none => exact ih ended
      | some symbols =>
          cases bodyEq : bodyOf row column symbols with
          | error other =>
              simp only [extendRow, bodyEq, Transcription.outcome_after,
                Transcription.outcome_abandoned, Except.error.injEq] at ended
              rw [← ended]
              exact code_of_resolveSymbols bodyEq
          | ok body =>
              simp only [extendRow, bodyEq, Transcription.outcome_after] at ended
              exact ih ended

/-- Rows with a cell for each column can only have symbols that are unknown. -/
theorem code_of_outcome_extend {terminals : List Terminal} {table : ParseTable}
    {rows : List ProductionRow} (aligned : ∀ row ∈ rows, row.cells.length = terminals.length)
    {defect : Defect} (ended : (extend terminals table rows).outcome = .error defect) :
    defect.code = "UnknownSymbol" := by
  induction rows generalizing table with
  | nil => cases ended
  | cons row rest ih =>
      obtain ⟨here, others⟩ := List.forall_mem_cons.mp aligned
      simp only [extend, here, if_true, Transcription.outcome_andThen] at ended
      cases rowEnded : (extendRow table row 0 (terminals.zip row.cells)).outcome with
      | error other =>
          rw [rowEnded] at ended
          cases ended
          exact code_of_outcome_extendRow rowEnded
      | ok extended =>
          rw [rowEnded] at ended
          exact ih others ended

theorem code_of_pageDefect {document : Markup.Document} {place : Place} {defect : Defect}
    (found : PageDefect document place defect) :
    defect.code ∈ ["UnknownSymbol", "MalformedRow", "MissingHeader"] := by
  cases found with
  | ofRow _ _ _ inRow => cases inRow <;> simp [Defect.code]
  | _ => simp [Defect.code]

end ParseTable

theorem FirstFollowTable.code_of_pageDefect {document : Markup.Document} {place : Place}
    {defect : Defect} (found : PageDefect document place defect) :
    defect.code ∈ ["UnknownSymbol", "MalformedRow", "MissingHeader"] := by
  cases found with
  | ofRow _ _ inRow => cases inRow <;> simp [Defect.code]
  | _ => simp [Defect.code]

/-! ## Documents -/

/-- A transcription ends with a sound table, from which everything can be made, or with a
defect of pages.  That a row has too few or too many cells is found when it is read and never
when it is added to a table. -/
theorem transcription_isSound (document : Markup.Document) :
    (∀ table, (FirstFollowTable.ofDocument document).outcome = .ok table →
        table.IsSound ∧ table.IsRenderable) ∧
      (∀ table, (ParseTable.ofDocument document).outcome = .ok table →
        table.IsSound ∧ table.IsRenderable) ∧
      (∀ defect, (FirstFollowTable.ofDocument document).outcome = .error defect ∨
          (ParseTable.ofDocument document).outcome = .error defect →
        defect.code ∈ ["UnknownSymbol", "MalformedRow", "MissingHeader"]) ∧
      ∀ names stream, ProductionRow.open? document = .ok (names, stream) →
        (∀ row ∈ stream.rows, row.IsReadBelow names.length) ∧
          ∀ terminals, ParseTable.resolveHeader 0 names = .ok terminals →
            ∀ defect, (ParseTable.extend terminals .empty stream.rows).outcome = .error defect →
              defect.code = "UnknownSymbol" := by
  refine ⟨?_, ?_, ?_, ?_⟩
  · intro table ended
    have legible := FirstFollowTable.isLegible_of_outcome_ofDocument ended
    exact ⟨legible.isSound, legible.isRenderable⟩
  · intro table ended
    have sound := ParseTable.isSound_of_outcome_ofDocument ended
    exact ⟨sound, sound.isRenderable⟩
  · rintro defect (ended | ended)
    · have settled := FirstFollowTable.settles_ofDocument document
      rw [ended] at settled
      obtain ⟨place, found, -⟩ := settled
      exact FirstFollowTable.code_of_pageDefect found
    · have settled := ParseTable.settles_ofDocument document
      rw [ended] at settled
      obtain ⟨place, found, -⟩ := settled
      exact ParseTable.code_of_pageDefect found
  · intro names stream opened
    have read := ProductionRow.isReadBelow_of_open? opened
    refine ⟨read, fun terminals resolved defect ended => ?_⟩
    have width := ParseTable.length_of_resolveHeader resolved
    exact ParseTable.code_of_outcome_extend
      (fun row isIn => (read row isIn).aligned.trans width.symm) ended

/-- A document with a table of each kind. -/
def numberDocument : Markup.Document :=
  ⟨[.element "table" [("class", "stats")]
      [.element "tr" [] [],
        .element "tr" []
          [.element "td" [] [.element "nonterm" [] [.text "N"]],
            .element "td" [] [.element "term" [] [.text "floatlit"]],
            .element "td" [] []]],
    .element "table" [("class", "parse_table")]
      [.element "tr" [] [.element "terminal" [] [.text "intlit"]],
        .element "tr" []
          [.element "th" [] [.element "nonterm" [] [.text "N"]],
            .element "td" []
              [.element "nonterm" [] [.text "N"], .element "term" [] [.text "floatlit"],
                .element "action" [] [.text ")"]]]]]⟩

/-- Numbers are written with the payloads of the vocabulary, and the text of an action need
not be balanced. -/
theorem transcription_isSound_numberDocument :
    ∃ sets table, (FirstFollowTable.ofDocument numberDocument).outcome = .ok sets ∧
      (ParseTable.ofDocument numberDocument).outcome = .ok table ∧
      (sets.IsSound ∧ sets.IsRenderable) ∧ table.IsSound ∧ table.IsRenderable := by
  have setsMade : (FirstFollowTable.ofDocument numberDocument).outcome =
      .ok ⟨[("N", ⟨[.ofKind .floatNumber], []⟩)]⟩ := by rfl
  have tableMade : (ParseTable.ofDocument numberDocument).outcome =
      .ok ⟨[(("N", .ofKind .integerNumber),
        [.terminal (.ofKind .floatNumber), .action ")" "action"])]⟩ := by rfl
  obtain ⟨setsHold, tableHolds, -⟩ := transcription_isSound numberDocument
  exact ⟨_, _, setsMade, tableMade, setsHold _ setsMade, tableHolds _ tableMade⟩

end GrammarTables
