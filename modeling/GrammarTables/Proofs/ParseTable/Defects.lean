import GrammarTables.Proofs.FirstDefect
import GrammarTables.Proofs.Markup.Query
import GrammarTables.Proofs.ParseTable.Outcome

/-!
# Defects of pages with an LL(1) table

All defects of a page, each at its place, whatever else is wrong with the page.  Rows are
read only when they are asked for and their symbols are looked up before the next row is
read, and so the defect that a transcription reports is the first one of the page: the
header comes before the rows, and the shape of a row before its symbols.
-/

namespace GrammarTables.ParseTable

open Markup

/-- The defects of the row with an index, below a header of some width. -/
inductive RowDefect (width index : Nat) (row : Element) : Place → Defect → Prop
  /-- No header cell in the row has a nonterminal directly inside of it. -/
  | nameless :
      (∀ outer ∈ row :: row.descendants, outer.name = "th" →
        ∀ inner ∈ outer.childElements, inner.name ≠ "nonterm") →
      RowDefect width index row [0] (.missingHeader "production row header" (some index))
  /-- The row does not have as many data cells as the header has terminals. -/
  | malformed {name : Element} :
      row.findInside? "th" "nonterm" = some name →
      (rowCells row).length ≠ width →
      RowDefect width index row [1]
        (.malformedRow index width (rowCells row).length
          [("nonterminal", .text name.reading)])
  /-- A terminal after the first symbol of a cell is not registered. -/
  | unknown {name cell symbol : Element} {column position : Nat} :
      row.findInside? "th" "nonterm" = some name →
      (rowCells row)[column]? = some cell →
      (cell.findAll ["nonterm", "term", "action"])[position + 1]? = some symbol →
      symbol.name = "term" →
      Vocabulary.find? symbol.reading = none →
      RowDefect width index row [2, column, position + 1]
        (.unknownSymbol symbol.reading
          [("row", .integer index), ("nonterminal", .text name.reading),
            ("column", .integer column)])

/-- The first element of a page, in document order, that has the class of the tables. -/
def region? (document : Document) : Option Element :=
  document.elements.find? fun element => element.classes.contains "parse_table"

/-- The defects of a page.  Row zero is the header. -/
inductive PageDefect (document : Document) : Place → Defect → Prop
  /-- No element has the class of the tables. -/
  | noRegion :
      (∀ element ∈ document.elements, "parse_table" ∉ element.classes) →
      PageDefect document [0, 0] (.missingHeader "table region '.parse_table'" none)
  /-- The region has no rows. -/
  | noRows {region : Element} :
      region? document = some region →
      region.findAll ["tr"] = [] →
      PageDefect document [0, 1] (.missingHeader "terminal header row" none)
  /-- The first row names no terminals. -/
  | noTerminals {region header : Element} {rows : List Element} :
      region? document = some region →
      region.findAll ["tr"] = header :: rows →
      header.findAll ["terminal"] = [] →
      PageDefect document [0, 2] (.missingHeader "terminal header row" (some 0))
  /-- A terminal of the first row is not registered. -/
  | unknownColumn {region header terminal : Element} {rows : List Element} {column : Nat} :
      region? document = some region →
      region.findAll ["tr"] = header :: rows →
      (header.findAll ["terminal"])[column]? = some terminal →
      Vocabulary.find? terminal.reading = none →
      PageDefect document [0, 3, column]
        (.unknownSymbol terminal.reading [("row", .integer 0), ("column", .integer column)])
  /-- One of the other rows has a defect. -/
  | ofRow {region header row : Element} {rows : List Element} {offset : Nat} {place : Place}
      {defect : Defect} :
      region? document = some region →
      region.findAll ["tr"] = header :: rows →
      rows[offset]? = some row →
      RowDefect (header.findAll ["terminal"]).length (offset + 1) row place defect →
      PageDefect document ((offset + 1) :: place) defect

/-! ## One defect at a place -/

/-- The region is an element of the page that has the class of the tables. -/
theorem mem_of_region? {document : Document} {region : Element}
    (found : region? document = some region) :
    region ∈ document.elements ∧ "parse_table" ∈ region.classes := by
  have inClass := List.find?_some found
  exact ⟨List.mem_of_find?_eq_some found, by simpa using inClass⟩

/-- A page has one region, and that one header and one list of other rows. -/
theorem header_unique {document : Document} {region region' header header' : Element}
    {rows rows' : List Element} (found : region? document = some region)
    (rowsEq : region.findAll ["tr"] = header :: rows)
    (found' : region? document = some region')
    (rowsEq' : region'.findAll ["tr"] = header' :: rows') :
    header' = header ∧ rows' = rows := by
  obtain rfl := Option.some.inj (found.symm.trans found')
  exact List.cons.inj (rowsEq'.symm.trans rowsEq)

theorem isSingle_rowDefect (width index : Nat) (row : Element) :
    Survey.IsSingle (RowDefect width index row) := by
  intro place left right leftFound rightFound
  cases leftFound with
  | nameless absent =>
      cases rightFound
      rfl
  | malformed found wrong =>
      cases rightFound with
      | malformed found' wrong' =>
          obtain rfl := Option.some.inj (found.symm.trans found')
          rfl
  | unknown found inRow inCell isTerm unregistered =>
      cases rightFound with
      | unknown found' inRow' inCell' isTerm' unregistered' =>
          obtain rfl := Option.some.inj (found.symm.trans found')
          obtain rfl := Option.some.inj (inRow.symm.trans inRow')
          obtain rfl := Option.some.inj (inCell.symm.trans inCell')
          rfl

theorem isSingle_pageDefect (document : Document) :
    Survey.IsSingle (PageDefect document) := by
  intro place left right leftFound rightFound
  cases leftFound with
  | noRegion absent =>
      cases rightFound
      rfl
  | noRows found empty =>
      cases rightFound
      rfl
  | noTerminals found rowsEq empty =>
      cases rightFound
      rfl
  | unknownColumn found rowsEq named unregistered =>
      cases rightFound with
      | unknownColumn found' rowsEq' named' unregistered' =>
          obtain ⟨rfl, rfl⟩ := header_unique found rowsEq found' rowsEq'
          obtain rfl := Option.some.inj (named.symm.trans named')
          rfl
  | ofRow found rowsEq inRows inRow =>
      cases rightFound with
      | ofRow found' rowsEq' inRows' inRow' =>
          obtain ⟨rfl, rfl⟩ := header_unique found rowsEq found' rowsEq'
          obtain rfl := Option.some.inj (inRows.symm.trans inRows')
          exact isSingle_rowDefect _ _ _ _ _ _ inRow inRow'

/-! ## The loops of a run -/

/-- The name of a column can be unregistered. -/
def columnSurvey (column : Nat) (name : String) : Survey :=
  .leaf (Vocabulary.find? name = none)
    (.unknownSymbol name [("row", .integer 0), ("column", .integer column)])

/-- A symbol in a column of a row can be a terminal that is not registered. -/
def symbolSurvey (index : Int) (nonterminal : String) (column : Nat) (_position : Nat)
    (symbol : RawSymbol) : Survey :=
  .leaf (symbol.kind = "term" ∧ Vocabulary.find? symbol.name = none)
    (.unknownSymbol symbol.name
      [("row", .integer index), ("nonterminal", .text nonterminal),
        ("column", .integer column)])

/-- The symbols of a cell without its marker. -/
def cellSurvey (index : Int) (nonterminal : String) (column : Nat) (cell : Element) :
    Survey :=
  .each (symbolSurvey index nonterminal column) 1 (ProductionRow.cellSymbols cell).tail

theorem settles_resolveHeader (names : List String) (column : Nat) :
    (Survey.each columnSurvey column names).Settles (resolveHeader column names) := by
  induction names generalizing column with
  | nil => exact Survey.isClean_each_nil columnSurvey column
  | cons name rest ih =>
      cases found : Vocabulary.find? name with
      | none =>
          simp only [resolveHeader, found]
          exact (Survey.isFirst_leaf found _).each_cons rest
      | some symbol =>
          have clean : (columnSurvey column name).IsClean :=
            Survey.isClean_leaf (by simp [found]) _
          simp only [resolveHeader, found, Survey.settles_map]
          rw [clean.each_cons]
          exact ih (column + 1)

theorem settles_resolveSymbols (row : ProductionRow) (column : Nat)
    (symbols : List RawSymbol) (position : Nat) :
    (Survey.each (symbolSurvey row.index row.nonterminal column) position symbols).Settles
      (resolveSymbols row column symbols) := by
  induction symbols generalizing position with
  | nil => exact Survey.isClean_each_nil _ position
  | cons symbol rest ih =>
      have refused := SymbolRef.ofRaw_isError_iff symbol
      cases referred : SymbolRef.ofRaw symbol with
      | error defect =>
          simp only [resolveSymbols, referred]
          exact (Survey.isFirst_leaf (refused.mp ⟨defect, referred⟩) _).each_cons rest
      | ok reference =>
          have clean :
              (symbolSurvey row.index row.nonterminal column position symbol).IsClean :=
            Survey.isClean_leaf (by simp [← refused, referred]) _
          simp only [resolveSymbols, referred, Survey.settles_map]
          rw [clean.each_cons]
          exact ih (position + 1)

/-- An empty cell has no symbols, and the body of another one leaves out its marker. -/
theorem settles_extendRow (row : ProductionRow) (cells : List Element)
    (terminals : List Terminal) (aligned : cells.length = terminals.length)
    (table : ParseTable) (column : Nat) :
    (Survey.each (cellSurvey row.index row.nonterminal) column cells).Settles
      (extendRow table row column
        (terminals.zip (cells.map ProductionRow.readCell))).outcome := by
  induction cells generalizing terminals table column with
  | nil =>
      simp only [List.map_nil, List.zip_nil_right, extendRow]
      exact Survey.isClean_each_nil _ column
  | cons cell rest ih =>
      obtain ⟨terminal, others, rfl⟩ := List.exists_cons_of_length_eq_add_one aligned.symm
      have restAligned : rest.length = others.length := by simpa using aligned
      simp only [List.map_cons, List.zip_cons_cons]
      cases symbolsEq : ProductionRow.cellSymbols cell with
      | nil =>
          have clean : (cellSurvey row.index row.nonterminal column cell).IsClean := by
            rw [cellSurvey, symbolsEq]
            exact Survey.isClean_each_nil _ 1
          simp only [ProductionRow.readCell, symbolsEq, extendRow]
          rw [clean.each_cons]
          exact ih others restAligned table (column + 1)
      | cons marker symbols =>
          have body := settles_resolveSymbols row column symbols 1
          simp only [ProductionRow.readCell, symbolsEq, extendRow, bodyOf, List.tail_cons]
          cases resolved : resolveSymbols row column symbols with
          | error defect =>
              rw [resolved] at body
              simp only [Transcription.outcome_after, Transcription.outcome_abandoned]
              refine Survey.IsFirst.each_cons ?_ rest
              rw [cellSurvey, symbolsEq]
              exact body
          | ok references =>
              have clean : (cellSurvey row.index row.nonterminal column cell).IsClean := by
                rw [resolved] at body
                rw [cellSurvey, symbolsEq]
                exact body
              simp only [Transcription.outcome_after]
              rw [clean.each_cons]
              exact ih others restAligned _ (column + 1)

/-! ## Rows -/

/-- A row with a name and as many cells as there are columns has no defects but those of
its symbols. -/
theorem rowDefect_eq_under {width index : Nat} {row name : Element}
    (named : row.findInside? "th" "nonterm" = some name)
    (aligned : (rowCells row).length = width) :
    RowDefect width index row =
      (Survey.each (cellSurvey index name.reading) 0 (rowCells row)).under 2 := by
  funext place defect
  apply propext
  simp only [Survey.under, Survey.each_iff, cellSurvey, symbolSurvey, Survey.leaf,
    Nat.zero_add]
  constructor
  · intro found
    cases found with
    | nameless absent =>
        rw [← Element.findInside?_eq_none_iff, named] at absent
        cases absent
    | malformed named' wrong => exact absurd aligned wrong
    | @unknown name' cell symbol column position named' inRow inCell isTerm unregistered =>
        rw [named] at named'
        cases named'
        refine ⟨_, rfl, column, cell, inRow, _, rfl, position,
          ⟨symbol.name, symbol.reading⟩, ?_, _, ?_, rfl, ⟨isTerm, unregistered⟩, rfl⟩
        · simp [ProductionRow.cellSymbols, inCell]
        · rw [Nat.add_comm]
  · rintro ⟨_, rfl, column, cell, inRow, _, rfl, position, symbol, inCell, _, rfl, rfl,
      ⟨isTerm, unregistered⟩, rfl⟩
    simp only [ProductionRow.cellSymbols, List.getElem?_tail, List.getElem?_map,
      Option.map_eq_some_iff] at inCell
    obtain ⟨element, inCell, rfl⟩ := inCell
    rw [Nat.add_comm 1 position]
    exact .unknown named inRow inCell isTerm unregistered

theorem isFirst_nameless {width index : Nat} {row : Element}
    (absent : row.findInside? "th" "nonterm" = none) :
    Survey.IsFirst (RowDefect width index row)
      (.missingHeader "production row header" (some index)) := by
  refine ⟨[0], .nameless ((Element.findInside?_eq_none_iff ..).mp absent), ?_⟩
  intro earlier other before found
  cases found <;> simp [List.cons_lt_cons_iff] at before

theorem isFirst_malformed {width index : Nat} {row name : Element}
    (named : row.findInside? "th" "nonterm" = some name)
    (wrong : (rowCells row).length ≠ width) :
    Survey.IsFirst (RowDefect width index row)
      (.malformedRow index width (rowCells row).length
        [("nonterminal", .text name.reading)]) := by
  refine ⟨[1], .malformed named wrong, ?_⟩
  intro earlier other before found
  cases found with
  | nameless absent =>
      rw [← Element.findInside?_eq_none_iff, named] at absent
      cases absent
  | malformed named' wrong' => simp at before
  | unknown named' inRow inCell isTerm unregistered =>
      simp [List.cons_lt_cons_iff] at before

/-- The rows of a page are settled together: those that a defect keeps from being read have
no defect that comes before it. -/
theorem settles_collect (terminals : List Terminal) (rows : List Element) (index : Nat)
    (table : ParseTable) :
    (Survey.each (RowDefect terminals.length) index rows).Settles
      (collect terminals table
        (RowStream.read (ProductionRow.read terminals.length) index rows)) := by
  induction rows generalizing index table with
  | nil => exact Survey.isClean_each_nil _ index
  | cons row rest ih =>
      cases named : row.findInside? "th" "nonterm" with
      | none =>
          simp only [RowStream.read, ProductionRow.read, named, collect_ofDefect]
          exact (isFirst_nameless named).each_cons rest
      | some name =>
          by_cases aligned : (rowCells row).length = terminals.length
          · simp only [RowStream.read, ProductionRow.read, named, aligned, if_true]
            -- The symbols of the row are looked up before the next row is read, and the
            -- numbers of the rows put its defects before those of the rest.
            rw [collect_cons _ _ _ (by simpa using aligned)]
            refine Survey.Settles.followedBy ?_ (Survey.isAfter_each _ index rest)
              fun table _ => ih (index + 1) table
            rw [rowDefect_eq_under named aligned]
            exact (settles_extendRow _ (rowCells row) terminals aligned table 0).under 2
          · simp only [RowStream.read, ProductionRow.read, named, aligned, if_false,
              collect_ofDefect]
            exact (isFirst_malformed named aligned).each_cons rest

/-! ## Pages -/

theorem select?_region (document : Document) :
    document.select? ProductionRow.region = region? document :=
  document.select?_ofClass "parse_table"

/-- Below a header that names terminals, a page has the defects of the header and those of
the other rows. -/
theorem pageDefect_eq_followedBy {document : Document} {region header : Element}
    {rows : List Element} (found : region? document = some region)
    (rowsEq : region.findAll ["tr"] = header :: rows)
    (named : header.findAll ["terminal"] ≠ []) :
    PageDefect document =
      Survey.followedBy 0
        ((Survey.each columnSurvey 0
          ((header.findAll ["terminal"]).map Element.reading)).under 3)
        (Survey.each (RowDefect (header.findAll ["terminal"]).length) 1 rows) := by
  funext place defect
  apply propext
  simp only [Survey.followedBy, Survey.under, Survey.each_iff, columnSurvey, Survey.leaf,
    Nat.zero_add]
  constructor
  · intro defective
    cases defective with
    | noRegion absent =>
        obtain ⟨inPage, inClass⟩ := mem_of_region? found
        exact absurd inClass (absent region inPage)
    | noRows found' empty =>
        obtain rfl := Option.some.inj (found.symm.trans found')
        rw [rowsEq] at empty
        cases empty
    | noTerminals found' rowsEq' empty =>
        obtain ⟨rfl, rfl⟩ := header_unique found rowsEq found' rowsEq'
        exact absurd empty named
    | @unknownColumn region' header' terminal rows' column found' rowsEq' inHeader
        unregistered =>
        obtain ⟨rfl, rfl⟩ := header_unique found rowsEq found' rowsEq'
        refine .inl ⟨_, rfl, _, rfl, column, terminal.reading, ?_, _, rfl, rfl,
          unregistered, rfl⟩
        rw [List.getElem?_map, inHeader, Option.map_some]
    | @ofRow region' header' row rows' offset place defect found' rowsEq' inRows inRow =>
        obtain ⟨rfl, rfl⟩ := header_unique found rowsEq found' rowsEq'
        rw [Nat.add_comm] at inRow ⊢
        exact .inr ⟨offset, row, inRows, place, rfl, inRow⟩
  · rintro (⟨_, rfl, _, rfl, column, name, inHeader, _, rfl, rfl, unregistered, rfl⟩ |
      ⟨offset, row, inRows, inner, rfl, inRow⟩)
    · simp only [List.getElem?_map, Option.map_eq_some_iff] at inHeader
      obtain ⟨terminal, inHeader, rfl⟩ := inHeader
      exact .unknownColumn found rowsEq inHeader unregistered
    · rw [Nat.add_comm] at inRow ⊢
      exact .ofRow found rowsEq inRows inRow

theorem isFirst_noRegion {document : Document} (absent : region? document = none) :
    Survey.IsFirst (PageDefect document)
      (.missingHeader "table region '.parse_table'" none) := by
  refine ⟨[0, 0], .noRegion (by simpa [region?] using absent), ?_⟩
  intro earlier other before found
  cases found <;> simp [List.cons_lt_cons_iff] at before

theorem isFirst_noRows {document : Document} {region : Element}
    (found : region? document = some region) (empty : region.findAll ["tr"] = []) :
    Survey.IsFirst (PageDefect document)
      (.missingHeader "terminal header row" none) := by
  refine ⟨[0, 1], .noRows found empty, ?_⟩
  intro earlier other before defective
  cases defective with
  | noRegion absent =>
      obtain ⟨inPage, inClass⟩ := mem_of_region? found
      exact absent region inPage inClass
  | _ => simp [List.cons_lt_cons_iff] at before

theorem isFirst_noTerminals {document : Document} {region header : Element}
    {rows : List Element} (found : region? document = some region)
    (rowsEq : region.findAll ["tr"] = header :: rows)
    (unnamed : header.findAll ["terminal"] = []) :
    Survey.IsFirst (PageDefect document)
      (.missingHeader "terminal header row" (some 0)) := by
  refine ⟨[0, 2], .noTerminals found rowsEq unnamed, ?_⟩
  intro earlier other before defective
  cases defective with
  | noRegion absent =>
      obtain ⟨inPage, inClass⟩ := mem_of_region? found
      exact absent region inPage inClass
  | noRows found' empty =>
      obtain rfl := Option.some.inj (found.symm.trans found')
      rw [rowsEq] at empty
      cases empty
  | _ => simp [List.cons_lt_cons_iff] at before

theorem settles_ofDocument (document : Document) :
    Survey.Settles (PageDefect document) (ofDocument document).outcome := by
  cases found : region? document with
  | none =>
      simp only [ofDocument, ProductionRow.open?, tableRows, select?_region, found,
        Transcription.outcome_abandoned]
      exact isFirst_noRegion found
  | some region =>
      cases rowsEq : region.findAll ["tr"] with
      | nil =>
          simp only [ofDocument, ProductionRow.open?, tableRows, select?_region, found,
            rowsEq, Transcription.outcome_abandoned]
          exact isFirst_noRows found rowsEq
      | cons header rows =>
          cases terminalsEq : header.findAll ["terminal"] with
          | nil =>
              simp only [ofDocument, ProductionRow.open?, tableRows, select?_region, found,
                rowsEq, terminalsEq, List.map_nil, Transcription.outcome_abandoned]
              exact isFirst_noTerminals found rowsEq terminalsEq
          | cons terminal others =>
              -- The width that rows are compared with is that of the resolved header.
              rw [pageDefect_eq_followedBy found rowsEq (by simp [terminalsEq])]
              simp only [ofDocument, ProductionRow.open?, tableRows, select?_region, found,
                rowsEq, terminalsEq, List.map_cons, outcome_build]
              refine Survey.Settles.followedBy ?_ (Survey.isAfter_each _ 0 rows) ?_
              · exact (settles_resolveHeader _ 0).under 3
              · intro terminals resolved
                have width := length_of_resolveHeader resolved
                simp only [List.length_cons, List.length_map] at width ⊢
                rw [← width]
                exact settles_collect terminals rows 1 .empty

/-- A transcription succeeds exactly if the page has no defects, and it ends with a defect
exactly if that is the first one of the page. -/
theorem outcome_eq_first_pageDefect (document : Document) :
    ((∃ table, (ofDocument document).outcome = .ok table) ↔
        ∀ place defect, ¬PageDefect document place defect) ∧
      ∀ defect, (ofDocument document).outcome = .error defect ↔
        ∃ place, PageDefect document place defect ∧
          ∀ earlier other, earlier < place → ¬PageDefect document earlier other :=
  (settles_ofDocument document).outcome_iff (isSingle_pageDefect document)

end GrammarTables.ParseTable
