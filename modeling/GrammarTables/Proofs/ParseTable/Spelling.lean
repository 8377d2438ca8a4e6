import GrammarTables.Export.Rows
import GrammarTables.Literal.Table
import GrammarTables.Proofs.ParseTable.Denotation
import GrammarTables.Service.Answer

/-!
# Markers and spellings do not matter

The first symbol of a cell marks the left hand side, and nobody looks at it.  Of the other
names only the terminals count that they stand for.  So rows make the same run, with the same
table or the same defect and the same events, whatever the markers are and whichever of its
names a terminal goes by.
-/

namespace GrammarTables

/-- The other name is the same, or both are registered for one terminal. -/
def Vocabulary.IsRespelling (name other : String) : Prop :=
  other = name ∨ ∃ symbol, find? name = some symbol ∧ find? other = some symbol

/-- The other symbol is the same, or both are terminals, one by a name of the other. -/
def RawSymbol.IsRespelling (symbol other : RawSymbol) : Prop :=
  other = symbol ∨
    symbol.kind = "term" ∧ other.kind = "term" ∧
      Vocabulary.IsRespelling symbol.name other.name

/-- The other cell may have any marker in place of the first symbol, and other spellings of the
symbols behind it. -/
inductive ProductionCell.IsRemarked : ProductionCell → ProductionCell → Prop where
  | empty : IsRemarked none none
  | blank : IsRemarked (some []) (some [])
  | filled (marker other : RawSymbol) {body respelled : List RawSymbol}
      (all : List.Forall₂ RawSymbol.IsRespelling body respelled) :
      IsRemarked (some (marker :: body)) (some (other :: respelled))

/-- The other row differs at most in markers and spellings. -/
structure ProductionRow.IsRemarked (row other : ProductionRow) : Prop where
  index_eq : other.index = row.index
  nonterminal_eq : other.nonterminal = row.nonterminal
  cells : List.Forall₂ ProductionCell.IsRemarked row.cells other.cells

/-- The other stream differs at most in markers and spellings. -/
structure ProductionRow.AreRemarked (stream other : RowStream ProductionRow) : Prop where
  rows : List.Forall₂ ProductionRow.IsRemarked stream.rows other.rows
  defect_eq : other.defect = stream.defect

/-- The row has as many cells as a header is wide, and the terminals behind its markers are
registered.  Nothing is said about the markers. -/
structure ProductionRow.IsRegisteredBelow (width : Nat) (row : ProductionRow) : Prop where
  aligned : row.cells.length = width
  registered : ∀ symbols, some symbols ∈ row.cells → ∀ symbol ∈ symbols.tail,
    symbol.kind = "term" → ∃ terminal, Vocabulary.find? symbol.name = some terminal

/-! ## Names and symbols -/

namespace Vocabulary

theorem IsRespelling.find?_eq {name other : String} (respelling : IsRespelling name other) :
    find? other = find? name := by
  rcases respelling with rfl | ⟨symbol, found, otherFound⟩
  · rfl
  · rw [found, otherFound]

/-- A name that is not registered has no other spelling. -/
theorem IsRespelling.eq_of_find?_eq_none {name other : String}
    (respelling : IsRespelling name other) (unknown : find? name = none) : other = name := by
  rcases respelling with same | ⟨symbol, found, -⟩
  · exact same
  · rw [unknown] at found
    cases found

end Vocabulary

/-- Two spellings of a symbol make the same reference, or they are one spelling that is not
registered. -/
theorem RawSymbol.IsRespelling.ofRaw_eq {symbol other : RawSymbol}
    (respelling : symbol.IsRespelling other) :
    SymbolRef.ofRaw other = SymbolRef.ofRaw symbol ∧
      ∀ defect, SymbolRef.ofRaw symbol = .error defect → other.name = symbol.name := by
  rcases respelling with rfl | ⟨isTerm, otherIsTerm, names⟩
  · exact ⟨rfl, fun _ _ => rfl⟩
  · cases found : Vocabulary.find? symbol.name with
    | none =>
        have sameName := names.eq_of_find?_eq_none found
        have same : other = symbol := by
          cases symbol
          cases other
          simp_all
        rw [same]
        exact ⟨rfl, fun _ _ => rfl⟩
    | some terminal =>
        have otherFound := names.find?_eq.trans found
        have referred : SymbolRef.ofRaw symbol = .ok (.terminal terminal) := by
          simp [SymbolRef.ofRaw, isTerm, Vocabulary.resolve, found, Except.map]
        have otherReferred : SymbolRef.ofRaw other = .ok (.terminal terminal) := by
          simp [SymbolRef.ofRaw, otherIsTerm, Vocabulary.resolve, otherFound, Except.map]
        rw [referred, otherReferred]
        refine ⟨rfl, ?_⟩
        intro defect refused
        cases refused

namespace ParseTable

/-! ## The loops of a run -/

theorem resolveHeader_eq_of_isRespelling {names others : List String}
    (all : List.Forall₂ Vocabulary.IsRespelling names others) (column : Int) :
    resolveHeader column others = resolveHeader column names := by
  induction all generalizing column with
  | nil => rfl
  | cons here _ ih =>
      rw [resolveHeader, resolveHeader, here.find?_eq]
      split
      · next unknown => rw [here.eq_of_find?_eq_none unknown]
      · rw [ih]

variable {row other : ProductionRow}

theorem resolveSymbols_eq_of_isRespelling (alike : row.IsRemarked other) (column : Int)
    {symbols respelled : List RawSymbol}
    (all : List.Forall₂ RawSymbol.IsRespelling symbols respelled) :
    resolveSymbols other column respelled = resolveSymbols row column symbols := by
  induction all with
  | nil => rfl
  | cons here _ ih =>
      obtain ⟨sameReference, sameName⟩ := here.ofRaw_eq
      rw [resolveSymbols, resolveSymbols, sameReference, ih, alike.index_eq,
        alike.nonterminal_eq]
      split
      · next defect refused => rw [sameName defect refused]
      · rfl

theorem extendRow_eq_of_isRemarked (alike : row.IsRemarked other)
    {cells others : List ProductionCell}
    (all : List.Forall₂ ProductionCell.IsRemarked cells others) (terminals : List Terminal)
    (table : ParseTable) (column : Int) :
    extendRow table other column (terminals.zip others) =
      extendRow table row column (terminals.zip cells) := by
  induction all generalizing terminals table column with
  | nil => simp only [List.zip_nil_right, extendRow]
  | cons here _ ih =>
      cases terminals with
      | nil => rfl
      | cons terminal terminals =>
          have sameEvents : eventsOf table other terminal = eventsOf table row terminal := by
            rw [eventsOf, eventsOf, alike.index_eq, alike.nonterminal_eq]
          rw [List.zip_cons_cons, List.zip_cons_cons]
          cases here with
          | empty => exact ih terminals table (column + 1)
          | blank =>
              simp only [extendRow, bodyOf, List.tail_nil, resolveSymbols, sameEvents,
                alike.nonterminal_eq, ih]
          | filled marker otherMarker body =>
              simp only [extendRow, bodyOf, List.tail_cons, sameEvents, alike.nonterminal_eq,
                resolveSymbols_eq_of_isRespelling alike column body, ih]

theorem extend_eq_of_isRemarked {rows others : List ProductionRow}
    (all : List.Forall₂ ProductionRow.IsRemarked rows others) (terminals : List Terminal)
    (table : ParseTable) : extend terminals table others = extend terminals table rows := by
  induction all generalizing table with
  | nil => rfl
  | cons here _ ih =>
      rw [extend, extend, ← here.cells.length_eq, here.index_eq, here.nonterminal_eq,
        extendRow_eq_of_isRemarked here here.cells]
      split
      · congr 1
        funext table
        exact ih table
      · rfl

/-- Two inputs that differ in markers and spellings make the same run. -/
theorem build_eq_of_areRemarked {names respelled : List String}
    {stream remarked : RowStream ProductionRow}
    (header : List.Forall₂ Vocabulary.IsRespelling names respelled)
    (alike : ProductionRow.AreRemarked stream remarked) :
    build respelled remarked = build names stream := by
  simp only [build, resolveHeader_eq_of_isRespelling header,
    extend_eq_of_isRemarked alike.rows, alike.defect_eq, ← alike.rows.length_eq]

/-! ## What a table depends on -/

/-- A cell has a body exactly if the terminals behind its marker are registered. -/
theorem exists_isEntryOf_iff (cell : ParseKey × List RawSymbol) :
    (∃ entry, IsEntryOf cell entry) ↔
      ∀ symbol ∈ cell.2.tail, symbol.kind = "term" →
        ∃ terminal, Vocabulary.find? symbol.name = some terminal := by
  have refers (symbol : RawSymbol) : (∃ reference, SymbolRef.ofRaw symbol = .ok reference) ↔
      (symbol.kind = "term" → ∃ terminal, Vocabulary.find? symbol.name = some terminal) := by
    have refused := SymbolRef.ofRaw_isError_iff symbol
    cases referred : SymbolRef.ofRaw symbol <;>
      simp_all [Option.ne_none_iff_exists']
  have traversed : (∃ entry, IsEntryOf cell entry) ↔
      ∃ body, cell.2.tail.mapM SymbolRef.ofRaw = .ok body := by
    constructor
    · rintro ⟨⟨_, body⟩, rfl, made⟩
      exact ⟨body, made⟩
    · rintro ⟨body, made⟩
      exact ⟨(cell.1, body), rfl, made⟩
  rw [traversed]
  simp only [mapM_eq_ok_iff, exists_forall₂_iff, refers]

/-- What holds of all filled cells of a table holds of the filled cells of its rows. -/
theorem forall_mem_tableCells_iff {terminals : List Terminal} {rows : List ProductionRow}
    (aligned : ∀ row ∈ rows, row.cells.length = terminals.length)
    (holds : List RawSymbol → Prop) :
    (∀ cell ∈ tableCells terminals rows, holds cell.2) ↔
      ∀ row ∈ rows, ∀ symbols, some symbols ∈ row.cells → holds symbols := by
  constructor
  · intro all row isRow symbols isIn
    obtain ⟨column, inRow⟩ := List.mem_iff_getElem?.mp isIn
    have bound := (List.getElem?_eq_some_iff.mp inRow).1
    rw [aligned row isRow] at bound
    have inHeader := List.getElem?_eq_getElem bound
    exact all ((row.nonterminal, terminals[column]), symbols)
      ((mem_tableCells ..).mpr ⟨row, isRow, rfl, column, inHeader, inRow⟩)
  · rintro all ⟨⟨nonterminal, terminal⟩, symbols⟩ isCell
    obtain ⟨row, isRow, -, column, -, inRow⟩ := (mem_tableCells ..).mp isCell
    exact all row isRow symbols (List.mem_of_getElem? inRow)

theorem exists_resolveHeader_iff (names : List String) (column : Int) :
    (∃ terminals, resolveHeader column names = .ok terminals) ↔
      ∀ name ∈ names, ∃ terminal, Vocabulary.find? name = some terminal := by
  simp only [resolveHeader_eq_ok_iff, exists_forall₂_iff]

/-- Aligned rows make entries exactly if the terminals behind their markers are registered. -/
theorem exists_entries_iff {terminals : List Terminal} {rows : List ProductionRow}
    (aligned : ∀ row ∈ rows, row.cells.length = terminals.length) :
    (∃ entries, List.Forall₂ IsEntryOf (tableCells terminals rows) entries) ↔
      ∀ row ∈ rows, row.IsRegisteredBelow terminals.length := by
  simp only [exists_forall₂_iff, exists_isEntryOf_iff]
  rw [forall_mem_tableCells_iff aligned fun symbols => ∀ symbol ∈ symbols.tail,
    symbol.kind = "term" → ∃ terminal, Vocabulary.find? symbol.name = some terminal]
  constructor
  · intro registered row isRow
    exact ⟨aligned row isRow, registered row isRow⟩
  · intro registered row isRow
    exact (registered row isRow).registered

/-- Whether there is a table is decided by the header, the numbers of cells and the terminals
behind the markers. -/
theorem exists_outcome_build_iff (names : List String) (stream : RowStream ProductionRow) :
    (∃ table, (build names stream).outcome = .ok table) ↔
      stream.defect = none ∧
        (∀ name ∈ names, ∃ terminal, Vocabulary.find? name = some terminal) ∧
        ∀ row ∈ stream.rows, row.IsRegisteredBelow names.length := by
  rw [← exists_resolveHeader_iff names 0]
  simp only [outcome_build, bind_eq_ok_iff, collect_eq_ok_iff, outcome_extend_eq_ok_iff]
  constructor
  · rintro ⟨_, terminals, resolved, ⟨aligned, entries, all, rfl⟩, noDefect⟩
    have registered := (exists_entries_iff aligned).mp ⟨entries, all⟩
    rw [length_of_resolveHeader resolved] at registered
    exact ⟨noDefect, ⟨terminals, resolved⟩, registered⟩
  · rintro ⟨noDefect, ⟨terminals, resolved⟩, registered⟩
    rw [← length_of_resolveHeader resolved] at registered
    have aligned : ∀ row ∈ stream.rows, row.cells.length = terminals.length := by
      intro row isRow
      exact (registered row isRow).aligned
    obtain ⟨entries, all⟩ := (exists_entries_iff aligned).mpr registered
    exact ⟨_, terminals, resolved, ⟨aligned, entries, all, rfl⟩, noDefect⟩

/-- A run is the same for all markers and for all spellings of the terminals, and so is all that
is made of its table.  Whether it ends with a table has nothing to do with the markers either:
they may be terminals that are not registered. -/
theorem build_independent_of_markers (names : List String) (stream : RowStream ProductionRow) :
    (∀ respelled remarked, List.Forall₂ Vocabulary.IsRespelling names respelled →
      ProductionRow.AreRemarked stream remarked →
        build respelled remarked = build names stream ∧
        (build respelled remarked).outcome.map ParseTable.literal =
          (build names stream).outcome.map ParseTable.literal ∧
        (build respelled remarked).outcome.map ParseTable.rows =
          (build names stream).outcome.map ParseTable.rows ∧
        (build respelled remarked).outcome.map Service.parseTableValue =
          (build names stream).outcome.map Service.parseTableValue) ∧
      ((∃ table, (build names stream).outcome = .ok table) ↔
        stream.defect = none ∧
          (∀ name ∈ names, ∃ terminal, Vocabulary.find? name = some terminal) ∧
          ∀ row ∈ stream.rows, row.IsRegisteredBelow names.length) := by
  constructor
  · intro respelled remarked header alike
    rw [build_eq_of_areRemarked header alike]
    exact ⟨rfl, rfl, rfl, rfl⟩
  · exact exists_outcome_build_iff names stream

/-- A row whose first cell has the given marker in front of a number by the given name. -/
def numberRow (marker : RawSymbol) (name : String) : ProductionRow :=
  ⟨1, "E", [some [marker, ⟨"nonterm", "T"⟩, ⟨"term", name⟩], none]⟩

/-- A marker that is not registered does not end a run, and other names of the terminals make
the same table. -/
theorem build_independent_of_markers_numberRow :
    (List.Forall₂ Vocabulary.IsRespelling ["lpar", "eof"] ["openpar", "eof"] ∧
      ProductionRow.AreRemarked (.ofRows [numberRow ⟨"term", "nosuch"⟩ "intlit"])
        (.ofRows [numberRow ⟨"action", "x"⟩ "intnum"])) ∧
    build ["openpar", "eof"] (.ofRows [numberRow ⟨"action", "x"⟩ "intnum"]) =
      build ["lpar", "eof"] (.ofRows [numberRow ⟨"term", "nosuch"⟩ "intlit"]) ∧
    ∃ table, (build ["lpar", "eof"] (.ofRows [numberRow ⟨"term", "nosuch"⟩ "intlit"])).outcome =
      .ok table := by
  have header : List.Forall₂ Vocabulary.IsRespelling ["lpar", "eof"] ["openpar", "eof"] :=
    .cons (.inr ⟨_, rfl, rfl⟩) (.cons (.inl rfl) .nil)
  have number : RawSymbol.IsRespelling ⟨"term", "intlit"⟩ ⟨"term", "intnum"⟩ :=
    .inr ⟨rfl, rfl, .inr ⟨_, rfl, rfl⟩⟩
  have row : (numberRow ⟨"term", "nosuch"⟩ "intlit").IsRemarked
      (numberRow ⟨"action", "x"⟩ "intnum") := by
    constructor
    · rfl
    · rfl
    · exact .cons (.filled _ _ (.cons (.inl rfl) (.cons number .nil))) (.cons .empty .nil)
  have alike : ProductionRow.AreRemarked (.ofRows [numberRow ⟨"term", "nosuch"⟩ "intlit"])
      (.ofRows [numberRow ⟨"action", "x"⟩ "intnum"]) := ⟨.cons row .nil, rfl⟩
  have same := (build_independent_of_markers _ _).1 _ _ header alike
  exact ⟨⟨header, alike⟩, same.1, _, rfl⟩

end ParseTable

end GrammarTables
