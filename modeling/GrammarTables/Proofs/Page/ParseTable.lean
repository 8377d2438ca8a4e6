import GrammarTables.ParseTable
import GrammarTables.Proofs.Page.Tree
import GrammarTables.Proofs.ParseTable.Outcome
import GrammarTables.Proofs.Streams

/-!
# Pages with an LL(1) table

Writing terminals and rows into a page and transcribing the page is building the table from
them.  A row that does not fit the header is refused while it is read, with the very defect
with which the builder would have refused it.
-/

namespace GrammarTables.Page

open Markup

/-- A row as it is given to be written: its nonterminal and its cells. -/
abbrev GivenRow : Type := String × List (Option (List (String × String)))

/-- The kinds of symbols that cells hold. -/
def symbolKinds : List String := ["nonterm", "term", "action"]

def symbolElements (symbols : List (String × String)) : List Element :=
  symbols.map fun symbol => nameElement symbol.1 symbol.2

/-- The content of a cell: the marker, an arrow, and the symbols of the body. -/
def productionNodes : List Element → List Node
  | [] => []
  | [marker] => [marker.toNode, .text "  → "]
  | marker :: first :: rest =>
    marker.toNode :: .text "  →  " :: first.toNode :: dividedBy " " rest

/-- The cell of a production. -/
def productionElement (cell : Option (List (String × String))) : Element :=
  ⟨"td", [], productionNodes (symbolElements (cell.getD []))⟩

/-- The cells of the header: an empty one, and one for each terminal. -/
def headerCells (terminals : List String) : List Element :=
  ⟨"th", [], []⟩ :: terminals.map (nameCell "th" "terminal")

def productionCells (row : GivenRow) : List Element :=
  nameCell "th" "nonterm" row.1 :: row.2.map productionElement

/-- The tree of a page with an LL(1) table. -/
def parseTableTree (terminals : List String) (rows : List GivenRow) : Document :=
  tree "LL(1) Parsing Table" "parse_table"
    ((headerCells terminals :: rows.map productionCells).map rowElement)

/-- A symbol of a known kind can be written into a page as it is. -/
structure IsPlainSymbol (symbol : String × String) : Prop where
  kind : symbol.1 ∈ symbolKinds
  name : IsPlain symbol.2

instance (symbol : String × String) : Decidable (IsPlainSymbol symbol) :=
  decidable_of_iff (symbol.1 ∈ symbolKinds ∧ IsPlain symbol.2)
    ⟨fun ⟨kind, name⟩ => ⟨kind, name⟩, fun plain => ⟨plain.kind, plain.name⟩⟩

/-- The names of a row can be written into a page as they are. -/
structure IsPlainProductionRow (row : GivenRow) : Prop where
  nonterminal : IsPlain row.1
  cells : ∀ cell ∈ row.2, ∀ symbol ∈ cell.getD [], IsPlainSymbol symbol

instance (row : GivenRow) : Decidable (IsPlainProductionRow row) :=
  decidable_of_iff
    (IsPlain row.1 ∧ ∀ cell ∈ row.2, ∀ symbol ∈ cell.getD [], IsPlainSymbol symbol)
    ⟨fun ⟨nonterminal, cells⟩ => ⟨nonterminal, cells⟩,
      fun plain => ⟨plain.nonterminal, plain.cells⟩⟩

/-- A cell without symbols is no production. -/
def givenCell : Option (List (String × String)) → ProductionCell
  | none | some [] => none
  | some symbols => some (symbols.map fun symbol => ⟨symbol.1, symbol.2⟩)

/-- The rows that a page with an LL(1) table shows, numbered from one. -/
def productionRows (rows : List GivenRow) : List ProductionRow :=
  rows.mapIdx fun position row => ⟨position + 1, row.1, row.2.map givenCell⟩

/-! ## The tree of the page -/

theorem IsPlainSymbol.ordinary {symbol : String × String} (plain : IsPlainSymbol symbol) :
    IsOrdinary symbol.1 := by
  have kinds : ∀ kind ∈ symbolKinds, IsOrdinary kind := by decide
  exact kinds symbol.1 plain.kind

theorem IsPlainSymbol.readsElement {symbol : String × String} (plain : IsPlainSymbol symbol) :
    ReadsElement "td" (element symbol.1 symbol.2).toList (nameElement symbol.1 symbol.2) := by
  have fits : ∀ kind ∈ symbolKinds, isClosedBy "td" kind = false := by decide
  exact readsElement_nameElement plain.ordinary (IsOrdinary.holdsText (by decide))
    (fits symbol.1 plain.kind) plain.name

/-- The arrow behind a marker that has no body. -/
theorem textOf_arrow : textOf (" ".toList ++ arrow.toList) = ["  → "] := by rfl

theorem textOf_arrow_space : textOf (" ".toList ++ arrow.toList ++ " ".toList) = ["  →  "] := by
  rfl

theorem readsContent_production {symbols : List (String × String)}
    (plain : ∀ symbol ∈ symbols, IsPlainSymbol symbol) :
    ReadsContent "td" (" ".intercalate (production symbols)).toList
      (productionNodes (symbolElements symbols)) := by
  have holds : HoldsText "td" := IsOrdinary.holdsText (by decide)
  have noText : '<' ∉ ([] : List Char) := List.not_mem_nil
  have noRun : textOf [] = [] := rfl
  have nothing : ReadsContent "td" [] [] := readsContent_text holds noText
  match symbols, plain with
  | [], _ => exact nothing
  | [marker], plain =>
      obtain ⟨markerPlain, -⟩ := List.forall_mem_cons.mp plain
      have behind : ReadsContent "td" (" ".toList ++ arrow.toList) [.text "  → "] := by
        have content := readsContent_text holds (by decide : '<' ∉ " ".toList ++ arrow.toList)
        rwa [textOf_arrow] at content
      have content := markerPlain.readsElement.cons holds noText behind
      rw [production, Text.toList_intercalate_cons]
      simpa [noRun, symbolElements, productionNodes] using content
  | marker :: first :: rest, plain =>
      obtain ⟨markerPlain, bodyPlain⟩ := List.forall_mem_cons.mp plain
      obtain ⟨firstPlain, restPlain⟩ := List.forall_mem_cons.mp bodyPlain
      have restReads := forall₂_readsElement fun symbol isIn =>
        (restPlain symbol isIn).readsElement
      have others := readsContent_divided holds (by decide : '<' ∉ " ".toList)
        (List.forall₂_map_left_iff.mpr restReads) nothing
      have body := firstPlain.readsElement.cons holds
        (by decide : '<' ∉ " ".toList ++ arrow.toList ++ " ".toList) others
      have content := markerPlain.readsElement.cons holds noText body
      have spaceRun : textOf " ".toList = [" "] := by rfl
      rw [textOf_arrow_space, noRun, spaceRun] at content
      rw [production, Text.toList_intercalate_cons]
      simpa [symbolElements, productionNodes, dividedBy, List.flatMap_map] using content

theorem readsElement_productionCell {cell : Option (List (String × String))}
    (plain : ∀ symbol ∈ cell.getD [], IsPlainSymbol symbol) :
    ReadsElement "tr" (productionCell cell).toList (productionElement cell) := by
  have content := readsContent_production plain
  have written : productionCell cell =
      element "td" (" ".intercalate (production (cell.getD []))) := by
    cases cell <;> rfl
  rw [written]
  exact readsElement_element (by decide) (IsOrdinary.holdsText (by decide)) (by decide) content

theorem readsElement_productionRow {row : GivenRow} (plain : IsPlainProductionRow row) :
    ReadsElement "table" (productionRow row).toList (rowElement (productionCells row)) := by
  have ordinary : IsOrdinary "tr" := by decide
  have head : ReadsElement "tr" (element "th" (nonterminal row.1)).toList
      (nameCell "th" "nonterm" row.1) :=
    readsElement_nameCell (by decide) ordinary.holdsText (by decide) (by decide) (by decide)
      plain.nonterminal
  have content : ReadsContent "tr" (String.join
      (element "th" (nonterminal row.1) :: row.2.map productionCell)).toList
      ((productionCells row).map Element.toNode) :=
    readsContent_join ordinary.holdsText (.cons head (forall₂_readsElement
      fun cell isIn => readsElement_productionCell (plain.cells cell isIn)))
  apply readsElement_element ordinary (IsOrdinary.holdsText (by decide)) (by decide)
  simpa using content

def header (terminals : List String) : String :=
  element "tr" (element "th" "" ++
    String.join (terminals.map fun name => element "th" (element "terminal" name)))

theorem readsElement_header {terminals : List String}
    (plain : ∀ name ∈ terminals, IsPlain name) :
    ReadsElement "table" (header terminals).toList (rowElement (headerCells terminals)) := by
  have ordinary : IsOrdinary "tr" := by decide
  have cell : IsOrdinary "th" := by decide
  have noText : '<' ∉ "".toList := by decide
  have corner : ReadsElement "tr" (element "th" "").toList ⟨"th", [], []⟩ :=
    readsElement_element cell ordinary.holdsText (by decide)
      (readsContent_text cell.holdsText noText)
  have content : ReadsContent "tr" (String.join (element "th" "" ::
      terminals.map fun name => element "th" (element "terminal" name))).toList
      ((headerCells terminals).map Element.toNode) :=
    readsContent_join ordinary.holdsText (.cons corner (forall₂_readsElement fun name isIn =>
      readsElement_nameCell cell ordinary.holdsText (by decide) (by decide) (by decide)
        (plain name isIn)))
  apply readsElement_element ordinary (IsOrdinary.holdsText (by decide)) (by decide)
  simpa using content

theorem parse_parseTable {terminals : List String} {rows : List GivenRow}
    (plainHeader : ∀ name ∈ terminals, IsPlain name)
    (plain : ∀ row ∈ rows, IsPlainProductionRow row) :
    Document.parse (parseTable terminals rows) = parseTableTree terminals rows := by
  have starts : Scanner.ScansAs "<table class=\"parse_table\">".toList
      (.startTag "table" [("class", "parse_table")] false) := fun tokens run => rfl
  have heading : "<h1>LL(1) Parsing Table</h1>" = element "h1" "LL(1) Parsing Table" := by rfl
  have plainHeading : IsPlain "LL(1) Parsing Table" := by decide
  rw [parseTable, heading, parseTableTree, List.map_cons, List.map_map]
  exact parse_page plainHeading starts (.cons (readsElement_header plainHeader)
    (forall₂_readsElement fun row isIn => readsElement_productionRow (plain row isIn)))

/-! ## The rows of the page -/

theorem descendants_productionElement (cell : Option (List (String × String))) :
    (productionElement cell).descendants = symbolElements (cell.getD []) := by
  have flat : ∀ element ∈ symbolElements (cell.getD []), element.descendants = [] :=
    List.forall_mem_map.mpr fun symbol _ => nameElement_descendants symbol.1 symbol.2
  generalize symbolsEq : symbolElements (cell.getD []) = symbols at flat
  have inside : elementsOf (productionNodes symbols) =
      symbols.flatMap fun element => element :: element.descendants := by
    match symbols with
    | [] => rfl
    | [marker] => simp [productionNodes, elementsOf, toNode_elements, Node.elements]
    | marker :: first :: rest =>
        have others := elementsOf_dividedBy_append " " rest []
        rw [List.append_nil] at others
        simp [productionNodes, elementsOf, toNode_elements, Node.elements, others]
  rw [Element.descendants, productionElement, symbolsEq, inside,
    flatMap_descendants_of_flat flat]

theorem cellSymbols_productionElement {cell : Option (List (String × String))}
    (plain : ∀ symbol ∈ cell.getD [], IsPlainSymbol symbol) :
    ProductionRow.cellSymbols (productionElement cell) =
      (cell.getD []).map fun symbol => ⟨symbol.1, symbol.2⟩ := by
  have found : (productionElement cell).findAll ["nonterm", "term", "action"] =
      symbolElements (cell.getD []) := by
    rw [Element.findAll, descendants_productionElement, List.filter_eq_self]
    exact List.forall_mem_map.mpr fun symbol isIn =>
      List.contains_iff_mem.mpr (plain symbol isIn).kind
  rw [ProductionRow.cellSymbols, found, symbolElements, List.map_map]
  apply List.map_congr_left
  intro symbol isIn
  simp [nameElement_reading (plain symbol isIn).ordinary (plain symbol isIn).name]

theorem readCell_productionElement {cell : Option (List (String × String))}
    (plain : ∀ symbol ∈ cell.getD [], IsPlainSymbol symbol) :
    ProductionRow.readCell (productionElement cell) = givenCell cell := by
  rw [ProductionRow.readCell, cellSymbols_productionElement plain]
  match cell with
  | none | some [] => rfl
  | some (symbol :: rest) => rfl

/-- The defect of a row that does not have the given number of cells. -/
def misaligned? (width : Nat) (row : ProductionRow) : Option Defect :=
  if row.cells.length = width then none
  else some (.malformedRow row.index width row.cells.length
    [("nonterminal", .text row.nonterminal)])

theorem rowCells_productionCells (row : GivenRow) :
    rowCells (rowElement (productionCells row)) = row.2.map productionElement := by
  have head : ((nameCell "th" "nonterm" row.1).name == "td") = false := rfl
  rw [rowCells_rowElement, productionCells, List.filter_cons, head]
  exact List.filter_eq_self.mpr (List.forall_mem_map.mpr fun cell _ => rfl)

theorem read_productionCells {row : GivenRow} (plain : IsPlainProductionRow row)
    (width : Nat) (index : Int) :
    ProductionRow.read width index (rowElement (productionCells row)) =
      match misaligned? width ⟨index, row.1, row.2.map givenCell⟩ with
      | none => .ok ⟨index, row.1, row.2.map givenCell⟩
      | some defect => .error defect := by
  have named : (rowElement (productionCells row)).findInside? "th" "nonterm" =
      some (nameElement "nonterm" row.1) := rfl
  have reading : (nameElement "nonterm" row.1).reading = row.1 :=
    nameElement_reading (by decide) plain.nonterminal
  have cellsRead : (row.2.map productionElement).map ProductionRow.readCell =
      row.2.map givenCell := by
    rw [List.map_map]
    exact List.map_congr_left fun cell isIn => readCell_productionElement (plain.cells cell isIn)
  simp only [ProductionRow.read, named, rowCells_productionCells, cellsRead,
    reading, misaligned?, List.length_map]
  by_cases aligned : row.2.length = width
  · simp [aligned]
  · simp [aligned]

theorem lacksRows_headerCells (terminals : List String) :
    ∀ cell ∈ headerCells terminals, LacksRows cell := by
  have corner : LacksRows ⟨"th", [], []⟩ := by
    simp [LacksRows, Element.descendants, elementsOf]
  exact List.forall_mem_cons.mpr ⟨corner, List.forall_mem_map.mpr fun name _ =>
    lacksRows_nameCell (by decide) (by decide) name⟩

theorem lacksRows_productionCells {row : GivenRow} (plain : IsPlainProductionRow row) :
    ∀ cell ∈ productionCells row, LacksRows cell := by
  have kinds : ∀ kind ∈ symbolKinds, kind ≠ "tr" := by decide
  have cellName : "td" ≠ "tr" := by decide
  refine List.forall_mem_cons.mpr ⟨lacksRows_nameCell (by decide) (by decide) row.1,
    List.forall_mem_map.mpr fun cell isIn => ?_⟩
  rw [LacksRows, descendants_productionElement]
  exact List.forall_mem_cons.mpr ⟨cellName, List.forall_mem_map.mpr fun symbol inCell =>
    kinds symbol.1 (plain.cells cell isIn symbol inCell).kind⟩

theorem terminals_headerCells {terminals : List String}
    (plain : ∀ name ∈ terminals, IsPlain name) :
    ((rowElement (headerCells terminals)).findAll ["terminal"]).map Element.reading =
      terminals := by
  have found : (rowElement (headerCells terminals)).findAll ["terminal"] =
      terminals.map (nameElement "terminal") := by
    have inCell (name : String) : (nameCell "th" "terminal" name ::
        (nameCell "th" "terminal" name).descendants).filter
          (fun inner => ["terminal"].contains inner.name) = [nameElement "terminal" name] := by
      rw [nameCell_descendants]
      rfl
    rw [Element.findAll, Element.descendants, rowElement, elementsOf_map_toNode, headerCells,
      List.flatMap_cons, List.filter_append, List.filter_flatMap, List.flatMap_map]
    simp only [inCell]
    rw [← List.map_eq_flatMap]
    rfl
  rw [found, List.map_map]
  exact map_reading_nameElement (by decide) plain

/-- The names and rows of the page are the given ones, up to the first row that does not fit
the header. -/
theorem open?_parseTableTree {terminals : List String} {rows : List GivenRow}
    (filled : terminals ≠ []) (plainHeader : ∀ name ∈ terminals, IsPlain name)
    (plain : ∀ row ∈ rows, IsPlainProductionRow row) :
    ProductionRow.open? (parseTableTree terminals rows) =
      .ok (terminals, .upTo (misaligned? terminals.length) (productionRows rows)) := by
  have lacks : ∀ cells ∈ headerCells terminals :: rows.map productionCells,
      ∀ cell ∈ cells, LacksRows cell :=
    List.forall_mem_cons.mpr ⟨lacksRows_headerCells terminals,
      List.forall_mem_map.mpr fun row isIn => lacksRows_productionCells (plain row isIn)⟩
  have reads : ∀ row ∈ rows, ∀ index : Int, _ := fun row isIn index =>
    read_productionCells (plain row isIn) terminals.length index
  have rowsRead : RowStream.read (ProductionRow.read terminals.length) 1
      (rows.map fun row => rowElement (productionCells row)) =
        .upTo (misaligned? terminals.length) (productionRows rows) := by
    rw [RowStream.read_map (misaligned? terminals.length) reads, productionRows]
    simp only [Int.add_comm]
  obtain ⟨first, others, rfl⟩ := List.exists_cons_of_ne_nil filled
  rw [ProductionRow.open?, ProductionRow.region, parseTableTree,
    tableRows_tree (by decide) lacks]
  simp only [List.map_cons, List.map_map, terminals_headerCells plainHeader]
  exact congrArg (fun stream => Except.ok (first :: others, stream)) rowsRead

end GrammarTables.Page

/-! ## The check of the builder -/

namespace GrammarTables.ParseTable

/-- What comes after the rows of a stream: its defect, or else what completes the run. -/
def ending (stream : RowStream ProductionRow)
    (finish : Nat → ParseTable → Transcription ParseTable) (table : ParseTable) :
    Transcription ParseTable :=
  match stream.defect with
  | some defect => .abandoned defect
  | none => finish stream.rows.length table

/-- A row that the reader would refuse is refused by the builder, with the same defect and
after the same events. -/
theorem extend_upTo (terminals : List Terminal) (rows : List ProductionRow) (table : ParseTable)
    (finish : Nat → ParseTable → Transcription ParseTable) :
    (extend terminals table (.upTo (Page.misaligned? terminals.length) rows : RowStream _).rows
      ).andThen (ending (.upTo (Page.misaligned? terminals.length) rows) finish) =
        (extend terminals table rows).andThen (finish rows.length) := by
  induction rows generalizing table finish with
  | nil => rfl
  | cons row rest ih =>
      by_cases aligned : row.cells.length = terminals.length
      · simp only [RowStream.upTo, Page.misaligned?, aligned, if_true, RowStream.cons, extend,
          Transcription.andThen_assoc]
        exact congrArg (extendRow table row 0 (terminals.zip row.cells)).andThen
          (funext fun table => ih table fun count => finish (count + 1))
      · simp only [RowStream.upTo, Page.misaligned?, aligned, if_false, RowStream.ofDefect, extend]
        rfl

/-- Rows that are cut at the first misaligned one make the same table, or end with the same
defect after the same events, as all the rows. -/
theorem build_upTo (names : List String) (rows : List ProductionRow) :
    build names (.upTo (Page.misaligned? names.length) rows) = build names (.ofRows rows) := by
  cases resolved : resolveHeader 0 names with
  | error defect => simp only [build, resolved]
  | ok terminals =>
      simp only [build, resolved, ← length_of_resolveHeader resolved]
      exact extend_upTo terminals rows .empty fun count table =>
        .completed [.entriesTranscribed table.size count terminals.length] table

end GrammarTables.ParseTable

namespace GrammarTables.Page

/-- Transcribing a page is building the table from the terminals and rows on it. -/
theorem transcribe_parseTable {terminals : List String} {rows : List GivenRow}
    (filled : terminals ≠ []) (plainHeader : ∀ name ∈ terminals, IsPlain name)
    (plain : ∀ row ∈ rows, IsPlainProductionRow row) :
    ParseTable.transcribe (parseTable terminals rows) =
      ParseTable.build terminals (.ofRows (productionRows rows)) := by
  rw [ParseTable.transcribe, parse_parseTable plainHeader plain, ParseTable.ofDocument,
    open?_parseTableTree filled plainHeader plain]
  exact ParseTable.build_upTo terminals (productionRows rows)

/-- Cells without symbols, a marker alone, an action with brackets, repeated nonterminals and
rows that are too short are all read as they were given. -/
theorem transcribe_parseTable_unevenRows :
    ParseTable.transcribe (parseTable ["id", "$"]
        [("E", [some [("nonterm", "E"), ("term", "id"), ("action", "create_marker()")], none]),
          ("", [some [], some [("nonterm", "\"\"")]]),
          ("E", [none]), ("T", [some [("nonterm", "T"), ("term", "")], none])]) =
      ParseTable.build ["id", "$"] (.ofRows
        [⟨1, "E", [some [⟨"nonterm", "E"⟩, ⟨"term", "id"⟩, ⟨"action", "create_marker()"⟩], none]⟩,
          ⟨2, "", [none, some [⟨"nonterm", "\"\""⟩]]⟩,
          ⟨3, "E", [none]⟩, ⟨4, "T", [some [⟨"nonterm", "T"⟩, ⟨"term", ""⟩], none]⟩]) :=
  transcribe_parseTable (by decide) (by decide) (by decide)

end GrammarTables.Page
