import GrammarTables.Proofs.Documents
import GrammarTables.Proofs.Markup.DocumentOrder
import GrammarTables.Proofs.Text

/-!
# Names as rows report them

What an element reads as is put together from runs of text that have been trimmed one by one.
Some of them may be blank and so become empty, but whatever is left begins and ends without a
blank.  All names in rows, in headers and in the defects of readers are such readings.  The
symbols of a cell are its elements of certain names in document order, also where one of them is
inside of another.
-/

namespace GrammarTables

open Markup

/-- What an element reads as neither begins nor ends with a blank. -/
theorem Markup.Element.isTrimmed_reading (element : Element) :
    Text.IsTrimmed element.reading := by
  apply Text.isTrimmed_join
  rw [List.forall_mem_map]
  intro content _
  exact Text.isTrimmed_trim content

/-! ## Names -/

/-- The names in the details of a defect. -/
def Defect.names (defect : Defect) : List String :=
  defect.details.filterMap fun
    | (_, .text name) => some name
    | _ => none

def SetRow.allNames (row : SetRow) : List String :=
  row.nonterminal :: (row.first ++ row.follow)

def ProductionRow.symbols (row : ProductionRow) : List RawSymbol :=
  row.cells.flatMap fun cell => cell.getD []

def ProductionRow.allNames (row : ProductionRow) : List String :=
  row.nonterminal :: row.symbols.map RawSymbol.name

namespace RowStream

variable {Row : Type}

/-- The names in the rows of a stream and in the defect behind them. -/
def allNames (namesOf : Row → List String) (stream : RowStream Row) : List String :=
  stream.rows.flatMap namesOf ++ stream.defect.toList.flatMap Defect.names

/-- What holds of the names in each answer of a reader holds of all names in its stream. -/
theorem forall_mem_allNames_read {namesOf : Row → List String} {holds : String → Prop}
    {readRow : Int → Element → Except Defect Row}
    (ofRow : ∀ index element row, readRow index element = .ok row →
      ∀ name ∈ namesOf row, holds name)
    (ofDefect : ∀ index element defect, readRow index element = .error defect →
      ∀ name ∈ defect.names, holds name) (index : Int) (elements : List Element) :
    ∀ name ∈ (read readRow index elements).allNames namesOf, holds name := by
  induction elements generalizing index with
  | nil => exact nofun
  | cons element rest ih =>
      rw [read]
      cases answered : readRow index element with
      | error defect =>
          intro name isIn
          apply ofDefect index element defect answered name
          simpa [allNames, RowStream.ofDefect] using isIn
      | ok row =>
          intro name isIn
          simp only [allNames, cons, List.flatMap_cons, List.append_assoc] at isIn
          rcases List.mem_append.mp isIn with inRow | inRest
          · exact ofRow index element row answered name inRow
          · exact ih (index + 1) name inRest

end RowStream

/-! ## Rows that are read -/

namespace SetRow

theorem isTrimmed_of_mem_memberNames {cell : Element} {name : String}
    (isIn : name ∈ memberNames cell) : Text.IsTrimmed name := by
  obtain ⟨symbol, -, rfl⟩ := List.mem_map.mp isIn
  exact symbol.isTrimmed_reading

theorem isTrimmed_of_read {index : Int} {element : Element} {row : SetRow}
    (gives : read index element = .ok row) : ∀ name ∈ row.allNames, Text.IsTrimmed name := by
  rw [read] at gives
  split at gives
  · split at gives
    · cases gives
      rw [allNames, List.forall_mem_cons, List.forall_mem_append]
      exact ⟨Element.isTrimmed_reading _, fun _ => isTrimmed_of_mem_memberNames,
        fun _ => isTrimmed_of_mem_memberNames⟩
    · cases gives
  · cases gives

theorem names_of_read_eq_error {index : Int} {element : Element} {defect : Defect}
    (refuses : read index element = .error defect) : defect.names = [] := by
  rw [read] at refuses
  split at refuses
  · split at refuses
    · cases refuses
    · cases refuses
      rfl
  · cases refuses
    rfl

theorem isTrimmed_of_mem_stream (document : Document) :
    ∀ name ∈ (stream document).allNames allNames, Text.IsTrimmed name := by
  rw [stream]
  split
  · apply RowStream.forall_mem_allNames_read
    · intro index element row gives
      exact isTrimmed_of_read gives
    · intro index element defect refuses name isIn
      rw [names_of_read_eq_error refuses] at isIn
      cases isIn
  · next defect missing =>
      rw [tableRows] at missing
      split at missing
      · cases missing
      · cases missing
        intro name isIn
        exact absurd isIn List.not_mem_nil

end SetRow

namespace ProductionRow

theorem symbols_eq_flatMap (index : Int) (nonterminal : String) (cells : List Element) :
    symbols ⟨index, nonterminal, cells.map readCell⟩ = cells.flatMap cellSymbols := by
  rw [symbols, List.flatMap_map]
  apply List.flatMap_congr
  intro cell _
  cases inCell : cellSymbols cell with
  | nil => simp [readCell, inCell]
  | cons first rest => simp [readCell, inCell]

theorem isTrimmed_of_read {width : Nat} {index : Int} {element : Element}
    {row : ProductionRow} (gives : read width index element = .ok row) :
    ∀ name ∈ row.allNames, Text.IsTrimmed name := by
  obtain ⟨header, -, -, rfl⟩ := (read_eq_ok_iff ..).mp gives
  rw [allNames, symbols_eq_flatMap, List.forall_mem_cons, List.forall_mem_map]
  refine ⟨header.isTrimmed_reading, ?_⟩
  intro symbol isIn
  obtain ⟨cell, -, inCell⟩ := List.mem_flatMap.mp isIn
  obtain ⟨inner, -, rfl⟩ := List.mem_map.mp inCell
  exact inner.isTrimmed_reading

theorem isKnown_of_read {width : Nat} {index : Int} {element : Element}
    {row : ProductionRow} (gives : read width index element = .ok row) :
    ∀ symbol ∈ row.symbols, symbol.IsKnown := by
  obtain ⟨header, -, -, rfl⟩ := (read_eq_ok_iff ..).mp gives
  intro symbol isIn
  rw [symbols_eq_flatMap] at isIn
  obtain ⟨cell, -, inCell⟩ := List.mem_flatMap.mp isIn
  exact isKnown_of_mem_cellSymbols inCell

/-- Of the defects of rows, one holds the nonterminal of the row. -/
theorem isTrimmed_of_read_eq_error {width : Nat} {index : Int} {element : Element}
    {defect : Defect} (refuses : read width index element = .error defect) :
    ∀ name ∈ defect.names, Text.IsTrimmed name := by
  rw [read] at refuses
  split at refuses
  · cases refuses
    intro name isIn
    exact absurd isIn List.not_mem_nil
  · next header found =>
      dsimp only at refuses
      split at refuses
      · cases refuses
      · cases refuses
        intro name isIn
        have isHeader : name ∈ [header.reading] := isIn
        rw [List.mem_singleton.mp isHeader]
        exact header.isTrimmed_reading

theorem isTrimmed_of_open? {document : Document} {header : List String}
    {stream : RowStream ProductionRow} (opened : open? document = .ok (header, stream)) :
    (∀ name ∈ header ++ stream.allNames allNames, Text.IsTrimmed name) ∧
      ∀ row ∈ stream.rows, ∀ symbol ∈ row.symbols, symbol.IsKnown := by
  obtain ⟨first, rows, -, rfl, rfl⟩ := exists_of_open?_eq_ok opened
  constructor
  · rw [List.forall_mem_append, List.forall_mem_map]
    refine ⟨fun terminal _ => terminal.isTrimmed_reading, ?_⟩
    apply RowStream.forall_mem_allNames_read
    · intro index element row gives
      exact isTrimmed_of_read gives
    · intro index element defect refuses
      exact isTrimmed_of_read_eq_error refuses
  · intro row isRow
    obtain ⟨element, -, index, gives⟩ := RowStream.exists_of_mem_rows_read isRow
    exact isKnown_of_read gives

end ProductionRow

/-- Whatever a document holds, its elements read as their runs of text, each trimmed, in document
order, and so they neither begin nor end with a blank.  The symbols of a cell are its elements of
the names of symbols, each once and in document order, with nested ones after those they are
nested in.  So nothing is left to trim of any name that a reader reports, in rows, in a header or
in a defect, and symbols in rows are of known kinds. -/
theorem reported_names_are_trimmed :
    (∀ element : Element, Text.IsTrimmed element.reading ∧
      ∃ contents, IsEnumeration (Node.text? element.container?) element.children contents ∧
        element.reading = String.join (contents.map Text.trim)) ∧
    (∀ cell : Element,
      (∀ names, IsEnumeration (Node.named? names) cell.children (cell.findAll names)) ∧
      IsEnumeration (fun node => (node.named? ["nonterm", "term"]).map Element.reading)
        cell.children (SetRow.memberNames cell) ∧
      IsEnumeration (fun node => (node.named? ["nonterm", "term", "action"]).map fun element =>
        RawSymbol.mk element.name element.reading) cell.children
        (ProductionRow.cellSymbols cell)) ∧
    (∀ (outer : Place) (number : Nat) (inner : Place), outer < outer ++ number :: inner) ∧
    ∀ document : Document,
      (∀ name ∈ (SetRow.stream document).allNames SetRow.allNames, Text.trim name = name) ∧
      ∀ header stream, ProductionRow.open? document = .ok (header, stream) →
        (∀ name ∈ header ++ stream.allNames ProductionRow.allNames, Text.trim name = name) ∧
          ∀ row ∈ stream.rows, ∀ symbol ∈ row.symbols, symbol.IsKnown := by
  refine ⟨?_, ?_, Place.lt_append, ?_⟩
  · intro element
    exact ⟨element.isTrimmed_reading, element.texts,
      (isCollected_textsOf _).isEnumeration element.children, rfl⟩
  · intro cell
    have enumerated (names : List String) := cell.isEnumeration_findAll names
    exact ⟨enumerated, (enumerated _).map _, (enumerated _).map _⟩
  · intro document
    constructor
    · intro name isIn
      exact (SetRow.isTrimmed_of_mem_stream document name isIn).trim_eq
    · intro header stream opened
      obtain ⟨trimmed, known⟩ := ProductionRow.isTrimmed_of_open? opened
      exact ⟨fun name isIn => (trimmed name isIn).trim_eq, known⟩

/-- A table in which one symbol is inside of another, with blanks around the runs of text. -/
def nestedSymbols : Document :=
  ⟨[.element "table" [("class", "parse_table")]
      [.element "tr" [] [.element "terminal" [] [.text " id\n"]],
        .element "tr" []
          [.element "th" [] [.element "nonterm" [] [.text "\t", .comment, .text " E "]],
            .element "td" []
              [.element "nonterm" []
                [.text " E ", .element "term" [] [.text " a b "], .text "\u00A0"],
                .element "action" [] [.text ""]]]]]⟩

/-- The outer symbol reads as its own text and that of the symbol inside of it, which is listed
after it. -/
theorem reported_names_are_trimmed_nestedSymbols :
    ∃ header stream, ProductionRow.open? nestedSymbols = .ok (header, stream) ∧
      stream.rows = [⟨1, "E", [some [⟨"nonterm", "Ea b"⟩, ⟨"term", "a b"⟩, ⟨"action", ""⟩]]⟩] ∧
      (∀ name ∈ header ++ stream.allNames ProductionRow.allNames, Text.trim name = name) ∧
      ∀ row ∈ stream.rows, ∀ symbol ∈ row.symbols, symbol.IsKnown := by
  have opened : ProductionRow.open? nestedSymbols =
      .ok (["id"],
        .ofRows [⟨1, "E", [some [⟨"nonterm", "Ea b"⟩, ⟨"term", "a b"⟩, ⟨"action", ""⟩]]⟩]) := by
    rfl
  obtain ⟨-, -, -, ofDocument⟩ := reported_names_are_trimmed
  exact ⟨_, _, opened, rfl, (ofDocument nestedSymbols).2 _ _ opened⟩

end GrammarTables
