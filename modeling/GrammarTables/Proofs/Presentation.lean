import GrammarTables.FirstFollow
import GrammarTables.ParseTable
import GrammarTables.Proofs.Markup.Presentation
import Mathlib.Logic.Relation

/-!
# Presentation does not change tables

Rows that correspond are read alike: the same row, or the same defect at the same place.
So a page makes the same transcription, events included, whatever presentation markup is put
into it.
-/

namespace GrammarTables

open Markup

/-! ## Rows -/

theorem RowStream.read_eq_of_forall₂ {Row : Type}
    {readRow : Int → Element → Except Defect Row}
    (alike : ∀ index element decorated, element.Corresponds decorated →
      readRow index decorated = readRow index element)
    {rows decorated : List Element} (all : List.Forall₂ Element.Corresponds rows decorated)
    (index : Int) : RowStream.read readRow index decorated = RowStream.read readRow index rows := by
  induction all generalizing index with
  | nil => rfl
  | cons here _ ih =>
      rw [RowStream.read, RowStream.read, alike index _ _ here, ih]

section Row

variable {row decorated : Element}

theorem forall₂_rowCells (corresponds : row.Corresponds decorated) :
    List.Forall₂ Element.Corresponds (rowCells row) (rowCells decorated) :=
  corresponds.forall₂_childElements (by decide)

theorem SetRow.memberNames_eq {cell decorated : Element}
    (corresponds : cell.Corresponds decorated) : memberNames decorated = memberNames cell := by
  rw [memberNames, memberNames, corresponds.findAll_symbols (by decide)]

theorem SetRow.read_eq (index : Int) (corresponds : row.Corresponds decorated) :
    read index decorated = read index row := by
  have cells := forall₂_rowCells corresponds
  rw [read, read]
  generalize rowCells row = before at cells ⊢
  generalize rowCells decorated = after at cells ⊢
  match before, after, cells with
  | [], [], _ => rfl
  | [_], [_], _ => rfl
  | [_, _], [_, _], _ => rfl
  | [_, _, _], [_, _, _], .cons name (.cons first (.cons follow .nil)) =>
      have symbol : "nonterm" ∈ symbolNames := by decide
      simp only [name.find?_symbol symbol, memberNames_eq first, memberNames_eq follow]
  | _ :: _ :: _ :: _ :: _, _ :: _ :: _ :: _ :: _, cells => simp only [cells.length_eq]

theorem ProductionRow.readCell_eq {cell decorated : Element}
    (corresponds : cell.Corresponds decorated) : readCell decorated = readCell cell := by
  rw [readCell, readCell, cellSymbols, cellSymbols, corresponds.findAll_symbols (by decide)]

theorem ProductionRow.read_eq (width : Nat) (index : Int)
    (corresponds : row.Corresponds decorated) :
    read width index decorated = read width index row := by
  have cells := forall₂_rowCells corresponds
  have count : (rowCells decorated).length = (rowCells row).length := cells.length_eq.symm
  have contents : (rowCells decorated).map readCell = (rowCells row).map readCell := by
    symm
    rw [← List.forall₂_eq_eq_eq, List.forall₂_map_left_iff, List.forall₂_map_right_iff]
    apply cells.imp
    intro cell decoratedCell correspondsCell
    exact (readCell_eq correspondsCell).symm
  rw [read, read, corresponds.findInside?_symbol "th" (by decide)]
  simp only [count, contents]

end Row

/-! ## Documents -/

section Document

variable {document decorated : Document}

/-- The same rows are found, up to the insertion, or there is no region in either. -/
theorem tableRows_of_inserted (inserted : Inserted document.nodes decorated.nodes)
    {name : String} (region : name ∈ regionClasses) :
    (∃ rows decoratedRows, tableRows document (.ofClass name) = .ok rows ∧
        tableRows decorated (.ofClass name) = .ok decoratedRows ∧
        List.Forall₂ Element.Corresponds rows decoratedRows) ∨
      ∃ defect, tableRows document (.ofClass name) = .error defect ∧
        tableRows decorated (.ofClass name) = .error defect := by
  have found := Document.rel_select? inserted region
  rw [tableRows, tableRows]
  generalize document.select? (.ofClass name) = before at found ⊢
  generalize decorated.select? (.ofClass name) = after at found ⊢
  cases found with
  | none => exact .inr ⟨_, rfl, rfl⟩
  | some corresponds => exact .inl ⟨_, _, rfl, rfl, corresponds.forall₂_findAll (by decide)⟩

theorem SetRow.stream_eq (inserted : Inserted document.nodes decorated.nodes) :
    SetRow.stream decorated = SetRow.stream document := by
  rw [stream, stream, region]
  have isRegion : "stats" ∈ regionClasses := by decide
  cases tableRows_of_inserted inserted isRegion with
  | inl found =>
      obtain ⟨rows, decoratedRows, before, after, all⟩ := found
      rw [before, after]
      exact RowStream.read_eq_of_forall₂ (fun index _ _ => SetRow.read_eq index)
        (List.forall₂_drop 1 all) 1
  | inr missing =>
      obtain ⟨defect, before, after⟩ := missing
      rw [before, after]

theorem ProductionRow.open?_eq (inserted : Inserted document.nodes decorated.nodes) :
    ProductionRow.open? decorated = ProductionRow.open? document := by
  rw [open?, open?, region]
  have isRegion : "parse_table" ∈ regionClasses := by decide
  cases tableRows_of_inserted inserted isRegion with
  | inl found =>
      obtain ⟨rows, decoratedRows, before, after, all⟩ := found
      rw [before, after]
      cases all with
      | nil => rfl
      | cons header rest =>
          -- The rows are read below a header of the same width, since it has the same names.
          have below (width : Nat) := RowStream.read_eq_of_forall₂
            (fun index _ _ => ProductionRow.read_eq width index) rest 1
          have symbols : ∀ name ∈ ["terminal"], name ∈ symbolNames := by decide
          have columns := header.findAll_symbols symbols
          simp only [columns, below]
  | inr missing =>
      obtain ⟨defect, before, after⟩ := missing
      rw [before, after]

end Document

/-- Presentation markup is ignored: a document with any number of presentation nodes put in
makes the same tables, with the same events, or is abandoned for the same defects. -/
theorem ofDocument_eq_of_inserted {document decorated : Document}
    (inserted : Relation.ReflTransGen Inserted document.nodes decorated.nodes) :
    FirstFollowTable.ofDocument decorated = FirstFollowTable.ofDocument document ∧
      ParseTable.ofDocument decorated = ParseTable.ofDocument document := by
  obtain ⟨nodes⟩ := document
  obtain ⟨decoratedNodes⟩ := decorated
  dsimp only at inserted
  induction inserted with
  | refl => exact ⟨rfl, rfl⟩
  | @tail between last _ one ih =>
      have single : Inserted (Document.mk between).nodes (Document.mk last).nodes := one
      constructor
      · rw [FirstFollowTable.ofDocument, SetRow.stream_eq single]
        exact ih.1
      · rw [ParseTable.ofDocument, ProductionRow.open?_eq single]
        exact ih.2

/-- A caption in front of the rows, and text behind the symbol of a cell. -/
theorem ofDocument_eq_of_caption_and_text :
    let cell (after : List Node) : Node :=
      .element "td" [] (.element "nonterm" [] [.text "plus"] :: after)
    let page (before after : List Node) : Document :=
      ⟨[.element "table" [("class", "stats")] (before ++
        [.element "tr" [] [],
          .element "tr" []
            [.element "td" [] [.element "nonterm" [] [.text "S"]], cell after, cell []]])]⟩
    let caption : Node := .element "caption" [] [.text "Sets"]
    Relation.ReflTransGen Inserted (page [] []).nodes (page [caption] [.text ", "]).nodes ∧
      FirstFollowTable.ofDocument (page [caption] [.text ", "]) =
        FirstFollowTable.ofDocument (page [] []) ∧
      ParseTable.ofDocument (page [caption] [.text ", "]) = ParseTable.ofDocument (page [] []) ∧
      (FirstFollowTable.ofDocument (page [] [])).events.map Event.message =
        ["Transcribed FIRST/FOLLOW sets for 1 nonterminals"] := by
  intro cell page caption
  have isPresentation : caption.IsPresentation := by
    intro element member
    have isCaption : element = ⟨"caption", [], [.text "Sets"]⟩ := by
      simpa [caption, Node.elements, elementsOf] using member
    subst isCaption
    exact ⟨by decide, by decide⟩
  have isText : (Node.text ", ").IsPresentation := by
    intro element member
    exact absurd member List.not_mem_nil
  have notSymbol : "td" ∉ symbolNames ∧ "tr" ∉ symbolNames ∧ "table" ∉ symbolNames := by decide
  have inserted : Relation.ReflTransGen Inserted (page [] []).nodes
      (page [caption] [.text ", "]).nodes := by
    apply Relation.ReflTransGen.tail (b := (page [] [.text ", "]).nodes)
    · apply Relation.ReflTransGen.single
      apply Inserted.inside notSymbol.2.2
      apply Inserted.behind
      apply Inserted.inside notSymbol.2.1
      apply Inserted.behind
      apply Inserted.inside notSymbol.1
      exact .behind _ (.here [] isText)
    · exact Inserted.inside notSymbol.2.2 _ (.here _ isPresentation) _
  have same := ofDocument_eq_of_inserted inserted
  exact ⟨inserted, same.1, same.2, by decide +kernel⟩

end GrammarTables
