import GrammarTables.Proofs.FirstDefect
import GrammarTables.Proofs.FirstFollow.Outcome
import GrammarTables.Proofs.Markup.Query

/-!
# Defects of pages with a First/Follow table

All defects of a page, each at its place, whatever else is wrong with the page.  A row is
read and its members are looked up before the next row is read, and so the defect that a
transcription reports is the first one of the page: within a row the number of cells comes
before the missing nonterminal, and that before the members, those of the First set first.
-/

namespace GrammarTables

/-- The number of the data cell that holds the set, where the cell of the nonterminal has
number zero. -/
def SetColumn.cell : SetColumn → Nat
  | first => 1
  | follow => 2

namespace FirstFollowTable

open Markup

/-- The defects of the row with an index. -/
inductive RowDefect (index : Nat) (row : Element) : Place → Defect → Prop
  /-- The row does not have three data cells. -/
  | malformed :
      (rowCells row).length ≠ 3 →
      RowDefect index row [0] (.malformedRow index 3 (rowCells row).length [])
  /-- No nonterminal is in the first data cell. -/
  | nameless :
      (∀ cell ∈ (rowCells row)[0]?, ∀ inner ∈ cell.descendants, inner.name ≠ "nonterm") →
      RowDefect index row [1] (.missingHeader "nonterminal name cell" (some index))
  /-- A member of one of the sets is not registered. -/
  | unknown {nameCell name cell symbol : Element} {position : Nat} (column : SetColumn) :
      (rowCells row)[0]? = some nameCell →
      nameCell.find? "nonterm" = some name →
      (rowCells row)[column.cell]? = some cell →
      (cell.findAll ["nonterm", "term"])[position]? = some symbol →
      Vocabulary.find? symbol.reading = none →
      RowDefect index row [2, column.cell, position]
        (.unknownSymbol symbol.reading
          [("row", .integer index), ("nonterminal", .text name.reading),
            ("column", .text column.name)])

/-- The first element of a page, in document order, that has the class of the tables. -/
def region? (document : Document) : Option Element :=
  document.elements.find? fun element => element.classes.contains "stats"

/-- The defects of a page.  Row zero holds the titles and has no defects of its own. -/
inductive PageDefect (document : Document) : Place → Defect → Prop
  /-- No element has the class of the tables. -/
  | noRegion :
      (∀ element ∈ document.elements, "stats" ∉ element.classes) →
      PageDefect document [0] (.missingHeader "table region '.stats'" none)
  /-- One of the rows below the titles has a defect. -/
  | ofRow {region row : Element} {offset : Nat} {place : Place} {defect : Defect} :
      region? document = some region →
      (region.findAll ["tr"])[offset + 1]? = some row →
      RowDefect (offset + 1) row place defect →
      PageDefect document ((offset + 1) :: place) defect

/-! ## One defect at a place -/

theorem isSingle_rowDefect (index : Nat) (row : Element) :
    Survey.IsSingle (RowDefect index row) := by
  intro place left right leftFound rightFound
  cases leftFound with
  | malformed wrong =>
      cases rightFound
      rfl
  | nameless absent =>
      cases rightFound
      rfl
  | @unknown _ _ _ _ _ column first named inRow inCell unregistered =>
      generalize placeEq : [2, column.cell, _] = place at rightFound
      cases rightFound with
      | malformed wrong => simp at placeEq
      | nameless absent => simp at placeEq
      | @unknown _ _ _ _ _ column' first' named' inRow' inCell' unregistered' =>
          simp only [List.cons.injEq, and_true, true_and] at placeEq
          obtain ⟨sameCell, rfl⟩ := placeEq
          obtain rfl : column = column' := by
            cases column <;> cases column' <;> first | rfl | cases sameCell
          obtain rfl := Option.some.inj (first.symm.trans first')
          obtain rfl := Option.some.inj (named.symm.trans named')
          obtain rfl := Option.some.inj (inRow.symm.trans inRow')
          obtain rfl := Option.some.inj (inCell.symm.trans inCell')
          rfl

theorem isSingle_pageDefect (document : Document) :
    Survey.IsSingle (PageDefect document) := by
  intro place left right leftFound rightFound
  cases leftFound with
  | noRegion absent =>
      cases rightFound
      rfl
  | ofRow found inRows inRow =>
      cases rightFound with
      | ofRow found' inRows' inRow' =>
          obtain rfl := Option.some.inj (found.symm.trans found')
          obtain rfl := Option.some.inj (inRows.symm.trans inRows')
          exact isSingle_rowDefect _ _ _ _ _ inRow inRow'

/-! ## The loops of a run -/

/-- The name of a member can be unregistered. -/
def memberSurvey (row : SetRow) (column : SetColumn) (_position : Nat) (name : String) :
    Survey :=
  .leaf (Vocabulary.find? name = none)
    (.unknownSymbol name
      [("row", .integer row.index), ("nonterminal", .text row.nonterminal),
        ("column", .text column.name)])

/-- The members of the First set of a row, and those of its Follow set. -/
def entrySurvey (row : SetRow) : Survey :=
  .followedBy SetColumn.first.cell (.each (memberSurvey row .first) 0 row.first)
    ((Survey.each (memberSurvey row .follow) 0 row.follow).under SetColumn.follow.cell)

theorem settles_resolveMembers (row : SetRow) (column : SetColumn) (names : List String)
    (position : Nat) :
    (Survey.each (memberSurvey row column) position names).Settles
      (resolveMembers row column names) := by
  induction names generalizing position with
  | nil => exact Survey.isClean_each_nil _ position
  | cons name rest ih =>
      cases found : Vocabulary.find? name with
      | none =>
          simp only [resolveMembers, found]
          exact (Survey.isFirst_leaf found _).each_cons rest
      | some symbol =>
          have clean : (memberSurvey row column position name).IsClean :=
            Survey.isClean_leaf (by simp [found]) _
          simp only [resolveMembers, found, Survey.settles_map]
          rw [clean.each_cons]
          exact ih (position + 1)

theorem settles_entryOf (row : SetRow) : (entrySurvey row).Settles (entryOf row) := by
  rw [entryOf_eq]
  refine Survey.Settles.followedBy (settles_resolveMembers row .first row.first 0)
    (Survey.isAfter_under _ (by decide)) fun first _ => ?_
  rw [Survey.settles_map]
  exact (settles_resolveMembers row .follow row.follow 0).under _

theorem each_memberSurvey_iff (row : SetRow) (column : SetColumn) (cell : Element)
    (place : Place) (defect : Defect) :
    Survey.each (memberSurvey row column) 0 (SetRow.memberNames cell) place defect ↔
      ∃ position symbol, (cell.findAll ["nonterm", "term"])[position]? = some symbol ∧
        Vocabulary.find? symbol.reading = none ∧ place = [position] ∧
          defect = .unknownSymbol symbol.reading
            [("row", .integer row.index), ("nonterminal", .text row.nonterminal),
              ("column", .text column.name)] := by
  simp only [Survey.each_iff, Survey.under, memberSurvey, Survey.leaf, Nat.zero_add,
    SetRow.memberNames, List.getElem?_map, Option.map_eq_some_iff]
  constructor
  · rintro ⟨position, _, ⟨symbol, inCell, rfl⟩, _, rfl, rfl, unregistered, rfl⟩
    exact ⟨position, symbol, inCell, unregistered, rfl, rfl⟩
  · rintro ⟨position, symbol, inCell, unregistered, rfl, rfl⟩
    exact ⟨position, _, ⟨symbol, inCell, rfl⟩, [], rfl, rfl, unregistered, rfl⟩

/-! ## Rows -/

/-- A row with three cells and a nonterminal has no defects but those of its members. -/
theorem rowDefect_eq_under {index : Nat} {row nameCell firstCell followCell name : Element}
    (cells : rowCells row = [nameCell, firstCell, followCell])
    (named : nameCell.find? "nonterm" = some name) :
    RowDefect index row =
      (entrySurvey ⟨index, name.reading, SetRow.memberNames firstCell,
        SetRow.memberNames followCell⟩).under 2 := by
  funext place defect
  apply propext
  simp only [entrySurvey, Survey.followedBy, Survey.under, each_memberSurvey_iff]
  constructor
  · intro found
    cases found with
    | malformed wrong => exact absurd (congrArg List.length cells) wrong
    | nameless absent =>
        have unnamed : nameCell.find? "nonterm" = none :=
          (Element.find?_eq_none_iff ..).mpr (absent nameCell (by rw [cells]; rfl))
        rw [named] at unnamed
        cases unnamed
    | @unknown nameCell' name' cell symbol position column isFirstCell named' inRow inCell
        unregistered =>
        rw [cells] at isFirstCell inRow
        obtain rfl := Option.some.inj isFirstCell
        obtain rfl := Option.some.inj (named.symm.trans named')
        refine ⟨_, rfl, ?_⟩
        cases column with
        | first =>
            obtain rfl := Option.some.inj inRow
            exact .inl ⟨_, rfl, position, symbol, inCell, unregistered, rfl, rfl⟩
        | follow =>
            obtain rfl := Option.some.inj inRow
            exact .inr ⟨_, rfl, position, symbol, inCell, unregistered, rfl, rfl⟩
  · rintro ⟨_, rfl, ⟨_, rfl, position, symbol, inCell, unregistered, rfl, rfl⟩ |
      ⟨_, rfl, position, symbol, inCell, unregistered, rfl, rfl⟩⟩
    · exact .unknown .first (by rw [cells]; rfl) named (by rw [cells]; rfl) inCell unregistered
    · exact .unknown .follow (by rw [cells]; rfl) named (by rw [cells]; rfl) inCell unregistered

theorem isFirst_malformed {index : Nat} {row : Element} (wrong : (rowCells row).length ≠ 3) :
    Survey.IsFirst (RowDefect index row)
      (.malformedRow index 3 (rowCells row).length []) := by
  refine ⟨[0], .malformed wrong, ?_⟩
  intro earlier other before found
  cases found <;> simp [List.cons_lt_cons_iff] at before

theorem isFirst_nameless {index : Nat} {row nameCell firstCell followCell : Element}
    (cells : rowCells row = [nameCell, firstCell, followCell])
    (unnamed : nameCell.find? "nonterm" = none) :
    Survey.IsFirst (RowDefect index row)
      (.missingHeader "nonterminal name cell" (some index)) := by
  refine ⟨[1], .nameless ?_, ?_⟩
  · intro cell isFirst
    rw [cells] at isFirst
    obtain rfl := Option.some.inj isFirst
    exact (Element.find?_eq_none_iff ..).mp unnamed
  · intro earlier other before found
    cases found with
    | malformed wrong => exact wrong (congrArg List.length cells)
    | nameless absent => simp at before
    | unknown =>
        simp [List.cons_lt_cons_iff] at before

/-- The rows of a page are settled together: those that a defect keeps from being read have
no defect that comes before it. -/
theorem settles_collect (rows : List Element) (index : Nat) (table : FirstFollowTable) :
    (Survey.each RowDefect index rows).Settles
      (collect table (RowStream.read SetRow.read index rows)) := by
  induction rows generalizing index table with
  | nil => exact Survey.isClean_each_nil _ index
  | cons row rest ih =>
      by_cases threeCells : (rowCells row).length = 3
      · obtain ⟨nameCell, firstCell, followCell, cells⟩ := List.length_eq_three.mp threeCells
        cases named : nameCell.find? "nonterm" with
        | none =>
            simp only [RowStream.read, SetRow.read, cells, named, collect_ofDefect]
            exact (isFirst_nameless cells named).each_cons rest
        | some name =>
            simp only [RowStream.read, SetRow.read, cells, named, collect_cons]
            -- The members of the row are looked up before the next row is read, and the
            -- numbers of the rows put its defects before those of the rest.
            refine Survey.Settles.followedBy ?_ (Survey.isAfter_each _ index rest)
              fun entry _ => ih (index + 1) _
            rw [rowDefect_eq_under cells named]
            exact (settles_entryOf _).under 2
      · have refused :
            SetRow.read index row =
              .error (.malformedRow index 3 (rowCells row).length []) := by
          rw [SetRow.read]
          split
          · next cells => exact absurd (congrArg List.length cells) threeCells
          · rfl
        simp only [RowStream.read, refused, collect_ofDefect]
        exact (isFirst_malformed threeCells).each_cons rest

/-! ## Pages -/

theorem select?_region (document : Document) :
    document.select? SetRow.region = region? document :=
  document.select?_ofClass "stats"

/-- A page with a table has the defects of the rows below the titles. -/
theorem pageDefect_eq_each {document : Document} {region : Element}
    (found : region? document = some region) :
    PageDefect document = Survey.each RowDefect 1 ((region.findAll ["tr"]).drop 1) := by
  funext place defect
  apply propext
  simp only [Survey.each_iff, Survey.under, List.getElem?_drop]
  constructor
  · intro defective
    cases defective with
    | noRegion absent =>
        have inClass := List.find?_some found
        exact absurd (by simpa using inClass)
          (absent region (List.mem_of_find?_eq_some found))
    | @ofRow region' row offset place defect found' inRows inRow =>
        obtain rfl := Option.some.inj (found.symm.trans found')
        rw [Nat.add_comm] at inRows inRow ⊢
        exact ⟨offset, row, inRows, place, rfl, inRow⟩
  · rintro ⟨offset, row, inRows, inner, rfl, inRow⟩
    rw [Nat.add_comm] at inRows inRow ⊢
    exact .ofRow found inRows inRow

theorem isFirst_noRegion {document : Document} (absent : region? document = none) :
    Survey.IsFirst (PageDefect document) (.missingHeader "table region '.stats'" none) := by
  refine ⟨[0], .noRegion (by simpa [region?] using absent), ?_⟩
  intro earlier other before found
  cases found <;> simp [List.cons_lt_cons_iff] at before

/-- The transcription of a document is settled by the defects of the page. -/
theorem settles_ofDocument (document : Document) :
    Survey.Settles (PageDefect document) (ofDocument document).outcome := by
  rw [ofDocument, outcome_build]
  cases found : region? document with
  | none =>
      simp only [SetRow.stream, tableRows, select?_region, found, collect_ofDefect]
      exact isFirst_noRegion found
  | some region =>
      simp only [SetRow.stream, tableRows, select?_region, found]
      rw [pageDefect_eq_each found]
      exact settles_collect _ 1 .empty

/-- A page whose table has at most a row of titles has the table without entries. -/
theorem ofDocument_of_length_le_one {document : Document} {region : Element}
    (found : region? document = some region) (few : (region.findAll ["tr"]).length ≤ 1) :
    ofDocument document = .completed [.setsTranscribed 0] .empty := by
  have noRows : (region.findAll ["tr"]).drop 1 = [] := List.drop_eq_nil_of_le few
  simp only [ofDocument, SetRow.stream, tableRows, select?_region, found, noRows]
  rfl

/-- A transcription succeeds exactly if the page has no defects, and it ends with a defect
exactly if that is the first one of the page.  In particular a table with no row below the
titles, or no row at all, has no entries. -/
theorem outcome_determined_by_pageDefect (document : Document) :
    ((∃ table, (ofDocument document).outcome = .ok table) ↔
        ∀ place defect, ¬PageDefect document place defect) ∧
      (∀ defect, (ofDocument document).outcome = .error defect ↔
        ∃ place, PageDefect document place defect ∧
          ∀ earlier other, earlier < place → ¬PageDefect document earlier other) ∧
      ∀ region, region? document = some region → (region.findAll ["tr"]).length ≤ 1 →
        ofDocument document = .completed [.setsTranscribed 0] .empty := by
  have determined :=
    (settles_ofDocument document).outcome_iff (isSingle_pageDefect document)
  exact ⟨determined.1, determined.2, fun region => ofDocument_of_length_le_one⟩

end FirstFollowTable

end GrammarTables
