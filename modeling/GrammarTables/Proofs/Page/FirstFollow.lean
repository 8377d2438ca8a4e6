import GrammarTables.FirstFollow
import GrammarTables.Proofs.Page.Tree
import GrammarTables.Proofs.Streams

/-!
# Pages with a First/Follow table

Writing rows into a page and transcribing the page is building the table from the rows.  The
titles, the commas between the members and the frame of the page add nothing, and no row,
member, order or repetition is lost.
-/

namespace GrammarTables.Page

open Markup

/-- The cell of a set: its members with commas between them. -/
def membersCell (names : List String) : Element :=
  ⟨"td", [], joinedBy ", " (names.map (nameElement "nonterm"))⟩

def setCells (row : String × List String × List String) : List Element :=
  [nameCell "td" "nonterm" row.1, membersCell row.2.1, membersCell row.2.2]

def titles : List String := ["nonterminal", "first set", "follow set"]

/-- The tree of a page with a First/Follow table. -/
def firstFollowTree (rows : List (String × List String × List String)) : Document :=
  tree "First and Follow" "stats"
    ((titles.map (nameElement "th") :: rows.map setCells).map rowElement)

/-- The names of a row can be written into a page as they are. -/
structure IsPlainSetRow (row : String × List String × List String) : Prop where
  nonterminal : IsPlain row.1
  first : ∀ name ∈ row.2.1, IsPlain name
  follow : ∀ name ∈ row.2.2, IsPlain name

instance (row : String × List String × List String) : Decidable (IsPlainSetRow row) :=
  decidable_of_iff
    (IsPlain row.1 ∧ (∀ name ∈ row.2.1, IsPlain name) ∧ ∀ name ∈ row.2.2, IsPlain name)
    ⟨fun ⟨nonterminal, first, follow⟩ => ⟨nonterminal, first, follow⟩,
      fun plain => ⟨plain.nonterminal, plain.first, plain.follow⟩⟩

/-- The rows that a page with a First/Follow table shows, numbered from one. -/
def setRows (rows : List (String × List String × List String)) : List SetRow :=
  rows.mapIdx fun position row => ⟨position + 1, row.1, row.2.1, row.2.2⟩

/-! ## The tree of the page -/

theorem readsElement_membersCell {names : List String}
    (plain : ∀ name ∈ names, IsPlain name) :
    ReadsElement "tr" (setCell names).toList (membersCell names) := by
  have row : IsOrdinary "tr" := by decide
  have cell : IsOrdinary "td" := by decide
  have members := forall₂_readsElement fun name isIn =>
    readsElement_nameElement (by decide : IsOrdinary "nonterm") cell.holdsText (by decide)
      (plain name isIn)
  exact readsElement_element cell row.holdsText (by decide)
    (readsContent_intercalate cell.holdsText (by decide) rfl members)

theorem readsElement_setRow {row : String × List String × List String}
    (plain : IsPlainSetRow row) :
    ReadsElement "table" (setRow row).toList (rowElement (setCells row)) := by
  have ordinary : IsOrdinary "tr" := by decide
  have name : ReadsElement "tr" (element "td" (nonterminal row.1)).toList
      (nameCell "td" "nonterm" row.1) :=
    readsElement_nameCell (by decide) ordinary.holdsText (by decide) (by decide) (by decide)
      plain.nonterminal
  have content := readsContent_join ordinary.holdsText
    (.cons name
      (.cons (readsElement_membersCell plain.first)
        (.cons (readsElement_membersCell plain.follow) .nil)))
  apply readsElement_element ordinary (IsOrdinary.holdsText (by decide)) (by decide)
  simpa [String.append_assoc, setCells] using content

theorem readsElement_titles :
    ReadsElement "table" (element "tr" (String.join (titles.map (element "th")))).toList
      (rowElement (titles.map (nameElement "th"))) := by
  have ordinary : IsOrdinary "tr" := by decide
  have plain : ∀ title ∈ titles, IsPlain title := by decide
  exact readsElement_element ordinary (IsOrdinary.holdsText (by decide)) (by decide)
    (readsContent_join ordinary.holdsText (forall₂_readsElement fun title isIn =>
      readsElement_nameElement (by decide) ordinary.holdsText (by decide) (plain title isIn)))

theorem parse_firstFollow {rows : List (String × List String × List String)}
    (plain : ∀ row ∈ rows, IsPlainSetRow row) :
    Document.parse (firstFollow rows) = firstFollowTree rows := by
  have starts : Scanner.ScansAs "<table class=\"stats\">".toList
      (.startTag "table" [("class", "stats")] false) := fun tokens run => rfl
  have heading : "<h1>First and Follow</h1>" = element "h1" "First and Follow" := by rfl
  have titleRow : "<tr><th>nonterminal</th><th>first set</th><th>follow set</th></tr>" =
      element "tr" (String.join (titles.map (element "th"))) := by rfl
  have plainHeading : IsPlain "First and Follow" := by decide
  rw [firstFollow, heading, titleRow, firstFollowTree, List.map_cons, List.map_map]
  exact parse_page plainHeading starts (.cons readsElement_titles
    (forall₂_readsElement fun row isIn => readsElement_setRow (plain row isIn)))

/-! ## The rows of the page -/

theorem descendants_membersCell (names : List String) :
    (membersCell names).descendants = names.map (nameElement "nonterm") := by
  rw [Element.descendants, membersCell, elementsOf_joinedBy]
  apply flatMap_descendants_of_flat
  simp

theorem memberNames_membersCell {names : List String}
    (plain : ∀ name ∈ names, IsPlain name) :
    SetRow.memberNames (membersCell names) = names := by
  have found : (membersCell names).findAll ["nonterm", "term"] =
      names.map (nameElement "nonterm") := by
    rw [Element.findAll, descendants_membersCell, List.filter_eq_self]
    simp [nameElement]
  rw [SetRow.memberNames, found, List.map_map]
  exact map_reading_nameElement (by decide) plain

theorem read_setCells {row : String × List String × List String} (plain : IsPlainSetRow row)
    (index : Int) :
    SetRow.read index (rowElement (setCells row)) =
      .ok ⟨index, row.1, row.2.1, row.2.2⟩ := by
  have cells : rowCells (rowElement (setCells row)) =
      [nameCell "td" "nonterm" row.1, membersCell row.2.1, membersCell row.2.2] := by
    rw [rowCells_rowElement]
    rfl
  have named : (nameCell "td" "nonterm" row.1).find? "nonterm" =
      some (nameElement "nonterm" row.1) := rfl
  have reading : (nameElement "nonterm" row.1).reading = row.1 :=
    nameElement_reading (by decide) plain.nonterminal
  simp only [SetRow.read, cells, named, reading,
    memberNames_membersCell plain.first, memberNames_membersCell plain.follow]

theorem lacksRows_setCells (row : String × List String × List String) :
    ∀ cell ∈ setCells row, LacksRows cell := by
  have name : LacksRows (nameCell "td" "nonterm" row.1) :=
    lacksRows_nameCell (by decide) (by decide) row.1
  have members (names : List String) : LacksRows (membersCell names) := by
    rw [LacksRows, descendants_membersCell]
    simp [membersCell]
  simp [setCells, name, members]

/-- The rows of the page are the given ones.  The titles are left out. -/
theorem stream_firstFollowTree {rows : List (String × List String × List String)}
    (plain : ∀ row ∈ rows, IsPlainSetRow row) :
    SetRow.stream (firstFollowTree rows) = .ofRows (setRows rows) := by
  have titlesLack : ∀ cell ∈ titles.map (nameElement "th"), LacksRows cell :=
    List.forall_mem_map.mpr fun title _ => lacksRows_nameElement (by decide) title
  have lacks : ∀ cells ∈ titles.map (nameElement "th") :: rows.map setCells,
      ∀ cell ∈ cells, LacksRows cell :=
    List.forall_mem_cons.mpr ⟨titlesLack,
      List.forall_mem_map.mpr fun row _ => lacksRows_setCells row⟩
  have reads : ∀ row ∈ rows, ∀ index : Int, SetRow.read index (rowElement (setCells row)) =
      .ok ⟨index, row.1, row.2.1, row.2.2⟩ :=
    fun row isIn index => read_setCells (plain row isIn) index
  rw [SetRow.stream, SetRow.region, firstFollowTree, tableRows_tree (by decide) lacks]
  simp only [List.map_cons, List.map_map, List.drop_one, List.tail_cons]
  calc RowStream.read SetRow.read 1 (rows.map fun row => rowElement (setCells row))
    _ = .upTo (fun _ => none) (rows.mapIdx fun position row =>
          ⟨1 + position, row.1, row.2.1, row.2.2⟩) :=
        RowStream.read_map (fun _ => none) reads 1
    _ = .ofRows (setRows rows) := by
        rw [RowStream.upTo_eq_ofRows, setRows]
        simp only [Int.add_comm]

/-- Transcribing a page is building the table from the rows on it. -/
theorem transcribe_firstFollow {rows : List (String × List String × List String)}
    (plain : ∀ row ∈ rows, IsPlainSetRow row) :
    FirstFollowTable.transcribe (firstFollow rows) =
      FirstFollowTable.build (.ofRows (setRows rows)) := by
  rw [FirstFollowTable.transcribe, parse_firstFollow plain, FirstFollowTable.ofDocument,
    stream_firstFollowTree plain]

/-- Names with commas and quotes, no name at all, an empty set, a repeated nonterminal and a
member that is not in the vocabulary are all read as they were written. -/
theorem transcribe_firstFollow_unusualNames :
    FirstFollowTable.transcribe (firstFollow
        [("E", ["id", "id"], []), ("", ["$"], ["plus"]), ("\"a, b\"", [], ["semi"]),
          ("E", ["lpar"], ["id, id", ""])]) =
      FirstFollowTable.build (.ofRows
        [⟨1, "E", ["id", "id"], []⟩, ⟨2, "", ["$"], ["plus"]⟩, ⟨3, "\"a, b\"", [], ["semi"]⟩,
          ⟨4, "E", ["lpar"], ["id, id", ""]⟩]) :=
  transcribe_firstFollow (by decide)

end GrammarTables.Page
