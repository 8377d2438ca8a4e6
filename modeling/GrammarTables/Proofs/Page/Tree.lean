import GrammarTables.Page
import GrammarTables.Proofs.Markup.Written
import GrammarTables.Proofs.Markup.Query
import GrammarTables.Proofs.Text
import GrammarTables.Reading.RowStream

/-!
# The trees of pages

A page with a table is read as the tree of its tags, if the names on it have no markup
characters.  The tree is given here apart from the page: a heading and a table under the
body, rows and cells with the text that divides them, and each name in an element of its own.
-/

namespace GrammarTables.Page

open Markup

/-- Whether a character controls devices or formats and stands for nothing written. -/
def isControl (character : Char) : Bool :=
  character.toNat < 0x20 || (0x7F ≤ character.toNat && character.toNat < 0xA0)

/-- Whether a code point is set apart for internal use. -/
def isNoncharacter (character : Char) : Bool :=
  (0xFDD0 ≤ character.toNat && character.toNat ≤ 0xFDEF) ||
    0xFFFE ≤ character.toNat % 0x10000

/-- A name that stands on a page as it is.  Control characters and noncharacters are left out
because readers of pages need not keep them. -/
structure IsPlain (name : String) : Prop where
  noMarkup : ∀ character ∈ name.toList, character ≠ '<' ∧ character ≠ '&'
  noControl : ∀ character ∈ name.toList, isControl character = false
  noNoncharacter : ∀ character ∈ name.toList, isNoncharacter character = false
  front : ∀ first ∈ name.toList.head?, Text.isBlank first = false
  back : ∀ last ∈ name.toList.getLast?, Text.isBlank last = false

/-- Whether a name stands on a page as it is. -/
def isPlain (name : String) : Bool :=
  name.toList.all (fun character =>
    character != '<' && character != '&' && !isControl character &&
      !isNoncharacter character) &&
    !name.toList.head?.any Text.isBlank && !name.toList.getLast?.any Text.isBlank

theorem isPlain_iff (name : String) : isPlain name = true ↔ IsPlain name := by
  simp only [isPlain, Bool.and_eq_true, List.all_eq_true, bne_iff_ne, Bool.not_eq_true',
    Option.any_eq_false]
  constructor
  · rintro ⟨⟨characters, front⟩, back⟩
    exact ⟨fun character isIn => (characters character isIn).1.1,
      fun character isIn => (characters character isIn).1.2,
      fun character isIn => (characters character isIn).2, by simpa using front,
      by simpa using back⟩
  · intro plain
    exact ⟨⟨fun character isIn => ⟨⟨plain.noMarkup character isIn,
      plain.noControl character isIn⟩, plain.noNoncharacter character isIn⟩,
      by simpa using plain.front⟩, by simpa using plain.back⟩

instance (name : String) : Decidable (IsPlain name) := decidable_of_iff _ (isPlain_iff name)

namespace IsPlain

variable {name : String}

theorem noTag (plain : IsPlain name) : '<' ∉ name.toList :=
  fun isIn => (plain.noMarkup '<' isIn).1 rfl

theorem noReference (plain : IsPlain name) : '&' ∉ name.toList :=
  fun isIn => (plain.noMarkup '&' isIn).2 rfl

theorem trim_eq (plain : IsPlain name) : Text.trim name = name :=
  Text.trim_eq_self plain.front plain.back

end IsPlain

/-! ## Elements -/

/-- An element around a name.  An empty name makes no text. -/
def nameElement (kind name : String) : Element :=
  ⟨kind, [], if name.isEmpty then [] else [.text name]⟩

/-- A cell with an element around a name. -/
def nameCell (cell kind name : String) : Element :=
  ⟨cell, [], [(nameElement kind name).toNode]⟩

/-- Elements with the text in front of each. -/
def dividedBy (text : String) (elements : List Element) : List Node :=
  elements.flatMap fun element => [.text text, element.toNode]

/-- Elements with the text between them. -/
def joinedBy (text : String) : List Element → List Node
  | [] => []
  | first :: rest => first.toNode :: dividedBy text rest

def rowElement (cells : List Element) : Element := ⟨"tr", [], cells.map Element.toNode⟩

/-- A table: each row is on a line of its own. -/
def table (className : String) (rows : List Element) : Element :=
  ⟨"table", [("class", className)], dividedBy "\n" rows ++ [.text "\n"]⟩

/-- A page with a heading and a table. -/
def tree (heading className : String) (rows : List Element) : Document :=
  ⟨[.element "html" []
    [.element "head" [] [.element "title" [] [.text "tables"]],
      .element "body" []
        [(nameElement "h1" heading).toNode, (table className rows).toNode]]]⟩

/-! ## Reading what is written -/

theorem toList_element (name content : String) :
    (element name content).toList =
      Scanner.startTag name ++ (content.toList ++ Scanner.closingTag name) := by
  simp [element, Scanner.startTag, Scanner.closingTag]

/-- An element without attributes is read from its tags and its content. -/
theorem readsElement_element {parent name content : String} {nodes : List Node}
    (ordinary : IsOrdinary name) (holds : HoldsText parent)
    (fits : isClosedBy parent name = false)
    (reads : ReadsContent name content.toList nodes) :
    ReadsElement parent (element name content).toList ⟨name, [], nodes⟩ := by
  rw [toList_element]
  exact reads.between ordinary
    (Scanner.scansAs_startTag ordinary.named ordinary.notRaw) holds fits

theorem readsElement_nameElement {parent kind name : String} (ordinary : IsOrdinary kind)
    (holds : HoldsText parent) (fits : isClosedBy parent kind = false)
    (plain : IsPlain name) :
    ReadsElement parent (element kind name).toList (nameElement kind name) := by
  have runs : (textOf name.toList).map Node.text =
      if name.isEmpty then [] else [.text name] := by
    rw [textOf, Reference.decode_of_notMem plain.noReference]
    by_cases empty : name = ""
    · simp [empty]
    · simp [empty]
  apply readsElement_element ordinary holds fits
  rw [← runs]
  exact readsContent_text ordinary.holdsText plain.noTag

theorem forall₂_readsElement {Item : Type} {parent : String} {items : List Item}
    {written : Item → String} {made : Item → Element}
    (reads : ∀ item ∈ items, ReadsElement parent (written item).toList (made item)) :
    List.Forall₂ (fun part element => ReadsElement parent part.toList element)
      (items.map written) (items.map made) := by
  rwa [List.forall₂_map_left_iff, List.forall₂_map_right_iff, List.forall₂_same]

theorem readsContent_join {parent : String} (holds : HoldsText parent) {parts : List String}
    {elements : List Element}
    (reads : List.Forall₂ (fun part element => ReadsElement parent part.toList element) parts
      elements) :
    ReadsContent parent (String.join parts).toList (elements.map Element.toNode) := by
  have noTag : '<' ∉ ([] : List Char) := List.not_mem_nil
  have content := readsContent_divided holds noTag (List.forall₂_map_left_iff.mpr reads)
    (readsContent_text holds noTag)
  have runs : textOf [] = [] := rfl
  simpa [runs, List.flatMap_map, ← List.map_eq_flatMap] using content

theorem readsElement_nameCell {parent cell kind name : String} (ordinary : IsOrdinary cell)
    (holds : HoldsText parent) (fits : isClosedBy parent cell = false)
    (kindOrdinary : IsOrdinary kind) (kindFits : isClosedBy cell kind = false)
    (plain : IsPlain name) :
    ReadsElement parent (element cell (element kind name)).toList (nameCell cell kind name) := by
  have inCell := readsElement_nameElement kindOrdinary ordinary.holdsText kindFits plain
  have content := readsContent_join ordinary.holdsText (.cons inCell .nil)
  apply readsElement_element ordinary holds fits
  simpa using content

theorem readsContent_intercalate {parent : String} (holds : HoldsText parent)
    {separator : String} (noTag : '<' ∉ separator.toList)
    (runs : textOf separator.toList = [separator]) {parts : List String}
    {elements : List Element}
    (reads : List.Forall₂ (fun part element => ReadsElement parent part.toList element) parts
      elements) :
    ReadsContent parent (separator.intercalate parts).toList (joinedBy separator elements) := by
  have noText : '<' ∉ ([] : List Char) := List.not_mem_nil
  have nothing : ReadsContent parent [] [] := readsContent_text holds noText
  cases reads with
  | nil => simpa [joinedBy] using nothing
  | cons first rest =>
      have others := readsContent_divided holds noTag (List.forall₂_map_left_iff.mpr rest) nothing
      have content := first.cons holds noText others
      have noRun : textOf [] = [] := rfl
      rw [Text.toList_intercalate_cons]
      simpa [noRun, runs, joinedBy, dividedBy, List.flatMap_map] using content

/-- Rows on lines of their own are the content of a table. -/
theorem readsElement_table {className start : String}
    (starts : Scanner.ScansAs start.toList (.startTag "table" [("class", className)] false))
    {lines : List String} {rows : List Element}
    (reads : List.Forall₂ (fun line row => ReadsElement "table" line.toList row) lines rows) :
    ReadsElement "body" ("\n".intercalate (start :: lines ++ ["</table>"])).toList
      (table className rows) := by
  have ordinary : IsOrdinary "table" := by decide
  have noTag : '<' ∉ "\n".toList := by decide
  have content := readsContent_divided ordinary.holdsText noTag
    (List.forall₂_map_left_iff.mpr reads) (readsContent_text ordinary.holdsText noTag)
  have written : ("\n".intercalate (start :: lines ++ ["</table>"])).toList =
      start.toList ++ (((lines.map String.toList).flatMap fun line => "\n".toList ++ line) ++
        "\n".toList ++ Scanner.closingTag "table") := by
    rw [List.cons_append, Text.toList_intercalate_cons, List.flatMap_append, List.flatMap_map,
      List.append_assoc]
    rfl
  rw [written]
  exact content.between ordinary starts holdsText_body (by decide)

/-! ## The frame -/

/-- The tree of a page in front of its body: a root with a head that has a title. -/
def aroundBody : Builder :=
  ⟨[], [⟨"html", [], [.element "head" [] [.element "title" [] [.text "tables"]]]⟩], true, true,
    0, false⟩

theorem inBody_aroundBody : aroundBody.InBody :=
  ⟨rfl, rfl, List.cons_ne_nil _ _, by decide⟩

/-- The tokens up to the start tag of the body. -/
def openingTokens : List Token :=
  [.startTag "html" [] false, .startTag "head" [] false, .startTag "title" [] false,
    .text "tables"] ++
  [.endTag "title", .endTag "head", .startTag "body" [] false]

theorem foldl_add_openingTokens :
    openingTokens.foldl Builder.add .start = aroundBody.within "body" [] [] := by
  have titled : [Token.startTag "html" [] false, .startTag "head" [] false,
      .startTag "title" [] false, .text "tables"].foldl Builder.add .start =
      ⟨[], [⟨"title", [], [.text "tables"]⟩, ⟨"head", [], []⟩, ⟨"html", [], []⟩], true, false,
        0, false⟩ := rfl
  rw [openingTokens, List.foldl_append, titled]
  rfl

theorem toList_frame (body : String) :
    (frame body).toList =
      "<html><head><title>tables</title></head><body>".toList ++
        (body.toList ++ "</body></html>".toList) := by
  -- The texts are generalised because rewriting would open the literals.
  have divided (front back : String) :
      (front ++ body ++ back).toList = front.toList ++ (body.toList ++ back.toList) := by
    rw [String.toList_append, String.toList_append, List.append_assoc]
  exact divided _ _

/-- The tags around the body are scanned as they are, whatever the body is scanned as. -/
theorem scan_frame {body : String} {added : List Token}
    (scanned : ∀ tokens, ∃ earlier run,
      body.toList.foldl Scanner.step ⟨tokens, .content []⟩ = ⟨earlier, .content run⟩ ∧
        Scanner.withText earlier run = added.reverse ++ tokens) :
    Token.scan (frame body).toList =
      openingTokens ++ (added ++ [.endTag "body", .endTag "html"]) := by
  obtain ⟨earlier, run, ended, complete⟩ := scanned openingTokens.reverse
  have opening : "<html><head><title>tables</title></head><body>".toList.foldl Scanner.step
      .start = ⟨openingTokens.reverse, .content []⟩ := by rfl
  have closing : "</body></html>".toList.foldl Scanner.step ⟨earlier, .content run⟩ =
      ⟨.endTag "html" :: .endTag "body" :: Scanner.withText earlier run, .content []⟩ := rfl
  rw [Token.scan, toList_frame, List.foldl_append, List.foldl_append, opening, ended, closing,
    complete]
  simp [Scanner.finish]

/-- The tags around the content of the body make the tree around its nodes. -/
theorem parse_frame {body : String} {nodes : List Node}
    (content : ReadsContent "body" body.toList nodes) :
    Document.parse (frame body) =
      ⟨[.element "html" []
        [.element "head" [] [.element "title" [] [.text "tables"]],
          .element "body" [] nodes]]⟩ := by
  obtain ⟨added, scanned, built⟩ := content
  have parsed : Document.parse (frame body) = .ofTokens (Token.scan (frame body).toList) := by
    rw [Document.parse, toList_frame]
    rfl
  have finished : ([Token.endTag "body", .endTag "html"].foldl Builder.add
      (aroundBody.within "body" [] nodes.reverse)).finish =
      [.element "html" []
        [.element "head" [] [.element "title" [] [.text "tables"]],
          .element "body" [] nodes.reverse.reverse]] := rfl
  rw [parsed, scan_frame scanned, Document.ofTokens, List.foldl_append, List.foldl_append,
    foldl_add_openingTokens, built _ _ _ inBody_aroundBody (by simp), List.append_nil,
    finished, List.reverse_reverse]

theorem parse_page {heading className start : String} (plain : IsPlain heading)
    (starts : Scanner.ScansAs start.toList (.startTag "table" [("class", className)] false))
    {lines : List String} {rows : List Element}
    (reads : List.Forall₂ (fun line row => ReadsElement "table" line.toList row) lines rows) :
    Document.parse (frame (element "h1" heading ++
        "\n".intercalate (start :: lines ++ ["</table>"]))) =
      tree heading className rows := by
  have headingRead : ReadsElement "body" (element "h1" heading).toList
      (nameElement "h1" heading) :=
    readsElement_nameElement (by decide) holdsText_body (by decide) plain
  have tableRead := readsElement_table starts reads
  have noTag : '<' ∉ ([] : List Char) := List.not_mem_nil
  have content := headingRead.cons holdsText_body noTag
    (tableRead.cons holdsText_body noTag (readsContent_text holdsText_body noTag))
  apply parse_frame
  rw [String.toList_append]
  simpa [textOf] using content

/-! ## Queries -/

theorem nameElement_reading {kind name : String} (ordinary : IsOrdinary kind)
    (plain : IsPlain name) : (nameElement kind name).reading = name := by
  rw [nameElement, Element.reading, Element.texts]
  by_cases empty : name = ""
  · simp [empty, textsOf]
  · simp [empty, textsOf, Node.texts, Element.container?, ordinary.notEmbedded, plain.trim_eq]

theorem map_reading_nameElement {kind : String} (ordinary : IsOrdinary kind)
    {names : List String} (plain : ∀ name ∈ names, IsPlain name) :
    names.map (Element.reading ∘ nameElement kind) = names := by
  have readings : ∀ name ∈ names, (Element.reading ∘ nameElement kind) name = id name := by
    intro name isIn
    exact nameElement_reading ordinary (plain name isIn)
  rw [List.map_congr_left readings, List.map_id]

@[simp] theorem nameElement_name (kind name : String) : (nameElement kind name).name = kind :=
  rfl

@[simp] theorem nameElement_descendants (kind name : String) :
    (nameElement kind name).descendants = [] := by
  rw [nameElement, Element.descendants]
  split <;> rfl

theorem toNode_elements (element : Element) :
    element.toNode.elements = element :: element.descendants := by
  rw [Element.toNode, Node.elements, Element.descendants]

@[simp] theorem nameCell_descendants (cell kind name : String) :
    (nameCell cell kind name).descendants = [nameElement kind name] := by
  rw [nameCell, Element.descendants, elementsOf, toNode_elements, nameElement_descendants]
  rfl

/-- Between elements that are divided by text there are no others. -/
theorem elementsOf_dividedBy_append (text : String) (elements : List Element)
    (nodes : List Node) :
    elementsOf (dividedBy text elements ++ nodes) =
      (elements.flatMap fun element => element :: element.descendants) ++
        elementsOf nodes := by
  induction elements with
  | nil => rfl
  | cons element rest ih =>
      rw [dividedBy, List.flatMap_cons, List.append_assoc]
      change elementsOf (element.toNode :: (dividedBy text rest ++ nodes)) = _
      rw [elementsOf, toNode_elements, ih, List.flatMap_cons, List.append_assoc]

theorem elementsOf_map_toNode (elements : List Element) :
    elementsOf (elements.map Element.toNode) =
      elements.flatMap fun element => element :: element.descendants := by
  induction elements with
  | nil => rfl
  | cons element rest ih =>
      rw [List.map_cons, elementsOf, toNode_elements, ih, List.flatMap_cons]

theorem classes_table (className : String) (rows : List Element) :
    (table className rows).classes =
      (wordsWhere Text.isBlank className.toList).map String.ofList := by
  simp [Element.classes, Element.attribute?, table]

/-- Neither the element nor one inside of it is a row. -/
def LacksRows (element : Element) : Prop :=
  ∀ inner ∈ element :: element.descendants, inner.name ≠ "tr"

theorem lacksRows_nameElement {kind : String} (notRow : kind ≠ "tr") (name : String) :
    LacksRows (nameElement kind name) := by
  rw [LacksRows, nameElement_descendants, List.forall_mem_singleton]
  exact notRow

theorem lacksRows_nameCell {cell kind : String} (cellNotRow : cell ≠ "tr")
    (notRow : kind ≠ "tr") (name : String) : LacksRows (nameCell cell kind name) := by
  rw [LacksRows, nameCell_descendants, List.forall_mem_cons, List.forall_mem_singleton]
  exact ⟨cellNotRow, notRow⟩

theorem LacksRows.descendants_rowElement {cells : List Element}
    (lacks : ∀ cell ∈ cells, LacksRows cell) :
    ∀ inner ∈ (rowElement cells).descendants, inner.name ≠ "tr" := by
  intro inner inside
  rw [Element.descendants, rowElement, elementsOf_map_toNode, List.mem_flatMap] at inside
  obtain ⟨cell, isCell, inCell⟩ := inside
  exact lacks cell isCell inner inCell

/-- The data cells of a row are those of its cells that have the name. -/
theorem rowCells_rowElement (cells : List Element) :
    rowCells (rowElement cells) = cells.filter fun cell => cell.name == "td" := by
  have children : (rowElement cells).childElements = cells := by
    rw [rowElement, Element.childElements, List.filterMap_map]
    exact List.filterMap_some
  rw [rowCells, children]

/-- The rows of a table are found, and nothing else, if no cell has a row in it. -/
theorem findAll_table {className : String} {rows : List (List Element)}
    (lacks : ∀ cells ∈ rows, ∀ cell ∈ cells, LacksRows cell) :
    (table className (rows.map rowElement)).findAll ["tr"] = rows.map rowElement := by
  rw [Element.findAll, Element.descendants, table, elementsOf_dividedBy_append]
  induction rows with
  | nil => rfl
  | cons cells rest ih =>
      obtain ⟨here, others⟩ := List.forall_mem_cons.mp lacks
      have inside : (rowElement cells).descendants.filter
          (fun inner => ["tr"].contains inner.name) = [] := by
        simpa using LacksRows.descendants_rowElement here
      have isRow : ["tr"].contains (rowElement cells).name = true := rfl
      have behind := ih others
      rw [List.filter_append] at behind
      simp only [List.map_cons, List.flatMap_cons, List.cons_append, List.append_assoc,
        List.filter_cons, List.filter_append, isRow, inside, List.nil_append, behind, if_true]

/-- The table is what a class selects that no other element of the page has. -/
theorem find?_elements_tree {heading className : String} {rows : List Element}
    (classes : (table className rows).classes = [className]) :
    ((tree heading className rows).elements.find? fun element =>
      element.classes.contains className) = some (table className rows) := by
  have bare (name : String) (nodes : List Node) : (⟨name, [], nodes⟩ : Element).classes = [] :=
    rfl
  have headingBare : (nameElement "h1" heading).classes = [] := bare _ _
  simp only [tree, Document.elements, elementsOf, Node.elements, toNode_elements,
    nameElement_descendants, List.nil_append, List.cons_append, List.append_nil,
    List.find?_cons, bare, headingBare, classes, List.contains_nil, List.contains_cons,
    beq_self_eq_true, Bool.true_or]

theorem elementsOf_joinedBy (text : String) (elements : List Element) :
    elementsOf (joinedBy text elements) =
      elements.flatMap fun element => element :: element.descendants := by
  cases elements with
  | nil => rfl
  | cons first rest =>
      have others := elementsOf_dividedBy_append text rest []
      rw [List.append_nil] at others
      rw [joinedBy, elementsOf, toNode_elements, others, List.flatMap_cons]
      simp [elementsOf]

/-- Elements without elements inside of them are all that is there. -/
theorem flatMap_descendants_of_flat {elements : List Element}
    (flat : ∀ element ∈ elements, element.descendants = []) :
    (elements.flatMap fun element => element :: element.descendants) = elements := by
  induction elements with
  | nil => rfl
  | cons element rest ih =>
      obtain ⟨here, others⟩ := List.forall_mem_cons.mp flat
      rw [List.flatMap_cons, here, ih others, List.singleton_append]

theorem tableRows_tree {heading className : String} {rows : List (List Element)}
    (classes : (wordsWhere Text.isBlank className.toList).map String.ofList = [className])
    (lacks : ∀ cells ∈ rows, ∀ cell ∈ cells, LacksRows cell) :
    tableRows (tree heading className (rows.map rowElement)) (.ofClass className) =
      .ok (rows.map rowElement) := by
  rw [tableRows, Document.select?_ofClass, find?_elements_tree ((classes_table ..).trans classes)]
  exact congrArg Except.ok (findAll_table lacks)

end GrammarTables.Page
