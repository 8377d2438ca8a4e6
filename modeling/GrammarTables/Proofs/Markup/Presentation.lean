import GrammarTables.Proofs.Markup.Query
import Mathlib.Data.List.Forall2

/-!
# Presentation markup

The readers ask for rows, cells, symbols and regions.  All other elements are there for
presentation, and so are the comments and the text around symbols.  Putting such a node into
a tree, anywhere but into a symbol, does not change what the readers can ask for: a query
finds corresponding elements in both trees, and the symbols among them are the same.
-/

namespace GrammarTables.Markup

/-- The elements that are symbols of a table, or the names of its columns. -/
def symbolNames : List String := ["nonterm", "term", "action", "terminal"]

/-- The elements of which tables consist. -/
def structuralNames : List String := ["tr", "td", "th"] ++ symbolNames

/-- The classes of the regions that hold tables. -/
def regionClasses : List String := ["stats", "parse_table"]

/-- The element is neither a part of a table nor the region of one. -/
structure Element.IsPresentation (element : Element) : Prop where
  name_notMem : element.name ∉ structuralNames
  classes_notMem : ∀ name ∈ regionClasses, name ∉ element.classes

/-- Text, a comment, or an element that is for presentation with all that is inside. -/
def Node.IsPresentation (node : Node) : Prop :=
  ∀ element ∈ node.elements, element.IsPresentation

/-- The second nodes are the first ones with a presentation node put in: in front of a node,
behind the last one, or inside an element that is no symbol. -/
inductive Inserted : List Node → List Node → Prop where
  | here {node : Node} (nodes : List Node) (presentation : node.IsPresentation) :
      Inserted nodes (node :: nodes)
  | behind (node : Node) {nodes decorated : List Node} (inserted : Inserted nodes decorated) :
      Inserted (node :: nodes) (node :: decorated)
  | inside {name : String} (notSymbol : name ∉ symbolNames)
      (attributes : List (String × String)) {children decorated : List Node}
      (inserted : Inserted children decorated) (rest : List Node) :
      Inserted (.element name attributes children :: rest)
        (.element name attributes decorated :: rest)

/-! ## Corresponding elements -/

/-- The second element is the first one, or the first one with an insertion inside. -/
structure Element.Corresponds (element decorated : Element) : Prop where
  name_eq : decorated.name = element.name
  attributes_eq : decorated.attributes = element.attributes
  children : decorated.children = element.children ∨
    element.name ∉ symbolNames ∧ Inserted element.children decorated.children

theorem Element.Corresponds.refl (element : Element) : element.Corresponds element :=
  ⟨rfl, rfl, .inl rfl⟩

/-- Nothing is put into a symbol. -/
theorem Element.Corresponds.eq_of_symbol {element decorated : Element}
    (corresponds : element.Corresponds decorated) (symbol : element.name ∈ symbolNames) :
    decorated = element := by
  rcases corresponds with ⟨nameEq, attributesEq, childrenEq | ⟨notSymbol, -⟩⟩
  · cases element
    cases decorated
    simp_all
  · exact absurd symbol notSymbol

/-- The elements correspond, and what they are directly inside of has one name. -/
structure PlacedCorrespond (placed decorated : List Element × Element) : Prop where
  parent_eq : decorated.1.head?.map Element.name = placed.1.head?.map Element.name
  element : placed.2.Corresponds decorated.2

/-- A test that no presentation passes and that looks only at what an insertion leaves. -/
structure IsQuery (test : List Element × Element → Bool) : Prop where
  transport : ∀ {placed decorated}, PlacedCorrespond placed decorated →
    test decorated = test placed
  refuses : ∀ around element, element.IsPresentation → test (around, element) = false

section Placed

variable {test : List Element × Element → Bool}

mutual

/-- A node has the same elements wherever it is. -/
theorem Node.forall₂_placed (node : Node) {around other : List Element}
    (parents : other.head?.map Element.name = around.head?.map Element.name) :
    List.Forall₂ PlacedCorrespond (node.placed around) (node.placed other) := by
  cases node with
  | text | embedded | comment => exact .nil
  | element name attributes children =>
      exact .cons ⟨parents, .refl _⟩ (forall₂_placedIn_self children rfl)

theorem forall₂_placedIn_self (nodes : List Node) {around other : List Element}
    (parents : other.head?.map Element.name = around.head?.map Element.name) :
    List.Forall₂ PlacedCorrespond (placedIn around nodes) (placedIn other nodes) := by
  cases nodes with
  | nil => exact .nil
  | cons node rest =>
      exact List.rel_append (node.forall₂_placed parents)
        (forall₂_placedIn_self rest parents)

end

theorem forall₂_filter (query : IsQuery test) {left right : List (List Element × Element)}
    (correspond : List.Forall₂ PlacedCorrespond left right) :
    List.Forall₂ PlacedCorrespond (left.filter test) (right.filter test) := by
  apply List.rel_filter _ correspond
  intro placed decorated here
  change test placed = true ↔ test decorated = true
  rw [query.transport here]

theorem filter_placed_of_isPresentation (query : IsQuery test) {node : Node}
    (presentation : node.IsPresentation) (around : List Element) :
    (node.placed around).filter test = [] := by
  rw [List.filter_eq_nil_iff]
  intro placed member
  have inNode : placed.2 ∈ node.elements := by
    rw [← node.map_snd_placed around]
    exact List.mem_map_of_mem member
  rw [query.refuses placed.1 placed.2 (presentation placed.2 inNode)]
  exact Bool.false_ne_true

/-- A query finds corresponding elements before and after an insertion. -/
theorem Inserted.forall₂_placedIn (query : IsQuery test) {nodes decorated : List Node}
    (inserted : Inserted nodes decorated) {around other : List Element}
    (parents : other.head?.map Element.name = around.head?.map Element.name) :
    List.Forall₂ PlacedCorrespond ((placedIn around nodes).filter test)
      ((placedIn other decorated).filter test) := by
  -- Below an insertion the elements around a place differ too; only the name of the innermost
  -- one is looked at.
  induction inserted generalizing around other with
  | here nodes presentation =>
      rw [placedIn, List.filter_append, filter_placed_of_isPresentation query presentation]
      exact forall₂_filter query (forall₂_placedIn_self nodes parents)
  | behind node _ ih =>
      rw [placedIn, placedIn, List.filter_append, List.filter_append]
      exact List.rel_append (forall₂_filter query (node.forall₂_placed parents)) (ih parents)
  | @inside name notSymbol attributes children decorated inserted rest ih =>
      have here : PlacedCorrespond (around, ⟨name, attributes, children⟩)
          (other, ⟨name, attributes, decorated⟩) :=
        ⟨parents, rfl, rfl, .inr ⟨notSymbol, inserted⟩⟩
      have below := @ih (⟨name, attributes, children⟩ :: around)
        (⟨name, attributes, decorated⟩ :: other) rfl
      have later := forall₂_filter query (forall₂_placedIn_self rest parents)
      simp only [placedIn, Node.placed, List.cons_append, List.filter_cons, List.filter_append,
        query.transport here]
      split
      · exact .cons here (List.rel_append below later)
      · exact List.rel_append below later

theorem Element.Corresponds.forall₂_placedIn (query : IsQuery test)
    {element decorated : Element} (corresponds : element.Corresponds decorated) :
    List.Forall₂ PlacedCorrespond ((placedIn [element] element.children).filter test)
      ((placedIn [decorated] decorated.children).filter test) := by
  have parents : [decorated].head?.map Element.name = [element].head?.map Element.name :=
    congrArg some corresponds.name_eq
  rcases corresponds.children with same | ⟨-, inserted⟩
  · rw [same]
    exact forall₂_filter query (forall₂_placedIn_self element.children parents)
  · exact inserted.forall₂_placedIn query parents

end Placed

/-! ## Queries -/

/-- The first elements that a query finds correspond, or it finds none in both lists. -/
theorem rel_find? {test : List Element × Element → Bool}
    {left right : List (List Element × Element)}
    (correspond : List.Forall₂ PlacedCorrespond (left.filter test) (right.filter test)) :
    Option.Rel Element.Corresponds ((left.find? test).map Prod.snd)
      ((right.find? test).map Prod.snd) := by
  rw [← List.head?_filter, ← List.head?_filter]
  generalize left.filter test = before at correspond ⊢
  generalize right.filter test = after at correspond ⊢
  cases correspond with
  | nil => exact .none
  | cons here _ => exact .some here.element

theorem isQuery_names {names : List String} (structural : ∀ name ∈ names, name ∈ structuralNames) :
    IsQuery fun placed => names.contains placed.2.name where
  transport := by
    intro placed decorated correspond
    rw [correspond.element.name_eq]
  refuses := by
    intro around element presentation
    rw [Bool.eq_false_iff, ne_eq, List.contains_iff_mem]
    exact fun member => presentation.name_notMem (structural _ member)

theorem isQuery_region {name : String} (region : name ∈ regionClasses) :
    IsQuery fun placed => (Selector.ofClass name).accepts placed.1 placed.2 where
  transport := by
    intro placed decorated correspond
    simp only [Selector.accepts_ofClass, Element.classes, Element.attribute?,
      correspond.element.attributes_eq]
  refuses := by
    intro around element presentation
    rw [Selector.accepts_ofClass, Bool.eq_false_iff, ne_eq, List.contains_iff_mem]
    exact presentation.classes_notMem name region

theorem isQuery_inside {parent name : String} (structural : name ∈ structuralNames) :
    IsQuery fun placed =>
      placed.2.name == name && (placed.1.head?.map Element.name) == some parent where
  transport := by
    intro placed decorated correspond
    rw [correspond.element.name_eq, correspond.parent_eq]
  refuses := by
    intro around element presentation
    have other : element.name ≠ name := by
      intro same
      exact presentation.name_notMem (same ▸ structural)
    simp [other]

/-- The same region is found, up to the insertion. -/
theorem Document.rel_select? {document decorated : Document}
    (inserted : Inserted document.nodes decorated.nodes) {name : String}
    (region : name ∈ regionClasses) :
    Option.Rel Element.Corresponds (document.select? (.ofClass name))
      (decorated.select? (.ofClass name)) := by
  have outer : document.toElement.Corresponds decorated.toElement := by
    refine ⟨rfl, rfl, .inr ⟨?_, inserted⟩⟩
    change "[document]" ∉ symbolNames
    decide
  exact rel_find? (outer.forall₂_placedIn (isQuery_region region))

namespace Element

theorem findAll_eq_map_placedIn (element : Element) (names : List String) :
    element.findAll names =
      ((placedIn [element] element.children).filter
        fun placed => names.contains placed.2.name).map Prod.snd := by
  rw [findAll, descendants, ← map_snd_placedIn [element] element.children, List.filter_map]
  rfl

namespace Corresponds

variable {element decorated : Element}

theorem forall₂_findAll (corresponds : element.Corresponds decorated) {names : List String}
    (structural : ∀ name ∈ names, name ∈ structuralNames) :
    List.Forall₂ Element.Corresponds (element.findAll names) (decorated.findAll names) := by
  rw [findAll_eq_map_placedIn, findAll_eq_map_placedIn]
  apply List.rel_map _ (corresponds.forall₂_placedIn (isQuery_names structural))
  intro placed decorated correspond
  exact correspond.element

theorem findAll_symbols (corresponds : element.Corresponds decorated) {names : List String}
    (symbols : ∀ name ∈ names, name ∈ symbolNames) :
    decorated.findAll names = element.findAll names := by
  have all := corresponds.forall₂_findAll
    fun name member => List.mem_append_right _ (symbols name member)
  have named : ∀ inner ∈ element.findAll names, inner.name ∈ symbolNames := by
    intro inner member
    exact symbols _ (List.contains_iff_mem.mp (List.mem_filter.mp member).2)
  generalize element.findAll names = before at all named ⊢
  generalize decorated.findAll names = after at all ⊢
  induction all with
  | nil => rfl
  | cons here _ ih =>
      obtain ⟨first, rest⟩ := List.forall_mem_cons.mp named
      rw [here.eq_of_symbol first, ih rest]

theorem find?_symbol (corresponds : element.Corresponds decorated) {name : String}
    (symbol : name ∈ symbolNames) : decorated.find? name = element.find? name := by
  have single (element : Element) : element.find? name = (element.findAll [name]).head? := by
    simp only [find?, findAll, List.head?_filter, List.contains_cons, List.contains_nil,
      Bool.or_false]
  rw [single, single, corresponds.findAll_symbols (by simpa using symbol)]

theorem findInside?_symbol (corresponds : element.Corresponds decorated) (parent : String)
    {name : String} (symbol : name ∈ symbolNames) :
    decorated.findInside? parent name = element.findInside? parent name := by
  have structural : name ∈ structuralNames := List.mem_append_right _ symbol
  have found : Option.Rel Element.Corresponds (element.findInside? parent name)
      (decorated.findInside? parent name) :=
    rel_find? (corresponds.forall₂_placedIn (isQuery_inside structural))
  have named : ∀ inner ∈ element.findInside? parent name, inner.name = name := by
    intro inner isFound
    obtain ⟨placed, isFirst, rfl⟩ := Option.map_eq_some_iff.mp isFound
    have passes := List.find?_some isFirst
    simp only [Bool.and_eq_true, beq_iff_eq] at passes
    exact passes.1
  generalize element.findInside? parent name = before at found named ⊢
  generalize decorated.findInside? parent name = after at found ⊢
  cases found with
  | none => rfl
  | some here =>
      have isNamed := named _ rfl
      rw [here.eq_of_symbol (isNamed ▸ symbol)]

end Corresponds

end Element

/-! ## Elements directly inside others -/

theorem isPresentation_element {name : String} {attributes : List (String × String)}
    {children : List Node} (presentation : (Node.element name attributes children).IsPresentation) :
    Element.IsPresentation ⟨name, attributes, children⟩ :=
  presentation _ List.mem_cons_self

/-- Elements of a name of which tables consist correspond when they are directly inside of
what corresponds. -/
theorem Inserted.forall₂_childElements {nodes decorated : List Node}
    (inserted : Inserted nodes decorated) {name : String} (structural : name ∈ structuralNames)
    (own : String) (attributes : List (String × String)) :
    List.Forall₂ Element.Corresponds
      (Element.childElements ⟨own, attributes, nodes⟩ |>.filter (·.name == name))
      (Element.childElements ⟨own, attributes, decorated⟩ |>.filter (·.name == name)) := by
  have same (elements : List Element) : List.Forall₂ Element.Corresponds elements elements :=
    List.forall₂_same.mpr fun element _ => .refl element
  induction inserted with
  | @here node nodes presentation =>
      cases node with
      | text | embedded | comment => exact same _
      | element inner innerAttributes children =>
          have other : inner ≠ name := by
            intro isNamed
            exact (isPresentation_element presentation).name_notMem (isNamed ▸ structural)
          have dropped :
              (Element.childElements ⟨own, attributes, .element inner innerAttributes children ::
                nodes⟩).filter (·.name == name) =
              (Element.childElements ⟨own, attributes, nodes⟩).filter (·.name == name) := by
            simp [Element.childElements, other]
          rw [dropped]
          exact same _
  | behind node _ ih =>
      cases node with
      | text | embedded | comment => exact ih
      | element inner innerAttributes children =>
          simp only [Element.childElements, List.filterMap_cons, List.filter_cons] at ih ⊢
          split
          · exact .cons (.refl _) ih
          · exact ih
  | inside notSymbol innerAttributes inserted rest _ =>
      simp only [Element.childElements, List.filterMap_cons, List.filter_cons]
      split
      · exact .cons ⟨rfl, rfl, .inr ⟨notSymbol, inserted⟩⟩ (same _)
      · exact same _

theorem Element.Corresponds.forall₂_childElements {element decorated : Element}
    (corresponds : element.Corresponds decorated) {name : String}
    (structural : name ∈ structuralNames) :
    List.Forall₂ Element.Corresponds (element.childElements.filter (·.name == name))
      (decorated.childElements.filter (·.name == name)) := by
  rcases corresponds.children with same | ⟨-, inserted⟩
  · rw [Element.childElements, Element.childElements, same]
    exact List.forall₂_same.mpr fun inner _ => .refl inner
  · exact inserted.forall₂_childElements structural element.name element.attributes

end GrammarTables.Markup
