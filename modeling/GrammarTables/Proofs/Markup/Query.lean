import GrammarTables.Markup.Selector

/-!
# What queries find

A region is found by its class and the name of a row by its parent.  Both queries carry
the elements around a candidate along; here they are said in terms of the elements of the
tree alone, in document order.
-/

namespace GrammarTables.Markup

/-! ## The first element of a class -/

mutual

theorem Node.map_snd_placed (around : List Element) (node : Node) :
    (node.placed around).map Prod.snd = node.elements := by
  cases node with
  | text content => simp [Node.placed, Node.elements]
  | embedded content => simp [Node.placed, Node.elements]
  | comment => simp [Node.placed, Node.elements]
  | element name attributes children =>
      simp only [Node.placed, Node.elements, List.map_cons, List.cons.injEq, true_and]
      exact map_snd_placedIn _ children

/-- Placed elements are the elements in document order. -/
theorem map_snd_placedIn (around : List Element) (nodes : List Node) :
    (placedIn around nodes).map Prod.snd = elementsOf nodes := by
  cases nodes with
  | nil => simp [placedIn, elementsOf]
  | cons node rest =>
      simp only [placedIn, elementsOf, List.map_append]
      rw [Node.map_snd_placed around node, map_snd_placedIn around rest]

end

theorem Selector.accepts_ofClass (name : String) (around : List Element) (element : Element) :
    (Selector.ofClass name).accepts around element = element.classes.contains name := by
  simp [Selector.accepts, Selector.ofClass, Compound.accepts, Selector.acceptsContext]

/-- The selector of a class finds the first element in document order that has it. -/
theorem Document.select?_ofClass (document : Document) (name : String) :
    document.select? (.ofClass name) =
      document.elements.find? fun element => element.classes.contains name := by
  rw [Document.elements, ← map_snd_placedIn [document.toElement] document.nodes,
    List.find?_map]
  simp only [Document.select?, Selector.accepts_ofClass]
  rfl

/-- No element is found inside of another exactly when none there, at any depth, has the
name. -/
theorem Element.find?_eq_none_iff (element : Element) (name : String) :
    element.find? name = none ↔ ∀ inner ∈ element.descendants, inner.name ≠ name := by
  simp [Element.find?]

/-! ## Elements directly inside others -/

theorem Element.exists_childElements_iff (element : Element) (name : String) :
    (∃ child ∈ element.childElements, child.name = name) ↔
      ∃ attributes children, Node.element name attributes children ∈ element.children := by
  simp only [Element.childElements, List.mem_filterMap]
  constructor
  · rintro ⟨child, ⟨node, member, eq⟩, rfl⟩
    cases node with
    | element name attributes children =>
        cases eq
        exact ⟨attributes, children, member⟩
    | text | embedded | comment => simp at eq
  · rintro ⟨attributes, children, member⟩
    exact ⟨⟨name, attributes, children⟩, ⟨_, member, rfl⟩, rfl⟩

/-- Whether one of the placed elements has the name and is directly inside an element
with the other name. -/
private def AnyInside (parent name : String) (placed : List (List Element × Element)) :
    Prop :=
  ∃ found ∈ placed, found.2.name = name ∧ found.1.head?.map Element.name = some parent

private theorem anyInside_append (parent name : String)
    (left right : List (List Element × Element)) :
    AnyInside parent name (left ++ right) ↔
      AnyInside parent name left ∨ AnyInside parent name right := by
  simp only [AnyInside, List.mem_append, or_and_right, exists_or]

/-- Whether one of the elements has the name `parent` and has an element with the other
name directly inside of it. -/
private def AnyHolds (parent name : String) (elements : List Element) : Prop :=
  ∃ outer ∈ elements, outer.name = parent ∧ ∃ inner ∈ outer.childElements, inner.name = name

private theorem anyHolds_cons (parent name : String) (element : Element)
    (rest : List Element) :
    AnyHolds parent name (element :: rest) ↔
      (element.name = parent ∧ ∃ inner ∈ element.childElements, inner.name = name) ∨
        AnyHolds parent name rest := by
  simp [AnyHolds]

private theorem anyHolds_append (parent name : String) (left right : List Element) :
    AnyHolds parent name (left ++ right) ↔
      AnyHolds parent name left ∨ AnyHolds parent name right := by
  simp only [AnyHolds, List.mem_append, or_and_right, exists_or]

mutual

private theorem anyInside_placed (parent name : String) (outer : Element)
    (around : List Element) (node : Node) :
    AnyInside parent name (node.placed (outer :: around)) ↔
      (outer.name = parent ∧ ∃ attributes children, node = .element name attributes children) ∨
        AnyHolds parent name node.elements := by
  cases node with
  | text content => simp [Node.placed, Node.elements, AnyInside, AnyHolds]
  | embedded content => simp [Node.placed, Node.elements, AnyInside, AnyHolds]
  | comment => simp [Node.placed, Node.elements, AnyInside, AnyHolds]
  | element own attributes children =>
      have inside := anyInside_placedIn parent name ⟨own, attributes, children⟩
        (outer :: around) children
      simp only [Node.placed, Node.elements, anyHolds_cons]
      rw [← List.singleton_append, anyInside_append, inside,
        Element.exists_childElements_iff]
      simp only [AnyInside, List.mem_singleton, exists_eq_left, List.head?_cons,
        Option.map_some, Option.some.injEq, Node.element.injEq]
      grind

private theorem anyInside_placedIn (parent name : String) (outer : Element)
    (around : List Element) (nodes : List Node) :
    AnyInside parent name (placedIn (outer :: around) nodes) ↔
      (outer.name = parent ∧
          ∃ attributes children, Node.element name attributes children ∈ nodes) ∨
        AnyHolds parent name (elementsOf nodes) := by
  cases nodes with
  | nil => simp [placedIn, elementsOf, AnyInside, AnyHolds]
  | cons node rest =>
      simp only [placedIn, elementsOf, anyInside_append, anyHolds_append, List.mem_cons]
      rw [anyInside_placed parent name outer around node,
        anyInside_placedIn parent name outer around rest]
      grind

end

/-- No element is found inside of a parent exactly when no element with the name of the
parent, at any depth, has an element with the searched name directly inside of it. -/
theorem Element.findInside?_eq_none_iff (element : Element) (parent name : String) :
    element.findInside? parent name = none ↔
      ∀ outer ∈ element :: element.descendants, outer.name = parent →
        ∀ inner ∈ outer.childElements, inner.name ≠ name := by
  have found : AnyInside parent name (placedIn [element] element.children) ↔
      AnyHolds parent name (element :: element.descendants) := by
    rw [anyInside_placedIn, anyHolds_cons, Element.exists_childElements_iff]
    rfl
  have notFound := not_congr found
  simp only [AnyInside, AnyHolds, not_exists, not_and] at notFound
  rw [Element.findInside?, Option.map_eq_none_iff, List.find?_eq_none]
  simpa using notFound

end GrammarTables.Markup
