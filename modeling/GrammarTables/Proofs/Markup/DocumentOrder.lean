import GrammarTables.Markup.Selector
import GrammarTables.Proofs.FirstDefect
import Mathlib.Data.List.Pairwise

/-!
# Document order

A node below others has a place: the numbers of the nodes that lead to it, each counted among
its siblings.  Document order is the order of the places.  What is inside of a node comes after
it and before its next sibling, since its places begin with that of the node.  An enumeration
gives each node of some kind exactly once, in document order.
-/

namespace GrammarTables

/-- What is nested comes after what it is nested in. -/
theorem Place.lt_append (outer : Place) (number : Nat) (inner : Place) :
    outer < outer ++ number :: inner := by
  induction outer with
  | nil => exact List.nil_lt_cons number inner
  | cons first rest ih => exact List.cons_lt_cons_iff.mpr (.inr ⟨rfl, ih⟩)

namespace Markup

/-- The nodes directly inside of a node. -/
def Node.children : Node → List Node
  | .element _ _ children => children
  | _ => []

/-- The element that a node is. -/
def Node.element? : Node → Option Element
  | .element name attributes children => some ⟨name, attributes, children⟩
  | _ => none

/-- The element that a node is, if it has one of the names. -/
def Node.named? (names : List String) (node : Node) : Option Element :=
  node.element?.filter fun element => names.contains element.name

/-- The run of text that a node is, if it is embedded by an element of the name, or without a
name if it is not embedded. -/
def Node.text? : Option String → Node → Option String
  | none, .text content => some content
  | some name, .embedded container content => if name = container then some content else none
  | _, _ => none

/-- The node stands at the place below the nodes. -/
inductive IsAt : List Node → Place → Node → Prop
  | sibling {nodes : List Node} {number : Nat} {node : Node} :
      nodes[number]? = some node → IsAt nodes [number] node
  | inside {nodes : List Node} {number : Nat} {outer node : Node} {place : Place} :
      nodes[number]? = some outer → IsAt outer.children place node →
      IsAt nodes (number :: place) node

/-- The items are what nodes below the given ones give, in document order and one for each node
that gives any. -/
def IsEnumeration {Item : Type} (give : Node → Option Item) (nodes : List Node)
    (items : List Item) : Prop :=
  ∃ placed : List (Place × Item), placed.Pairwise (fun left right => left.1 < right.1) ∧
    (∀ place item, (place, item) ∈ placed ↔
      ∃ node, IsAt nodes place node ∧ give node = some item) ∧
    items = placed.map Prod.snd

variable {Item Other : Type}

theorem IsEnumeration.filterMap {give : Node → Option Item} {nodes : List Node}
    {items : List Item} (enumerated : IsEnumeration give nodes items)
    (change : Item → Option Other) :
    IsEnumeration (fun node => (give node).bind change) nodes (items.filterMap change) := by
  obtain ⟨placed, ordered, complete, rfl⟩ := enumerated
  refine ⟨placed.filterMap fun item => (change item.2).map (item.1, ·), ?_, ?_, ?_⟩
  · apply ordered.filterMap
    intro left right before changedLeft isLeft changedRight isRight
    obtain ⟨_, -, rfl⟩ := Option.map_eq_some_iff.mp isLeft
    obtain ⟨_, -, rfl⟩ := Option.map_eq_some_iff.mp isRight
    exact before
  · intro place changed
    simp only [List.mem_filterMap, Option.map_eq_some_iff, Prod.mk.injEq, Prod.exists, complete,
      Option.bind_eq_some_iff]
    constructor
    · rintro ⟨_, item, ⟨node, isAt, gives⟩, _, changes, rfl, rfl⟩
      exact ⟨node, isAt, item, gives, changes⟩
    · rintro ⟨node, isAt, item, gives, changes⟩
      exact ⟨place, item, ⟨node, isAt, gives⟩, changed, changes, rfl, rfl⟩
  · simp [List.filterMap_map, List.map_filterMap, Function.comp_def]

theorem IsEnumeration.map {give : Node → Option Item} {nodes : List Node} {items : List Item}
    (enumerated : IsEnumeration give nodes items) (change : Item → Other) :
    IsEnumeration (fun node => (give node).map change) nodes (items.map change) := by
  have changed := enumerated.filterMap (some ∘ change)
  rw [List.filterMap_eq_map] at changed
  simpa only [Option.map_eq_bind] using changed

/-! ## All nodes with their places -/

mutual

/-- A node and those inside of it, with their places. -/
def Node.withPlaces : Node → List (Place × Node)
  | .element name attributes children =>
    ([], .element name attributes children) :: placesFrom 0 children
  | node => [([], node)]

/-- Nodes and those inside of them, with their places.  The first node has the given number. -/
def placesFrom (number : Nat) : List Node → List (Place × Node)
  | [] => []
  | node :: rest =>
    node.withPlaces.map (fun placed => (number :: placed.1, placed.2)) ++
      placesFrom (number + 1) rest

end

/-- A node with a number is the one of that number or stands inside of it. -/
theorem isAt_cons_iff {nodes : List Node} {number : Nat} {place : Place} {node : Node} :
    IsAt nodes (number :: place) node ↔
      ∃ outer, nodes[number]? = some outer ∧
        (place = [] ∧ node = outer ∨ IsAt outer.children place node) := by
  constructor
  · intro isAt
    cases isAt with
    | sibling found => exact ⟨node, found, .inl ⟨rfl, rfl⟩⟩
    | inside found isAt => exact ⟨_, found, .inr isAt⟩
  · rintro ⟨outer, found, ⟨rfl, rfl⟩ | isAt⟩
    · exact .sibling found
    · exact .inside found isAt

/-- Every place begins with a number. -/
theorem exists_cons_and_isAt_iff {nodes : List Node} {place : Place} {node : Node} :
    (∃ number inner, place = (0 + number) :: inner ∧ IsAt nodes (number :: inner) node) ↔
      IsAt nodes place node := by
  simp only [Nat.zero_add]
  constructor
  · rintro ⟨number, inner, rfl, isAt⟩
    exact isAt
  · intro isAt
    cases isAt with
    | sibling found => exact ⟨_, _, rfl, .sibling found⟩
    | inside found isAt => exact ⟨_, _, rfl, .inside found isAt⟩

mutual

theorem Node.mem_withPlaces_iff (outer : Node) (place : Place) (node : Node) :
    (place, node) ∈ outer.withPlaces ↔
      place = [] ∧ node = outer ∨ IsAt outer.children place node := by
  cases outer with
  | text | embedded | comment =>
      have noneInside : ¬IsAt [] place node := by
        intro isAt
        cases isAt <;> simp at *
      simp [Node.withPlaces, Node.children, noneInside]
  | element name attributes children =>
      rw [Node.withPlaces, List.mem_cons, Prod.mk.injEq, mem_placesFrom_iff 0 children,
        exists_cons_and_isAt_iff]
      rfl

theorem mem_placesFrom_iff (number : Nat) (nodes : List Node) (place : Place) (node : Node) :
    (place, node) ∈ placesFrom number nodes ↔
      ∃ offset inner, place = (number + offset) :: inner ∧ IsAt nodes (offset :: inner) node := by
  cases nodes with
  | nil => simp [placesFrom, isAt_cons_iff]
  | cons first rest =>
      simp only [placesFrom, List.mem_append, List.mem_map, Prod.mk.injEq, Prod.exists,
        first.mem_withPlaces_iff, mem_placesFrom_iff (number + 1) rest]
      constructor
      · rintro (⟨inner, _, isHere, rfl, rfl⟩ | ⟨offset, inner, rfl, isAt⟩)
        · exact ⟨0, inner, rfl, isAt_cons_iff.mpr ⟨first, rfl, isHere⟩⟩
        · refine ⟨offset + 1, inner, by rw [Nat.add_right_comm, Nat.add_assoc], ?_⟩
          rw [isAt_cons_iff] at isAt ⊢
          exact isAt
      · rintro ⟨offset, inner, rfl, isAt⟩
        rw [isAt_cons_iff] at isAt
        obtain ⟨outer, found, isHere⟩ := isAt
        cases offset with
        | zero =>
            obtain rfl := Option.some.inj found
            exact .inl ⟨inner, node, isHere, rfl, rfl⟩
        | succ offset =>
            refine .inr ⟨offset, inner, by rw [Nat.add_right_comm, Nat.add_assoc], ?_⟩
            exact isAt_cons_iff.mpr ⟨outer, found, isHere⟩

end

mutual

theorem Node.pairwise_withPlaces (node : Node) :
    node.withPlaces.Pairwise fun left right => left.1 < right.1 := by
  cases node with
  | text | embedded | comment => exact List.pairwise_singleton _ _
  | element name attributes children =>
      rw [Node.withPlaces, List.pairwise_cons]
      refine ⟨?_, pairwise_placesFrom 0 children⟩
      rintro ⟨place, node⟩ isIn
      obtain ⟨offset, inner, rfl, -⟩ := (mem_placesFrom_iff ..).mp isIn
      exact List.nil_lt_cons _ inner

theorem pairwise_placesFrom (number : Nat) (nodes : List Node) :
    (placesFrom number nodes).Pairwise fun left right => left.1 < right.1 := by
  cases nodes with
  | nil => exact .nil
  | cons node rest =>
      rw [placesFrom, List.pairwise_append, List.pairwise_map]
      refine ⟨?_, pairwise_placesFrom (number + 1) rest, ?_⟩
      · apply node.pairwise_withPlaces.imp
        intro left right before
        exact List.cons_lt_cons_iff.mpr (.inr ⟨rfl, before⟩)
      · rintro _ isLeft ⟨place, other⟩ isRight
        obtain ⟨left, -, rfl⟩ := List.mem_map.mp isLeft
        obtain ⟨offset, inner, rfl, -⟩ := (mem_placesFrom_iff ..).mp isRight
        exact List.cons_lt_cons_iff.mpr (.inl (by omega))

end

/-! ## Collected items -/

/-- What is collected of nodes is what the nodes give, each in front of what is collected inside
of it. -/
structure IsCollected (give : Node → Option Item) (collect : List Node → List Item) : Prop where
  nil : collect [] = []
  cons : ∀ node rest,
    collect (node :: rest) = (give node).toList ++ collect node.children ++ collect rest

section

variable {give : Node → Option Item} {collect : List Node → List Item}

mutual

theorem Node.filterMap_withPlaces (collected : IsCollected give collect) (node : Node) :
    node.withPlaces.filterMap (fun placed => give placed.2) =
      (give node).toList ++ collect node.children := by
  cases node with
  | text | embedded | comment =>
      simp only [Node.withPlaces, Node.children, collected.nil, List.append_nil]
      exact List.filterMap_cons
  | element name attributes children =>
      have inside := filterMap_placesFrom collected 0 children
      rw [Node.withPlaces, List.filterMap_cons, inside]
      cases give (.element name attributes children) <;> rfl

theorem filterMap_placesFrom (collected : IsCollected give collect) (number : Nat)
    (nodes : List Node) :
    (placesFrom number nodes).filterMap (fun placed => give placed.2) = collect nodes := by
  cases nodes with
  | nil => exact collected.nil.symm
  | cons node rest =>
      rw [placesFrom, List.filterMap_append, List.filterMap_map, collected.cons,
        filterMap_placesFrom collected (number + 1) rest]
      exact congrArg (· ++ collect rest) (node.filterMap_withPlaces collected)

end

theorem IsCollected.isEnumeration (collected : IsCollected give collect) (nodes : List Node) :
    IsEnumeration give nodes (collect nodes) := by
  have all : IsEnumeration some nodes ((placesFrom 0 nodes).map Prod.snd) := by
    refine ⟨placesFrom 0 nodes, pairwise_placesFrom 0 nodes, ?_, rfl⟩
    intro place node
    rw [mem_placesFrom_iff, exists_cons_and_isAt_iff]
    simp
  have given := all.filterMap give
  rw [List.filterMap_map] at given
  rw [← filterMap_placesFrom collected 0 nodes]
  exact given

end

theorem isCollected_elementsOf : IsCollected Node.element? elementsOf where
  nil := by rw [elementsOf]
  cons node rest := by
    cases node <;> simp [elementsOf, Node.elements, Node.element?, Node.children]

theorem Element.isEnumeration_findAll (element : Element) (names : List String) :
    IsEnumeration (Node.named? names) element.children (element.findAll names) := by
  have enumerated := (isCollected_elementsOf.isEnumeration element.children).filterMap
    (Option.guard fun inner => names.contains inner.name)
  simp only [List.filterMap_eq_filter, Option.bind_guard] at enumerated
  exact enumerated

theorem isCollected_textsOf (container : Option String) :
    IsCollected (Node.text? container) (textsOf container) where
  nil := by rw [textsOf]
  cons node rest := by
    cases node with
    | text content => cases container <;> simp [textsOf, Node.texts, Node.text?, Node.children]
    | embedded name content =>
        cases container with
        | none => simp [textsOf, Node.texts, Node.text?, Node.children]
        | some outer =>
            by_cases same : outer = name <;>
              simp [textsOf, Node.texts, Node.text?, Node.children, same]
    | comment => simp [textsOf, Node.texts, Node.text?, Node.children]
    | element => simp [textsOf, Node.texts, Node.text?, Node.children]

end Markup

end GrammarTables
