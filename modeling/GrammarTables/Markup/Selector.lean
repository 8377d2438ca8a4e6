import GrammarTables.Markup.Tree
import GrammarTables.Text.Blank

/-!
# Selectors

A selector picks elements by type, class and identifier, and by what they are inside of.
Types are compared without regard to case, classes and identifiers with it.  The document
counts as what is around its root.  The region of a table is the first element in document
order that a selector matches.
-/

namespace GrammarTables.Markup

/-- The words of a text, which the characters that satisfy the test divide. -/
def wordsWhere (test : Char → Bool) (text : List Char) : List (List Char) :=
  let step (words : List (List Char)) (character : Char) : List (List Char) :=
    if test character then [] :: words
    else
      match words with
      | word :: rest => (character :: word) :: rest
      | [] => [[character]]
  ((text.foldl step [[]]).reverse.filter (!·.isEmpty)).map List.reverse

/-- The classes of an element: the words of its class attribute. -/
def Element.classes (element : Element) : List String :=
  (wordsWhere Text.isBlank ((element.attribute? "class").getD "").toList).map String.ofList

/-- The conditions on a single element. -/
structure Compound where
  /-- The type, in lower case. -/
  type : Option String
  classes : List String
  identifiers : List String
  deriving DecidableEq, Repr

/-- Whether an element satisfies the conditions. -/
def Compound.accepts (compound : Compound) (element : Element) : Bool :=
  (match compound.type with
    | some type => element.name == type
    | none => true) &&
  compound.classes.all (element.classes.contains ·) &&
  compound.identifiers.all fun identifier => element.attribute? "id" == some identifier

/-- How an element lies inside another one. -/
inductive Combinator where
  | descendant
  | child
  deriving DecidableEq, Repr

/-- Conditions on an element and on those around it.  The conditions on the element come
first; each further one says where it is met, counted from the one before. -/
structure Selector where
  /-- The selector as it is written. -/
  source : String
  subject : Compound
  context : List (Combinator × Compound)
  deriving DecidableEq, Repr

namespace Selector

/-- Whether the elements around an element, the innermost one first, meet conditions. -/
def acceptsContext : List (Combinator × Compound) → List Element → Bool
  | [], _ => true
  | _ :: _, [] => false
  | (.child, compound) :: rest, parent :: outer =>
    compound.accepts parent && acceptsContext rest outer
  | (.descendant, compound) :: rest, parent :: outer =>
    (compound.accepts parent && acceptsContext rest outer) ||
      acceptsContext ((.descendant, compound) :: rest) outer

/-- Whether the selector matches an element inside of others, the innermost one first. -/
def accepts (selector : Selector) (around : List Element) (element : Element) : Bool :=
  selector.subject.accepts element && acceptsContext selector.context around

def ofClass (name : String) : Selector := ⟨"." ++ name, ⟨none, [name], []⟩, []⟩

end Selector

mutual

/-- The elements of a subtree with those around them, the innermost one first. -/
def Node.placed (around : List Element) : Node → List (List Element × Element)
  | .element name attributes children =>
    let element : Element := ⟨name, attributes, children⟩
    (around, element) :: placedIn (element :: around) children
  | _ => []

/-- The elements of several subtrees with those around them. -/
def placedIn (around : List Element) : List Node → List (List Element × Element)
  | [] => []
  | node :: rest => node.placed around ++ placedIn around rest

end

/-- The document itself, as that which is around the root.  It has a name that no tag
has, and no attributes. -/
def Document.toElement (document : Document) : Element := ⟨"[document]", [], document.nodes⟩

/-- The first element of a document that a selector matches. -/
def Document.select? (document : Document) (selector : Selector) : Option Element :=
  ((placedIn [document.toElement] document.nodes).find? fun placed =>
    selector.accepts placed.1 placed.2).map Prod.snd

/-- The elements inside an element that have one of the names. -/
def Element.findAll (element : Element) (names : List String) : List Element :=
  element.descendants.filter fun inner => names.contains inner.name

/-- The first element of the name inside an element. -/
def Element.find? (element : Element) (name : String) : Option Element :=
  element.descendants.find? fun inner => inner.name == name

/-- The first element of a name, inside an element, whose parent has the other name. -/
def Element.findInside? (element : Element) (parent name : String) : Option Element :=
  ((placedIn [element] element.children).find? fun placed =>
    placed.2.name == name && (placed.1.head?.map Element.name) == some parent).map Prod.snd

/-- What an element reads as: its runs of text, each trimmed, one after the other. -/
def Element.reading (element : Element) : String :=
  String.join (element.texts.map Text.trim)

end GrammarTables.Markup
