/-!
# Document trees

What a page says, once its tags have been matched: elements with attributes and children,
runs of text, and comments.  A comment keeps its place, since it divides the text around
it, and nothing else.  Text of a script, style sheet, template or ruby annotation is kept
apart as embedded text, which only an element of the same name reads as.
-/

namespace GrammarTables.Markup

/-- The elements whose text is embedded. -/
def embeddedElements : List String := ["script", "style", "template", "rt", "rp"]

/-- A node of a document tree. -/
inductive Node where
  | text (content : String)
  /-- Text that is embedded by the innermost such element around it. -/
  | embedded (container : String) (content : String)
  | comment
  | element (name : String) (attributes : List (String × String)) (children : List Node)
  deriving Repr

structure Element where
  name : String
  attributes : List (String × String)
  children : List Node
  deriving Repr

namespace Element

instance : Inhabited Element := ⟨⟨"", [], []⟩⟩

def toNode (element : Element) : Node :=
  .element element.name element.attributes element.children

def attribute? (element : Element) (name : String) : Option String :=
  element.attributes.lookup name

end Element

mutual

/-- The elements of a subtree in document order, each before those inside it. -/
def Node.elements : Node → List Element
  | .element name attributes children =>
    ⟨name, attributes, children⟩ :: elementsOf children
  | _ => []

def elementsOf : List Node → List Element
  | [] => []
  | node :: rest => node.elements ++ elementsOf rest

end

mutual

/-- The runs of text in a subtree in document order: those that are embedded by an element of
the name, or those that are not embedded. -/
def Node.texts (container : Option String) : Node → List String
  | .text content => if container.isNone then [content] else []
  | .embedded name content => if container == some name then [content] else []
  | .element _ _ children => textsOf container children
  | .comment => []

def textsOf (container : Option String) : List Node → List String
  | [] => []
  | node :: rest => node.texts container ++ textsOf container rest

end

namespace Element

/-- The elements inside an element, at any depth, in document order. -/
def descendants (element : Element) : List Element := elementsOf element.children

/-- The elements directly inside an element. -/
def childElements (element : Element) : List Element :=
  element.children.filterMap fun
    | .element name attributes children => some ⟨name, attributes, children⟩
    | _ => none

/-- The name of an element whose text is embedded. -/
def container? (element : Element) : Option String :=
  if embeddedElements.contains element.name then some element.name else none

/-- The runs of text that an element reads as. -/
def texts (element : Element) : List String := textsOf element.container? element.children

end Element

end GrammarTables.Markup
