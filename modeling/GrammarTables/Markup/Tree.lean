import GrammarTables.Markup.Nesting
import GrammarTables.Markup.Node
import GrammarTables.Markup.Token

/-!
# From tokens to trees

A page need not close what it opens.  The tree is built over the stack of open elements:
a start tag first closes the innermost ones that cannot contain it, and an end tag closes
everything up to the element it names, unless an element of higher rank is in between.
The root, the head and the body are there whether or not the page has tags for them:

* a tag or text outside the root opens one;
* what belongs to a head opens it while only the root is open, and anything else opens
  the body, each at most once on a page; what is written in an open head stays there;
* text directly in the root or the head begins a paragraph;
* a second tag of the three is misplaced and dropped, and so is one end tag for it.

The end tag of the root ends the document.  The rules of a browser that move content out
of tables are not applied: rows and cells are elements like any other and stay where they
are written.
-/

namespace GrammarTables.Markup

/-- An open element.  Its children so far are in reverse order. -/
structure Frame where
  name : String
  attributes : List Attribute
  children : List Node

/-- The element that a frame makes when it is closed. -/
def Frame.toNode (frame : Frame) : Node :=
  .element frame.name frame.attributes frame.children.reverse

/-- The open elements, the innermost one first. -/
abbrev Frames : Type := List Frame

namespace Frames

def has (frames : Frames) (name : String) : Bool := frames.any (·.name == name)

/-- How many elements an end tag closes, if it closes any. -/
def countThrough? (tag : String) : Frames → Option Nat
  | [] => none
  | frame :: outer =>
    if frame.name == tag then some 1
    else if rank tag < rank frame.name then none
    else (countThrough? tag outer).map (· + 1)

end Frames

/-- The node of a run of text, which an element may embed. -/
def Node.ofText (content : String) : Option String → Node
  | none => .text content
  | some container => .embedded container content

/-- Adds a run of text to nodes in reverse order, joined to the run that is last among
them if there is one. -/
def joinText (container : Option String) (content : String) : List Node → List Node
  | .text earlier :: rest =>
    if container.isNone then .text (earlier ++ content) :: rest
    else .ofText content container :: .text earlier :: rest
  | .embedded name earlier :: rest =>
    if container == some name then .embedded name (earlier ++ content) :: rest
    else .ofText content container :: .embedded name earlier :: rest
  | nodes => .ofText content container :: nodes

/-- A tree under construction. -/
structure Builder where
  /-- The nodes outside of every open element, in reverse order. -/
  outermost : List Node
  frames : Frames
  /-- Whether a head has been opened. -/
  hasHead : Bool
  /-- Whether a body has been opened. -/
  hasBody : Bool
  /-- How many misplaced start tags wait for an end tag. -/
  misplaced : Nat
  /-- Whether the document has ended. -/
  ended : Bool

namespace Builder

/-- The tree before anything has been read. -/
def start : Builder := ⟨[], [], false, false, 0, false⟩

/-- The name of the innermost open element. -/
def innermost? (builder : Builder) : Option String := builder.frames.head?.map Frame.name

/-- Changes the nodes of the innermost open element. -/
def mapNodes (builder : Builder) (change : List Node → List Node) : Builder :=
  match builder.frames with
  | [] => { builder with outermost := change builder.outermost }
  | frame :: outer =>
    { builder with frames := { frame with children := change frame.children } :: outer }

/-- Opens an element inside the innermost one. -/
def openElement (builder : Builder) (name : String) (attributes : List Attribute) :
    Builder :=
  { builder with
    frames := ⟨name, attributes, []⟩ :: builder.frames
    hasHead := builder.hasHead || name == "head" || name == "body"
    hasBody := builder.hasBody || name == "body" }

/-- Closes the innermost element, if one is open. -/
def closeInnermost (builder : Builder) : Builder :=
  match builder.frames with
  | [] => builder
  | frame :: outer => { builder with frames := outer }.mapNodes (frame.toNode :: ·)

def close : Nat → Builder → Builder
  | 0, builder => builder
  | count + 1, builder => builder.closeInnermost.close count

/-- Closes the innermost elements that cannot contain an element of the name. -/
def makeRoom (builder : Builder) (name : String) : Builder :=
  builder.close (builder.frames.takeWhile fun frame => isClosedBy frame.name name).length

/-- Opens the root if nothing is open, and the head or the body if an element of the name
needs it. -/
def supply (builder : Builder) (name : String) : Builder :=
  if name == "html" then builder
  else
    let builder :=
      if builder.frames.isEmpty then builder.openElement "html" [] else builder
    if name == "head" || name == "body" then builder
    else if builder.frames.length ≤ 1 && headElements.contains name then
      if builder.hasHead then builder else builder.openElement "head" []
    else if frameElements.contains name || builder.hasBody ||
        builder.frames.has "head" then builder
    else builder.openElement "body" []

/-- Whether a start tag is one of a second root, head or body. -/
def misplaces (builder : Builder) (name : String) : Bool :=
  (name == "html" && !builder.frames.isEmpty) ||
    (name == "head" && builder.frames.length != 1) ||
    (name == "body" && builder.frames.has "body")

/-- Adds a start tag.  A misplaced tag that closes itself closes the innermost element. -/
def addStartTag (builder : Builder) (name : String) (attributes : List Attribute)
    (closed : Bool) : Builder :=
  let builder := (builder.makeRoom name).supply name
  let builder :=
    if builder.misplaces name then { builder with misplaced := builder.misplaced + 1 }
    else builder.openElement name attributes
  if closed || (builder.innermost?.any voidElements.contains) then builder.closeInnermost
  else builder

/-- Adds an end tag.  After misplaced start tags as many end tags of the root, the head
and the body mean nothing.  The end tag that closes the root ends the document. -/
def addEndTag (builder : Builder) (name : String) : Builder :=
  if 0 < builder.misplaced && structuralElements.contains name then
    { builder with misplaced := builder.misplaced - 1 }
  else
    match builder.frames.countThrough? name with
    | none => builder
    | some count =>
      let builder := builder.close count
      { builder with ended := builder.frames.isEmpty }

/-- Whether text needs a paragraph here: nothing, the root or the head is innermost. -/
def lacksParagraph (builder : Builder) : Bool :=
  match builder.innermost? with
  | none => true
  | some name => name == "html" || name == "head"

/-- The name of the innermost open element that embeds text. -/
def container? (builder : Builder) : Option String :=
  (builder.frames.find? fun frame => embeddedElements.contains frame.name).map Frame.name

def addText (builder : Builder) (content : String) : Builder :=
  let builder :=
    if builder.lacksParagraph && !content.toList.all isTagBlank then
      ((builder.makeRoom "p").supply "p").openElement "p" []
    else builder
  builder.mapNodes (joinText builder.container? content)

/-- Adds one token.  What follows the end of the document is dropped. -/
def add (builder : Builder) (token : Token) : Builder :=
  if builder.ended then builder
  else
    match token with
    | .startTag name attributes closed => builder.addStartTag name attributes closed
    | .endTag name => builder.addEndTag name
    | .comment => builder.mapNodes (.comment :: ·)
    | .text content => builder.addText content
    | .rawText content => builder.mapNodes (joinText builder.container? content)

/-- The nodes of the document once everything is closed. -/
def finish (builder : Builder) : List Node :=
  (builder.close builder.frames.length).outermost.reverse

end Builder

/-- The tree of a document: the root, and what is beside it. -/
structure Document where
  nodes : List Node
  deriving Repr

namespace Document

def ofTokens (tokens : List Token) : Document :=
  ⟨(tokens.foldl Builder.add Builder.start).finish⟩

/-- The tree of a page.  A byte order mark in front of it is dropped. -/
def parse (page : String) : Document :=
  let characters :=
    match page.toList with
    | first :: rest => if first.toNat == 0xFEFF then rest else first :: rest
    | [] => []
  ofTokens (Token.scan characters)

/-- The elements in document order. -/
def elements (document : Document) : List Element := elementsOf document.nodes

end Document

end GrammarTables.Markup
