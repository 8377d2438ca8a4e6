import GrammarTables.Markup.Tree
import GrammarTables.Proofs.Markup.Scanning

/-!
# Trees inside the body

Inside the body of a page most elements stand in the tree just where their tags stand on the
page: nothing closes them early and nothing is supplied around them.  For such an element,
and for text beside it, one token changes nothing but the children of the innermost open
element.
-/

namespace GrammarTables.Markup

/-- Elements of the name are opened by their start tags and closed by their end tags, and the
text in them is text of the page. -/
structure IsOrdinary (name : String) : Prop where
  named : Scanner.isTagName name = true
  notVoid : name ∉ voidElements
  notStructural : name ∉ structuralElements
  notEmbedded : name ∉ embeddedElements

instance (name : String) : Decidable (IsOrdinary name) :=
  decidable_of_iff
    (Scanner.isTagName name = true ∧ name ∉ voidElements ∧ name ∉ structuralElements ∧
      name ∉ embeddedElements)
    ⟨fun ⟨named, notVoid, notStructural, notEmbedded⟩ =>
        ⟨named, notVoid, notStructural, notEmbedded⟩,
      fun ordinary => ⟨ordinary.named, ordinary.notVoid, ordinary.notStructural,
        ordinary.notEmbedded⟩⟩

/-- Text directly inside an element of the name stays there and is text of the page. -/
structure HoldsText (name : String) : Prop where
  notRoot : name ≠ "html"
  notHead : name ≠ "head"
  notEmbedded : name ∉ embeddedElements

theorem holdsText_body : HoldsText "body" := ⟨by decide, by decide, by decide⟩

theorem IsOrdinary.notRaw {name : String} (ordinary : IsOrdinary name) :
    name ∉ rawTextElements := by
  have embedded : ∀ raw ∈ rawTextElements, raw ∈ embeddedElements := by decide
  exact fun raw => ordinary.notEmbedded (embedded name raw)

theorem IsOrdinary.ne_structural {name : String} (ordinary : IsOrdinary name) :
    name ≠ "html" ∧ name ≠ "head" ∧ name ≠ "body" := by
  have notStructural := ordinary.notStructural
  simpa [structuralElements] using notStructural

theorem IsOrdinary.holdsText {name : String} (ordinary : IsOrdinary name) : HoldsText name :=
  ⟨ordinary.ne_structural.1, ordinary.ne_structural.2.1, ordinary.notEmbedded⟩

namespace Builder

/-- The tree with one more open element, whose children so far are in reverse order. -/
def within (builder : Builder) (name : String) (attributes : List Attribute)
    (children : List Node) : Builder :=
  { builder with frames := ⟨name, attributes, children⟩ :: builder.frames }

theorem mapNodes_within (builder : Builder) (name : String) (attributes : List Attribute)
    (children : List Node) (change : List Node → List Node) :
    (builder.within name attributes children).mapNodes change =
      builder.within name attributes (change children) := rfl

/-- In the open elements of the tree, content of the body can be opened. -/
structure InBody (builder : Builder) : Prop where
  hasBody : builder.hasBody = true
  going : builder.ended = false
  nested : builder.frames ≠ []
  visible : ∀ frame ∈ builder.frames, frame.name ∉ embeddedElements

variable {builder outer : Builder} {parent name : String}
  {attributes : List Attribute} {children : List Node}

theorem InBody.within (inBody : builder.InBody) (notEmbedded : name ∉ embeddedElements) :
    (builder.within name attributes children).InBody where
  hasBody := inBody.hasBody
  going := inBody.going
  nested := List.cons_ne_nil _ _
  visible := List.forall_mem_cons.mpr ⟨notEmbedded, inBody.visible⟩

/-- A start tag opens its element where it stands, if it closes nothing. -/
theorem add_startTag (inBody : outer.InBody) (ordinary : IsOrdinary name)
    (fits : isClosedBy parent name = false) (own : List Attribute) :
    (outer.within parent attributes children).add (.startTag name own false) =
      (outer.within parent attributes children).within name own [] := by
  obtain ⟨notRoot, notHead, notBody⟩ := ordinary.ne_structural
  have notVoid := ordinary.notVoid
  have deep : ¬ outer.frames.length + 1 ≤ 1 := by
    have := List.length_pos_iff.mpr inBody.nested
    omega
  simp [add, addStartTag, makeRoom, supply, misplaces, openElement, innermost?, close,
    within, inBody.going, inBody.hasBody, fits, beq_false_of_ne notRoot,
    beq_false_of_ne notHead, beq_false_of_ne notBody, notVoid, deep]

theorem add_endTag (inBody : outer.InBody) (ordinary : IsOrdinary name)
    (own : List Attribute) (nodes : List Node) :
    ((outer.within parent attributes children).within name own nodes).add (.endTag name) =
      outer.within parent attributes (.element name own nodes.reverse :: children) := by
  have notStructural := ordinary.notStructural
  simp [add, addEndTag, within, inBody.going, notStructural, Frames.countThrough?, close,
    closeInnermost, mapNodes, Frame.toNode]

/-- Text is added where it stands, and is not joined to a node that is no text. -/
theorem add_text (inBody : outer.InBody) (holds : HoldsText parent)
    (fresh : ∀ earlier, children.head? ≠ some (.text earlier)) (content : String) :
    (outer.within parent attributes children).add (.text content) =
      outer.within parent attributes (.text content :: children) := by
  have visible : (outer.within parent attributes children).container? = none := by
    rw [container?, Option.map_eq_none_iff, List.find?_eq_none]
    intro frame isOpen
    simpa using (inBody.within holds.notEmbedded).visible frame isOpen
  have joined : joinText none content children = .text content :: children := by
    cases children with
    | nil => rfl
    | cons node rest =>
        cases node with
        | text earlier => exact absurd rfl (fresh earlier)
        | _ => rfl
  have noParagraph : (outer.within parent attributes children).lacksParagraph = false := by
    simp [lacksParagraph, innermost?, within, holds.notRoot, holds.notHead]
  have going : (outer.within parent attributes children).ended = false := inBody.going
  simp only [add, addText, going, noParagraph, visible, Bool.false_and, Bool.false_eq_true,
    if_false, mapNodes_within, joined]

end Builder

end GrammarTables.Markup
