import GrammarTables.Proofs.Markup.Building
import Mathlib.Data.List.Forall2

/-!
# Markup that is read as it is written

An element and the content of an element are read from their characters whatever stands
around them.  Both are said of characters as a whole, so that what is known of the parts of a
page can be put together: content is text and elements in turns, and an element is content
between its tags.
-/

namespace GrammarTables.Markup

/-- The run of text that characters between two tags make, if there are any. -/
def textOf (characters : List Char) : List String :=
  if characters.isEmpty then [] else [String.ofList (Reference.decode characters)]

theorem Scanner.withText_reverse (tokens : List Token) (characters : List Char) :
    withText tokens characters.reverse = (textOf characters).map Token.text ++ tokens := by
  cases characters <;> simp [withText, textOf]

theorem Builder.foldl_add_textOf {outer : Builder} {parent : String}
    {attributes : List Attribute} {children : List Node} (inBody : outer.InBody)
    (holds : HoldsText parent) (fresh : ∀ earlier, children.head? ≠ some (.text earlier))
    (characters : List Char) :
    ((textOf characters).map Token.text).foldl add (outer.within parent attributes children) =
      outer.within parent attributes ((textOf characters).map Node.text ++ children) := by
  cases characters with
  | nil => rfl
  | cons character rest => exact add_text inBody holds fresh _

/-- Wherever the characters stand in content of the element with the name, they are read as
one more element. -/
def ReadsElement (parent : String) (characters : List Char) (element : Element) : Prop :=
  ∃ added : List Token,
    (∀ tokens run, characters.foldl Scanner.step ⟨tokens, .content run⟩ =
      ⟨added.reverse ++ Scanner.withText tokens run, .content []⟩) ∧
    ∀ (outer : Builder) attributes children, outer.InBody →
      added.foldl Builder.add (outer.within parent attributes children) =
        outer.within parent attributes (element.toNode :: children)

/-- Wherever the characters follow a tag inside the element with the name, they are read as
the nodes.  The last run of text is not complete before the next tag. -/
def ReadsContent (parent : String) (characters : List Char) (nodes : List Node) : Prop :=
  ∃ added : List Token,
    (∀ tokens, ∃ earlier run, characters.foldl Scanner.step ⟨tokens, .content []⟩ =
      ⟨earlier, .content run⟩ ∧ Scanner.withText earlier run = added.reverse ++ tokens) ∧
    ∀ (outer : Builder) attributes children, outer.InBody →
      (∀ text, children.head? ≠ some (.text text)) →
        added.foldl Builder.add (outer.within parent attributes children) =
          outer.within parent attributes (nodes.reverse ++ children)

theorem reverse_map_textOf {Item : Type} (characters : List Char) (item : String → Item) :
    ((textOf characters).map item).reverse = (textOf characters).map item := by
  cases characters <;> rfl

theorem readsContent_text {parent : String} (holds : HoldsText parent) {text : List Char}
    (noTag : '<' ∉ text) : ReadsContent parent text ((textOf text).map .text) := by
  refine ⟨(textOf text).map .text, fun tokens => ?_, ?_⟩
  · refine ⟨tokens, text.reverse, ?_, ?_⟩
    · rw [Scanner.foldl_step_text noTag, List.append_nil]
    · rw [Scanner.withText_reverse, reverse_map_textOf]
  · intro outer attributes children inBody fresh
    rw [Builder.foldl_add_textOf inBody holds fresh, reverse_map_textOf]

/-- Text, an element and further content are content. -/
theorem ReadsElement.cons {parent : String} {characters : List Char} {element : Element}
    (here : ReadsElement parent characters element) (holds : HoldsText parent)
    {text : List Char} (noTag : '<' ∉ text) {rest : List Char} {nodes : List Node}
    (there : ReadsContent parent rest nodes) :
    ReadsContent parent (text ++ (characters ++ rest))
      ((textOf text).map .text ++ element.toNode :: nodes) := by
  obtain ⟨hereAdded, hereScanned, hereBuilt⟩ := here
  obtain ⟨thereAdded, thereScanned, thereBuilt⟩ := there
  refine ⟨(textOf text).map .text ++ (hereAdded ++ thereAdded), fun tokens => ?_, ?_⟩
  · obtain ⟨earlier, run, scanned, complete⟩ :=
      thereScanned (hereAdded.reverse ++ ((textOf text).map .text ++ tokens))
    refine ⟨earlier, run, ?_, ?_⟩
    · rw [List.foldl_append, List.foldl_append, Scanner.foldl_step_text noTag, hereScanned,
        List.append_nil, Scanner.withText_reverse, scanned]
    · rw [complete, List.reverse_append, List.reverse_append, reverse_map_textOf]
      simp only [List.append_assoc]
  · intro outer attributes children inBody fresh
    rw [List.foldl_append, List.foldl_append, Builder.foldl_add_textOf inBody holds fresh,
      hereBuilt _ _ _ inBody, thereBuilt _ _ _ inBody (by simp [Element.toNode]),
      List.reverse_append, List.reverse_cons, reverse_map_textOf]
    simp only [List.append_assoc, List.cons_append, List.nil_append]

theorem readsContent_divided {parent : String} (holds : HoldsText parent) {text : List Char}
    (noTag : '<' ∉ text) {parts : List (List Char)} {elements : List Element}
    (each : List.Forall₂ (ReadsElement parent) parts elements) {rest : List Char}
    {nodes : List Node} (there : ReadsContent parent rest nodes) :
    ReadsContent parent ((parts.flatMap fun part => text ++ part) ++ rest)
      ((elements.flatMap fun element => (textOf text).map .text ++ [element.toNode]) ++
        nodes) := by
  induction each with
  | nil => exact there
  | cons here _ ih =>
      have more := here.cons holds noTag ih
      simpa only [List.flatMap_cons, List.append_assoc, List.cons_append, List.nil_append]
        using more

/-- Content between its tags is an element, if the start tag does not close the element
around it. -/
theorem ReadsContent.between {name : String} {characters : List Char} {nodes : List Node}
    (content : ReadsContent name characters nodes) (ordinary : IsOrdinary name)
    {start : List Char} {attributes : List Attribute}
    (starts : Scanner.ScansAs start (.startTag name attributes false)) {parent : String}
    (holds : HoldsText parent) (fits : isClosedBy parent name = false) :
    ReadsElement parent (start ++ (characters ++ Scanner.closingTag name))
      ⟨name, attributes, nodes⟩ := by
  obtain ⟨added, scanned, built⟩ := content
  refine ⟨.startTag name attributes false :: (added ++ [.endTag name]), ?_, ?_⟩
  · intro tokens run
    obtain ⟨earlier, last, ended, complete⟩ :=
      scanned (.startTag name attributes false :: Scanner.withText tokens run)
    rw [List.foldl_append, List.foldl_append, starts, ended,
      Scanner.scansAs_closingTag ordinary.named, complete]
    simp
  · intro outer own children inBody
    rw [List.foldl_cons, List.foldl_append, Builder.add_startTag inBody ordinary fits,
      built _ _ _ (inBody.within holds.notEmbedded) (by simp), List.append_nil]
    simp only [List.foldl_cons, List.foldl_nil, Builder.add_endTag inBody ordinary,
      List.reverse_reverse]
    rfl

end GrammarTables.Markup
