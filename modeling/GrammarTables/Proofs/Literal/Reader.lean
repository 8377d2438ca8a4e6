import GrammarTables.Literal.Table
import GrammarTables.Proofs.Text
import GrammarTables.Proofs.Traversal
import GrammarTables.Proofs.Vocabulary

/-!
# Reading literals back

A reader takes a value from the front of a text and leaves the rest.  Names in string
literals can hold anything, the separators of the surrounding literal included, so a
literal cannot be divided at separators first: it is read from left to right.  What is
proved of a reader is that it gives back what was written, whatever comes after it.
-/

namespace GrammarTables.Literal

/-- A reader takes a value from the front of a text, or refuses the text. -/
abbrev Reader (Value : Type) : Type := List Char → Option (Value × List Char)

/-- What is left of a text after its expected beginning. -/
def skipChars : List Char → List Char → Option (List Char)
  | [], input => some input
  | _ :: _, [] => none
  | expected :: others, character :: input =>
    if expected = character then skipChars others input else none

/-- What is left of a text after the expected one. -/
def skip (expected : String) (input : List Char) : Option (List Char) :=
  skipChars expected.toList input

@[simp] theorem skip_append (expected : String) (rest : List Char) :
    skip expected (expected.toList ++ rest) = some rest := by
  rw [skip]
  induction expected.toList with
  | nil => rfl
  | cons character others ih => simpa [skipChars] using ih

/-- The text does not begin with a letter, so that a word in front of it ends there. -/
def EndsWord (rest : List Char) : Prop :=
  rest.takeWhile Char.isAlpha = []

/-- The reader takes the value from its written text, in front of whatever ends a word. -/
def Reads {Value : Type} (read : Reader Value) (value : Value) (written : String) : Prop :=
  ∀ rest, EndsWord rest → read (written.toList ++ rest) = some (value, rest)

theorem Reads.eq {Value : Type} {read : Reader Value} {value other : Value}
    {written : String} (reads : Reads read value written)
    (readsOther : Reads read other written) : value = other := by
  have same := (reads [] rfl).symm.trans (readsOther [] rfl)
  exact (Prod.mk.inj (Option.some.inj same)).1

/-! ## String literals -/

/-- The characters in front of the first quote that has no backslash in front of it.  The
character after a backslash stands for itself. -/
def readEscaped : Reader (List Char)
  | [] => none
  | '"' :: rest => some ([], rest)
  | ['\\'] => none
  | '\\' :: character :: rest =>
    (readEscaped rest).map fun read => (character :: read.1, read.2)
  | character :: rest =>
    (readEscaped rest).map fun read => (character :: read.1, read.2)

/-- The text of a string literal. -/
def readText (input : List Char) : Option (String × List Char) := do
  let input ← skip "\"" input
  let (characters, rest) ← readEscaped input
  return (String.ofList characters, rest)

theorem readEscaped_flatMap (characters rest : List Char) :
    readEscaped (characters.flatMap escapedChar ++ '"' :: rest) = some (characters, rest) := by
  induction characters with
  | nil => rfl
  | cons character others ih =>
      rw [List.flatMap_cons, List.append_assoc]
      by_cases isBackslash : character = '\\'
      · subst isBackslash
        simp [escapedChar, readEscaped, ih]
      · by_cases isQuote : character = '"'
        · subst isQuote
          simp [escapedChar, readEscaped, ih]
        · simp [escapedChar, readEscaped, isBackslash, isQuote, ih]

theorem readText_text (value : String) (rest : List Char) :
    readText ((text value).toList ++ rest) = some (value, rest) := by
  have opened : (text value).toList ++ rest =
      "\"".toList ++ (value.toList.flatMap escapedChar ++ '"' :: rest) := by
    simp [textChars]
  rw [opened]
  simp only [readText, skip_append, Option.bind_eq_bind, Option.bind_some,
    readEscaped_flatMap, String.ofList_toList, Option.pure_def]

/-! ## Terminals -/

/-- What stands behind the name of a kind in the literal of its placeholder. -/
def placeholderData : TokenKind → String
  | .identifier => "(\"\".to_owned())"
  | .integerNumber => "(0)"
  | .floatNumber => "(0f64)"
  | _ => ""

/-- The terminal whose kind is named by the longest word in front of the text.  Some names
of kinds begin with others. -/
def readTerminal (input : List Char) : Option (Terminal × List Char) := do
  let input ← skip "Type::" input
  let kind ← TokenKind.ofLiteralName? (String.ofList (input.takeWhile Char.isAlpha))
  let rest ← skip (placeholderData kind) (input.dropWhile Char.isAlpha)
  return (.ofKind kind, rest)

theorem literal_ofKind (kind : TokenKind) :
    (Terminal.ofKind kind).literal =
      .ok ("Type::" ++ kind.literalName ++ placeholderData kind) := by
  cases kind with
  | identifier | integerNumber | floatNumber => rfl
  | _ => exact congrArg Except.ok String.append_empty.symm

theorem ofLiteralName?_literalName (kind : TokenKind) :
    TokenKind.ofLiteralName? kind.literalName = some kind := by
  cases kind <;> rfl

theorem isAlpha_of_mem_literalName (kind : TokenKind) :
    ∀ character ∈ kind.literalName.toList, character.isAlpha = true := by
  rw [← List.all_eq_true]
  cases kind <;> rfl

theorem endsWord_placeholderData (kind : TokenKind) {rest : List Char}
    (ends : EndsWord rest) : EndsWord ((placeholderData kind).toList ++ rest) := by
  cases kind with
  | identifier | integerNumber | floatNumber => rfl
  | _ => exact ends

theorem EndsWord.dropWhile_eq {rest : List Char} (ends : EndsWord rest) :
    rest.dropWhile Char.isAlpha = rest := by
  have parts := List.takeWhile_append_dropWhile (p := Char.isAlpha) (l := rest)
  rwa [show rest.takeWhile Char.isAlpha = [] from ends, List.nil_append] at parts

/-- The symbol of a kind is read back where its name ends. -/
theorem reads_terminal (kind : TokenKind) :
    Reads readTerminal (.ofKind kind)
      ("Type::" ++ kind.literalName ++ placeholderData kind) := by
  intro rest ends
  have dataEnds := endsWord_placeholderData kind ends
  have letters := isAlpha_of_mem_literalName kind
  simp only [String.toList_append, List.append_assoc, readTerminal, skip_append,
    Option.bind_eq_bind, Option.bind_some, List.takeWhile_append_of_pos letters,
    List.dropWhile_append_of_pos letters, dataEnds.dropWhile_eq,
    show ((placeholderData kind).toList ++ rest).takeWhile Char.isAlpha = [] from dataEnds,
    List.append_nil, String.ofList_toList, ofLiteralName?_literalName, Option.pure_def]

theorem reads_registered {symbol : Terminal} (registered : symbol.IsRegistered) :
    ∃ written, symbol.literal = .ok written ∧ Reads readTerminal symbol written := by
  obtain ⟨kind, rfl⟩ := (Terminal.isRegistered_iff symbol).mp registered
  exact ⟨_, literal_ofKind kind, reads_terminal kind⟩

/-! ## Lists -/

/-- Items that each have a separator in front, as many as there are.  There are no more of
them than `bound`, which only serves the recursion. -/
def readMore {Item : Type} (read : Reader Item) (separator : String) :
    Nat → List Char → List Item × List Char
  | 0, input => ([], input)
  | bound + 1, input =>
    match (skip separator input).bind read with
    | none => ([], input)
    | some (item, next) =>
      let (items, rest) := readMore read separator bound next
      (item :: items, rest)

/-- Items with a separator between each two of them, as many as there are. -/
def readList {Item : Type} (read : Reader Item) (separator : String) (input : List Char) :
    List Item × List Char :=
  match read input with
  | none => ([], input)
  | some (item, next) =>
    let (items, rest) := readMore read separator next.length next
    (item :: items, rest)

/-- The form of a list: no item goes on into a separator or into what follows the list, and
what follows is not taken for a further item. -/
structure Delimits {Item : Type} (read : Reader Item) (separator : String)
    (ending : List Char) : Prop where
  separator_ends : ∀ tail, EndsWord (separator.toList ++ tail)
  ending_ends : EndsWord ending
  no_more : (skip separator ending).bind read = none

variable {Item : Type} {read : Reader Item} {separator : String} {ending : List Char}

theorem Delimits.separator_ne_nil (delimits : Delimits read separator ending) :
    separator.toList ≠ [] := by
  intro empty
  have letterEnds := delimits.separator_ends ['a']
  rw [empty] at letterEnds
  cases letterEnds

theorem Delimits.endsWord_flatMap (delimits : Delimits read separator ending)
    (texts : List String) :
    EndsWord (texts.flatMap (fun text => separator.toList ++ text.toList) ++ ending) := by
  cases texts with
  | nil => exact delimits.ending_ends
  | cons next texts =>
      rw [List.flatMap_cons, List.append_assoc, List.append_assoc]
      exact delimits.separator_ends _

theorem Delimits.length_le_flatMap (delimits : Delimits read separator ending)
    (texts : List String) :
    texts.length ≤
      (texts.flatMap (fun text => separator.toList ++ text.toList) ++ ending).length := by
  have positive := List.length_pos_iff.mpr delimits.separator_ne_nil
  induction texts with
  | nil => exact Nat.zero_le _
  | cons text texts ih =>
      simp only [List.flatMap_cons, List.append_assoc, List.length_append,
        List.length_cons] at ih ⊢
      omega

theorem readMore_flatMap (delimits : Delimits read separator ending)
    {items : List Item} {texts : List String} (all : List.Forall₂ (Reads read) items texts)
    {bound : Nat} (bounded : texts.length ≤ bound) :
    readMore read separator bound
        (texts.flatMap (fun text => separator.toList ++ text.toList) ++ ending) =
      (items, ending) := by
  induction all generalizing bound with
  | nil =>
      cases bound with
      | zero => rfl
      | succ bound => simp [readMore, delimits.no_more]
  | @cons item text items texts here others ih =>
      obtain ⟨bound, rfl⟩ := Nat.exists_eq_succ_of_ne_zero
        (Nat.ne_of_gt (Nat.lt_of_lt_of_le (Nat.succ_pos _) bounded))
      -- Whether another separator or the end follows, the item cannot go on into it.
      have itemRead := here _ (delimits.endsWord_flatMap texts)
      have othersRead := ih (Nat.le_of_succ_le_succ bounded)
      rw [List.flatMap_cons, List.append_assoc, List.append_assoc, readMore, skip_append,
        Option.bind_some, itemRead]
      simp only [othersRead]

/-- A list is read back if its items are, and if what follows is not taken for an item. -/
theorem readList_intercalate (delimits : Delimits read separator ending)
    (refuses : read ending = none) {items : List Item} {texts : List String}
    (all : List.Forall₂ (Reads read) items texts) :
    readList read separator ((separator.intercalate texts).toList ++ ending) =
      (items, ending) := by
  cases all with
  | nil => simp [readList, refuses]
  | @cons item text items texts here others =>
      have first := here _ (delimits.endsWord_flatMap texts)
      have more := readMore_flatMap delimits others (delimits.length_le_flatMap texts)
      rw [Text.toList_intercalate_cons, List.append_assoc, readList, first]
      simp only [more]

/-- The items of a vector have a literal, which is read back up to the bracket behind it, if
each item has one and no item begins with a bracket. -/
theorem readList_items {literal : Item → Except RenderError String} {items : List Item}
    (legible : ∀ item ∈ items, ∃ written, literal item = .ok written ∧
      Reads read item written)
    (refuses : ∀ rest, read (']' :: rest) = none) :
    ∃ written, Literal.items literal items = .ok written ∧ ∀ rest,
      readList read ", " (written.toList ++ ']' :: rest) = (items, ']' :: rest) := by
  obtain ⟨texts, traversed, all⟩ := exists_mapM_eq_ok legible
  refine ⟨", ".intercalate texts, by rw [Literal.items, traversed]; rfl, fun rest => ?_⟩
  have delimits : Delimits read ", " (']' :: rest) :=
    ⟨fun tail => rfl, rfl, rfl⟩
  exact readList_intercalate delimits (refuses rest) all

end GrammarTables.Literal
