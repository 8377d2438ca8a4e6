import GrammarTables.Markup.Selector
import GrammarTables.Markup.Selector.Part
import GrammarTables.Text.Quoted

/-!
# Reading selectors

A selector is read part by part, from the outermost element to the one that it picks.  The
first part that is none, or that stands where it must not, is reported with its place in
the text.  Selectors that are sound but pick elements by other means than their type,
classes, identifiers and what they are inside of are not supported.
-/

namespace GrammarTables.Markup.Selector

/-- What is wrong in the text of a selector. -/
inductive Problem where
  | malformedAttribute
  | malformedClass
  | malformedIdentifier
  | malformedPseudoClass
  | invalidCharacter (character : Char)
  /-- There are no conditions on an element. -/
  | missingConditions
  /-- There are no conditions in front of a sign. -/
  | leadingCombinator (sign : Char)
  /-- A type comes after other conditions on the same element. -/
  | trailingType
  | unmatchedClosing
  | unknownPseudoClass (name : String)
  | misusedPseudoClass (name : String)
  | undefinedCustomClass (name : String)
  deriving DecidableEq, Repr

/-- A problem in words, given its position. -/
def Problem.message (position : Nat) : Problem → String
  | malformedAttribute => "Malformed attribute selector at position " ++ toString position
  | malformedClass => "Malformed class selector at position " ++ toString position
  | malformedIdentifier => "Malformed id selector at position " ++ toString position
  | malformedPseudoClass => "Malformed pseudo-class selector at position " ++ toString position
  | invalidCharacter character =>
    "Invalid character " ++ Text.quoted (String.singleton character) ++ " position " ++
      toString position
  | missingConditions => "Expected a selector at position " ++ toString position
  | leadingCombinator sign =>
    "The combinator '" ++ String.singleton sign ++ "' at position " ++ toString position ++
      ", must have a selector before it"
  | trailingType =>
    "Tag name found at position " ++ toString position ++ " instead of at the start"
  | unmatchedClosing => "Unmatched pseudo-class close at position " ++ toString position
  | unknownPseudoClass name =>
    "':" ++ name ++ "' was detected as a pseudo-class and is either unsupported or invalid. " ++
      "If the syntax was not intended to be recognized as a pseudo-class, please escape " ++
      "the colon."
  | misusedPseudoClass name => "Invalid syntax for pseudo class ':" ++ name ++ "'"
  | undefinedCustomClass name =>
    "Undefined custom selector ':" ++ name ++ "' found at position " ++ toString position

structure SyntaxError where
  source : List Char
  problem : Problem
  position : Nat
  deriving DecidableEq, Repr

namespace SyntaxError

/-- The lines of a text, each with the count of characters that end it. -/
def lines : List Char → List (List Char × Nat)
  | [] => [([], 0)]
  | '\r' :: '\n' :: rest => ([], 2) :: lines rest
  | character :: rest =>
    if character == '\n' || character == '\r' then ([], 1) :: lines rest
    else
      match lines rest with
      | (line, ending) :: more => (character :: line, ending) :: more
      | [] => [([character], 0)]

/-- A mark below the character that some characters precede. -/
def caret (before : Nat) : List Char := List.replicate before ' ' ++ ['^']

/-- The lines with an arrow in front of the one that has the position, and a mark below it.
The first line starts at `start`. -/
def pointed (position : Nat) : Nat → List (List Char × Nat) → List (List Char)
  | _, [] => []
  | start, (line, ending) :: rest =>
    let stop := start + line.length + ending
    let after := pointed position stop rest
    if start ≤ position && position < stop then
      let column := position - start + if start + line.length < position then 3 else 4
      ("--> ".toList ++ line) :: caret column :: after
    else ("    ".toList ++ line) :: after

/-- The number of the line that has the position, counted from `number`, if a line has
it. -/
def lineNumber? (position : Nat) : Nat → Nat → List (List Char × Nat) → Option Nat
  | _, _, [] => none
  | number, start, (line, ending) :: rest =>
    let stop := start + line.length + ending
    if start ≤ position && position < stop then some number
    else lineNumber? position (number + 1) stop rest

/-- The text with the position marked. -/
def context (error : SyntaxError) : List (List Char) :=
  match lines error.source with
  | [(line, _)] => [line, caret error.position]
  | all => pointed error.position 0 all

/-- The error in words, above the text with the position marked. -/
def message (error : SyntaxError) : String :=
  let number := (lineNumber? error.position 1 0 (lines error.source)).getD 1
  error.problem.message error.position ++ "\n  line " ++ toString number ++ ":\n" ++
    String.ofList (['\n'].intercalate error.context)

end SyntaxError

/-- Why the text of a selector gives none. -/
inductive Unread where
  | invalid (error : SyntaxError)
  | pseudoElement (position : Nat)
  | atRule (position : Nat)
  /-- The text is sound, but the selector picks elements by other means. -/
  | unsupported
  deriving DecidableEq, Repr

def Unread.message : Unread → String
  | invalid error => error.message
  | pseudoElement position => "Pseudo-element found at position " ++ toString position
  | atRule position => "At-rules found at position " ++ toString position
  | unsupported => "Unsupported selector"

/-- The known states of elements that are written without parentheses. -/
def plainPseudoClasses : List String :=
  ["active", "any-link", "autofill", "checked", "current", "default", "defined", "disabled",
   "empty", "enabled", "first-child", "first-of-type", "focus", "focus-visible",
   "focus-within", "future", "host", "hover", "in-range", "indeterminate", "last-child",
   "last-of-type", "link", "local-link", "muted", "only-child", "only-of-type", "open",
   "optional", "out-of-range", "past", "paused", "placeholder-shown", "playing", "read-only",
   "read-write", "required", "root", "scope", "target", "target-within", "user-invalid",
   "visited"]

/-- The known states of elements that are written with parentheses. -/
def openPseudoClasses : List String :=
  ["-soup-contains", "-soup-contains-own", "contains", "current", "dir", "has", "host",
   "host-context", "is", "lang", "matches", "not", "nth-child", "nth-last-child",
   "nth-last-of-type", "nth-of-type", "where"]

/-- A selector of which some parts have been read. -/
structure Draft where
  /-- The conditions on the last element, if there are any. -/
  subject : Option Compound
  /-- The conditions on the elements around it. -/
  context : List (Combinator × Compound)
  /-- Whether all parts are of kinds that are supported. -/
  supported : Bool
  deriving DecidableEq, Repr

namespace Draft

/-- No part has been read. -/
def empty : Draft := ⟨none, [], true⟩

/-- Adds a condition on the last element. -/
def require (draft : Draft) (change : Compound → Compound) : Draft :=
  { draft with subject := some (change (draft.subject.getD ⟨none, [], []⟩)) }

/-- Adds a condition that is not supported. -/
def requireOther (draft : Draft) : Draft := { draft.require id with supported := false }

/-- Goes on to another element, given the conditions on the last one. -/
def combine (draft : Draft) (subject : Compound) (sign : Char) : Draft :=
  match sign with
  | ' ' => { draft with subject := none, context := (.descendant, subject) :: draft.context }
  | '>' => { draft with subject := none, context := (.child, subject) :: draft.context }
  | _ => ⟨none, [], false⟩

def addType (draft : Draft) (name : String) : Draft :=
  let type := if name == "*" then none else some (String.ofList (name.toList.map Char.toLower))
  draft.require fun compound => { compound with type }

/-- Adds a part that stands from `start` to `stop` in a text.  The part before it ends at
`before`. -/
def add (source : List Char) (draft : Draft) (before start stop : Nat) (part : Part) :
    Except Unread Draft :=
  let fail (problem : Problem) (position : Nat) : Except Unread Draft :=
    .error (.invalid ⟨source, problem, position⟩)
  match part with
  | .typeName name =>
    if draft.subject.isSome then fail .trailingType start else .ok (draft.addType name)
  | .spacedType =>
    if draft.subject.isSome then fail .trailingType start else .ok draft.requireOther
  | .className name =>
    .ok (draft.require fun compound =>
      { compound with classes := compound.classes ++ [name] })
  | .identifier name =>
    .ok (draft.require fun compound =>
      { compound with identifiers := compound.identifiers ++ [name] })
  | .combinator sign =>
    match draft.subject with
    | some subject => .ok (draft.combine subject sign)
    | none => fail (.leadingCombinator sign) before
  | .pseudoClass name opens =>
    if (if opens then openPseudoClasses else plainPseudoClasses).contains name then
      if opens then .error .unsupported else .ok draft.requireOther
    else if (plainPseudoClasses ++ openPseudoClasses).contains name then
      fail (.misusedPseudoClass name) start
    else fail (.unknownPseudoClass name) start
  | .customClass name => fail (.undefinedCustomClass name) stop
  | .pseudoElement => .error (.pseudoElement start)
  | .atRule => .error (.atRule start)
  | .closing =>
    fail (if draft.subject.isSome then .unmatchedClosing else .missingConditions) start
  | .other => .ok draft.requireOther

/-- The selector of all parts of a text, the last of which ends at `before`. -/
def finish (text : String) (source : List Char) (draft : Draft) (before : Nat) :
    Except Unread Selector :=
  match draft.subject, draft.supported with
  | none, _ => .error (.invalid ⟨source, .missingConditions, before⟩)
  | some _, false => .error .unsupported
  | some subject, true => .ok ⟨text, subject, draft.context⟩

end Draft

/-- What is wrong where no part begins, given the character that is there. -/
def Problem.ofCharacter (character : Char) : Problem :=
  if character == '[' then malformedAttribute
  else if character == '.' then malformedClass
  else if character == '#' then malformedIdentifier
  else if character == ':' then malformedPseudoClass
  else invalidCharacter character

/-- Reads the parts of a text from the position `start` to the position `stop`.  The part
before them ends at `before`, and fuel is the count of characters left. -/
def readParts (source : List Char) (stop : Nat) :
    Nat → Draft → Nat → Nat → Except Unread (Draft × Nat)
  | 0, draft, before, _ => .ok (draft, before)
  | fuel + 1, draft, before, start =>
    match if start < stop then source.drop start else [] with
    | [] => .ok (draft, before)
    | character :: rest =>
      match readPart? (character :: rest) with
      | none => .error (.invalid ⟨source, .ofCharacter character, start⟩)
      | some (part, count) => do
        let after := start + count
        readParts source stop fuel (← draft.add source before start after part) after after

/-- Reads a selector.  The character zero stands for the replacement character, and the
gaps at both ends do not count. -/
def read (text : String) : Except Unread Selector := do
  let source := text.toList.map fun character =>
    if character == '\x00' then '\uFFFD' else character
  let (draft, before) ←
    readParts source (bodyLength source) source.length .empty 0 (gapLength source)
  draft.finish text source before

end GrammarTables.Markup.Selector
