import GrammarTables.Markup.Token
import GrammarTables.Number.Numeral

/-!
# Parts of selectors

A selector is written as a row of parts: names of types, classes and identifiers, and the
signs that combine the conditions on one element with those on another.  Blanks and
comments count as one sign if no other sign is near.  A name may write any character as an
escape.  The readers here take a part at the front and say how many characters it takes.
-/

namespace GrammarTables.Markup.Selector

inductive Part where
  /-- A type, or the asterisk that stands for every type. -/
  | typeName (name : String)
  /-- A type in a namespace. -/
  | spacedType
  | className (name : String)
  | identifier (name : String)
  /-- A sign between the conditions on two elements. -/
  | combinator (sign : Char)
  /-- A named state of an element, perhaps with an opening parenthesis. -/
  | pseudoClass (name : String) (opens : Bool)
  /-- A state of an element under a name that has to be defined by a user. -/
  | customClass (name : String)
  | pseudoElement
  | atRule
  | closing
  /-- A sound part of a kind that does not pick elements here. -/
  | other
  deriving DecidableEq, Repr

/-! ## Gaps -/

/-- The count of characters of the blank at the front; two characters may be one end of a
line. -/
def blankLength : List Char → Nat
  | '\r' :: '\n' :: _ => 2
  | character :: _ => if isTagBlank character then 1 else 0
  | [] => 0

/-- The count of characters to the end of a comment, if it ends. -/
def commentEnd? : List Char → Option Nat
  | '*' :: '/' :: _ => some 2
  | _ :: rest => (commentEnd? rest).map (· + 1)
  | [] => none

/-- The count of characters of the comment at the front. -/
def commentLength : List Char → Nat
  | '/' :: '*' :: rest => ((commentEnd? rest).map (· + 2)).getD 0
  | _ => 0

/-- The count of characters of what is at the front over and over, given the count of its
first occurrence. -/
def repeatedLength (length : List Char → Nat) (characters : List Char) : Nat :=
  if 0 < length characters && !characters.isEmpty then
    length characters + repeatedLength length (characters.drop (length characters))
  else 0
termination_by characters.length
decreasing_by
  rename_i found
  simp only [Bool.and_eq_true, decide_eq_true_eq, Bool.not_eq_true', List.isEmpty_eq_false_iff]
    at found
  have := List.length_pos_iff.mpr found.2
  simp only [List.length_drop]
  omega

/-- The count of characters of the blanks and comments at the front. -/
def gapLength : List Char → Nat :=
  repeatedLength fun characters => blankLength characters + commentLength characters

/-- The count of characters in front of the blanks and comments at the end. -/
def bodyLength : List Char → Nat
  | [] => 0
  | character :: rest =>
    if gapLength (character :: rest) = rest.length + 1 then 0 else bodyLength rest + 1

/-! ## Names -/

/-- Whether a character may begin a name. -/
def isNameStart (character : Char) : Bool :=
  character.isAlpha || character == '_' || 0xA0 ≤ character.toNat

/-- Whether a character may stand in a name. -/
def isNameChar (character : Char) : Bool :=
  isNameStart character || character.isDigit || character == '-'

/-- The character of a code point that is written as an escape.  The replacement character
stands for all that are none. -/
def escapedChar (code : Nat) : Char :=
  if code = 0 || !code.isValidChar then '\uFFFD' else Char.ofNat code

/-- The character that an escape stands for, and the count of characters that it takes,
after its backslash.  One blank after hexadecimal digits belongs to the escape.  A
backslash at the end of the text, or in front of a line feed there, stands for the
replacement character. -/
def readEscape? (characters : List Char) : Option (Char × Nat) :=
  let digits := (characters.takeWhile (Numeral.digitInBase? 16 · |>.isSome)).take 6
  let value := digits.foldl
    (fun total digit => total * 16 + (Numeral.digitInBase? 16 digit).getD 0) 0
  match characters with
  | [] | ['\n'] => some ('\uFFFD', 0)
  | character :: _ =>
    if !digits.isEmpty then
      some (escapedChar value,
        digits.length + blankLength (characters.drop digits.length))
    else if ['\r', '\n', '\x0c'].contains character then none
    else some (character, 1)

/-- The characters of the name at the front, after some characters of an escape to pass
over, and the count of characters up to its end. -/
def nameAfter : Nat → List Char → List Char × Nat
  | _, [] => ([], 0)
  | passed + 1, _ :: rest =>
    let (name, count) := nameAfter passed rest
    (name, count + 1)
  | 0, character :: rest =>
    match character, readEscape? rest with
    | '\\', some (escaped, passed) =>
      let (name, count) := nameAfter passed rest
      (escaped :: name, count + 1)
    | _, _ =>
      if isNameChar character then
        let (name, count) := nameAfter 0 rest
        (character :: name, count + 1)
      else ([], 0)

/-- Whether the character at the front, written as itself or as an escape, may begin a
name. -/
def beginsWord : List Char → Bool
  | '\\' :: rest => (readEscape? rest).isSome
  | character :: _ => isNameStart character
  | [] => false

/-- Reads the name at the front.  It may begin with a hyphen before a letter, or with two
hyphens. -/
def readName? (characters : List Char) : Option (String × Nat) :=
  let begins :=
    match characters with
    | '-' :: '-' :: _ => true
    | '-' :: rest => beginsWord rest
    | _ => beginsWord characters
  if begins then
    let (name, count) := nameAfter 0 characters
    some (String.ofList name, count)
  else none

/-- Reads the name at the front, or the asterisk that stands for every name. -/
def readAnyName? : List Char → Option (String × Nat)
  | '*' :: _ => some ("*", 1)
  | characters => readName? characters

/-! ## Parts -/

/-- Reads a type, which the name of a namespace and a bar may precede. -/
def readType? (characters : List Char) : Option (Part × Nat) :=
  let space := ((readAnyName? characters).map Prod.snd).getD 0
  match characters.drop space, readAnyName? (characters.drop (space + 1)) with
  | '|' :: _, some (_, count) => some (.spacedType, space + 1 + count)
  | _, _ => (readAnyName? characters).map fun (name, count) => (.typeName name, count)

/-- The signs that combine conditions, apart from the blank. -/
def signs : List Char := [',', '+', '>', '~']

/-- Reads a sign with the gap around it. -/
def readCombinator? (characters : List Char) : Option (Part × Nat) :=
  let comments := repeatedLength commentLength characters
  let blank := blankLength (characters.drop comments)
  let front := comments + blank
  let after := characters.drop front
  match after with
  | sign :: rest =>
    if signs.contains sign then some (.combinator sign, front + 1 + gapLength rest)
    else if 0 < blank then some (.combinator ' ', front + gapLength after)
    else none
  | [] => if 0 < blank then some (.combinator ' ', front) else none

/-- The count of characters of the text in quotation marks at the front, without its
opening mark. -/
def quotedLength? (mark : Char) : List Char → Option Nat
  | [] => none
  | '\\' :: '\r' :: '\n' :: rest => (quotedLength? mark rest).map (· + 3)
  | '\\' :: _ :: rest => (quotedLength? mark rest).map (· + 2)
  | character :: rest =>
    if character == mark then some 1
    else if ['\\', '\r', '\n', '\x0c'].contains character then none
    else (quotedLength? mark rest).map (· + 1)

/-- The count of characters of the value at the front that an attribute is compared with. -/
def valueLength? : List Char → Option Nat
  | '"' :: rest => (quotedLength? '"' rest).map (· + 1)
  | '\'' :: rest => (quotedLength? '\'' rest).map (· + 1)
  | characters => (readName? characters).map Prod.snd

/-- The count of characters that compare an attribute with a value, up to the value. -/
def comparisonLength? : List Char → Option Nat
  | '=' :: _ => some 1
  | sign :: '=' :: _ => if "!~^|*$".toList.contains sign then some 2 else none
  | _ => none

/-- What is left after the gap at the front. -/
def afterGap (characters : List Char) : List Char := characters.drop (gapLength characters)

/-- What is left after the name of an attribute, which the name of a namespace and a bar
may precede. -/
def afterAttributeName? (characters : List Char) : Option (List Char) :=
  let space := ((readAnyName? characters).map Prod.snd).getD 0
  match characters.drop space, readName? (characters.drop (space + 1)) with
  | '|' :: rest, some (_, count) => some (rest.drop count)
  | _, _ => (readName? characters).map fun (_, count) => characters.drop count

/-- What is left after a condition on an attribute, whose opening bracket has been read. -/
def afterAttribute? (characters : List Char) : Option (List Char) := do
  let rest := afterGap (← afterAttributeName? (afterGap characters))
  let rest ← match comparisonLength? rest with
    | none => pure rest
    | some length => do
      let value := afterGap (rest.drop length)
      let rest := afterGap (value.drop (← valueLength? value))
      match rest with
      | letter :: tail =>
        pure (if ['i', 's', 'I', 'S'].contains letter then afterGap tail else rest)
      | [] => none
  match rest with
  | ']' :: rest => return rest
  | _ => none

/-- Reads a name after a mark of some characters. -/
def readMarked? (mark : Nat) (part : String → Part) (characters : List Char) :
    Option (Part × Nat) :=
  (readName? (characters.drop mark)).map fun (name, count) => (part name, mark + count)

/-- Reads a named state of an element.  An opening parenthesis may follow its name. -/
def readPseudoClass? (characters : List Char) : Option (Part × Nat) := do
  let (name, count) ← readName? (characters.drop 1)
  let name := String.ofList (name.toList.map Char.toLower)
  if "--".toList.isPrefixOf (characters.drop 1) then return (.customClass name, count + 1)
  else return (.pseudoClass name ((characters.drop (count + 1)).head? == some '('), count + 1)

/-- Reads the part at the front. -/
def readPart? (characters : List Char) : Option (Part × Nat) :=
  let gap := gapLength characters
  if (characters.drop gap).head? == some ')' then some (.closing, gap + 1)
  else
    match characters with
    | ':' :: ':' :: _ => readMarked? 2 (fun _ => .pseudoElement) characters
    | ':' :: _ => readPseudoClass? characters
    | '&' :: _ => some (.other, 1)
    | '@' :: letter :: _ =>
      if letter == 'p' || letter == 'P' then readMarked? 2 (fun _ => .atRule) characters
      else none
    | '#' :: _ => readMarked? 1 .identifier characters
    | '.' :: _ => readMarked? 1 .className characters
    | '[' :: rest =>
      (afterAttribute? rest).map fun after => (.other, characters.length - after.length)
    | _ => (readType? characters).or (readCombinator? characters)

end GrammarTables.Markup.Selector
