import GrammarTables.Hostname.CodeClass
import GrammarTables.Hostname.Direction
import GrammarTables.Hostname.Punycode
import GrammarTables.Text.CodePoint
import GrammarTables.Text.Composition
import GrammarTables.Text.Quoted

/-!
# Labels

A host name is a row of labels.  A label is composed, has hyphens neither at its ends nor
where they would mark an encoded label, begins with no mark, holds code points of host
names where they are allowed, and keeps to the rules for directions.  An encoded label is
sound if what it stands for is.
-/

namespace GrammarTables.Hostname

/-- What is wrong with a label, or with the name it is part of. -/
inductive LabelProblem where
  | domainTooLong
  | tooLong
  | empty
  /-- Nothing follows the mark of an encoded label. -/
  | nothingEncoded
  /-- An encoded label has no digits. -/
  | noDigits
  | undecodable
  | notComposed
  | hyphensAsMark
  | outerHyphen
  | leadingMark
  | codePoint (code position : Nat) (label : List Nat)
  | joiner (code position : Nat) (label : List Nat)
  | context (code position : Nat) (label : List Nat)
  | direction (problem : DirectionProblem) (label : List Nat)
  deriving DecidableEq, Repr

/-- The quoted form of code points.  Halves of pairs are written as escapes. -/
def quotedCodes (codes : List Nat) : String :=
  let mark := Text.quoteMark (codes.map Char.ofNat)
  let quotedCode (code : Nat) : List Char :=
    if Text.isHalf code then Text.escapedCode code else Text.quotedChar mark (Char.ofNat code)
  String.ofList (mark :: codes.flatMap quotedCode ++ [mark])

/-- A code point with the least count of upper case digits, four or more. -/
def codeName (code : Nat) : String :=
  let digits := (Nat.toDigits 16 code).map Char.toUpper
  String.ofList ("U+".toList ++ List.replicate (4 - digits.length) '0' ++ digits)

def DirectionProblem.message (label : List Nat) : DirectionProblem → String
  | unknown position =>
    "Unknown directionality in label " ++ quotedCodes label ++ " at position " ++
      toString position
  | start =>
    "First codepoint in label " ++ quotedCodes label ++ " must be directionality L, R or AL"
  | misplaced position fromRight =>
    "Invalid direction for codepoint at position " ++ toString position ++ " in a " ++
      (if fromRight then "right-to-left" else "left-to-right") ++ " label"
  | mixedDigits => "Can not mix numeral types in a right-to-left label"
  | ending => "Label ends with illegal codepoint directionality"

def LabelProblem.message : LabelProblem → String
  | domainTooLong => "Domain too long"
  | tooLong => "Label too long"
  | empty => "Empty Label"
  | nothingEncoded => "Malformed A-label, no Punycode eligible content found"
  | noDigits => "A-label must not end with a hyphen"
  | undecodable => "Invalid A-label"
  | notComposed => "Label must be in Normalization Form C"
  | hyphensAsMark => "Label has disallowed hyphens in 3rd and 4th position"
  | outerHyphen => "Label must not start or end with a hyphen"
  | leadingMark => "Label begins with an illegal combining character"
  | codePoint code position label =>
    "Codepoint " ++ codeName code ++ " at position " ++ toString position ++ " of " ++
      quotedCodes label ++ " not allowed"
  | joiner code position label =>
    "Unknown codepoint adjacent to joiner " ++ codeName code ++ " at position " ++
      toString position ++ " in " ++ quotedCodes label
  | context code position label =>
    "Codepoint " ++ codeName code ++ " not allowed at position " ++ toString position ++
      " in " ++ quotedCodes label
  | direction problem label => problem.message label

namespace Label

def hyphen : Nat := '-'.toNat

/-- Whether a joiner may stand between code points; those before it are in reverse
order. -/
def joinerFits (before : List Nat) (code : Nat) (after : List Nat) : Bool :=
  before.head?.any (Text.markClass · == Text.viramaClass) ||
    (code == 0x200C && (before.dropWhile isTransparent).head?.any joinsNext &&
      (after.dropWhile isTransparent).head?.any joinsPrevious)

/-- Whether a code point may stand between others in a label; those before it are in
reverse order. -/
def contextFits (label before : List Nat) (code : Nat) (after : List Nat) : Bool :=
  let hasAny (range : Nat × Nat) : Bool := label.any (Text.isInRanges [range])
  if code == 0xB7 then before.head? == some 'l'.toNat && after.head? == some 'l'.toNat
  else if code == 0x375 then after.head?.any (Text.isInRanges greekRanges)
  else if code == 0x5F3 || code == 0x5F4 then
    before.head?.any (Text.isInRanges hebrewRanges)
  else if code == 0x30FB then label.any fun code => code != 0x30FB && isJapanese code
  else if Text.isInRanges [arabicDigits] code then !hasAny extendedDigits
  else !hasAny arabicDigits

/-- The first code point that may not stand where it is, from a place on; those before the
place are in reverse order. -/
def codeProblem? (label before : List Nat) : List Nat → Option LabelProblem
  | [] => none
  | code :: after =>
    let position := before.length + 1
    if isAllowed code then codeProblem? label (code :: before) after
    else if isJoiner code then
      if joinerFits before code after then codeProblem? label (code :: before) after
      else some (.joiner code position label)
    else if isContextual code then
      if contextFits label before code after then codeProblem? label (code :: before) after
      else some (.context code position label)
    else some (.codePoint code position label)

/-- The greatest count of code points of a name with a dot at its end. -/
def nameLimit : Nat := 254

/-- What is wrong with a label. -/
def problem? (label : List Nat) : Option LabelProblem :=
  if label.isEmpty then some .empty
  else if nameLimit < label.length then some .tooLong
  else if !Text.isComposed label then some .notComposed
  else if (label.drop 2).take 2 == [hyphen, hyphen] then some .hyphensAsMark
  else if label.head? == some hyphen || label.getLast? == some hyphen then some .outerHyphen
  else if label.head?.any Text.isMark then some .leadingMark
  else
    (codeProblem? label [] label).or
      ((Direction.problem? (label.map Direction.ofCode)).map (.direction · label))

/-- The mark of an encoded label. -/
def encodedMark : List Nat := "xn--".toList.map Char.toNat

/-- What is wrong with a label of plain code points, which may be encoded. -/
def plainProblem? (label : List Nat) : Option LabelProblem :=
  if encodedMark.isPrefixOf label then
    let encoded := label.drop encodedMark.length
    if encoded.isEmpty then some .nothingEncoded
    else if encoded.getLast? == some hyphen then some .noDigits
    else
      match Punycode.decode? encoded with
      | some decoded => problem? decoded
      | none => some .undecodable
  else problem? label

/-- The label as it is sent, if it is sound. -/
def encoded? (label : List Nat) : Option (List Nat) :=
  let isPlain := label.all (· < Punycode.firstCode)
  let encoded := if isPlain then label else encodedMark ++ Punycode.encode label
  let problem := if isPlain then plainProblem? label else problem? label
  if problem.isNone && encoded.length ≤ 63 then some encoded else none

end Label

end GrammarTables.Hostname
