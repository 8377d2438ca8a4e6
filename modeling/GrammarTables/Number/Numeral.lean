import GrammarTables.Number.Binary64
import GrammarTables.Text.Blank
import GrammarTables.Text.Digit

/-!
# Reading numerals

The text of a numeric payload is read as an integer or as a double precision number.
Blanks around the numeral are dropped, the digits may be of any script, and a single
underscore may stand between two digits.
-/

namespace GrammarTables.Numeral

open GrammarTables.Text

/-- Why a text is not an integer. -/
inductive IntegerError where
  | malformed
  | tooManyDigits (count : Nat)
  deriving DecidableEq, Repr

/-- The greatest count of digits an integer numeral may have. -/
def digitLimit : Nat := 4300

/-- A character as the numeral grammar sees it: a digit of another script as the plain
digit, a blank beyond the plain range as a space, and any other character beyond that
range as a character which no numeral holds. -/
def plainForm (character : Char) : Char :=
  if character.toNat < 0x7F then character
  else if isBlank character then ' '
  else
    match digitValue? character with
    | some value => Nat.digitChar value
    | none => '?'

/-- The blanks dropped around a numeral once it is in plain form. -/
def isPlainBlank (character : Char) : Bool :=
  character == ' ' || ('\t' ≤ character && character ≤ '\r')

/-- The plain form of a numeral without the blanks around it. -/
def plain (text : String) : List Char :=
  trimWhere isPlainBlank (text.toList.map plainForm)

def plainDigit? (character : Char) : Option Nat :=
  if character.isDigit then some (character.toNat - '0'.toNat) else none

/-- The value of a digit in a base of sixteen at most. -/
def digitInBase? (base : Nat) (character : Char) : Option Nat :=
  let lower := character.toLower
  let value? :=
    if lower.isDigit then some (lower.toNat - '0'.toNat)
    else if 'a' ≤ lower && lower ≤ 'f' then some (lower.toNat - 'a'.toNat + 10)
    else none
  value?.filter (· < base)

/-- The digits that follow a digit: each may have one underscore before it. -/
def laterDigits (digit? : Char → Option Nat) : List Char → Option (List Nat)
  | [] => some []
  | '_' :: character :: rest => do
    return (← digit? character) :: (← laterDigits digit? rest)
  | character :: rest => do return (← digit? character) :: (← laterDigits digit? rest)

/-- One or more digits with single underscores between them. -/
def groupedDigits (digit? : Char → Option Nat) : List Char → Option (List Nat)
  | [] => none
  | character :: rest => do return (← digit? character) :: (← laterDigits digit? rest)

/-- The number that decimal digits denote. -/
def value (digits : List Nat) : Nat :=
  digits.foldl (fun total digit => total * 10 + digit) 0

/-- The sign, and what follows it. -/
def splitSign : List Char → Bool × List Char
  | '-' :: rest => (true, rest)
  | '+' :: rest => (false, rest)
  | characters => (false, characters)

/-- Reads an integer.  The count of digits is checked before what follows them. -/
def readInt (text : String) : Except IntegerError Int :=
  let (negative, body) := splitSign (plain text)
  let isInside (character : Char) := character.isDigit || character == '_'
  match groupedDigits plainDigit? (body.takeWhile isInside) with
  | none => .error .malformed
  | some digits =>
    if digitLimit < digits.length then .error (.tooManyDigits digits.length)
    else if !(body.dropWhile isInside).isEmpty then .error .malformed
    else
      let magnitude : Int := (value digits : Nat)
      .ok (if negative then -magnitude else magnitude)

/-- Reads an integer in a base after a prefix of two characters.  One underscore may stand
after the prefix. -/
def readPrefixed (base : Nat) (text : String) : Option Int :=
  let body :=
    match (plain text).drop 2 with
    | '_' :: rest => rest
    | rest => rest
  (groupedDigits (digitInBase? base) body).map fun digits =>
    ((digits.foldl (fun total digit => total * base + digit) 0 : Nat) : Int)

/-- The characters without the underscores, if each underscore stands between digits. -/
def withoutUnderscores (previous : Char) : List Char → Option (List Char)
  | [] => if previous == '_' then none else some []
  | character :: rest =>
    if character == '_' then
      if previous.isDigit then withoutUnderscores '_' rest else none
    else if previous == '_' && !character.isDigit then none
    else (withoutUnderscores character rest).map (character :: ·)

/-- The digits of a fixed point numeral and how many of them follow the point, with the
rest of the text.  There must be a digit on one side of the point at least. -/
def readFixed (characters : List Char) : Option (Nat × Nat × List Char) :=
  let whole := characters.takeWhile Char.isDigit
  let (fraction, rest) :=
    match characters.dropWhile Char.isDigit with
    | '.' :: rest => (rest.takeWhile Char.isDigit, rest.dropWhile Char.isDigit)
    | rest => ([], rest)
  let digits := (whole ++ fraction).filterMap plainDigit?
  if digits.isEmpty then none else some (value digits, fraction.length, rest)

/-- The exponent at the end of a numeral; nothing at all counts as zero. -/
def readExponent : List Char → Option Int
  | [] => some 0
  | mark :: rest =>
    if mark == 'e' || mark == 'E' then
      let (negative, digits) := splitSign rest
      if digits.isEmpty || !digits.all Char.isDigit then none
      else
        let magnitude : Int := (value (digits.filterMap plainDigit?) : Nat)
        some (if negative then -magnitude else magnitude)
    else none

/-- Reads an unsigned real numeral, or the name of a value that is not finite. -/
def readMagnitude (negative : Bool) (characters : List Char) : Option Binary64 :=
  let lower := characters.map Char.toLower
  if lower == "inf".toList || lower == "infinity".toList then some (.infinite negative)
  else if lower == "nan".toList then some .undefined
  else do
    let (coefficient, fractionLength, rest) ← readFixed characters
    let exponent ← readExponent rest
    return .ofDecimal negative coefficient (exponent - fractionLength)

def readReal? (text : String) : Option Binary64 := do
  let characters ← withoutUnderscores ' ' (plain text)
  let (negative, body) := splitSign characters
  readMagnitude negative body

end GrammarTables.Numeral
