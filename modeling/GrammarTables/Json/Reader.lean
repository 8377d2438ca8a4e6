import GrammarTables.Json.Value
import GrammarTables.Number.Numeral
import GrammarTables.OrderedMap
import GrammarTables.Text.CodePoint

/-!
# Reading JSON

A reader for JSON texts that reports the first error with its position, counted in code
points from zero.  Beyond the standard it knows the names of the numbers that are not
finite.  Of members with the same name the last one counts.  Integers of too many digits
and values nested too deeply are sound but not read.
-/

namespace GrammarTables.Json

open Text (CodePoint)

/-- What is wrong at a place in a JSON text. -/
inductive Problem where
  | expectingValue
  | expectingName
  | expectingColon
  | expectingComma
  | unterminatedText
  | controlCharacter
  | invalidEscape
  | invalidCodeEscape
  | extraData
  /-- An integer has more digits than are read. -/
  | tooManyDigits
  /-- More arrays and objects are inside each other than are read. -/
  | tooDeep
  deriving DecidableEq, Repr

def Problem.message : Problem → String
  | expectingValue => "Expecting value"
  | expectingName => "Expecting property name enclosed in double quotes"
  | expectingColon => "Expecting ':' delimiter"
  | expectingComma => "Expecting ',' delimiter"
  | unterminatedText => "Unterminated string starting at"
  | controlCharacter => "Invalid control character at"
  | invalidEscape => "Invalid \\escape"
  | invalidCodeEscape => "Invalid \\uXXXX escape"
  | extraData => "Extra data"
  | tooManyDigits => "Too many digits"
  | tooDeep => "Too deeply nested"

/-- Whether the text may be sound JSON that is beyond what is read. -/
def Problem.isLimit : Problem → Bool
  | tooManyDigits | tooDeep => true
  | _ => false

structure SyntaxError where
  problem : Problem
  position : Nat
  deriving DecidableEq, Repr

/-- A place in a text: how many code points are in front of it, and what follows. -/
structure Cursor where
  position : Nat
  rest : List CodePoint

namespace Cursor

/-- The place some code points further on. -/
def advance (cursor : Cursor) (count : Nat) : Cursor :=
  ⟨cursor.position + count, cursor.rest.drop count⟩

/-- A problem at this place. -/
def fail {Result : Type} (cursor : Cursor) (problem : Problem) : Except SyntaxError Result :=
  .error ⟨problem, cursor.position⟩

/-- Whether a character may stand between the parts of a JSON text. -/
def isSpace (character : Char) : Bool :=
  character == ' ' || character == '\t' || character == '\n' || character == '\r'

/-- The next place that is not a space. -/
def skipSpace (cursor : Cursor) : Cursor :=
  cursor.advance (CodePoint.charsWhile isSpace cursor.rest).length

/-- The place after a word, if the word stands here. -/
def after? (cursor : Cursor) (word : String) : Option Cursor :=
  if (CodePoint.ofText word).isPrefixOf cursor.rest then
    some (cursor.advance word.length)
  else none

end Cursor

def hexValue? (character : Char) : Option Nat := Numeral.digitInBase? 16 character

/-- The number that four hexadecimal digits at the front denote. -/
def fourDigits? (points : List CodePoint) : Option Nat := do
  match points with
  | .char a :: .char b :: .char c :: .char d :: _ =>
    return (((← hexValue? a) * 16 + (← hexValue? b)) * 16 + (← hexValue? c)) * 16 +
      (← hexValue? d)
  | _ => none

/-- The character that a letter after a backslash stands for. -/
def escapes : List (Char × Char) :=
  [('"', '"'), ('\\', '\\'), ('/', '/'), ('b', '\x08'), ('f', '\x0c'), ('n', '\n'),
   ('r', '\r'), ('t', '\t')]

/-- The character that a code point after a backslash stands for. -/
def escaped? : CodePoint → Option Char
  | .char letter => escapes.lookup letter
  | .half .. => none

/-- The code point that an escape writes with its four digits, and the count of code
points that the escape takes after its first six: the upper half of a pair may be followed by
an escape of the lower half. -/
def escapedCode (code : Nat) (rest : List CodePoint) : Nat × Nat :=
  let isUpper := 0xD800 ≤ code && code < 0xDC00
  match isUpper, rest with
  | true, .char '\\' :: .char 'u' :: tail =>
    match fourDigits? tail, tail.drop 4 with
    | some lower, _ :: _ =>
      if 0xDC00 ≤ lower && lower < 0xE000 then
        (0x10000 + (code - 0xD800) * 0x400 + (lower - 0xDC00), 6)
      else (code, 0)
    | _, _ => (code, 0)
  | _, _ => (code, 0)

/-- Reads a text after its opening quote, which stands at `start`.  The code points read
so far are in reverse order; fuel is the count of code
points left. -/
def readTextFrom (start : Nat) : Nat → List Nat → Cursor →
    Except SyntaxError (CodeText × Cursor)
  | 0, _, _ => .error ⟨.unterminatedText, start⟩
  | fuel + 1, read, cursor =>
    match cursor.rest with
    | [] => .error ⟨.unterminatedText, start⟩
    | .char '"' :: _ => .ok (.ofCodes read.reverse, cursor.advance 1)
    | .char '\\' :: [] => .error ⟨.unterminatedText, start⟩
    | .char '\\' :: .char 'u' :: tail =>
      match fourDigits? tail, tail.drop 4 with
      | some code, rest@(_ :: _) =>
        let (code, more) := escapedCode code rest
        readTextFrom start fuel (code :: read) (cursor.advance (6 + more))
      | _, _ => .error ⟨.invalidCodeEscape, cursor.position + 1⟩
    | .char '\\' :: letter :: _ =>
      match escaped? letter with
      | some character => readTextFrom start fuel (character.toNat :: read) (cursor.advance 2)
      | none => cursor.fail .invalidEscape
    | point :: _ =>
      if point.toNat < 0x20 then cursor.fail .controlCharacter
      else readTextFrom start fuel (point.toNat :: read) (cursor.advance 1)

/-- Reads a text whose opening quote stands here. -/
def readText (cursor : Cursor) : Except SyntaxError (CodeText × Cursor) :=
  readTextFrom cursor.position (cursor.rest.length + 1) [] (cursor.advance 1)

/-- Splits off the digits at the front. -/
def spanDigits (characters : List Char) : List Char × List Char :=
  (characters.takeWhile Char.isDigit, characters.dropWhile Char.isDigit)

/-- The digits of an exponent with its mark and sign, if one stands at the front. -/
def spanExponent : List Char → List Char
  | mark :: rest =>
    if mark == 'e' || mark == 'E' then
      let (sign, digits) :=
        match rest with
        | '+' :: tail => (['+'], tail)
        | '-' :: tail => (['-'], tail)
        | tail => ([], tail)
      let digits := (spanDigits digits).1
      if digits.isEmpty then [] else mark :: sign ++ digits
    else []
  | [] => []

/-- The characters that numbers are written with. -/
def isNumberChar (character : Char) : Bool :=
  character.isDigit || ['+', '-', '.', 'e', 'E'].contains character

/-- Reads a number.  Its whole part is a zero, or digits that begin with another one. -/
def readNumber (cursor : Cursor) : Except SyntaxError (Json × Cursor) :=
  let (sign, unsigned) :=
    match CodePoint.charsWhile isNumberChar cursor.rest with
    | '-' :: tail => (['-'], tail)
    | tail => ([], tail)
  let whole :=
    match unsigned with
    | '0' :: _ => ['0']
    | _ => (spanDigits unsigned).1
  let afterWhole := unsigned.drop whole.length
  let fraction :=
    match afterWhole with
    | '.' :: tail =>
      let digits := (spanDigits tail).1
      if digits.isEmpty then [] else '.' :: digits
    | _ => []
  let exponent := spanExponent (afterWhole.drop fraction.length)
  let numeral := sign ++ whole ++ fraction ++ exponent
  let next := cursor.advance numeral.length
  if whole.isEmpty then cursor.fail .expectingValue
  else if fraction.isEmpty && exponent.isEmpty then
    match Numeral.readInt (String.ofList numeral) with
    | .ok value => .ok (.integer value, next)
    | .error _ => cursor.fail .tooManyDigits
  else
    match Numeral.readReal? (String.ofList numeral) with
    | some value => .ok (.real value, next)
    | none => cursor.fail .expectingValue

/-- The values that are written as words. -/
def words : List (String × Json) :=
  [("null", .null), ("true", .boolean true), ("false", .boolean false),
   ("NaN", .real .undefined), ("Infinity", .real (.infinite false)),
   ("-Infinity", .real (.infinite true))]

/-- The value of the word that stands here, if one does. -/
def readWord? (cursor : Cursor) : Option (Json × Cursor) :=
  words.findSome? fun word => (cursor.after? word.1).map fun next => (word.2, next)

/-- How many arrays and objects may be inside each other. -/
def nestingLimit : Nat := 956

mutual

/-- Reads a value.  Fuel bounds the depth of calls; twice the count of code
points suffices.  The room is how many more arrays and objects may be inside each other. -/
def readValue : Nat → Nat → Cursor → Except SyntaxError (Json × Cursor)
  | 0, _, cursor => cursor.fail .expectingValue
  | fuel + 1, room, cursor =>
    match cursor.rest, room with
    | .char '"' :: _, _ => (readText cursor).map fun (content, next) => (.text content, next)
    | .char '{' :: _, 0 | .char '[' :: _, 0 => cursor.fail .tooDeep
    | .char '{' :: _, room + 1 =>
      let inside := (cursor.advance 1).skipSpace
      match inside.rest with
      | .char '}' :: _ => .ok (.object [], inside.advance 1)
      | _ => readMembers fuel room [] inside
    | .char '[' :: _, room + 1 =>
      let inside := (cursor.advance 1).skipSpace
      match inside.rest with
      | .char ']' :: _ => .ok (.array [], inside.advance 1)
      | _ => readItems fuel room [] inside
    | _, _ =>
      match readWord? cursor with
      | some result => .ok result
      | none => readNumber cursor

/-- Reads the members of an object from a name on; those read so far are in reverse. -/
def readMembers : Nat → Nat → List (CodeText × Json) → Cursor →
    Except SyntaxError (Json × Cursor)
  | 0, _, _, cursor => cursor.fail .expectingName
  | fuel + 1, room, read, cursor =>
    match cursor.rest with
    | .char '"' :: _ => do
      let (name, afterName) ← readText cursor
      let colon := afterName.skipSpace
      match colon.rest with
      | .char ':' :: _ =>
        let (value, afterValue) ← readValue fuel room (colon.advance 1).skipSpace
        let next := afterValue.skipSpace
        let read := (name, value) :: read
        match next.rest with
        | .char '}' :: _ => .ok (.object (OrderedMap.ofList read.reverse).toList, next.advance 1)
        | .char ',' :: _ => readMembers fuel room read (next.advance 1).skipSpace
        | _ => next.fail .expectingComma
      | _ => colon.fail .expectingColon
    | _ => cursor.fail .expectingName

/-- Reads the items of an array from a value on; those read so far are in reverse. -/
def readItems : Nat → Nat → List Json → Cursor → Except SyntaxError (Json × Cursor)
  | 0, _, _, cursor => cursor.fail .expectingValue
  | fuel + 1, room, read, cursor => do
    let (value, afterValue) ← readValue fuel room cursor
    let next := afterValue.skipSpace
    let read := value :: read
    match next.rest with
    | .char ']' :: _ => .ok (.array read.reverse, next.advance 1)
    | .char ',' :: _ => readItems fuel room read (next.advance 1).skipSpace
    | _ => next.fail .expectingComma

end

/-- Reads code points that are one JSON value. -/
def parsePoints (points : List CodePoint) : Except SyntaxError Json := do
  let start : Cursor := ⟨0, points⟩
  let (value, next) ← readValue (2 * points.length + 2) nestingLimit start.skipSpace
  let ending := next.skipSpace
  if ending.rest.isEmpty then return value else ending.fail .extraData

/-- Reads a text that is one JSON value. -/
def parse (text : String) : Except SyntaxError Json :=
  parsePoints (CodePoint.ofText text)

end GrammarTables.Json
