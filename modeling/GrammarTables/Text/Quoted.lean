import GrammarTables.Text.Printable

/-!
# Quoted text in diagnostics

A diagnostic shows a name between quotation marks, on one line and without control
characters, so that its extent and its exact characters can be read off.  Single marks
are used unless the text holds a single mark and no double one.
-/

namespace GrammarTables.Text

/-- The lower case hexadecimal digits of the lowest `width` places of a number. -/
def hexDigits : Nat → Nat → List Char
  | 0, _ => []
  | width + 1, value => hexDigits width (value / 16) ++ [Nat.digitChar (value % 16)]

/-- An unprintable character as its code point: two, four or eight hexadecimal digits,
whichever is the least that suffices. -/
def escapedCode (code : Nat) : List Char :=
  if code < 0x100 then '\\' :: 'x' :: hexDigits 2 code
  else if code < 0x10000 then '\\' :: 'u' :: hexDigits 4 code
  else '\\' :: 'U' :: hexDigits 8 code

def quoteMark (characters : List Char) : Char :=
  if characters.contains '\'' && !characters.contains '"' then '"' else '\''

/-- How one character is written between two copies of `mark`. -/
def quotedChar (mark character : Char) : List Char :=
  if character == mark || character == '\\' then ['\\', character]
  else if character == '\n' then ['\\', 'n']
  else if character == '\r' then ['\\', 'r']
  else if character == '\t' then ['\\', 't']
  else if isPrintable character then [character]
  else escapedCode character.toNat

/-- The quoted form of a text, over characters. -/
def quotedChars (characters : List Char) : List Char :=
  let mark := quoteMark characters
  mark :: characters.flatMap (quotedChar mark) ++ [mark]

def quoted (text : String) : String :=
  String.ofList (quotedChars text.toList)

@[simp] theorem toList_quoted (text : String) :
    (quoted text).toList = quotedChars text.toList := by
  simp [quoted]

end GrammarTables.Text
