/-!
# String literals

A text is written as a string literal between double quotes.  A backslash and a double
quote get a backslash in front; every other character, control characters included,
stands for itself.  Reading a literal back takes the character after a backslash as it is
and ends at the first quote that has none.
-/

namespace GrammarTables.Literal

/-- One character inside a string literal. -/
def escapedChar (character : Char) : List Char :=
  if character == '\\' || character == '"' then ['\\', character] else [character]

/-- A string literal, over characters. -/
def textChars (characters : List Char) : List Char :=
  '"' :: characters.flatMap escapedChar ++ ['"']

def text (value : String) : String :=
  String.ofList (textChars value.toList)

@[simp] theorem toList_text (value : String) :
    (text value).toList = textChars value.toList := by
  simp [text]

end GrammarTables.Literal
