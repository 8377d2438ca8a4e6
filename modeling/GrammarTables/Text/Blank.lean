/-!
# Blank characters

Names read from a page are trimmed at both ends.  A character is blank when Unicode
gives it the property White_Space, and so are the four information separators U+001C
to U+001F.  A zero width space and a byte order mark are not blank.
-/

namespace GrammarTables.Text

/-- Whether a character is trimmed from the ends of a piece of text. -/
def isBlank (character : Char) : Bool :=
  let code := character.toNat
  (0x09 ≤ code && code ≤ 0x0D) || (0x1C ≤ code && code ≤ 0x20) || code == 0x85 ||
    code == 0xA0 || code == 0x1680 || (0x2000 ≤ code && code ≤ 0x200A) ||
    code == 0x2028 || code == 0x2029 || code == 0x202F || code == 0x205F || code == 0x3000

/-- The characters without those at both ends that satisfy the test. -/
def trimWhere (test : Char → Bool) (characters : List Char) : List Char :=
  ((characters.dropWhile test).reverse.dropWhile test).reverse

@[simp] theorem trimWhere_nil (test : Char → Bool) : trimWhere test [] = [] := rfl

/-- The text without the blank characters at its ends. -/
def trim (text : String) : String :=
  String.ofList (trimWhere isBlank text.toList)

@[simp] theorem toList_trim (text : String) :
    (trim text).toList = trimWhere isBlank text.toList := by
  simp [trim]

/-- Whether nothing remains of the text after trimming. -/
def isBlankText (text : String) : Bool :=
  text.toList.all isBlank

end GrammarTables.Text
