import GrammarTables.Text.CaseContext
import GrammarTables.Text.LetterCase

/-!
# Texts in any case

Two ways to compare texts without regard to case.  The lower case of a text takes the
place of letters in words into account: a capital sigma at the end of a word becomes a
final sigma.  Letter by letter, in contrast, all letters that share a lower case form or
are variants of one letter are alike.
-/

namespace GrammarTables.Text

/-- The lower case of characters that follow those given in reverse order. -/
def lowerFrom (before : List Char) : List Char → List Char
  | [] => []
  | character :: rest =>
    let lowered :=
      if character == 'Σ' then
        if beginsCased before && !beginsCased rest then ['ς'] else ['σ']
      else if character == 'İ' then ['i', '\u0307']
      else [lowerChar character]
    lowered ++ lowerFrom (character :: before) rest

def lowerCase (text : String) : String := String.ofList (lowerFrom [] text.toList)

/-- The code points of lower case letters that are variants of one letter. -/
def letterVariants : List (List Nat) :=
  [[0x69, 0x131], [0x73, 0x17F], [0xB5, 0x3BC], [0x345, 0x3B9, 0x1FBE], [0x390, 0x1FD3],
   [0x3B0, 0x1FE3], [0x3B2, 0x3D0], [0x3B5, 0x3F5], [0x3B8, 0x3D1], [0x3BA, 0x3F0],
   [0x3C0, 0x3D6], [0x3C1, 0x3F1], [0x3C2, 0x3C3], [0x3C6, 0x3D5], [0x432, 0x1C80],
   [0x434, 0x1C81], [0x43E, 0x1C82], [0x441, 0x1C83], [0x442, 0x1C84, 0x1C85],
   [0x44A, 0x1C86], [0x463, 0x1C87], [0x1C88, 0xA64B], [0x1E61, 0x1E9B],
   [0xFB05, 0xFB06]]

/-- Whether two characters are the same letter in any case. -/
def isAlike (left right : Char) : Bool :=
  let lowerLeft := lowerChar left
  let lowerRight := lowerChar right
  lowerLeft == lowerRight ||
    letterVariants.any fun variants =>
      variants.contains lowerLeft.toNat && variants.contains lowerRight.toNat

/-- Whether a text begins with another one, letter by letter in any case. -/
def beginsAlike : List Char → List Char → Bool
  | [], _ => true
  | _ :: _, [] => false
  | left :: lefts, right :: rights => isAlike left right && beginsAlike lefts rights

end GrammarTables.Text
