/-!
# Code points

A text in 16 bit units can hold one half of a pair without the other one.  Such a half has
a code point of its own, but it is no character.
-/

namespace GrammarTables.Text

/-- Whether a code point is one half of a pair of 16 bit units, and so no character. -/
def isHalf (code : Nat) : Bool := 0xD800 ≤ code && code < 0xE000

/-- What a text in any encoding consists of. -/
inductive CodePoint where
  | char (value : Char)
  | half (code : Nat) (isHalf : isHalf code = true)
  deriving DecidableEq, Repr

namespace CodePoint

instance : Coe Char CodePoint := ⟨char⟩

/-- The code point of a number, if there is one. -/
def ofNat? (code : Nat) : Option CodePoint :=
  if isHalf : isHalf code then some (half code isHalf)
  else if code < 0x110000 then some (char (Char.ofNat code))
  else none

def ofText (text : String) : List CodePoint := text.toList.map char

def toNat : CodePoint → Nat
  | char value => value.toNat
  | half code _ => code

/-- The character of a code point that is one. -/
def char? : CodePoint → Option Char
  | char value => some value
  | half .. => none

/-- The characters among code points. -/
def toText (points : List CodePoint) : String := String.ofList (points.filterMap char?)

@[simp] theorem toText_map_char (characters : List Char) :
    toText (characters.map char) = String.ofList characters := by
  rw [toText, List.filterMap_map]
  congr 1
  exact List.filterMap_some

@[simp] theorem toText_ofText (text : String) : toText (ofText text) = text := by
  rw [ofText, toText_map_char, String.ofList_toList]

/-- The characters at the front that satisfy the test. -/
def charsWhile (test : Char → Bool) : List CodePoint → List Char
  | char value :: rest => if test value then value :: charsWhile test rest else []
  | _ => []

end CodePoint

end GrammarTables.Text
