import GrammarTables.Text.CodePoint
import GrammarTables.Text.Quoted

/-!
# Text that cannot be sent

What is sent has to be written as bytes, and an encoding has bytes for some code points
only.  Text that has others is refused, with the place of the first run of them.
-/

namespace GrammarTables.Text

/-- An encoding that text is sent in. -/
inductive Charset where
  /-- The encoding of header fields. -/
  | ascii
  /-- The encoding of pages and answers. -/
  | utf8
  deriving DecidableEq, Repr

namespace Charset

def name : Charset → String
  | ascii => "ascii"
  | utf8 => "utf-8"

/-- Whether an encoding has no bytes for a code point. -/
def refuses : Charset → Nat → Bool
  | ascii, code => 0x80 ≤ code
  | utf8, code => isHalf code

/-- Why an encoding has no bytes for a code point. -/
def reason : Charset → String
  | ascii => "ordinal not in range(128)"
  | utf8 => "surrogates not allowed"

end Charset

/-- A run of code points that an encoding has no bytes for: its position, its first code
point and the count of them. -/
structure EncodeError where
  charset : Charset
  position : Nat
  code : Nat
  count : Nat
  deriving DecidableEq, Repr

def EncodeError.message (error : EncodeError) : String :=
  let place :=
    if error.count = 1 then
      "character '" ++ String.ofList (escapedCode error.code) ++ "' in position " ++
        toString error.position
    else
      "characters in position " ++ toString error.position ++ "-" ++
        toString (error.position + error.count - 1)
  "'" ++ error.charset.name ++ "' codec can't encode " ++ place ++ ": " ++
    error.charset.reason

/-- The error of sending code points in an encoding, if one of them is refused. -/
def Charset.error? (charset : Charset) (codes : List Nat) : Option EncodeError :=
  let sound := codes.takeWhile fun code => !charset.refuses code
  match codes.drop sound.length with
  | [] => none
  | code :: rest =>
    some ⟨charset, sound.length, code, (rest.takeWhile charset.refuses).length + 1⟩

/-- The text that is sent for code points, unless one of them is refused. -/
def Charset.encode (charset : Charset) (points : List CodePoint) : Except EncodeError String :=
  match charset.error? (points.map CodePoint.toNat) with
  | some error => .error error
  | none => .ok (CodePoint.toText points)

def codePoints (text : String) : List Nat := text.toList.map Char.toNat

end GrammarTables.Text
