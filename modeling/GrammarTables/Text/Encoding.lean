import GrammarTables.Text.CodePoint
import GrammarTables.Text.Utf8

/-!
# Recognizing an encoding

A JSON text may be sent in any of the Unicode encodings.  It begins with a character of a
single byte, so the places of the zeros among its first bytes show how wide its units are,
and in which order their bytes stand.
-/

namespace GrammarTables.Text

/-- A Unicode encoding; of the wide ones the order of the bytes of a unit. -/
inductive Encoding where
  | utf8
  | utf16 (bigEndian : Bool)
  | utf32 (bigEndian : Bool)
  deriving DecidableEq, Repr

namespace Encoding

/-- The encoding that the first bytes of a text show. -/
def recognize : List UInt8 → Encoding
  | [0, _] => utf16 true
  | [_, 0] => utf16 false
  | first :: second :: third :: fourth :: _ =>
    if first = 0 then if second = 0 then utf32 true else utf16 true
    else if second = 0 then
      if third = 0 && fourth = 0 then utf32 false else utf16 false
    else utf8
  | _ => utf8

/-- The units of two bytes.  A byte must not be left over. -/
def units16 (bigEndian : Bool) : List UInt8 → Option (List Nat)
  | [] => some []
  | first :: second :: rest => do
    let (high, low) := if bigEndian then (first, second) else (second, first)
    return (high.toNat * 0x100 + low.toNat) :: (← units16 bigEndian rest)
  | _ => none

/-- The units of four bytes.  No byte must be left over. -/
def units32 (bigEndian : Bool) : List UInt8 → Option (List Nat)
  | [] => some []
  | first :: second :: third :: fourth :: rest => do
    let bytes := [first, second, third, fourth]
    let ordered := if bigEndian then bytes else bytes.reverse
    let unit := ordered.foldl (fun total byte => total * 0x100 + byte.toNat) 0
    return unit :: (← units32 bigEndian rest)
  | _ => none

/-- The code points of 16 bit units.  Two halves that stand together are one character, and
any other half stands for itself. -/
def joined : List Nat → Option (List CodePoint)
  | [] => some []
  | upper :: lower :: rest =>
    if 0xD800 ≤ upper && upper < 0xDC00 && 0xDC00 ≤ lower && lower < 0xE000 then
      (joined rest).map
        (.char (Char.ofNat (0x10000 + (upper - 0xD800) * 0x400 + (lower - 0xDC00))) :: ·)
    else do return (← CodePoint.ofNat? upper) :: (← joined (lower :: rest))
  | [unit] => (CodePoint.ofNat? unit).map ([·])

/-- The code points of a text in an encoding.  A mark of UTF-8 in front is no part of the
text. -/
def decode? (bytes : List UInt8) : Encoding → Option (List CodePoint)
  | utf8 =>
    let unmarked :=
      match bytes with
      | 0xEF :: 0xBB :: 0xBF :: rest => rest
      | _ => bytes
    ((Utf8.decodeFrom 0 none unmarked).toOption).map (List.map .char)
  | utf16 bigEndian => (units16 bigEndian bytes).bind joined
  | utf32 bigEndian => (units32 bigEndian bytes).bind fun units => units.mapM CodePoint.ofNat?

end Encoding

/-- The code points of a text whose encoding is shown by its first bytes. -/
def decodeRecognized? (bytes : List UInt8) : Option (List CodePoint) :=
  (Encoding.recognize bytes).decode? bytes

end GrammarTables.Text
