import GrammarTables.Text.EncodeError

/-!
# Texts that JSON can write

An escape in a JSON text can write one half of a pair of 16 bit units, for which there is
no character.  A text with such a half can be read and compared, but not sent.
-/

namespace GrammarTables

/-- A text as JSON can write it. -/
inductive CodeText where
  /-- Characters only. -/
  | whole (value : String)
  /-- Code points of which one at least is half of a pair. -/
  | broken (codes : List Nat)
  deriving DecidableEq, Repr

namespace CodeText

instance : Coe String CodeText := ⟨whole⟩

/-- The text of code points. -/
def ofCodes (codes : List Nat) : CodeText :=
  if codes.any Text.isHalf then broken codes else whole (String.ofList (codes.map Char.ofNat))

def codes : CodeText → List Nat
  | whole value => Text.codePoints value
  | broken codes => codes

/-- The text with the replacement character for each half of a pair. -/
def repaired : CodeText → String
  | whole value => value
  | broken codes =>
    String.ofList (codes.map fun code => Char.ofNat (if Text.isHalf code then 0xFFFD else code))

@[simp] theorem repaired_whole (value : String) : (whole value).repaired = value := rfl

end CodeText

end GrammarTables
