import GrammarTables.Markup.Entity

/-!
# Character references

In the text of a page and in attribute values an ampersand may begin a reference to a
character: by name, or by its number in decimal or hexadecimal digits.  A name must be
closed by a semicolon; after a number the semicolon may be left out.  What begins like a
reference and is none stays as it stands.
-/

namespace GrammarTables.Markup.Reference

/-- What has been read since an ampersand; the characters are in reverse order. -/
inductive Pending where
  /-- No reference has begun. -/
  | none
  /-- The letters and digits of a name. -/
  | name (letters : List Char)
  /-- The number sign, and the letter that announces hexadecimal digits if it was there. -/
  | number (hexMark : Option Char)
  /-- At least one digit of a number, and the value so far. -/
  | digits (hexadecimal : Bool) (value : Nat)

/-- The text decoded so far, in reverse order, and the reference that may have begun. -/
structure State where
  decoded : List Char
  pending : Pending

/-- The value of a digit in base ten or sixteen. -/
def digit? (hexadecimal : Bool) (character : Char) : Option Nat :=
  if character.isDigit then some (character.toNat - '0'.toNat)
  else if hexadecimal && 'a' ≤ character && character ≤ 'f' then
    some (character.toNat - 'a'.toNat + 10)
  else if hexadecimal && 'A' ≤ character && character ≤ 'F' then
    some (character.toNat - 'A'.toNat + 10)
  else none

/-- The character with the number; the replacement character stands in for a number that
no character has. -/
def ofNumber (value : Nat) : Char :=
  if value != 0 && value.isValidChar then Char.ofNat value else Char.ofNat 0xFFFD

/-- The text of a reference that is given up, or the character of a complete number. -/
def Pending.flush : Pending → List Char
  | none => []
  | name letters => letters ++ ['&']
  | number Option.none => ['#', '&']
  | number (some mark) => [mark, '#', '&']
  | digits _ value => [ofNumber value]

/-- Continues with a character outside of any reference. -/
def State.plain (decoded : List Char) (character : Char) : State :=
  if character == '&' then ⟨decoded, .name []⟩ else ⟨character :: decoded, .none⟩

/-- Gives up the pending reference and continues with the character. -/
def State.giveUp (state : State) (character : Char) : State :=
  .plain (state.pending.flush ++ state.decoded) character

def State.step (state : State) (character : Char) : State :=
  match state.pending with
  | .none => .plain state.decoded character
  | .name letters =>
    if character == '#' && letters.isEmpty then { state with pending := .number none }
    else if character.isAlphanum then { state with pending := .name (character :: letters) }
    else if character == ';' then
      match Entity.find? letters.reverse with
      | some named => ⟨named :: state.decoded, .none⟩
      | none => state.giveUp character
    else state.giveUp character
  | .number none =>
    if character == 'x' || character == 'X' then
      { state with pending := .number (some character) }
    else
      match digit? false character with
      | some value => { state with pending := .digits false value }
      | none => state.giveUp character
  | .number (some _) =>
    match digit? true character with
    | some value => { state with pending := .digits true value }
    | none => state.giveUp character
  | .digits hexadecimal value =>
    let base := if hexadecimal then 16 else 10
    match digit? hexadecimal character with
    | some next => { state with pending := .digits hexadecimal (value * base + next) }
    | none =>
      if character == ';' then ⟨ofNumber value :: state.decoded, .none⟩
      else state.giveUp character

/-- The text with its references replaced by the characters they stand for. -/
def decode (characters : List Char) : List Char :=
  let state := characters.foldl State.step ⟨[], .none⟩
  (state.pending.flush ++ state.decoded).reverse

end GrammarTables.Markup.Reference
