import GrammarTables.Json.Value
import GrammarTables.Number.Decimal

/-!
# Writing JSON

The JSON text of a value, without spaces and with every character that needs no escape as
it is.  A number that is not finite has no JSON text, and a text with half of a pair of
units has one that cannot be sent.
-/

namespace GrammarTables.Json

/-- Why the text of a value cannot be sent. -/
inductive WriteError where
  /-- It has a number that is not finite. -/
  | notFinite
  | unencodable (error : Text.EncodeError)
  deriving DecidableEq, Repr

def WriteError.message : WriteError → String
  | notFinite => "Out of range float values are not JSON compliant"
  | unencodable error => error.message

mutual

/-- Whether a value has a number that is not finite. -/
def hasNotFinite : Json → Bool
  | real value => value.toQuotient?.isNone
  | array items => anyNotFinite items
  | object members => anyMemberNotFinite members
  | _ => false

/-- Whether one of some values has a number that is not finite. -/
def anyNotFinite : List Json → Bool
  | [] => false
  | item :: rest => hasNotFinite item || anyNotFinite rest

/-- Whether one of some members has a number that is not finite. -/
def anyMemberNotFinite : List (CodeText × Json) → Bool
  | [] => false
  | (_, value) :: rest => hasNotFinite value || anyMemberNotFinite rest

end

/-- The escapes that are letters, by the characters they stand for. -/
def letterEscapes : List (Char × Char) :=
  [('"', '"'), ('\\', '\\'), ('\n', 'n'), ('\r', 'r'), ('\t', 't'), ('\x0c', 'f'),
   ('\x08', 'b')]

/-- How one code point is written in a text. -/
def writtenCode (code : Nat) : List Nat :=
  match letterEscapes.find? fun escape => escape.1.toNat == code with
  | some (_, letter) => Text.codePoints "\\" ++ [letter.toNat]
  | none =>
    if code < 0x20 then
      Text.codePoints "\\u" ++ (Text.hexDigits 4 code).map Char.toNat
    else [code]

/-- A text between quotation marks. -/
def writtenText (text : CodeText) : List Nat :=
  Text.codePoints "\"" ++ text.codes.flatMap writtenCode ++ Text.codePoints "\""

mutual

/-- The code points of the text of a value. -/
def written : Json → List Nat
  | null => Text.codePoints "null"
  | boolean true => Text.codePoints "true"
  | boolean false => Text.codePoints "false"
  | integer value => Text.codePoints (toString value)
  | real value => Text.codePoints value.shortest
  | text value => writtenText value
  | array items => Text.codePoints "[" ++ writtenItems items ++ Text.codePoints "]"
  | object members =>
    Text.codePoints "\x7b" ++ writtenMembers members ++ Text.codePoints "\x7d"

def writtenItems : List Json → List Nat
  | [] => []
  | [item] => written item
  | item :: rest => written item ++ Text.codePoints "," ++ writtenItems rest

/-- The members of an object with commas between them. -/
def writtenMembers : List (CodeText × Json) → List Nat
  | [] => []
  | [(name, value)] => writtenText name ++ Text.codePoints ":" ++ written value
  | (name, value) :: rest =>
    writtenText name ++ Text.codePoints ":" ++ written value ++ Text.codePoints "," ++
      writtenMembers rest

end

/-- The text of a value.  Numbers are looked at before characters. -/
def write (value : Json) : Except WriteError String :=
  if value.hasNotFinite then .error .notFinite
  else
    let codes := value.written
    match Text.Charset.utf8.error? codes with
    | some error => .error (.unencodable error)
    | none => .ok (String.ofList (codes.map Char.ofNat))

end GrammarTables.Json
