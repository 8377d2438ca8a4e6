import GrammarTables.Number.Numeral
import GrammarTables.Scalar

/-!
# What cannot be rendered

Tables that a caller puts together may have keys which cannot be looked up, payloads which
are not numbers where numbers are expected, integers which are too long to be written,
values which are no references, or may be asked for a set they do not have.  Such tables are
refused for one of the reasons below.
-/

namespace GrammarTables

/-- A reason not to render a table. -/
inductive RenderError where
  /-- A value in a production is no reference. -/
  | notReference (value : Scalar)
  /-- A text is not an integer numeral. -/
  | malformedInteger (text : String)
  /-- An integer numeral has too many digits. -/
  | tooManyDigits (count : Nat)
  /-- An integer has too many digits to be written. -/
  | integerTooLong
  /-- The undefined number has no integer part. -/
  | integerOfUndefined
  /-- An infinite number has no integer part. -/
  | integerOfInfinite
  /-- A value of another kind is not an integer. -/
  | notInteger (value : Scalar)
  /-- A text is not a real numeral. -/
  | malformedReal (text : String)
  /-- An integer is beyond the range of real numbers. -/
  | integerTooLarge
  /-- A value of another kind is not a real number. -/
  | notReal (value : Scalar)
  /-- No set has the name. -/
  | unknownColumn (name : String)
  /-- An entry has no member of the name. -/
  | missingColumn (name : String)
  /-- The members of what an entry has under a name are no terminals but texts. -/
  | textMembers
  /-- What an entry has under a name is no set but of the given kind. -/
  | notSet (kind : String)
  /-- A value cannot be part of a key. -/
  | notKey (value : Scalar)
  deriving Repr

namespace RenderError

/-- The greatest length of a quoted text in the message about an integer numeral. -/
def quotedLimit : Nat := 200

def message : RenderError → String
  | notReference value => "Not a symbol reference: " ++ value.quoted
  | malformedInteger text =>
    "invalid literal for int() with base 10: " ++
      String.ofList ((Text.quotedChars text.toList).take quotedLimit)
  | tooManyDigits count =>
    "Exceeds the limit (4300 digits) for integer string conversion: value has " ++
      toString count ++ " digits; use sys.set_int_max_str_digits() to increase the limit"
  | integerTooLong =>
    "Exceeds the limit (4300 digits) for integer string conversion; " ++
      "use sys.set_int_max_str_digits() to increase the limit"
  | integerOfUndefined => "cannot convert float NaN to integer"
  | integerOfInfinite => "cannot convert float infinity to integer"
  | notInteger value =>
    "int() argument must be a string, a bytes-like object or a real number, not '" ++
      value.kindWord ++ "'"
  | malformedReal text => "could not convert string to float: " ++ Text.quoted text
  | integerTooLarge => "int too large to convert to float"
  | notReal value =>
    "float() argument must be a string or a real number, not '" ++ value.kindWord ++ "'"
  | unknownColumn name => "Unknown set column: " ++ Text.quoted name
  | missingColumn name => "'FirstFollowEntry' object has no attribute '" ++ name ++ "'"
  | textMembers => "'str' object has no attribute 'kind'"
  | notSet kind => "'" ++ kind ++ "' object is not iterable"
  | notKey value => "unhashable type: '" ++ value.kindWord ++ "'"

end RenderError

namespace Scalar

/-- Whether an integer has more digits than are written. -/
def isLong (value : Int) : Bool :=
  Numeral.digitLimit < (Nat.toDigits 10 value.natAbs).length

mutual

/-- Whether an integer in a scalar is too long to be written. -/
def hasLong : Scalar → Bool
  | integer value => isLong value
  | list items => anyLong items
  | _ => false

def anyLong : List Scalar → Bool
  | [] => false
  | item :: rest => hasLong item || anyLong rest

end

/-- The display form of a scalar, if it can be written. -/
def written (value : Scalar) : Except RenderError String :=
  if value.hasLong then .error .integerTooLong else .ok value.display

/-- The reason for which a scalar is refused as a reference. -/
def refusal (value : Scalar) : RenderError :=
  if value.hasLong then .integerTooLong else .notReference value

end Scalar

end GrammarTables
