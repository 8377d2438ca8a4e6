import GrammarTables.Literal.Text
import GrammarTables.Number.Numeral
import GrammarTables.RenderError
import GrammarTables.Symbol

/-!
# Literals of symbols

Terminals and references are written as Rust constructor expressions for the consuming
parser.  Kinds that carry data are written with their payload, converted to the type of
the token's data; for all other kinds the payload does not matter.
-/

namespace GrammarTables

/-- The payload of an integer token. -/
def Scalar.toInteger : Scalar → Except RenderError Int
  | .boolean value => .ok (if value then 1 else 0)
  | .integer value => .ok value
  | .real (.finite negative mantissa exponent) =>
    .ok (Binary64.truncated negative mantissa exponent)
  | .real (.infinite _) => .error .integerOfInfinite
  | .real .undefined => .error .integerOfUndefined
  | .text value =>
    match Numeral.readInt value with
    | .ok number => .ok number
    | .error .malformed => .error (.malformedInteger value)
    | .error (.tooManyDigits count) => .error (.tooManyDigits count)
  | value => .error (.notInteger value)

/-- The real number nearest to an integer, if the integer is within their range. -/
def Scalar.realOfInt (value : Int) : Except RenderError Binary64 :=
  match Binary64.ofInt value with
  | .infinite _ => .error .integerTooLarge
  | number => .ok number

/-- The payload of a token with a real number. -/
def Scalar.toReal : Scalar → Except RenderError Binary64
  | .boolean value => Scalar.realOfInt (if value then 1 else 0)
  | .integer value => Scalar.realOfInt value
  | .real value => .ok value
  | .text value =>
    match Numeral.readReal? value with
    | some number => .ok number
    | none => .error (.malformedReal value)
  | value => .error (.notReal value)

/-- The count of significant digits of real numbers in literals. -/
def Literal.realPlaces : Nat := 6

def Terminal.literal (symbol : Terminal) : Except RenderError String :=
  match symbol.kind with
  | .identifier =>
    symbol.payload.written.map fun text => "Type::Id(" ++ Literal.text text ++ ".to_owned())"
  | .integerNumber => do
    let value ← symbol.payload.toInteger
    (Scalar.integer value).written.map fun text => "Type::IntNum(" ++ text ++ ")"
  | .floatNumber =>
    symbol.payload.toReal.map fun value =>
      "Type::FloatNum(" ++ value.general Literal.realPlaces ++ "f64)"
  | kind => .ok ("Type::" ++ kind.literalName)

/-- The literal of a reference.  The text of an action is an expression already. -/
def SymbolRef.literal : SymbolRef → Except RenderError String
  | terminal symbol => symbol.literal.map fun literal => "Production::Term(" ++ literal ++ ")"
  | nonterminal name => .ok ("Production::NonTerm(" ++ Literal.text name ++ ")")
  | action name _ => .ok ("Production::Action(" ++ name ++ ")")
  | foreign value => .error value.refusal

end GrammarTables
