import GrammarTables.Number.Binary64

/-!
# Decimal text of double precision numbers

Two forms are written.  The *shortest* form has the fewest digits that read back as the
number, and of those the nearest.  The *general* form has a fixed count of significant
digits, correctly rounded, without trailing zeros.  Both come from exact arithmetic on
mantissa and exponent; how digits are laid out is a `Layout`, apart from their choice.
-/

namespace GrammarTables

/-- A positive decimal `0.d₁d₂… · 10 ^ (leading + 1)`: a coefficient, whose first digit
stands for `10 ^ leading`. -/
structure Decimal where
  coefficient : Nat
  leading : Int
  deriving DecidableEq, Repr

namespace Decimal

/-- The digits of the coefficient without trailing zeros. -/
def digits (decimal : Decimal) : List Char :=
  let digits := Nat.toDigits 10 decimal.coefficient
  match (digits.reverse.dropWhile (· == '0')).reverse with
  | [] => ['0']
  | kept => kept

/-- The exponent of the leading digit of a positive quotient. -/
def leadingOfRatio (numerator denominator : Nat) : Int :=
  let estimate : Int :=
    ((Nat.toDigits 10 numerator).length : Int) - (Nat.toDigits 10 denominator).length
  let scaled := Binary64.scaleDown 10 numerator denominator estimate
  if scaled.2 ≤ scaled.1 then estimate else estimate - 1

/-- A positive quotient rounded to a count of significant digits, a half going to the
even last digit. -/
def rounded (places numerator denominator : Nat) : Decimal :=
  let leading := leadingOfRatio numerator denominator
  let scaled := Binary64.scaleDown 10 numerator denominator (leading + 1 - places)
  let coefficient := Binary64.roundedQuotient scaled.1 scaled.2
  if coefficient = Nat.pow 10 places then ⟨1, leading + 1⟩ else ⟨coefficient, leading⟩

/-- Compares `left · 10 ^ decimalPower` with `right · 2 ^ binaryPower`. -/
def compareScaled (left : Nat) (decimalPower : Int) (right : Nat) (binaryPower : Int) :
    Ordering :=
  compare (left * Nat.pow 10 decimalPower.toNat * Nat.pow 2 (-binaryPower).toNat)
    (right * Nat.pow 2 binaryPower.toNat * Nat.pow 10 (-decimalPower).toNat)

/-- Whether `coefficient · 10 ^ power` reads back as the positive number of this mantissa
and exponent.  Half way to a neighbour it does so for an even mantissa only, and the
lower neighbour of a power of two is half as far away as the upper one. -/
def readsBack (mantissa : Nat) (exponent : Int) (coefficient : Nat) (power : Int) : Bool :=
  let below :=
    if mantissa = Nat.pow 2 52 && Binary64.minExponent < exponent then 4 * mantissa - 1
    else 4 * mantissa - 2
  let atLeast := compareScaled coefficient power below (exponent - 2)
  let atMost := compareScaled coefficient power (4 * mantissa + 2) (exponent - 2)
  if mantissa % 2 = 0 then atLeast != .lt && atMost != .gt
  else atLeast == .gt && atMost == .lt

/-- The nearest decimal with this count of digits that reads back, if there is one. -/
def candidate? (mantissa : Nat) (exponent leading : Int) (places : Nat) : Option Decimal :=
  let power := leading + 1 - places
  let quotient := Binary64.scaleDown 2 mantissa 1 (-exponent)
  let scaled := Binary64.scaleDown 10 quotient.1 quotient.2 power
  let lower := scaled.1 / scaled.2
  let upper := lower + 1
  let lowerHits := 0 < lower && readsBack mantissa exponent lower power
  let upperHits := readsBack mantissa exponent upper power
  let ofCoefficient (coefficient : Nat) : Decimal :=
    if coefficient = Nat.pow 10 places then ⟨1, leading + 1⟩ else ⟨coefficient, leading⟩
  if lowerHits && upperHits then
    match compareScaled (lower + upper) power (2 * mantissa) exponent with
    | .lt => some (ofCoefficient upper)
    | .gt => some (ofCoefficient lower)
    | .eq => some (ofCoefficient (if lower % 2 = 0 then lower else upper))
  else if lowerHits then some (ofCoefficient lower)
  else if upperHits then some (ofCoefficient upper)
  else none

/-- The fewest digits that read back as a positive number.  Seventeen always do. -/
def shortest (mantissa : Nat) (exponent : Int) : Decimal :=
  let quotient := Binary64.scaleDown 2 mantissa 1 (-exponent)
  let leading := leadingOfRatio quotient.1 quotient.2
  match (List.range 17).findSome? fun places =>
      candidate? mantissa exponent leading (places + 1) with
  | some decimal => decimal
  | none => rounded 17 quotient.1 quotient.2

/-- How the digits of a number are laid out. -/
structure Layout where
  /-- The least exponent of the leading digit that is written positionally. -/
  positionalFrom : Int
  /-- The exponent of the leading digit from which positional writing ends. -/
  positionalBelow : Int
  /-- Whether a whole number is marked by a point and a zero. -/
  marksWhole : Bool
  deriving DecidableEq, Repr

/-- The exponent mark with a sign and at least two digits. -/
def exponentText (exponent : Int) : List Char :=
  let digits := Nat.toDigits 10 exponent.natAbs
  'e' :: (if exponent < 0 then '-' else '+') ::
    (if digits.length < 2 then '0' :: digits else digits)

/-- Digits written by place, with zeros up to the point where needed. -/
def positional (marksWhole : Bool) (digits : List Char) (leading : Int) : List Char :=
  if leading < 0 then
    '0' :: '.' :: List.replicate (-leading - 1).toNat '0' ++ digits
  else
    let whole := leading.toNat + 1
    if digits.length ≤ whole then
      digits ++ List.replicate (whole - digits.length) '0' ++
        (if marksWhole then ['.', '0'] else [])
    else digits.take whole ++ '.' :: digits.drop whole

/-- Digits written with the point after the first one and an exponent. -/
def scientific (digits : List Char) (leading : Int) : List Char :=
  match digits with
  | [] => []
  | [digit] => digit :: exponentText leading
  | digit :: rest => digit :: '.' :: rest ++ exponentText leading

/-- The digits of a decimal as text. -/
def render (layout : Layout) (decimal : Decimal) : List Char :=
  if layout.positionalFrom ≤ decimal.leading && decimal.leading < layout.positionalBelow then
    positional layout.marksWhole decimal.digits decimal.leading
  else scientific decimal.digits decimal.leading

end Decimal

namespace Binary64

/-- A number as text: the sign, then the laid out digits that `choose` finds for the
positive mantissa and exponent, or the name of a value that is not finite. -/
def render (layout : Decimal.Layout) (choose : Nat → Int → Decimal) (number : Binary64) :
    String :=
  match number with
  | finite negative mantissa exponent =>
    let decimal := if mantissa = 0 then ⟨0, 0⟩ else choose mantissa exponent
    let digits := decimal.render layout
    String.ofList (if negative then '-' :: digits else digits)
  | infinite negative => if negative then "-inf" else "inf"
  | undefined => "nan"

/-- The layout of shortest text: positional from `0.0001` to below `10 ^ 16`, and a whole
number is marked. -/
def shortestLayout : Decimal.Layout := ⟨-4, 16, true⟩

/-- The layout of text with a count of significant digits: positional from `0.0001` up to
numbers of that many digits, and a whole number is not marked. -/
def generalLayout (places : Nat) : Decimal.Layout := ⟨-4, places, false⟩

/-- The shortest text that reads back as the number. -/
def shortest (number : Binary64) : String :=
  number.render shortestLayout Decimal.shortest

/-- The text with at most `places` significant digits. -/
def general (places : Nat) (number : Binary64) : String :=
  number.render (generalLayout places) fun mantissa exponent =>
    let quotient := scaleDown 2 mantissa 1 (-exponent)
    Decimal.rounded places quotient.1 quotient.2

end Binary64

end GrammarTables
