/-!
# Double precision numbers

A number of the 64 bit binary format, given by its sign, mantissa and exponent, so that
every operation on it is exact arithmetic on naturals.  Only what numeric payloads need
is here: rounding a quotient to the format, truncation, and comparison by value.
-/

namespace GrammarTables

/-- A double precision number.  `finite negative mantissa exponent` is
`± mantissa · 2 ^ exponent`; `undefined` is the result of an undefined operation. -/
inductive Binary64 where
  | finite (negative : Bool) (mantissa : Nat) (exponent : Int)
  | infinite (negative : Bool)
  | undefined
  deriving DecidableEq, Repr

namespace Binary64

/-- The exponent of the smallest positive number of the format. -/
def minExponent : Int := -1074

/-- The exponent of the largest numbers of the format. -/
def maxExponent : Int := 971

/-- Zero with a sign. -/
def signedZero (negative : Bool) : Binary64 := finite negative 0 minExponent

/-- The quotient rounded to the nearest natural, a half going to the even neighbour. -/
def roundedQuotient (numerator denominator : Nat) : Nat :=
  let quotient := numerator / denominator
  let remainder := numerator % denominator
  if 2 * remainder < denominator then quotient
  else if denominator < 2 * remainder then quotient + 1
  else quotient + quotient % 2

/-- The pair whose quotient is that of the given pair divided by `base ^ power`. -/
def scaleDown (base numerator denominator : Nat) (power : Int) : Nat × Nat :=
  (numerator * Nat.pow base (-power).toNat, denominator * Nat.pow base power.toNat)

/-- The number of binary digits of a natural. -/
def bitLength (value : Nat) : Nat :=
  if value = 0 then 0 else value.log2 + 1

/-- The exponent for which the quotient has a mantissa of 53 binary digits, or the least
exponent of the format if that one is larger. -/
def exponentOfRatio (numerator denominator : Nat) : Int :=
  let estimate : Int := (bitLength numerator : Int) - bitLength denominator - 53
  let scaled := scaleDown 2 numerator denominator estimate
  max minExponent (if scaled.2 * Nat.pow 2 53 ≤ scaled.1 then estimate + 1 else estimate)

/-- The number of the format nearest to `± numerator / denominator`. -/
def ofRatio (negative : Bool) (numerator denominator : Nat) : Binary64 :=
  if numerator = 0 then signedZero negative
  else
    let exponent := exponentOfRatio numerator denominator
    let scaled := scaleDown 2 numerator denominator exponent
    let mantissa := roundedQuotient scaled.1 scaled.2
    let (mantissa, exponent) :=
      if mantissa = Nat.pow 2 53 then (Nat.pow 2 52, exponent + 1) else (mantissa, exponent)
    if maxExponent < exponent then infinite negative else finite negative mantissa exponent

/-- The number of the format nearest to `± coefficient · 10 ^ exponent`.  Coefficients far
outside the range of the format are not expanded. -/
def ofDecimal (negative : Bool) (coefficient : Nat) (exponent : Int) : Binary64 :=
  let leading : Int := (Nat.toDigits 10 coefficient).length + exponent
  if coefficient = 0 || leading < -400 then signedZero negative
  else if 400 < leading then infinite negative
  else
    let scaled := scaleDown 10 coefficient 1 (-exponent)
    ofRatio negative scaled.1 scaled.2

/-- The number nearest to an integer. -/
def ofInt (value : Int) : Binary64 :=
  ofRatio (value < 0) value.natAbs 1

/-- The integer next to the number on the side of zero, for a finite number. -/
def truncated (negative : Bool) (mantissa : Nat) (exponent : Int) : Int :=
  let scaled := scaleDown 2 mantissa 1 (-exponent)
  let magnitude : Int := (scaled.1 / scaled.2 : Nat)
  if negative then -magnitude else magnitude

/-- The value of a finite number as an integer over a power of two. -/
def toQuotient? : Binary64 → Option (Int × Nat)
  | finite negative mantissa exponent =>
    let scaled := scaleDown 2 mantissa 1 (-exponent)
    some (if negative then -(scaled.1 : Int) else scaled.1, scaled.2)
  | _ => none

/-- Whether two numbers have the same value.  The two zeros have, and `undefined` has
none. -/
def sameValue : Binary64 → Binary64 → Bool
  | infinite left, infinite right => left == right
  | left, right =>
    match left.toQuotient?, right.toQuotient? with
    | some (leftTop, leftBottom), some (rightTop, rightBottom) =>
      leftTop * rightBottom == rightTop * leftBottom
    | _, _ => false

/-- Whether the number has the same value as an integer. -/
def equalsInt (number : Binary64) (value : Int) : Bool :=
  match number.toQuotient? with
  | some (top, bottom) => top == value * bottom
  | none => false

end Binary64

end GrammarTables
