/-!
# Labels in plain letters

A label with code points that are not plain is sent as one that has plain letters, digits
and hyphens only.  The plain code points of the label come first, and a hyphen after them.
Each other code point is a number, in increasing order: the count of places for smaller
code points, or for the same one further in front, since the number before it.  Numbers are
written in a base of 36 with the lowest place first; a digit below the threshold of its
place ends a number.  The thresholds are adapted to the numbers that have been written.
-/

namespace GrammarTables.Hostname.Punycode

/-- The digit of a value: the letters come before the decimal digits. -/
def digitCode (value : Nat) : Nat :=
  if value < 26 then 'a'.toNat + value else '0'.toNat + (value - 26)

def digitValue? (code : Nat) : Option Nat :=
  if 'a'.toNat ≤ code && code ≤ 'z'.toNat then some (code - 'a'.toNat)
  else if 'A'.toNat ≤ code && code ≤ 'Z'.toNat then some (code - 'A'.toNat)
  else if '0'.toNat ≤ code && code ≤ '9'.toNat then some (code - '0'.toNat + 26)
  else none

theorem digitValue?_digitCode {value : Nat} (bound : value < 36) :
    digitValue? (digitCode value) = some value := by
  have all : ∀ value ∈ List.range 36, digitValue? (digitCode value) = some value := by decide
  exact all value (List.mem_range.mpr bound)

def threshold (bias place : Nat) : Nat := min 26 (max 1 (36 * (place + 1) - bias))

theorem threshold_pos (bias place : Nat) : 0 < threshold bias place := by
  unfold threshold
  omega

theorem threshold_le (bias place : Nat) : threshold bias place ≤ 26 := by
  unfold threshold
  omega

/-- The bias for a number of this size, after some places. -/
def biasFor (places size : Nat) : Nat :=
  if 455 < size then biasFor (places + 1) (size / 35)
  else 36 * places + 36 * size / (size + 38)
termination_by size
decreasing_by exact Nat.div_lt_self (by omega) (by omega)

/-- The bias after a number, given the count of code points with the one it stands for.  The
first number is likely to be much greater than those that follow. -/
def adaptedBias (isFirst : Bool) (number count : Nat) : Nat :=
  let size := if isFirst then number / 700 else number / 2
  biasFor 0 (size + size / count)

/-- The bias before the first number. -/
def initialBias : Nat := 72

/-- The first code point that is not plain. -/
def firstCode : Nat := 0x80

/-! ## Encoding -/

/-- The values of the digits of a number from a place on. -/
def numberDigits (bias place number : Nat) : List Nat :=
  let limit := threshold bias place
  if number < limit then [number]
  else
    (limit + (number - limit) % (36 - limit)) ::
      numberDigits bias (place + 1) ((number - limit) / (36 - limit))
termination_by number
decreasing_by
  have := threshold_pos bias place
  have := threshold_le bias place
  exact Nat.lt_of_le_of_lt (Nat.div_le_self _ _) (by omega)

structure Encoder where
  /-- The values of the digits so far. -/
  digits : List Nat
  /-- The next number so far. -/
  number : Nat
  bias : Nat
  /-- The count of code points that have been written. -/
  count : Nat
  /-- Whether no number has been written. -/
  isFirst : Bool
  /-- The least code point that has not been written. -/
  next : Nat

namespace Encoder

/-- Counts a code point of the label, or writes it if it is the current one. -/
def visit (current : Nat) (encoder : Encoder) (code : Nat) : Encoder :=
  if code < current then { encoder with number := encoder.number + 1 }
  else if code = current then
    { encoder with
      digits := encoder.digits ++ numberDigits encoder.bias 0 encoder.number
      number := 0
      bias := adaptedBias encoder.isFirst encoder.number (encoder.count + 1)
      count := encoder.count + 1
      isFirst := false }
  else encoder

/-- Writes all copies of one code point. -/
def write (label : List Nat) (encoder : Encoder) (current : Nat) : Encoder :=
  let skipped := (current - encoder.next) * (encoder.count + 1)
  let passed := label.foldl (visit current) { encoder with number := encoder.number + skipped }
  { passed with number := passed.number + 1, next := current + 1 }

end Encoder

/-- The plain code points of a label. -/
def plainPart (label : List Nat) : List Nat := label.filter (· < firstCode)

def encode (label : List Nat) : List Nat :=
  let plain := plainPart label
  let others := ((label.filter (firstCode ≤ ·)).mergeSort (· ≤ ·)).eraseDups
  let encoder := others.foldl (Encoder.write label)
    ⟨[], 0, initialBias, plain.length, true, firstCode⟩
  plain ++ (if plain.isEmpty then [] else ['-'.toNat]) ++ encoder.digits.map digitCode

/-! ## Decoding -/

structure Decoder where
  /-- The code points so far. -/
  label : List Nat
  /-- The code point of the last number. -/
  code : Nat
  /-- The position after the last code point that was put in. -/
  position : Nat
  bias : Nat
  /-- The part of the next number that has been read. -/
  number : Nat
  /-- The place of its next digit. -/
  place : Nat
  /-- What a digit in that place counts for. -/
  weight : Nat
  isFirst : Bool

namespace Decoder

/-- Puts in the code point of a number, if there is one. -/
def insert? (decoder : Decoder) (number : Nat) : Option Decoder :=
  let places := decoder.label.length + 1
  let passed := decoder.position + number
  let code := decoder.code + passed / places
  let index := passed % places
  if code < 0x110000 then
    some ⟨decoder.label.insertIdx index code, code, index + 1,
      adaptedBias decoder.isFirst number places, 0, 0, 1, false⟩
  else none

def read? (decoder : Decoder) (digit : Nat) : Option Decoder := do
  let value ← digitValue? digit
  let number := decoder.number + value * decoder.weight
  let limit := threshold decoder.bias decoder.place
  if value < limit then decoder.insert? number
  else
    return { decoder with
      number, place := decoder.place + 1, weight := decoder.weight * (36 - limit) }

end Decoder

/-- Decodes a label, if it is encoded. -/
def decode? (encoded : List Nat) : Option (List Nat) := do
  let digits := (encoded.reverse.takeWhile (· != '-'.toNat)).reverse
  let plain := encoded.take (encoded.length - digits.length - 1)
  let decoder ← digits.foldlM Decoder.read?
    ⟨plain, firstCode, 0, initialBias, 0, 0, 1, true⟩
  if decoder.place = 0 then return decoder.label else none

end GrammarTables.Hostname.Punycode
