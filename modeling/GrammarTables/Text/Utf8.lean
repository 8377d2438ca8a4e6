/-!
# Reading UTF-8

Documents are read as UTF-8.  Bytes that are none are refused, with the place of the first
sequence that is wrong: how many of its bytes are sound decides how long it is.
-/

namespace GrammarTables.Text.Utf8

/-- What is wrong with a sequence of bytes. -/
inductive Problem where
  | invalidStart
  | invalidContinuation
  | unexpectedEnd
  deriving DecidableEq, Repr

def Problem.message : Problem → String
  | invalidStart => "invalid start byte"
  | invalidContinuation => "invalid continuation byte"
  | unexpectedEnd => "unexpected end of data"

/-- Bytes that are not UTF-8: what is wrong, the position of the first byte of the sequence,
that byte, and the count of its bytes. -/
structure DecodeError where
  problem : Problem
  position : Nat
  byte : UInt8
  count : Nat
  deriving DecidableEq, Repr

/-- The two hexadecimal digits of a byte. -/
def byteDigits (byte : UInt8) : String :=
  String.ofList [Nat.digitChar (byte.toNat / 16), Nat.digitChar (byte.toNat % 16)]

def DecodeError.message (error : DecodeError) : String :=
  let place :=
    if error.count = 1 then
      "byte 0x" ++ byteDigits error.byte ++ " in position " ++ toString error.position
    else
      "bytes in position " ++ toString error.position ++ "-" ++
        toString (error.position + error.count - 1)
  "'utf-8' codec can't decode " ++ place ++ ": " ++ error.problem.message

/-- The ranges that the bytes after a first byte must be in, and the bits that the first
byte contributes. -/
def shape? (first : UInt8) : Option (List (Nat × Nat) × Nat) :=
  let code := first.toNat
  let any : Nat × Nat := (0x80, 0xBF)
  if code < 0x80 then some ([], code)
  else if code < 0xC2 then none
  else if code < 0xE0 then some ([any], code - 0xC0)
  else if code == 0xE0 then some ([(0xA0, 0xBF), any], 0)
  else if code == 0xED then some ([(0x80, 0x9F), any], 0xD)
  else if code < 0xF0 then some ([any, any], code - 0xE0)
  else if code == 0xF0 then some ([(0x90, 0xBF), any, any], 0)
  else if code < 0xF4 then some ([any, any, any], code - 0xF0)
  else if code == 0xF4 then some ([(0x80, 0x8F), any, any], 4)
  else none

/-- A sequence that has been begun. -/
structure Sequence where
  position : Nat
  byte : UInt8
  /-- The count of its bytes so far. -/
  count : Nat
  /-- The value of its bits so far. -/
  value : Nat
  /-- The ranges of the bytes that are still to come. -/
  expected : List (Nat × Nat)

/-- Decodes bytes from a position on, in the middle of a sequence or between two. -/
def decodeFrom (position : Nat) (begun : Option Sequence) :
    List UInt8 → Except DecodeError (List Char)
  | [] =>
    match begun with
    | none => .ok []
    | some sequence =>
      .error ⟨.unexpectedEnd, sequence.position, sequence.byte, sequence.count⟩
  | byte :: rest =>
    match begun with
    | none =>
      match shape? byte with
      | none => .error ⟨.invalidStart, position, byte, 1⟩
      | some ([], value) =>
        (decodeFrom (position + 1) none rest).map (Char.ofNat value :: ·)
      | some (expected, value) =>
        decodeFrom (position + 1) (some ⟨position, byte, 1, value, expected⟩) rest
    | some sequence =>
      match sequence.expected with
      | [] => .error ⟨.invalidContinuation, sequence.position, sequence.byte, sequence.count⟩
      | range :: more =>
        if range.1 ≤ byte.toNat && byte.toNat ≤ range.2 then
          let value := sequence.value * 64 + (byte.toNat - 0x80)
          if more.isEmpty then
            (decodeFrom (position + 1) none rest).map (Char.ofNat value :: ·)
          else
            decodeFrom (position + 1)
              (some { sequence with count := sequence.count + 1, value, expected := more }) rest
        else
          .error ⟨.invalidContinuation, sequence.position, sequence.byte, sequence.count⟩

/-- The characters with every end of line as a line feed. -/
def normalizeLines : List Char → List Char
  | [] => []
  | '\r' :: '\n' :: rest => '\n' :: normalizeLines rest
  | character :: rest => (if character == '\r' then '\n' else character) :: normalizeLines rest

/-- The text of a document in bytes. -/
def readText (bytes : List UInt8) : Except DecodeError String :=
  (decodeFrom 0 none bytes).map fun characters => String.ofList (normalizeLines characters)

end GrammarTables.Text.Utf8
