import GrammarTables.Hostname.Label
import GrammarTables.Hostname.Numeric
import GrammarTables.Text.CaseFolding
import GrammarTables.Text.EncodeError

/-!
# Hosts

The host of an address is a number or a name.  Names of plain characters are taken as they
are.  Those with other characters must have labels that can be sent; several characters
stand for the dot between labels.
-/

namespace GrammarTables.Hostname

/-- How a host is written. -/
inductive Style where
  /-- As four numbers. -/
  | numeric
  /-- Between brackets. -/
  | bracketed
  | plain
  | international
  deriving DecidableEq, Repr

def Style.of (host : List Char) : Style :=
  if looksNumeric host then numeric
  else if host.head? == some '[' && host.getLast? == some ']' && 2 ≤ host.length then bracketed
  else if host.all (·.toNat < Punycode.firstCode) then plain
  else international

def dot : Nat := 0x2E

/-- The labels of a name.  There may be a dot at its end. -/
def labels (name : List Nat) : List (List Nat) :=
  let dots := [dot, 0x3002, 0xFF0E, 0xFF61]
  let parts := (name.map fun code => if dots.contains code then dot else code).splitOn dot
  if parts.getLast? == some [] then parts.dropLast else parts

/-- Whether a name in lower case can be sent. -/
def isEncodable (name : List Nat) : Bool :=
  name.length ≤ Label.nameLimit &&
    ((labels name).mapM Label.encoded?).any fun encoded =>
      !encoded.isEmpty && ([dot].intercalate encoded).length < Label.nameLimit

/-- Whether a host is sound as it is written. -/
def isSound (host : List Char) : Bool :=
  match Style.of host with
  | .numeric => isFourBytes host
  | .bracketed => isGroupsInZone (host.drop 1).dropLast
  | .plain => true
  | .international => isEncodable (Text.codePoints (Text.lowerCase (String.ofList host)))

/-- A plain character as it is sent: some are written as escapes. -/
def sentChar (character : Char) : List Char :=
  if [' ', '<', '>', '[', ']', '^'].contains character then
    '%' :: Text.hexDigits 2 character.toNat
  else [character.toLower]

/-- What is wrong with a plain host of which the first label is encoded.  It is only found
when the host is looked at, and then in all labels. -/
def encodedProblem? (host : List Char) : Option LabelProblem :=
  let sent := (host.flatMap sentChar).map Char.toNat
  if Style.of host == .plain && Label.encodedMark.isPrefixOf sent then
    if Label.nameLimit < sent.length then some .domainTooLong
    else (labels sent).findSome? Label.plainProblem?
  else none

/-- The error of sending a host.  Only the name of a zone can have characters that are not
plain. -/
def encodeError? (host : List Char) : Option Text.EncodeError :=
  if Style.of host == .bracketed then Text.Charset.ascii.error? (host.map Char.toNat) else none

end GrammarTables.Hostname
