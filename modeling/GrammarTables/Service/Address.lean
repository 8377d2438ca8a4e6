import GrammarTables.Hostname.Name
import GrammarTables.Text.Utf8

/-!
# Addresses

A request names what it is for by an address: a path on the service, perhaps with a query,
or a whole URL.  Of a whole URL the place has to be sound, but it does not matter, and
neither does the query.  What counts is the path, without its dot segments and with its
escapes resolved.
-/

namespace GrammarTables.Service

/-- What is wrong with an address. -/
inductive AddressProblem where
  | tooLong
  | unprintable (character : Char) (position : Nat)
  /-- The host is not sound in the style that it is written in. -/
  | malformedHost (style : Hostname.Style) (host : String)
  | malformedPort (port : String)
  /-- A path alone would read as a place. -/
  | leadingSlashes
  /-- A path alone would read as a scheme. -/
  | leadingColon
  deriving DecidableEq, Repr

/-- What a host that is written in a style should be. -/
def hostKind : Hostname.Style → String
  | .numeric => "IPv4 address"
  | .bracketed => "IPv6 address"
  | .plain => "hostname"
  | .international => "IDNA hostname"

def AddressProblem.message : AddressProblem → String
  | tooLong => "URL too long"
  | unprintable character position =>
    "Invalid non-printable ASCII character in URL, " ++
      Text.quoted (String.singleton character) ++ " at position " ++ toString position ++ "."
  | malformedHost style host => "Invalid " ++ hostKind style ++ ": " ++ Text.quoted host
  | malformedPort port => "Invalid port: " ++ Text.quoted port
  | leadingSlashes => "Relative URLs cannot have a path starting with '//'"
  | leadingColon => "Relative URLs cannot have a path starting with ':'"

/-- The parts of an address in front of its query. -/
structure Address where
  scheme : List Char
  user : List Char
  host : List Char
  port : List Char
  path : List Char
  deriving DecidableEq, Repr

namespace Address

/-- The greatest count of characters of an address. -/
def lengthLimit : Nat := 65536

/-- Whether a character is a plain one that is not printed. -/
def isUnprintable (character : Char) : Bool :=
  character.toNat < 0x20 || character.toNat == 0x7F

def isSchemeChar (character : Char) : Bool :=
  character.isAlphanum || ['+', '.', '-'].contains character

/-- The scheme in front of a colon, and what follows the colon.  It may be empty, and
begins with a letter otherwise. -/
def splitScheme (characters : List Char) : List Char × List Char :=
  let scheme := characters.takeWhile isSchemeChar
  match (scheme.head?.map Char.isAlpha).getD true, characters.drop scheme.length with
  | true, ':' :: rest => (scheme, rest)
  | _, _ => ([], characters)

/-- What is in front of the last copy of a mark, without it, and what follows it.  Without a
mark nothing is in front. -/
def splitLast (mark : Char) (characters : List Char) : List Char × List Char :=
  let after := (characters.reverse.takeWhile (· != mark)).reverse
  (characters.take (characters.length - after.length - 1), after)

/-- The host of a place, which a port may follow.  A host between brackets may have
colons. -/
def splitHost (place : List Char) : List Char × List Char :=
  let host :=
    if place.head? == some '[' && place.contains ']' then (splitLast ']' place).1 ++ [']']
    else place.takeWhile (· != ':')
  match place.drop host.length with
  | ':' :: port => (host, port)
  | port => (host, port)

/-- The parts of an address. -/
def split (characters : List Char) : Address :=
  let front := characters.takeWhile fun character => character != '?' && character != '#'
  let (scheme, rest) := splitScheme front
  match rest with
  | '/' :: '/' :: rest =>
    let (user, place) := splitLast '@' (rest.takeWhile (· != '/'))
    let (host, port) := splitHost place
    ⟨scheme.map Char.toLower, user, host, port, rest.dropWhile (· != '/')⟩
  | path => ⟨scheme.map Char.toLower, [], [], [], path⟩

/-- Whether the address names a place. -/
def hasPlace (address : Address) : Bool :=
  !(address.user.isEmpty && address.host.isEmpty && address.port.isEmpty)

/-- Whether the address is a whole URL. -/
def isWhole (address : Address) : Bool :=
  !(address.scheme.isEmpty || address.host.isEmpty)

/-- What is wrong with the parts of an address. -/
def problem? (address : Address) : Option AddressProblem :=
  let port := String.ofList address.port
  let isAlone := address.scheme.isEmpty && !address.hasPlace
  if !Hostname.isSound address.host then
    some (.malformedHost (Hostname.Style.of address.host) (String.ofList address.host))
  else if !port.isEmpty && (Numeral.readInt port).toOption.isNone then some (.malformedPort port)
  else if isAlone && "//".toList.isPrefixOf address.path then some .leadingSlashes
  else if isAlone && address.path.head? == some ':' then some .leadingColon
  else none

/-- The segments of a path without those that are dots.  Two dots take away the segment in
front of them, if it is not the root. -/
def withoutDots (path : List Char) : List Char :=
  let step (kept : List (List Char)) (segment : List Char) : List (List Char) :=
    if segment == ['.'] then kept
    else if segment == ['.', '.'] then if kept == [[]] then kept else kept.drop 1
    else segment :: kept
  ['/'].intercalate ((path.splitOn '/').foldl step []).reverse

/-- The path on the service that the address leads to, with its escapes.  A path which is
not that of a whole URL begins with one slash. -/
def servicePath (address : Address) : List Char :=
  let path :=
    if address.scheme.isEmpty && !address.hasPlace then address.path
    else withoutDots address.path
  let path :=
    if address.isWhole then path
    else withoutDots ('/' :: path.dropWhile (· == '/'))
  if path.isEmpty then ['/'] else path

/-- The byte that two hexadecimal digits in front stand for. -/
def escapedByte? : List Char → Option UInt8
  | first :: second :: _ => do
    return UInt8.ofNat ((← Numeral.digitInBase? 16 first) * 16 +
      (← Numeral.digitInBase? 16 second))
  | _ => none

/-- The bytes of characters after those to pass over, where a percent sign and two
hexadecimal digits stand for a byte. -/
def bytesAfter : Nat → List Char → List UInt8
  | _, [] => []
  | passed + 1, _ :: rest => bytesAfter passed rest
  | 0, character :: rest =>
    match if character == '%' then escapedByte? rest else none with
    | some byte => byte :: bytesAfter 2 rest
    | none => (String.singleton character).toUTF8.toList ++ bytesAfter 0 rest

/-- The characters with their escapes resolved.  Characters whose bytes are not UTF-8 are
left as they are; no path of the service has escapes. -/
def unescaped (characters : List Char) : List Char :=
  (Text.Utf8.decodeFrom 0 none (bytesAfter 0 characters)).toOption.getD characters

/-- The path on the service that the address leads to.  Escapes are resolved twice, on the
way to the service and in it. -/
def resolvedPath (address : Address) : String :=
  String.ofList (unescaped (unescaped address.servicePath))

def read (text : String) : Except AddressProblem Address :=
  let characters := text.toList
  if lengthLimit < characters.length then .error .tooLong
  else
    match characters.find? isUnprintable with
    | some character =>
      .error (.unprintable character (characters.takeWhile (· != character)).length)
    | none =>
      let address := split characters
      match address.problem? with
      | some problem => .error problem
      | none => .ok address

end Address

end GrammarTables.Service
