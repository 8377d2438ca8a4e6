import GrammarTables.Service.Message

/-!
# Sending requests on

A request for a path with slashes at its end is sent on to the path without them.  The host
of the new address is taken from the header field that names it, if the value of the field
can be a host.
-/

namespace GrammarTables.Service

/-- Whether characters are a host: a name of plain letters, digits, dots and hyphens, or
between brackets hexadecimal digits with colons and dots. -/
def isHostValue (host : List Char) : Bool :=
  let inner := (host.drop 1).dropLast
  if host.head? == some '[' then
    host.getLast? == some ']' && inner.contains ':' &&
      inner.all fun character =>
        (Numeral.digitInBase? 16 character).isSome || character == ':' || character == '.'
  else
    !host.isEmpty &&
      host.all fun character => character.isAlphanum || character == '.' || character == '-'

/-- The host that a header field names, if its value is a host and perhaps a port. -/
def namedHost? (request : Request) : Option (List Char) := do
  let value := (← request.header? "host").toList
  let (host, port) := Address.splitHost value
  if isHostValue host && port.all Char.isDigit &&
      (port.isEmpty == (value.length == host.length)) then
    some host
  else none

/-- Why a request cannot be sent on. -/
def redirectFailure? (request : Request) : Option Failure := do
  let host ← namedHost? request
  if Hostname.isSound host then (Hostname.encodedProblem? host).map .label
  else some (.redirected (.malformedHost (Hostname.Style.of host) (String.ofList host)))

end GrammarTables.Service
