import GrammarTables.Number.Numeral

/-!
# Numeric hosts

A host can be the number of a machine instead of a name: four bytes in decimal with dots
between them, or eight groups of hexadecimal digits with colons between them.  One run of
groups that are zero may be left out, the last two groups may be written as four bytes, and
the name of a zone may follow after a percent sign.
-/

namespace GrammarTables.Hostname

/-- The states in which a host that looks like four numbers may be after some characters:
how many numbers are still to come, and whether the last one has begun. -/
def numberStates (states : List (Nat × Bool)) (character : Char) : List (Nat × Bool) :=
  (states.flatMap fun (left, begun) =>
    (if character.isDigit then [(left, true)] else []) ++
      (if begun && 0 < left then [(left - 1, false)] else [])).eraseDups

/-- Whether a host looks like four numbers, whatever character stands between them. -/
def looksNumeric (host : List Char) : Bool :=
  (host.foldl numberStates [(3, false)]).contains (0, true)

/-- Whether characters are a byte in decimal, without zeros in front. -/
def isByte (digits : List Char) : Bool :=
  !digits.isEmpty && digits.all Char.isDigit && digits.length ≤ 3 &&
    (digits == ['0'] || digits.head? != some '0') &&
    digits.foldl (fun total digit => total * 10 + (digit.toNat - '0'.toNat)) 0 < 0x100

/-- Whether a host is four bytes with dots between them. -/
def isFourBytes (host : List Char) : Bool :=
  let parts := host.splitOn '.'
  parts.length == 4 && parts.all isByte

/-- Whether characters are a group of hexadecimal digits. -/
def isGroup (digits : List Char) : Bool :=
  !digits.isEmpty && digits.length ≤ 4 &&
    digits.all fun digit => (Numeral.digitInBase? 16 digit).isSome

/-- Groups with four bytes at the end as the two groups that they stand for, if they can be
read. -/
def withoutBytes (groups : List (List Char)) : Option (List (List Char)) :=
  match groups.getLast? with
  | some last =>
    if last.contains '.' then
      if isFourBytes last then some (groups.dropLast ++ [['0'], ['0']]) else none
    else some groups
  | none => some groups

/-- Whether groups on one side of those left out are sound.  Nothing needs to be there. -/
def isSide (groups : List (List Char)) : Bool := groups == [[]] || groups.all isGroup

/-- The count of groups on one side. -/
def sideLength (groups : List (List Char)) : Nat :=
  if groups == [[]] then 0 else groups.length

/-- Whether groups, with empty ones where some are left out, are eight groups. -/
def isEightGroups (groups : List (List Char)) : Bool :=
  let inner := (groups.drop 1).dropLast
  let before := (inner.takeWhile (!·.isEmpty)).length + 1
  if inner.all (!·.isEmpty) then groups.length == 8 && groups.all isGroup
  else
    let left := groups.take before
    let right := groups.drop (before + 1)
    (inner.filter List.isEmpty).length == 1 && isSide left && isSide right &&
      sideLength left + sideLength right < 8

/-- Whether what is between brackets is groups with colons between them, and the name of a
zone if there is one. -/
def isGroupsInZone (inner : List Char) : Bool :=
  let number := inner.takeWhile (· != '%')
  let isZone :=
    match inner.drop number.length with
    | [] => true
    | _ :: zone => !zone.isEmpty && !zone.contains '%'
  let groups := number.splitOn ':'
  isZone && 3 ≤ groups.length && (withoutBytes groups).any isEightGroups

end GrammarTables.Hostname
