/-!
# Suggestions

A name that is not known may be a misspelling.  The known names that begin most like it
are suggested, unless half of it or more differs; names of one or two characters are too
short to tell.
-/

namespace GrammarTables.Command

/-- The distances of a text, of which the first character, the second one and the length
are given, from all ends of another text.  The distances of the text without its first
character, and without its first two, come in the same order. -/
def distanceRow (first : Char) (second : Option Char) (length : Nat) :
    List Char → List Nat → List Nat → List Nat
  | [], _, _ => [length]
  | character :: rest, below, further =>
    let row := distanceRow first second length rest below.tail further.tail
    let added := below.headD 0 + 1
    let removed := row.headD 0 + 1
    let replaced := below.tail.headD 0 + (if first == character then 0 else 1)
    let least := min (min added removed) replaced
    let isSwapped := second == some character && rest.head? == some first
    (if isSwapped then min least (further.tail.tail.headD 0 + 1) else least) :: row

/-- The distances of the ends of a text, the longest one first, from all ends of another. -/
def distanceRows : List Char → List Char → List (List Nat)
  | [], other => [(List.range (other.length + 1)).reverse]
  | first :: rest, other =>
    let rows := distanceRows rest other
    distanceRow first rest.head? (rest.length + 1) other (rows.headD [])
      (rows.tail.headD []) :: rows

/-- The least count of insertions, deletions, replacements and swaps of neighbours that
make one text from the other. -/
def editDistance (left right : List Char) : Nat :=
  ((distanceRows left right).headD []).headD 0

/-- The known names that begin most like a name, unless half of it or more differs. -/
def suggestions (known : List String) (name : String) : List String :=
  let characters := name.toList
  let ranked := known.map fun other =>
    (editDistance characters (other.toList.take characters.length), other)
  match (ranked.map Prod.fst).min? with
  | none => []
  | some least =>
    if characters.length ≤ 2 || characters.length ≤ 2 * least then []
    else ((ranked.filter (·.1 == least)).map Prod.snd).mergeSort
      fun left right => left < right || left == right

end GrammarTables.Command
