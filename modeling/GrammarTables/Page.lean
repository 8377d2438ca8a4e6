/-!
# Pages

Builders for pages with rendered tables, in the form that the readers expect.  Names are
inserted as they are given: whoever wants a name with markup characters in it has to write
references.
-/

namespace GrammarTables.Page

/-- A page around the content of its body. -/
def frame (body : String) : String :=
  "<html><head><title>tables</title></head><body>" ++ body ++ "</body></html>"

/-- An element around its content. -/
def element (name content : String) : String :=
  "<" ++ name ++ ">" ++ content ++ "</" ++ name ++ ">"

def nonterminal (name : String) : String := element "nonterm" name

/-- A cell with the members of a set. -/
def setCell (names : List String) : String :=
  element "td" (", ".intercalate (names.map nonterminal))

def setRow (row : String × List String × List String) : String :=
  element "tr" (element "td" (nonterminal row.1) ++ setCell row.2.1 ++ setCell row.2.2)

def firstFollow (rows : List (String × List String × List String)) : String :=
  let titles := "<tr><th>nonterminal</th><th>first set</th><th>follow set</th></tr>"
  let lines := "<table class=\"stats\">" :: titles :: rows.map setRow ++ ["</table>"]
  frame ("<h1>First and Follow</h1>" ++ "\n".intercalate lines)

/-- The arrow between the marker and the body of a production. -/
def arrow : String := " &rarr; "

/-- The marked up symbols of a production, with the arrow after the first. -/
def production : List (String × String) → List String
  | [] => []
  | marker :: body =>
    element marker.1 marker.2 :: arrow :: body.map fun symbol => element symbol.1 symbol.2

/-- A cell of an LL(1) table. -/
def productionCell : Option (List (String × String)) → String
  | none => element "td" ""
  | some symbols => element "td" (" ".intercalate (production symbols))

def productionRow (row : String × List (Option (List (String × String)))) : String :=
  element "tr" (element "th" (nonterminal row.1) ++ String.join (row.2.map productionCell))

def parseTable (terminals : List String)
    (rows : List (String × List (Option (List (String × String))))) : String :=
  let columns := terminals.map fun name => element "th" (element "terminal" name)
  let header := element "tr" (element "th" "" ++ String.join columns)
  let lines := "<table class=\"parse_table\">" :: header :: rows.map productionRow ++
    ["</table>"]
  frame ("<h1>LL(1) Parsing Table</h1>" ++ "\n".intercalate lines)

end GrammarTables.Page
