/-!
# Which elements may contain which

Pages leave out end tags.  Three tables say what is meant: which elements never have
content, which start tags close the innermost open element because it cannot contain
them, and which open elements an end tag may close on its way to the one it names.
Elements in none of the tables, and so all unknown ones, contain whatever is written in
them.
-/

namespace GrammarTables.Markup

/-- The elements that never have content. -/
def voidElements : List String :=
  ["area", "base", "basefont", "br", "col", "frame", "hr", "img", "input", "isindex",
   "link", "meta", "param"]

/-- The elements that belong to the head while only the root is open. -/
def headElements : List String := ["script", "style", "meta", "link", "title", "base"]

/-- The elements that stand beside the body and imply none. -/
def frameElements : List String := ["noframes", "frame", "frameset"]

/-- The elements that every page has once, whether or not it has tags for them. -/
def structuralElements : List String := ["html", "head", "body"]

/-- The start tags that close a heading. -/
def headingEnds : List String := ["fieldset", "form", "li", "p", "table"]

def preformattedEnds : List String :=
  ["dd", "dl", "dt", "fieldset", "form", "li", "table", "ul"]

def cellEnds : List String := ["tbody", "td", "tfoot", "th", "tr"]

def paragraphEnds : List String :=
  ["address", "blockquote", "body", "caption", "center", "col", "colgroup", "dd", "dir",
   "div", "dl", "dt", "fieldset", "form", "frameset", "h1", "h2", "h3", "h4", "h5", "h6",
   "head", "hr", "li", "listing", "menu", "ol", "p", "pre", "table", "tbody", "td",
   "tfoot", "th", "title", "tr", "ul", "xmp"]

def headEnds : List String :=
  ["a", "abbr", "acronym", "address", "b", "bdo", "big", "blockquote", "body", "br",
   "center", "cite", "code", "dd", "dfn", "dir", "div", "dl", "dt", "em", "fieldset",
   "font", "form", "frameset", "h1", "h2", "h3", "h4", "h5", "h6", "hr", "i", "iframe",
   "img", "kbd", "li", "listing", "map", "menu", "ol", "p", "pre", "q", "s", "samp",
   "small", "span", "strike", "strong", "sub", "sup", "table", "tt", "u", "ul", "var",
   "xmp"]

/-- For an innermost open element, the start tags that close it. -/
def closingTags : List (String × List String) :=
  [("a", ["a", "fieldset", "table", "td", "th"]),
   ("address", ["dd", "dl", "dt", "form", "li", "ul"]),
   ("b", ["center", "p", "td", "th"]),
   ("big", ["p"]),
   ("caption", ["col", "colgroup", "tbody", "tfoot", "thead", "tr"]),
   ("colgroup", ["colgroup", "tbody", "tfoot", "thead", "tr"]),
   ("dd", ["dt"]),
   ("dir", ["dd", "dl", "dt", "form", "ul"]),
   ("dl", ["form", "li"]),
   ("dt", ["dd", "dl"]),
   ("font", ["center", "td", "th"]),
   ("form", ["form"]),
   ("h1", headingEnds),
   ("h2", headingEnds),
   ("h3", headingEnds),
   ("h4", headingEnds),
   ("h5", headingEnds),
   ("h6", headingEnds),
   ("head", headEnds),
   ("i", ["center", "p", "td", "th"]),
   ("legend", ["fieldset"]),
   ("li", ["li"]),
   ("listing", preformattedEnds),
   ("menu", ["dd", "dl", "dt", "form", "ul"]),
   ("ol", ["form"]),
   ("option", ["optgroup", "option"]),
   ("p", paragraphEnds),
   ("pre", preformattedEnds),
   ("s", ["p"]),
   ("script", ["noscript"]),
   ("small", ["p"]),
   ("span", ["td", "th"]),
   ("strike", ["p"]),
   ("style", ["body", "frameset"]),
   ("tbody", ["tbody", "tfoot"]),
   ("td", cellEnds),
   ("tfoot", ["tbody"]),
   ("th", cellEnds),
   ("thead", ["tbody", "tfoot"]),
   ("title", ["body", "frameset"]),
   ("tr", ["tbody", "tfoot", "tr"]),
   ("tt", ["p"]),
   ("u", ["p", "td", "th"]),
   ("ul", ["address", "form", "menu", "pre"]),
   ("xmp", preformattedEnds)]

/-- Whether a start tag closes an innermost open element. -/
def isClosedBy (element tag : String) : Bool :=
  ((closingTags.lookup element).getD []).contains tag

/-- The ranks of the elements that end tags of lower rank cannot close. -/
def ranks : List (String × Nat) :=
  [("div", 150), ("td", 160), ("th", 160), ("tr", 170), ("thead", 180), ("tbody", 180),
   ("tfoot", 180), ("table", 190), ("head", 200), ("body", 200), ("html", 220)]

/-- The rank of an element. -/
def rank (element : String) : Nat := (ranks.lookup element).getD 100

end GrammarTables.Markup
