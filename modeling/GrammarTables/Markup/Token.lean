import GrammarTables.Markup.Reference

/-!
# Tokens of markup

A page is a sequence of start tags, end tags, comments and runs of text.  The scanner
reads one character at a time; its mode says what has been begun.  What is not a tag or a
comment is text, and no page is refused:

* an angle bracket that begins neither a tag nor a declaration is text;
* a tag, comment or declaration that the page ends in is dropped;
* declarations, document types among them, and processing instructions count as comments;
* the content of scripts and style sheets is one run of raw text up to the end tag.
-/

namespace GrammarTables.Markup

/-- A named attribute with its value. -/
abbrev Attribute : Type := String × String

inductive Token where
  | startTag (name : String) (attributes : List Attribute) (closed : Bool)
  | endTag (name : String)
  | comment
  | text (content : String)
  /-- The content of a script or style sheet, in which references mean nothing. -/
  | rawText (content : String)
  deriving DecidableEq, Repr

/-- The blanks that separate the parts of a tag. -/
def isTagBlank (character : Char) : Bool :=
  character == ' ' || character == '\t' || character == '\n' || character == '\r' ||
    character == '\x0c'

/-- The elements whose content is raw text. -/
def rawTextElements : List String := ["script", "style"]

/-- A tag of which the name and some attributes have been read. -/
structure PartialTag where
  closing : Bool
  name : String
  /-- The attributes read so far, the first one of each name only. -/
  attributes : List Attribute

namespace PartialTag

/-- Adds an attribute, given by its characters in reverse order, unless the tag has one of
that name. -/
def add (tag : PartialTag) (name value : List Char) : PartialTag :=
  let name := String.ofList name.reverse
  if tag.attributes.any (·.1 == name) then tag
  else
    let value := String.ofList (Reference.decode value.reverse)
    { tag with attributes := tag.attributes ++ [(name, value)] }

/-- The token that the tag makes when it ends. -/
def toToken (tag : PartialTag) (closed : Bool) : Token :=
  if tag.closing then .endTag tag.name else .startTag tag.name tag.attributes closed

end PartialTag

/-- What the scanner has begun.  Lists of characters are in reverse order. -/
inductive Mode where
  /-- A run of text. -/
  | content (run : List Char)
  /-- An angle bracket after a run of text. -/
  | tagOpen (run : List Char)
  /-- An angle bracket and a slash after a run of text. -/
  | endTagOpen (run : List Char)
  /-- The name of a tag. -/
  | tagName (closing : Bool) (name : List Char)
  /-- A place in a tag where an attribute may begin. -/
  | betweenAttributes (tag : PartialTag)
  /-- The name of an attribute. -/
  | attributeName (tag : PartialTag) (name : List Char)
  /-- Blanks after the name of an attribute. -/
  | afterName (tag : PartialTag) (name : List Char)
  /-- An equals sign after the name of an attribute. -/
  | beforeValue (tag : PartialTag) (name : List Char)
  /-- The value of an attribute, inside its quotation marks if it has any. -/
  | value (tag : PartialTag) (name : List Char) (mark : Option Char) (value : List Char)
  /-- A slash in a tag. -/
  | afterSlash (tag : PartialTag)
  /-- A declaration, with what follows its exclamation mark. -/
  | declaration (body : List Char)
  /-- A comment in which nothing has been read, or one dash only. -/
  | commentStart (dash : Bool)
  /-- A comment that ends in this many dashes so far, and then in an exclamation mark. -/
  | comment (dashes : Nat) (mark : Bool)
  /-- Anything that is dropped up to the next closing angle bracket. -/
  | dropped
  /-- The content of a script or style sheet. -/
  | raw (element : String) (run : List Char)
  /-- What may be the end tag of a script or style sheet, after its content. -/
  | rawEnd (element : String) (run : List Char) (seen : List Char)

/-- The tokens complete so far, in reverse order, and what has been begun. -/
structure Scanner where
  tokens : List Token
  mode : Mode

namespace Scanner

def start : Scanner := ⟨[], .content []⟩

/-- The tokens with the one for a run of text, if there is any text. -/
def withText (tokens : List Token) (run : List Char) : List Token :=
  if run.isEmpty then tokens
  else .text (String.ofList (Reference.decode run.reverse)) :: tokens

/-- The tokens with the one for a run of raw text, if there is any text. -/
def withRawText (tokens : List Token) (run : List Char) : List Token :=
  if run.isEmpty then tokens else .rawText (String.ofList run.reverse) :: tokens

/-- Ends a tag.  After the start tag of a script or style sheet raw text follows. -/
def endTag (tokens : List Token) (tag : PartialTag) (closed : Bool) : Scanner :=
  let mode :=
    if !tag.closing && !closed && rawTextElements.contains tag.name then
      Mode.raw tag.name []
    else .content []
  ⟨tag.toToken closed :: tokens, mode⟩

/-- Continues where an attribute may begin. -/
def betweenAttributes (tokens : List Token) (tag : PartialTag) (character : Char) : Scanner :=
  if isTagBlank character then ⟨tokens, .betweenAttributes tag⟩
  else if character == '/' then ⟨tokens, .afterSlash tag⟩
  else if character == '>' then endTag tokens tag false
  else ⟨tokens, .attributeName tag [character.toLower]⟩

/-- Continues after the complete name of an attribute. -/
def afterName (tokens : List Token) (tag : PartialTag) (name : List Char)
    (character : Char) : Scanner :=
  if isTagBlank character then ⟨tokens, .afterName tag name⟩
  else if character == '=' then ⟨tokens, .beforeValue tag name⟩
  else betweenAttributes tokens (tag.add name []) character

def step (scanner : Scanner) (character : Char) : Scanner :=
  let tokens := scanner.tokens
  match scanner.mode with
  | .content run =>
    if character == '<' then ⟨tokens, .tagOpen run⟩
    else ⟨tokens, .content (character :: run)⟩
  | .tagOpen run =>
    if character.isAlpha then ⟨withText tokens run, .tagName false [character.toLower]⟩
    else if character == '/' then ⟨tokens, .endTagOpen run⟩
    else if character == '!' then ⟨withText tokens run, .declaration []⟩
    else if character == '?' then ⟨withText tokens run, .dropped⟩
    else if character == '<' then ⟨tokens, .tagOpen ('<' :: run)⟩
    else ⟨tokens, .content (character :: '<' :: run)⟩
  | .endTagOpen run =>
    if character.isAlpha then ⟨withText tokens run, .tagName true [character.toLower]⟩
    else if character == '>' then ⟨tokens, .content run⟩
    else ⟨withText tokens run, .dropped⟩
  | .tagName closing name =>
    if isTagBlank character || character == '/' || character == '>' then
      betweenAttributes tokens ⟨closing, String.ofList name.reverse, []⟩ character
    else ⟨tokens, .tagName closing (character.toLower :: name)⟩
  | .betweenAttributes tag => betweenAttributes tokens tag character
  | .attributeName tag name =>
    if isTagBlank character || character == '/' || character == '>' || character == '=' then
      afterName tokens tag name character
    else ⟨tokens, .attributeName tag (character.toLower :: name)⟩
  | .afterName tag name => afterName tokens tag name character
  | .beforeValue tag name =>
    if isTagBlank character then ⟨tokens, .beforeValue tag name⟩
    else if character == '"' || character == '\'' then
      ⟨tokens, .value tag name (some character) []⟩
    else if character == '>' then endTag tokens (tag.add name []) false
    else ⟨tokens, .value tag name none [character]⟩
  | .value tag name (some mark) value =>
    if character == mark then ⟨tokens, .betweenAttributes (tag.add name value)⟩
    else ⟨tokens, .value tag name (some mark) (character :: value)⟩
  | .value tag name none value =>
    if isTagBlank character then ⟨tokens, .betweenAttributes (tag.add name value)⟩
    else if character == '>' then endTag tokens (tag.add name value) false
    else ⟨tokens, .value tag name none (character :: value)⟩
  | .afterSlash tag =>
    if character == '>' then endTag tokens tag true
    else betweenAttributes tokens tag character
  | .declaration body =>
    if character == '>' then ⟨.comment :: tokens, .content []⟩
    else if character == '-' && body == ['-'] then ⟨tokens, .commentStart false⟩
    else ⟨tokens, .declaration (character :: body)⟩
  | .commentStart dash =>
    if character == '>' then ⟨.comment :: tokens, .content []⟩
    else if character == '-' then
      ⟨tokens, if dash then .comment 2 false else .commentStart true⟩
    else ⟨tokens, .comment 0 false⟩
  | .comment dashes mark =>
    if character == '>' && 2 ≤ dashes then ⟨.comment :: tokens, .content []⟩
    else if character == '-' then ⟨tokens, .comment (if mark then 1 else dashes + 1) false⟩
    else if character == '!' && 2 ≤ dashes && !mark then ⟨tokens, .comment dashes true⟩
    else ⟨tokens, .comment 0 false⟩
  | .dropped =>
    if character == '>' then ⟨.comment :: tokens, .content []⟩ else ⟨tokens, .dropped⟩
  | .raw element run =>
    if character == '<' then ⟨tokens, .rawEnd element run ['<']⟩
    else ⟨tokens, .raw element (character :: run)⟩
  | .rawEnd element run seen =>
    let expected := '<' :: '/' :: element.toList
    if seen.length == expected.length &&
        (isTagBlank character || character == '/' || character == '>') then
      betweenAttributes (withRawText tokens run) ⟨true, element, []⟩ character
    else if (seen.length < expected.length) &&
        expected[seen.length]? == some character.toLower then
      ⟨tokens, .rawEnd element run (character :: seen)⟩
    else if character == '<' then ⟨tokens, .rawEnd element (seen ++ run) ['<']⟩
    else ⟨tokens, .raw element (character :: seen ++ run)⟩

/-- The tokens of a page that ends here. -/
def finish (scanner : Scanner) : List Token :=
  let tokens :=
    match scanner.mode with
    | .content run => withText scanner.tokens run
    | .tagOpen run => withText scanner.tokens ('<' :: run)
    | .endTagOpen run => withText scanner.tokens ('/' :: '<' :: run)
    | .raw _ run => withRawText scanner.tokens run
    | .rawEnd _ run seen => withRawText scanner.tokens (seen ++ run)
    | _ => scanner.tokens
  tokens.reverse

end Scanner

def Token.scan (page : List Char) : List Token :=
  (page.foldl Scanner.step Scanner.start).finish

end GrammarTables.Markup
