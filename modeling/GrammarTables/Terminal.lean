import GrammarTables.Scalar

/-!
# Terminals

The token kinds of the consuming parser, and terminal symbols: a kind with the payload
that its token carries.  A kind has two names, the one in emitted literals and the one
that the lexer displays.  Identifiers and numbers carry data; a symbol of the grammar,
which stands for all tokens of its kind, carries an empty placeholder in its place.
-/

namespace GrammarTables

/-- The kinds of tokens. -/
inductive TokenKind where
  | endOfFile
  | identifier
  | integerNumber
  | floatNumber
  | equal
  | notEqual
  | less
  | greater
  | lessOrEqual
  | greaterOrEqual
  | plus
  | minus
  | times
  | divide
  | assign
  | openParenthesis
  | closeParenthesis
  | openBrace
  | closeBrace
  | openBracket
  | closeBracket
  | semicolon
  | comma
  | dot
  | colon
  | arrow
  | scope
  | orWord
  | andWord
  | notWord
  | integerWord
  | floatWord
  | voidWord
  | classWord
  | selfWord
  | isaWord
  | whileWord
  | ifWord
  | thenWord
  | elseWord
  | readWord
  | writeWord
  | returnWord
  | localVarWord
  | constructorWord
  | attributeWord
  | functionWord
  | publicWord
  | privateWord
  | inlineComment
  | blockComment
  deriving DecidableEq, Repr

namespace TokenKind

/-- All kinds in the order of their definition. -/
def all : List TokenKind :=
  [.endOfFile, .identifier, .integerNumber, .floatNumber, .equal, .notEqual, .less,
   .greater, .lessOrEqual, .greaterOrEqual, .plus, .minus, .times, .divide, .assign,
   .openParenthesis, .closeParenthesis, .openBrace, .closeBrace, .openBracket,
   .closeBracket, .semicolon, .comma, .dot, .colon, .arrow, .scope, .orWord, .andWord,
   .notWord, .integerWord, .floatWord, .voidWord, .classWord, .selfWord, .isaWord,
   .whileWord, .ifWord, .thenWord, .elseWord, .readWord, .writeWord, .returnWord,
   .localVarWord, .constructorWord, .attributeWord, .functionWord, .publicWord,
   .privateWord, .inlineComment, .blockComment]

theorem mem_all (kind : TokenKind) : kind ∈ all := by
  cases kind <;> decide

/-- The name of a kind in emitted literals. -/
def literalName : TokenKind → String
  | endOfFile => "EndOfFile"
  | identifier => "Id"
  | integerNumber => "IntNum"
  | floatNumber => "FloatNum"
  | equal => "Eq"
  | notEqual => "NotEq"
  | less => "Lt"
  | greater => "Gt"
  | lessOrEqual => "LEq"
  | greaterOrEqual => "GEq"
  | plus => "Plus"
  | minus => "Minus"
  | times => "Mult"
  | divide => "Div"
  | assign => "Assign"
  | openParenthesis => "OpenPar"
  | closeParenthesis => "ClosePar"
  | openBrace => "OpenCubr"
  | closeBrace => "CloseCubr"
  | openBracket => "OpenSqbr"
  | closeBracket => "CloseSqbr"
  | semicolon => "Semi"
  | comma => "Comma"
  | dot => "Dot"
  | colon => "Colon"
  | arrow => "ReturnType"
  | scope => "ScopeOp"
  | orWord => "Or"
  | andWord => "And"
  | notWord => "Not"
  | integerWord => "Integer"
  | floatWord => "Float"
  | voidWord => "Void"
  | classWord => "Class"
  | selfWord => "SelfT"
  | isaWord => "IsA"
  | whileWord => "While"
  | ifWord => "If"
  | thenWord => "Then"
  | elseWord => "Else"
  | readWord => "Read"
  | writeWord => "Write"
  | returnWord => "Return"
  | localVarWord => "LocalVar"
  | constructorWord => "Constructor"
  | attributeWord => "Attribute"
  | functionWord => "Function"
  | publicWord => "Public"
  | privateWord => "Private"
  | inlineComment => "InlineCmt"
  | blockComment => "BlockCmt"

/-- The name of a kind that the lexer displays. -/
def display : TokenKind → String
  | endOfFile => "$"
  | identifier => "id"
  | integerNumber => "intnum"
  | floatNumber => "floatnum"
  | equal => "eq"
  | notEqual => "noteq"
  | less => "lt"
  | greater => "gt"
  | lessOrEqual => "leq"
  | greaterOrEqual => "geq"
  | plus => "plus"
  | minus => "minus"
  | times => "mult"
  | divide => "div"
  | assign => "assign"
  | openParenthesis => "openpar"
  | closeParenthesis => "closepar"
  | openBrace => "opencubr"
  | closeBrace => "closecubr"
  | openBracket => "opensqbr"
  | closeBracket => "closesqbr"
  | semicolon => "semi"
  | comma => "comma"
  | dot => "dot"
  | colon => "colon"
  | arrow => "returntype"
  | scope => "scopeop"
  | orWord => "or"
  | andWord => "and"
  | notWord => "not"
  | integerWord => "integer"
  | floatWord => "float"
  | voidWord => "void"
  | classWord => "class"
  | selfWord => "self"
  | isaWord => "isa"
  | whileWord => "while"
  | ifWord => "if"
  | thenWord => "then"
  | elseWord => "else"
  | readWord => "read"
  | writeWord => "write"
  | returnWord => "return"
  | localVarWord => "localvar"
  | constructorWord => "constructor"
  | attributeWord => "attribute"
  | functionWord => "function"
  | publicWord => "public"
  | privateWord => "private"
  | inlineComment => "inlinecmt"
  | blockComment => "blockcmt"

def ofLiteralName? (name : String) : Option TokenKind :=
  all.find? fun kind => kind.literalName == name

/-- Whether tokens of the kind carry data. -/
def carriesData : TokenKind → Bool
  | identifier | integerNumber | floatNumber => true
  | _ => false

/-- The empty value that stands for the data of a kind. -/
def placeholder : TokenKind → Scalar
  | identifier => .text ""
  | integerNumber => .integer 0
  | floatNumber => .real (.signedZero false)
  | _ => .absent

end TokenKind

/-- A terminal symbol: a token kind with a payload. -/
structure Terminal where
  kind : TokenKind
  payload : Scalar
  deriving Repr

namespace Terminal

/-- The symbol that stands for all tokens of a kind. -/
def ofKind (kind : TokenKind) : Terminal := ⟨kind, kind.placeholder⟩

instance : Inhabited Terminal := ⟨ofKind .endOfFile⟩

/-- Two terminals are the same key when kind and payload are. -/
instance : BEq Terminal where
  beq left right := left.kind == right.kind && left.payload == right.payload

def hasPayload (symbol : Terminal) : Bool := symbol.kind.carriesData

/-- The name of the symbol that the lexer displays. -/
def display (symbol : Terminal) : String := symbol.kind.display

end Terminal

end GrammarTables
