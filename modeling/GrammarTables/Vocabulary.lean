import GrammarTables.Defect
import GrammarTables.Terminal

/-!
# The vocabulary

The raw names under which terminals occur in rendered grammar tables.  Names are case
sensitive, and several of them may stand for the same token kind.
-/

namespace GrammarTables.Vocabulary

/-- Raw names with the kinds they stand for, in the order of the registry. -/
def registry : List (String × TokenKind) :=
  [("$", .endOfFile), ("eof", .endOfFile), ("id", .identifier), ("intlit", .integerNumber),
   ("intnum", .integerNumber), ("floatlit", .floatNumber), ("floatnum", .floatNumber),
   ("equal", .assign), ("eq", .equal), ("neq", .notEqual), ("noteq", .notEqual),
   ("lt", .less), ("gt", .greater), ("leq", .lessOrEqual), ("geq", .greaterOrEqual),
   ("plus", .plus), ("minus", .minus), ("mult", .times), ("div", .divide),
   ("assign", .assign), ("lpar", .openParenthesis), ("openpar", .openParenthesis),
   ("rpar", .closeParenthesis), ("closepar", .closeParenthesis), ("lcurbr", .openBrace),
   ("opencubr", .openBrace), ("rcurbr", .closeBrace), ("closecubr", .closeBrace),
   ("lsqbr", .openBracket), ("opensqbr", .openBracket), ("rsqbr", .closeBracket),
   ("closesqbr", .closeBracket), ("semi", .semicolon), ("comma", .comma), ("dot", .dot),
   ("colon", .colon), ("arrow", .arrow), ("returntype", .arrow), ("sr", .scope),
   ("scopeop", .scope), ("or", .orWord), ("and", .andWord), ("not", .notWord),
   ("integer", .integerWord), ("float", .floatWord), ("void", .voidWord),
   ("class", .classWord), ("self", .selfWord), ("isa", .isaWord), ("while", .whileWord),
   ("if", .ifWord), ("then", .thenWord), ("else", .elseWord), ("read", .readWord),
   ("write", .writeWord), ("return", .returnWord), ("localvar", .localVarWord),
   ("constructor", .constructorWord), ("constructorkeyword", .constructorWord),
   ("attribute", .attributeWord), ("function", .functionWord), ("public", .publicWord),
   ("private", .privateWord), ("inlinecmt", .inlineComment), ("blockcmt", .blockComment)]

/-- The kind that a raw name stands for. -/
def kind? (name : String) : Option TokenKind :=
  registry.lookup name

/-- The terminal that a raw name stands for. -/
def find? (name : String) : Option Terminal :=
  (kind? name).map Terminal.ofKind

/-- The terminal that a raw name stands for; a name which is not registered is a defect. -/
def resolve (name : String) : Except Defect Terminal :=
  match find? name with
  | some symbol => .ok symbol
  | none => .error (.unknownSymbol name [])

end GrammarTables.Vocabulary
