import GrammarTables.Vocabulary

/-!
# Grammar symbols

A symbol as a page marks it up is a kind with a name.  Resolved, it is a reference to a
terminal, to a nonterminal, or a semantic action between them.  Only names of terminals
have to be in the vocabulary.
-/

namespace GrammarTables

/-- A symbol as it is marked up: the name of its element, and its text. -/
structure RawSymbol where
  kind : String
  name : String
  deriving DecidableEq, Repr

/-- A reference in the body of a production. -/
inductive SymbolRef where
  | terminal (symbol : Terminal)
  | nonterminal (name : String)
  | action (name kind : String)
  /-- A value that a caller supplied and that is no reference at all.  Tables that are
  read from a page never hold one, and whatever renders references refuses it. -/
  | foreign (value : Scalar)
  deriving Repr

/-- The reference that a marked up symbol makes.  A kind that is neither that of terminals
nor that of nonterminals makes an action. -/
def SymbolRef.ofRaw (symbol : RawSymbol) : Except Defect SymbolRef :=
  if symbol.kind == "term" then (Vocabulary.resolve symbol.name).map .terminal
  else if symbol.kind == "nonterm" then .ok (.nonterminal symbol.name)
  else .ok (.action symbol.name symbol.kind)

end GrammarTables
