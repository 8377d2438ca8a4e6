import GrammarTables.Proofs.Traversal
import GrammarTables.Symbol

/-!
# Registered terminals

The symbols that the vocabulary gives out are the placeholders of the token kinds, each of
which has a name.  On them the comparison of keys is equality, which it is not on payloads
in general: numbers of different kinds can be the same key.
-/

namespace GrammarTables

/-- The symbol is what the vocabulary gives for some name. -/
def Terminal.IsRegistered (symbol : Terminal) : Prop :=
  ∃ name, Vocabulary.find? name = some symbol

namespace Vocabulary

theorem resolve_eq_ok_iff (name : String) (symbol : Terminal) :
    resolve name = .ok symbol ↔ find? name = some symbol := by
  cases found : find? name <;> simp [resolve, found]

/-- What the lexer displays for a kind is a name of that kind. -/
theorem kind?_display (kind : TokenKind) : kind? kind.display = some kind := by
  cases kind <;> rfl

end Vocabulary

/-- The registered symbols are those that stand for all tokens of a kind. -/
theorem Terminal.isRegistered_iff (symbol : Terminal) :
    symbol.IsRegistered ↔ ∃ kind, symbol = .ofKind kind := by
  constructor
  · rintro ⟨name, found⟩
    simp only [Vocabulary.find?, Option.map_eq_some_iff] at found
    obtain ⟨kind, -, eq⟩ := found
    exact ⟨kind, eq.symm⟩
  · rintro ⟨kind, rfl⟩
    exact ⟨kind.display, by simp [Vocabulary.find?, Vocabulary.kind?_display]⟩

theorem Terminal.isRegistered_of_forall₂ {names : List String} {symbols : List Terminal}
    (resolved : List.Forall₂ (fun name symbol => Vocabulary.find? name = some symbol) names
      symbols) : ∀ symbol ∈ symbols, symbol.IsRegistered :=
  forall_mem_of_forall₂ resolved fun name _ _ found => ⟨name, found⟩

/-- A number has the same value as itself, unless it is undefined. -/
theorem Binary64.sameValue_self {number : Binary64} (defined : number ≠ .undefined) :
    number.sameValue number = true := by
  cases number with
  | finite negative mantissa exponent =>
      simp only [Binary64.sameValue, Binary64.toQuotient?, beq_self_eq_true]
  | infinite negative => exact beq_self_eq_true negative
  | undefined => exact absurd rfl defined

theorem TokenKind.placeholder_beq_self (kind : TokenKind) :
    (kind.placeholder == kind.placeholder) = true := by
  cases kind with
  | floatNumber =>
      have same : (Binary64.signedZero false).sameValue (.signedZero false) = true :=
        Binary64.sameValue_self nofun
      exact same
  | _ => rfl

/-- On registered symbols, being the same key is being equal. -/
theorem Terminal.IsRegistered.beq_iff_eq {left right : Terminal}
    (leftRegistered : left.IsRegistered) (rightRegistered : right.IsRegistered) :
    (left == right) = true ↔ left = right := by
  obtain ⟨leftKind, rfl⟩ := (Terminal.isRegistered_iff left).mp leftRegistered
  obtain ⟨rightKind, rfl⟩ := (Terminal.isRegistered_iff right).mp rightRegistered
  constructor
  · intro same
    have kinds : leftKind = rightKind := by
      have both := (Bool.and_eq_true _ _).mp same
      exact of_decide_eq_true both.1
    rw [kinds]
  · intro equal
    rw [equal]
    exact (Bool.and_eq_true _ _).mpr
      ⟨decide_eq_true rfl, rightKind.placeholder_beq_self⟩

/-- A symbol makes no reference only if it is marked up as a terminal and its name is not
registered. -/
theorem SymbolRef.ofRaw_isError_iff (symbol : RawSymbol) :
    (∃ defect, SymbolRef.ofRaw symbol = .error defect) ↔
      symbol.kind = "term" ∧ Vocabulary.find? symbol.name = none := by
  by_cases isTerm : symbol.kind = "term"
  · cases found : Vocabulary.find? symbol.name <;>
      simp [SymbolRef.ofRaw, isTerm, Vocabulary.resolve, found, Except.map]
  · by_cases isNonterm : symbol.kind = "nonterm" <;>
      simp [SymbolRef.ofRaw, isTerm, isNonterm]

end GrammarTables
