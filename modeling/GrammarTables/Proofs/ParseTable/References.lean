import GrammarTables.Proofs.Literal.Reader
import GrammarTables.Proofs.ParseTable.Denotation

/-!
# References that marked up symbols make

A symbol that is marked up as neither a terminal nor a nonterminal makes an action of its own
kind.  So what the bodies of built tables hold is known without a page, for rows of any
content.
-/

namespace GrammarTables

namespace SymbolRef

/-- The reference is what some marked up symbol makes, of whatever kind that is. -/
def IsMade (reference : SymbolRef) : Prop :=
  ∃ symbol, ofRaw symbol = .ok reference

/-- Terminals that are made are registered, and actions are of no kind that has a meaning. -/
inductive IsTagged : SymbolRef → Prop where
  | terminal (kind : TokenKind) : IsTagged (.terminal (.ofKind kind))
  | nonterminal (name : String) : IsTagged (.nonterminal name)
  | action (name : String) {kind : String} (notTerm : kind ≠ "term")
      (notNonterm : kind ≠ "nonterm") : IsTagged (.action name kind)

theorem IsMade.isTagged {reference : SymbolRef} (made : reference.IsMade) :
    reference.IsTagged := by
  obtain ⟨⟨kind, name⟩, referred⟩ := made
  by_cases isTerm : kind = "term"
  · subst isTerm
    obtain ⟨symbol, resolved, rfl⟩ := (map_eq_ok_iff ..).mp referred
    have registered : symbol.IsRegistered :=
      ⟨name, (Vocabulary.resolve_eq_ok_iff ..).mp resolved⟩
    obtain ⟨kind, rfl⟩ := (Terminal.isRegistered_iff symbol).mp registered
    exact .terminal kind
  · by_cases isNonterm : kind = "nonterm"
    · subst isNonterm
      cases referred
      exact .nonterminal name
    · simp only [ofRaw, beq_iff_eq, isTerm, isNonterm, if_false, Except.ok.injEq] at referred
      subst referred
      exact .action name isTerm isNonterm

theorem IsTagged.exists_literal {reference : SymbolRef} (tagged : reference.IsTagged) :
    ∃ text, reference.literal = .ok text := by
  cases tagged with
  | terminal kind => exact ⟨_, by rw [literal, Literal.literal_ofKind]; rfl⟩
  | nonterminal name => exact ⟨_, rfl⟩
  | action name => exact ⟨_, rfl⟩

theorem isTagged_of_mapM {symbols : List RawSymbol} {body : List SymbolRef}
    (made : symbols.mapM ofRaw = .ok body) : ∀ reference ∈ body, reference.IsTagged :=
  forall_mem_of_mapM made fun symbol _ _ here => IsMade.isTagged ⟨symbol, here⟩

end SymbolRef

/-- The tables that rows make hold registered terminals and references that symbols make. -/
theorem ParseTable.isTagged_of_outcome_build {names : List String}
    {rows : List ProductionRow} {table : ParseTable}
    (built : (build names (.ofRows rows)).outcome = .ok table) :
    ∀ entry ∈ table.toList,
      entry.1.2.IsRegistered ∧ ∀ reference ∈ entry.2, reference.IsTagged := by
  obtain ⟨terminals, resolved, -, entries, all, rfl⟩ :=
    (outcome_build_ofRows_eq_ok_iff names rows table).mp built
  have keys := OrderedMap.keysHave_insertAll OrderedMap.keysHave_empty
    (isTableKey_of_forall₂ (isRegistered_of_resolveHeader resolved) all)
  have bodies : ∀ entry ∈ entries, ∀ reference ∈ entry.2, reference.IsTagged :=
    forall_mem_of_forall₂ all fun _ _ _ isEntry => SymbolRef.isTagged_of_mapM isEntry.2
  intro entry isEntry
  constructor
  · exact keys entry.1 (List.mem_map_of_mem isEntry)
  · exact OrderedMap.valuesHave_insertAll
      (fun body : List SymbolRef => ∀ reference ∈ body, reference.IsTagged)
      (by simp) bodies entry isEntry

end GrammarTables
