import GrammarTables.Proofs.Documents
import GrammarTables.Proofs.ParseTable.References

/-!
# Reading answered entries back

An answer spells terminals with the names that the lexer displays, and tells the references
of a body apart by their kinds.  Every displayed name is in the vocabulary, and an action is
never of the kind of a terminal or nonterminal, so the entries of an answer give back the
table it was made from.
-/

namespace GrammarTables

/-! ## Readers -/

/-- A member of an object that is a text. -/
def Json.textMember? (value : Json) (name : String) : Option String :=
  match value.member? name with
  | some (.text (.whole content)) => some content
  | _ => none

/-- The items of a member of an object that is an array. -/
def Json.arrayMember? (value : Json) (name : String) : Option (List Json) :=
  match value.member? name with
  | some (.array items) => some items
  | _ => none

namespace Service

/-- The terminal whose name is a text. -/
def readTerminal? : Json → Option Terminal
  | .text (.whole name) => (Vocabulary.resolve name).toOption
  | _ => none

/-- The reference that the kind and the name of an object make. -/
def readReference? (value : Json) : Option SymbolRef := do
  let kind ← value.textMember? "kind"
  let name ← value.textMember? "value"
  (SymbolRef.ofRaw ⟨kind, name⟩).toOption

/-- The key and the body of an entry of a parse table. -/
def readParseEntry? (value : Json) : Option (ParseKey × List SymbolRef) := do
  let nonterminal ← value.textMember? "nonterminal"
  let terminal ← (value.member? "terminal").bind readTerminal?
  let body ← value.arrayMember? "body"
  let references ← body.mapM readReference?
  return ((nonterminal, terminal), references)

/-- The nonterminal and the sets of an entry of a First/Follow table. -/
def readSetEntry? (value : Json) : Option (String × SetEntry) := do
  let nonterminal ← value.textMember? "nonterminal"
  let first ← value.arrayMember? "first"
  let firstMembers ← first.mapM readTerminal?
  let follow ← value.arrayMember? "follow"
  let followMembers ← follow.mapM readTerminal?
  return (nonterminal, ⟨firstMembers, followMembers⟩)

/-- The entries of an answer. -/
def readEntries? {Entry : Type} (read : Json → Option Entry) (answer : Json) :
    Option (List Entry) := do
  let entries ← answer.arrayMember? "entries"
  entries.mapM read

/-! ## What is read back -/

/-- A registered terminal is known by the name that the lexer displays. -/
theorem readTerminal?_display {symbol : Terminal} (registered : symbol.IsRegistered) :
    readTerminal? (.text symbol.display) = some symbol := by
  obtain ⟨kind, rfl⟩ := (Terminal.isRegistered_iff symbol).mp registered
  simp only [readTerminal?, Terminal.display, Terminal.ofKind, Vocabulary.resolve,
    Vocabulary.find?, Vocabulary.kind?_display, Option.map_some, Except.toOption]

/-- A reference is read back, and its kind says what it refers to. -/
theorem readReference?_referenceValue {reference : SymbolRef} (tagged : reference.IsTagged) :
    ∃ value, referenceValue reference = .ok value ∧ readReference? value = some reference ∧
      (value.textMember? "kind" = some "term" ↔ ∃ symbol, reference = .terminal symbol) ∧
      (value.textMember? "kind" = some "nonterm" ↔ ∃ name, reference = .nonterminal name) := by
  have kindOf (kind name : String) : Json.textMember?
      (.object [("kind", .text kind), ("value", .text name)]) "kind" = some kind := rfl
  cases tagged with
  | terminal kind =>
      refine ⟨_, rfl, ?_, by simp [kindOf], by simp [kindOf]⟩
      change ((Vocabulary.resolve kind.display).map SymbolRef.terminal).toOption = _
      simp only [Vocabulary.resolve, Vocabulary.find?, Vocabulary.kind?_display,
        Option.map_some]
      rfl
  | nonterminal name => exact ⟨_, rfl, rfl, by simp [kindOf], by simp [kindOf]⟩
  | @action name kind notTerm notNonterm =>
      refine ⟨_, rfl, ?_, by simp [kindOf, notTerm], by simp [kindOf, notNonterm]⟩
      change (SymbolRef.ofRaw ⟨kind, name⟩).toOption = _
      simp only [SymbolRef.ofRaw, beq_iff_eq, notTerm, notNonterm, if_false]
      rfl

theorem readParseEntry?_parseEntryValue {entry : ParseKey × List SymbolRef}
    (registered : entry.1.2.IsRegistered)
    (tagged : ∀ reference ∈ entry.2, reference.IsTagged) :
    ∃ value, parseEntryValue entry = .ok value ∧ readParseEntry? value = some entry := by
  obtain ⟨body, written, read⟩ := exists_mapM_eq_ok fun reference inBody =>
    (readReference?_referenceValue (tagged reference inBody)).imp fun value holds =>
      And.intro holds.1 holds.2.1
  have bodyRead := mapM_eq_some_of_forall₂ read
  have terminalRead := readTerminal?_display registered
  refine ⟨_, by rw [parseEntryValue, written]; rfl, ?_⟩
  change ((readTerminal? (.text entry.1.2.display)).bind fun terminal =>
    (body.mapM readReference?).bind fun references =>
      some ((entry.1.1, terminal), references)) = some entry
  rw [terminalRead, bodyRead]
  rfl

theorem readSetEntry?_setEntryValue {entry : String × SetEntry}
    (registered : ∀ column, ∀ symbol ∈ entry.2.column column, symbol.IsRegistered) :
    readSetEntry? (setEntryValue entry) = some entry := by
  have membersRead (column : SetColumn) :
      ((entry.2.column column).map fun symbol => Json.text symbol.display).mapM readTerminal? =
        some (entry.2.column column) := by
    apply mapM_eq_some_of_forall₂
    rw [List.forall₂_map_right_iff, List.forall₂_same]
    intro symbol isMember
    exact readTerminal?_display (registered column symbol isMember)
  change (((entry.2.column .first).map fun symbol => Json.text symbol.display).mapM
      readTerminal?).bind (fun first =>
        (((entry.2.column .follow).map fun symbol => Json.text symbol.display).mapM
          readTerminal?).bind fun follow => some (entry.1, ⟨first, follow⟩)) = some entry
  rw [membersRead .first, membersRead .follow]
  rfl

/-- The answer with a table that rows make has its entries. -/
theorem readEntries?_parseTableValue {names : List String} {rows : List ProductionRow}
    {table : ParseTable} (built : (ParseTable.build names (.ofRows rows)).outcome = .ok table) :
    ∃ answer, parseTableValue table = .ok answer ∧
      readEntries? readParseEntry? answer = some table.toList := by
  have tagged := ParseTable.isTagged_of_outcome_build built
  obtain ⟨values, written, read⟩ := exists_mapM_eq_ok fun entry isEntry =>
    readParseEntry?_parseEntryValue (tagged entry isEntry).1 (tagged entry isEntry).2
  obtain ⟨literal, literalWritten⟩ := ParseTable.exists_literal
    (fun entry isEntry => (tagged entry isEntry).1)
    fun entry isEntry reference inBody => ((tagged entry isEntry).2 reference inBody).exists_literal
  refine ⟨_, by rw [parseTableValue, written, literalWritten]; rfl, ?_⟩
  exact mapM_eq_some_of_forall₂ read

theorem readEntries?_firstFollowValue {rows : List SetRow} {table : FirstFollowTable}
    (built : (FirstFollowTable.build (.ofRows rows)).outcome = .ok table) :
    ∃ answer, firstFollowValue table = .ok answer ∧
      readEntries? readSetEntry? answer = some table.toList := by
  have legible := FirstFollowTable.isLegible_of_outcome_build built
  obtain ⟨literal, written⟩ := legible.isRenderable.literal
  refine ⟨_, by rw [firstFollowValue, written]; rfl, ?_⟩
  change (table.toList.map setEntryValue).mapM readSetEntry? = some table.toList
  apply mapM_eq_some_of_forall₂
  rw [List.forall₂_map_right_iff, List.forall₂_same]
  intro entry isEntry
  exact readSetEntry?_setEntryValue (legible entry isEntry)

/-- The entries of answers are lossless.  Whatever rows a table is built from, the entries of
the answer with it give back the ordered table; and whatever symbols make, a reference is
answered with the kind of a terminal or nonterminal only if it is one. -/
theorem entries_read_back :
    (∀ names rows table, (ParseTable.build names (.ofRows rows)).outcome = .ok table →
      ∃ answer, parseTableValue table = .ok answer ∧
        readEntries? readParseEntry? answer = some table.toList) ∧
    (∀ rows table, (FirstFollowTable.build (.ofRows rows)).outcome = .ok table →
      ∃ answer, firstFollowValue table = .ok answer ∧
        readEntries? readSetEntry? answer = some table.toList) ∧
    ∀ symbol reference, SymbolRef.ofRaw symbol = .ok reference →
      ∃ value, referenceValue reference = .ok value ∧ readReference? value = some reference ∧
        (value.textMember? "kind" = some "term" ↔
          ∃ terminal, reference = .terminal terminal) ∧
        (value.textMember? "kind" = some "nonterm" ↔
          ∃ name, reference = .nonterminal name) := by
  refine ⟨?_, ?_, ?_⟩
  · intro names rows table built
    exact readEntries?_parseTableValue built
  · intro rows table built
    exact readEntries?_firstFollowValue built
  · intro symbol reference made
    exact readReference?_referenceValue (SymbolRef.IsMade.isTagged ⟨symbol, made⟩)

/-- Two names of one terminal, an action whose kind looks like that of a terminal, and a cell
without a marker. -/
theorem entries_read_back_assignments :
    let rows : List ProductionRow :=
      [⟨1, "S", [some [⟨"nonterm", "S"⟩, ⟨"term", "equal"⟩, ⟨"Term", "assign"⟩], some []]⟩]
    ∃ table, (ParseTable.build ["floatlit", "$"] (.ofRows rows)).outcome = .ok table ∧
      table.toList = [(("S", .ofKind .floatNumber),
          [.terminal (.ofKind .assign), .action "assign" "Term"]),
        (("S", .ofKind .endOfFile), [])] ∧
      ∃ answer, parseTableValue table = .ok answer ∧
        readEntries? readParseEntry? answer = some table.toList := by
  intro rows
  exact ⟨_, rfl, rfl, entries_read_back.1 ["floatlit", "$"] rows _ rfl⟩

end Service

end GrammarTables
