import GrammarTables.Proofs.Literal.Reader
import Mathlib.Data.List.Infix

/-!
# The literal of a parse table determines the table

Nonterminals can be any texts, since their literals show where they end.  The text of an
action is written as it is, and it shows where it ends if its parentheses are balanced.
-/

namespace GrammarTables

/-- The text closes no parenthesis that it has not opened, and it closes all. -/
def IsBalanced (text : String) : Prop :=
  (∀ front, front <+: text.toList → front.count ')' ≤ front.count '(') ∧
    text.toList.count ')' = text.toList.count '('

instance (text : String) : Decidable (IsBalanced text) :=
  decidable_of_iff
    ((∀ front ∈ text.toList.inits, front.count ')' ≤ front.count '(') ∧
      text.toList.count ')' = text.toList.count '(')
    (by simp only [IsBalanced, List.mem_inits])

/-- The references that tables of pages hold, if the texts of actions are balanced. -/
def SymbolRef.IsLegible : SymbolRef → Prop
  | .terminal symbol => symbol.IsRegistered
  | .nonterminal _ => True
  | .action name kind => kind = "action" ∧ IsBalanced name
  | .foreign _ => False

/-- The terminals of a parse table are registered and its references legible. -/
structure ParseTable.IsLegible (table : ParseTable) : Prop where
  terminals : ∀ entry ∈ table.toList, entry.1.2.IsRegistered
  references : ∀ entry ∈ table.toList, ∀ reference ∈ entry.2, reference.IsLegible

namespace Literal

/-! ## References -/

/-- How many parentheses are open after a character. -/
def depthAfter (depth : Nat) (character : Char) : Nat :=
  if character = '(' then depth + 1
  else if character = ')' then depth - 1
  else depth

/-- The characters up to the first parenthesis that closes none of the open ones. -/
def readBalanced : Nat → Reader (List Char)
  | _, [] => none
  | depth, character :: rest =>
    if character = ')' ∧ depth = 0 then some ([], rest)
    else (readBalanced (depthAfter depth character) rest).map fun read =>
      (character :: read.1, read.2)

/-- A reference, by the name of its constructor. -/
def readReference (input : List Char) : Option (SymbolRef × List Char) :=
  match skip "Production::Term(" input with
  | some input => do
    let (symbol, input) ← readTerminal input
    let rest ← skip ")" input
    return (.terminal symbol, rest)
  | none =>
    match skip "Production::NonTerm(" input with
    | some input => do
      let (name, input) ← readText input
      let rest ← skip ")" input
      return (.nonterminal name, rest)
    | none => do
      let input ← skip "Production::Action(" input
      let (name, rest) ← readBalanced 0 input
      return (.action (String.ofList name) "action", rest)

/-- What a character opens or closes is taken over from the text into the depth. -/
theorem depthAfter_add_count {depth : Nat} {character : Char}
    (goesOn : ¬(character = ')' ∧ depth = 0)) (others : List Char) :
    depthAfter depth character + others.count '(' + (character :: others).count ')' =
      depth + (character :: others).count '(' + others.count ')' := by
  by_cases closes : character = ')'
  · have wasOpen : depth ≠ 0 := fun isZero => goesOn ⟨closes, isZero⟩
    simp [depthAfter, closes]
    omega
  · by_cases opens : character = '('
    · simp [depthAfter, opens]
      omega
    · simp [depthAfter, closes, opens]

/-- A text that closes just what is open, and nothing before that, is read up to there. -/
theorem readBalanced_append (characters rest : List Char) (depth : Nat)
    (opened : ∀ front, front <+: characters → front.count ')' ≤ depth + front.count '(')
    (closed : characters.count ')' = depth + characters.count '(') :
    readBalanced depth (characters ++ ')' :: rest) = some (characters, rest) := by
  induction characters generalizing depth with
  | nil =>
      obtain rfl : depth = 0 := by simpa using closed.symm
      rfl
  | cons character others ih =>
      have openedHere : ∀ front, front <+: others →
          (character :: front).count ')' ≤ depth + (character :: front).count '(' :=
        fun front isFront => opened _ (List.cons_prefix_cons.mpr ⟨rfl, isFront⟩)
      have goesOn : ¬(character = ')' ∧ depth = 0) := by
        rintro ⟨rfl, rfl⟩
        have first := openedHere [] List.nil_prefix
        simp at first
      have othersRead : readBalanced (depthAfter depth character) (others ++ ')' :: rest) =
          some (others, rest) := by
        apply ih
        · intro front isFront
          have frontOpened := openedHere front isFront
          have balance := depthAfter_add_count goesOn front
          omega
        · have balance := depthAfter_add_count goesOn others
          omega
      rw [List.cons_append, readBalanced, if_neg goesOn, othersRead]
      rfl

theorem reads_reference {reference : SymbolRef} (legible : reference.IsLegible) :
    ∃ written, reference.literal = .ok written ∧ Reads readReference reference written := by
  cases reference with
  | terminal symbol =>
      obtain ⟨written, isWritten, symbolRead⟩ := reads_registered legible
      refine ⟨_, by rw [SymbolRef.literal, isWritten]; rfl, fun rest _ => ?_⟩
      have nameEnds : EndsWord (")".toList ++ rest) := rfl
      simp only [String.toList_append, List.append_assoc, readReference, skip_append,
        symbolRead _ nameEnds, Option.bind_eq_bind, Option.bind_some, Option.pure_def]
  | nonterminal name =>
      refine ⟨_, rfl, fun rest _ => ?_⟩
      simp only [String.toList_append, List.append_assoc]
      have other (tail : List Char) :
          skip "Production::Term(" ("Production::NonTerm(".toList ++ tail) = none := rfl
      simp only [readReference, other, skip_append, readText_text, Option.bind_eq_bind,
        Option.bind_some, Option.pure_def]
  | action name kind =>
      obtain ⟨rfl, opened, closed⟩ := legible
      refine ⟨_, rfl, fun rest _ => ?_⟩
      have nameRead := readBalanced_append name.toList rest 0 (by simpa using opened)
        (by simpa using closed)
      simp only [String.toList_append, List.append_assoc]
      have other (tail : List Char) :
          skip "Production::Term(" ("Production::Action(".toList ++ tail) = none := rfl
      have another (tail : List Char) :
          skip "Production::NonTerm(" ("Production::Action(".toList ++ tail) = none := rfl
      simp only [readReference, other, another, skip_append, Option.bind_eq_bind,
        Option.bind_some]
      simp [nameRead]
  | foreign value => exact absurd legible id

/-! ## Entries -/

/-- An entry: its key in parentheses, and its body between brackets. -/
def readEntry (input : List Char) : Option ((ParseKey × List SymbolRef) × List Char) := do
  let input ← skip "((" input
  let (nonterminal, input) ← readText input
  let input ← skip ", " input
  let (terminal, input) ← readTerminal input
  let input ← skip "), vec![" input
  let (body, input) := readList readReference ", " input
  let rest ← skip "])," input
  return (((nonterminal, terminal), body), rest)

theorem reads_entry (entry : ParseKey × List SymbolRef) (registered : entry.1.2.IsRegistered)
    (legible : ∀ reference ∈ entry.2, reference.IsLegible) :
    ∃ line, ParseTable.entryLine entry = .ok line ∧ Reads readEntry entry line := by
  obtain ⟨⟨nonterminal, terminal⟩, body⟩ := entry
  obtain ⟨symbol, symbolWritten, symbolRead⟩ := reads_registered registered
  obtain ⟨items, itemsWritten, bodyRead⟩ := readList_items
    (fun reference isIn => reads_reference (legible reference isIn)) (fun rest => rfl)
  refine ⟨_, by rw [ParseTable.entryLine, itemsWritten, symbolWritten]; rfl,
    fun rest _ => ?_⟩
  have symbolEnds :
      EndsWord ("), vec![".toList ++ (items.toList ++ ("]),".toList ++ rest))) := rfl
  have listRead : readList readReference ", " (items.toList ++ ("]),".toList ++ rest)) =
      (body, "]),".toList ++ rest) := bodyRead _
  simp only [String.toList_append, List.append_assoc, readEntry, skip_append,
    readText_text, symbolRead _ symbolEnds, listRead, Option.bind_eq_bind,
    Option.bind_some, Option.pure_def]

/-- The entries of the literal of a parse table, which is refused if anything is left. -/
def readEntries? (text : String) : Option (List (ParseKey × List SymbolRef)) :=
  let (entries, rest) := readList readEntry "\n" text.toList
  if rest.isEmpty then some entries else none

end Literal

namespace ParseTable

/-- A legible table has a literal, which is read back to the entries in their order. -/
theorem readEntries?_literal {table : ParseTable} (legible : table.IsLegible) :
    ∃ text, table.literal = .ok text ∧ Literal.readEntries? text = some table.toList := by
  obtain ⟨lines, traversed, all⟩ := exists_mapM_eq_ok fun entry isIn =>
    Literal.reads_entry entry (legible.terminals entry isIn) (legible.references entry isIn)
  refine ⟨"\n".intercalate lines,
    by rw [ParseTable.literal, ParseTable.lines, traversed]; rfl, ?_⟩
  have delimits : Literal.Delimits Literal.readEntry "\n" [] := ⟨fun tail => rfl, rfl, rfl⟩
  have entriesRead := Literal.readList_intercalate delimits rfl all
  rw [List.append_nil] at entriesRead
  rw [Literal.readEntries?, entriesRead]
  rfl

/-- The literal of a legible table determines its entries and their order.  No other table
than the empty one has the empty literal, and no other body than the empty one has the line
of an empty body.  That the keys are distinct is not needed. -/
theorem entries_determined_by_literal {table : ParseTable} (legible : table.IsLegible) :
    ∃ text, table.literal = .ok text ∧ Literal.readEntries? text = some table.toList ∧
      (∀ other : ParseTable, other.IsLegible → other.literal = .ok text →
        other.toList = table.toList) ∧
      (text = "" ↔ table.toList = []) ∧
      (∀ entry ∈ table.toList, entryLine entry = entryLine (entry.1, []) →
        entry.2 = []) := by
  obtain ⟨text, written, read⟩ := readEntries?_literal legible
  refine ⟨text, written, read, ?_, ?_, ?_⟩
  · intro other otherLegible otherWritten
    obtain ⟨otherText, otherWritten', otherRead⟩ := readEntries?_literal otherLegible
    obtain rfl : otherText = text := Except.ok.inj (otherWritten'.symm.trans otherWritten)
    exact Option.some.inj (otherRead.symm.trans read)
  · constructor
    · rintro rfl
      exact (Option.some.inj read).symm
    · intro empty
      rw [literal, lines, empty] at written
      exact (Except.ok.inj written).symm
  · intro entry isIn sameLine
    have registered := legible.terminals entry isIn
    obtain ⟨line, lineWritten, lineRead⟩ :=
      Literal.reads_entry entry registered (legible.references entry isIn)
    obtain ⟨emptyLine, emptyWritten, emptyRead⟩ :=
      Literal.reads_entry (entry.1, []) registered (by simp)
    rw [lineWritten, emptyWritten] at sameLine
    obtain rfl := Except.ok.inj sameLine
    exact congrArg Prod.snd (lineRead.eq emptyRead)

/-- Names that look like the text around them, an action that marks, and an empty body. -/
def delimitersTable : ParseTable :=
  ⟨[(("\"]),\n((", .ofKind .notEqual), [.action "create_marker()" "action",
      .nonterminal "\\\", ", .terminal (.ofKind .floatNumber)]),
    (("", .ofKind .notWord), [])]⟩

theorem isLegible_delimitersTable : delimitersTable.IsLegible := by
  constructor
  · intro entry isIn
    rcases List.mem_pair.mp isIn with rfl | rfl
    · exact (Terminal.isRegistered_iff _).mpr ⟨_, rfl⟩
    · exact (Terminal.isRegistered_iff _).mpr ⟨_, rfl⟩
  · intro entry isIn reference isPart
    rcases List.mem_pair.mp isIn with rfl | rfl
    · rcases List.mem_cons.mp isPart with rfl | isPart
      · exact ⟨rfl, by decide⟩
      · rcases List.mem_pair.mp isPart with rfl | rfl
        · trivial
        · exact (Terminal.isRegistered_iff _).mpr ⟨_, rfl⟩
    · cases isPart

theorem entries_determined_by_literal_delimitersTable :
    delimitersTable.IsLegible ∧
      Literal.readEntries? ("((\"\\\"]),\n((\", Type::NotEq), vec![" ++
        "Production::Action(create_marker()), Production::NonTerm(\"\\\\\\\", \"), " ++
        "Production::Term(Type::FloatNum(0f64))]),\n((\"\", Type::Not), vec![]),") =
      some delimitersTable.toList := by
  obtain ⟨text, written, read, -⟩ := entries_determined_by_literal isLegible_delimitersTable
  refine ⟨isLegible_delimitersTable, ?_⟩
  rw [← read]
  exact congrArg _ (Except.ok.inj written)

end ParseTable

end GrammarTables
