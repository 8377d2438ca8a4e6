import GrammarTables.Proofs.Literal.Reader

/-!
# The literal of a First/Follow table determines the table

The literals of both set columns stand one after the other under their titles.  Where the
first ends is not searched for: nonterminals can hold brackets and titles, so the reader
goes on for as long as it finds a line of an entry.
-/

namespace GrammarTables

/-- The members of all sets are registered, as they are in tables of pages. -/
def FirstFollowTable.IsLegible (table : FirstFollowTable) : Prop :=
  ∀ entry ∈ table.toList, ∀ column, ∀ symbol ∈ entry.2.column column, symbol.IsRegistered

namespace Literal

/-! ## One set column -/

/-- A line: a nonterminal, and the members of its set between brackets. -/
def readSetLine (input : List Char) : Option ((String × List Terminal) × List Char) := do
  let input ← skip "    (" input
  let (nonterminal, input) ← readText input
  let input ← skip ", vec![" input
  let (members, input) := readList readTerminal ", " input
  let rest ← skip "])," input
  return ((nonterminal, members), rest)

/-- The sets of a column, one to a line. -/
def readSets (input : List Char) : Option (List (String × List Terminal) × List Char) := do
  let input ← skip "HashMap::from([" input
  let (sets, input) := readMore readSetLine "\n" input.length input
  let rest ← skip "\n])" input
  return (sets, rest)

theorem reads_setLine (column : SetColumn) {entry : String × SetEntry}
    (registered : ∀ symbol ∈ entry.2.column column, symbol.IsRegistered) :
    ∃ line, FirstFollowTable.setLine column entry = .ok line ∧
      Reads readSetLine (entry.1, entry.2.column column) line := by
  obtain ⟨items, written, membersRead⟩ := readList_items
    (fun symbol isMember => reads_registered (registered symbol isMember)) (fun rest => rfl)
  refine ⟨_, by rw [FirstFollowTable.setLine, written]; rfl, fun rest _ => ?_⟩
  have listRead : readList readTerminal ", " (items.toList ++ ("]),".toList ++ rest)) =
      (entry.2.column column, "]),".toList ++ rest) := membersRead _
  simp only [String.toList_append, List.append_assoc, readSetLine, skip_append,
    readText_text, listRead, Option.bind_eq_bind, Option.bind_some, Option.pure_def]

theorem reads_sets (column : SetColumn) {table : FirstFollowTable}
    (legible : table.IsLegible) :
    ∃ text, table.setLiteral column = .ok text ∧
      Reads readSets (table.toList.map fun entry => (entry.1, entry.2.column column)) text := by
  obtain ⟨lines, traversed, all⟩ := exists_mapM_eq_ok fun entry isIn =>
    reads_setLine column (legible entry isIn column)
  refine ⟨"\n".intercalate ("HashMap::from([" :: lines ++ ["])"]),
    by rw [FirstFollowTable.setLiteral, FirstFollowTable.setLines, traversed]; rfl,
    fun rest _ => ?_⟩
  -- The closing line begins with a separator too, but no entry follows it.
  have delimits : Delimits readSetLine "\n" ("\n])".toList ++ rest) :=
    ⟨fun tail => rfl, rfl, rfl⟩
  have linesRead := readMore_flatMap delimits (List.forall₂_map_left_iff.mpr all)
    (delimits.length_le_flatMap lines)
  have divided : ("\n".intercalate ("HashMap::from([" :: lines ++ ["])"])).toList ++ rest =
      "HashMap::from([".toList ++ (lines.flatMap (fun line => "\n".toList ++ line.toList) ++
        ("\n])".toList ++ rest)) := by
    rw [List.cons_append, Text.toList_intercalate_cons, List.flatMap_append]
    simp
  rw [divided]
  simp only [readSets, skip_append, linesRead, Option.bind_eq_bind, Option.bind_some,
    Option.pure_def]

/-! ## Both columns -/

/-- The sets of both columns, where nothing may be left behind them. -/
def readColumns? (text : String) :
    Option (List (String × List Terminal) × List (String × List Terminal)) := do
  let input ← skip "First set:\n" text.toList
  let (first, input) ← readSets input
  let input ← skip "\nFollow set:\n" input
  let (follow, rest) ← readSets input
  if rest.isEmpty then some (first, follow) else none

/-- The entries of the literal of a First/Follow table.  Both columns must have the same
nonterminals in the same order. -/
def readSetEntries? (text : String) : Option (List (String × SetEntry)) := do
  let (first, follow) ← readColumns? text
  if first.map Prod.fst = follow.map Prod.fst then
    some (List.zipWith (fun first follow => (first.1, ⟨first.2, follow.2⟩)) first follow)
  else none

end Literal

namespace FirstFollowTable

/-- A legible table has a literal, whose columns are read back. -/
theorem readColumns?_literal {table : FirstFollowTable} (legible : table.IsLegible) :
    ∃ text, table.literal = .ok text ∧ Literal.readColumns? text =
      some (table.toList.map fun entry => (entry.1, entry.2.first),
        table.toList.map fun entry => (entry.1, entry.2.follow)) := by
  obtain ⟨first, firstWritten, firstRead⟩ := Literal.reads_sets .first legible
  obtain ⟨follow, followWritten, followRead⟩ := Literal.reads_sets .follow legible
  refine ⟨"\n".intercalate ["First set:", first, "Follow set:", follow],
    by rw [literal, firstWritten, followWritten]; rfl, ?_⟩
  have divided : ("\n".intercalate ["First set:", first, "Follow set:", follow]).toList =
      "First set:\n".toList ++
        (first.toList ++ ("\nFollow set:\n".toList ++ (follow.toList ++ []))) := by
    rw [Text.toList_intercalate_cons]
    simp
  have titleEnds :
      Literal.EndsWord ("\nFollow set:\n".toList ++ (follow.toList ++ [])) := rfl
  rw [Literal.readColumns?, divided]
  simp only [Literal.skip_append, firstRead _ titleEnds, followRead [] rfl,
    Option.bind_eq_bind, Option.bind_some]
  rfl

theorem readSetEntries?_eq {table : FirstFollowTable} {text : String}
    (columnsRead : Literal.readColumns? text =
      some (table.toList.map fun entry => (entry.1, entry.2.first),
        table.toList.map fun entry => (entry.1, entry.2.follow))) :
    Literal.readSetEntries? text = some table.toList := by
  simp [Literal.readSetEntries?, columnsRead, List.zipWith_map_left, List.zipWith_map_right]

/-- The literal of a legible table determines its nonterminals, their order, and both sets
of each with the order and the repetitions of the members.  The columns that are read back
have the nonterminals of the table in its order, each with its set. -/
theorem sets_determined_by_literal {table : FirstFollowTable} (legible : table.IsLegible) :
    ∃ text, table.literal = .ok text ∧ Literal.readSetEntries? text = some table.toList ∧
      (∀ other : FirstFollowTable, other.IsLegible → other.literal = .ok text →
        other.toList = table.toList) ∧
      ∃ first follow, Literal.readColumns? text = some (first, follow) ∧
        first.map Prod.fst = table.keys ∧ follow.map Prod.fst = table.keys := by
  obtain ⟨text, written, columnsRead⟩ := readColumns?_literal legible
  refine ⟨text, written, readSetEntries?_eq columnsRead, ?_, _, _, columnsRead, ?_, ?_⟩
  · intro other otherLegible otherWritten
    obtain ⟨otherText, otherWritten', otherRead⟩ := readColumns?_literal otherLegible
    obtain rfl : otherText = text := Except.ok.inj (otherWritten'.symm.trans otherWritten)
    exact Option.some.inj
      ((readSetEntries?_eq otherRead).symm.trans (readSetEntries?_eq columnsRead))
  · simp [OrderedMap.keys, OrderedMap.toList]
  · simp [OrderedMap.keys, OrderedMap.toList]

/-- A nonterminal that looks like the end of a column, and a member that is repeated. -/
def titlesTable : FirstFollowTable :=
  ⟨[("\n])\nFollow set:\n\"", ⟨[.ofKind .returnWord, .ofKind .arrow, .ofKind .returnWord],
    [.ofKind .identifier]⟩)]⟩

theorem isLegible_titlesTable : titlesTable.IsLegible := by
  intro entry isIn column symbol isMember
  obtain rfl := List.mem_singleton.mp isIn
  rw [Terminal.isRegistered_iff]
  cases column with
  | first =>
      have isOne : symbol ∈ [.ofKind .returnWord, .ofKind .arrow, .ofKind .returnWord] :=
        isMember
      simp only [List.mem_cons, List.not_mem_nil, or_false] at isOne
      rcases isOne with rfl | rfl | rfl <;> exact ⟨_, rfl⟩
  | follow => exact ⟨_, List.mem_singleton.mp isMember⟩

theorem sets_determined_by_literal_titlesTable :
    titlesTable.IsLegible ∧
      Literal.readSetEntries? ("First set:\nHashMap::from([\n" ++
        "    (\"\n])\nFollow set:\n\\\"\", vec![Type::Return, Type::ReturnType, " ++
        "Type::Return]),\n])\nFollow set:\nHashMap::from([\n" ++
        "    (\"\n])\nFollow set:\n\\\"\", vec![Type::Id(\"\".to_owned())]),\n])") =
      some titlesTable.toList := by
  obtain ⟨text, written, read, -⟩ := sets_determined_by_literal isLegible_titlesTable
  refine ⟨isLegible_titlesTable, ?_⟩
  rw [← read]
  exact congrArg _ (Except.ok.inj written)

end FirstFollowTable

end GrammarTables
