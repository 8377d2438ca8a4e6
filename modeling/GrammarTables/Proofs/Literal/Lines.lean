import GrammarTables.Proofs.Documents
import GrammarTables.Proofs.ParseTable.References
import Mathlib.Algebra.GroupWithZero.Nat

/-!
# The lines of a literal

The literals of tables are written one entry to a line.  The names in an entry are written
with all of their characters, though, and a line feed among them divides the line.  So the
lines of a literal are those of its entries exactly if no name in the table holds a line
feed, and each line feed makes one line more.
-/

namespace GrammarTables

/-! ## Lines of texts -/

namespace Text

def lineFeeds (text : String) : Nat := text.toList.count '\n'

/-- The lines of a text, which are divided at line feeds.  The empty text has none. -/
def lines (text : String) : List String :=
  if text = "" then [] else (text.toList.splitOn '\n').map String.ofList

theorem lineFeeds_eq_zero_iff (text : String) : lineFeeds text = 0 ↔ '\n' ∉ text.toList :=
  List.count_eq_zero

@[simp] theorem lineFeeds_append (first second : String) :
    lineFeeds (first ++ second) = lineFeeds first + lineFeeds second := by
  simp [lineFeeds]

theorem lineFeeds_intercalate_cons (separator text : String) (texts : List String) :
    lineFeeds (separator.intercalate (text :: texts)) =
      ((text :: texts).map lineFeeds).sum + texts.length * lineFeeds separator := by
  rw [lineFeeds, toList_intercalate_cons, List.count_append]
  induction texts with
  | nil => simp [lineFeeds]
  | cons next texts ih =>
      simp only [List.flatMap_cons, List.count_append, List.map_cons, List.sum_cons,
        List.length_cons, ← lineFeeds.eq_1] at ih ⊢
      rw [Nat.succ_mul]
      omega

/-- A separator that does not divide lines adds nothing to the line feeds of the parts. -/
theorem lineFeeds_intercalate {separator : String} (plain : lineFeeds separator = 0)
    (texts : List String) :
    lineFeeds (separator.intercalate texts) = (texts.map lineFeeds).sum := by
  cases texts with
  | nil => rfl
  | cons text texts => rw [lineFeeds_intercalate_cons, plain, Nat.mul_zero, Nat.add_zero]

theorem length_splitOn (characters : List Char) :
    (characters.splitOn '\n').length = characters.count '\n' + 1 := by
  induction characters with
  | nil => rfl
  | cons character rest ih =>
      rw [List.splitOn_cons_eq_if_modifyHead, List.count_cons]
      split
      · rw [List.length_cons, ih]
      · rw [List.length_modifyHead, ih]

theorem length_lines {text : String} (filled : text ≠ "") :
    (lines text).length = lineFeeds text + 1 := by
  rw [lines, if_neg filled, List.length_map, length_splitOn]
  rfl

/-- The text has a line for each of the parts and one more for each line feed of the names,
so the parts are its lines if there is none. -/
structure IsDivided (text : String) (parts names : List String) : Prop where
  length_lines : (lines text).length = parts.length + (names.map lineFeeds).sum
  lines_eq_iff : lines text = parts ↔ ∀ name ∈ names, '\n' ∉ name.toList

theorem sum_lineFeeds_eq_zero_iff (names : List String) :
    (names.map lineFeeds).sum = 0 ↔ ∀ name ∈ names, '\n' ∉ name.toList := by
  simp [List.sum_eq_zero_iff_forall_eq_nat, lineFeeds_eq_zero_iff]

theorem sum_lineFeeds_flatMap {Item : Type} (names : Item → List String) (items : List Item) :
    ((items.flatMap names).map lineFeeds).sum =
      (items.map fun item => ((names item).map lineFeeds).sum).sum := by
  rw [List.map_flatMap, List.flatMap_def, List.sum_flatten, List.map_map]
  rfl

/-- Whole lines are given back by dividing what they make together. -/
theorem lines_intercalate {parts : List String} (filled : ∀ part ∈ parts, part ≠ "")
    (whole : ∀ part ∈ parts, '\n' ∉ part.toList) : lines ("\n".intercalate parts) = parts := by
  cases parts with
  | nil => rfl
  | cons part rest =>
      have wholeCharacters : ∀ characters ∈ (part :: rest).map String.toList,
          '\n' ∉ characters := by
        simpa using whole
      rw [lines, if_neg (intercalate_cons_ne_empty (filled part List.mem_cons_self)),
        String.toList_intercalate]
      change (((['\n']).intercalate ((part :: rest).map String.toList)).splitOn '\n').map
        String.ofList = _
      rw [List.splitOn_intercalate '\n' wholeCharacters (List.cons_ne_nil _ _), List.map_map]
      simp

/-- Parts whose line feeds are those of the names are divided as the names are. -/
theorem isDivided_intercalate {parts names : List String} (filled : ∀ part ∈ parts, part ≠ "")
    (feeds : (parts.map lineFeeds).sum = (names.map lineFeeds).sum) :
    IsDivided ("\n".intercalate parts) parts names := by
  have counted : (lines ("\n".intercalate parts)).length =
      parts.length + (names.map lineFeeds).sum := by
    cases parts with
    | nil => simpa [lines] using feeds
    | cons part rest =>
        have oneFeed : lineFeeds "\n" = 1 := rfl
        rw [length_lines (intercalate_cons_ne_empty (filled part List.mem_cons_self)),
          lineFeeds_intercalate_cons, feeds, oneFeed, List.length_cons]
        omega
  refine ⟨counted, ?_⟩
  rw [← sum_lineFeeds_eq_zero_iff]
  constructor
  · intro divided
    rw [divided] at counted
    omega
  · intro none
    apply lines_intercalate filled
    rwa [none, sum_lineFeeds_eq_zero_iff] at feeds

end Text

/-! ## Lines of entries -/

/-- The names that the literal of a reference holds. -/
def SymbolRef.names : SymbolRef → List String
  | nonterminal name | action name _ => [name]
  | terminal _ | foreign _ => []

/-- The names that the line of an entry holds. -/
def ParseTable.entryNames (entry : ParseKey × List SymbolRef) : List String :=
  entry.1.1 :: entry.2.flatMap SymbolRef.names

namespace Literal

open Text

@[simp] theorem lineFeeds_text (value : String) : lineFeeds (text value) = lineFeeds value := by
  have escaped (character : Char) :
      (escapedChar character).count '\n' = [character].count '\n' := by
    rw [escapedChar]
    split
    · next special =>
        have notFeed : character ≠ '\n' := by
          rintro rfl
          exact absurd special (by decide)
        simp [notFeed]
    · rfl
  have characters : (value.toList.flatMap escapedChar).count '\n' = value.toList.count '\n' := by
    rw [List.count_flatMap]
    induction value.toList with
    | nil => rfl
    | cons character rest ih =>
        rw [List.map_cons, List.sum_cons, ih, Function.comp_apply, escaped, ← List.count_append]
        rfl
  simp [lineFeeds, textChars, characters]

theorem lineFeeds_literal {symbol : Terminal} (registered : symbol.IsRegistered) :
    ∃ literal, symbol.literal = .ok literal ∧ lineFeeds literal = 0 := by
  obtain ⟨kind, rfl⟩ := (Terminal.isRegistered_iff symbol).mp registered
  refine ⟨_, literal_ofKind kind, ?_⟩
  cases kind <;> rfl

theorem lineFeeds_items {Item : Type} {literal : Item → Except RenderError String}
    {items : List Item} {feeds : Item → Nat}
    (each : ∀ item ∈ items, ∃ written, literal item = .ok written ∧
      lineFeeds written = feeds item) :
    ∃ written, Literal.items literal items = .ok written ∧
      lineFeeds written = (items.map feeds).sum := by
  obtain ⟨texts, traversed, all⟩ := exists_mapM_eq_ok each
  refine ⟨", ".intercalate texts, by rw [Literal.items, traversed]; rfl, ?_⟩
  rw [lineFeeds_intercalate rfl, map_eq_map_of_forall₂ all fun _ _ same => same]

end Literal

open Text

theorem SymbolRef.IsTagged.lineFeeds_literal {reference : SymbolRef}
    (tagged : reference.IsTagged) :
    ∃ literal, reference.literal = .ok literal ∧
      lineFeeds literal = (reference.names.map lineFeeds).sum := by
  have closing : lineFeeds ")" = 0 := rfl
  cases tagged with
  | terminal kind =>
      obtain ⟨literal, written, noFeed⟩ :=
        Literal.lineFeeds_literal ((Terminal.isRegistered_iff _).mpr ⟨kind, rfl⟩)
      refine ⟨_, by rw [SymbolRef.literal, written]; rfl, ?_⟩
      have opening : lineFeeds "Production::Term(" = 0 := rfl
      rw [lineFeeds_append, lineFeeds_append, opening, noFeed, closing]
      rfl
  | nonterminal name =>
      refine ⟨_, rfl, ?_⟩
      have opening : lineFeeds "Production::NonTerm(" = 0 := rfl
      rw [lineFeeds_append, lineFeeds_append, Literal.lineFeeds_text, opening, closing,
        Nat.zero_add]
      rfl
  | action name =>
      refine ⟨_, rfl, ?_⟩
      have opening : lineFeeds "Production::Action(" = 0 := rfl
      rw [lineFeeds_append, lineFeeds_append, opening, closing, Nat.zero_add]
      rfl

namespace FirstFollowTable

theorem lineFeeds_setLine (column : SetColumn) {entry : String × SetEntry}
    (registered : ∀ symbol ∈ entry.2.column column, symbol.IsRegistered) :
    ∃ line, setLine column entry = .ok line ∧ line ≠ "" ∧
      lineFeeds line = lineFeeds entry.1 := by
  obtain ⟨members, written, feeds⟩ := Literal.lineFeeds_items fun symbol isMember =>
    Literal.lineFeeds_literal (registered symbol isMember)
  refine ⟨_, by rw [setLine, written]; rfl, by simp, ?_⟩
  have opening : lineFeeds "    (" = 0 := rfl
  have between : lineFeeds ", vec![" = 0 := rfl
  have closing : lineFeeds "])," = 0 := rfl
  rw [List.map_const', List.sum_replicate_nat] at feeds
  simp only [lineFeeds_append, Literal.lineFeeds_text, opening, between, closing, feeds]
  omega

/-- The lines of a set column are divided where nonterminals hold line feeds. -/
theorem isDivided_setLiteral {table : FirstFollowTable} (legible : table.IsLegible)
    (column : SetColumn) :
    ∃ lines literal, List.Forall₂ (fun entry line => setLine column entry = .ok line)
        table.toList lines ∧
      table.setLiteral column = .ok literal ∧
      IsDivided literal ("HashMap::from([" :: lines ++ ["])"]) table.keys := by
  obtain ⟨lines, traversed, all⟩ := exists_mapM_eq_ok fun entry isEntry =>
    lineFeeds_setLine column (legible entry isEntry column)
  refine ⟨lines, "\n".intercalate ("HashMap::from([" :: lines ++ ["])"]),
    (mapM_eq_ok_iff ..).mp traversed,
    by rw [setLiteral, setLines, traversed]; rfl, ?_⟩
  have filled : ∀ line ∈ lines, line ≠ "" :=
    forall_mem_of_forall₂ all fun _ _ _ written => written.1
  have feeds : lines.map lineFeeds = table.keys.map lineFeeds := by
    rw [map_eq_map_of_forall₂ all fun _ _ written => written.2, OrderedMap.keys, List.map_map]
    rfl
  apply isDivided_intercalate
  · intro part isPart
    simp only [List.mem_append, List.mem_cons, List.not_mem_nil, or_false] at isPart
    rcases isPart with (rfl | isLine) | rfl
    · exact by decide
    · exact filled part isLine
    · exact by decide
  · have opening : lineFeeds "HashMap::from([" = 0 := rfl
    have closing : lineFeeds "])" = 0 := rfl
    rw [List.map_append, List.sum_append, List.map_cons, List.sum_cons, List.map_singleton,
      List.sum_singleton, opening, closing, feeds, Nat.zero_add, Nat.add_zero]

end FirstFollowTable

namespace ParseTable

theorem lineFeeds_entryLine {entry : ParseKey × List SymbolRef}
    (registered : entry.1.2.IsRegistered)
    (tagged : ∀ reference ∈ entry.2, reference.IsTagged) :
    ∃ line, entryLine entry = .ok line ∧ line ≠ "" ∧
      lineFeeds line = ((entryNames entry).map lineFeeds).sum := by
  obtain ⟨terminal, terminalWritten, noFeed⟩ := Literal.lineFeeds_literal registered
  obtain ⟨body, bodyWritten, feeds⟩ := Literal.lineFeeds_items fun reference inBody =>
    (tagged reference inBody).lineFeeds_literal
  refine ⟨_, by rw [entryLine, bodyWritten, terminalWritten]; rfl, by simp, ?_⟩
  have opening : lineFeeds "((" = 0 := rfl
  have inKey : lineFeeds ", " = 0 := rfl
  have between : lineFeeds "), vec![" = 0 := rfl
  have closing : lineFeeds "])," = 0 := rfl
  rw [entryNames, List.map_cons, List.sum_cons, sum_lineFeeds_flatMap]
  simp only [lineFeeds_append, Literal.lineFeeds_text, opening, inKey, between, closing, noFeed,
    feeds]
  omega

theorem isDivided_literal {table : ParseTable}
    (tagged : ∀ entry ∈ table.toList,
      entry.1.2.IsRegistered ∧ ∀ reference ∈ entry.2, reference.IsTagged) :
    ∃ lines literal, List.Forall₂ (fun entry line => entryLine entry = .ok line)
        table.toList lines ∧
      table.literal = .ok literal ∧
      IsDivided literal lines (table.toList.flatMap entryNames) := by
  obtain ⟨lines, traversed, all⟩ := exists_mapM_eq_ok fun entry isEntry =>
    lineFeeds_entryLine (tagged entry isEntry).1 (tagged entry isEntry).2
  refine ⟨lines, "\n".intercalate lines, (mapM_eq_ok_iff ..).mp traversed,
    by rw [literal, ParseTable.lines, traversed]; rfl, ?_⟩
  apply isDivided_intercalate
  · exact forall_mem_of_forall₂ all fun _ _ _ written => written.1
  · rw [sum_lineFeeds_flatMap, map_eq_map_of_forall₂ all fun _ _ written => written.2]

end ParseTable

/-- The literals of built tables have the lines of their entries in table order, those of a set
column between an opening and a closing line, exactly if no name that they hold has a line
feed.  Otherwise each line feed makes a line more. -/
theorem lines_of_built_literals {setRows : List SetRow} {sets : FirstFollowTable}
    (setsBuilt : (FirstFollowTable.build (.ofRows setRows)).outcome = .ok sets)
    {names : List String} {rows : List ProductionRow} {table : ParseTable}
    (tableBuilt : (ParseTable.build names (.ofRows rows)).outcome = .ok table) :
    (∀ column, ∃ lines literal,
      List.Forall₂ (fun entry line => FirstFollowTable.setLine column entry = .ok line)
        sets.toList lines ∧
      sets.setLiteral column = .ok literal ∧
      IsDivided literal ("HashMap::from([" :: lines ++ ["])"]) sets.keys) ∧
    ∃ lines literal,
      List.Forall₂ (fun entry line => ParseTable.entryLine entry = .ok line)
        table.toList lines ∧
      table.literal = .ok literal ∧
      IsDivided literal lines (table.toList.flatMap ParseTable.entryNames) := by
  constructor
  · exact FirstFollowTable.isDivided_setLiteral
      (FirstFollowTable.isLegible_of_outcome_build setsBuilt)
  · exact ParseTable.isDivided_literal (ParseTable.isTagged_of_outcome_build tableBuilt)

/-- A name of one line keeps its entry on one, and an action that goes on over two lines divides
the line of its entry. -/
theorem lines_of_built_literals_twoLineAction :
    let rows : List ProductionRow :=
      [⟨1, "S", [some [⟨"nonterm", "S"⟩, ⟨"action", "make(\n)"⟩]]⟩]
    ∃ sets table, (FirstFollowTable.build (.ofRows [⟨1, "S", [], []⟩])).outcome = .ok sets ∧
      (ParseTable.build ["$"] (.ofRows rows)).outcome = .ok table ∧
      (∃ literal, sets.setLiteral .follow = .ok literal ∧ (Text.lines literal).length = 3) ∧
      ∃ literal, table.literal = .ok literal ∧ (Text.lines literal).length = 2 := by
  intro rows
  have setsBuilt : (FirstFollowTable.build (.ofRows [⟨1, "S", [], []⟩])).outcome =
      .ok ⟨[("S", ⟨[], []⟩)]⟩ := rfl
  have tableBuilt : (ParseTable.build ["$"] (.ofRows rows)).outcome =
      .ok ⟨[(("S", .ofKind .endOfFile), [.action "make(\n)" "action"])]⟩ := rfl
  obtain ⟨ofSets, lines, literal, all, written, divided⟩ :=
    lines_of_built_literals setsBuilt tableBuilt
  obtain ⟨setLines, setLiteral, allSets, setsWritten, setsDivided⟩ := ofSets .follow
  refine ⟨_, _, setsBuilt, tableBuilt, ⟨setLiteral, setsWritten, ?_⟩, literal, written, ?_⟩
  · rw [setsDivided.length_lines, List.length_append, List.length_cons, ← allSets.length_eq]
    rfl
  · rw [divided.length_lines, ← all.length_eq]
    rfl

/-- A name of two lines makes two lines of the only entry. -/
theorem lines_setLiteral_twoLineName :
    let table : FirstFollowTable := ⟨[("A\nB", ⟨[], []⟩)]⟩
    (FirstFollowTable.build (.ofRows [⟨1, "A\nB", [], []⟩])).outcome = .ok table ∧
      table.size = 1 ∧ ∃ literal, table.setLiteral .first = .ok literal ∧
        Text.lines literal = ["HashMap::from([", "    (\"A", "B\", vec![]),", "])"] := by
  intro table
  exact ⟨rfl, rfl, _, rfl, by decide⟩

end GrammarTables
