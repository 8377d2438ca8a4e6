import GrammarTables.Export.Rows
import GrammarTables.Proofs.Literal.Reader
import Mathlib.Data.List.Nodup

/-!
# Exported productions are read back

The references of an exported production are divided by spaces.  A reference shows by its
first character what it is: nonterminals and actions stand between brackets, and terminals
go by displayed names, which are words.  Names may hold spaces, but not the bracket that
closes them.  A production without symbols is exported as a word that no terminal has.
-/

namespace GrammarTables

/-- A reference whose end can be seen in an exported production: a registered terminal, a
nonterminal or an action whose name does not hold the closing bracket. -/
def SymbolRef.IsDelimited : SymbolRef → Prop
  | terminal symbol => symbol.IsRegistered
  | nonterminal name => '>' ∉ name.toList
  | action name kind => kind = "action" ∧ ']' ∉ name.toList
  | foreign _ => False

/-- The keys of a parse table are distinct and its terminals registered, and the ends of all
references can be seen. -/
structure ParseTable.IsDelimited (table : ParseTable) : Prop where
  distinct : table.keys.Nodup
  terminals : ∀ entry ∈ table.toList, entry.1.2.IsRegistered
  references : ∀ entry ∈ table.toList, ∀ reference ∈ entry.2, reference.IsDelimited

/-- All displayed names are words of letters, except for the sign of the end. -/
theorem TokenKind.isAlpha_of_mem_display {kind : TokenKind} (isWord : kind ≠ .endOfFile) :
    ∀ character ∈ kind.display.toList, character.isAlpha = true := by
  rw [← List.all_eq_true]
  cases kind with
  | endOfFile => exact absurd rfl isWord
  | _ => rfl

namespace Export

open Literal

/-! ## References -/

/-- The characters in front of the first one that ends them. -/
def readUpTo (ending : Char) (input : List Char) : Option (String × List Char) :=
  match input.dropWhile (· != ending) with
  | [] => none
  | _ :: rest => some (String.ofList (input.takeWhile (· != ending)), rest)

/-- A reference, by its first character. -/
def readShown : Reader SymbolRef
  | '<' :: input => (readUpTo '>' input).map fun read => (.nonterminal read.1, read.2)
  | '[' :: input => (readUpTo ']' input).map fun read => (.action read.1 "action", read.2)
  | '$' :: rest => some (.terminal (.ofKind .endOfFile), rest)
  | input =>
    (Vocabulary.find? (String.ofList (input.takeWhile Char.isAlpha))).map fun symbol =>
      (.terminal symbol, input.dropWhile Char.isAlpha)

theorem readUpTo_append {ending : Char} {name : String} (unclosed : ending ∉ name.toList)
    (rest : List Char) : readUpTo ending (name.toList ++ ending :: rest) = some (name, rest) := by
  have inside : ∀ character ∈ name.toList, (character != ending) = true := by
    intro character isIn
    rw [bne_iff_ne]
    intro isEnding
    exact unclosed (isEnding ▸ isIn)
  have taken : (name.toList ++ ending :: rest).takeWhile (· != ending) = name.toList := by
    rw [List.takeWhile_append_of_pos inside]
    simp
  have dropped : (name.toList ++ ending :: rest).dropWhile (· != ending) = ending :: rest := by
    rw [List.dropWhile_append_of_pos inside]
    simp
  rw [readUpTo, dropped, taken, String.ofList_toList]

/-- A displayed word is looked up as far as its letters go. -/
theorem readShown_display {kind : TokenKind} (isWord : kind ≠ .endOfFile)
    (rest : List Char) :
    readShown (kind.display.toList ++ rest) =
      (Vocabulary.find? (String.ofList
        ((kind.display.toList ++ rest).takeWhile Char.isAlpha))).map fun symbol =>
          (.terminal symbol, (kind.display.toList ++ rest).dropWhile Char.isAlpha) := by
  cases kind with
  | endOfFile => exact absurd rfl isWord
  | _ => rfl

theorem reads_display (kind : TokenKind) :
    Reads readShown (.terminal (.ofKind kind)) kind.display := by
  intro rest ends
  by_cases isEnd : kind = .endOfFile
  · subst isEnd
    rfl
  · have letters := TokenKind.isAlpha_of_mem_display isEnd
    have nothing : rest.takeWhile Char.isAlpha = [] := ends
    rw [readShown_display isEnd, List.takeWhile_append_of_pos letters,
      List.dropWhile_append_of_pos letters, nothing, ends.dropWhile_eq, List.append_nil,
      String.ofList_toList, Vocabulary.find?, Vocabulary.kind?_display]
    rfl

theorem reads_shown {reference : SymbolRef} (delimited : reference.IsDelimited) :
    ∃ written, reference.shown = .ok written ∧ Reads readShown reference written := by
  cases reference with
  | terminal symbol =>
      obtain ⟨kind, rfl⟩ := (Terminal.isRegistered_iff symbol).mp delimited
      exact ⟨_, rfl, reads_display kind⟩
  | nonterminal name =>
      refine ⟨_, rfl, ?_⟩
      intro rest _
      have nameRead := readUpTo_append delimited rest
      simp only [String.toList_append, List.append_assoc]
      change (readUpTo '>' (name.toList ++ '>' :: rest)).map _ = _
      rw [nameRead]
      rfl
  | action name kind =>
      obtain ⟨rfl, closes⟩ := delimited
      refine ⟨_, rfl, ?_⟩
      intro rest _
      have nameRead := readUpTo_append closes rest
      simp only [String.toList_append, List.append_assoc]
      change (readUpTo ']' (name.toList ++ ']' :: rest)).map _ = _
      rw [nameRead]
      rfl
  | foreign value => exact absurd delimited id

/-! ## Bodies -/

theorem shown_ne_emptyBody (reference : SymbolRef) : reference.shown ≠ .ok emptyBody := by
  intro isEmptyBody
  cases reference with
  | terminal symbol =>
      have displayed : symbol.kind.display = "eps" := Except.ok.inj isEmptyBody
      revert displayed
      cases symbol.kind <;> decide
  | nonterminal name =>
      have characters := congrArg String.toList (Except.ok.inj isEmptyBody)
      simp [emptyBody] at characters
  | action name kind =>
      have characters := congrArg String.toList (Except.ok.inj isEmptyBody)
      simp [emptyBody] at characters
  | foreign value => cases isEmptyBody

theorem exists_shown_of_shownBody {body : List SymbolRef} {text : String} (filled : body ≠ [])
    (written : shownBody body = .ok text) :
    ∃ references,
      List.Forall₂ (fun reference shown => reference.shown = .ok shown) body references ∧
      text = " ".intercalate references := by
  rw [shownBody, if_neg (by simpa using filled), map_eq_ok_iff] at written
  obtain ⟨references, traversed, joined⟩ := written
  exact ⟨references, (mapM_eq_ok_iff ..).mp traversed, joined.symm⟩

/-- The word for a body without references is that of no other body. -/
theorem shownBody_eq_emptyBody_iff (body : List SymbolRef) :
    shownBody body = .ok emptyBody ↔ body = [] := by
  constructor
  · intro written
    by_contra filled
    obtain ⟨references, shown, joined⟩ := exists_shown_of_shownBody filled written
    cases shown with
    | nil => exact filled rfl
    | @cons reference text _ others here rest =>
        cases others with
        | nil =>
            rw [String.intercalate_singleton] at joined
            exact shown_ne_emptyBody reference (joined ▸ here)
        | cons next others =>
            have hasSpace : ' ' ∈ emptyBody.toList := by
              rw [joined, Text.toList_intercalate_cons]
              simp
            revert hasSpace
            decide
  · intro isEmpty
    rw [isEmpty]
    rfl

/-- The references of an exported body. -/
def readBody? (text : String) : Option (List SymbolRef) :=
  if text = emptyBody then some []
  else
    let (body, rest) := readList readShown " " text.toList
    if rest.isEmpty then some body else none

theorem readBody?_shownBody {body : List SymbolRef}
    (delimited : ∀ reference ∈ body, reference.IsDelimited) :
    ∃ text, shownBody body = .ok text ∧ readBody? text = some body := by
  by_cases isEmpty : body = []
  · subst isEmpty
    exact ⟨emptyBody, rfl, rfl⟩
  · obtain ⟨references, traversed, all⟩ := exists_mapM_eq_ok fun reference isIn =>
      reads_shown (delimited reference isIn)
    have written : shownBody body = .ok (" ".intercalate references) := by
      rw [shownBody, if_neg (by simpa using isEmpty), traversed]
      rfl
    refine ⟨_, written, ?_⟩
    have notWord : " ".intercalate references ≠ emptyBody := by
      intro isWord
      rw [isWord, shownBody_eq_emptyBody_iff] at written
      exact isEmpty written
    have delimits : Delimits readShown " " [] := ⟨fun tail => rfl, rfl, rfl⟩
    have referencesRead := readList_intercalate delimits rfl all
    rw [List.append_nil] at referencesRead
    rw [readBody?, if_neg notWord, referencesRead]
    rfl

theorem eq_of_shownBody_eq {body other : List SymbolRef}
    (delimited : ∀ reference ∈ body, reference.IsDelimited)
    (otherDelimited : ∀ reference ∈ other, reference.IsDelimited)
    (same : shownBody body = shownBody other) : body = other := by
  obtain ⟨text, written, bodyRead⟩ := readBody?_shownBody delimited
  obtain ⟨otherText, otherWritten, otherRead⟩ := readBody?_shownBody otherDelimited
  obtain rfl : text = otherText :=
    Except.ok.inj (written.symm.trans (same.trans otherWritten))
  exact Option.some.inj (bodyRead.symm.trans otherRead)

end Export

namespace ParseTable

/-! ## Rows -/

def readRow? : TextRow → Option (ParseKey × List SymbolRef)
  | [nonterminal, terminal, production] => do
    let symbol ← Vocabulary.find? terminal
    let body ← Export.readBody? production
    return ((nonterminal, symbol), body)
  | _ => none

def readRows? : List TextRow → Option (List (ParseKey × List SymbolRef))
  | [] => none
  | titles :: rows =>
    if titles = ["NonTerminal", "Terminal", "Production"] then rows.mapM readRow? else none

/-- What the row of an entry has in front of the body. -/
def shownKey (key : ParseKey) : TextRow := [key.1, key.2.display]

theorem exists_entryRow_read {entry : ParseKey × List SymbolRef}
    (registered : entry.1.2.IsRegistered)
    (delimited : ∀ reference ∈ entry.2, reference.IsDelimited) :
    ∃ row, entryRow entry = .ok row ∧ readRow? row = some entry ∧
      row.take 2 = shownKey entry.1 := by
  obtain ⟨⟨nonterminal, terminal⟩, body⟩ := entry
  obtain ⟨kind, rfl⟩ := (Terminal.isRegistered_iff terminal).mp registered
  obtain ⟨text, written, bodyRead⟩ := Export.readBody?_shownBody delimited
  refine ⟨_, by rw [entryRow, written]; rfl, ?_, rfl⟩
  simp only [readRow?, Terminal.display, Terminal.ofKind, Vocabulary.find?,
    Vocabulary.kind?_display, Option.map_some, bodyRead]
  rfl

/-- On registered terminals the shown keys are as distinct as the keys. -/
theorem nodup_map_shownKey {keys : List ParseKey} (distinct : keys.Nodup)
    (registered : ∀ key ∈ keys, key.2.IsRegistered) : (keys.map shownKey).Nodup := by
  refine List.Nodup.map_on ?_ distinct
  intro key isIn other otherIsIn sameShown
  obtain ⟨nonterminal, terminal⟩ := key
  obtain ⟨otherNonterminal, otherTerminal⟩ := other
  obtain ⟨kind, rfl⟩ := (Terminal.isRegistered_iff terminal).mp (registered _ isIn)
  obtain ⟨otherKind, rfl⟩ := (Terminal.isRegistered_iff otherTerminal).mp (registered _ otherIsIn)
  simp only [shownKey, List.cons.injEq, and_true] at sameShown
  obtain ⟨rfl, sameDisplay⟩ := sameShown
  have kinds := Vocabulary.kind?_display kind
  rw [show kind.display = otherKind.display from sameDisplay, Vocabulary.kind?_display] at kinds
  rw [Option.some.inj kinds]

/-- The rows of a delimited table are read back, and no two of them show the same key. -/
theorem exists_rows_read {table : ParseTable} (delimited : table.IsDelimited) :
    ∃ rows, table.rows = .ok rows ∧ readRows? rows = some table.toList ∧
      (rows.tail.map (List.take 2)).Nodup := by
  obtain ⟨rows, traversed, all⟩ := exists_mapM_eq_ok fun entry isIn =>
    exists_entryRow_read (delimited.terminals entry isIn) (delimited.references entry isIn)
  refine ⟨_, by rw [ParseTable.rows, traversed]; rfl, ?_, ?_⟩
  · exact mapM_eq_some_of_forall₂ (all.imp fun _ _ holds => holds.1)
  · have shown : rows.map (List.take 2) = table.keys.map shownKey := by
      rw [OrderedMap.keys, List.map_map]
      exact map_eq_map_of_forall₂ all fun _ _ holds => holds.2
    rw [List.tail_cons, shown]
    apply nodup_map_shownKey delimited.distinct
    intro key isKey
    obtain ⟨entry, isIn, rfl⟩ := List.mem_map.mp isKey
    exact delimited.terminals entry isIn

/-- The rows of a table determine its entries and their order, whatever its nonterminals
are called, if the names in its bodies do not hold the bracket that closes them.  On such
bodies the exported production determines the body, no two rows have the same nonterminal
and terminal, and no body at all but the empty one is exported as the empty one is. -/
theorem entries_determined_by_rows {table : ParseTable} (delimited : table.IsDelimited) :
    ∃ rows, table.rows = .ok rows ∧ readRows? rows = some table.toList ∧
      (∀ other : ParseTable, other.IsDelimited → other.rows = .ok rows →
        other.toList = table.toList) ∧
      (rows.tail.map (List.take 2)).Nodup ∧
      (∀ body other : List SymbolRef, (∀ reference ∈ body, reference.IsDelimited) →
        (∀ reference ∈ other, reference.IsDelimited) → shownBody body = shownBody other →
          body = other) ∧
      ∀ body : List SymbolRef, shownBody body = .ok "eps" ↔ body = [] := by
  obtain ⟨rows, written, rowsRead, distinct⟩ := exists_rows_read delimited
  refine ⟨rows, written, rowsRead, ?_, distinct, ?_, Export.shownBody_eq_emptyBody_iff⟩
  · intro other otherDelimited otherWritten
    obtain ⟨otherRows, otherWritten', otherRead, -⟩ := exists_rows_read otherDelimited
    obtain rfl : otherRows = rows := Except.ok.inj (otherWritten'.symm.trans otherWritten)
    exact Option.some.inj (otherRead.symm.trans rowsRead)
  · intro body other bodyDelimited otherDelimited same
    exact Export.eq_of_shownBody_eq bodyDelimited otherDelimited same

/-- Names that look like other references or are empty, and a body without references. -/
def bracketsTable : ParseTable :=
  ⟨[(("<a b", .ofKind .endOfFile), [.nonterminal "eps", .action "f(<x> $)" "action",
      .terminal (.ofKind .endOfFile), .nonterminal "", .terminal (.ofKind .arrow)]),
    (("<a b", .ofKind .identifier), [])]⟩

theorem isDelimited_bracketsTable : bracketsTable.IsDelimited := by
  have registered (kind : TokenKind) : (Terminal.ofKind kind).IsRegistered :=
    (Terminal.isRegistered_iff _).mpr ⟨kind, rfl⟩
  constructor
  · simp [OrderedMap.keys, bracketsTable, Terminal.ofKind]
  · intro entry isIn
    rcases List.mem_pair.mp isIn with rfl | rfl
    · exact registered .endOfFile
    · exact registered .identifier
  · intro entry isIn reference isPart
    rcases List.mem_pair.mp isIn with rfl | rfl
    · simp only [List.mem_cons, List.not_mem_nil, or_false] at isPart
      rcases isPart with rfl | rfl | rfl | rfl | rfl
      · exact show '>' ∉ "eps".toList by decide
      · exact ⟨rfl, by decide⟩
      · exact registered .endOfFile
      · exact show '>' ∉ "".toList by decide
      · exact registered .arrow
    · cases isPart

theorem entries_determined_by_rows_bracketsTable :
    bracketsTable.IsDelimited ∧
      readRows? [["NonTerminal", "Terminal", "Production"],
        ["<a b", "$", "<eps> [f(<x> $)] $ <> returntype"], ["<a b", "id", "eps"]] =
      some bracketsTable.toList := by
  obtain ⟨rows, written, rowsRead, -⟩ := entries_determined_by_rows isDelimited_bracketsTable
  refine ⟨isDelimited_bracketsTable, ?_⟩
  rw [← rowsRead]
  exact congrArg _ (Except.ok.inj written)

end ParseTable

end GrammarTables
