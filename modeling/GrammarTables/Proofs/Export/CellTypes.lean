import GrammarTables.Proofs.Export.Files
import GrammarTables.Proofs.Export.Sets

/-!
# Types of exported cells

A sheet types a text by how it begins: behind an equals sign there is a formula, and some
texts are error codes.  The titles, the sets and the productions of an export can be neither,
since each begins with a displayed name or with a bracket.  Nonterminals are exported as they
are, so their column is the only one in which there can be formulas and error codes.
-/

namespace GrammarTables

/-! ## Cells -/

namespace Cell

/-- The field begins neither as formulas do nor as error codes do. -/
def IsInert (field : String) : Prop :=
  field.toList.head? ≠ some '=' ∧ field.toList.head? ≠ some '#'

instance (field : String) : Decidable (IsInert field) :=
  inferInstanceAs (Decidable (_ ∧ _))

/-- The cell holds a text, if it holds anything. -/
def IsText : Cell → Prop
  | emptyText | text _ => True
  | _ => False

/-- The cell of a field as it is typed: a formula for more than an equals sign with which the
field begins, an error code for one of the codes, and otherwise a text. -/
inductive IsTyped (field : String) : Cell → Prop where
  | formula {value : String} (begins : field.toList.head? = some '=') (goesOn : 1 < field.length) :
      IsTyped field (.formula value)
  | errorCode {value : String} (isCode : field ∈ errorCodes) : IsTyped field (.errorCode value)
  | text {cell : Cell} (notFormula : field.toList.head? = some '=' → field.length ≤ 1)
      (notCode : field ∉ errorCodes) (isText : cell.IsText) : IsTyped field cell

theorem head?_of_mem_errorCodes {field : String} (isCode : field ∈ errorCodes) :
    field.toList.head? = some '#' := by
  have all : ∀ code ∈ errorCodes, code.toList.head? = some '#' := by decide
  exact all field isCode

theorem length_of_mem_errorCodes {field : String} (isCode : field ∈ errorCodes) :
    field.length < textLimit := by
  have all : ∀ code ∈ errorCodes, code.length < textLimit := by decide
  exact all field isCode

/-- Cutting a text off makes no error code of it. -/
theorem mem_errorCodes_take_iff (field : String) :
    String.ofList (field.toList.take textLimit) ∈ errorCodes ↔ field ∈ errorCodes := by
  by_cases whole : field.length ≤ textLimit
  · rw [List.take_of_length_le (by rwa [String.length_toList]), String.ofList_toList]
  · constructor
    · intro isCode
      have short := length_of_mem_errorCodes isCode
      rw [String.length_ofList, List.length_take, String.length_toList] at short
      omega
    · intro isCode
      exact absurd (length_of_mem_errorCodes isCode).le whole

theorem IsTyped.isText {field : String} {cell : Cell} (typed : IsTyped field cell)
    (inert : IsInert field) : cell.IsText := by
  cases typed with
  | formula begins _ => exact absurd begins inert.1
  | errorCode isCode => exact absurd (head?_of_mem_errorCodes isCode) inert.2
  | text _ _ isText => exact isText

/-- The field is typed as it begins, even if it is cut off. -/
theorem isTyped_of_ofText {field : String} {cell : Cell} (made : ofText field = .ok cell) :
    IsTyped field cell := by
  have first : (field.toList.take textLimit).head? = field.toList.head? := by
    rw [List.head?_take, if_neg (by decide)]
  have long : 1 < (field.toList.take textLimit).length ↔ 1 < field.length := by
    rw [List.length_take, String.length_toList, textLimit]
    omega
  unfold ofText at made
  simp only [first, List.contains_iff_mem, mem_errorCodes_take_iff, Bool.and_eq_true,
    decide_eq_true_eq, beq_iff_eq, long] at made
  split at made
  · cases made
  · split at made
    · next isEmpty =>
        cases made
        have noField : field = "" := by
          rw [List.isEmpty_iff, List.take_eq_nil_iff, or_iff_right (by decide)] at isEmpty
          exact String.toList_eq_nil_iff.mp isEmpty
        subst noField
        exact .text nofun (by decide) trivial
    · split at made
      · next isFormula =>
          cases made
          exact .formula isFormula.2 isFormula.1
      · next notFormula =>
          split at made
          · next isCode =>
              cases made
              exact .errorCode isCode
          · next notCode =>
              cases made
              refine .text ?_ notCode trivial
              intro begins
              exact Nat.not_lt.mp fun goesOn => notFormula ⟨goesOn, begins⟩

/-- A stored cell is in use, and it is of the type it was made with. -/
theorem isTyped_of_store {field : String} {made cell : Cell} (isMade : ofText field = .ok made)
    (isStored : made.store = .ok cell) : cell.isStored = true ∧ IsTyped field cell := by
  cases isTyped_of_ofText isMade with
  | formula begins goesOn =>
      obtain ⟨_, -, rfl⟩ := (map_eq_ok_iff ..).mp isStored
      exact ⟨rfl, .formula begins goesOn⟩
  | errorCode isCode =>
      cases isStored
      exact ⟨rfl, .errorCode isCode⟩
  | text notFormula notCode isText =>
      cases made with
      | emptyText =>
          cases isStored
          exact ⟨rfl, .text notFormula notCode trivial⟩
      | text value =>
          obtain ⟨_, -, rfl⟩ := (map_eq_ok_iff ..).mp isStored
          exact ⟨rfl, .text notFormula notCode trivial⟩
      | _ => cases isText

end Cell

/-! ## Sheets -/

namespace Sheet

theorem cells_of_make {taken : List String} {title : String} {rows : List (List Scalar)}
    {sheet : Sheet} (isMade : make taken title rows = .ok sheet) :
    rows.mapM (fun row => row.mapM Cell.ofScalar) = .ok sheet.cells := by
  unfold make at isMade
  simp only at isMade
  split at isMade
  · cases isMade
  · obtain ⟨cells, made, rest⟩ := (bind_eq_ok_iff ..).mp isMade
    cases rest
    exact made

theorem cells_of_store {sheet stored : Sheet} (isStored : sheet.store = .ok stored) :
    ∃ cells, sheet.cells.mapM (fun row => row.mapM Cell.store) = .ok cells ∧
      stored.cells = rectangle cells := by
  obtain ⟨cells, written, rest⟩ := (bind_eq_ok_iff ..).mp isStored
  cases rest
  exact ⟨cells, written, rfl⟩

end Sheet

namespace Export

/-- The cells of a sheet that is made and stored are typed by the fields of the part, if its
rows have one length. -/
theorem Part.isTyped_of_store {taken : List String} {part : Part} {made sheet : Sheet}
    (isMade : Sheet.make taken part.sheet.1 part.sheet.2 = .ok made)
    (isStored : made.store = .ok sheet) {width : Nat} (positive : 0 < width)
    (even : ∀ row ∈ part.rows, row.length = width) :
    List.Forall₂ (List.Forall₂ Cell.IsTyped) part.rows sheet.cells := by
  have madeCells := Sheet.cells_of_make isMade
  obtain ⟨cells, storedCells, rectangular⟩ := Sheet.cells_of_store isStored
  simp only [Part.sheet, List.mapM_map, mapM_eq_ok_iff, Function.comp_apply] at madeCells
  simp only [mapM_eq_ok_iff] at storedCells
  have typed : List.Forall₂
      (List.Forall₂ fun field cell => cell.isStored = true ∧ Cell.IsTyped field cell)
      part.rows cells := by
    apply forall₂_comp madeCells storedCells
    intro fields row others madeRow storedRow
    apply forall₂_comp madeRow storedRow
    intro field cell other cellMade cellStored
    exact Cell.isTyped_of_store cellMade cellStored
  rw [rectangular, Sheet.rectangle_of_forall₂ typed (fun _ _ both => both.1) positive even]
  exact typed.imp fun _ _ row => row.imp fun _ _ both => both.2

theorem isMade_of_addSheets {parts : List Part} {sheets workbook : Workbook}
    (added : Workbook.addSheets sheets (parts.map Part.sheet) = .ok workbook) :
    ∃ others, workbook = sheets ++ others ∧
      List.Forall₂ (fun part sheet => ∃ taken,
        Sheet.make taken part.sheet.1 part.sheet.2 = .ok sheet) parts others := by
  induction parts generalizing sheets with
  | nil =>
      cases added
      exact ⟨[], (List.append_nil _).symm, .nil⟩
  | cons part rest ih =>
      obtain ⟨sheet, made, restAdded⟩ := (bind_eq_ok_iff ..).mp added
      obtain ⟨others, rfl, all⟩ := ih restAdded
      exact ⟨sheet :: others, List.append_assoc .., .cons ⟨_, made⟩ all⟩

theorem isTyped_of_makeWorkbook {parts : List Part} {workbook : Workbook}
    (even : ∀ part ∈ parts, ∃ width, 0 < width ∧ ∀ row ∈ part.rows, row.length = width)
    (isMade : Workbook.make (parts.map Part.sheet) = .ok workbook) :
    List.Forall₂ (fun part sheet => List.Forall₂ (List.Forall₂ Cell.IsTyped) part.rows
      sheet.cells) parts workbook := by
  obtain ⟨sheets, added, isStored⟩ := (bind_eq_ok_iff ..).mp isMade
  obtain ⟨_, rfl, made⟩ := isMade_of_addSheets added
  split at isStored
  · cases isStored
  · obtain ⟨stored, written, titled⟩ := (bind_eq_ok_iff ..).mp isStored
    obtain ⟨_, -, ⟨⟩⟩ := (bind_eq_ok_iff ..).mp titled
    apply forall₂_comp ((List.forall₂_and_left ..).mpr ⟨even, made⟩)
      ((mapM_eq_ok_iff ..).mp written)
    rintro part sheet other ⟨⟨width, positive, evenRows⟩, taken, sheetMade⟩ sheetStored
    exact Part.isTyped_of_store sheetMade sheetStored positive evenRows

/-! ## Columns of an export -/

/-- Below a row of inert titles the rows begin with the nonterminals, and all of their other
fields are inert. -/
structure IsHeaded (nonterminals : List String) (rows : List TextRow) : Prop where
  even : ∃ width, 0 < width ∧ ∀ row ∈ rows, row.length = width
  inert : ∃ titles below, rows = titles :: below ∧ (∀ field ∈ titles, Cell.IsInert field) ∧
    List.Forall₂ (fun nonterminal row => ∃ others, row = nonterminal :: others ∧
      ∀ field ∈ others, Cell.IsInert field) nonterminals below

theorem isInert_display (symbol : Terminal) : Cell.IsInert symbol.display := by
  obtain ⟨kind, payload⟩ := symbol
  change Cell.IsInert kind.display
  cases kind <;> decide

theorem isInert_append {first : String} (filled : first ≠ "") (inert : Cell.IsInert first)
    (second : String) : Cell.IsInert (first ++ second) := by
  have characters : first.toList ≠ [] := by
    rwa [ne_eq, String.toList_eq_nil_iff]
  rwa [Cell.IsInert, String.toList_append, List.head?_append_of_ne_nil _ characters]

/-- Divided parts begin as the first of them does. -/
theorem isInert_intercalate {parts : List String} (separator : String)
    (inert : ∀ part ∈ parts, part ≠ "" ∧ Cell.IsInert part) :
    Cell.IsInert (separator.intercalate parts) := by
  cases parts with
  | nil => exact ⟨nofun, nofun⟩
  | cons part rest =>
      obtain ⟨filled, isInert⟩ := inert part List.mem_cons_self
      rw [Text.intercalate_cons]
      exact isInert_append filled isInert _

theorem isInert_shownSet (members : List Terminal) : Cell.IsInert (shownSet members) := by
  apply isInert_intercalate
  intro name isName
  obtain ⟨symbol, -, rfl⟩ := List.mem_map.mp isName
  exact ⟨symbol.kind.display_ne_empty, isInert_display symbol⟩

/-- A reference begins with a displayed name or with a bracket. -/
theorem isInert_of_shown {reference : SymbolRef} {text : String}
    (shown : reference.shown = .ok text) : text ≠ "" ∧ Cell.IsInert text := by
  cases reference with
  | terminal symbol =>
      cases shown
      exact ⟨symbol.kind.display_ne_empty, isInert_display symbol⟩
  | nonterminal name =>
      cases shown
      refine ⟨by simp, ?_⟩
      rw [String.append_assoc]
      exact isInert_append (by decide) (by decide) _
  | action name kind =>
      cases shown
      refine ⟨by simp, ?_⟩
      rw [String.append_assoc]
      exact isInert_append (by decide) (by decide) _
  | foreign value => cases shown

theorem isInert_of_shownBody {body : List SymbolRef} {text : String}
    (shown : shownBody body = .ok text) : Cell.IsInert text := by
  rw [shownBody] at shown
  split at shown
  · cases shown
    decide
  · obtain ⟨references, all, rfl⟩ := (map_eq_ok_iff ..).mp shown
    apply isInert_intercalate
    exact forall_mem_of_mapM all fun _ _ _ here => isInert_of_shown here

theorem isHeaded_setRows (table : FirstFollowTable) (column : SetColumn) :
    IsHeaded table.keys (table.rows column) := by
  refine ⟨⟨2, by decide, ?_⟩, _, _, rfl, ?_, ?_⟩
  · intro row isRow
    rcases List.mem_cons.mp isRow with rfl | isBelow
    · rfl
    · obtain ⟨entry, -, rfl⟩ := List.mem_map.mp isBelow
      rfl
  · cases column <;> decide
  · rw [OrderedMap.keys, List.forall₂_map_left_iff, OrderedMap.toList,
      List.forall₂_map_right_iff, List.forall₂_same]
    intro entry _
    refine ⟨_, rfl, ?_⟩
    intro field isField
    rw [List.mem_singleton.mp isField]
    exact isInert_shownSet _

theorem isHeaded_parseRows {table : ParseTable} {rows : List TextRow}
    (written : table.rows = .ok rows) : IsHeaded (table.keys.map Prod.fst) rows := by
  obtain ⟨below, traversed, rfl⟩ := (map_eq_ok_iff ..).mp written
  have fields : List.Forall₂ (fun entry row => ∃ body, shownBody entry.2 = .ok body ∧
      row = [entry.1.1, entry.1.2.display, body]) table.toList below := by
    rw [mapM_eq_ok_iff] at traversed
    refine traversed.imp ?_
    intro entry row made
    obtain ⟨body, shown, rfl⟩ := (map_eq_ok_iff ..).mp made
    exact ⟨body, shown, rfl⟩
  refine ⟨⟨3, by decide, ?_⟩, _, _, rfl, by decide, ?_⟩
  · have lengths : ∀ row ∈ below, row.length = 3 := by
      refine forall_mem_of_forall₂ fields ?_
      rintro entry _ row ⟨body, -, rfl⟩
      rfl
    exact List.forall_mem_cons.mpr ⟨rfl, lengths⟩
  · rw [OrderedMap.keys, List.map_map, List.forall₂_map_left_iff]
    refine fields.imp ?_
    rintro entry row ⟨body, shown, rfl⟩
    refine ⟨_, rfl, ?_⟩
    intro field isField
    rcases List.mem_cons.mp isField with rfl | isBody
    · exact isInert_display _
    · rw [List.mem_singleton.mp isBody]
      exact isInert_of_shownBody shown

def nonterminals (firstFollow : Option FirstFollowTable) (parseTable : Option ParseTable) :
    List (List String) :=
  (firstFollow.toList.flatMap fun table => [table.keys, table.keys]) ++
    parseTable.toList.map fun table => table.keys.map Prod.fst

variable {firstFollow : Option FirstFollowTable} {parseTable : Option ParseTable}

theorem isHeaded_partsOf {parts : List Part}
    (made : partsOf firstFollow parseTable = .ok parts) :
    List.Forall₂ (fun names part => IsHeaded names part.rows)
      (nonterminals firstFollow parseTable) parts := by
  rw [partsOf, map_eq_ok_iff] at made
  obtain ⟨last, lastMade, rfl⟩ := made
  apply List.rel_append
  · cases firstFollow with
    | none => exact .nil
    | some table =>
        exact .cons (isHeaded_setRows table .first)
          (.cons (isHeaded_setRows table .follow) .nil)
  · rw [List.forall₂_map_left_iff]
    rw [mapM_eq_ok_iff] at lastMade
    refine lastMade.imp ?_
    intro table part partMade
    obtain ⟨rows, written, rfl⟩ := (map_eq_ok_iff ..).mp partMade
    exact isHeaded_parseRows written

/-! ## Sheets of an export -/

/-- The cells of a sheet hold texts, except that those below the first title are typed by the
nonterminals they are made of. -/
def IsTypedBy (nonterminals : List String) (sheet : Sheet) : Prop :=
  ∃ titles below, sheet.cells = titles :: below ∧ (∀ cell ∈ titles, cell.IsText) ∧
    List.Forall₂ (fun nonterminal row => ∃ first others, row = first :: others ∧
      Cell.IsTyped nonterminal first ∧ ∀ cell ∈ others, cell.IsText) nonterminals below

theorem isText_of_isInert {fields : List String} {cells : List Cell}
    (typed : List.Forall₂ Cell.IsTyped fields cells)
    (inert : ∀ field ∈ fields, Cell.IsInert field) : ∀ cell ∈ cells, cell.IsText :=
  forall_mem_of_forall₂ typed fun field isField _ here => here.isText (inert field isField)

theorem IsHeaded.isTypedBy {names : List String} {rows : List TextRow} {sheet : Sheet}
    (headed : IsHeaded names rows)
    (typed : List.Forall₂ (List.Forall₂ Cell.IsTyped) rows sheet.cells) :
    IsTypedBy names sheet := by
  obtain ⟨titles, below, rfl, titlesInert, belowInert⟩ := headed.inert
  obtain ⟨titleCells, belowCells, titlesTyped, belowTyped, cellsEq⟩ :=
    List.forall₂_cons_left_iff.mp typed
  refine ⟨titleCells, belowCells, cellsEq, isText_of_isInert titlesTyped titlesInert, ?_⟩
  apply forall₂_comp belowInert belowTyped
  rintro nonterminal _ row ⟨others, rfl, othersInert⟩ rowTyped
  obtain ⟨first, rest, firstTyped, restTyped, rfl⟩ := List.forall₂_cons_left_iff.mp rowTyped
  exact ⟨first, rest, rfl, firstTyped, isText_of_isInert restTyped othersInert⟩

theorem workbook_notMem_map_file (parts : List Part) (fileName : String)
    (workbook : Workbook) : (fileName, Content.workbook workbook) ∉ parts.map Part.file := by
  intro isFile
  obtain ⟨part, -, same⟩ := List.mem_map.mp isFile
  cases same

/-- A workbook among the files of an export is made of all parts. -/
theorem makeWorkbook_of_mem_files {fileName : String} {workbook : Workbook}
    (isFile : (fileName, Content.workbook workbook) ∈ (run firstFollow parseTable).files) :
    ∃ parts, partsOf firstFollow parseTable = .ok parts ∧
      Workbook.make (parts.map Part.sheet) = .ok workbook := by
  have noText := fun parts => workbook_notMem_map_file parts fileName workbook
  cases made : partsOf firstFollow parseTable with
  | error reason =>
      cases parseTable with
      | none => cases made
      | some table =>
          cases partMade : parsePart table with
          | ok part =>
              simp [partsOf, partMade, Except.map] at made
          | error reason =>
              rw [run, Option.map_some, partMade, writeFiles_eq] at isFile
              rcases List.mem_append.mp isFile with inFiles | isNext
              · exact absurd inFiles (noText _)
              · exact absurd isNext List.not_mem_nil
  | ok parts =>
      refine ⟨parts, rfl, ?_⟩
      rw [run_of_partsOf made] at isFile
      by_cases someGiven : parts = []
      · subst someGiven
        cases isFile
      · rw [writeParts_of_ne_nil someGiven] at isFile
        cases workbookMade : Workbook.make (parts.map Part.sheet) with
        | error reason =>
            rw [workbookMade] at isFile
            exact absurd isFile (noText parts)
        | ok stored =>
            rw [workbookMade] at isFile
            rcases List.mem_append.mp isFile with inFiles | isWorkbook
            · exact absurd inFiles (noText parts)
            · cases List.mem_singleton.mp isWorkbook
              rfl

/-- In every workbook that is exported, the titles, the sets, the terminals and the productions
are stored as texts, or as empty texts.  A nonterminal is stored as a formula exactly if an
equals sign and something else begin it, as an error code exactly if it is one, and otherwise
as a text. -/
theorem cells_of_exported_workbook {fileName : String} {workbook : Workbook}
    (isFile : (fileName, Content.workbook workbook) ∈ (run firstFollow parseTable).files) :
    List.Forall₂ IsTypedBy (nonterminals firstFollow parseTable) workbook := by
  obtain ⟨parts, made, workbookMade⟩ := makeWorkbook_of_mem_files isFile
  have headed := isHeaded_partsOf made
  have even : ∀ part ∈ parts, ∃ width, 0 < width ∧ ∀ row ∈ part.rows, row.length = width :=
    forall_mem_of_forall₂ headed fun _ _ _ isHeaded => isHeaded.even
  apply forall₂_comp headed (isTyped_of_makeWorkbook even workbookMade)
  intro names part sheet isHeaded typed
  exact isHeaded.isTypedBy typed

/-- A nonterminal that begins like a formula and one that is an error code, with sets and a
production that hold the same characters. -/
def markedSets : FirstFollowTable :=
  ⟨[("=A", ⟨[.ofKind .equal], []⟩), ("#N/A", ⟨[], [.ofKind .endOfFile]⟩)]⟩

/-- Only the cells of the nonterminals are typed by them. -/
theorem cells_of_exported_workbook_markedSets :
    ∃ workbook, ("LL1_Tables.xlsx", .workbook workbook) ∈ (run (some markedSets) none).files ∧
      List.Forall₂ IsTypedBy [["=A", "#N/A"], ["=A", "#N/A"]] workbook := by
  have isFile : ∃ workbook,
      ("LL1_Tables.xlsx", Content.workbook workbook) ∈ (run (some markedSets) none).files :=
    ⟨_, .tail _ (.tail _ (.head _))⟩
  obtain ⟨workbook, isFile⟩ := isFile
  exact ⟨workbook, isFile, cells_of_exported_workbook isFile⟩

/-- A nonterminal without control characters is exported as a formula. -/
theorem formula_in_exported_workbook :
    (FirstFollowTable.build (.ofRows [⟨1, "=A", [], []⟩])).outcome = .ok ⟨[("=A", ⟨[], []⟩)]⟩ ∧
      ∃ workbook,
        ("LL1_Tables.xlsx", .workbook workbook) ∈ (run (some ⟨[("=A", ⟨[], []⟩)]⟩) none).files ∧
        ∃ sheet ∈ workbook, ∃ row ∈ sheet.cells, .formula "=A" ∈ row := by
  refine ⟨rfl, _, .tail _ (.tail _ (.head _)), _, .head _, _, .tail _ (.head _), .head _⟩

end Export

end GrammarTables
