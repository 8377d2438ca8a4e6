import GrammarTables.Proofs.Export.Workbook
import GrammarTables.Proofs.Rendering

/-!
# What an export leaves

Tables are exported as files of comma separated values and then as one workbook.  The
workbook shows the fields of these files sheet by sheet, and it is made as a whole: the
first field that sheets refuse ends the export without a workbook, and the files in front of
it remain.
-/

namespace GrammarTables

namespace Export

/-! ## The shape of an export -/

/-- What is known of a part before the table is: its title, the name of its file, and how
many rows and columns it has. -/
structure Frame where
  title : String
  fileName : String
  height : Nat
  width : Nat
  /-- There is a column. -/
  width_pos : 0 < width

/-- The frames of a First/Follow table: two columns, with a row for each entry below the
titles. -/
def setFrames (table : FirstFollowTable) : List Frame :=
  [⟨"FIRST", "FIRST.csv", table.size + 1, 2, by decide⟩,
    ⟨"FOLLOW", "FOLLOW.csv", table.size + 1, 2, by decide⟩]

/-- The frame of a parse table: three columns, with a row for each entry below the titles. -/
def parseFrame (table : ParseTable) : Frame :=
  ⟨"ParseTable", "ParseTable.csv", table.size + 1, 3, by decide⟩

def frames (firstFollow : Option FirstFollowTable) (parseTable : Option ParseTable) :
    List Frame :=
  firstFollow.toList.flatMap setFrames ++ parseTable.toList.map parseFrame

/-- The part has the title and the name of the frame, and its rows span it. -/
structure Part.Fits (part : Part) (frame : Frame) : Prop where
  title_eq : part.title = frame.title
  fileName_eq : part.fileName = frame.fileName
  lengths_eq : part.rows.map List.length = List.replicate frame.height frame.width

theorem Part.Fits.length_eq {part : Part} {frame : Frame} (fits : part.Fits frame) :
    ∀ row ∈ part.rows, row.length = frame.width := by
  intro row isRow
  have isLength : row.length ∈ part.rows.map List.length := List.mem_map_of_mem isRow
  rw [fits.lengths_eq] at isLength
  exact List.eq_of_mem_replicate isLength

/-- The parts of the tables that are given. -/
def partsOf (firstFollow : Option FirstFollowTable) (parseTable : Option ParseTable) :
    Except RenderError (List Part) :=
  (parseTable.toList.mapM parsePart).map fun last =>
    firstFollow.toList.flatMap setParts ++ last

variable {firstFollow : Option FirstFollowTable} {parseTable : Option ParseTable}
  {parts : List Part}

theorem run_of_partsOf (made : partsOf firstFollow parseTable = .ok parts) :
    run firstFollow parseTable = writeParts parts := by
  have sets : (firstFollow.map setParts).getD [] = firstFollow.toList.flatMap setParts := by
    cases firstFollow <;> simp
  rw [partsOf, map_eq_ok_iff] at made
  obtain ⟨last, lastMade, rfl⟩ := made
  rw [mapM_eq_ok_iff] at lastMade
  cases parseTable with
  | none =>
      cases lastMade
      rw [List.append_nil, ← sets]
      rfl
  | some table =>
      rw [Option.toList_some, List.forall₂_cons_left_iff] at lastMade
      obtain ⟨part, _, partMade, ⟨⟩, rfl⟩ := lastMade
      rw [run, Option.map_some, partMade, sets]

theorem fits_setParts (table : FirstFollowTable) :
    List.Forall₂ Part.Fits (setParts table) (setFrames table) := by
  have lengths (column : SetColumn) :
      (table.rows column).map List.length = List.replicate (table.size + 1) 2 := by
    rw [FirstFollowTable.rows, List.map_cons, List.map_map, List.replicate_succ]
    change 2 :: table.toList.map (fun _ => 2) = _
    rw [List.map_const']
    rfl
  exact .cons ⟨rfl, rfl, lengths .first⟩ (.cons ⟨rfl, rfl, lengths .follow⟩ .nil)

theorem exists_parsePart {table : ParseTable}
    (references : ∀ entry ∈ table.toList, ∀ reference ∈ entry.2,
      ∀ value, reference ≠ .foreign value) :
    ∃ part, parsePart table = .ok part ∧ part.Fits (parseFrame table) := by
  obtain ⟨rows, written, lengths⟩ := ParseTable.exists_rows fun entry isEntry reference isIn =>
    SymbolRef.exists_shown (references entry isEntry reference isIn)
  refine ⟨_, by rw [parsePart, written]; rfl, ?_⟩
  exact ⟨rfl, rfl, lengths⟩

/-- Tables of references have parts, and these fit the frames. -/
theorem exists_partsOf (firstFollow : Option FirstFollowTable)
    (references : ∀ table ∈ parseTable, ∀ entry ∈ table.toList, ∀ reference ∈ entry.2,
      ∀ value, reference ≠ .foreign value) :
    ∃ parts, partsOf firstFollow parseTable = .ok parts ∧
      List.Forall₂ Part.Fits parts (frames firstFollow parseTable) := by
  obtain ⟨last, made, lastFits⟩ := exists_mapM_eq_ok fun table isGiven =>
    exists_parsePart (references table (Option.mem_toList.mp isGiven))
  refine ⟨_, by rw [partsOf, made]; rfl, ?_⟩
  apply List.rel_append
  · cases firstFollow with
    | none => exact .nil
    | some table =>
        simp only [Option.toList_some, List.flatMap_singleton]
        exact fits_setParts table
  · rw [List.forall₂_map_right_iff]
    exact lastFits.flip

theorem areFree_titles (firstFollow : Option FirstFollowTable)
    (parseTable : Option ParseTable) :
    Workbook.AreFree [] ((frames firstFollow parseTable).map Frame.title) := by
  have first : Sheet.IsFree [] "FIRST" := ⟨rfl, rfl, rfl, rfl⟩
  have follow : Sheet.IsFree ["FIRST"] "FOLLOW" := ⟨rfl, rfl, rfl, rfl⟩
  have last : Sheet.IsFree ["FIRST", "FOLLOW"] "ParseTable" := ⟨rfl, rfl, rfl, rfl⟩
  have only : Sheet.IsFree [] "ParseTable" := ⟨rfl, rfl, rfl, rfl⟩
  cases firstFollow with
  | none =>
      cases parseTable with
      | none => exact trivial
      | some _ => exact ⟨only, trivial⟩
  | some _ =>
      cases parseTable with
      | none => exact ⟨first, follow, trivial⟩
      | some _ => exact ⟨first, follow, last, trivial⟩

/-! ## The files -/

def Part.file (part : Part) : String × Content :=
  (part.fileName, .text (Csv.write (Csv.ofTexts part.rows)).text)

/-- All rows of a part can be written. -/
theorem Part.write_eq (part : Part) : part.write = ⟨[part.file], none⟩ := by
  rw [Part.write, (Csv.isFileOf_write part.rows).complete]
  rfl

theorem writeFiles_eq (parts : List Part) : writeFiles parts = ⟨parts.map Part.file, none⟩ := by
  induction parts with
  | nil => rfl
  | cons part rest ih =>
      change part.write.andThen (writeFiles rest) = _
      rw [Part.write_eq, ih]
      rfl

theorem writeParts_of_ne_nil (someGiven : parts ≠ []) :
    writeParts parts =
      match Workbook.make (parts.map Part.sheet) with
      | .ok workbook => ⟨parts.map Part.file ++ [(workbookName, .workbook workbook)], none⟩
      | .error reason => ⟨parts.map Part.file, some (.workbook reason)⟩ := by
  rw [writeParts, writeFiles_eq, writeWorkbook, List.isEmpty_eq_false_iff.mpr someGiven]
  simp only [Bool.false_eq_true, if_false, Run.andThen]
  cases Workbook.make (parts.map Part.sheet) with
  | ok workbook => rfl
  | error reason => simp

/-- The file has the name that the part asks for, and its rows are read from the text in it. -/
structure Part.IsWrittenAs (part : Part) (file : String × Content) : Prop where
  name_eq : file.1 = part.fileName
  exists_text : ∃ text, file.2 = .text text ∧ Csv.read? text = some part.rows

/-- The sheet shows what is read from the file: its used cells span the rows, and their values
are those of the fields. -/
def IsShownBy (file : String × Content) (sheet : Sheet) : Prop :=
  ∃ text rows, file.2 = .text text ∧ Csv.read? text = some rows ∧
    sheet.cells.map List.length = rows.map List.length ∧
    sheet.cells.map (List.map Cell.value) = rows.map (List.map Cell.valueOfField)

section Storable

variable {part : Part}
  (storable : ∀ row ∈ part.rows, ∀ field ∈ row, Cell.IsStorable field)
include storable

/-- Fields that sheets can store are short enough to be read back. -/
theorem Part.read?_file :
    Csv.read? (Csv.write (Csv.ofTexts part.rows)).text = some part.rows := by
  apply (Csv.isFileOf_write part.rows).read_eq
  intro row isRow field isField
  exact (storable row isRow field isField).length_le.trans (by decide)

theorem Part.isWrittenAs_file : part.IsWrittenAs part.file where
  name_eq := rfl
  exists_text := ⟨_, rfl, Part.read?_file storable⟩

theorem Part.IsHeldBy.isShownBy {sheet : Sheet} (held : part.IsHeldBy sheet) :
    IsShownBy part.file sheet :=
  ⟨_, part.rows, rfl, Part.read?_file storable, held.lengths_eq, held.values_eq⟩

end Storable

/-! ## The run -/

/-- What a run of parts leaves: without parts nothing, after a refused field the files of the
parts, and otherwise these files and a workbook that shows them. -/
structure IsRunOf (parts : List Part) (run : Run) : Prop where
  nothing : parts = [] → run = ⟨[], none⟩
  stopped : ∀ field, Workbook.firstRefused parts = some field →
    ∃ files, List.Forall₂ Part.IsWrittenAs parts files ∧
      run = ⟨files, some (.workbook (.illegalCharacters field))⟩
  complete : parts ≠ [] → Workbook.firstRefused parts = none →
    ∃ files workbook, List.Forall₂ Part.IsWrittenAs parts files ∧
      List.Forall₂ IsShownBy files workbook ∧
      workbook.map Sheet.title = parts.map Part.title ∧
      run = ⟨files ++ [("LL1_Tables.xlsx", .workbook workbook)], none⟩

theorem isRunOf_writeParts
    (storable : ∀ part ∈ parts, ∀ row ∈ part.rows, ∀ field ∈ row, Cell.IsStorable field)
    (ends : parts ≠ [] → EndsAt .illegalCharacters (Workbook.firstRefused parts)
      (Workbook.make (parts.map Part.sheet)) (List.Forall₂ Part.IsHeldBy parts)) :
    IsRunOf parts (writeParts parts) := by
  have written : List.Forall₂ Part.IsWrittenAs parts (parts.map Part.file) := by
    rw [List.forall₂_map_right_iff, List.forall₂_same]
    intro part isPart
    exact Part.isWrittenAs_file (storable part isPart)
  constructor
  · rintro rfl
    rfl
  · intro field refused
    have someGiven : parts ≠ [] := by
      rintro rfl
      cases refused
    have made := ends someGiven
    rw [refused] at made
    refine ⟨parts.map Part.file, written, ?_⟩
    rw [writeParts_of_ne_nil someGiven, show Workbook.make _ = _ from made]
  · intro someGiven allAccepted
    have made := ends someGiven
    rw [allAccepted] at made
    obtain ⟨workbook, workbookMade, held⟩ := made
    refine ⟨parts.map Part.file, workbook, written, ?_, ?_, ?_⟩
    · rw [List.forall₂_map_left_iff]
      apply ((List.forall₂_and_left ..).mpr ⟨storable, held⟩).imp
      intro part sheet both
      exact both.2.isShownBy both.1
    · exact map_eq_map_of_forall₂ held fun _ _ isHeld => isHeld.title_eq
    · rw [writeParts_of_ne_nil someGiven, workbookMade]
      rfl

/-- What the tables of an export need: the bodies of the parse table hold references, and
all fields can be stored. -/
structure IsExportable (firstFollow : Option FirstFollowTable)
    (parseTable : Option ParseTable) : Prop where
  references : ∀ table ∈ parseTable, ∀ entry ∈ table.toList, ∀ reference ∈ entry.2,
    ∀ value, reference ≠ .foreign value
  storable : ∀ parts, partsOf firstFollow parseTable = .ok parts →
    ∀ part ∈ parts, ∀ row ∈ part.rows, ∀ field ∈ row, Cell.IsStorable field

/-- An export of tables has the files of their frames in order.  Nothing is written without
tables.  If sheets refuse a field, then the first that they refuse ends the export after
these files, and otherwise the workbook comes last and has a sheet for each of them, whose
used cells are the whole rectangle and have the values of the fields read from the file. -/
theorem run_leaves_frames (exportable : IsExportable firstFollow parseTable) :
    ∃ parts, partsOf firstFollow parseTable = .ok parts ∧
      List.Forall₂ Part.Fits parts (frames firstFollow parseTable) ∧
      IsRunOf parts (run firstFollow parseTable) := by
  obtain ⟨parts, made, fits⟩ := exists_partsOf firstFollow exportable.references
  refine ⟨parts, made, fits, ?_⟩
  have free : Workbook.AreFree [] (parts.map Part.title) := by
    have titles : parts.map Part.title = (frames firstFollow parseTable).map Frame.title :=
      (map_eq_map_of_forall₂ fits fun _ _ fit => fit.title_eq.symm).symm
    rw [titles]
    exact areFree_titles firstFollow parseTable
  have even : ∀ part ∈ parts, ∃ width, 0 < width ∧ ∀ row ∈ part.rows, row.length = width := by
    refine forall_mem_of_forall₂ fits.flip ?_
    intro frame _ part fit
    exact ⟨frame.width, frame.width_pos, fit.length_eq⟩
  have storable := exportable.storable parts made
  rw [run_of_partsOf made]
  apply isRunOf_writeParts storable
  intro someGiven
  exact Workbook.ends_make someGiven free even storable

/-- An empty set, and a nonterminal that looks like a formula. -/
def formulaSets : FirstFollowTable := ⟨[("=A", ⟨[], [.ofKind .endOfFile]⟩)]⟩

/-- A production that sheets refuse, although they take all that is in front of it. -/
def controlTable : ParseTable := ⟨[(("=A", .ofKind .endOfFile), [.nonterminal "\u0001"])]⟩

theorem isExportable_controlTable : IsExportable formulaSets controlTable := by
  constructor
  · rintro table ⟨⟩ entry isEntry reference isIn value
    obtain rfl := List.mem_singleton.mp isEntry
    obtain rfl := List.mem_singleton.mp isIn
    exact nofun
  · rintro parts ⟨⟩
    decide

/-- The refused production ends the export after all files of comma separated values. -/
theorem run_leaves_frames_controlTable :
    IsExportable formulaSets controlTable ∧
      ∃ files, run formulaSets controlTable =
          ⟨files, some (.workbook (.illegalCharacters "<\u0001>"))⟩ ∧
        files.map Prod.fst = ["FIRST.csv", "FOLLOW.csv", "ParseTable.csv"] := by
  obtain ⟨parts, made, -, isRun⟩ := run_leaves_frames isExportable_controlTable
  have refused : Workbook.firstRefused parts = some "<\u0001>" := by
    cases made
    decide
  obtain ⟨files, written, ended⟩ := isRun.stopped _ refused
  refine ⟨isExportable_controlTable, files, ended, ?_⟩
  have names : files.map Prod.fst = parts.map Part.fileName :=
    map_eq_map_of_forall₂ written fun _ _ isWritten => isWritten.name_eq
  rw [names]
  cases made
  rfl

/-- Nothing is refused without the production. -/
example : (run formulaSets none).files.map Prod.fst =
    ["FIRST.csv", "FOLLOW.csv", "LL1_Tables.xlsx"] := by rfl

end Export

end GrammarTables
