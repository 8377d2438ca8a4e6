import GrammarTables.Export.Files
import GrammarTables.Proofs.Export.Csv
import GrammarTables.Proofs.Traversal
import GrammarTables.Text.CodeRange
import Mathlib.Data.List.TakeWhile

/-!
# Workbooks of exported tables

A sheet takes every field that is not too long and holds no control character, and it
gives it back as the value of one cell.  The first field that a sheet refuses ends the
making of the workbook.  The used cells of a sheet are all of them, since an empty field
has a cell too.
-/

namespace GrammarTables

/-! ## Cells -/

namespace Cell

/-- The code points of the control characters that sheets refuse. -/
def refusedRanges : Text.CodeRanges := [(0x00, 0x08), (0x0B, 0x0C), (0x0E, 0x1F)]

/-- Whether sheets refuse a field. -/
def isRefused (field : String) : Bool :=
  field.toList.any fun character => Text.isInRanges refusedRanges character.toNat

/-- The field is not too long for a cell, and no character of it is one that cannot be
stored at all. -/
structure IsStorable (field : String) : Prop where
  length_le : field.length ≤ 32767
  isCharacter : ∀ character ∈ field.toList,
    character.toNat ≠ 0xFFFE ∧ character.toNat ≠ 0xFFFF

theorem isStorable_iff (field : String) :
    IsStorable field ↔ field.length ≤ 32767 ∧ (field.toList.all fun character =>
      character.toNat != 0xFFFE && character.toNat != 0xFFFF) = true := by
  rw [List.all_eq_true]
  simp only [Bool.and_eq_true, bne_iff_ne]
  constructor
  · intro storable
    exact ⟨storable.length_le, storable.isCharacter⟩
  · intro both
    exact ⟨both.1, both.2⟩

instance (field : String) : Decidable (IsStorable field) :=
  decidable_of_iff' _ (isStorable_iff field)

/-- The value that is found where a field was stored. -/
def valueOfField (field : String) : Scalar := if field = "" then .absent else .text field

/-- The cell is in use, storing it does not change it, and its value is that of the field. -/
structure Holds (field : String) (cell : Cell) : Prop where
  isStored : cell.isStored = true
  store_eq : cell.store = .ok cell
  value_eq : cell.value = valueOfField field

theorem isIllegal_eq_isInRanges (character : Char) :
    isIllegal character = Text.isInRanges refusedRanges character.toNat := by
  rw [Bool.eq_iff_iff, Text.isInRanges_eq_true_iff]
  simp only [isIllegal, refusedRanges, Bool.and_eq_true, decide_eq_true_eq, bne_iff_ne]
  simp
  omega

theorem any_isIllegal (field : String) : field.toList.any isIllegal = isRefused field := by
  simp only [isRefused, ← isIllegal_eq_isInRanges]

theorem storedText_eq_ok {field : String} (storable : IsStorable field)
    (accepted : isRefused field = false) : storedText field = .ok field := by
  have nothingRefused : field.toList.any (fun character =>
      isIllegal character || character.toNat == 0xFFFE || character.toNat == 0xFFFF) = false := by
    rw [← any_isIllegal, List.any_eq_false] at accepted
    rw [List.any_eq_false]
    intro character isIn
    have legal := accepted character isIn
    obtain ⟨notFirst, notSecond⟩ := storable.isCharacter character isIn
    simp [legal, notFirst, notSecond]
  rw [storedText, nothingRefused]
  rfl

/-- The cell of a storable field, unless the field is refused. -/
theorem ends_ofText {field : String} (storable : IsStorable field) :
    EndsAt .illegalCharacters (Option.guard isRefused field) (ofText field) (Holds field) := by
  have whole : field.toList.take textLimit = field.toList := by
    apply List.take_of_length_le
    rw [String.length_toList]
    exact storable.length_le
  unfold ofText
  simp only [whole, String.ofList_toList, any_isIllegal, Option.guard]
  cases refused : isRefused field with
  | true => rfl
  | false =>
      have stored := storedText_eq_ok storable refused
      simp only [Bool.false_eq_true, if_false]
      by_cases isEmpty : field = ""
      · subst isEmpty
        exact ⟨emptyText, rfl, rfl, rfl, rfl⟩
      · have valueEq : valueOfField field = .text field := if_neg isEmpty
        have filled : field.toList.isEmpty = false := by simpa using isEmpty
        rw [filled]
        simp only [Bool.false_eq_true, if_false]
        split
        · exact ⟨formula field, rfl, rfl, by rw [store, stored]; rfl, valueEq.symm⟩
        · split
          · exact ⟨errorCode field, rfl, rfl, rfl, valueEq.symm⟩
          · exact ⟨text field, rfl, rfl, by rw [store, stored]; rfl, valueEq.symm⟩

end Cell

/-! ## Sheets -/

namespace Sheet

theorem usedLength_eq_length {Item : Type} {isUsed : Item → Bool} {items : List Item}
    (used : ∀ item ∈ items, isUsed item = true) : usedLength isUsed items = items.length := by
  have kept : (items.reverse.dropWhile fun item => !isUsed item) = items.reverse := by
    rw [List.dropWhile_eq_self_iff]
    intro positive
    have lastUsed := used _ (List.mem_reverse.mp (List.getElem_mem positive))
    rw [lastUsed]
    decide
  rw [usedLength, kept, List.length_reverse]

theorem rectangle_eq_self {rows : List (List Cell)} {width : Nat} (positive : 0 < width)
    (even : ∀ row ∈ rows, row.length = width)
    (used : ∀ row ∈ rows, ∀ cell ∈ row, cell.isStored = true) : rectangle rows = rows := by
  have height : usedLength (fun row => row.any Cell.isStored) rows = rows.length := by
    apply usedLength_eq_length
    intro row isIn
    have hasCell : row ≠ [] := List.ne_nil_of_length_pos (even row isIn ▸ positive)
    obtain ⟨cell, isCell⟩ := List.exists_mem_of_ne_nil row hasCell
    exact List.any_eq_true.mpr ⟨cell, isCell, used row isIn cell isCell⟩
  have widths : rows.map (usedLength Cell.isStored) = List.replicate rows.length width := by
    rw [List.eq_replicate_iff]
    refine ⟨List.length_map _, ?_⟩
    intro count isIn
    obtain ⟨row, isRow, rfl⟩ := List.mem_map.mp isIn
    rw [usedLength_eq_length (used row isRow), even row isRow]
  cases rows with
  | nil => rfl
  | cons first rest =>
      have widest : (List.replicate (first :: rest).length width).foldl max 0 = width := by
        rw [List.foldl_max, List.max?_replicate_of_pos (by simp)]
        simp
      rw [rectangle, height, widths, widest, List.take_length]
      conv_rhs => rw [← List.map_id (first :: rest)]
      apply List.map_congr_left
      intro row isIn
      rw [List.take_of_length_le (even row isIn).le, even row isIn]
      simp

/-- Cells that are all in use, one for each field of rows of one length, are their own
rectangle. -/
theorem rectangle_of_forall₂ {rows : List TextRow} {cells : List (List Cell)}
    {related : String → Cell → Prop} (all : List.Forall₂ (List.Forall₂ related) rows cells)
    (used : ∀ field cell, related field cell → cell.isStored = true) {width : Nat}
    (positive : 0 < width) (even : ∀ row ∈ rows, row.length = width) :
    rectangle cells = cells := by
  apply rectangle_eq_self positive
  · refine forall_mem_of_forall₂ all ?_
    intro fields isRow row isRelated
    rw [← isRelated.length_eq, even fields isRow]
  · refine forall_mem_of_forall₂ all ?_
    intro fields _ row isRelated
    exact forall_mem_of_forall₂ isRelated fun field _ cell => used field cell

/-- The next sheet after those with the taken titles can have the title, which is stored as
it is. -/
structure IsFree (taken : List String) (title : String) : Prop where
  filled : title.isEmpty = false
  allowed : title.toList.find? forbiddenInTitles.contains = none
  free : freeTitle taken title = title
  storable : Cell.storedText title = .ok title

theorem make_eq {taken : List String} {title : String} (free : IsFree taken title)
    (rows : List (List Scalar)) :
    make taken title rows =
      (rows.mapM fun row : List Scalar => row.mapM Cell.ofScalar).bind fun cells =>
        .ok ⟨title, cells, columnWidths ((rows.map List.length).foldl max 1)⟩ := by
  simp only [make, free.filled, Bool.false_eq_true, if_false, free.allowed, free.free]
  rfl

theorem ends_ofFields {rows : List TextRow}
    (storable : ∀ row ∈ rows, ∀ field ∈ row, Cell.IsStorable field) :
    EndsAt .illegalCharacters (rows.flatten.find? Cell.isRefused)
      ((rows.map (List.map Scalar.text)).mapM fun row => row.mapM Cell.ofScalar)
      (List.Forall₂ (List.Forall₂ Cell.Holds) rows) := by
  rw [List.find?_flatten, List.mapM_map]
  apply EndsAt.mapM
  intro row isRow
  rw [Function.comp_apply, List.mapM_map, ← List.findSome?_guard]
  apply EndsAt.mapM
  intro field isField
  exact Cell.ends_ofText (storable row isRow field isField)

end Sheet

/-! ## The sheets of parts -/

namespace Export.Part

/-- The sheet has the title of the part, and its cells hold the fields of the rows. -/
structure IsHeldBy (part : Part) (sheet : Sheet) : Prop where
  title_eq : sheet.title = part.title
  cells : List.Forall₂ (List.Forall₂ Cell.Holds) part.rows sheet.cells

variable {part : Part} {sheet : Sheet}

theorem ends_makeSheet {taken : List String} (free : Sheet.IsFree taken part.title)
    (storable : ∀ row ∈ part.rows, ∀ field ∈ row, Cell.IsStorable field) :
    EndsAt .illegalCharacters (part.rows.flatten.find? Cell.isRefused)
      (Sheet.make taken part.sheet.1 part.sheet.2) part.IsHeldBy := by
  rw [sheet, Sheet.make_eq free]
  apply EndsAt.andThen (Sheet.ends_ofFields storable)
  intro cells hold
  exact ⟨_, rfl, rfl, hold⟩

theorem IsHeldBy.lengths_eq (held : part.IsHeldBy sheet) :
    sheet.cells.map List.length = part.rows.map List.length :=
  map_eq_map_of_forall₂ held.cells fun _ _ holds => holds.length_eq.symm

theorem IsHeldBy.values_eq (held : part.IsHeldBy sheet) :
    sheet.cells.map (List.map Cell.value) = part.rows.map (List.map Cell.valueOfField) :=
  map_eq_map_of_forall₂ held.cells fun _ _ holds =>
    map_eq_map_of_forall₂ holds fun _ _ cellHolds => cellHolds.value_eq

/-- Storing a sheet whose rows have one length does not change it. -/
theorem IsHeldBy.store_eq (held : part.IsHeldBy sheet) {width : Nat} (positive : 0 < width)
    (even : ∀ row ∈ part.rows, row.length = width) : sheet.store = .ok sheet := by
  have rectangular : Sheet.rectangle sheet.cells = sheet.cells :=
    Sheet.rectangle_of_forall₂ held.cells (fun _ _ holds => holds.isStored) positive even
  have unchanged : sheet.cells.mapM (fun row => row.mapM Cell.store) = .ok sheet.cells := by
    rw [mapM_eq_ok_iff, List.forall₂_same]
    refine forall_mem_of_forall₂ held.cells ?_
    intro fields _ cells holds
    rw [mapM_eq_ok_iff, List.forall₂_same]
    exact forall_mem_of_forall₂ holds fun _ _ _ cellHolds => cellHolds.store_eq
  rw [Sheet.store, unchanged]
  change Except.ok { sheet with cells := Sheet.rectangle sheet.cells } = _
  rw [rectangular]

end Export.Part

namespace Workbook

open Export

/-- Each title is free after those in front of it. -/
def AreFree : List String → List String → Prop
  | _, [] => True
  | taken, title :: rest => Sheet.IsFree taken title ∧ AreFree (taken ++ [title]) rest

theorem AreFree.storable {taken titles : List String} (free : AreFree taken titles) :
    ∀ title ∈ titles, Cell.storedText title = .ok title := by
  induction titles generalizing taken with
  | nil => exact nofun
  | cons title rest ih => exact List.forall_mem_cons.mpr ⟨free.1.storable, ih free.2⟩

/-- The first field of parts that sheets refuse, sheet by sheet and row by row. -/
def firstRefused (parts : List Part) : Option String :=
  (parts.flatMap fun part => part.rows.flatten).find? Cell.isRefused

theorem ends_addSheets {parts : List Part} (sheets : Workbook)
    (free : AreFree (sheets.map Sheet.title) (parts.map Part.title))
    (storable : ∀ part ∈ parts, ∀ row ∈ part.rows, ∀ field ∈ row, Cell.IsStorable field) :
    EndsAt .illegalCharacters (firstRefused parts) (addSheets sheets (parts.map Part.sheet))
      fun workbook => ∃ added, workbook = sheets ++ added ∧
        List.Forall₂ Part.IsHeldBy parts added := by
  -- Titles are free after those of the sheets made so far, so these vary in the induction.
  induction parts generalizing sheets with
  | nil => exact ⟨sheets, rfl, [], (List.append_nil sheets).symm, .nil⟩
  | cons part rest ih =>
      obtain ⟨partStorable, restStorable⟩ := List.forall_mem_cons.mp storable
      rw [firstRefused, List.flatMap_cons, List.find?_append]
      apply EndsAt.bind (Part.ends_makeSheet free.1 partStorable)
      intro sheet held
      have restFree : AreFree ((sheets ++ [sheet]).map Sheet.title) (rest.map Part.title) := by
        rw [List.map_append, List.map_singleton, held.title_eq]
        exact free.2
      apply EndsAt.imp (ih _ restFree restStorable)
      rintro workbook ⟨added, rfl, addedHeld⟩
      exact ⟨sheet :: added, List.append_assoc .., .cons held addedHeld⟩

theorem forM_storedText {workbook : Workbook}
    (storable : ∀ sheet ∈ workbook, Cell.storedText sheet.title = .ok sheet.title) :
    (workbook.forM fun sheet => (Cell.storedText sheet.title).map fun _ => ()) = .ok () := by
  induction workbook with
  | nil => rfl
  | cons sheet rest ih =>
      obtain ⟨here, others⟩ := List.forall_mem_cons.mp storable
      change ((Cell.storedText sheet.title).map fun _ => ()).bind (fun _ => rest.forM _) = _
      rw [here]
      exact ih others

/-- A workbook of parts holds all of their fields, unless one of them is refused. -/
theorem ends_make {parts : List Part} (someGiven : parts ≠ [])
    (free : AreFree [] (parts.map Part.title))
    (even : ∀ part ∈ parts, ∃ width, 0 < width ∧ ∀ row ∈ part.rows, row.length = width)
    (storable : ∀ part ∈ parts, ∀ row ∈ part.rows, ∀ field ∈ row, Cell.IsStorable field) :
    EndsAt .illegalCharacters (firstRefused parts) (make (parts.map Part.sheet))
      (List.Forall₂ Part.IsHeldBy parts) := by
  unfold make
  apply EndsAt.andThen (ends_addSheets [] free storable)
  rintro workbook ⟨_, rfl, held⟩
  -- Once all sheets are made nothing can fail: storing changes neither cells nor titles.
  have someSheet : workbook.isEmpty = false := by
    rw [List.isEmpty_eq_false_iff, ← List.length_pos_iff, ← held.length_eq]
    exact List.length_pos_iff.mpr someGiven
  have unchanged : workbook.mapM Sheet.store = .ok workbook := by
    rw [mapM_eq_ok_iff, List.forall₂_same]
    refine forall_mem_of_forall₂ held ?_
    intro part isPart sheet isHeld
    obtain ⟨width, positive, evenRows⟩ := even part isPart
    exact isHeld.store_eq positive evenRows
  have titled : ∀ sheet ∈ workbook, Cell.storedText sheet.title = .ok sheet.title := by
    refine forall_mem_of_forall₂ held ?_
    intro part isPart sheet isHeld
    rw [isHeld.title_eq]
    exact free.storable _ (List.mem_map_of_mem isPart)
  refine ⟨workbook, ?_, held⟩
  rw [someSheet, unchanged]
  change (workbook.forM fun sheet => (Cell.storedText sheet.title).map fun _ => ()).bind
    (fun _ => Except.ok workbook) = _
  rw [forM_storedText titled]
  rfl

end Workbook

end GrammarTables
