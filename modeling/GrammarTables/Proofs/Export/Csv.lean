import GrammarTables.Export.Csv
import GrammarTables.Proofs.Text.EncodeError

/-!
# Comma separated values are read back

A reader of comma separated values goes over a text from left to right.  A comma or a
break outside of quotes ends a field, a quote can only begin a field or stand inside of
one, and a blank line is a row without fields.  A break is a carriage return, a line feed
or both, and what follows the closing quote of a field still belongs to the field.  The
only texts that the reader refuses are those with a field that is too long for it.

Rows with halves of pairs cannot be written: their file ends in front of the first of them.
-/

namespace GrammarTables.Csv

open Text (CodePoint)

/-! ## The reader -/

/-- Where a reader is in a row. -/
inductive Position where
  /-- In front of a row. -/
  | row
  /-- In front of a row, after a carriage return that may be the first half of a break. -/
  | afterReturn
  /-- In front of a field, after a comma. -/
  | field
  /-- After a part of a field, outside of quotes. -/
  | plain (part : Field)
  /-- After a part of a field, between quotes. -/
  | quoted (part : Field)
  /-- After a part of a field and a quote, which may be the first of two. -/
  | quote (part : Field)

/-- What has been read of a text: whole rows, the whole fields of the row after them, and
the position in that row. -/
structure Reader where
  rows : List (List Field)
  fields : List Field
  position : Position

namespace Reader

def start : Reader := ⟨[], [], .row⟩

def isBreak (point : CodePoint) : Bool := point == '\r' || point == '\n'

/-- The reader after a field that ended with a comma. -/
def endField (reader : Reader) (field : Field) : Reader :=
  { reader with fields := reader.fields ++ [field], position := .field }

/-- The reader after a row that ended with a break. -/
def endRow (reader : Reader) (point : CodePoint) : Reader :=
  ⟨reader.rows ++ [reader.fields], [], if point = '\r' then .afterReturn else .row⟩

/-- A character outside of quotes after a part of a field. -/
def stepInField (reader : Reader) (part : Field) (point : CodePoint) : Reader :=
  if isBreak point then (reader.endField part).endRow point
  else if point = ',' then reader.endField part
  else { reader with position := .plain (part ++ [point]) }

def stepToField (reader : Reader) (point : CodePoint) : Reader :=
  if point = '"' then { reader with position := .quoted [] }
  else reader.stepInField [] point

/-- A character in front of a row.  A break makes it a row without fields. -/
def stepToRow (reader : Reader) (point : CodePoint) : Reader :=
  if isBreak point then reader.endRow point else reader.stepToField point

def step (reader : Reader) (point : CodePoint) : Reader :=
  match reader.position with
  | .row => reader.stepToRow point
  | .afterReturn =>
    if point = '\n' then { reader with position := .row }
    else reader.stepToRow point
  | .field => reader.stepToField point
  | .plain part => reader.stepInField part point
  | .quoted part =>
    if point = '"' then { reader with position := .quote part }
    else { reader with position := .quoted (part ++ [point]) }
  | .quote part =>
    if point = '"' then { reader with position := .quoted (part ++ [.char '"']) }
    else reader.stepInField part point

/-- The rows once the text has ended, which also ends the last row. -/
def finish (reader : Reader) : List (List Field) :=
  match reader.position with
  | .row | .afterReturn => reader.rows
  | .field => reader.rows ++ [reader.fields ++ [[]]]
  | .plain part | .quoted part | .quote part => reader.rows ++ [reader.fields ++ [part]]

end Reader

def readRows (points : List CodePoint) : List (List Field) :=
  (points.foldl Reader.step .start).finish

/-- The greatest length of a field that is read. -/
def fieldLimit : Nat := 131072

/-- The rows of a text, unless one of its fields is too long. -/
def read? (text : String) : Option (List (List String)) :=
  let rows := readRows (CodePoint.ofText text)
  if rows.all fun row => row.all fun field => field.length ≤ fieldLimit then
    some (rows.map fun row => row.map CodePoint.toText)
  else none

namespace Reader

variable (rows : List (List Field)) (fields : List Field)

/-! ## Fields -/

/-- Between quotes a quote is written twice, and everything else stands for itself. -/
theorem foldl_step_quoted (part field : Field) :
    (field.flatMap renderQuoted).foldl step ⟨rows, fields, .quoted part⟩ =
      ⟨rows, fields, .quoted (part ++ field)⟩ := by
  induction field generalizing part with
  | nil => simp
  | cons point rest ih =>
      rw [List.flatMap_cons, List.foldl_append]
      have taken : (renderQuoted point).foldl step ⟨rows, fields, .quoted part⟩ =
          ⟨rows, fields, .quoted (part ++ [point])⟩ := by
        by_cases isQuote : point = '"'
        · subst isQuote
          rfl
        · simp [renderQuoted, step, isQuote]
      rw [taken, ih, List.append_assoc, List.singleton_append]

theorem foldl_step_quoteField (field : Field) :
    (quoteField field).foldl step ⟨rows, fields, .field⟩ =
      ⟨rows, fields, .quote field⟩ := by
  have opened : step ⟨rows, fields, .field⟩ '"' = ⟨rows, fields, .quoted []⟩ := rfl
  rw [quoteField, List.cons_append, List.foldl_cons, opened, List.foldl_append,
    foldl_step_quoted]
  rfl

theorem foldl_step_plain {points : List CodePoint}
    (plain : ∀ point ∈ points, needsQuotes point = false) (part : Field) :
    points.foldl step ⟨rows, fields, .plain part⟩ =
      ⟨rows, fields, .plain (part ++ points)⟩ := by
  induction points generalizing part with
  | nil => simp
  | cons point rest ih =>
      obtain ⟨here, others⟩ := List.forall_mem_cons.mp plain
      simp only [needsQuotes, Bool.or_eq_false_iff, beq_eq_false_iff_ne] at here
      have taken : step ⟨rows, fields, .plain part⟩ point =
          ⟨rows, fields, .plain (part ++ [point])⟩ := by
        simp [step, stepInField, isBreak, here]
      rw [List.foldl_cons, taken, ih others, List.append_assoc, List.singleton_append]

/-- Where a written field has been read, the next character ends it or goes on with it, as
long as it is no quote. -/
theorem step_foldl_renderField (field : Field) {point : CodePoint}
    (noQuote : point ≠ '"') :
    step ((renderField field).foldl step ⟨rows, fields, .field⟩) point =
      stepInField ⟨rows, fields, .field⟩ field point := by
  rw [renderField]
  split
  · rw [foldl_step_quoteField]
    simp [step, noQuote, stepInField, endField]
  · next noneQuoted =>
      cases field with
      | nil => simp [step, stepToField, noQuote]
      | cons first rest =>
          simp only [List.any_eq_true, not_exists, not_and, Bool.not_eq_true] at noneQuoted
          obtain ⟨firstPlain, restPlain⟩ := List.forall_mem_cons.mp noneQuoted
          simp only [needsQuotes, Bool.or_eq_false_iff, beq_eq_false_iff_ne] at firstPlain
          have begun : step ⟨rows, fields, .field⟩ first = ⟨rows, fields, .plain [first]⟩ := by
            simp [step, stepToField, stepInField, isBreak, firstPlain]
          rw [List.foldl_cons, begun, foldl_step_plain rows fields restPlain]
          simp [step, stepInField, endField]

/-! ## Rows -/

/-- Fields with commas between them and a break behind them are read to the end of their
row. -/
theorem foldl_step_intercalate {row : List Field} (filled : row ≠ []) :
    ([CodePoint.char ','].intercalate (row.map renderField) ++ rowEnd).foldl step
        ⟨rows, fields, .field⟩ =
      ⟨rows ++ [fields ++ row], [], .row⟩ := by
  induction row generalizing fields with
  | nil => exact absurd rfl filled
  | cons field rest ih =>
      cases rest with
      | nil =>
          have ended := step_foldl_renderField rows fields field
            (show CodePoint.char '\r' ≠ '"' by decide)
          rw [List.map_singleton, List.intercalate_singleton, List.foldl_append, rowEnd,
            List.foldl_cons, ended]
          rfl
      | cons next others =>
          have ended := step_foldl_renderField rows fields field
            (show CodePoint.char ',' ≠ '"' by decide)
          have rest := ih (fields ++ [field]) (List.cons_ne_nil next others)
          rw [List.append_assoc] at rest
          rw [List.map_cons, List.map_cons, List.intercalate_cons_cons, List.append_assoc,
            List.append_assoc, List.foldl_append, List.singleton_append, List.foldl_cons, ended]
          exact rest

/-- All rows with fields are written with commas between the fields, except for the row of
one empty field. -/
theorem renderFields_eq_intercalate {row : List Field} (filled : row ≠ [])
    (notBlank : row ≠ [[]]) :
    renderFields row = [.char ','].intercalate (row.map renderField) := by
  match row with
  | [] => exact absurd rfl filled
  | [[]] => exact absurd rfl notBlank
  | [first :: others] => exact List.intercalate_singleton.symm
  | first :: second :: others => rfl

theorem foldl_step_renderFields {row : List Field} (filled : row ≠ []) :
    (renderFields row ++ rowEnd).foldl step ⟨rows, fields, .field⟩ =
      ⟨rows ++ [fields ++ row], [], .row⟩ := by
  by_cases isBlank : row = [[]]
  · subst isBlank
    rfl
  · rw [renderFields_eq_intercalate filled isBlank]
    exact foldl_step_intercalate rows fields filled

/-- A field begins with a quote or with a character that needs no quotes. -/
theorem exists_renderField_eq_cons {field : List CodePoint} (filled : field ≠ []) :
    ∃ first others, renderField field = first :: others ∧ isBreak first = false := by
  rw [renderField]
  split
  · exact ⟨.char '"', _, rfl, rfl⟩
  · next noneQuoted =>
      cases field with
      | nil => exact absurd rfl filled
      | cons first others =>
          refine ⟨first, others, rfl, ?_⟩
          simp only [List.any_cons, Bool.or_eq_true, not_or, Bool.not_eq_true, needsQuotes]
            at noneQuoted
          simp only [isBreak, noneQuoted, Bool.or_false]

/-- A row with fields does not begin like a blank line. -/
theorem exists_renderFields_eq_cons {row : List Field} (filled : row ≠ []) :
    ∃ first others, renderFields row = first :: others ∧ isBreak first = false := by
  match row with
  | [] => exact absurd rfl filled
  | [[]] => exact ⟨.char '"', _, rfl, rfl⟩
  | [] :: second :: others => exact ⟨.char ',', _, rfl, rfl⟩
  | [point :: points] =>
      rw [renderFields_eq_intercalate filled (by simp), List.map_singleton,
        List.intercalate_singleton]
      exact exists_renderField_eq_cons (List.cons_ne_nil point points)
  | (point :: points) :: second :: others =>
      obtain ⟨first, rest, written, noBreak⟩ :=
        exists_renderField_eq_cons (List.cons_ne_nil point points)
      rw [renderFields_eq_intercalate filled (by simp), List.map_cons, List.map_cons,
        List.intercalate_cons_cons, written]
      exact ⟨first, _, rfl, noBreak⟩

/-- A written row is read as one row, whatever its fields hold. -/
theorem foldl_step_renderRow (row : List Field) :
    (renderRow row).foldl step ⟨rows, [], .row⟩ = ⟨rows ++ [row], [], .row⟩ := by
  by_cases filled : row = []
  · subst filled
    rfl
  · obtain ⟨first, others, written, noBreak⟩ := exists_renderFields_eq_cons filled
    have toField : step ⟨rows, [], .row⟩ first = step ⟨rows, [], .field⟩ first := by
      simp [step, stepToRow, stepToField, stepInField, endField, noBreak]
    have fieldsRead := foldl_step_renderFields rows [] filled
    rw [written, List.cons_append, List.foldl_cons] at fieldsRead
    rw [renderRow, written, List.cons_append, List.foldl_cons, toField, fieldsRead,
      List.nil_append]

theorem foldl_step_flatMap_renderRow (written : List (List Field)) :
    (written.flatMap renderRow).foldl step ⟨rows, [], .row⟩ =
      ⟨rows ++ written, [], .row⟩ := by
  induction written generalizing rows with
  | nil => simp
  | cons row rest ih =>
      rw [List.flatMap_cons, List.foldl_append, foldl_step_renderRow, ih, List.append_assoc,
        List.singleton_append]

end Reader

/-- Written rows are read back, whatever their fields hold. -/
theorem readRows_flatMap_renderRow (rows : List (List Field)) :
    readRows (rows.flatMap renderRow) = rows := by
  rw [readRows, Reader.start, Reader.foldl_step_flatMap_renderRow]
  rfl

/-! ## Halves in rows -/

theorem mem_intercalate_iff {Item : Type} {separator : List Item} {item : Item}
    (notSeparator : item ∉ separator) (parts : List (List Item)) :
    item ∈ separator.intercalate parts ↔ ∃ part ∈ parts, item ∈ part := by
  induction parts with
  | nil => simp
  | cons part rest ih =>
      cases rest with
      | nil => simp
      | cons next others =>
          rw [List.intercalate_cons_cons, List.mem_append, List.mem_append, ih,
            or_iff_left notSeparator]
          simp only [List.mem_cons, exists_eq_or_imp]

section Half

variable {half : CodePoint} (noChar : half.char? = none)
include noChar

theorem half_ne_char (character : Char) : half ≠ character := by
  rintro rfl
  cases noChar

theorem mem_renderQuoted_iff (point : CodePoint) : half ∈ renderQuoted point ↔ half = point := by
  rw [renderQuoted]
  split
  · next isQuote =>
      rw [beq_iff_eq] at isQuote
      simp [isQuote, half_ne_char noChar]
  · exact List.mem_singleton

theorem mem_renderField_iff (field : Field) : half ∈ renderField field ↔ half ∈ field := by
  rw [renderField]
  split
  · simp [quoteField, half_ne_char noChar, mem_renderQuoted_iff noChar]
  · rfl

/-- The halves in a written row are those of its fields. -/
theorem mem_renderRow_iff (row : List Field) :
    half ∈ renderRow row ↔ ∃ field ∈ row, half ∈ field := by
  have notEnd : half ∉ rowEnd := by
    simp [rowEnd, half_ne_char noChar]
  have notComma : half ∉ [CodePoint.char ','] := by
    simp [half_ne_char noChar]
  rw [renderRow, List.mem_append, or_iff_left notEnd]
  by_cases filled : row = []
  · subst filled
    simp [renderFields]
  · by_cases notBlank : row = [[]]
    · subst notBlank
      simp [renderFields, quoteField, half_ne_char noChar]
    · rw [Reader.renderFields_eq_intercalate filled notBlank, mem_intercalate_iff notComma]
      simp [mem_renderField_iff noChar]

end Half

/-- A field of the row has half of a pair. -/
def HasHalf (row : List Field) : Prop :=
  ∃ field ∈ row, ∃ point ∈ field, point.char? = none

theorem map_ofText_of_not_hasHalf {row : List Field} (whole : ¬ HasHalf row) :
    (row.map CodePoint.toText).map CodePoint.ofText = row := by
  have same : ∀ field ∈ row, (CodePoint.ofText ∘ CodePoint.toText) field = id field := by
    intro field isField
    apply CodePoint.ofText_toText
    intro point isIn noChar
    exact whole ⟨field, isField, point, isIn, noChar⟩
  rw [List.map_map, List.map_congr_left same, List.map_id]

/-- Rows consist of texts, unless there is a first one with a half. -/
theorem eq_ofTexts_or (rows : List (List Field)) :
    (∃ texts, rows = ofTexts texts) ∨
      ∃ front row behind, rows = ofTexts front ++ row :: behind ∧ HasHalf row := by
  induction rows with
  | nil => exact .inl ⟨[], rfl⟩
  | cons row rest ih =>
      by_cases hasHalf : HasHalf row
      · exact .inr ⟨[], row, rest, rfl, hasHalf⟩
      · have texts := map_ofText_of_not_hasHalf hasHalf
        rcases ih with ⟨others, rfl⟩ | ⟨front, broken, behind, rfl, isBroken⟩
        · exact .inl ⟨row.map CodePoint.toText :: others, congrArg (· :: _) texts.symm⟩
        · exact .inr ⟨row.map CodePoint.toText :: front, broken, behind,
            congrArg (· :: _) texts.symm, isBroken⟩

/-! ## Files -/

theorem areCharacters_renderRow (row : List String) :
    CodePoint.AreCharacters (renderRow (row.map CodePoint.ofText)) := by
  intro half isIn noChar
  obtain ⟨field, isField, inField⟩ := (mem_renderRow_iff noChar _).mp isIn
  obtain ⟨text, -, rfl⟩ := List.mem_map.mp isField
  exact CodePoint.areCharacters_ofText text half inField noChar

theorem write_cons (row : List String) (rest : List (List Field)) :
    write (row.map CodePoint.ofText :: rest) =
      ⟨CodePoint.toText (renderRow (row.map CodePoint.ofText)) ++ (write rest).text,
        (write rest).error⟩ := by
  rw [write, Text.encode_of_areCharacters (areCharacters_renderRow row)]

theorem write_ofTexts (rows : List (List String)) :
    write (ofTexts rows) = ⟨CodePoint.toText ((ofTexts rows).flatMap renderRow), none⟩ := by
  induction rows with
  | nil => rfl
  | cons row rest ih =>
      rw [ofTexts, List.map_cons, write_cons, ← ofTexts, ih, List.flatMap_cons,
        CodePoint.toText_append]

/-- A row with a half ends the file, which has the rows of texts in front of it. -/
theorem exists_write_eq_error (front : List (List String)) {row : List Field}
    (hasHalf : HasHalf row) (behind : List (List Field)) :
    ∃ error, write (ofTexts front ++ row :: behind) =
        ⟨(write (ofTexts front)).text, some error⟩ ∧
      error.IsFirstRun (renderRow row) := by
  induction front with
  | nil =>
      obtain ⟨field, isField, half, inField, noChar⟩ := hasHalf
      have inRow := (mem_renderRow_iff noChar row).mpr ⟨field, isField, inField⟩
      obtain ⟨error, refused, isFirst⟩ := Text.exists_encode_eq_error ⟨half, inRow, noChar⟩
      refine ⟨error, ?_, isFirst⟩
      change write (row :: behind) = _
      rw [write, refused]
      rfl
  | cons first rest ih =>
      obtain ⟨error, written, isFirst⟩ := ih
      refine ⟨error, ?_, isFirst⟩
      rw [ofTexts, List.map_cons, List.cons_append, write_cons, write_cons, ← ofTexts, written]

/-- All that is in the file of rows of texts is read, whatever the lengths of the fields. -/
theorem readRows_text_write (rows : List (List String)) :
    readRows (CodePoint.ofText (write (ofTexts rows)).text) = ofTexts rows := by
  have characters : CodePoint.AreCharacters ((ofTexts rows).flatMap renderRow) := by
    intro point isIn
    obtain ⟨fields, isRow, inRow⟩ := List.mem_flatMap.mp isIn
    obtain ⟨row, -, rfl⟩ := List.mem_map.mp isRow
    exact areCharacters_renderRow row point inRow
  rw [write_ofTexts, CodePoint.ofText_toText characters, readRows_flatMap_renderRow]

/-- The reader gives rows of texts back, unless a field is too long. -/
theorem read?_text_write (rows : List (List String)) :
    read? (write (ofTexts rows)).text =
      if rows.all fun row => row.all fun field => field.length ≤ fieldLimit then some rows
      else none := by
  have lengths : ((ofTexts rows).all fun row => row.all fun field => field.length ≤ fieldLimit) =
      rows.all fun row => row.all fun field => field.length ≤ fieldLimit := by
    simp [ofTexts, CodePoint.ofText, List.all_map, Function.comp_def, String.length_toList]
  have texts : (ofTexts rows).map (fun row => row.map CodePoint.toText) = rows := by
    simp [ofTexts, Function.comp_def]
  rw [read?, readRows_text_write, lengths, texts]

/-- The file of rows of texts: nothing is missing in it, it is read back unless a field is too
long for the reader, and no other rows have it. -/
structure IsFileOf (rows : List (List String)) (file : Written) : Prop where
  complete : file.error = none
  read_eq : (∀ row ∈ rows, ∀ field ∈ row, field.length ≤ 131072) → read? file.text = some rows
  refused : (∃ row ∈ rows, ∃ field ∈ row, 131072 < field.length) → read? file.text = none
  determines : ∀ other, write other = file → other = ofTexts rows

theorem isFileOf_write (rows : List (List String)) : IsFileOf rows (write (ofTexts rows)) where
  complete := by rw [write_ofTexts]
  read_eq short := by
    rw [read?_text_write, if_pos]
    simp only [List.all_eq_true, decide_eq_true_eq]
    exact short
  refused long := by
    obtain ⟨row, isRow, field, isField, isLong⟩ := long
    rw [read?_text_write, if_neg]
    simp only [List.all_eq_true, decide_eq_true_eq]
    intro short
    exact absurd (short row isRow field isField) (Nat.not_le.mpr isLong)
  determines other same := by
    rcases eq_ofTexts_or other with ⟨texts, rfl⟩ | ⟨front, row, behind, rfl, hasHalf⟩
    · rw [← readRows_text_write texts, same, readRows_text_write]
    · obtain ⟨error, written, -⟩ := exists_write_eq_error front hasHalf behind
      have complete : (write (ofTexts rows)).error = none := by rw [write_ofTexts]
      rw [← same, written] at complete
      cases complete

/-- The file ends in front of the first row with a half, and the error is at that half. -/
def IsCutOff (rows : List (List Field)) (file : Written) : Prop :=
  ∃ front row behind error text, rows = ofTexts front ++ row :: behind ∧ HasHalf row ∧
    IsFileOf front ⟨text, none⟩ ∧ file = ⟨text, some error⟩ ∧ error.IsFirstRun (renderRow row)

/-- Rows of texts are read back from their file, or refused for a field that is longer than the
reader takes, and their file determines them whatever the lengths; without fields a row has
another file than with one empty field, wherever it stands.  Other rows have a half, and their
file ends in front of the first row that does. -/
theorem rows_determined_by_file (rows : List (List Field)) :
    ((∃ texts, rows = ofTexts texts ∧ IsFileOf texts (write rows)) ∨
      IsCutOff rows (write rows)) ∧
    ∀ before after,
      write (ofTexts (before ++ [] :: after)) ≠ write (ofTexts (before ++ [""] :: after)) := by
  constructor
  · rcases eq_ofTexts_or rows with ⟨texts, rfl⟩ | ⟨front, row, behind, rfl, hasHalf⟩
    · exact .inl ⟨texts, rfl, isFileOf_write texts⟩
    · obtain ⟨error, written, isFirst⟩ := exists_write_eq_error front hasHalf behind
      have frontFile := isFileOf_write front
      rw [write_ofTexts] at written frontFile
      exact .inr ⟨front, row, behind, error, _, rfl, hasHalf, frontFile, written, isFirst⟩
  · intro before after same
    have rowsEqual := (isFileOf_write _).determines _ same
    simp [ofTexts] at rowsEqual

/-- A field of one half is not written, and a field that is too long is not read. -/
theorem rows_not_read_back :
    write [[[.half 0xD800 rfl]]] = ⟨"", some ⟨.utf8, 0, 0xD800, 1⟩⟩ ∧
      read? "" = some [] ∧
      write [[[.half 0xD800 rfl]]] = write [[[.half 0xD800 rfl]], []] ∧
      read? (write (ofTexts [[String.ofList (List.replicate 131073 'a')]])).text = none := by
  refine ⟨by decide, by decide, by decide, ?_⟩
  apply (isFileOf_write _).refused
  refine ⟨_, List.mem_cons_self, _, List.mem_cons_self, ?_⟩
  rw [String.length_ofList, List.length_replicate]
  decide

end GrammarTables.Csv
