import GrammarTables.Number.Numeral
import GrammarTables.Scalar
import GrammarTables.Text.CaseFolding

/-!
# Workbooks

A workbook as a spreadsheet program finds it: sheets with titles, the rectangle of their
used cells, and the widths of their columns.  Texts are typed by what they look like, and
numbers are stored with sixteen significant digits, so a cell may hold another value than
the one it was made from.
-/

namespace GrammarTables

/-- A reason not to write a workbook. -/
inductive WorkbookError where
  /-- A title holds a character that titles must not hold. -/
  | invalidTitle (character : Char)
  /-- A text holds a control character that sheets must not hold. -/
  | illegalCharacters (text : String)
  /-- A value of this kind has no cell. -/
  | unsupported (value : Scalar)
  /-- An integer is beyond the range of stored numbers. -/
  | integerTooLarge
  /-- A title or a text holds a character that stored texts must not hold. -/
  | notStorable
  /-- A workbook has one sheet at least. -/
  | noSheet
  deriving Repr

def WorkbookError.message : WorkbookError → String
  | invalidTitle character =>
    "Invalid character " ++ String.singleton character ++ " found in sheet title"
  | illegalCharacters text => text ++ " cannot be used in worksheets."
  | unsupported value => "Cannot convert " ++ value.quoted ++ " to Excel"
  | integerTooLarge => "int too large to convert to float"
  | notStorable =>
    "All strings must be XML compatible: Unicode or ASCII, no NULL bytes or control characters"
  | noSheet => "At least one sheet must be visible"

inductive Cell where
  /-- Nothing was stored. -/
  | missing
  /-- An empty text was stored, which holds no value. -/
  | emptyText
  | text (value : String)
  /-- A text that begins with an equals sign. -/
  | formula (value : String)
  /-- A text that is one of the error codes. -/
  | errorCode (value : String)
  | number (value : Scalar)
  | boolean (value : Bool)
  deriving Repr

namespace Cell

def value : Cell → Scalar
  | missing | emptyText => .absent
  | text value | formula value | errorCode value => .text value
  | number value => value
  | boolean value => .boolean value

/-- The letters for the type of a cell. -/
def typeCode : Cell → String
  | missing | number _ => "n"
  | emptyText => "inlineStr"
  | text _ => "s"
  | formula _ => "f"
  | errorCode _ => "e"
  | boolean _ => "b"

/-- The texts that are stored as error codes. -/
def errorCodes : List String :=
  ["#NULL!", "#DIV/0!", "#VALUE!", "#REF!", "#NAME?", "#NUM!", "#N/A"]

/-- The greatest length of a stored text. -/
def textLimit : Nat := 32767

/-- Whether sheets refuse a control character. -/
def isIllegal (character : Char) : Bool :=
  let code := character.toNat
  code < 0x20 && code != 0x09 && code != 0x0A && code != 0x0D

/-- The cell for a text. -/
def ofText (value : String) : Except WorkbookError Cell :=
  let characters := value.toList.take textLimit
  let stored := String.ofList characters
  if characters.any isIllegal then .error (.illegalCharacters stored)
  else if characters.isEmpty then .ok emptyText
  else if 1 < characters.length && characters.head? == some '=' then .ok (formula stored)
  else if errorCodes.contains stored then .ok (errorCode stored)
  else .ok (text stored)

/-- The cell for a value, with numbers as they are given. -/
def ofScalar : Scalar → Except WorkbookError Cell
  | .absent => .ok missing
  | .boolean value => .ok (boolean value)
  | .text value => ofText value
  | .list items => .error (.unsupported (.list items))
  | value => .ok (number value)

/-- The count of significant digits of a stored number. -/
def storedPlaces : Nat := 16

/-- The value of a stored number: an integer if its text has neither a point nor an
exponent, and nothing if it is not finite. -/
def storedNumber (value : Binary64) : Scalar :=
  match value with
  | .finite .. =>
    let text := value.general storedPlaces
    if text.any fun character => character == '.' || character == 'e' then
      match Numeral.readReal? text with
      | some parsed => .real parsed
      | none => .absent
    else
      match Numeral.readInt text with
      | .ok parsed => .integer parsed
      | .error _ => .absent
  | _ => .absent

/-- The text if it can be stored: it holds neither a control character that sheets refuse
nor one of the last two code points of the first plane, which are no characters. -/
def storedText (value : String) : Except WorkbookError String :=
  if value.toList.any fun character =>
      isIllegal character || character.toNat == 0xFFFE || character.toNat == 0xFFFF then
    .error .notStorable
  else .ok value

/-- The cell once it has been stored. -/
def store : Cell → Except WorkbookError Cell
  | text value => (storedText value).map text
  | formula value => (storedText value).map formula
  | number (.integer value) =>
    match Binary64.ofInt value with
    | .infinite _ => .error .integerTooLarge
    | rounded => .ok (number (storedNumber rounded))
  | number (.real value) => .ok (number (storedNumber value))
  | cell => .ok cell

/-- Whether anything was stored. -/
def isStored : Cell → Bool
  | missing => false
  | _ => true

end Cell

structure Sheet where
  title : String
  /-- The rectangle of cells from the first row and column to the last ones in use. -/
  cells : List (List Cell)
  /-- The widths of the columns, ordered by the letters of the columns. -/
  widths : List (String × Nat)
  deriving Repr

namespace Sheet

/-- The letters of a column, counted from one. -/
def columnLetters (column : Nat) : List Char :=
  if column = 0 then []
  else columnLetters ((column - 1) / 26) ++ [Char.ofNat ('A'.toNat + (column - 1) % 26)]
  termination_by column
  decreasing_by omega

/-- The width of a column, counted from one. -/
def columnWidth (column : Nat) : Nat := if column = 1 then 22 else 18

def columnWidths (count : Nat) : List (String × Nat) :=
  let widths := (List.range count).map fun index =>
    (String.ofList (columnLetters (index + 1)), columnWidth (index + 1))
  widths.mergeSort fun left right => left.1 < right.1 || left.1 == right.1

/-- The length of a list without the elements at its end that fail a test. -/
def usedLength {Item : Type} (isUsed : Item → Bool) (items : List Item) : Nat :=
  (items.reverse.dropWhile fun item => !isUsed item).length

/-- The rectangle that the stored cells of rows span, with the gaps filled. -/
def rectangle (rows : List (List Cell)) : List (List Cell) :=
  let height := usedLength (fun row => row.any Cell.isStored) rows
  let width := (rows.map (usedLength Cell.isStored)).foldl max 0
  (rows.take height).map fun row =>
    row.take width ++ List.replicate (width - row.length) Cell.missing

/-- The characters that titles must not hold. -/
def forbiddenInTitles : List Char := ['\\', '*', '?', ':', '/', '[', ']']

/-- The digits that follow a title in a text, where the title is found in any case. -/
def numbersAfter (title : List Char) : Nat → List Char → List (List Nat)
  | _, [] => []
  | skip + 1, _ :: rest => numbersAfter title skip rest
  | 0, character :: rest =>
    if Text.beginsAlike title (character :: rest) then
      let tail := (character :: rest).drop title.length
      let digits := (tail.map Text.digitValue?).takeWhile Option.isSome
      let comma := if tail[digits.length]? == some ',' then 1 else 0
      digits.filterMap id ::
        numbersAfter title (title.length + digits.length + comma - 1) rest
    else numbersAfter title 0 rest

/-- The title under which a sheet joins those with the given titles.  A title that is in
use, in any case, gets the next number appended, unless letter by letter it is nowhere
among the titles. -/
def freeTitle (titles : List String) (title : String) : String :=
  if titles.any fun taken => Text.lowerCase taken == Text.lowerCase title then
    let numbers := numbersAfter title.toList 0 (",".intercalate titles).toList
    if numbers.isEmpty then title
    else
      let highest := ((numbers.filter (!·.isEmpty)).map Numeral.value).foldl max 0
      title ++ toString (highest + 1)
  else title

/-- The title of a sheet that has none. -/
def defaultTitle : String := "Sheet"

/-- The sheet for a title and rows, next to sheets with the given titles. -/
def make (titles : List String) (title : String) (rows : List (List Scalar)) :
    Except WorkbookError Sheet := do
  let title := if title.isEmpty then defaultTitle else title
  match title.toList.find? forbiddenInTitles.contains with
  | some character => throw (.invalidTitle character)
  | none =>
    let cells ← rows.mapM fun row => row.mapM Cell.ofScalar
    let columns := (rows.map List.length).foldl max 1
    return ⟨freeTitle titles title, cells, columnWidths columns⟩

/-- The sheet once it has been stored. -/
def store (sheet : Sheet) : Except WorkbookError Sheet := do
  let cells ← sheet.cells.mapM fun row => row.mapM Cell.store
  return { sheet with cells := rectangle cells }

end Sheet

/-- The sheets of a workbook. -/
abbrev Workbook : Type := List Sheet

namespace Workbook

/-- Adds sheets one after the other. -/
def addSheets (sheets : Workbook) : List (String × List (List Scalar)) →
    Except WorkbookError Workbook
  | [] => .ok sheets
  | (title, rows) :: rest => do
    let sheet ← Sheet.make (sheets.map Sheet.title) title rows
    addSheets (sheets ++ [sheet]) rest

/-- The workbook of titled rows, as it is found once it has been stored.  All sheets are
made before the first of them is stored, and their titles are stored last. -/
def make (contents : List (String × List (List Scalar))) : Except WorkbookError Workbook := do
  let sheets ← addSheets [] contents
  if sheets.isEmpty then throw .noSheet
  let stored ← sheets.mapM Sheet.store
  stored.forM fun sheet => (Cell.storedText sheet.title).map fun _ => ()
  return stored

end Workbook

end GrammarTables
