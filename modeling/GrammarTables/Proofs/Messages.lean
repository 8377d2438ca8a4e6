import GrammarTables.Proofs.FirstFollow.Defects
import GrammarTables.Proofs.Literal.Reader
import GrammarTables.Proofs.Page.Tree
import GrammarTables.Proofs.ParseTable.Defects
import GrammarTables.Proofs.Text.Quoted

/-!
# What messages say

The message of a defect is a line of printable characters whatever the names of the page are,
since names stand between quotation marks and all else is fixed words and numbers.  The message
about a name that is not registered can be read: the name, its row, the nonterminal of the row
and the column are found in it, even if one of the names is spelled like a part of a message.
-/

namespace GrammarTables

open Markup

/-! ## Lines -/

/-- Whether a line ends with the character, in any of the ways in which texts are divided. -/
def Text.isLineBreak (character : Char) : Bool :=
  let code := character.toNat
  (0x0A ≤ code && code ≤ 0x0D) || (0x1C ≤ code && code ≤ 0x1E) || code == 0x85 ||
    code == 0x2028 || code == 0x2029

/-- Nothing printable ends a line or controls a device. -/
theorem Text.isLineBreak_eq_false_of_isPrintable {character : Char}
    (printable : isPrintable character = true) :
    isLineBreak character = false ∧ Page.isControl character = false := by
  have outside (first last : Nat) (isRange : (first, last) ∈ unprintableRanges)
      (beyond : 0x7F ≤ character.toNat) :
      ¬(first ≤ character.toNat ∧ character.toNat ≤ last) := by
    intro inRange
    have isIn := isInRanges_eq_true_iff.mpr ⟨_, isRange, inRange⟩
    simp [isPrintable, Nat.not_lt.mpr beyond, isIn] at printable
  have notControl := outside 0x7F 0xA0 (by decide)
  have notSeparator := outside 0x2028 0x202F (by decide +kernel)
  have visible : character.toNat < 0x7F → 0x20 ≤ character.toNat := by
    intro plain
    simpa [isPrintable, plain] using printable
  constructor
  · simp only [isLineBreak, Bool.or_eq_false_iff, Bool.and_eq_false_iff, decide_eq_false_iff_not,
      beq_eq_false_iff_ne]
    omega
  · simp only [Page.isControl, Bool.or_eq_false_iff, Bool.and_eq_false_iff,
      decide_eq_false_iff_not]
    omega

namespace Defect

/-- Details that are numbers and names, under printable keys. -/
inductive AreShowable : Details → Prop where
  | nil : AreShowable []
  | number {details : Details} (key : String) (plain : Text.IsShowable key) (value : Int)
      (others : AreShowable details) : AreShowable ((key, .integer value) :: details)
  | name {details : Details} (key : String) (plain : Text.IsShowable key) (value : String)
      (others : AreShowable details) : AreShowable ((key, .text value) :: details)

theorem AreShowable.isShowable_detailText {details : Details} (showable : AreShowable details) :
    ∀ detail ∈ details, Text.IsShowable (detailText detail) := by
  induction showable with
  | nil => exact nofun
  | number key plain value others ih =>
      rw [List.forall_mem_cons]
      exact ⟨(plain.append (by decide)).append (Text.isShowable_toString_int value), ih⟩
  | name key plain value others ih =>
      rw [List.forall_mem_cons]
      exact ⟨(plain.append (by decide)).append (Text.isShowable_quoted value), ih⟩

theorem isShowable_message {defect : Defect} (summary : Text.IsShowable defect.summary)
    (details : AreShowable defect.details) : Text.IsShowable defect.message := by
  have inWords : Text.IsShowable (", ".intercalate (defect.details.map detailText)) :=
    Text.isShowable_intercalate (by decide) (List.forall_mem_map.mpr details.isShowable_detailText)
  rw [message]
  split
  · exact summary
  · exact ((summary.append (by decide)).append inWords).append (by decide)

theorem isShowable_missingHeader {what : String} (plain : Text.IsShowable what)
    (row : Option Int) : Text.IsShowable (missingHeader what row).message := by
  have summary : Text.IsShowable (missingHeader what row).summary :=
    Text.IsShowable.append (by decide) plain
  apply isShowable_message summary
  cases row with
  | none => exact .nil
  | some index => exact .number "row" (by decide) index .nil

theorem isShowable_summary_malformedRow (row expected found : Int) (details : Details) :
    Text.IsShowable (malformedRow row expected found details).summary :=
  ((Text.IsShowable.append (by decide) (Text.isShowable_toString_int expected)).append
    (by decide)).append (Text.isShowable_toString_int found)

theorem isShowable_summary_unknownSymbol (name : String) (details : Details) :
    Text.IsShowable (unknownSymbol name details).summary :=
  Text.IsShowable.append (by decide) (Text.isShowable_quoted name)

end Defect

/-! ## Names that are not registered -/

/-- A column as defects name it: by a word in First/Follow tables and by its number in others. -/
inductive ColumnLabel where
  | word (name : String)
  | number (value : Nat)
  deriving DecidableEq, Repr

/-- The label as it stands in the details of a defect. -/
def ColumnLabel.scalar : ColumnLabel → Scalar
  | word name => .text name
  | number value => .integer value

/-- A name in a row that is not registered. -/
structure UnknownName where
  name : String
  row : Nat
  nonterminal : String
  column : ColumnLabel
  deriving DecidableEq, Repr

/-- The defect that is reported of the name. -/
def UnknownName.defect (unknown : UnknownName) : Defect :=
  .unknownSymbol unknown.name
    [("row", .integer unknown.row), ("nonterminal", .text unknown.nonterminal),
      ("column", unknown.column.scalar)]

/-! ## Reading messages -/

namespace UnknownName

open Literal

def readNumber : Reader Nat := fun input =>
  match input.takeWhile Char.isDigit with
  | [] => none
  | digits => some (Nat.ofDigitChars 10 digits 0, input.dropWhile Char.isDigit)

/-- The label of a column, which is a quoted word or a number. -/
def readLabel : Reader ColumnLabel := fun input =>
  match Text.readQuoted input with
  | some (name, rest) => some (.word name, rest)
  | none => (readNumber input).map fun (value, rest) => (.number value, rest)

/-- The value of a detail with a given key. -/
def readDetail {Value : Type} (key : String) (read : Reader Value) : Reader Value := fun input =>
  do read (← skip "=" (← skip key input))

/-- What the message says, if all of it is about a name that is not registered. -/
def ofMessage? (message : String) : Option UnknownName := do
  let input ← skip "Unknown terminal name: " message.toList
  let (name, input) ← Text.readQuoted input
  let input ← skip " (" input
  let (row, input) ← readDetail "row" readNumber input
  let input ← skip ", " input
  let (nonterminal, input) ← readDetail "nonterminal" Text.readQuoted input
  let input ← skip ", " input
  let (column, input) ← readDetail "column" readLabel input
  let input ← skip ")" input
  if input.isEmpty then some ⟨name, row, nonterminal, column⟩ else none

/-- A number is read up to the first character that is no digit. -/
theorem readNumber_append {digits rest : List Char} {number : Nat}
    (decimal : IsDecimal digits number) (ends : rest.takeWhile Char.isDigit = []) :
    readNumber (digits ++ rest) = some (number, rest) := by
  have left : rest.dropWhile Char.isDigit = rest := by
    have whole : rest.takeWhile Char.isDigit ++ rest.dropWhile Char.isDigit = rest :=
      List.takeWhile_append_dropWhile
    rwa [ends, List.nil_append] at whole
  rw [readNumber, List.takeWhile_append_of_pos decimal.plain, ends, List.append_nil,
    List.dropWhile_append_of_pos decimal.plain, left]
  obtain ⟨first, others, rfl⟩ := List.exists_cons_of_ne_nil decimal.filled
  simp only [decimal.value]

/-- No number begins with a quotation mark. -/
theorem readQuoted_append {digits rest : List Char} {number : Nat}
    (decimal : IsDecimal digits number) : Text.readQuoted (digits ++ rest) = none := by
  obtain ⟨first, others, rfl⟩ := List.exists_cons_of_ne_nil decimal.filled
  have notMark : ¬(first = '\'' ∨ first = '"') := by
    have isDigit := decimal.plain first List.mem_cons_self
    rintro (rfl | rfl) <;> cases isDigit
  rw [List.cons_append, Text.readQuoted, if_neg notMark]

theorem readLabel_append (label : ColumnLabel) {rest : List Char}
    (ends : rest.takeWhile Char.isDigit = []) :
    readLabel (label.scalar.quoted.toList ++ rest) = some (label, rest) := by
  cases label with
  | word name =>
      simp only [readLabel, ColumnLabel.scalar, Scalar.quoted, Text.readQuoted_quoted]
  | number value =>
      have decimal : IsDecimal (ColumnLabel.number value).scalar.quoted.toList value :=
        isDecimal_toString value
      simp only [readLabel, readQuoted_append decimal, readNumber_append decimal ends,
        Option.map_some]

theorem readDetail_detailText {Value : Type} {read : Reader Value} {value : Value}
    {scalar : Scalar} {rest : List Char} (key : String)
    (reads : read (scalar.quoted.toList ++ rest) = some (value, rest)) :
    readDetail key read ((Defect.detailText (key, scalar)).toList ++ rest) =
      some (value, rest) := by
  simp only [readDetail, Defect.detailText, String.toList_append, List.append_assoc, skip_append,
    Option.bind_eq_bind, Option.bind_some, reads]

/-- The message of a name that is not registered tells all about it. -/
theorem ofMessage?_message (unknown : UnknownName) :
    ofMessage? unknown.defect.message = some unknown := by
  have message : unknown.defect.message =
      "Unknown terminal name: " ++ Text.quoted unknown.name ++ " (" ++
        ", ".intercalate [Defect.detailText ("row", .integer unknown.row),
          Defect.detailText ("nonterminal", .text unknown.nonterminal),
          Defect.detailText ("column", unknown.column.scalar)] ++ ")" := rfl
  have row (rest : List Char) : readDetail "row" readNumber
      ((Defect.detailText ("row", .integer unknown.row)).toList ++ (", ".toList ++ rest)) =
        some (unknown.row, ", ".toList ++ rest) :=
    readDetail_detailText "row" (readNumber_append (isDecimal_toString unknown.row) rfl)
  have nonterminal (rest : List Char) : readDetail "nonterminal" Text.readQuoted
      ((Defect.detailText ("nonterminal", .text unknown.nonterminal)).toList ++ rest) =
        some (unknown.nonterminal, rest) :=
    readDetail_detailText "nonterminal" (Text.readQuoted_quoted unknown.nonterminal rest)
  have column : readDetail "column" readLabel
      ((Defect.detailText ("column", unknown.column.scalar)).toList ++ ")".toList) =
        some (unknown.column, ")".toList) :=
    readDetail_detailText "column" (readLabel_append unknown.column rfl)
  have closing : skip ")" ")".toList = some [] := rfl
  simp only [ofMessage?, message, String.intercalate_cons_cons, String.intercalate_singleton,
    String.toList_append, List.append_assoc, skip_append, Text.readQuoted_quoted, row,
    nonterminal, column, closing, Option.bind_eq_bind, Option.bind_some, List.isEmpty_nil, if_true]

theorem isShowable_message (unknown : UnknownName) :
    Text.IsShowable unknown.defect.message := by
  have column : Defect.AreShowable [("column", unknown.column.scalar)] := by
    cases unknown.column with
    | word name => exact .name "column" (by decide) name .nil
    | number value => exact .number "column" (by decide) value .nil
  apply Defect.isShowable_message (Defect.isShowable_summary_unknownSymbol unknown.name _)
  exact .number "row" (by decide) unknown.row
    (.name "nonterminal" (by decide) unknown.nonterminal column)

end UnknownName

/-! ## Defects of pages -/

/-- The defect is about a name in one of the rows below the first, and its message tells the name,
the row, the nonterminal and the column. -/
def Defect.IsReadBack (defect : Defect) : Prop :=
  ∃ unknown : UnknownName, 0 < unknown.row ∧ unknown.defect = defect ∧
    UnknownName.ofMessage? defect.message = some unknown

theorem UnknownName.isReadBack_defect (unknown : UnknownName) (isBelow : 0 < unknown.row) :
    unknown.defect.IsReadBack :=
  ⟨unknown, isBelow, rfl, unknown.ofMessage?_message⟩

namespace FirstFollowTable

theorem isShowable_of_pageDefect {document : Document} {place : Place} {defect : Defect}
    (found : PageDefect document place defect) : Text.IsShowable defect.message := by
  cases found with
  | noRegion absent => exact Defect.isShowable_missingHeader (by decide) none
  | @ofRow region row offset place defect isRegion inRows inRow =>
      cases inRow with
      | malformed wrong =>
          apply Defect.isShowable_message (Defect.isShowable_summary_malformedRow _ _ _ _)
          exact .number "row" (by decide) _ .nil
      | nameless absent => exact Defect.isShowable_missingHeader (by decide) _
      | @unknown nameCell name cell symbol position column =>
          exact UnknownName.isShowable_message
            ⟨symbol.reading, offset + 1, name.reading, .word column.name⟩

/-- A name that is not registered is one of a row below the titles. -/
theorem isReadBack_of_pageDefect {document : Document} {place : Place} {name : String}
    {details : Details} (found : PageDefect document place (.unknownSymbol name details)) :
    (Defect.unknownSymbol name details).IsReadBack := by
  cases found with
  | @ofRow region row offset place defect isRegion inRows inRow =>
      cases inRow with
      | @unknown nameCell header cell symbol position column =>
          let unknown : UnknownName :=
            ⟨symbol.reading, offset + 1, header.reading, .word column.name⟩
          exact unknown.isReadBack_defect (Nat.succ_pos offset)

end FirstFollowTable

namespace ParseTable

theorem isShowable_of_pageDefect {document : Document} {place : Place} {defect : Defect}
    (found : PageDefect document place defect) : Text.IsShowable defect.message := by
  cases found with
  | noRegion absent => exact Defect.isShowable_missingHeader (by decide) none
  | noRows isRegion empty => exact Defect.isShowable_missingHeader (by decide) none
  | noTerminals isRegion headed unnamed =>
      exact Defect.isShowable_missingHeader (by decide) (some 0)
  | unknownColumn isRegion headed inHeader unregistered =>
      apply Defect.isShowable_message (Defect.isShowable_summary_unknownSymbol _ _)
      exact .number "row" (by decide) _ (.number "column" (by decide) _ .nil)
  | @ofRow region header row rows offset place defect isRegion headed inRows inRow =>
      cases inRow with
      | nameless absent => exact Defect.isShowable_missingHeader (by decide) _
      | @malformed name named wrong =>
          apply Defect.isShowable_message (Defect.isShowable_summary_malformedRow _ _ _ _)
          exact .number "row" (by decide) _ (.name "nonterminal" (by decide) _ .nil)
      | @unknown name cell symbol column =>
          exact UnknownName.isShowable_message
            ⟨symbol.reading, offset + 1, name.reading, .number column⟩

/-- A name that is not registered is one of the header, which is row zero, or one of a row. -/
theorem isReadBack_of_pageDefect {document : Document} {place : Place} {name : String}
    {details : Details} (found : PageDefect document place (.unknownSymbol name details)) :
    (∃ column : Nat, details = [("row", .integer 0), ("column", .integer column)]) ∨
      (Defect.unknownSymbol name details).IsReadBack := by
  cases found with
  | @unknownColumn region header terminal rows column isRegion headed inHeader unregistered =>
      exact .inl ⟨column, rfl⟩
  | @ofRow region header row rows offset place defect isRegion headed inRows inRow =>
      cases inRow with
      | @unknown nonterminal cell symbol column =>
          let unknown : UnknownName :=
            ⟨symbol.reading, offset + 1, nonterminal.reading, .number column⟩
          exact .inr (unknown.isReadBack_defect (Nat.succ_pos offset))

end ParseTable

/-! ## Messages of transcriptions -/

/-- Whatever a document holds, the message of the defect that its transcription ends with is on
one line and has no control characters.  A name that is not registered is reported with its row,
the nonterminal of the row and the column, unless it is in the header of a parse table.  All of
this is read back from the message, and so equal messages are about equal names. -/
theorem messages_are_unambiguous :
    (∀ document defect,
      (FirstFollowTable.ofDocument document).outcome = .error defect ∨
          (ParseTable.ofDocument document).outcome = .error defect →
        ∀ character ∈ defect.message.toList,
          Text.isLineBreak character = false ∧ Page.isControl character = false) ∧
    (∀ document name details,
      (FirstFollowTable.ofDocument document).outcome = .error (.unknownSymbol name details) →
        (Defect.unknownSymbol name details).IsReadBack) ∧
    (∀ document name details,
      (ParseTable.ofDocument document).outcome = .error (.unknownSymbol name details) →
        (∃ column : Nat, details = [("row", .integer 0), ("column", .integer column)]) ∨
          (Defect.unknownSymbol name details).IsReadBack) ∧
    ∀ first second : UnknownName, first.defect.message = second.defect.message →
      first = second := by
  refine ⟨?_, ?_, ?_, ?_⟩
  · intro document defect ended character isIn
    have showable : Text.IsShowable defect.message := by
      rcases ended with ended | ended
      · obtain ⟨place, found⟩ :=
          (FirstFollowTable.settles_ofDocument document).exists_place ended
        exact FirstFollowTable.isShowable_of_pageDefect found
      · obtain ⟨place, found⟩ := (ParseTable.settles_ofDocument document).exists_place ended
        exact ParseTable.isShowable_of_pageDefect found
    exact Text.isLineBreak_eq_false_of_isPrintable (showable character isIn)
  · intro document name details ended
    obtain ⟨place, found⟩ := (FirstFollowTable.settles_ofDocument document).exists_place ended
    exact FirstFollowTable.isReadBack_of_pageDefect found
  · intro document name details ended
    obtain ⟨place, found⟩ := (ParseTable.settles_ofDocument document).exists_place ended
    exact ParseTable.isReadBack_of_pageDefect found
  · intro first second sameMessage
    have firstRead := first.ofMessage?_message
    rw [sameMessage, second.ofMessage?_message] at firstRead
    exact (Option.some.inj firstRead).symm

/-- A document with a table of each kind, in which the nonterminal has marks and a line break and
a name that is not registered goes on like the message about a shorter name. -/
def imitatingNames : Document :=
  ⟨[.element "table" [("class", "stats")]
      [.element "tr" [] [],
        .element "tr" []
          [.element "td" [] [.element "nonterm" [] [.text "'\"\\\n(E)"]],
            .element "td" [] [.element "term" [] [.text "a' (row=1, nonterminal='E'"]],
            .element "td" [] []]],
    .element "table" [("class", "parse_table")]
      [.element "tr" [] [.element "terminal" [] [.text "id"]],
        .element "tr" []
          [.element "th" [] [.element "nonterm" [] [.text "'\"\\\n(E)"]],
            .element "td" []
              [.element "nonterm" [] [.text "E"],
                .element "term" [] [.text "a' (row=1, nonterminal='E'"]]]]]⟩

/-- What is reported of the name, for a label of the column. -/
def imitatingName (column : ColumnLabel) : UnknownName :=
  ⟨"a' (row=1, nonterminal='E'", 1, "'\"\\\n(E)", column⟩

/-- All messages about the name are read back and differ from those about the shorter one. -/
theorem messages_are_unambiguous_imitatingNames :
    (FirstFollowTable.ofDocument imitatingNames).outcome =
        .error (imitatingName (.word "first")).defect ∧
      (imitatingName (.word "first")).defect.IsReadBack ∧
      (ParseTable.ofDocument imitatingNames).outcome =
        .error (imitatingName (.number 0)).defect ∧
      (imitatingName (.number 0)).defect.IsReadBack ∧
      (∀ character ∈ (imitatingName (.number 0)).defect.message.toList,
        Text.isLineBreak character = false ∧ Page.isControl character = false) ∧
      (imitatingName (.number 0)).defect.message ≠
        (UnknownName.defect ⟨"a", 1, "E", .number 0⟩).message := by
  obtain ⟨onOneLine, ofSets, ofTable, injective⟩ := messages_are_unambiguous
  have setsEnded : (FirstFollowTable.ofDocument imitatingNames).outcome =
      .error (imitatingName (.word "first")).defect := by rfl
  have tableEnded : (ParseTable.ofDocument imitatingNames).outcome =
      .error (imitatingName (.number 0)).defect := by rfl
  have oneLine := onOneLine imitatingNames _ (.inr tableEnded)
  refine ⟨setsEnded, ofSets _ _ _ setsEnded, tableEnded, ?_, oneLine, ?_⟩
  · rcases ofTable _ _ _ tableEnded with ⟨column, ⟨⟩⟩ | isReadBack
    exact isReadBack
  · intro sameMessage
    exact absurd (injective _ _ sameMessage) (by decide)

end GrammarTables
