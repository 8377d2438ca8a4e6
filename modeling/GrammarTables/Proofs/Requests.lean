import GrammarTables.Proofs.Markup.Query
import GrammarTables.Proofs.Streams
import GrammarTables.Reading.SetRow

/-!
# Requests for rows

A reader does nothing until a row is asked for.  One request reads one element, and with a
defect or behind the last element the reader has finished.  A stream holds what all requests to
such a reader are answered, and so the answers are rows with consecutive indices, then at most
one defect, then the end for ever.  They depend on no more elements than have been asked for.
-/

namespace GrammarTables

open Markup

variable {Row : Type}

/-- Where a reader of rows stands between two requests. -/
inductive RowReader where
  /-- The table has not been looked for.  Its first row will be passed over. -/
  | unopened (document : Document) (region : Selector)
  /-- The elements are still to be read, the first of them as the row with the index. -/
  | reading (index : Int) (elements : List Element)
  | finished

namespace RowReader

/-- Reads the next element, if there is one. -/
def next (readRow : Int → Element → Except Defect Row) (index : Int) :
    List Element → Answer Row × RowReader
  | [] => (.ended, .finished)
  | element :: rest =>
    match readRow index element with
    | .ok row => (.row row, .reading (index + 1) rest)
    | .error defect => (.defect defect, .finished)

/-- What a request is answered, and where the reader stands after it. -/
def request (readRow : Int → Element → Except Defect Row) :
    RowReader → Answer Row × RowReader
  | .unopened document region =>
    match tableRows document region with
    | .ok rows => next readRow 1 (rows.drop 1)
    | .error defect => (.defect defect, .finished)
  | .reading index elements => next readRow index elements
  | .finished => (.ended, .finished)

/-- The answers to a number of requests, made one after the other. -/
def answers (readRow : Int → Element → Except Defect Row) :
    RowReader → Nat → List (Answer Row)
  | _, 0 => []
  | reader, count + 1 =>
    (reader.request readRow).1 :: answers readRow (reader.request readRow).2 count

/-- All that a reader is going to answer. -/
def stream (readRow : Int → Element → Except Defect Row) : RowReader → RowStream Row
  | .unopened document region =>
    match tableRows document region with
    | .ok rows => .read readRow 1 (rows.drop 1)
    | .error defect => .ofDefect defect
  | .reading index elements => .read readRow index elements
  | .finished => .ofRows []

end RowReader

/-! ## Answers of streams -/

namespace RowStream

@[simp] theorem answer_cons_zero (row : Row) (stream : RowStream Row) :
    (stream.cons row).answer 0 = .row row := rfl

@[simp] theorem answer_cons_succ (row : Row) (stream : RowStream Row) (earlier : Nat) :
    (stream.cons row).answer (earlier + 1) = stream.answer earlier := by
  simp [answer, cons]

@[simp] theorem answer_ofDefect_zero (defect : Defect) :
    (ofDefect defect : RowStream Row).answer 0 = .defect defect := rfl

@[simp] theorem answer_ofDefect_succ (defect : Defect) (earlier : Nat) :
    (ofDefect defect : RowStream Row).answer (earlier + 1) = .ended := rfl

@[simp] theorem answer_ofRows_nil (earlier : Nat) :
    (ofRows [] : RowStream Row).answer earlier = .ended := rfl

theorem answers_succ (stream : RowStream Row) (count : Nat) :
    stream.answers (count + 1) =
      stream.answer 0 :: (List.range count).map fun earlier => stream.answer (earlier + 1) := by
  simp [answers, List.range_succ_eq_map, Function.comp_def]

end RowStream

namespace RowReader

variable (readRow : Int → Element → Except Defect Row)

/-- The first request to a reader is answered with the first of its stream, and the reader goes
on with the rest of it. -/
theorem answer_stream (reader : RowReader) :
    (reader.stream readRow).answer 0 = (reader.request readRow).1 ∧
      ∀ earlier, (reader.stream readRow).answer (earlier + 1) =
        ((reader.request readRow).2.stream readRow).answer earlier := by
  have ofNext (index : Int) (elements : List Element) :
      (RowStream.read readRow index elements).answer 0 = (next readRow index elements).1 ∧
        ∀ earlier, (RowStream.read readRow index elements).answer (earlier + 1) =
          ((next readRow index elements).2.stream readRow).answer earlier := by
    cases elements with
    | nil => exact ⟨rfl, fun _ => rfl⟩
    | cons element rest =>
        cases here : readRow index element <;> simp [RowStream.read, next, here, stream]
  cases reader with
  | unopened document region =>
      cases found : tableRows document region with
      | ok rows => simpa only [stream, request, found] using ofNext 1 (rows.drop 1)
      | error defect => simp [stream, request, found]
  | reading index elements => exact ofNext index elements
  | finished => exact ⟨rfl, fun _ => rfl⟩

/-- A reader answers request after request what its stream holds. -/
theorem answers_eq_answers_stream (reader : RowReader) (count : Nat) :
    reader.answers readRow count = (reader.stream readRow).answers count := by
  induction count generalizing reader with
  | zero => rfl
  | succ count ih =>
      obtain ⟨first, others⟩ := answer_stream readRow reader
      rw [answers, ih, RowStream.answers_succ, first]
      simp only [others]
      rfl

/-- Only as many elements are read as rows are asked for. -/
theorem answers_reading_eq {left right : List Element} {count : Nat}
    (leftLong : count ≤ left.length) (rightLong : count ≤ right.length)
    (same : left.take count = right.take count) (index : Int) :
    (reading index left).answers readRow count = (reading index right).answers readRow count := by
  induction count generalizing left right index with
  | zero => rfl
  | succ count ih =>
      cases left with
      | nil => simp at leftLong
      | cons element rest =>
          cases right with
          | nil => simp at rightLong
          | cons other others =>
              simp only [List.length_cons, Nat.add_le_add_iff_right] at leftLong rightLong
              simp only [List.take_succ_cons, List.cons.injEq] at same
              obtain ⟨rfl, sameRest⟩ := same
              simp only [answers, request, next]
              cases readRow index element with
              | error defect => rfl
              | ok row =>
                  simp only
                  rw [ih leftLong rightLong sameRest]

end RowReader

/-! ## Rows, then at most one defect, then the end -/

/-- The defect is one of the row with the index, and says so among its details. -/
def Defect.IsOfRow (defect : Defect) (index : Int) : Prop :=
  defect.details.lookup "row" = some (.integer index) ∧
    match defect with
    | malformedRow row .. => row = index
    | missingHeader _ row => row = some index
    | _ => False

/-- Rows that are read have the index they were read with, and so have their defects. -/
structure IsNumbered (readRow : Int → Element → Except Defect Row) (indexOf : Row → Int) :
    Prop where
  row : ∀ {index element row}, readRow index element = .ok row → indexOf row = index
  defect : ∀ {index element defect}, readRow index element = .error defect →
    defect.IsOfRow index

/-- A stream answers some requests with the rows that are read from the elements, counted from
an index on.  If an element is left then, it has a defect.  That is the next answer, and it is
the only one besides rows and the end. -/
structure RowStream.AnswersInTurn (readRow : Int → Element → Except Defect Row)
    (indexOf : Row → Int) (index : Int) (elements : List Element) (stream : RowStream Row)
    (served : Nat) : Prop where
  rows : ∀ place < served, ∃ element row, elements[place]? = some element ∧
    readRow (index + place) element = .ok row ∧ indexOf row = index + place ∧
      stream.answer place = .row row
  turn : (served = elements.length ∧ stream.answer served = .ended) ∨
    ∃ element defect, elements[served]? = some element ∧
      readRow (index + served) element = .error defect ∧ defect.IsOfRow (index + served) ∧
        stream.answer served = .defect defect
  ended : ∀ place, served < place → stream.answer place = .ended

namespace RowStream

variable {readRow : Int → Element → Except Defect Row} {indexOf : Row → Int}

theorem AnswersInTurn.cons {index : Int} {element : Element} {elements : List Element}
    {row : Row} {stream : RowStream Row} {served : Nat}
    (behind : stream.AnswersInTurn readRow indexOf (index + 1) elements served)
    (gives : readRow index element = .ok row) (hasIndex : indexOf row = index) :
    (stream.cons row).AnswersInTurn readRow indexOf index (element :: elements)
      (served + 1) := by
  have counted (place : Nat) : index + 1 + place = index + (place + 1 : Nat) := by omega
  obtain ⟨rows, turn, ended⟩ := behind
  simp only [counted] at rows turn
  constructor
  · intro place bound
    cases place with
    | zero => exact ⟨element, row, rfl, by simpa using gives, by simpa using hasIndex, rfl⟩
    | succ place =>
        simpa using rows place (by omega)
  · simpa using turn
  · intro place bound
    cases place with
    | zero => omega
    | succ place => simpa using ended place (by omega)

/-- Elements that are read one after the other are answered in turn. -/
theorem exists_answersInTurn (numbered : IsNumbered readRow indexOf) (elements : List Element)
    (index : Int) :
    ∃ served, (read readRow index elements).AnswersInTurn readRow indexOf index elements
      served := by
  induction elements generalizing index with
  | nil =>
      refine ⟨0, ?_, .inl ⟨rfl, rfl⟩, ?_⟩
      · intro place bound
        omega
      · intro place _
        rfl
  | cons element rest ih =>
      cases here : readRow index element with
      | ok row =>
          obtain ⟨served, behind⟩ := ih (index + 1)
          rw [read, here]
          exact ⟨served + 1, behind.cons here (numbered.row here)⟩
      | error defect =>
          rw [read, here]
          refine ⟨0, ?_, .inr ⟨element, defect, rfl, ?_, ?_, rfl⟩, ?_⟩
          · intro place bound
            omega
          · simpa using here
          · simpa using numbered.defect here
          · intro place bound
            cases place with
            | zero => omega
            | succ place => rfl

end RowStream

/-- Behind equal first elements, as many answers are equal as there are equal rows. -/
theorem RowStream.answers_read_drop_one_eq (readRow : Int → Element → Except Defect Row)
    {rows others : List Element} {count : Nat} (long : count < rows.length)
    (otherLong : count < others.length) (same : rows.take (count + 1) = others.take (count + 1)) :
    (read readRow 1 (rows.drop 1)).answers count =
      (read readRow 1 (others.drop 1)).answers count := by
  have below : (rows.drop 1).take count = (others.drop 1).take count := by
    have dropped := congrArg (List.drop 1) same
    simpa [List.drop_take] using dropped
  have answersEq := RowReader.answers_reading_eq readRow (by simp; omega) (by simp; omega) below 1
  rwa [RowReader.answers_eq_answers_stream, RowReader.answers_eq_answers_stream] at answersEq

/-! ## First/Follow tables -/

namespace SetRow

theorem isNumbered_read : IsNumbered read index := by
  constructor
  · intro index element row gives
    rw [read] at gives
    split at gives
    · split at gives <;> cases gives
      rfl
    · cases gives
  · intro index element defect gives
    rw [read] at gives
    split at gives
    · split at gives <;> cases gives
      exact ⟨rfl, rfl⟩
    · cases gives
      exact ⟨rfl, rfl⟩

theorem stream_eq_stream_unopened (document : Document) :
    stream document = RowReader.stream read (.unopened document region) := rfl

/-- How the requests for the rows of a document are answered. -/
structure AreAnswered (document : Document) : Prop where
  /-- The answers are those of a reader that opens the document at the first request. -/
  requested : ∀ count, (stream document).answers count =
    RowReader.answers read (.unopened document region) count
  /-- The row of titles is passed over. -/
  in_turn : ∀ rows, tableRows document region = .ok rows →
    ∃ served, (stream document).AnswersInTurn read index 1 (rows.drop 1) served
  /-- That there is no table is the answer to the first request. -/
  without_region : document.select? region = none →
    (stream document).answer 0 = .defect (.missingHeader "table region '.stats'" none) ∧
      ∀ earlier, (stream document).answer (earlier + 1) = .ended
  /-- Rows that are not asked for do not matter. -/
  on_request : ∀ other rows otherRows count, tableRows document region = .ok rows →
    tableRows other region = .ok otherRows → count < rows.length →
      count < otherRows.length → rows.take (count + 1) = otherRows.take (count + 1) →
        (stream other).answers count = (stream document).answers count

theorem areAnswered (document : Document) : AreAnswered document := by
  constructor
  · intro count
    rw [stream_eq_stream_unopened, RowReader.answers_eq_answers_stream]
  · intro rows found
    rw [stream, found]
    exact RowStream.exists_answersInTurn isNumbered_read (rows.drop 1) 1
  · intro absent
    have missing : tableRows document region =
        .error (.missingHeader "table region '.stats'" none) := by
      rw [tableRows, absent]
      rfl
    rw [stream, missing]
    exact ⟨rfl, fun _ => rfl⟩
  · intro other rows otherRows count found otherFound long otherLong same
    rw [stream, stream, found, otherFound]
    exact RowStream.answers_read_drop_one_eq read otherLong long same.symm

end SetRow

/-! ## Parse tables -/

namespace ProductionRow

theorem isNumbered_read (width : Nat) : IsNumbered (read width) index := by
  constructor
  · intro index element row gives
    rw [read] at gives
    split at gives
    · cases gives
    · simp only at gives
      split at gives <;> cases gives
      rfl
  · intro index element defect gives
    rw [read] at gives
    split at gives
    · cases gives
      exact ⟨rfl, rfl⟩
    · simp only at gives
      split at gives <;> cases gives
      exact ⟨rfl, rfl⟩

/-- How the requests for the rows of a document are answered, once it has been opened. -/
structure AreAnswered (document : Document) : Prop where
  /-- The header is read at the opening, and the rows below it when they are asked for. -/
  in_turn : ∀ names stream, open? document = .ok (names, stream) →
    ∃ header rows, tableRows document region = .ok (header :: rows) ∧
      (header.findAll ["terminal"]).map Element.reading = names ∧
      (∀ count, stream.answers count =
        RowReader.answers (read names.length) (.reading 1 rows) count) ∧
      ∃ served, stream.AnswersInTurn (read names.length) index 1 rows served
  /-- Rows that are not asked for do not matter. -/
  on_request : ∀ other rows otherRows count, tableRows document region = .ok rows →
    tableRows other region = .ok otherRows → count < rows.length →
      count < otherRows.length → rows.take (count + 1) = otherRows.take (count + 1) →
        (open? other).map (fun opened => (opened.1, opened.2.answers count)) =
          (open? document).map fun opened => (opened.1, opened.2.answers count)

theorem areAnswered (document : Document) : AreAnswered document := by
  constructor
  · intro names stream opened
    obtain ⟨header, rows, found, named, rfl⟩ := exists_of_open?_eq_ok opened
    refine ⟨header, rows, found, named, ?_, ?_⟩
    · intro count
      rw [RowReader.answers_eq_answers_stream]
      rfl
    · exact RowStream.exists_answersInTurn (isNumbered_read names.length) rows 1
  · intro other rows otherRows count found otherFound long otherLong same
    have answersEq (width : Nat) :=
      RowStream.answers_read_drop_one_eq (read width) otherLong long same.symm
    cases rows with
    | nil => simp at long
    | cons header rest =>
        cases otherRows with
        | nil => simp at otherLong
        | cons otherHeader otherRest =>
            simp only [List.take_succ_cons, List.cons.injEq] at same
            obtain ⟨rfl, -⟩ := same
            simp only [List.drop_succ_cons, List.drop_zero] at answersEq
            simp only [open?, found, otherFound]
            cases (header.findAll ["terminal"]).map Element.reading with
            | nil => rfl
            | cons name names => simp only [Except.map, answersEq]

end ProductionRow

/-! ## Both kinds of tables -/

/-- Requests are answered with the rows of a table from the first on, then with a defect if the
next row has one, and then with the end for ever.  No answer depends on rows behind the one that
was asked for. -/
theorem requests_answered_in_turn (document : Document) :
    SetRow.AreAnswered document ∧ ProductionRow.AreAnswered document :=
  ⟨SetRow.areAnswered document, ProductionRow.areAnswered document⟩

/-- A document with a table of sets: a row of titles, a row for a nonterminal without members,
and further rows. -/
def setsDocument (further : List Node) : Document :=
  let cell (children : List Node) : Node := .element "td" [] children
  let row : Node :=
    .element "tr" [] [cell [.element "nonterm" [] [.text "E"]], cell [], cell []]
  ⟨[.element "table" [("class", "stats")] (.element "tr" [] [] :: row :: further)]⟩

/-- A row without cells is a defect only for those who ask for it. -/
theorem requests_answered_in_turn_setsDocument :
    (SetRow.stream (setsDocument [.element "tr" [] []])).answers 4 =
        [.row ⟨1, "E", [], []⟩, .defect (.malformedRow 2 3 0 []), .ended, .ended] ∧
      (SetRow.stream (setsDocument [])).answers 1 =
        (SetRow.stream (setsDocument [.element "tr" [] []])).answers 1 := by
  have answered := (requests_answered_in_turn (setsDocument [.element "tr" [] []])).1
  refine ⟨rfl, ?_⟩
  apply answered.on_request (setsDocument []) _ _ 1 rfl rfl
  · decide
  · decide
  · rfl

end GrammarTables
