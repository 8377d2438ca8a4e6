import GrammarTables.Text.Blank
import Mathlib.Data.List.DropRight
import Mathlib.Data.List.TakeWhile

/-!
# Texts put together and taken apart

Texts that are divided by a separator, and texts from whose ends nothing is trimmed.
-/

namespace GrammarTables.Text

theorem toList_intercalate_cons (separator text : String) (texts : List String) :
    (separator.intercalate (text :: texts)).toList =
      text.toList ++ texts.flatMap fun text => separator.toList ++ text.toList := by
  induction texts generalizing text with
  | nil => simp
  | cons next texts ih =>
      rw [String.intercalate_cons_cons, String.toList_append, String.toList_append, ih,
        List.flatMap_cons, List.append_assoc, List.append_assoc]

/-- What begins with the first text goes on with the others. -/
theorem intercalate_cons (separator text : String) (texts : List String) :
    separator.intercalate (text :: texts) =
      text ++ String.ofList (texts.flatMap fun text => separator.toList ++ text.toList) := by
  rw [← String.toList_inj, toList_intercalate_cons, String.toList_append, String.toList_ofList]

theorem intercalate_cons_ne_empty {separator text : String} {texts : List String}
    (filled : text ≠ "") : separator.intercalate (text :: texts) ≠ "" := by
  intro isEmpty
  rw [intercalate_cons, String.append_eq_empty_iff] at isEmpty
  exact filled isEmpty.1

theorem dropWhile_of_head?_false {test : Char → Bool} {characters : List Char}
    (kept : ∀ first ∈ characters.head?, test first = false) :
    characters.dropWhile test = characters := by
  cases characters with
  | nil => rfl
  | cons first rest => rw [List.dropWhile_cons_of_neg (by simp [kept first rfl])]

/-- What trimming drops are two ends at which the test holds. -/
theorem exists_append_trimWhere (test : Char → Bool) (characters : List Char) :
    ∃ before after, characters = before ++ trimWhere test characters ++ after ∧
      ∀ character ∈ before ++ after, test character = true := by
  refine ⟨characters.takeWhile test, (characters.dropWhile test).rtakeWhile test, ?_, ?_⟩
  · change characters = _ ++ (characters.dropWhile test).rdropWhile test ++ _
    rw [List.append_assoc, List.rdropWhile_append_rtakeWhile, List.takeWhile_append_dropWhile]
  · intro character isEnd
    rcases List.mem_append.mp isEnd with inFront | inBack
    · exact List.mem_takeWhile_imp inFront
    · exact List.mem_rtakeWhile_imp inBack

/-- Ends at which the test holds are dropped from around a middle at whose ends it does not. -/
theorem trimWhere_append {test : Char → Bool} {before middle after : List Char}
    (ends : ∀ character ∈ before ++ after, test character = true) (filled : middle ≠ [])
    (front : ∀ first ∈ middle.head?, test first = false)
    (back : ∀ last ∈ middle.getLast?, test last = false) :
    trimWhere test (before ++ middle ++ after) = middle := by
  rw [List.forall_mem_append] at ends
  have noFront : (before ++ middle ++ after).dropWhile test = middle ++ after := by
    rw [List.append_assoc, List.dropWhile_append_of_pos ends.1]
    apply dropWhile_of_head?_false
    rwa [List.head?_append_of_ne_nil _ filled]
  have noBack : (middle ++ after).reverse.dropWhile test = middle.reverse := by
    rw [List.reverse_append, List.dropWhile_append_of_pos (by simpa using ends.2)]
    apply dropWhile_of_head?_false
    rwa [List.head?_reverse]
  rw [trimWhere, noFront, noBack, List.reverse_reverse]

/-- A text that neither begins nor ends with a blank character is its own trimmed text. -/
theorem trim_eq_self {text : String} (front : ∀ first ∈ text.toList.head?, isBlank first = false)
    (back : ∀ last ∈ text.toList.getLast?, isBlank last = false) : trim text = text := by
  have reversed : ∀ last ∈ text.toList.reverse.head?, isBlank last = false := by
    rwa [List.head?_reverse]
  rw [trim, trimWhere, dropWhile_of_head?_false front, dropWhile_of_head?_false reversed,
    List.reverse_reverse, String.ofList_toList]

/-- No blank character is at either end of the text. -/
structure IsTrimmed (text : String) : Prop where
  front : ∀ first ∈ text.toList.head?, isBlank first = false
  back : ∀ last ∈ text.toList.getLast?, isBlank last = false

theorem IsTrimmed.trim_eq {text : String} (trimmed : IsTrimmed text) : trim text = text :=
  trim_eq_self trimmed.front trimmed.back

theorem isTrimmed_empty : IsTrimmed "" := ⟨by simp, by simp⟩

theorem isTrimmed_trim (text : String) : IsTrimmed (trim text) := by
  have noFront := List.head?_dropWhile_not isBlank text.toList
  obtain ⟨dropped, divided⟩ :=
    List.rdropWhile_prefix isBlank (text.toList.dropWhile isBlank)
  constructor
  · intro first isFirst
    rw [toList_trim] at isFirst
    have kept : ((text.toList.dropWhile isBlank).rdropWhile isBlank).head? = some first :=
      isFirst
    rw [← divided, List.head?_append, kept] at noFront
    exact noFront
  · intro last isLast
    rw [toList_trim, trimWhere, List.getLast?_reverse] at isLast
    have noBack := List.head?_dropWhile_not isBlank (text.toList.dropWhile isBlank).reverse
    rw [isLast] at noBack
    exact noBack

theorem IsTrimmed.append {left right : String} (leftTrimmed : IsTrimmed left)
    (rightTrimmed : IsTrimmed right) : IsTrimmed (left ++ right) := by
  constructor
  · intro first isFirst
    rw [String.toList_append, List.head?_append] at isFirst
    rcases Option.or_eq_some_iff.mp isFirst with inLeft | ⟨-, inRight⟩
    · exact leftTrimmed.front first inLeft
    · exact rightTrimmed.front first inRight
  · intro last isLast
    rw [String.toList_append, List.getLast?_append] at isLast
    rcases Option.or_eq_some_iff.mp isLast with inRight | ⟨-, inLeft⟩
    · exact rightTrimmed.back last inRight
    · exact leftTrimmed.back last inLeft

/-- Trimmed pieces make a trimmed text, also where some of them are empty. -/
theorem isTrimmed_join {pieces : List String} (trimmed : ∀ piece ∈ pieces, IsTrimmed piece) :
    IsTrimmed (String.join pieces) := by
  induction pieces with
  | nil => exact isTrimmed_empty
  | cons piece rest ih =>
      obtain ⟨here, others⟩ := List.forall_mem_cons.mp trimmed
      rw [String.join_cons]
      exact here.append (ih others)

end GrammarTables.Text
