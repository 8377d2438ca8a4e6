import GrammarTables.Proofs.Literal.Reader
import Mathlib.Algebra.Ring.Parity

/-!
# Where a string literal ends

A string literal tells where it ends, whatever stands behind it and whatever it holds.  The
quotes of a text are escaped and its backslashes are doubled, so the backslashes in front of an
escaped quote are odd in number: pairs, and the one that escapes it.  In front of the closing
quote there are only pairs.
-/

namespace GrammarTables.Literal

/-- The text with a character replaced wherever it stands. -/
def replaceEach (old : Char) (replacement characters : List Char) : List Char :=
  characters.flatMap fun character => if character = old then replacement else [character]

/-- Characters are escaped one by one as if first all backslashes were replaced and then all
quotes.  The other way round, the backslashes put in front of quotes would be doubled. -/
theorem flatMap_escapedChar_eq_replaceEach (characters : List Char) :
    characters.flatMap escapedChar =
      replaceEach '"' ['\\', '"'] (replaceEach '\\' ['\\', '\\'] characters) := by
  simp only [replaceEach, List.flatMap_assoc]
  apply List.flatMap_congr
  intro character _
  by_cases isBackslash : character = '\\'
  · subst isBackslash
    rfl
  · by_cases isQuote : character = '"'
    · subst isQuote
      rfl
    · simp [escapedChar, isBackslash, isQuote]

/-! ## Backslashes in front of a quote -/

/-- The count of backslashes that a text ends in. -/
def endingBackslashes (characters : List Char) : Nat :=
  (characters.rtakeWhile (· == '\\')).length

/-- A quote behind the text is not escaped: the backslashes in front of it are pairs. -/
def LeavesQuote (before : List Char) : Prop := Even (endingBackslashes before)

theorem leavesQuote_nil : LeavesQuote [] := ⟨0, rfl⟩

theorem leavesQuote_append_of_ne (before : List Char) {character : Char}
    (other : character ≠ '\\') : LeavesQuote (before ++ [character]) := by
  rw [LeavesQuote, endingBackslashes, List.rtakeWhile_concat_neg _ _ _ (by simpa using other)]
  exact ⟨0, rfl⟩

/-- One more backslash escapes a quote that was not escaped, and the other way round. -/
theorem leavesQuote_append_backslash (before : List Char) :
    LeavesQuote (before ++ ['\\']) ↔ ¬LeavesQuote before := by
  rw [LeavesQuote, endingBackslashes, List.rtakeWhile_concat_pos _ _ _ (by rfl),
    List.length_append, List.length_singleton, Nat.even_add_one]
  rfl

theorem escapedChar_of_special {character : Char}
    (special : character = '\\' ∨ character = '"') :
    escapedChar character = ['\\', character] := by
  rcases special with rfl | rfl <;> rfl

theorem escapedChar_of_plain {character : Char}
    (plain : ¬(character = '\\' ∨ character = '"')) : escapedChar character = [character] := by
  simp only [not_or] at plain
  simp [escapedChar, plain]

/-- Escaped characters in front of a quote do not escape it. -/
theorem leavesQuote_flatMap (characters : List Char) :
    LeavesQuote ('"' :: characters.flatMap escapedChar) := by
  induction characters using List.reverseRecOn with
  | nil => exact leavesQuote_append_of_ne [] (by decide)
  | append_singleton others character ih =>
      rw [List.flatMap_append, List.flatMap_singleton, ← List.cons_append]
      by_cases isBackslash : character = '\\'
      · subst isBackslash
        have doubled : escapedChar '\\' = ['\\'] ++ ['\\'] := rfl
        rw [doubled, ← List.append_assoc, leavesQuote_append_backslash,
          leavesQuote_append_backslash, not_not]
        exact ih
      · by_cases isQuote : character = '"'
        · subst isQuote
          have escaped : escapedChar '"' = ['\\'] ++ ['"'] := rfl
          rw [escaped, ← List.append_assoc]
          exact leavesQuote_append_of_ne _ isBackslash
        · rw [escapedChar_of_plain (by simp [isBackslash, isQuote])]
          exact leavesQuote_append_of_ne _ isBackslash

/-- A quote among escaped characters is one of them, behind its backslash. -/
theorem exists_of_flatMap_eq_append {characters before after : List Char}
    (divided : characters.flatMap escapedChar = before ++ '"' :: after) :
    ∃ others : List Char, before = others.flatMap escapedChar ++ ['\\'] := by
  induction characters generalizing before with
  | nil => simp at divided
  | cons character rest ih =>
      rw [List.flatMap_cons] at divided
      by_cases special : character = '\\' ∨ character = '"'
      · rw [escapedChar_of_special special] at divided
        rcases List.cons_eq_append_iff.mp divided with ⟨-, isQuote⟩ | ⟨inner, rfl, behind⟩
        · cases isQuote
        · rcases List.cons_eq_append_iff.mp behind with ⟨rfl, -⟩ | ⟨inner, rfl, inRest⟩
          · exact ⟨[], rfl⟩
          · obtain ⟨others, rfl⟩ := ih inRest
            refine ⟨character :: others, ?_⟩
            rw [List.flatMap_cons, escapedChar_of_special special]
            rfl
      · rw [escapedChar_of_plain special] at divided
        rcases List.cons_eq_append_iff.mp divided with ⟨-, isQuote⟩ | ⟨inner, rfl, inRest⟩
        · cases isQuote
          exact absurd (.inr rfl) special
        · obtain ⟨others, rfl⟩ := ih inRest
          refine ⟨character :: others, ?_⟩
          rw [List.flatMap_cons, escapedChar_of_plain special]
          rfl

/-- Only the quotes around a text are not escaped. -/
theorem leavesQuote_iff {characters before after : List Char}
    (divided : textChars characters = before ++ '"' :: after) :
    LeavesQuote before ↔ before = [] ∨ after = [] := by
  rw [textChars, List.cons_append] at divided
  rcases List.cons_eq_append_iff.mp divided with ⟨rfl, -⟩ | ⟨inner, rfl, behind⟩
  · simp [leavesQuote_nil]
  · rcases List.eq_nil_or_concat after with rfl | ⟨others, last, rfl⟩
    · obtain ⟨rfl, -⟩ := List.append_inj' behind rfl
      simp [leavesQuote_flatMap]
    · rw [List.concat_eq_append, ← List.cons_append, ← List.append_assoc] at behind
      obtain ⟨inText, -⟩ := List.append_inj' behind rfl
      obtain ⟨before, rfl⟩ := exists_of_flatMap_eq_append inText
      rw [← List.cons_append, leavesQuote_append_backslash]
      simp [leavesQuote_flatMap]

/-! ## Literals and what follows them -/

/-- A literal holds the text with backslashes and then quotes replaced.  It is read back to its
last character and no further, so that it tells its text apart from all others and is the
beginning of no other literal.  A quote in it is not escaped exactly if it is the first or the
last character. -/
theorem text_delimits_itself (value : String) :
    (text value).toList =
        '"' :: replaceEach '"' ['\\', '"'] (replaceEach '\\' ['\\', '\\'] value.toList) ++ ['"'] ∧
      (∀ rest : String, readText (text value ++ rest).toList = some (value, rest.toList)) ∧
      (∀ other, text other = text value ↔ other = value) ∧
      (∀ other, (text value).toList <+: (text other).toList ↔ other = value) ∧
      ∀ before after, (text value).toList = before ++ '"' :: after →
        (LeavesQuote before ↔ before = [] ∨ after = []) := by
  have leading : ∀ other, (text value).toList <+: (text other).toList → other = value := by
    rintro other ⟨rest, continued⟩
    have whole := readText_text other []
    rw [List.append_nil, ← continued, readText_text] at whole
    exact (Prod.mk.inj (Option.some.inj whole)).1.symm
  refine ⟨?_, ?_, ?_, ?_, ?_⟩
  · rw [toList_text, textChars, flatMap_escapedChar_eq_replaceEach]
  · intro rest
    rw [String.toList_append, readText_text]
  · intro other
    constructor
    · intro same
      exact leading other (same ▸ List.prefix_rfl)
    · rintro rfl
      rfl
  · intro other
    refine ⟨leading other, ?_⟩
    rintro rfl
    exact List.prefix_rfl
  · intro before after divided
    rw [toList_text] at divided
    exact leavesQuote_iff divided

end GrammarTables.Literal
