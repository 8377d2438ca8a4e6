import GrammarTables.Number.Numeral
import GrammarTables.Proofs.Text
import GrammarTables.Text.CodeRange
import Mathlib.Data.Nat.Digits.Defs

/-!
# Integer numerals

The grammar of integer numerals is given apart from its reader: white space, a sign or none,
digits of any script with single underscores between them, and white space.  The reader accepts
the texts of the grammar and no others, with the integers that they denote.  It sees characters
in their plain form only, so one lemma for each class of characters relates that form to the
classes of Unicode.
-/

namespace GrammarTables

/-! ## White space -/

namespace Text

/-- The code points with the property White_Space. -/
def whiteSpaces : CodeRanges :=
  [(0x09, 0x0D), (0x20, 0x20), (0x85, 0x85), (0xA0, 0xA0), (0x1680, 0x1680), (0x2000, 0x200A),
   (0x2028, 0x2029), (0x202F, 0x202F), (0x205F, 0x205F), (0x3000, 0x3000)]

/-- The character has the property White_Space. -/
def IsWhite (character : Char) : Prop := isInRanges whiteSpaces character.toNat = true

instance (character : Char) : Decidable (IsWhite character) :=
  inferInstanceAs (Decidable (_ = true))

theorem digitValue?_of_isWhite {character : Char} (white : IsWhite character) :
    digitValue? character = none := by
  obtain ⟨range, isRange, fromFirst, upToLast⟩ := isInRanges_eq_true_iff.mp white
  have apart : ∀ range ∈ whiteSpaces, ∀ first ∈ digitZeros,
      range.2 < first ∨ first + 10 ≤ range.1 := by decide
  rw [digitValue?, Option.map_eq_none_iff, List.find?_eq_none]
  intro first isFirst inScript
  have disjoint := apart range isRange first isFirst
  simp only [Bool.and_eq_true, decide_eq_true_eq] at inScript
  omega

theorem lt_of_digitValue? {character : Char} {value : Nat}
    (isDigit : digitValue? character = some value) : value < 10 := by
  obtain ⟨first, found, rfl⟩ := Option.map_eq_some_iff.mp isDigit
  have inScript := List.find?_some found
  simp only [Bool.and_eq_true, decide_eq_true_eq] at inScript
  omega

theorem isBlank_iff_isWhite {character : Char} (beyond : 0x7F ≤ character.toNat) :
    isBlank character = true ↔ IsWhite character := by
  rw [IsWhite, isInRanges_eq_true_iff]
  simp only [isBlank, whiteSpaces, Bool.or_eq_true, Bool.and_eq_true, decide_eq_true_eq,
    beq_iff_eq, List.exists_mem_cons_iff, List.not_mem_nil, false_and, exists_false, or_false]
  omega

end Text

namespace Numeral

open Text

/-! ## Plain forms -/

theorem holds_of_lt {holds : Char → Prop} (all : ∀ code < 0x7F, holds (Char.ofNat code))
    {character : Char} (plain : character.toNat < 0x7F) : holds character := by
  rw [← Char.ofNat_toNat character]
  exact all _ plain

theorem plainForm_of_lt {character : Char} (plain : character.toNat < 0x7F) :
    plainForm character = character := if_pos plain

/-- The plain form of a character beyond the plain range, by the class of the character. -/
theorem plainForm_of_le {character : Char} (beyond : 0x7F ≤ character.toNat) :
    (IsWhite character ∧ plainForm character = ' ') ∨
      ¬ IsWhite character ∧
        ((∃ value < 10, digitValue? character = some value ∧
            plainForm character = value.digitChar) ∨
          digitValue? character = none ∧ plainForm character = '?') := by
  rw [plainForm, if_neg (by omega)]
  by_cases blank : isBlank character = true
  · exact .inl ⟨(isBlank_iff_isWhite beyond).mp blank, if_pos blank⟩
  · rw [if_neg blank]
    refine .inr ⟨(isBlank_iff_isWhite beyond).not.mp blank, ?_⟩
    cases isDigit : digitValue? character with
    | none => exact .inr ⟨rfl, rfl⟩
    | some value => exact .inl ⟨value, lt_of_digitValue? isDigit, rfl, rfl⟩

/-- The plain form of a digit is the plain digit, and that of no other character is one. -/
@[simp] theorem plainDigit?_plainForm (character : Char) :
    plainDigit? (plainForm character) = digitValue? character := by
  by_cases plain : character.toNat < 0x7F
  · rw [plainForm_of_lt plain]
    apply holds_of_lt _ plain
    decide +kernel
  · rcases plainForm_of_le (Nat.not_lt.mp plain) with
      ⟨white, form⟩ | ⟨-, ⟨value, small, isDigit, form⟩ | ⟨noDigit, form⟩⟩
    · rw [form, digitValue?_of_isWhite white]
      rfl
    · have all : ∀ value < 10, plainDigit? (Nat.digitChar value) = some value := by decide
      rw [form, isDigit, all value small]
    · rw [form, noDigit]
      rfl

theorem isPlainBlank_plainForm (character : Char) :
    isPlainBlank (plainForm character) = true ↔ IsWhite character := by
  by_cases plain : character.toNat < 0x7F
  · rw [plainForm_of_lt plain]
    apply holds_of_lt _ plain
    decide +kernel
  · rcases plainForm_of_le (Nat.not_lt.mp plain) with
      ⟨white, form⟩ | ⟨notWhite, ⟨value, small, -, form⟩ | ⟨-, form⟩⟩
    · simp [form, white, isPlainBlank]
    · have all : ∀ value < 10, isPlainBlank (Nat.digitChar value) = false := by decide
      simp [form, notWhite, all value small]
    · simp [form, notWhite, isPlainBlank]

/-- A sign and the underscore are the plain forms of themselves alone. -/
theorem plainForm_eq_iff {character mark : Char} (isMark : mark = '-' ∨ mark = '+' ∨ mark = '_') :
    plainForm character = mark ↔ character = mark := by
  have markPlain : mark.toNat < 0x7F := by
    rcases isMark with rfl | rfl | rfl <;> decide
  have noForm : mark ≠ ' ' ∧ mark ≠ '?' ∧ ∀ value < 10, mark ≠ Nat.digitChar value := by
    rcases isMark with rfl | rfl | rfl <;> decide
  by_cases plain : character.toNat < 0x7F
  · rw [plainForm_of_lt plain]
  · have different : character ≠ mark := by
      rintro rfl
      exact plain markPlain
    obtain ⟨notSpace, notOther, notDigit⟩ := noForm
    rcases plainForm_of_le (Nat.not_lt.mp plain) with
      ⟨-, form⟩ | ⟨-, ⟨value, small, -, form⟩ | ⟨-, form⟩⟩
    · simp [form, different, notSpace.symm]
    · simp [form, different, (notDigit value small).symm]
    · simp [form, different, notOther.symm]

/-! ## The grammar -/

/-- Digits of any script with single underscores between them, and the values of the digits. -/
inductive AreGrouped : List Char → List Nat → Prop where
  | last {character : Char} {digit : Nat} (isDigit : digitValue? character = some digit) :
      AreGrouped [character] [digit]
  | next {character : Char} {digit : Nat} {characters : List Char} {digits : List Nat}
      (isDigit : digitValue? character = some digit) (rest : AreGrouped characters digits) :
      AreGrouped (character :: characters) (digit :: digits)
  | divided {character : Char} {digit : Nat} {characters : List Char} {digits : List Nat}
      (isDigit : digitValue? character = some digit) (rest : AreGrouped characters digits) :
      AreGrouped (character :: '_' :: characters) (digit :: digits)

/-- A sign or none, and whether it is a minus sign. -/
inductive IsSign : List Char → Bool → Prop where
  | minus : IsSign ['-'] true
  | plus : IsSign ['+'] false
  | none : IsSign [] false

/-- The text is an integer numeral of at most 4300 digits, and it denotes the integer. -/
inductive Denotes (text : String) : Int → Prop where
  | numeral {before sign body after : List Char} {negative : Bool} {digits : List Nat}
      (parts : text.toList = before ++ (sign ++ body) ++ after)
      (white : ∀ character ∈ before ++ after, IsWhite character)
      (isSign : IsSign sign negative) (grouped : AreGrouped body digits)
      (few : digits.length ≤ 4300) :
      Denotes text ((if negative then -1 else 1) * (Nat.ofDigits 10 digits.reverse : Nat))

/-! ## Digits -/

theorem value_eq_ofDigits (digits : List Nat) : value digits = Nat.ofDigits 10 digits.reverse := by
  rw [value, Nat.ofDigits_eq_foldr, List.foldr_reverse]
  congr
  funext total digit
  rw [Nat.cast_id, Nat.add_comm, Nat.mul_comm]

theorem laterDigits_map_plainForm (characters : List Char) :
    laterDigits plainDigit? (characters.map plainForm) = laterDigits digitValue? characters := by
  fun_induction laterDigits digitValue? characters with
  | case1 => rfl
  | case2 character rest ih =>
      rw [List.map_cons, List.map_cons, (plainForm_eq_iff (by decide)).mpr rfl, laterDigits, ih,
        plainDigit?_plainForm]
  | case3 character rest notDivided ih =>
      rw [List.map_cons, laterDigits, ih, plainDigit?_plainForm]
      intro next others isMark hasNext
      cases rest with
      | nil => cases hasNext
      | cons first rest =>
          exact notDivided first rest ((plainForm_eq_iff (by decide)).mp isMark) rfl

theorem groupedDigits_map_plainForm (characters : List Char) :
    groupedDigits plainDigit? (characters.map plainForm) =
      groupedDigits digitValue? characters := by
  cases characters with
  | nil => rfl
  | cons character rest =>
      rw [List.map_cons, groupedDigits, laterDigits_map_plainForm, plainDigit?_plainForm]
      rfl

theorem laterDigits_underscore (characters : List Char) :
    laterDigits digitValue? ('_' :: characters) = groupedDigits digitValue? characters := by
  cases characters <;> rfl

theorem laterDigits_of_groupedDigits {characters : List Char} {digits : List Nat}
    (read : groupedDigits digitValue? characters = some digits) :
    laterDigits digitValue? characters = some digits := by
  cases characters with
  | nil => cases read
  | cons character rest =>
      have notMark : character ≠ '_' := by
        rintro rfl
        cases read
      rwa [laterDigits]
      intro _ _ isMark
      exact absurd isMark notMark

theorem groupedDigits_cons_eq_some_iff {character : Char} {characters : List Char}
    {digits : List Nat} :
    groupedDigits digitValue? (character :: characters) = some digits ↔
      ∃ digit later, digitValue? character = some digit ∧
        laterDigits digitValue? characters = some later ∧ digits = digit :: later := by
  simp only [groupedDigits, Option.bind_eq_bind, Option.bind_eq_some_iff, Option.pure_def,
    Option.some.injEq, @eq_comm _ digits]
  simp only [exists_and_left]

/-- What may follow a digit: nothing, or digits that an underscore may come before. -/
def AreLater (characters : List Char) (digits : List Nat) : Prop :=
  characters = [] ∧ digits = [] ∨ AreGrouped characters digits ∨
    ∃ rest, characters = '_' :: rest ∧ AreGrouped rest digits

theorem AreLater.cons {character : Char} {digit : Nat} {characters : List Char}
    {digits : List Nat} (isDigit : digitValue? character = some digit)
    (later : AreLater characters digits) :
    AreGrouped (character :: characters) (digit :: digits) := by
  rcases later with ⟨rfl, rfl⟩ | grouped | ⟨rest, rfl, grouped⟩
  · exact .last isDigit
  · exact .next isDigit grouped
  · exact .divided isDigit grouped

theorem areLater_of_laterDigits {characters : List Char} {digits : List Nat}
    (read : laterDigits digitValue? characters = some digits) : AreLater characters digits := by
  fun_induction laterDigits digitValue? characters generalizing digits with
  | case1 =>
      cases read
      exact .inl ⟨rfl, rfl⟩
  | case2 character rest ih =>
      obtain ⟨digit, later, isDigit, restRead, rfl⟩ := groupedDigits_cons_eq_some_iff.mp read
      exact .inr (.inr ⟨_, rfl, (ih restRead).cons isDigit⟩)
  | case3 character rest notDivided ih =>
      obtain ⟨digit, later, isDigit, restRead, rfl⟩ := groupedDigits_cons_eq_some_iff.mp read
      exact .inr (.inl ((ih restRead).cons isDigit))

/-- The reader of digits follows the grammar. -/
theorem groupedDigits_eq_some_iff {characters : List Char} {digits : List Nat} :
    groupedDigits digitValue? characters = some digits ↔ AreGrouped characters digits := by
  constructor
  · intro read
    cases characters with
    | nil => cases read
    | cons character rest =>
        obtain ⟨digit, later, isDigit, restRead, rfl⟩ := groupedDigits_cons_eq_some_iff.mp read
        exact (areLater_of_laterDigits restRead).cons isDigit
  · intro grouped
    induction grouped with
    | last isDigit => exact groupedDigits_cons_eq_some_iff.mpr ⟨_, [], isDigit, rfl, rfl⟩
    | next isDigit rest ih =>
        exact groupedDigits_cons_eq_some_iff.mpr
          ⟨_, _, isDigit, laterDigits_of_groupedDigits ih, rfl⟩
    | divided isDigit rest ih =>
        rw [← laterDigits_underscore] at ih
        exact groupedDigits_cons_eq_some_iff.mpr ⟨_, _, isDigit, ih, rfl⟩

theorem isInside_of_areGrouped {characters : List Char} {digits : List Nat}
    (grouped : AreGrouped characters digits) :
    ∀ character ∈ characters.map plainForm, character.isDigit || character == '_' := by
  have digitInside {character : Char} {digit : Nat}
      (isDigit : digitValue? character = some digit) :
      (plainForm character).isDigit || plainForm character == '_' := by
    rw [← plainDigit?_plainForm, plainDigit?] at isDigit
    split at isDigit
    · next isPlain => simp [isPlain]
    · cases isDigit
  have markInside : (plainForm '_').isDigit || plainForm '_' == '_' := by decide
  induction grouped with
  | last isDigit => simpa using digitInside isDigit
  | next isDigit _ ih =>
      exact List.forall_mem_cons.mpr ⟨digitInside isDigit, ih⟩
  | divided isDigit _ ih =>
      exact List.forall_mem_cons.mpr
        ⟨digitInside isDigit, List.forall_mem_cons.mpr ⟨markInside, ih⟩⟩

theorem exists_ends_of_areGrouped {characters : List Char} {digits : List Nat}
    (grouped : AreGrouped characters digits) :
    ∃ first last, characters.head? = some first ∧ characters.getLast? = some last ∧
      (digitValue? first).isSome ∧ (digitValue? last).isSome := by
  induction grouped with
  | last isDigit => exact ⟨_, _, rfl, rfl, by simp [isDigit], by simp [isDigit]⟩
  | next isDigit _ ih =>
      obtain ⟨_, last, -, isLast, -, lastDigit⟩ := ih
      refine ⟨_, last, rfl, ?_, by simp [isDigit], lastDigit⟩
      simp [List.getLast?_cons, isLast]
  | divided isDigit _ ih =>
      obtain ⟨_, last, -, isLast, -, lastDigit⟩ := ih
      refine ⟨_, last, rfl, ?_, by simp [isDigit], lastDigit⟩
      simp [List.getLast?_cons, isLast]

/-! ## The reader -/

theorem exists_isSign_of_splitSign {characters body : List Char} {negative : Bool}
    (split : splitSign characters = (negative, body)) :
    ∃ sign, IsSign sign negative ∧ characters = sign ++ body := by
  unfold splitSign at split
  split at split
  · cases split
    exact ⟨_, .minus, rfl⟩
  · cases split
    exact ⟨_, .plus, rfl⟩
  · cases split
    exact ⟨_, .none, rfl⟩

theorem isSign_map_plainForm_iff {sign : List Char} {negative : Bool} :
    IsSign (sign.map plainForm) negative ↔ IsSign sign negative := by
  have single (mark : Char) (isMark : mark = '-' ∨ mark = '+' ∨ mark = '_') :
      sign.map plainForm = [mark] ↔ sign = [mark] := by
    simp [List.map_eq_singleton_iff, plainForm_eq_iff isMark]
  have isSign_iff (characters : List Char) : IsSign characters negative ↔
      characters = ['-'] ∧ negative = true ∨ characters = ['+'] ∧ negative = false ∨
        characters = [] ∧ negative = false := by
    constructor
    · rintro (_ | _ | _) <;> simp
    · rintro (⟨rfl, rfl⟩ | ⟨rfl, rfl⟩ | ⟨rfl, rfl⟩)
      · exact .minus
      · exact .plus
      · exact .none
  rw [isSign_iff, isSign_iff, single '-' (by decide), single '+' (by decide), List.map_eq_nil_iff]

theorem splitSign_map_plainForm {sign body : List Char} {negative : Bool} {digits : List Nat}
    (isSign : IsSign sign negative) (grouped : AreGrouped body digits) :
    splitSign ((sign ++ body).map plainForm) = (negative, body.map plainForm) := by
  rw [List.map_append]
  cases isSign with
  | minus => rfl
  | plus => rfl
  | none =>
      obtain ⟨first, _, isFirst, -, isDigit, -⟩ := exists_ends_of_areGrouped grouped
      obtain ⟨rest, rfl⟩ := List.head?_eq_some_iff.mp isFirst
      have notMark (mark : Char) (isMark : mark = '-' ∨ mark = '+' ∨ mark = '_') :
          plainForm first ≠ mark := by
        intro same
        rw [(plainForm_eq_iff isMark).mp same] at isDigit
        rcases isMark with rfl | rfl | rfl <;> exact absurd isDigit (by decide)
      rw [List.map_nil, List.nil_append, List.map_cons, splitSign]
      · exact fun rest same => notMark '-' (by decide) (List.cons.inj same).1
      · exact fun rest same => notMark '+' (by decide) (List.cons.inj same).1

theorem plain_eq_map {text : String} {before sign body after : List Char} {negative : Bool}
    {digits : List Nat} (parts : text.toList = before ++ (sign ++ body) ++ after)
    (white : ∀ character ∈ before ++ after, IsWhite character) (isSign : IsSign sign negative)
    (grouped : AreGrouped body digits) : plain text = (sign ++ body).map plainForm := by
  obtain ⟨first, last, isFirst, isLast, firstDigit, lastDigit⟩ := exists_ends_of_areGrouped grouped
  have notWhite {character : Char} (isDigit : (digitValue? character).isSome) :
      isPlainBlank (plainForm character) = false := by
    rw [← Bool.not_eq_true, isPlainBlank_plainForm]
    intro white
    rw [digitValue?_of_isWhite white] at isDigit
    cases isDigit
  rw [plain, parts, List.map_append, List.map_append]
  apply trimWhere_append
  · rw [← List.map_append, List.forall_mem_map]
    exact fun character isEnd => (isPlainBlank_plainForm character).mpr (white character isEnd)
  · cases isSign <;> cases grouped <;> simp
  · rw [List.head?_map]
    cases isSign with
    | minus =>
        rintro _ ⟨⟩
        decide
    | plus =>
        rintro _ ⟨⟩
        decide
    | none => simpa [isFirst] using notWhite firstDigit
  · simpa [List.getLast?_append, isLast] using notWhite lastDigit

theorem lt_of_readInt_eq_tooManyDigits {text : String} {count : Nat}
    (refused : readInt text = .error (.tooManyDigits count)) : 4300 < count := by
  unfold readInt at refused
  simp only at refused
  split at refused
  · cases refused
  · split at refused
    · next many =>
        cases refused
        exact many
    · split at refused <;> cases refused

/-- An integer is read if grouped digits, which are not too many, go on up to the end. -/
theorem readInt_eq_ok_iff_plain {text : String} {number : Int} :
    readInt text = .ok number ↔ ∃ negative body digits,
      splitSign (plain text) = (negative, body) ∧
      groupedDigits plainDigit? body = some digits ∧
      (∀ character ∈ body, character.isDigit || character == '_') ∧ digits.length ≤ 4300 ∧
      number = (if negative then -1 else 1) * (Nat.ofDigits 10 digits.reverse : Nat) := by
  have noRest (body : List Char) (inside : Char → Bool) :
      (body.dropWhile inside).isEmpty = true ↔ ∀ character ∈ body, inside character = true := by
    rw [List.isEmpty_iff, List.dropWhile_eq_nil_iff]
  have signed (negative : Bool) (magnitude : Int) :
      (if negative then -magnitude else magnitude) =
        (if negative then -1 else 1) * magnitude := by
    cases negative <;> simp
  rcases splitted : splitSign (plain text) with ⟨negative, body⟩
  simp only [readInt, splitted, value_eq_ofDigits]
  constructor
  · intro read
    split at read
    · cases read
    · next digits grouped =>
        split at read
        · cases read
        · split at read
          · cases read
          · next few all =>
              rw [Bool.not_eq_true', Bool.not_eq_false, noRest] at all
              rw [List.takeWhile_eq_self_iff.mpr all] at grouped
              cases read
              exact ⟨negative, body, digits, rfl, grouped, all, Nat.not_lt.mp few, signed ..⟩
  · rintro ⟨_, _, digits, ⟨⟩, grouped, all, few, rfl⟩
    rw [List.takeWhile_eq_self_iff.mpr all, grouped]
    simp only [digitLimit, if_neg (Nat.not_lt.mpr few), (noRest body _).mpr all]
    exact congrArg Except.ok (signed ..)

/-- The reader accepts the numerals of the grammar, each as the integer that it denotes. -/
theorem readInt_eq_ok_iff {text : String} {number : Int} :
    readInt text = .ok number ↔ Denotes text number := by
  rw [readInt_eq_ok_iff_plain]
  constructor
  · rintro ⟨negative, body, digits, splitted, grouped, -, few, rfl⟩
    obtain ⟨sign, isSign, parts⟩ := exists_isSign_of_splitSign splitted
    obtain ⟨before, after, trimmed, ends⟩ :=
      exists_append_trimWhere isPlainBlank (text.toList.map plainForm)
    rw [← plain, parts] at trimmed
    obtain ⟨front, back, whole, frontForm, rfl⟩ := List.map_eq_append_iff.mp trimmed
    obtain ⟨front, middle, rfl, rfl, middleForm⟩ := List.map_eq_append_iff.mp frontForm
    obtain ⟨sign, body, rfl, rfl, rfl⟩ := List.map_eq_append_iff.mp middleForm
    rw [groupedDigits_map_plainForm, groupedDigits_eq_some_iff] at grouped
    rw [← List.map_append, List.forall_mem_map] at ends
    refine .numeral whole ?_ (isSign_map_plainForm_iff.mp isSign) grouped few
    exact fun character isEnd => (isPlainBlank_plainForm character).mp (ends character isEnd)
  · rintro ⟨parts, white, isSign, grouped, few⟩
    refine ⟨_, _, _, ?_, ?_, isInside_of_areGrouped grouped, few, rfl⟩
    · rw [plain_eq_map parts white isSign grouped, splitSign_map_plainForm isSign grouped]
    · rw [groupedDigits_map_plainForm, groupedDigits_eq_some_iff.mpr grouped]

end Numeral

end GrammarTables
