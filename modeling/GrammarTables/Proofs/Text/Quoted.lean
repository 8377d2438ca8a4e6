import GrammarTables.Number.Numeral
import GrammarTables.Proofs.Number.Digits
import GrammarTables.Proofs.Text
import GrammarTables.Text.Quoted

/-!
# Quoted text is read back

A reader of quoted text goes from the opening mark to the first mark like it that no backslash
escapes.  It takes two, four or eight digits after a backslash for the code of a character, as
the letter in front of them says.  Everything that quoting writes is printable, so a quoted text
stays on its line, and it is read back whatever follows it.
-/

namespace GrammarTables.Text

/-! ## Reading -/

/-- Where a reader is between quotation marks. -/
inductive QuotePosition where
  | plain
  /-- After a backslash. -/
  | escape
  /-- In a code, of which another digit and then `more` are to come, with the value so far. -/
  | code (more value : Nat)

/-- How many digits of a code follow the letter of an escape. -/
def codeWidth? (letter : Char) : Option Nat :=
  if letter = 'x' then some 2
  else if letter = 'u' then some 4
  else if letter = 'U' then some 8
  else none

/-- The character that an escape without a code stands for. -/
def escapedFor (letter : Char) : Char :=
  if letter = 'n' then '\n'
  else if letter = 'r' then '\r'
  else if letter = 't' then '\t'
  else letter

/-- The characters up to the closing mark, and what follows it. -/
def readMarked (mark : Char) : QuotePosition → List Char → Option (List Char × List Char)
  | _, [] => none
  | .plain, character :: rest =>
    if character = mark then some ([], rest)
    else if character = '\\' then readMarked mark .escape rest
    else (readMarked mark .plain rest).map fun read => (character :: read.1, read.2)
  | .escape, letter :: rest =>
    match codeWidth? letter with
    | some width => readMarked mark (.code (width - 1) 0) rest
    | none => (readMarked mark .plain rest).map fun read => (escapedFor letter :: read.1, read.2)
  | .code more value, character :: rest =>
    match Numeral.digitInBase? 16 character with
    | none => none
    | some digit =>
      match more with
      | 0 => (readMarked mark .plain rest).map fun read =>
        (Char.ofNat (value * 16 + digit) :: read.1, read.2)
      | more + 1 => readMarked mark (.code more (value * 16 + digit)) rest

/-- The text between two quotation marks, and what follows it. -/
def readQuoted : List Char → Option (String × List Char)
  | [] => none
  | mark :: rest =>
    if mark = '\'' ∨ mark = '"' then
      (readMarked mark .plain rest).map fun read => (String.ofList read.1, read.2)
    else none

/-! ## Codes -/

theorem exists_of_mem_hexDigits {width value : Nat} {character : Char}
    (isIn : character ∈ hexDigits width value) : ∃ digit < 16, character = digit.digitChar := by
  induction width generalizing value with
  | zero => cases isIn
  | succ width ih =>
      rw [hexDigits] at isIn
      rcases List.mem_append.mp isIn with inFront | isLast
      · exact ih inFront
      · exact ⟨value % 16, Nat.mod_lt value (by decide), List.mem_singleton.mp isLast⟩

theorem digitInBase?_digitChar :
    ∀ digit < 16, Numeral.digitInBase? 16 digit.digitChar = some digit := by
  decide

/-- The digits of a code in front of others are taken into its value. -/
theorem readMarked_hexDigits (mark : Char) (width more before value : Nat) (rest : List Char) :
    readMarked mark (.code (more + width) before) (hexDigits width value ++ rest) =
      readMarked mark (.code more (before * 16 ^ width + value % 16 ^ width)) rest := by
  induction width generalizing more value rest with
  | zero => simp [hexDigits, Nat.mod_one]
  | succ width ih =>
      have last := digitInBase?_digitChar (value % 16) (Nat.mod_lt value (by decide))
      have sum : before * 16 ^ (width + 1) + value % 16 ^ (width + 1) =
          (before * 16 ^ width + value / 16 % 16 ^ width) * 16 + value % 16 := by
        rw [Nat.pow_succ, Nat.mul_comm (16 ^ width) 16, Nat.mod_mul, Nat.add_mul,
          Nat.mul_comm 16 (16 ^ width), ← Nat.mul_assoc]
        omega
      rw [sum, hexDigits, List.append_assoc, Nat.add_comm width, ← Nat.add_assoc,
        ih (more + 1) (value / 16), List.singleton_append]
      simp only [readMarked, last]

theorem readMarked_code (mark : Char) (width : Nat) {character : Char}
    (fits : character.toNat < 16 ^ (width + 1)) (rest : List Char) :
    readMarked mark (.code width 0) (hexDigits (width + 1) character.toNat ++ rest) =
      (readMarked mark .plain rest).map fun read => (character :: read.1, read.2) := by
  have last := digitInBase?_digitChar (character.toNat % 16) (Nat.mod_lt _ (by decide))
  have front := readMarked_hexDigits mark width 0 0 (character.toNat / 16)
    ((character.toNat % 16).digitChar :: rest)
  have fitsFront : character.toNat / 16 < 16 ^ width := by
    rw [Nat.div_lt_iff_lt_mul (by decide), ← Nat.pow_succ]
    exact fits
  rw [Nat.zero_add, Nat.zero_mul, Nat.zero_add, Nat.mod_eq_of_lt fitsFront] at front
  rw [hexDigits, List.append_assoc, List.singleton_append, front]
  simp only [readMarked, last, Nat.div_add_mod', Char.ofNat_toNat]

/-! ## Characters -/

theorem isMark_quoteMark (characters : List Char) :
    quoteMark characters = '\'' ∨ quoteMark characters = '"' := by
  rw [quoteMark]
  split
  · exact .inr rfl
  · exact .inl rfl

/-- The letter behind a backslash stands for a character, unless a code follows it. -/
theorem readMarked_escape {mark : Char} (notBackslash : '\\' ≠ mark) (letter : Char)
    (noCode : codeWidth? letter = none) (rest : List Char) :
    readMarked mark .plain ('\\' :: letter :: rest) =
      (readMarked mark .plain rest).map fun read => (escapedFor letter :: read.1, read.2) := by
  simp only [readMarked, notBackslash, noCode, if_false, if_true]

theorem readMarked_escapedCode {mark : Char} (notBackslash : '\\' ≠ mark)
    (character : Char) (rest : List Char) :
    readMarked mark .plain (escapedCode character.toNat ++ rest) =
      (readMarked mark .plain rest).map fun read => (character :: read.1, read.2) := by
  have ofWidth (letter : Char) (width : Nat) (isLetter : codeWidth? letter = some (width + 1))
      (fits : character.toNat < 16 ^ (width + 1)) :
      readMarked mark .plain
          (('\\' :: letter :: hexDigits (width + 1) character.toNat) ++ rest) =
        (readMarked mark .plain rest).map fun read => (character :: read.1, read.2) := by
    simp only [List.cons_append, readMarked, notBackslash, isLetter, if_false, if_true,
      Nat.add_sub_cancel]
    exact readMarked_code mark width fits rest
  rw [escapedCode]
  split
  · next below => exact ofWidth 'x' 1 rfl below
  · split
    · next below => exact ofWidth 'u' 3 rfl below
    · have inRange : character.toNat < 0xD800 ∨
          0xDFFF < character.toNat ∧ character.toNat < 0x110000 := character.valid
      exact ofWidth 'U' 7 rfl (by omega)

/-- What is written for a character is read as that character and no further. -/
theorem readMarked_quotedChar {mark : Char} (isMark : mark = '\'' ∨ mark = '"')
    (character : Char) (rest : List Char) :
    readMarked mark .plain (quotedChar mark character ++ rest) =
      (readMarked mark .plain rest).map fun read => (character :: read.1, read.2) := by
  have notBackslash : '\\' ≠ mark := by rcases isMark with rfl | rfl <;> decide
  have noLetter : ∀ special, special = mark ∨ special = '\\' →
      codeWidth? special = none ∧ escapedFor special = special := by
    rcases isMark with rfl | rfl <;> rintro _ (rfl | rfl) <;> decide
  -- The cases are those in which characters are written.
  rw [quotedChar]
  split
  · next special =>
      simp only [Bool.or_eq_true, beq_iff_eq] at special
      have read := readMarked_escape notBackslash character (noLetter character special).1 rest
      rwa [(noLetter character special).2] at read
  · next ordinary =>
      simp only [Bool.or_eq_true, beq_iff_eq, not_or] at ordinary
      split
      · next isFeed =>
          rw [eq_of_beq isFeed]
          exact readMarked_escape notBackslash 'n' rfl rest
      · split
        · next isReturn =>
            rw [eq_of_beq isReturn]
            exact readMarked_escape notBackslash 'r' rfl rest
        · split
          · next isTab =>
              rw [eq_of_beq isTab]
              exact readMarked_escape notBackslash 't' rfl rest
          · split
            · simp only [List.singleton_append, readMarked, ordinary, if_false]
            · exact readMarked_escapedCode notBackslash character rest

/-! ## Texts -/

theorem readMarked_flatMap {mark : Char} (isMark : mark = '\'' ∨ mark = '"')
    (characters rest : List Char) :
    readMarked mark .plain (characters.flatMap (quotedChar mark) ++ mark :: rest) =
      some (characters, rest) := by
  induction characters with
  | nil => simp [readMarked]
  | cons character others ih =>
      rw [List.flatMap_cons, List.append_assoc, readMarked_quotedChar isMark, ih]
      rfl

/-- A quoted text is read back whatever its text and whatever follows. -/
theorem readQuoted_quoted (text : String) (rest : List Char) :
    readQuoted ((quoted text).toList ++ rest) = some (text, rest) := by
  have isMark := isMark_quoteMark text.toList
  rw [toList_quoted, quotedChars, List.cons_append, List.cons_append, List.append_assoc,
    List.singleton_append]
  simp only [readQuoted, isMark, if_true, readMarked_flatMap isMark, Option.map_some,
    String.ofList_toList]

/-! ## Printable characters -/

/-- All characters of the text are printable. -/
def IsShowable (text : String) : Prop := ∀ character ∈ text.toList, isPrintable character = true

instance (text : String) : Decidable (IsShowable text) :=
  decidable_of_iff (text.toList.all isPrintable = true) List.all_eq_true

theorem isPrintable_digitChar : ∀ digit < 16, isPrintable digit.digitChar = true := by decide

theorem isPrintable_of_mem_escapedCode {code : Nat} {character : Char}
    (isIn : character ∈ escapedCode code) : isPrintable character = true := by
  have ofWidth {letter : Char} {width : Nat} (isLetter : isPrintable letter = true)
      (isIn : character ∈ '\\' :: letter :: hexDigits width code) :
      isPrintable character = true := by
    rcases List.mem_cons.mp isIn with rfl | isIn
    · decide
    · rcases List.mem_cons.mp isIn with rfl | isIn
      · exact isLetter
      · obtain ⟨digit, small, rfl⟩ := exists_of_mem_hexDigits isIn
        exact isPrintable_digitChar digit small
  rw [escapedCode] at isIn
  split at isIn
  · exact ofWidth (by decide) isIn
  · split at isIn
    · exact ofWidth (by decide) isIn
    · exact ofWidth (by decide) isIn

theorem isPrintable_of_mem_quotedChar {mark : Char} (isMark : mark = '\'' ∨ mark = '"')
    {character written : Char} (isIn : written ∈ quotedChar mark character) :
    isPrintable written = true := by
  have ofPair {letter : Char} (isLetter : isPrintable letter = true)
      (isIn : written ∈ ['\\', letter]) : isPrintable written = true := by
    rcases List.mem_cons.mp isIn with rfl | isIn
    · decide
    · rw [List.mem_singleton.mp isIn]
      exact isLetter
  rw [quotedChar] at isIn
  split at isIn
  · next special =>
      simp only [Bool.or_eq_true, beq_iff_eq] at special
      apply ofPair _ isIn
      rcases special with rfl | rfl
      · rcases isMark with rfl | rfl <;> decide
      · decide
  · split at isIn
    · exact ofPair (by decide) isIn
    · split at isIn
      · exact ofPair (by decide) isIn
      · split at isIn
        · exact ofPair (by decide) isIn
        · split at isIn
          · next printable =>
              rw [List.mem_singleton.mp isIn]
              exact printable
          · exact isPrintable_of_mem_escapedCode isIn

theorem isShowable_quoted (text : String) : IsShowable (quoted text) := by
  have isMark := isMark_quoteMark text.toList
  have markPrintable : isPrintable (quoteMark text.toList) = true := by
    rcases isMark with mark | mark <;> rw [mark] <;> decide
  intro character isIn
  rw [toList_quoted, quotedChars, List.cons_append, List.mem_cons, List.mem_append,
    List.mem_singleton] at isIn
  rcases isIn with rfl | inText | rfl
  · exact markPrintable
  · obtain ⟨original, -, written⟩ := List.mem_flatMap.mp inText
    exact isPrintable_of_mem_quotedChar isMark written
  · exact markPrintable

theorem IsShowable.append {left right : String} (leftShowable : IsShowable left)
    (rightShowable : IsShowable right) : IsShowable (left ++ right) := by
  rw [IsShowable, String.toList_append, List.forall_mem_append]
  exact ⟨leftShowable, rightShowable⟩

theorem isPrintable_of_isDigit {character : Char} (isDigit : character.isDigit = true) :
    isPrintable character = true := by
  obtain ⟨atLeast, atMost⟩ := Char.isDigit_iff_toNat.mp isDigit
  simp only [isPrintable]
  rw [if_pos (Nat.lt_of_le_of_lt atMost (by decide)), decide_eq_true_eq]
  exact Nat.le_trans (by decide) atLeast

theorem isShowable_toString_nat (number : Nat) : IsShowable (toString number) := by
  intro digit isIn
  exact isPrintable_of_isDigit ((isDecimal_toString number).plain digit isIn)

theorem isShowable_toString_int (number : Int) : IsShowable (toString number) := by
  cases number with
  | ofNat magnitude => exact isShowable_toString_nat magnitude
  | negSucc magnitude =>
      exact IsShowable.append (by decide) (isShowable_toString_nat (magnitude + 1))

theorem isShowable_intercalate {separator : String} {texts : List String}
    (separatorShowable : IsShowable separator) (showable : ∀ text ∈ texts, IsShowable text) :
    IsShowable (separator.intercalate texts) := by
  cases texts with
  | nil => exact nofun
  | cons first rest =>
      rw [List.forall_mem_cons] at showable
      rw [IsShowable, toList_intercalate_cons, List.forall_mem_append, List.forall_mem_flatMap]
      refine ⟨showable.1, fun text isText => ?_⟩
      rw [List.forall_mem_append]
      exact ⟨separatorShowable, showable.2 text isText⟩

end GrammarTables.Text
