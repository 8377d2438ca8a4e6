import GrammarTables.Text.Utf8
import Mathlib.Tactic.SplitIfs

/-!
# Texts that are written as UTF-8

The bytes of a text are read back as the text, unless it has carriage returns: those are
read as line feeds.
-/

namespace GrammarTables.Text.Utf8

/-! ## Bytes as lists -/

theorem toList_loop_eq (bytes : ByteArray) (position : Nat) (seen : List UInt8) :
    ByteArray.toList.loop bytes position seen =
      seen.reverse ++ bytes.data.toList.drop position := by
  fun_induction ByteArray.toList.loop bytes position seen with
  | case1 position seen inside ih =>
      have inList : position < bytes.data.toList.length := by simpa using inside
      rw [ih, List.drop_eq_getElem_cons inList]
      simp [ByteArray.get!, inside]
  | case2 position seen outside =>
      rw [List.drop_eq_nil_of_le (by simpa using Nat.le_of_not_lt outside), List.append_nil]

theorem toList_toUTF8 (text : String) :
    text.toUTF8.toList = text.toList.flatMap String.utf8EncodeChar := by
  have encoded : text.toByteArray = text.toList.utf8Encode := by
    rw [← String.toByteArray_ofList, String.ofList_toList]
  rw [ByteArray.toList, toList_loop_eq, List.reverse_nil, List.nil_append, List.drop_zero,
    String.toUTF8, encoded, List.utf8Encode, List.data_toByteArray]

/-! ## Sequences of bytes -/

section Sequence

variable (first : UInt8) (second : Nat)

theorem shape?_of_lt (single : first.toNat < 0x80) : shape? first = some ([], first.toNat) := by
  simp [shape?, single]

theorem shape?_two (low : 0xC2 ≤ first.toNat) (high : first.toNat < 0xE0) :
    shape? first = some ([(0x80, 0xBF)], first.toNat - 0xC0) := by
  have : ¬first.toNat < 0x80 := by omega
  have : ¬first.toNat < 0xC2 := by omega
  simp [shape?, *]

/-- The second of three bytes is such that they could not be fewer, and are no half of a
pair. -/
theorem shape?_three (low : 0xE0 ≤ first.toNat) (high : first.toNat < 0xF0)
    (continues : 0x80 ≤ second ∧ second ≤ 0xBF) (notFewer : first.toNat = 0xE0 → 0xA0 ≤ second)
    (notHalf : first.toNat = 0xED → second ≤ 0x9F) :
    ∃ range : Nat × Nat, shape? first = some ([range, (0x80, 0xBF)], first.toNat - 0xE0) ∧
      range.1 ≤ second ∧ second ≤ range.2 := by
  have notSingle : ¬first.toNat < 0x80 := by omega
  have notStart : ¬first.toNat < 0xC2 := by omega
  have notTwo : ¬first.toNat < 0xE0 := by omega
  by_cases least : first.toNat = 0xE0
  · exact ⟨(0xA0, 0xBF), by simp [shape?, least], notFewer least, continues.2⟩
  · by_cases halves : first.toNat = 0xED
    · exact ⟨(0x80, 0x9F), by simp [shape?, halves], continues.1, notHalf halves⟩
    · exact ⟨(0x80, 0xBF),
        by simp [shape?, notSingle, notStart, notTwo, least, halves, high], continues⟩

/-- The second of four bytes is such that they could not be fewer, and are not beyond all
characters. -/
theorem shape?_four (low : 0xF0 ≤ first.toNat) (high : first.toNat ≤ 0xF4)
    (continues : 0x80 ≤ second ∧ second ≤ 0xBF) (notFewer : first.toNat = 0xF0 → 0x90 ≤ second)
    (notBeyond : first.toNat = 0xF4 → second ≤ 0x8F) :
    ∃ range : Nat × Nat,
      shape? first = some ([range, (0x80, 0xBF), (0x80, 0xBF)], first.toNat - 0xF0) ∧
        range.1 ≤ second ∧ second ≤ range.2 := by
  have notSingle : ¬first.toNat < 0x80 := by omega
  have notStart : ¬first.toNat < 0xC2 := by omega
  have notTwo : ¬first.toNat < 0xE0 := by omega
  have notThree : ¬first.toNat < 0xF0 := by omega
  have notHalf : first.toNat ≠ 0xED := by omega
  have notLeastOfThree : first.toNat ≠ 0xE0 := by omega
  by_cases least : first.toNat = 0xF0
  · exact ⟨(0x90, 0xBF), by simp [shape?, least], notFewer least, continues.2⟩
  · by_cases greatest : first.toNat = 0xF4
    · exact ⟨(0x80, 0x8F), by simp [shape?, greatest], continues.1, notBeyond greatest⟩
    · have isBelow : first.toNat < 0xF4 := by omega
      exact ⟨(0x80, 0xBF), by simp [shape?, notSingle, notStart, notTwo, notThree, notHalf,
        notLeastOfThree, least, isBelow], continues⟩

theorem decodeFrom_continue {sequence : Sequence} {range : Nat × Nat} {more : List (Nat × Nat)}
    (expected : sequence.expected = range :: more) {byte : UInt8}
    (inRange : range.1 ≤ byte.toNat ∧ byte.toNat ≤ range.2) (position : Nat)
    (rest : List UInt8) :
    decodeFrom position (some sequence) (byte :: rest) =
      if more.isEmpty then
        (decodeFrom (position + 1) none rest).map
          (Char.ofNat (sequence.value * 64 + (byte.toNat - 0x80)) :: ·)
      else
        decodeFrom (position + 1)
          (some ⟨sequence.position, sequence.byte, sequence.count + 1,
            sequence.value * 64 + (byte.toNat - 0x80), more⟩) rest := by
  simp [decodeFrom, expected, inRange]

end Sequence

/-! ## Characters -/

theorem toNat_ofNat_of_lt {value : Nat} (isByte : value < 256) :
    (UInt8.ofNat value).toNat = value := by
  simp [Nat.mod_eq_of_lt isByte]

theorem decodeFrom_two {code : Nat} (low : 0x7F < code) (high : code ≤ 0x7FF)
    (position : Nat) (rest : List UInt8) :
    decodeFrom position none
        (UInt8.ofNat (code / 64 % 32 + 192) :: UInt8.ofNat (code % 64 + 128) :: rest) =
      (decodeFrom (position + 2) none rest).map (Char.ofNat code :: ·) := by
  have first : (UInt8.ofNat (code / 64 % 32 + 192)).toNat = code / 64 + 192 := by
    rw [toNat_ofNat_of_lt (by omega)]
    omega
  have second : (UInt8.ofNat (code % 64 + 128)).toNat = code % 64 + 128 :=
    toNat_ofNat_of_lt (by omega)
  have shape := shape?_two (UInt8.ofNat (code / 64 % 32 + 192)) (by omega) (by omega)
  have value : (code / 64 + 192 - 0xC0) * 64 + (code % 64 + 128 - 0x80) = code := by omega
  rw [decodeFrom]
  simp only [shape]
  rw [decodeFrom_continue rfl (by omega)]
  simp only [List.isEmpty_nil, if_true, first, second, value]

theorem decodeFrom_three {code : Nat} (low : 0x7FF < code) (high : code ≤ 0xFFFF)
    (notHalf : code < 0xD800 ∨ 0xDFFF < code) (position : Nat) (rest : List UInt8) :
    decodeFrom position none
        (UInt8.ofNat (code / 4096 % 16 + 224) :: UInt8.ofNat (code / 64 % 64 + 128) ::
          UInt8.ofNat (code % 64 + 128) :: rest) =
      (decodeFrom (position + 3) none rest).map (Char.ofNat code :: ·) := by
  have first : (UInt8.ofNat (code / 4096 % 16 + 224)).toNat = code / 4096 + 224 := by
    rw [toNat_ofNat_of_lt (by omega)]
    omega
  have second : (UInt8.ofNat (code / 64 % 64 + 128)).toNat = code / 64 % 64 + 128 :=
    toNat_ofNat_of_lt (by omega)
  have third : (UInt8.ofNat (code % 64 + 128)).toNat = code % 64 + 128 :=
    toNat_ofNat_of_lt (by omega)
  obtain ⟨range, shape, inRange⟩ := shape?_three
    (UInt8.ofNat (code / 4096 % 16 + 224)) (code / 64 % 64 + 128)
    (by omega) (by omega) (by omega) (by omega) (by omega)
  have value : ((code / 4096 + 224 - 0xE0) * 64 + (code / 64 % 64 + 128 - 0x80)) * 64 +
      (code % 64 + 128 - 0x80) = code := by omega
  rw [decodeFrom]
  simp only [shape]
  rw [decodeFrom_continue rfl (by omega)]
  simp only [List.isEmpty_cons, Bool.false_eq_true, if_false]
  rw [decodeFrom_continue rfl (by omega)]
  simp only [List.isEmpty_nil, if_true, first, second, third, value]

theorem decodeFrom_four {code : Nat} (low : 0xFFFF < code) (high : code < 0x110000)
    (position : Nat) (rest : List UInt8) :
    decodeFrom position none
        (UInt8.ofNat (code / 262144 % 8 + 240) :: UInt8.ofNat (code / 4096 % 64 + 128) ::
          UInt8.ofNat (code / 64 % 64 + 128) :: UInt8.ofNat (code % 64 + 128) :: rest) =
      (decodeFrom (position + 4) none rest).map (Char.ofNat code :: ·) := by
  have first : (UInt8.ofNat (code / 262144 % 8 + 240)).toNat = code / 262144 + 240 := by
    rw [toNat_ofNat_of_lt (by omega)]
    omega
  have second : (UInt8.ofNat (code / 4096 % 64 + 128)).toNat = code / 4096 % 64 + 128 :=
    toNat_ofNat_of_lt (by omega)
  have third : (UInt8.ofNat (code / 64 % 64 + 128)).toNat = code / 64 % 64 + 128 :=
    toNat_ofNat_of_lt (by omega)
  have fourth : (UInt8.ofNat (code % 64 + 128)).toNat = code % 64 + 128 :=
    toNat_ofNat_of_lt (by omega)
  obtain ⟨range, shape, inRange⟩ := shape?_four
    (UInt8.ofNat (code / 262144 % 8 + 240)) (code / 4096 % 64 + 128)
    (by omega) (by omega) (by omega) (by omega) (by omega)
  have value : (((code / 262144 + 240 - 0xF0) * 64 + (code / 4096 % 64 + 128 - 0x80)) * 64 +
      (code / 64 % 64 + 128 - 0x80)) * 64 + (code % 64 + 128 - 0x80) = code := by omega
  rw [decodeFrom]
  simp only [shape]
  rw [decodeFrom_continue rfl (by omega)]
  simp only [List.isEmpty_cons, Bool.false_eq_true, if_false]
  rw [decodeFrom_continue rfl (by omega)]
  simp only [List.isEmpty_cons, Bool.false_eq_true, if_false]
  rw [decodeFrom_continue rfl (by omega)]
  simp only [List.isEmpty_nil, if_true, first, second, third, fourth, value]

/-- The bytes of a character are read back as the character. -/
theorem decodeFrom_utf8EncodeChar (character : Char) (position : Nat) (rest : List UInt8) :
    ∃ next, decodeFrom position none (String.utf8EncodeChar character ++ rest) =
      (decodeFrom next none rest).map (character :: ·) := by
  have isChar : character.val.toNat < 0xD800 ∨
      0xDFFF < character.val.toNat ∧ character.val.toNat < 0x110000 := character.valid
  have same : Char.ofNat character.val.toNat = character := Char.ofNat_toNat character
  rw [String.utf8EncodeChar]
  -- The cases are the lengths of the sequence.
  split
  · have byte : (UInt8.ofNat character.val.toNat).toNat = character.val.toNat :=
      toNat_ofNat_of_lt (by omega)
    have shape := shape?_of_lt (UInt8.ofNat character.val.toNat) (by omega)
    refine ⟨position + 1, ?_⟩
    rw [List.cons_append, List.nil_append, decodeFrom]
    simp only [shape, byte, same]
  · split
    · exact ⟨_, (decodeFrom_two (by omega) (by omega) position rest).trans (by rw [same])⟩
    · split
      · exact ⟨_, (decodeFrom_three (by omega) (by omega) (by omega) position rest).trans
          (by rw [same])⟩
      · exact ⟨_, (decodeFrom_four (by omega) (by omega) position rest).trans (by rw [same])⟩

theorem decodeFrom_flatMap_utf8EncodeChar (characters : List Char) (position : Nat) :
    decodeFrom position none (characters.flatMap String.utf8EncodeChar) = .ok characters := by
  induction characters generalizing position with
  | nil => rfl
  | cons character rest ih =>
      obtain ⟨next, decoded⟩ := decodeFrom_utf8EncodeChar character position
        (rest.flatMap String.utf8EncodeChar)
      rw [List.flatMap_cons, decoded, ih]
      rfl

/-! ## Texts -/

theorem normalizeLines_eq_self {characters : List Char} (noReturns : '\r' ∉ characters) :
    normalizeLines characters = characters := by
  induction characters with
  | nil => rfl
  | cons character rest ih =>
      rw [List.mem_cons, not_or] at noReturns
      have other : character ≠ '\r' := Ne.symm noReturns.1
      rw [normalizeLines, ih noReturns.2]
      · simp [other]
      · intro _ isReturn
        exact absurd isReturn other

/-- A text without carriage returns is read from its bytes as it is. -/
theorem readText_toUTF8 {text : String} (noReturns : '\r' ∉ text.toList) :
    readText text.toUTF8.toList = .ok text := by
  rw [readText, toList_toUTF8, decodeFrom_flatMap_utf8EncodeChar]
  change Except.ok (String.ofList (normalizeLines text.toList)) = .ok text
  rw [normalizeLines_eq_self noReturns, String.ofList_toList]

end GrammarTables.Text.Utf8
