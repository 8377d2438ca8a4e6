import GrammarTables.Text.EncodeError
import Mathlib.Data.List.TakeWhile

/-!
# Text that can be sent

Pages, answers and files take every character.  What keeps a text from being sent is the
first run of halves in it, and the error says where that run is.
-/

namespace GrammarTables

/-! ## Code points by their numbers -/

/-- Code points that can all be sent in pages and answers. -/
def AreSendable (codes : List Nat) : Prop := ∀ code ∈ codes, Text.isHalf code = false

theorem AreSendable.append {left right : List Nat} (leftSendable : AreSendable left)
    (rightSendable : AreSendable right) : AreSendable (left ++ right) := by
  intro code member
  rcases List.mem_append.mp member with inLeft | inRight
  · exact leftSendable code inLeft
  · exact rightSendable code inRight

theorem isHalf_toNat (character : Char) : Text.isHalf character.toNat = false := by
  have isChar : character.toNat < 0xD800 ∨
      0xDFFF < character.toNat ∧ character.toNat < 0x110000 := character.valid
  simp only [Text.isHalf, Bool.and_eq_false_iff, decide_eq_false_iff_not]
  omega

theorem areSendable_map_toNat (characters : List Char) :
    AreSendable (characters.map Char.toNat) := by
  intro code member
  obtain ⟨character, -, rfl⟩ := List.mem_map.mp member
  exact isHalf_toNat character

theorem areSendable_codePoints (text : String) : AreSendable (Text.codePoints text) :=
  areSendable_map_toNat text.toList

theorem AreSendable.error?_eq_none {codes : List Nat} (sendable : AreSendable codes) :
    Text.Charset.utf8.error? codes = none := by
  have allTaken : codes.takeWhile (fun code => !Text.Charset.utf8.refuses code) = codes := by
    rw [List.takeWhile_eq_self_iff]
    intro code member
    exact (Bool.not_eq_true' _).mpr (sendable code member)
  rw [Text.Charset.error?, allTaken, List.drop_length]

namespace Text

namespace CodePoint

theorem toText_append (left right : List CodePoint) :
    toText (left ++ right) = toText left ++ toText right := by
  rw [toText, List.filterMap_append, String.ofList_append]
  rfl

theorem isHalf_toNat_eq_isNone (point : CodePoint) :
    isHalf point.toNat = point.char?.isNone := by
  cases point with
  | char value => exact isHalf_toNat value
  | half code isHalf => exact isHalf

/-- The code points are characters, none of which is half of a pair. -/
def AreCharacters (points : List CodePoint) : Prop := ∀ point ∈ points, point.char? ≠ none

theorem AreCharacters.areSendable {points : List CodePoint} (characters : AreCharacters points) :
    AreSendable (points.map toNat) := by
  intro code member
  obtain ⟨point, isIn, rfl⟩ := List.mem_map.mp member
  rw [point.isHalf_toNat_eq_isNone, Option.isNone_eq_false_iff, Option.isSome_iff_ne_none]
  exact characters point isIn

theorem areCharacters_ofText (text : String) : AreCharacters (ofText text) := by
  intro point member
  obtain ⟨value, -, rfl⟩ := List.mem_map.mp member
  exact Option.some_ne_none value

/-- Characters are the code points of their text. -/
theorem ofText_toText {points : List CodePoint} (characters : AreCharacters points) :
    ofText (toText points) = points := by
  rw [ofText, toText, String.toList_ofList]
  induction points with
  | nil => rfl
  | cons point rest ih =>
      obtain ⟨here, others⟩ := List.forall_mem_cons.mp characters
      cases point with
      | char value => exact congrArg (char value :: ·) (ih others)
      | half code isHalf => exact absurd rfl here

end CodePoint

/-- The error is at the first run of halves among the code points: only characters are in
front of the run, which ends with the code points or at another character. -/
structure EncodeError.IsFirstRun (points : List CodePoint) (error : EncodeError) : Prop where
  charset_eq : error.charset = .utf8
  exists_run : ∃ front first others behind,
    points = front ++ (first :: others ++ behind) ∧
    CodePoint.AreCharacters front ∧
    (∀ point ∈ first :: others, point.char? = none) ∧
    (∀ point ∈ behind.head?, point.char? ≠ none) ∧
    error.position = front.length ∧ error.code = first.toNat ∧ error.count = others.length + 1

theorem encode_of_areCharacters {points : List CodePoint}
    (characters : CodePoint.AreCharacters points) :
    Charset.utf8.encode points = .ok (CodePoint.toText points) := by
  rw [Charset.encode, characters.areSendable.error?_eq_none]

theorem exists_encode_eq_error {points : List CodePoint}
    (hasHalf : ∃ point ∈ points, point.char? = none) :
    ∃ error, Charset.utf8.encode points = .error error ∧ error.IsFirstRun points := by
  obtain ⟨first, found⟩ : ∃ first, points.find? (fun point => point.char?.isNone) = some first := by
    rw [← Option.isSome_iff_exists, List.find?_isSome]
    simpa only [Option.isNone_iff_eq_none] using hasHalf
  obtain ⟨isNone, front, rest, rfl, notNone⟩ := List.find?_eq_some_iff_append.mp found
  have characters : CodePoint.AreCharacters front := by
    intro point member isNone
    have isSome := notNone point member
    rw [isNone] at isSome
    exact absurd isSome (by decide)
  have sound : ((front ++ first :: rest).map CodePoint.toNat).takeWhile
      (fun code => !Charset.utf8.refuses code) = front.map CodePoint.toNat := by
    have refused : Charset.utf8.refuses first.toNat = true := by
      rw [← isNone]
      exact first.isHalf_toNat_eq_isNone
    rw [List.map_append, List.takeWhile_append_of_pos, List.map_cons,
      List.takeWhile_cons_of_neg (by rw [refused]; decide), List.append_nil]
    intro code member
    exact (Bool.not_eq_true' _).mpr (characters.areSendable code member)
  have run : ((rest.map CodePoint.toNat).takeWhile Charset.utf8.refuses).length =
      (rest.takeWhile fun point => point.char?.isNone).length := by
    rw [List.takeWhile_map, List.length_map]
    congr 2
    funext point
    exact point.isHalf_toNat_eq_isNone
  refine ⟨⟨.utf8, front.length, first.toNat,
    (rest.takeWhile fun point => point.char?.isNone).length + 1⟩, ?_, rfl, ?_⟩
  · rw [Charset.encode, Charset.error?, sound]
    simp [run]
  · refine ⟨front, first, rest.takeWhile fun point => point.char?.isNone,
      rest.dropWhile fun point => point.char?.isNone, ?_, characters, ?_, ?_, rfl, rfl, rfl⟩
    · rw [List.cons_append, List.takeWhile_append_dropWhile]
    · rw [List.forall_mem_cons]
      refine ⟨Option.isNone_iff_eq_none.mp isNone, ?_⟩
      intro point member
      have taken := List.all_eq_true.mp List.all_takeWhile point member
      exact Option.isNone_iff_eq_none.mp taken
    · intro point isFirst isNone
      have notDropped := List.head?_dropWhile_not (fun point : CodePoint => point.char?.isNone)
        rest
      rw [Option.mem_def.mp isFirst] at notDropped
      simp [isNone] at notDropped

end Text

end GrammarTables
