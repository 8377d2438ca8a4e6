import GrammarTables.Json.Writer
import GrammarTables.Proofs.Text.EncodeError

/-!
# Values that can be written

Only numbers that are not finite and halves of pairs keep a value from being written.  A
value that has no real numbers, and whose texts consist of characters, has neither.
-/

namespace GrammarTables

/-- The text consists of characters. -/
def CodeText.IsWhole : CodeText → Prop
  | whole _ => True
  | broken _ => False

namespace Json

mutual

/-- The value has no real numbers, and its texts consist of characters. -/
def IsPlain : Json → Prop
  | real _ => False
  | text value => value.IsWhole
  | array items => ArePlain items
  | object members => MembersArePlain members
  | _ => True

/-- All items are plain. -/
def ArePlain : List Json → Prop
  | [] => True
  | item :: rest => item.IsPlain ∧ ArePlain rest

/-- The names and values of all members are plain. -/
def MembersArePlain : List (CodeText × Json) → Prop
  | [] => True
  | (name, value) :: rest => name.IsWhole ∧ value.IsPlain ∧ MembersArePlain rest

end

theorem arePlain_iff (items : List Json) : ArePlain items ↔ ∀ item ∈ items, item.IsPlain := by
  induction items with
  | nil => simp [ArePlain]
  | cons item rest ih => rw [ArePlain, ih, List.forall_mem_cons]

theorem membersArePlain_iff (members : List (CodeText × Json)) :
    MembersArePlain members ↔ ∀ member ∈ members, member.1.IsWhole ∧ member.2.IsPlain := by
  induction members with
  | nil => simp [MembersArePlain]
  | cons member rest ih => rw [MembersArePlain, ih, List.forall_mem_cons, and_assoc]

theorem areSendable_writtenCode {code : Nat} (notHalf : Text.isHalf code = false) :
    AreSendable (writtenCode code) := by
  rw [writtenCode]
  split
  · next letter _ => exact (areSendable_codePoints _).append (areSendable_map_toNat [letter])
  · split
    · exact (areSendable_codePoints _).append (areSendable_map_toNat _)
    · intro other isCode
      rwa [List.mem_singleton.mp isCode]

theorem areSendable_writtenText {text : CodeText} (isWhole : text.IsWhole) :
    AreSendable (writtenText text) := by
  cases text with
  | broken codes => exact isWhole.elim
  | whole value =>
      have inside : AreSendable ((Text.codePoints value).flatMap writtenCode) := by
        intro code member
        obtain ⟨origin, isOrigin, written⟩ := List.mem_flatMap.mp member
        exact areSendable_writtenCode (areSendable_codePoints value origin isOrigin) code written
      exact ((areSendable_codePoints _).append inside).append (areSendable_codePoints _)

mutual

theorem areSendable_written {value : Json} (plain : value.IsPlain) :
    AreSendable value.written := by
  cases value with
  | null => exact areSendable_codePoints _
  | boolean isTrue => cases isTrue <;> exact areSendable_codePoints _
  | integer number => exact areSendable_codePoints _
  | real number => exact plain.elim
  | text content => exact areSendable_writtenText plain
  | array items =>
      exact ((areSendable_codePoints _).append (areSendable_writtenItems plain)).append
        (areSendable_codePoints _)
  | object members =>
      exact ((areSendable_codePoints _).append (areSendable_writtenMembers plain)).append
        (areSendable_codePoints _)

theorem areSendable_writtenItems {items : List Json} (plain : ArePlain items) :
    AreSendable (writtenItems items) := by
  match items with
  | [] => exact nofun
  | [item] => exact areSendable_written plain.1
  | item :: next :: rest =>
      exact ((areSendable_written plain.1).append (areSendable_codePoints _)).append
        (areSendable_writtenItems plain.2)

theorem areSendable_writtenMembers {members : List (CodeText × Json)}
    (plain : MembersArePlain members) : AreSendable (writtenMembers members) := by
  match members with
  | [] => exact nofun
  | [(name, value)] =>
      exact ((areSendable_writtenText plain.1).append (areSendable_codePoints _)).append
        (areSendable_written plain.2.1)
  | (name, value) :: next :: rest =>
      exact ((((areSendable_writtenText plain.1).append (areSendable_codePoints _)).append
        (areSendable_written plain.2.1)).append (areSendable_codePoints _)).append
          (areSendable_writtenMembers plain.2.2)

end

mutual

theorem hasNotFinite_eq_false {value : Json} (plain : value.IsPlain) :
    value.hasNotFinite = false := by
  cases value with
  | real number => exact plain.elim
  | array items => exact anyNotFinite_eq_false plain
  | object members => exact anyMemberNotFinite_eq_false plain
  | null | boolean | integer | text => rfl

theorem anyNotFinite_eq_false {items : List Json} (plain : ArePlain items) :
    anyNotFinite items = false := by
  match items with
  | [] => rfl
  | item :: rest =>
      rw [anyNotFinite, hasNotFinite_eq_false plain.1, anyNotFinite_eq_false plain.2,
        Bool.or_false]

theorem anyMemberNotFinite_eq_false {members : List (CodeText × Json)}
    (plain : MembersArePlain members) : anyMemberNotFinite members = false := by
  match members with
  | [] => rfl
  | (name, value) :: rest =>
      rw [anyMemberNotFinite, hasNotFinite_eq_false plain.2.1,
        anyMemberNotFinite_eq_false plain.2.2, Bool.or_false]

end

/-- A plain value has a text. -/
theorem IsPlain.exists_write {value : Json} (plain : value.IsPlain) :
    ∃ text, value.write = .ok text := by
  have noError := (areSendable_written plain).error?_eq_none
  simp only [write, hasNotFinite_eq_false plain, Bool.false_eq_true, if_false, noError]
  exact ⟨_, rfl⟩

end Json

end GrammarTables
