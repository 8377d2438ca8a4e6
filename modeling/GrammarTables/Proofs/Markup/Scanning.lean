import GrammarTables.Markup.Token

/-!
# Tags and texts as they are scanned

Where the scanner is inside a run of text, it can be told from the next characters alone
which tokens they add: characters without an angle bracket go on with the run, and a tag
ends it.  Text without ampersands stands for itself.
-/

namespace GrammarTables.Markup

/-! ## References -/

/-- Characters without an ampersand are no part of a reference. -/
theorem Reference.foldl_step_of_notMem {characters : List Char} (plain : '&' ∉ characters)
    (decoded : List Char) :
    characters.foldl State.step ⟨decoded, .none⟩ = ⟨characters.reverse ++ decoded, .none⟩ := by
  induction characters generalizing decoded with
  | nil => rfl
  | cons character rest ih =>
      simp only [List.mem_cons, not_or] at plain
      have taken : State.step ⟨decoded, .none⟩ character = ⟨character :: decoded, .none⟩ := by
        simp [State.step, State.plain, Ne.symm plain.1]
      rw [List.foldl_cons, taken, ih plain.2]
      simp

theorem Reference.decode_of_notMem {characters : List Char} (plain : '&' ∉ characters) :
    decode characters = characters := by
  simp [decode, foldl_step_of_notMem plain, Pending.flush]

namespace Scanner

/-! ## Text -/

@[simp] theorem withText_nil (tokens : List Token) : withText tokens [] = tokens := rfl

theorem foldl_step_text {characters : List Char} (noTag : '<' ∉ characters)
    (tokens : List Token) (run : List Char) :
    characters.foldl step ⟨tokens, .content run⟩ =
      ⟨tokens, .content (characters.reverse ++ run)⟩ := by
  induction characters generalizing run with
  | nil => rfl
  | cons character rest ih =>
      simp only [List.mem_cons, not_or] at noTag
      have taken : step ⟨tokens, .content run⟩ character =
          ⟨tokens, .content (character :: run)⟩ := by
        simp [step, Ne.symm noTag.1]
      rw [List.foldl_cons, taken, ih noTag.2]
      simp

/-! ## Tags -/

/-- Whether a character of the name of a tag is kept as it is. -/
def isNameCharacter (character : Char) : Bool :=
  !isTagBlank character && character != '/' && character != '>' &&
    character.toLower == character

/-- Whether the name of an element is scanned as it is written: it begins with a letter, all
its letters are small, and nothing in it ends a name. -/
def isTagName (name : String) : Bool :=
  match name.toList with
  | first :: rest => first.isAlpha && isNameCharacter first && rest.all isNameCharacter
  | [] => false

theorem toLower_of_isNameCharacter {character : Char}
    (kept : isNameCharacter character = true) : character.toLower = character := by
  simp only [isNameCharacter, Bool.and_eq_true, beq_iff_eq] at kept
  exact kept.2

theorem step_tagName {character : Char} (kept : isNameCharacter character = true)
    (tokens : List Token) (closing : Bool) (name : List Char) :
    step ⟨tokens, .tagName closing name⟩ character =
      ⟨tokens, .tagName closing (character :: name)⟩ := by
  have small := toLower_of_isNameCharacter kept
  simp only [isNameCharacter, Bool.and_eq_true, Bool.not_eq_true', bne_iff_ne, ne_eq] at kept
  obtain ⟨⟨⟨notBlank, notSlash⟩, notEnd⟩, -⟩ := kept
  simp [step, notBlank, notSlash, notEnd, small]

/-- After a tag that does not open an element with raw text a run of text may begin. -/
theorem endTag_eq (tokens : List Token) {tag : PartialTag}
    (notRaw : tag.closing = true ∨ tag.name ∉ rawTextElements) :
    endTag tokens tag false = ⟨tag.toToken false :: tokens, .content []⟩ := by
  rcases notRaw with closing | notRaw
  · simp [endTag, closing]
  · simp [endTag, notRaw]

/-- The rest of a tag without attributes, once the first letter of its name has been read. -/
theorem foldl_step_tagRest {rest : List Char} (kept : rest.all isNameCharacter = true)
    (tokens : List Token) (closing : Bool) (name : List Char) :
    (rest ++ ['>']).foldl step ⟨tokens, .tagName closing name⟩ =
      endTag tokens ⟨closing, String.ofList (name.reverse ++ rest), []⟩ false := by
  induction rest generalizing name with
  | nil =>
      rw [List.append_nil]
      rfl
  | cons character rest ih =>
      obtain ⟨here, others⟩ := Bool.and_eq_true_iff.mp kept
      rw [List.cons_append, List.foldl_cons, step_tagName here, ih others]
      simp

/-- The characters of a start tag without attributes. -/
def startTag (name : String) : List Char := '<' :: (name.toList ++ ['>'])

def closingTag (name : String) : List Char := '<' :: '/' :: (name.toList ++ ['>'])

/-- Wherever the characters follow a run of text, they are scanned as the token. -/
def ScansAs (characters : List Char) (token : Token) : Prop :=
  ∀ tokens run, characters.foldl step ⟨tokens, .content run⟩ =
    ⟨token :: withText tokens run, .content []⟩

theorem exists_of_isTagName {name : String} (named : isTagName name = true) :
    ∃ first rest, name = String.ofList (first :: rest) ∧ first.isAlpha = true ∧
      first.toLower = first ∧ rest.all isNameCharacter = true := by
  unfold isTagName at named
  split at named
  · next first rest nameEq =>
      simp only [Bool.and_eq_true] at named
      obtain ⟨⟨letter, kept⟩, restKept⟩ := named
      exact ⟨first, rest, by rw [← nameEq, String.ofList_toList], letter,
        toLower_of_isNameCharacter kept, restKept⟩
  · cases named

theorem scansAs_startTag {name : String} (named : isTagName name = true)
    (notRaw : name ∉ rawTextElements) :
    ScansAs (startTag name) (.startTag name [] false) := by
  intro tokens run
  obtain ⟨first, rest, rfl, letter, small, kept⟩ := exists_of_isTagName named
  have opened : step (step ⟨tokens, .content run⟩ '<') first =
      ⟨withText tokens run, .tagName false [first]⟩ := by
    simp [step, letter, small]
  rw [startTag, String.toList_ofList, List.cons_append, List.foldl_cons, List.foldl_cons,
    opened, foldl_step_tagRest kept]
  exact endTag_eq _ (.inr notRaw)

theorem scansAs_closingTag {name : String} (named : isTagName name = true) :
    ScansAs (closingTag name) (.endTag name) := by
  intro tokens run
  obtain ⟨first, rest, rfl, letter, small, kept⟩ := exists_of_isTagName named
  have opened : step (step (step ⟨tokens, .content run⟩ '<') '/') first =
      ⟨withText tokens run, .tagName true [first]⟩ := by
    simp [step, letter, small]
  rw [closingTag, String.toList_ofList, List.cons_append, List.foldl_cons, List.foldl_cons,
    List.foldl_cons, opened, foldl_step_tagRest kept]
  exact endTag_eq _ (.inl rfl)

end Scanner

end GrammarTables.Markup
