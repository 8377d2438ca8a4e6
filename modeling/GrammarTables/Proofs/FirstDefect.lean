import GrammarTables.Defect
import Mathlib.Data.List.Lex

/-!
# The first of several defects

A page can have many defects at once, and a run reports one of them.  A survey lists all
defects with their places, whether or not a run gets so far; places are compared like
words.  A run is settled by a survey when it ends with the first defect of the survey, or
with a result if there is none.
-/

namespace GrammarTables

/-- A place, as the numbers that lead to it from the outside in.  Of two places the one
that is smaller at the first difference comes first. -/
abbrev Place : Type := List Nat

/-- Which defects stand at which places. -/
abbrev Survey : Type := Place → Defect → Prop

namespace Survey

/-- There are no defects. -/
def IsClean (survey : Survey) : Prop :=
  ∀ place defect, ¬survey place defect

/-- The defect stands at a place, and there are no defects at earlier places. -/
def IsFirst (survey : Survey) (defect : Defect) : Prop :=
  ∃ place, survey place defect ∧
    ∀ earlier other, earlier < place → ¬survey earlier other

/-- No place has two defects. -/
def IsSingle (survey : Survey) : Prop :=
  ∀ place left right, survey place left → survey place right → left = right

/-- An outcome is a result if there are no defects, and else the first defect. -/
def Settles {Result : Type} (survey : Survey) : Except Defect Result → Prop
  | .ok _ => survey.IsClean
  | .error defect => survey.IsFirst defect

variable {Item Result Other : Type}

theorem IsClean.not_isFirst {survey : Survey} (clean : survey.IsClean) (defect : Defect) :
    ¬survey.IsFirst defect := by
  rintro ⟨place, found, -⟩
  exact clean place defect found

theorem IsSingle.isFirst_unique {survey : Survey} (single : survey.IsSingle)
    {left right : Defect} (leftFirst : survey.IsFirst left)
    (rightFirst : survey.IsFirst right) : left = right := by
  obtain ⟨leftPlace, leftFound, noneBeforeLeft⟩ := leftFirst
  obtain ⟨rightPlace, rightFound, noneBeforeRight⟩ := rightFirst
  -- Places are totally ordered, and neither defect can come before the other.
  rcases lt_trichotomy leftPlace rightPlace with less | equal | greater
  · exact absurd leftFound (noneBeforeRight leftPlace left less)
  · subst equal
    exact single leftPlace left right leftFound rightFound
  · exact absurd rightFound (noneBeforeLeft rightPlace right greater)

theorem isFirst_of_nil {survey : Survey} {defect : Defect} (found : survey [] defect) :
    survey.IsFirst defect :=
  ⟨[], found, fun earlier _ before => absurd before (List.not_lt_nil earlier)⟩

theorem Settles.exists_place {survey : Survey} {outcome : Except Defect Result} {defect : Defect}
    (settled : survey.Settles outcome) (ended : outcome = .error defect) :
    ∃ place, survey place defect := by
  subst ended
  obtain ⟨place, found, -⟩ := settled
  exact ⟨place, found⟩

/-- An outcome that a survey settles is fixed by the survey, if no place has two
defects. -/
theorem Settles.outcome_iff {survey : Survey} {outcome : Except Defect Result}
    (settled : survey.Settles outcome) (single : survey.IsSingle) :
    ((∃ result, outcome = .ok result) ↔ survey.IsClean) ∧
      ∀ defect, outcome = .error defect ↔ survey.IsFirst defect := by
  cases outcome with
  | ok result =>
      have clean : survey.IsClean := settled
      refine ⟨⟨fun _ => clean, fun _ => ⟨result, rfl⟩⟩, fun defect => ?_⟩
      exact ⟨nofun, fun first => absurd first (clean.not_isFirst defect)⟩
  | error reported =>
      have first : survey.IsFirst reported := settled
      refine ⟨⟨nofun, fun clean => absurd first (clean.not_isFirst reported)⟩, ?_⟩
      intro defect
      constructor
      · rintro ⟨⟩
        exact first
      · intro otherFirst
        rw [single.isFirst_unique first otherFirst]

@[simp] theorem settles_map {survey : Survey} (outcome : Except Defect Result)
    (change : Result → Other) :
    survey.Settles (outcome.map change) ↔ survey.Settles outcome := by
  cases outcome <;> exact Iff.rfl

/-- The survey of something that has one defect if a condition is met. -/
def leaf (condition : Prop) (defect : Defect) : Survey := fun place other =>
  place = [] ∧ condition ∧ other = defect

theorem isFirst_leaf {condition : Prop} (holds : condition) (defect : Defect) :
    (leaf condition defect).IsFirst defect :=
  isFirst_of_nil ⟨rfl, holds, rfl⟩

theorem isClean_leaf {condition : Prop} (fails : ¬condition) (defect : Defect) :
    (leaf condition defect).IsClean := by
  rintro place other ⟨-, holds, -⟩
  exact fails holds

/-! ## Defects inside a part -/

/-- The defects of a part, at the places inside of it. -/
def under (number : Nat) (survey : Survey) : Survey := fun place defect =>
  ∃ inner, place = number :: inner ∧ survey inner defect

theorem IsFirst.under {survey : Survey} {defect : Defect} (first : survey.IsFirst defect)
    (number : Nat) : (survey.under number).IsFirst defect := by
  obtain ⟨inner, found, noneBefore⟩ := first
  refine ⟨number :: inner, ⟨inner, rfl, found⟩, ?_⟩
  rintro _ other before ⟨earlier, rfl, otherFound⟩
  simp only [List.cons_lt_cons_iff, lt_irrefl, false_or, true_and] at before
  exact noneBefore earlier other before otherFound

theorem IsClean.under {survey : Survey} (clean : survey.IsClean) (number : Nat) :
    (survey.under number).IsClean := by
  rintro _ defect ⟨inner, rfl, found⟩
  exact clean inner defect found

theorem Settles.under {survey : Survey} {outcome : Except Defect Result}
    (settled : survey.Settles outcome) (number : Nat) :
    (survey.under number).Settles outcome := by
  cases outcome with
  | ok result => exact IsClean.under settled number
  | error defect => exact IsFirst.under settled number

/-! ## Two parts, one after the other -/

/-- The defects of a part under its number, and those of what follows it. -/
def followedBy (number : Nat) (head tail : Survey) : Survey := fun place defect =>
  head.under number place defect ∨ tail place defect

/-- All places are under numbers greater than the given one. -/
def IsAfter (survey : Survey) (number : Nat) : Prop :=
  ∀ place defect, survey place defect → ∃ next inner, place = next :: inner ∧ number < next

theorem isAfter_under {number next : Nat} (survey : Survey) (less : number < next) :
    (survey.under next).IsAfter number := by
  rintro _ defect ⟨inner, rfl, -⟩
  exact ⟨next, inner, rfl, less⟩

/-- The first defect of the first part is the first of both. -/
theorem IsFirst.followedBy {number : Nat} {head tail : Survey} {defect : Defect}
    (first : head.IsFirst defect) (after : tail.IsAfter number) :
    (head.followedBy number tail).IsFirst defect := by
  obtain ⟨place, ⟨inner, rfl, found⟩, noneBefore⟩ := first.under number
  refine ⟨number :: inner, .inl ⟨inner, rfl, found⟩, ?_⟩
  rintro earlier other before (here | there)
  · exact noneBefore earlier other before here
  · obtain ⟨next, _, rfl, bound⟩ := after earlier other there
    simp only [List.cons_lt_cons_iff] at before
    omega

/-- A first part without defects can be left out. -/
theorem IsClean.followedBy {head : Survey} (clean : head.IsClean) (number : Nat)
    (tail : Survey) : head.followedBy number tail = tail := by
  funext place defect
  have nothing := clean.under number place defect
  simp only [Survey.followedBy, nothing, false_or]

/-- What is settled part by part is settled as a whole. -/
theorem Settles.followedBy {number : Nat} {head tail : Survey}
    {first : Except Defect Result} {next : Result → Except Defect Other}
    (settled : head.Settles first) (after : tail.IsAfter number)
    (goesOn : ∀ result, first = .ok result → tail.Settles (next result)) :
    (head.followedBy number tail).Settles (first.bind next) := by
  cases first with
  | error defect => exact IsFirst.followedBy settled after
  | ok result =>
      rw [IsClean.followedBy settled number tail]
      exact goesOn result rfl

/-! ## Defects of the items of a list -/

/-- The defects of items, each under the number of the item. -/
def each (surveyOf : Nat → Item → Survey) : Nat → List Item → Survey
  | _, [] => fun _ _ => False
  | start, item :: rest =>
    (surveyOf start item).followedBy start (each surveyOf (start + 1) rest)

theorem each_iff (surveyOf : Nat → Item → Survey) (start : Nat) (items : List Item)
    (place : Place) (defect : Defect) :
    each surveyOf start items place defect ↔
      ∃ offset item, items[offset]? = some item ∧
        (surveyOf (start + offset) item).under (start + offset) place defect := by
  induction items generalizing start with
  | nil => simp [each]
  | cons item rest ih =>
      simp only [each, followedBy, ih]
      constructor
      · rintro (here | ⟨offset, other, found, there⟩)
        · exact ⟨0, item, rfl, here⟩
        · refine ⟨offset + 1, other, found, ?_⟩
          rwa [← Nat.add_assoc, Nat.add_right_comm]
      · rintro ⟨offset, other, found, there⟩
        cases offset with
        | zero =>
            cases found
            exact .inl there
        | succ offset =>
            refine .inr ⟨offset, other, found, ?_⟩
            rwa [Nat.add_right_comm, Nat.add_assoc]

theorem isClean_each_nil (surveyOf : Nat → Item → Survey) (start : Nat) :
    (each surveyOf start []).IsClean := by
  intro place defect found
  exact found

/-- The places of defects of items begin with the numbers of the items. -/
theorem isAfter_each (surveyOf : Nat → Item → Survey) (number : Nat) (items : List Item) :
    (each surveyOf (number + 1) items).IsAfter number := by
  intro place defect found
  obtain ⟨offset, item, -, inner, rfl, -⟩ := (each_iff ..).mp found
  exact ⟨number + 1 + offset, inner, rfl, by omega⟩

theorem IsFirst.each_cons {surveyOf : Nat → Item → Survey} {start : Nat} {item : Item}
    {defect : Defect} (first : (surveyOf start item).IsFirst defect) (rest : List Item) :
    (each surveyOf start (item :: rest)).IsFirst defect :=
  first.followedBy (isAfter_each surveyOf start rest)

theorem IsClean.each_cons {surveyOf : Nat → Item → Survey} {start : Nat} {item : Item}
    (clean : (surveyOf start item).IsClean) (rest : List Item) :
    each surveyOf start (item :: rest) = each surveyOf (start + 1) rest :=
  clean.followedBy start _

end Survey

end GrammarTables
