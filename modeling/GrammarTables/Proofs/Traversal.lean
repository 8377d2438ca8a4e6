import Mathlib.Data.List.Forall2

/-!
# Traversals

Names, symbols and entries are converted one after the other, and the first that cannot be
converted ends the traversal.  A traversal that succeeds has converted every item, each to
the result at its position.
-/

namespace GrammarTables

variable {Fault Item Result Other : Type}

theorem map_eq_ok_iff (outcome : Except Fault Result) (change : Result → Other)
    (result : Other) :
    outcome.map change = .ok result ↔
      ∃ inner, outcome = .ok inner ∧ change inner = result := by
  cases outcome <;> simp [Except.map]

theorem bind_eq_ok_iff (outcome : Except Fault Result)
    (next : Result → Except Fault Other) (result : Other) :
    outcome.bind next = .ok result ↔
      ∃ inner, outcome = .ok inner ∧ next inner = .ok result := by
  cases outcome <;> simp [Except.bind]

/-- A traversal succeeds exactly if every item is converted. -/
theorem mapM_eq_ok_iff (convert : Item → Except Fault Result) (items : List Item)
    (results : List Result) :
    items.mapM convert = .ok results ↔
      List.Forall₂ (fun item result => convert item = .ok result) items results := by
  induction items generalizing results with
  | nil => simp [pure, Except.pure, eq_comm]
  | cons item rest ih =>
      rw [List.mapM_cons, List.forall₂_cons_left_iff]
      change (convert item).bind (fun result =>
        (rest.mapM convert).bind fun others => .ok (result :: others)) = .ok results ↔ _
      simp only [bind_eq_ok_iff, ih, Except.ok.injEq]
      constructor
      · rintro ⟨result, converted, others, traversed, rfl⟩
        exact ⟨result, others, converted, traversed, rfl⟩
      · rintro ⟨result, others, converted, traversed, rfl⟩
        exact ⟨result, converted, others, traversed, rfl⟩

/-- What holds of whatever is related to the items holds of all results. -/
theorem forall_mem_of_forall₂ {related : Item → Result → Prop} {holds : Result → Prop}
    {items : List Item} {results : List Result} (all : List.Forall₂ related items results)
    (each : ∀ item ∈ items, ∀ result, related item result → holds result) :
    ∀ result ∈ results, holds result := by
  induction all with
  | nil => exact nofun
  | cons here _ ih =>
      obtain ⟨first, rest⟩ := List.forall_mem_cons.mp each
      exact List.forall_mem_cons.mpr ⟨first _ here, ih rest⟩

theorem forall_mem_of_mapM {convert : Item → Except Fault Result} {holds : Result → Prop}
    {items : List Item} {results : List Result} (traversed : items.mapM convert = .ok results)
    (each : ∀ item ∈ items, ∀ result, convert item = .ok result → holds result) :
    ∀ result ∈ results, holds result :=
  forall_mem_of_forall₂ ((mapM_eq_ok_iff ..).mp traversed) each

/-- What each result has in common with its item, the results have in common with the
items. -/
theorem map_eq_map_of_forall₂ {Common : Type} {related : Item → Result → Prop}
    {items : List Item} {results : List Result} {ofItem : Item → Common}
    {ofResult : Result → Common} (all : List.Forall₂ related items results)
    (each : ∀ item result, related item result → ofResult result = ofItem item) :
    results.map ofResult = items.map ofItem := by
  induction all with
  | nil => rfl
  | cons here _ ih => rw [List.map_cons, List.map_cons, each _ _ here, ih]

/-- Results that are related to items and to other results relate these to the items. -/
theorem forall₂_comp {first : Item → Result → Prop} {second : Result → Other → Prop}
    {both : Item → Other → Prop} {items : List Item} {results : List Result}
    {others : List Other} (all : List.Forall₂ first items results)
    (next : List.Forall₂ second results others)
    (joins : ∀ item result other, first item result → second result other → both item other) :
    List.Forall₂ both items others := by
  induction all generalizing others with
  | nil =>
      cases next
      exact .nil
  | cons here _ ih =>
      obtain ⟨other, rest, there, restNext, rfl⟩ := List.forall₂_cons_left_iff.mp next
      exact .cons (joins _ _ _ here there) (ih restNext)

/-- Items can be related to results one by one exactly if each can be related to one. -/
theorem exists_forall₂_iff (related : Item → Result → Prop) (items : List Item) :
    (∃ results, List.Forall₂ related items results) ↔
      ∀ item ∈ items, ∃ result, related item result := by
  induction items with
  | nil => simp
  | cons item rest ih =>
      rw [List.forall_mem_cons, ← ih]
      constructor
      · rintro ⟨_, _ | ⟨here, others⟩⟩
        exact ⟨⟨_, here⟩, _, others⟩
      · rintro ⟨⟨result, here⟩, results, others⟩
        exact ⟨result :: results, .cons here others⟩

/-- A traversal succeeds if every item can be converted, and what is known of the results
of the items is known item by item. -/
theorem exists_mapM_eq_ok {convert : Item → Except Fault Result}
    {related : Item → Result → Prop} {items : List Item}
    (converts : ∀ item ∈ items, ∃ result, convert item = .ok result ∧ related item result) :
    ∃ results, items.mapM convert = .ok results ∧ List.Forall₂ related items results := by
  simp only [mapM_eq_ok_iff]
  obtain ⟨results, all⟩ := (exists_forall₂_iff ..).mpr converts
  exact ⟨results, all.imp fun _ _ both => both.1, all.imp fun _ _ both => both.2⟩

theorem exists_mapM_of_forall {convert : Item → Except Fault Result} {items : List Item}
    (converts : ∀ item ∈ items, ∃ result, convert item = .ok result) :
    ∃ results, items.mapM convert = .ok results := by
  simp only [mapM_eq_ok_iff]
  exact (exists_forall₂_iff ..).mpr converts

theorem mapM_eq_some_of_forall₂ {read : Item → Option Result}
    {results : List Result} {items : List Item}
    (all : List.Forall₂ (fun result item => read item = some result) results items) :
    items.mapM read = some results := by
  induction all with
  | nil => rfl
  | cons here _ ih => simp [List.mapM_cons, here, ih]

/-- A list that is related to an append, item by item, is itself an append. -/
theorem forall₂_append_left_iff (related : Item → Result → Prop) (left right : List Item)
    (results : List Result) :
    List.Forall₂ related (left ++ right) results ↔
      ∃ before after, results = before ++ after ∧
        List.Forall₂ related left before ∧ List.Forall₂ related right after := by
  constructor
  · intro all
    refine ⟨results.take left.length, results.drop left.length,
      (List.take_append_drop ..).symm, ?_, ?_⟩
    · simpa using List.forall₂_take left.length all
    · simpa using List.forall₂_drop left.length all
  · rintro ⟨before, after, rfl, leftAll, rightAll⟩
    exact List.rel_append leftAll rightAll

/-! ## The first obstacle -/

section EndsAt

variable {Obstacle : Type} {reason : Obstacle → Fault}

/-- How a conversion ends that an obstacle can stop: with the reason that the obstacle
gives, and without an obstacle with a result of which something holds. -/
def EndsAt (reason : Obstacle → Fault) (obstacle : Option Obstacle)
    (outcome : Except Fault Result) (holds : Result → Prop) : Prop :=
  match obstacle with
  | some obstacle => outcome = .error (reason obstacle)
  | none => ∃ result, outcome = .ok result ∧ holds result

theorem EndsAt.imp {obstacle : Option Obstacle} {outcome : Except Fault Result}
    {holds weaker : Result → Prop} (ends : EndsAt reason obstacle outcome holds)
    (weakens : ∀ result, holds result → weaker result) :
    EndsAt reason obstacle outcome weaker := by
  cases obstacle with
  | some obstacle => exact ends
  | none =>
      obtain ⟨result, converted, resultHolds⟩ := ends
      exact ⟨result, converted, weakens result resultHolds⟩

/-- Of two conversions, the second is stopped by an obstacle only if the first is not. -/
theorem EndsAt.bind {first second : Option Obstacle} {outcome : Except Fault Result}
    {next : Result → Except Fault Other} {holds : Result → Prop} {after : Other → Prop}
    (ends : EndsAt reason first outcome holds)
    (goesOn : ∀ result, holds result → EndsAt reason second (next result) after) :
    EndsAt reason (first.or second) (outcome.bind next) after := by
  cases first with
  | some obstacle =>
      have stopped : outcome = .error (reason obstacle) := ends
      rw [stopped]
      rfl
  | none =>
      obtain ⟨result, converted, resultHolds⟩ := ends
      rw [converted]
      exact goesOn result resultHolds

/-- What follows a conversion and cannot be stopped does not change where it ends. -/
theorem EndsAt.andThen {obstacle : Option Obstacle} {outcome : Except Fault Result}
    {next : Result → Except Fault Other} {holds : Result → Prop} {after : Other → Prop}
    (ends : EndsAt reason obstacle outcome holds)
    (goesOn : ∀ result, holds result → ∃ final, next result = .ok final ∧ after final) :
    EndsAt reason obstacle (outcome.bind next) after := by
  rw [← Option.or_none (o := obstacle)]
  exact EndsAt.bind ends goesOn

/-- A traversal is stopped by the first obstacle among its items. -/
theorem EndsAt.mapM {obstacleOf : Item → Option Obstacle}
    {convert : Item → Except Fault Result} {related : Item → Result → Prop}
    {items : List Item}
    (each : ∀ item ∈ items,
      EndsAt reason (obstacleOf item) (convert item) (related item)) :
    EndsAt reason (items.findSome? obstacleOf) (items.mapM convert)
      (List.Forall₂ related items) := by
  induction items with
  | nil => exact ⟨[], rfl, .nil⟩
  | cons item rest ih =>
      obtain ⟨here, others⟩ := List.forall_mem_cons.mp each
      have first : (item :: rest).findSome? obstacleOf =
          (obstacleOf item).or (rest.findSome? obstacleOf) := by
        rw [List.findSome?_cons]
        cases obstacleOf item <;> rfl
      rw [first, List.mapM_cons]
      apply EndsAt.bind here
      intro result isRelated
      apply EndsAt.andThen (ih others)
      intro results areRelated
      exact ⟨result :: results, rfl, .cons isRelated areRelated⟩

end EndsAt

end GrammarTables
