import VerdictRisk.Library.Fallible

/-!
# Validation in order

A validation looks at its items one after the other and raises at the first that it does not
accept. What it raises is then the first error among its items. It is sound when everything it
raises is an expected error and when it accepts nothing that it should have refused. The rules
here say when that is, from what each item is by itself: refused with an expected error, raising
an unexpected one, or missed.
-/

namespace Validation

variable {Error Value Result Item : Type}

/-- What a computation raises, if it raises. -/
def raised : Except Error Value → Option Error
  | .error error => some error
  | .ok _ => none

/-- A returned value raises nothing. -/
@[simp] theorem raised_ok (value : Value) : raised (.ok value : Except Error Value) = none := rfl

/-- An error is what is raised. -/
@[simp] theorem raised_error (error : Error) :
    raised (.error error : Except Error Value) = some error := rfl

/-- A computation that raises nothing returns. -/
theorem raised_eq_none_iff {computation : Except Error Value} :
    raised computation = none ↔ ∃ value, computation = .ok value := by
  cases computation with
  | error error => simp
  | ok value => simp

/-- A computation raises its error. -/
theorem raised_eq_some_iff {computation : Except Error Value} {error : Error} :
    raised computation = some error ↔ computation = .error error := by
  cases computation with
  | error error => simp
  | ok value => simp

/-- What is done to the result raises nothing. -/
@[simp] theorem raised_map (computation : Except Error Value) (function : Value → Result) :
    raised (computation.map function) = raised computation := by
  cases computation <;> rfl

/-- A sequence raises what its first step raises, or else what the rest raises. -/
theorem raised_bind {first : Except Error Value} {next : Value → Except Error Result}
    {rest : Option Error} (each : ∀ value, first = .ok value → raised (next value) = rest) :
    raised (first >>= next) = (raised first).or rest := by
  cases first with
  | error error => rfl
  | ok value => exact each value rfl

/-- A function on the members of a list raises the first error that it raises on one of them. -/
theorem raised_mapM (step : Item → Except Error Result) (items : List Item) :
    raised (items.mapM step) = items.findSome? fun item => raised (step item) := by
  induction items with
  | nil => rfl
  | cons item rest ih =>
    rw [List.mapM_cons, List.findSome?_cons, ← ih]
    cases step item with
    | error error => rfl
    | ok result => cases rest.mapM step <;> rfl

/-- The first item is asked first. -/
theorem findSome?_cons_or (raises : Item → Option Error) (item : Item) (rest : List Item) :
    (item :: rest).findSome? raises = (raises item).or (rest.findSome? raises) := by
  rw [List.findSome?_cons]
  cases raises item <;> rfl

/-- The items that each stage adds are asked stage by stage. -/
theorem findSome?_flatMap {Stage : Type} (raises : Item → Option Error) (items : Stage → List Item)
    (stages : List Stage) :
    (stages.flatMap items).findSome? raises =
      stages.findSome? fun stage => (items stage).findSome? raises := by
  simp only [← List.head?_filterMap, List.filterMap_flatMap, List.head?_flatMap]

/-- A stage without an item raises nothing. -/
theorem findSome?_filterMap {Stage : Type} (raises : Item → Option Error)
    (item : Stage → Option Item) (stages : List Stage) :
    (stages.filterMap item).findSome? raises = stages.findSome? fun stage =>
      (item stage).bind raises := by
  rw [← List.head?_filterMap, List.filterMap_filterMap, List.head?_filterMap]

section Sound

variable {raises : Item → Option Error} {Expected : Error → Prop}
variable {Refused Unexpected Missed : Item → Prop}

/-- The first error is an expected one when an item is refused with one and no item before it
raises an unexpected one. -/
theorem first_expected_iff (items : List Item)
    (refused : ∀ item, Refused item ↔ ∃ error, raises item = some error ∧ Expected error)
    (unexpected : ∀ item, Unexpected item ↔ ∃ error, raises item = some error ∧ ¬ Expected error) :
    (∃ error, items.findSome? raises = some error ∧ Expected error) ↔
      ∃ before item after, items = before ++ item :: after ∧ Refused item ∧
        ∀ earlier ∈ before, ¬ Unexpected earlier := by
  constructor
  · intro ⟨error, first, expected⟩
    have parts := List.findSome?_eq_some_iff.mp first
    obtain ⟨before, item, after, split, answer, passed⟩ := parts
    have stops : Refused item := (refused item).mpr ⟨error, answer, expected⟩
    refine ⟨before, item, after, split, stops, ?_⟩
    intro earlier member wrong
    obtain ⟨error', raised, _⟩ := (unexpected earlier).mp wrong
    rw [passed earlier member] at raised
    contradiction
  · intro ⟨before, item, after, split, stops, allowed⟩
    obtain ⟨error, answer, expected⟩ := (refused item).mp stops
    rw [split, List.findSome?_append]
    cases first : before.findSome? raises with
    | none =>
      rw [Option.none_or, List.findSome?_cons, answer]
      exact ⟨error, rfl, expected⟩
    | some error' =>
      obtain ⟨earlier, member, raised⟩ := List.exists_of_findSome?_eq_some first
      refine ⟨error', rfl, ?_⟩
      by_contra wrong
      exact allowed earlier member ((unexpected earlier).mpr ⟨error', raised, wrong⟩)

/-- A validation is sound exactly when an item is refused before any raises an unexpected error,
or when no item raises an unexpected error and none is missed. -/
theorem sound_iff (items : List Item)
    (refused : ∀ item, Refused item ↔ ∃ error, raises item = some error ∧ Expected error)
    (unexpected : ∀ item, Unexpected item ↔ ∃ error, raises item = some error ∧ ¬ Expected error) :
    ((∀ error, items.findSome? raises = some error → Expected error) ∧
      (items.findSome? raises = none → ∀ item ∈ items, ¬ Missed item)) ↔
    (∃ before item after, items = before ++ item :: after ∧ Refused item ∧
        ∀ earlier ∈ before, ¬ Unexpected earlier) ∨
      ∀ item ∈ items, ¬ Unexpected item ∧ ¬ Missed item := by
  rw [← first_expected_iff items refused unexpected]
  cases answer : items.findSome? raises with
  | some error =>
    have unsound : ¬ Expected error → ¬ ∀ item ∈ items, ¬ Unexpected item ∧ ¬ Missed item := by
      intro wrong each
      obtain ⟨item, member, raised⟩ := List.exists_of_findSome?_eq_some answer
      exact (each item member).1 ((unexpected item).mpr ⟨error, raised, wrong⟩)
    by_cases expected : Expected error
    · simp [expected]
    · simpa [expected] using unsound expected
  | none =>
    have passes : ∀ item ∈ items, ¬ Unexpected item := by
      intro item member
      rw [unexpected, List.findSome?_eq_none_iff.mp answer item member]
      simp
    simp only [reduceCtorEq, false_and, exists_false, false_or, IsEmpty.forall_iff, implies_true,
      true_and, forall_const]
    exact ⟨fun each item member => ⟨passes item member, each item member⟩,
      fun each item member => (each item member).2⟩

end Sound

end Validation
