import Mathlib.Data.List.Forall2

/-!
# Fallible steps

A computation returns a value or raises. The rules here say when a sequence of steps returns,
and when a fallible function returns on every member of a list.
-/

namespace Fallible

variable {Error Value Result : Type}

/-- A sequence returns when its first step does and the rest does on what that returned. -/
theorem bind_ok_iff {first : Except Error Value} {next : Value → Except Error Result}
    {result : Result} : (first >>= next) = .ok result ↔
      ∃ value, first = .ok value ∧ next value = .ok result := by
  cases first with
  | error raised => simp [bind, Except.bind]
  | ok value => simp [bind, Except.bind]

/-- A sequence raises what its first step raises, or what the rest raises on what that
returned. -/
theorem bind_error_iff {first : Except Error Value} {next : Value → Except Error Result}
    {raised : Error} : (first >>= next) = .error raised ↔
      first = .error raised ∨ ∃ value, first = .ok value ∧ next value = .error raised := by
  cases first with
  | error raised => simp [bind, Except.bind]
  | ok value => simp [bind, Except.bind]

/-- A computation put through a function returns when it does. -/
theorem map_ok_iff {first : Except Error Value} {function : Value → Result} {result : Result} :
    first.map function = .ok result ↔ ∃ value, first = .ok value ∧ function value = result := by
  cases first with
  | error raised => simp [Except.map]
  | ok value => simp [Except.map]

/-- What a function returns on the members of a list, it returns on each of them in turn. -/
theorem mapM_ok_iff {step : Value → Except Error Result} {values : List Value}
    {results : List Result} : values.mapM step = .ok results ↔
      List.Forall₂ (fun value result => step value = .ok result) values results := by
  induction values generalizing results with
  | nil =>
    rw [List.mapM_nil, List.forall₂_nil_left_iff]
    constructor
    · intro returned
      cases returned
      rfl
    · rintro rfl
      rfl
  | cons value rest ih =>
    rw [List.mapM_cons, bind_ok_iff, List.forall₂_cons_left_iff]
    constructor
    · rintro ⟨result, head, tail⟩
      obtain ⟨others, returned, same⟩ := bind_ok_iff.mp tail
      cases same
      exact ⟨result, others, head, ih.mp returned, rfl⟩
    · rintro ⟨result, others, head, returned, rfl⟩
      exact ⟨result, head, bind_ok_iff.mpr ⟨others, ih.mpr returned, rfl⟩⟩

/-- What a function returns on the members of a list, joined, is what it returns on some member. -/
theorem mem_flatten_mapM_iff {step : Value → Except Error (List Result)} {values : List Value}
    {parts : List (List Result)} (returned : values.mapM step = .ok parts) (result : Result) :
    result ∈ parts.flatten ↔
      ∃ value ∈ values, ∃ part, step value = .ok part ∧ result ∈ part := by
  have each := mapM_ok_iff.mp returned
  clear returned
  induction each with
  | nil => simp
  | @cons value part rest others head _ ih =>
    have later : result ∈ others.flatten ↔ _ := ih
    rw [List.flatten_cons, List.mem_append, later, List.exists_mem_cons_iff]
    simp [head]

/-- A function returns on the members of a list when it returns on each of them. -/
theorem mapM_returns_iff {step : Value → Except Error Result} {values : List Value} :
    (∃ results, values.mapM step = .ok results) ↔
      ∀ value ∈ values, ∃ result, step value = .ok result := by
  induction values with
  | nil => exact iff_of_true ⟨[], rfl⟩ (by simp)
  | cons value rest ih =>
    rw [List.forall_mem_cons, ← ih]
    simp only [mapM_ok_iff, List.forall₂_cons_left_iff]
    constructor
    · rintro ⟨_, result, others, head, tail, _⟩
      exact ⟨⟨result, head⟩, others, tail⟩
    · rintro ⟨⟨result, head⟩, others, tail⟩
      exact ⟨_, result, others, head, tail, rfl⟩

/-- Two functions return the same on the members of two lists when they do member by member. -/
theorem mapM_same_iff {Other : Type} {step : Value → Except Error Result}
    {step' : Other → Except Error Result} {values : List Value} {others : List Other} :
    (∃ results, values.mapM step = .ok results ∧ others.mapM step' = .ok results) ↔
      List.Forall₂ (fun value other => ∃ result, step value = .ok result ∧ step' other = .ok result)
        values others := by
  simp only [mapM_ok_iff]
  constructor
  · rintro ⟨results, returned, returned'⟩
    induction returned generalizing others with
    | nil =>
      rw [List.forall₂_nil_right_iff.mp returned']
      exact .nil
    | cons head _ ih =>
      obtain ⟨other, rest, head', tail', rfl⟩ := List.forall₂_cons_right_iff.mp returned'
      exact .cons ⟨_, head, head'⟩ (ih tail')
  · intro each
    induction each with
    | nil => exact ⟨[], .nil, .nil⟩
    | cons head _ ih =>
      obtain ⟨result, returned, returned'⟩ := head
      obtain ⟨results, tail, tail'⟩ := ih
      exact ⟨result :: results, .cons returned tail, .cons returned' tail'⟩

/-- What is done to every result can be done within each step. -/
theorem map_mapM {Final : Type} (step : Value → Except Error Result) (finish : Result → Final)
    (values : List Value) :
    (values.mapM step).map (List.map finish) =
      values.mapM fun value => (step value).map finish := by
  induction values with
  | nil => rfl
  | cons value rest ih =>
    rw [List.mapM_cons, List.mapM_cons, ← ih]
    cases step value with
    | error raised => rfl
    | ok result => cases rest.mapM step <;> rfl

end Fallible
