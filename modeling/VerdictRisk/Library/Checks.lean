import VerdictRisk.Library.Fallible

/-!
# Chains of fallible checks

A check raises, rejects with a reason, or passes. A chain asks its checks in order and stops
at the first that does not pass. A report asks all of them. The rules here say when a chain
passes, what it stops with, and how its answer is read off the report.
-/

namespace Checks

variable {Error Reason : Type*}

/-- What a check answers: it raises, it rejects with a reason, or it passes with `none`. -/
abbrev Check (Error Reason : Type*) := Except Error (Option Reason)

/-- The answer of the first check that does not pass. -/
def first : List (Check Error Reason) → Check Error Reason
  | [] => .ok none
  | .error raised :: _ => .error raised
  | .ok (some reason) :: _ => .ok (some reason)
  | .ok none :: rest => first rest

/-- An empty chain passes. -/
@[simp] theorem first_nil : first ([] : List (Check Error Reason)) = .ok none := rfl

/-- A chain stops with what its first check raises. -/
@[simp] theorem first_raised (raised : Error) (rest : List (Check Error Reason)) :
    first (.error raised :: rest) = .error raised := rfl

/-- A chain stops with the reason of its first check. -/
@[simp] theorem first_rejected (reason : Reason) (rest : List (Check Error Reason)) :
    first (.ok (some reason) :: rest) = .ok (some reason) := rfl

/-- A chain goes on where its first check passes. -/
@[simp] theorem first_passed (rest : List (Check Error Reason)) :
    first (.ok none :: rest) = first rest := rfl

/-- A chain passes exactly when every check passes. -/
theorem first_passes_iff (checks : List (Check Error Reason)) :
    first checks = .ok none ↔ ∀ check ∈ checks, check = .ok none := by
  induction checks with
  | nil => simp
  | cons check rest ih =>
    rw [List.forall_mem_cons, ← ih]
    rcases check with raised | reason | reason <;> simp

/-- A chain of checks that do not raise does not raise. -/
theorem first_returns {checks : List (Check Error Reason)}
    (each : ∀ check ∈ checks, ∃ verdict, check = .ok verdict) :
    ∃ verdict, first checks = .ok verdict := by
  induction checks with
  | nil => exact ⟨none, rfl⟩
  | cons check rest ih =>
    rw [List.forall_mem_cons] at each
    obtain ⟨⟨verdict, rfl⟩, others⟩ := each
    cases verdict with
    | none => exact ih others
    | some reason => exact ⟨some reason, rfl⟩

/-- Two chains in turn are the chain of all their checks. -/
theorem first_append (before rest : List (Check Error Reason)) :
    first (before ++ rest) = first [first before, first rest] := by
  induction before with
  | nil =>
    rw [List.nil_append, first_nil, first_passed]
    rcases first rest with raised | reason | reason <;> rfl
  | cons check before ih =>
    rcases check with raised | reason | reason
    · rfl
    · exact ih
    · rfl

/-- Checks that pass whenever the checks of another chain do, one by one, pass with it. -/
theorem first_mono {checks checks' : List (Check Error Reason)}
    (each : List.Forall₂ (fun check check' => check = .ok none → check' = .ok none) checks checks')
    (passes : first checks = .ok none) : first checks' = .ok none := by
  induction each with
  | nil => rfl
  | @cons check check' rest rest' head _ ih =>
    rw [first_passes_iff, List.forall_mem_cons] at passes
    rw [head passes.1, first_passed]
    exact ih ((first_passes_iff _).mpr passes.2)

/-- Checks that do not raise are alike when they pass the same. -/
theorem alike_of_passes {verdict verdict' : Option Reason}
    (same : verdict = none ↔ verdict' = none) :
    (Except.ok verdict : Check Error Reason).map Option.isNone =
      (Except.ok verdict').map Option.isNone := by
  rw [Except.map, Except.map, Except.ok.injEq, Bool.eq_iff_iff, Option.isNone_iff_eq_none,
    Option.isNone_iff_eq_none]
  exact same

/-- Checks that raise the same, or else pass the same, one by one, make chains that do. -/
theorem first_alike {checks checks' : List (Check Error Reason)}
    (each : List.Forall₂ (fun check check' => check.map Option.isNone = check'.map Option.isNone)
      checks checks') : (first checks).map Option.isNone = (first checks').map Option.isNone := by
  induction each with
  | nil => rfl
  | @cons check check' rest rest' head _ ih =>
    rcases check with raised | - | reason
    · rcases check' with raised' | - | reason'
      · cases head
        rfl
      · cases head
      · cases head
    · rcases check' with raised' | - | reason'
      · cases head
      · exact ih
      · cases head
    · rcases check' with raised' | - | reason'
      · cases head
      · cases head
      · rfl

section Report

variable {Gate Entry Name : Type} {Error Reason : Type} {check : Gate → Check Error Reason}
variable {entry : Gate → Option Reason → Entry} {gates : List Gate} {report : List Entry}

/-- When no check raises, a report records the answer of each. -/
theorem report_records
    (reported : gates.mapM (fun gate => (check gate).map (entry gate)) = .ok report) :
    List.Forall₂ (fun gate made => ∃ answer, check gate = .ok answer ∧ made = entry gate answer)
      gates report := by
  apply (Fallible.mapM_ok_iff.mp reported).imp
  intro gate made answered
  obtain ⟨answer, found, same⟩ := Fallible.map_ok_iff.mp answered
  exact ⟨answer, found, same.symm⟩

/-- A report has an entry for every check, in order. -/
theorem report_entries (name : Gate → Name) (named : Entry → Name)
    (kept : ∀ gate answer, named (entry gate answer) = name gate)
    (reported : gates.mapM (fun gate => (check gate).map (entry gate)) = .ok report) :
    report.map named = gates.map name := by
  have recorded := report_records reported
  clear reported
  induction recorded with
  | nil => rfl
  | cons head _ ih =>
    obtain ⟨answer, _, rfl⟩ := head
    rw [List.map_cons, List.map_cons, kept, ih]

/-- When no check raises, the chain answers with the first reason in the report. -/
theorem first_report (reason : Entry → Option Reason)
    (kept : ∀ gate answer, reason (entry gate answer) = answer)
    (reported : gates.mapM (fun gate => (check gate).map (entry gate)) = .ok report) :
    first (gates.map check) = .ok (report.findSome? reason) := by
  have recorded := report_records reported
  clear reported
  induction recorded with
  | nil => rfl
  | cons head _ ih =>
    obtain ⟨answer, answered, rfl⟩ := head
    rw [List.map_cons, List.findSome?_cons, answered, kept]
    cases answer with
    | none => exact ih
    | some reason => rfl

end Report

end Checks
