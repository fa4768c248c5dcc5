import VerdictRisk.Library.Interleavings
import Mathlib.Data.Option.Basic

/-!
# Refinement with silent inputs

One machine refines another when each of its inputs is read as an input of the other, or as none.
An input that is read is answered in agreement by both; one that is not shows nothing, and is
not noticed by the other. Along a run both show the same, up to agreement.
-/

namespace Runs

namespace Machine

variable {State Other Input Inner Seen Shown : Type*}

/-- How the inputs that meet a condition are read, in related states. -/
structure Refines (machine : Machine Other Input (Option Shown))
    (abstract : Machine State Inner (Option Seen)) (reads : Input → Option Inner)
    (Meets : Input → Prop) (Agree : Seen → Shown → Prop) (Related : State → Other → Prop) :
    Prop where
  silent : ∀ {state : State} {other : Other} {input : Input}, Related state other → Meets input →
    reads input = none →
    machine.answer other input = none ∧ Related state (machine.next other input)
  shown : ∀ {state : State} {other : Other} {input : Input} {inner : Inner},
    Related state other → Meets input → reads input = some inner →
    Option.Rel Agree (abstract.answer state inner) (machine.answer other input) ∧
      Related (abstract.next state inner) (machine.next other input)

namespace Refines

variable {machine : Machine Other Input (Option Shown)}
variable {abstract : Machine State Inner (Option Seen)} {reads : Input → Option Inner}
variable {Meets : Input → Prop} {Agree : Seen → Shown → Prop} {Related : State → Other → Prop}

/-- A run shows what the inputs that are read show, and ends in a related state. -/
theorem run (refines : Refines machine abstract reads Meets Agree Related) {state : State}
    {other : Other} (related : Related state other) {inputs : List Input}
    (meets : ∀ input ∈ inputs, Meets input) :
    List.Forall₂ Agree (abstract.visible state (inputs.filterMap reads))
        (machine.visible other inputs) ∧
      Related (abstract.after state (inputs.filterMap reads)) (machine.after other inputs) := by
  induction inputs generalizing state other with
  | nil => exact ⟨.nil, related⟩
  | cons input rest ih =>
    rw [List.forall_mem_cons] at meets
    rw [visible_cons, after_cons]
    cases read : reads input with
    | none =>
      obtain ⟨unseen, onward⟩ := refines.silent related meets.1 read
      rw [List.filterMap_cons_none read, unseen, Option.toList_none, List.nil_append]
      exact ih onward meets.2
    | some inner =>
      obtain ⟨agree, onward⟩ := refines.shown related meets.1 read
      obtain ⟨later, final⟩ := ih onward meets.2
      rw [List.filterMap_cons_some read, visible_cons, after_cons]
      refine ⟨?_, final⟩
      revert agree
      generalize abstract.answer state inner = seen
      generalize machine.answer other input = shown
      intro agree
      cases agree with
      | none => exact later
      | some same => exact .cons same later

end Refines

end Machine

end Runs
