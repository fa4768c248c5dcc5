import VerdictRisk.Library.Runs
import Mathlib.Data.List.ReduceOption

/-!
# Interleavings

Each input of a machine touches some of its parts. When inputs that share no part commute and
inputs that touch no part go unnoticed, a run is determined by the order in which each part alone
is touched: two runs with the same history of every part show the same and end alike, however the
histories are interleaved.
-/

namespace Runs.Machine

variable {State Input Part Seen : Type*}
variable (machine : Machine State Input (Option Seen))

/-- What a run shows: the answers that are not empty, in order. -/
def visible (state : State) (run : List Input) : List Seen :=
  (machine.answers state run).reduceOption

/-- An empty run shows nothing. -/
@[simp] theorem visible_nil (state : State) : machine.visible state [] = [] := rfl

/-- What the first input shows comes first. -/
theorem visible_cons (state : State) (input : Input) (rest : List Input) :
    machine.visible state (input :: rest) =
      (machine.answer state input).toList ++ machine.visible (machine.next state input) rest := by
  change (machine.answer state input ::
    machine.answers (machine.next state input) rest).reduceOption = _
  cases machine.answer state input with
  | none =>
    rw [List.reduceOption_cons_of_none, Option.toList_none, List.nil_append]
    rfl
  | some seen =>
    rw [List.reduceOption_cons_of_some, Option.toList_some, List.singleton_append]
    rfl

/-- Two lists of inputs run in turn show what each of them shows. -/
theorem visible_append (state : State) (first second : List Input) :
    machine.visible state (first ++ second) =
      machine.visible state first ++ machine.visible (machine.after state first) second := by
  induction first generalizing state with
  | nil => rfl
  | cons input rest ih =>
    rw [List.cons_append, visible_cons, visible_cons, ih, after_cons, List.append_assoc]

/-- How the inputs act on the parts, up to a relation between states that are alike. -/
structure Footprint (Alike : State → State → Prop) (touches : Input → Part → Bool) : Prop where
  equivalence : Equivalence Alike
  /-- Alike states answer alike and stay alike. -/
  alike : ∀ {left right : State} (input : Input), Alike left right →
    machine.answer left input = machine.answer right input ∧
      Alike (machine.next left input) (machine.next right input)
  /-- An input that touches no part goes unnoticed. -/
  unnoticed : ∀ (state : State) (input : Input), (∀ part, touches input part = false) →
    machine.answer state input = none ∧ Alike (machine.next state input) state
  /-- Inputs that touch some part each, and share none, commute. -/
  commute : ∀ (state : State) (first second : Input),
    (∃ part, touches first part = true) → (∃ part, touches second part = true) →
    (∀ part, touches first part = true → touches second part = false) →
    machine.visible state [first, second] = machine.visible state [second, first] ∧
      Alike (machine.after state [first, second]) (machine.after state [second, first])

/-- Runs that show the same and end alike, from any states that are alike. -/
def SameRun (Alike : State → State → Prop) (run run' : List Input) : Prop :=
  ∀ state state', Alike state state' →
    machine.visible state run = machine.visible state' run' ∧
      Alike (machine.after state run) (machine.after state' run')

/-- The inputs of a run that touch a part. -/
def history (touches : Input → Part → Bool) (part : Part) (run : List Input) : List Input :=
  run.filter fun input => touches input part

section History

variable {touches : Input → Part → Bool} {part : Part} {input : Input}

/-- An input that touches a part comes first in the history of the part. -/
theorem history_cons_touched (touched : touches input part = true) (run : List Input) :
    history touches part (input :: run) = input :: history touches part run :=
  List.filter_cons_of_pos (p := fun input => touches input part) touched

/-- An input that does not touch a part is not in the history of the part. -/
theorem history_cons_untouched (untouched : touches input part = false) (run : List Input) :
    history touches part (input :: run) = history touches part run :=
  List.filter_cons_of_neg (p := fun input => touches input part) (by simp [untouched])

/-- The history of a part in two runs is that of the first and then that of the second. -/
theorem history_append (first second : List Input) :
    history touches part (first ++ second) =
      history touches part first ++ history touches part second :=
  List.filter_append first second

/-- The history of a part has the inputs of the run that touch it. -/
theorem mem_history {run : List Input} :
    input ∈ history touches part run ↔ input ∈ run ∧ touches input part = true :=
  List.mem_filter

end History

namespace Footprint

variable {machine}
variable {Alike : State → State → Prop} {touches : Input → Part → Bool}
variable (footprint : machine.Footprint Alike touches)

include footprint

/-- Every run is the same as itself. -/
theorem same_refl (run : List Input) : machine.SameRun Alike run run := by
  induction run with
  | nil => exact fun state state' alike => ⟨rfl, alike⟩
  | cons input rest ih =>
    intro state state' alike
    obtain ⟨answer, onward⟩ := footprint.alike input alike
    obtain ⟨shown, final⟩ := ih _ _ onward
    rw [visible_cons, visible_cons, answer, shown]
    exact ⟨rfl, final⟩

/-- Being the same run is transitive. -/
theorem same_trans {first second third : List Input} (left : machine.SameRun Alike first second)
    (right : machine.SameRun Alike second third) : machine.SameRun Alike first third := by
  intro state state' alike
  obtain ⟨shown, final⟩ := left state state (footprint.equivalence.refl state)
  obtain ⟨shown', final'⟩ := right state state' alike
  exact ⟨shown.trans shown', footprint.equivalence.trans final final'⟩

/-- Being the same run is symmetric. -/
theorem same_symm {run run' : List Input} (same : machine.SameRun Alike run run') :
    machine.SameRun Alike run' run := by
  intro state state' alike
  obtain ⟨shown, final⟩ := same state' state (footprint.equivalence.symm alike)
  exact ⟨shown.symm, footprint.equivalence.symm final⟩

/-- An input before two runs that are the same leaves them the same. -/
theorem same_cons (input : Input) {run run' : List Input}
    (same : machine.SameRun Alike run run') :
    machine.SameRun Alike (input :: run) (input :: run') := by
  intro state state' alike
  obtain ⟨answer, onward⟩ := footprint.alike input alike
  obtain ⟨shown, final⟩ := same _ _ onward
  rw [visible_cons, visible_cons, answer, shown]
  exact ⟨rfl, final⟩

/-- An input that touches no part can be left out. -/
theorem same_unnoticed {input : Input} (untouched : ∀ part, touches input part = false)
    (run : List Input) : machine.SameRun Alike (input :: run) run := by
  intro state state' alike
  obtain ⟨silent, kept⟩ := footprint.unnoticed state input untouched
  obtain ⟨shown, final⟩ := footprint.same_refl run _ _ (footprint.equivalence.trans kept alike)
  rw [visible_cons, silent, Option.toList_none, List.nil_append]
  exact ⟨shown, final⟩

/-- Two neighbours that share no part can be exchanged. -/
theorem same_swap {first second : Input}
    (apart : ∀ part, touches first part = true → touches second part = false)
    (run : List Input) :
    machine.SameRun Alike (first :: second :: run) (second :: first :: run) := by
  by_cases idle : ∀ part, touches first part = false
  · exact footprint.same_trans (footprint.same_unnoticed idle _)
      (footprint.same_cons second (footprint.same_symm (footprint.same_unnoticed idle run)))
  by_cases idle' : ∀ part, touches second part = false
  · exact footprint.same_trans (footprint.same_cons first (footprint.same_unnoticed idle' run))
      (footprint.same_symm (footprint.same_unnoticed idle' _))
  have onward : machine.SameRun Alike ([first, second] ++ run) ([second, first] ++ run) := by
    intro state state' alike
    obtain ⟨shown, final⟩ := footprint.commute state first second
      (by simpa using idle) (by simpa using idle') apart
    obtain ⟨shown', final'⟩ := footprint.same_refl [second, first] _ _ alike
    obtain ⟨later, ended⟩ := footprint.same_refl run _ _ (footprint.equivalence.trans final final')
    rw [visible_append, visible_append, after_append, after_append, shown, shown', later]
    exact ⟨rfl, ended⟩
  exact onward

/-- An input moves to the front of a run past inputs it shares no part with. -/
theorem same_front {input : Input} {past : List Input} (rest : List Input)
    (apart : ∀ earlier ∈ past, ∀ part, touches earlier part = true → touches input part = false) :
    machine.SameRun Alike (past ++ input :: rest) (input :: (past ++ rest)) := by
  induction past with
  | nil => exact footprint.same_refl _
  | cons earlier past ih =>
    rw [List.forall_mem_cons] at apart
    have moved := footprint.same_cons earlier (ih apart.2)
    exact footprint.same_trans moved (footprint.same_swap apart.1 (past ++ rest))

omit footprint in
/-- In the history of a part that the first input touches, that input comes first, so no other
input that touches the part comes before it. -/
theorem first_of_history {input earlier : Input} {past rest run : List Input} {part : Part}
    (same : history touches part (input :: run) =
      history touches part (past ++ input :: rest))
    (first : input ∉ past) (member : earlier ∈ past) (touched : touches earlier part = true) :
    touches input part = false := by
  by_contra touching
  rw [Bool.not_eq_false] at touching
  rw [history_cons_touched touching, history_append] at same
  have held : earlier ∈ history touches part past := mem_history.mpr ⟨member, touched⟩
  cases before : history touches part past with
  | nil =>
    rw [before] at held
    contradiction
  | cons head tail =>
    rw [before, List.cons_append, List.cons.injEq] at same
    have head_mem : input ∈ history touches part past := by
      rw [before, same.1]
      exact List.mem_cons_self
    exact first (mem_history.mp head_mem).1

omit footprint in
/-- Taking an input out from behind inputs it shares no part with takes it from the front of the
history of each part it touches. -/
theorem history_without {input : Input} {past rest run : List Input} {part : Part}
    (same : history touches part (input :: run) =
      history touches part (past ++ input :: rest))
    (apart : ∀ earlier ∈ past, touches earlier part = true → touches input part = false) :
    history touches part run = history touches part (past ++ rest) := by
  rw [history_append] at same ⊢
  cases own : touches input part with
  | false => rwa [history_cons_untouched own, history_cons_untouched own] at same
  | true =>
    have alone : history touches part past = [] := by
      rw [List.eq_nil_iff_forall_not_mem]
      intro earlier member
      obtain ⟨before, touched⟩ := mem_history.mp member
      have distinct := apart earlier before touched
      rw [own] at distinct
      contradiction
    rw [history_cons_touched own, history_cons_touched own, alone, List.nil_append,
      List.cons.injEq] at same
    rw [alone, List.nil_append]
    exact same.2

/-- Two runs with the same history of every part are the same run. The induction takes the inputs
of the first run in order and finds each in the second, past inputs it shares no part with. -/
theorem same_of_histories {run run' : List Input}
    (histories : ∀ part, history touches part run = history touches part run') :
    machine.SameRun Alike run run' := by
  induction run generalizing run' with
  | nil =>
    induction run' with
    | nil => exact footprint.same_refl []
    | cons input rest ih =>
      have untouched : ∀ part, touches input part = false := by
        intro part
        by_contra touched
        rw [Bool.not_eq_false] at touched
        have empty := histories part
        rw [history_cons_touched touched] at empty
        contradiction
      have others : ∀ part, history touches part [] = history touches part rest := by
        intro part
        rw [← history_cons_untouched (untouched part) rest]
        exact histories part
      exact footprint.same_trans (ih others)
        (footprint.same_symm (footprint.same_unnoticed untouched rest))
  | cons input run ih =>
    by_cases untouched : ∀ part, touches input part = false
    · have others : ∀ part, history touches part run = history touches part run' := by
        intro part
        rw [← history_cons_untouched (untouched part) run]
        exact histories part
      exact footprint.same_trans (footprint.same_unnoticed untouched run) (ih others)
    · obtain ⟨touched, touching⟩ := not_forall.mp untouched
      rw [Bool.not_eq_false] at touching
      have member : input ∈ run' := by
        have held : input ∈ history touches touched (input :: run) :=
          mem_history.mpr ⟨List.mem_cons_self, touching⟩
        rw [histories touched] at held
        exact (mem_history.mp held).1
      obtain ⟨past, rest, rfl, first⟩ := List.eq_append_cons_of_mem member
      have apart : ∀ earlier ∈ past, ∀ part, touches earlier part = true →
          touches input part = false := fun earlier before part touched =>
        first_of_history (histories part) first before touched
      have others : ∀ part, history touches part run = history touches part (past ++ rest) :=
        fun part => history_without (histories part) fun earlier before => apart earlier before part
      exact footprint.same_trans (footprint.same_cons input (ih others))
        (footprint.same_symm (footprint.same_front rest apart))

end Footprint

end Runs.Machine
