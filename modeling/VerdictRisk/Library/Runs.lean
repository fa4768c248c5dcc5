import Mathlib.Data.List.Forall2

/-!
# Runs of deterministic machines

A machine answers every input and moves to a next state. A property of one step is carried to
whole runs by one of these rules: an invariant of the state, a property that only some inputs
can end, a property that each step keeps under an exact condition, a relation between two
machines that answer alike, a relation between two runs over alike inputs or over the two sides
of one run of pairs, and a relation between a run and the same run with further inputs inserted.
-/

namespace Runs

/-- A deterministic machine: an input is answered and moves the state. -/
structure Machine (State Input Output : Type*) where
  step : State → Input → Output × State

namespace Machine

variable {State Other Input Extra Output Answer : Type*}
variable (machine : Machine State Input Output)

/-- The answer to one input. -/
def answer (state : State) (input : Input) : Output := (machine.step state input).1

/-- The state after one input. -/
def next (state : State) (input : Input) : State := (machine.step state input).2

/-- The state after a run. -/
def after : State → List Input → State
  | state, [] => state
  | state, input :: rest => after (machine.next state input) rest

/-- The answers given along a run. -/
def answers : State → List Input → List Output
  | _, [] => []
  | state, input :: rest => machine.answer state input :: answers (machine.next state input) rest

/-- The state after a run is that after its rest, from the state after its first input. -/
@[simp] theorem after_cons (state : State) (input : Input) (rest : List Input) :
    machine.after state (input :: rest) = machine.after (machine.next state input) rest := rfl

/-- Running two lists in turn runs their concatenation. -/
theorem after_append (state : State) (first second : List Input) :
    machine.after state (first ++ second) = machine.after (machine.after state first) second := by
  induction first generalizing state with
  | nil => rfl
  | cons input rest ih => exact ih (machine.next state input)

/-- The last input of a run moves the state the others reached. -/
@[simp] theorem after_snoc (state : State) (past : List Input) (input : Input) :
    machine.after state (past ++ [input]) = machine.next (machine.after state past) input :=
  machine.after_append state past [input]

/-- What every step keeps holds after every run. -/
theorem after_invariant {Invariant : State → Prop} {start : State} (initial : Invariant start)
    (kept : ∀ state input, Invariant state → Invariant (machine.next state input))
    (inputs : List Input) : Invariant (machine.after start inputs) := by
  induction inputs generalizing start with
  | nil => exact initial
  | cons input rest ih => exact ih (kept start input initial)

/-- What only some inputs can end holds after a run, or the run has one of these inputs. -/
theorem after_or_ended {Holds : State → Prop} {Ends : Input → Prop} {start : State}
    (initial : Holds start)
    (kept : ∀ state input, Holds state → Holds (machine.next state input) ∨ Ends input)
    (inputs : List Input) :
    Holds (machine.after start inputs) ∨ ∃ input ∈ inputs, Ends input := by
  induction inputs generalizing start with
  | nil => exact .inl initial
  | cons input rest ih =>
    rcases kept start input initial with holds | ends
    · rcases ih holds with holds | ⟨later, member, ends⟩
      · exact .inl holds
      · exact .inr ⟨later, List.mem_cons_of_mem _ member, ends⟩
    · exact .inr ⟨input, List.mem_cons_self, ends⟩

/-- Every step of a run meets a condition on its input and the state before it. -/
def Along (Meets : State → Input → Prop) : State → List Input → Prop
  | _, [] => True
  | state, input :: rest => Meets state input ∧ Along Meets (machine.next state input) rest

/-- A property that each step keeps exactly when it meets a condition holds after every beginning
of a run exactly when it holds at the start and the condition is met along the run. -/
theorem holds_throughout_iff {Holds : State → Prop} {Meets : State → Input → Prop}
    (exact : ∀ state input, Holds state → (Holds (machine.next state input) ↔ Meets state input))
    (start : State) (inputs : List Input) :
    (∀ past, past <+: inputs → Holds (machine.after start past)) ↔
      Holds start ∧ machine.Along Meets start inputs := by
  induction inputs generalizing start with
  | nil =>
    constructor
    · intro throughout
      exact ⟨throughout [] (List.prefix_refl []), trivial⟩
    · rintro ⟨holds, _⟩ past beginning
      rw [List.prefix_nil.mp beginning]
      exact holds
  | cons input rest ih =>
    constructor
    · intro throughout
      have holds : Holds start := throughout [] List.nil_prefix
      have onward : ∀ past, past <+: rest → Holds (machine.after (machine.next start input) past) :=
        fun past beginning =>
          throughout (input :: past) (List.cons_prefix_cons.mpr ⟨rfl, beginning⟩)
      obtain ⟨kept, meets⟩ := (ih (machine.next start input)).mp onward
      exact ⟨holds, (exact start input holds).mp kept, meets⟩
    · rintro ⟨holds, meets, later⟩ past beginning
      have kept := (exact start input holds).mpr meets
      rcases List.prefix_cons_iff.mp beginning with rfl | ⟨more, rfl, shorter⟩
      · exact holds
      · exact (ih (machine.next start input)).mpr ⟨kept, later⟩ more shorter

/-- Machines that answer alike in related states, and stay related, answer alike along every
run. -/
theorem answers_eq (other : Machine Other Input Output) {Related : State → Other → Prop}
    (alike : ∀ state state' input, Related state state' →
      machine.answer state input = other.answer state' input ∧
        Related (machine.next state input) (other.next state' input))
    {state : State} {state' : Other} (related : Related state state') (inputs : List Input) :
    machine.answers state inputs = other.answers state' inputs := by
  induction inputs generalizing state state' with
  | nil => rfl
  | cons input rest ih =>
    obtain ⟨same, onward⟩ := alike state state' input related
    rw [answers, answers, same, ih onward]

/-- A map of states that commutes with one step commutes with runs. -/
theorem map_after (other : Machine Other Input Answer) {map : State → Other}
    (commutes : ∀ state input, map (machine.next state input) = other.next (map state) input)
    (state : State) (inputs : List Input) :
    map (machine.after state inputs) = other.after (map state) inputs := by
  induction inputs generalizing state with
  | nil => rfl
  | cons input rest ih => rw [after_cons, after_cons, ih, commutes]

/-- When alike inputs are answered in agreement in related states, and keep them related, so
are two runs of inputs that are alike one by one. -/
theorem answers_agree {Alike : Input → Input → Prop} {Agree : Output → Output → Prop}
    {Related : State → State → Prop}
    (step : ∀ state state' input input', Related state state' → Alike input input' →
      Agree (machine.answer state input) (machine.answer state' input') ∧
        Related (machine.next state input) (machine.next state' input'))
    {state state' : State} (related : Related state state') {inputs inputs' : List Input}
    (alike : List.Forall₂ Alike inputs inputs') :
    List.Forall₂ Agree (machine.answers state inputs) (machine.answers state' inputs') ∧
      Related (machine.after state inputs) (machine.after state' inputs') := by
  induction alike generalizing state state' with
  | nil => exact ⟨.nil, related⟩
  | @cons input input' rest rest' head _ ih =>
    obtain ⟨agree, onward⟩ := step state state' input input' related head
    obtain ⟨agrees, final⟩ := ih onward
    exact ⟨.cons agree agrees, final⟩

section Twins

variable {Pair : Type*} {Related : State → State → Prop} {left right : Pair → Input}

/-- The machine that reads one side of each pair of inputs. -/
def reading (side : Pair → Input) : Machine State Pair Output :=
  ⟨fun state pair => machine.step state (side pair)⟩

/-- The two sides of a run of pairs are answered alike when, in related states, each pair that
meets the condition is and keeps the states related. -/
theorem twins_alike {Meets : State → Pair → Prop}
    (step : ∀ state state' pair, Related state state' → Meets state pair →
      machine.answer state (left pair) = machine.answer state' (right pair) ∧
        Related (machine.next state (left pair)) (machine.next state' (right pair)))
    {state state' : State} (related : Related state state') {pairs : List Pair}
    (meets : (machine.reading left).Along Meets state pairs) :
    machine.answers state (pairs.map left) = machine.answers state' (pairs.map right) := by
  induction pairs generalizing state state' with
  | nil => rfl
  | cons pair rest ih =>
    obtain ⟨now, later⟩ := meets
    obtain ⟨same, onward⟩ := step state state' pair related now
    have tails := ih onward later
    rw [List.map_cons, List.map_cons, answers, answers, same, tails]

/-- The two sides of a run of pairs move through the same states exactly when each pair meets the
condition under which its sides move one state alike. -/
theorem twins_same_iff {Meets : State → Pair → Prop}
    (exact : ∀ state pair,
      machine.next state (left pair) = machine.next state (right pair) ↔ Meets state pair)
    (state : State) (pairs : List Pair) :
    (∀ past, past <+: pairs →
      machine.after state (past.map left) = machine.after state (past.map right)) ↔
      (machine.reading left).Along Meets state pairs := by
  induction pairs generalizing state with
  | nil =>
    refine iff_of_true ?_ trivial
    intro past beginning
    rw [List.prefix_nil.mp beginning]
    rfl
  | cons pair rest ih =>
    constructor
    · intro same
      have first : machine.next state (left pair) = machine.next state (right pair) :=
        same [pair] ⟨rest, rfl⟩
      refine ⟨(exact state pair).mp first, (ih _).mp ?_⟩
      intro past beginning
      have later := same (pair :: past) (List.cons_prefix_cons.mpr ⟨rfl, beginning⟩)
      rw [List.map_cons, List.map_cons, after_cons, after_cons, ← first] at later
      exact later
    · rintro ⟨meets, later⟩ past beginning
      rcases List.prefix_cons_iff.mp beginning with rfl | ⟨more, rfl, shorter⟩
      · rfl
      · rw [List.map_cons, List.map_cons, after_cons, after_cons, ← (exact state pair).mpr meets]
        exact (ih _).mpr later more shorter

/-- Against a side that meets a condition throughout, the other side is answered alike exactly when
it meets the condition throughout. -/
theorem twins_alike_iff {Meets : State → Input → Prop}
    (exact : ∀ state state' pair, Related state state' → Meets state' (right pair) →
      (machine.answer state (left pair) = machine.answer state' (right pair) ↔
        Meets state (left pair)))
    (onward : ∀ state state' pair, Related state state' → Meets state' (right pair) →
      Meets state (left pair) →
        Related (machine.next state (left pair)) (machine.next state' (right pair)))
    {state state' : State} (related : Related state state') {pairs : List Pair}
    (meets : machine.Along Meets state' (pairs.map right)) :
    machine.answers state (pairs.map left) = machine.answers state' (pairs.map right) ↔
      machine.Along Meets state (pairs.map left) := by
  induction pairs generalizing state state' with
  | nil => exact iff_of_true rfl trivial
  | cons pair rest ih =>
    obtain ⟨now, later⟩ := meets
    rw [List.map_cons, List.map_cons, answers, answers, List.cons.injEq,
      exact state state' pair related now]
    constructor
    · rintro ⟨meets, tails⟩
      exact ⟨meets, (ih (onward state state' pair related now meets) later).mp tails⟩
    · rintro ⟨meets, tails⟩
      exact ⟨meets, (ih (onward state state' pair related now meets) later).mpr tails⟩

end Twins

variable (embed : Extra → Input)

/-- The inputs of a run that were not inserted. -/
def originals : List (Extra ⊕ Input) → List Input
  | [] => []
  | .inl _ :: rest => originals rest
  | .inr input :: rest => input :: originals rest

/-- The answers to the inputs of a run that were not inserted. -/
def originalAnswers : State → List (Extra ⊕ Input) → List Output
  | _, [] => []
  | state, .inl extra :: rest => originalAnswers (machine.next state (embed extra)) rest
  | state, .inr input :: rest =>
    machine.answer state input :: originalAnswers (machine.next state input) rest

/-- A relation between the plain and the extended run, which may look at the inputs still to
come, makes the inserted inputs unobservable when inserted inputs keep it and original ones
keep it and are answered alike. -/
theorem originalAnswers_eq (Related : List (Extra ⊕ Input) → State → State → Prop)
    (inserted : ∀ extra rest plain extended, Related (.inl extra :: rest) plain extended →
      Related rest plain (machine.next extended (embed extra)))
    (original : ∀ input rest plain extended, Related (.inr input :: rest) plain extended →
      machine.answer plain input = machine.answer extended input ∧
        Related rest (machine.next plain input) (machine.next extended input))
    {plain extended : State} {run : List (Extra ⊕ Input)} (related : Related run plain extended) :
    machine.originalAnswers embed extended run = machine.answers plain (originals run) := by
  induction run generalizing plain extended with
  | nil => rfl
  | cons head rest ih =>
    cases head with
    | inl extra => exact ih (inserted extra rest plain extended related)
    | inr input =>
      obtain ⟨same, onward⟩ := original input rest plain extended related
      rw [originalAnswers, originals, answers, same, ih onward]

end Machine

end Runs
