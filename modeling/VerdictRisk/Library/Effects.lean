import Mathlib.Data.List.Basic

/-!
# Computations with effects

A computation acts on its surroundings, one effect after the other, and returns or raises. The
rules here say what a sequence performs, that blocks which are closed however their body ends
are closed in the reverse order of their opening, and which of several settings is in force.
-/

namespace Effects

/-- The effects of a computation, in order, and how it ends. -/
structure Run (Effect Error Value : Type) where
  effects : List Effect
  outcome : Except Error Value

namespace Run

variable {Effect Error Value Result : Type}

/-- The effects of a computation that returns. -/
def perform (effects : List Effect) : Run Effect Error Unit := ⟨effects, .ok ()⟩

/-- A computation without effects. -/
def lift (outcome : Except Error Value) : Run Effect Error Value := ⟨[], outcome⟩

/-- In sequence: what follows a computation that raises is not reached. -/
def andThen (first : Run Effect Error Value) (next : Value → Run Effect Error Result) :
    Run Effect Error Result :=
  match first.outcome with
  | .error raised => ⟨first.effects, .error raised⟩
  | .ok value => ⟨first.effects ++ (next value).effects, (next value).outcome⟩

/-- Computations one after the other: the effects are appended, and an error ends them. -/
instance : Monad (Run Effect Error) where
  pure value := ⟨[], .ok value⟩
  bind := andThen

/-- What a computation raises. -/
def raised : Except Error Value → Option Error
  | .error raised => some raised
  | .ok _ => none

/-- A block: it is entered, and left with what its body raises. -/
def within (enter : Effect) (leave : Option Error → Effect) (body : Run Effect Error Value) :
    Run Effect Error Value :=
  ⟨enter :: (body.effects ++ [leave (raised body.outcome)]), body.outcome⟩

/-- `try` with a handler for some of what can be raised. -/
def recover (body : Run Effect Error Value) (handler : Error → Option (Run Effect Error Value)) :
    Run Effect Error Value :=
  match body.outcome with
  | .ok _ => body
  | .error raised => match handler raised with
    | none => body
    | some handled => ⟨body.effects ++ handled.effects, handled.outcome⟩

/-- A loop whose body may return from it, and what is returned after it. -/
def loop {Item : Type} (body : Item → Run Effect Error (Option Value)) (after : Value) :
    List Item → Run Effect Error Value
  | [] => pure after
  | item :: rest => do
    match ← body item with
    | some value => pure value
    | none => loop body after rest

/-- A returned value raises nothing. -/
@[simp] theorem raised_ok (value : Value) : raised (.ok value : Except Error Value) = none := rfl

/-- An error is what is raised. -/
@[simp] theorem raised_error (error : Error) :
    raised (.error error : Except Error Value) = some error := rfl

/-- A value that is returned has no effects. -/
@[simp] theorem effects_pure (value : Value) :
    (pure value : Run Effect Error Value).effects = [] := rfl

/-- A value that is returned is the outcome. -/
@[simp] theorem outcome_pure (value : Value) :
    (pure value : Run Effect Error Value).outcome = .ok value := rfl

/-- Performed effects are the effects. -/
@[simp] theorem effects_perform (effects : List Effect) :
    (perform effects : Run Effect Error Unit).effects = effects := rfl

/-- Performing effects returns. -/
@[simp] theorem outcome_perform (effects : List Effect) :
    (perform effects : Run Effect Error Unit).outcome = .ok () := rfl

/-- An outcome of its own has no effects. -/
@[simp] theorem effects_lift (outcome : Except Error Value) :
    (lift outcome : Run Effect Error Value).effects = [] := rfl

/-- An outcome of its own is the outcome. -/
@[simp] theorem outcome_lift (outcome : Except Error Value) :
    (lift outcome : Run Effect Error Value).outcome = outcome := rfl

/-- A block ends as its body does. -/
@[simp] theorem outcome_within (enter : Effect) (leave : Option Error → Effect)
    (body : Run Effect Error Value) : (within enter leave body).outcome = body.outcome := rfl

/-- A block is entered before the effects of its body and left after them. -/
@[simp] theorem effects_within (enter : Effect) (leave : Option Error → Effect)
    (body : Run Effect Error Value) :
    (within enter leave body).effects =
      enter :: (body.effects ++ [leave (raised body.outcome)]) := rfl

/-- How a sequence ends does not depend on its effects. -/
@[simp] theorem outcome_bind (first : Run Effect Error Value)
    (next : Value → Run Effect Error Result) :
    (first >>= next).outcome = first.outcome >>= fun value => (next value).outcome := by
  obtain ⟨effects, outcome⟩ := first
  cases outcome <;> rfl

/-- A value that is at hand is passed on. -/
theorem lift_ok_bind (value : Value) (next : Value → Run Effect Error Result) :
    (lift (.ok value) >>= next) = next value := rfl

/-- A sequence whose first part returns. -/
theorem bind_of_ok {first : Run Effect Error Value} {value : Value}
    (returned : first.outcome = .ok value) (next : Value → Run Effect Error Result) :
    (first >>= next) = ⟨first.effects ++ (next value).effects, (next value).outcome⟩ := by
  change andThen first next = _
  rw [andThen, returned]

/-- A sequence whose first part raises. -/
theorem bind_of_error {first : Run Effect Error Value} {error : Error}
    (raised : first.outcome = .error error) (next : Value → Run Effect Error Result) :
    (first >>= next) = ⟨first.effects, .error error⟩ := by
  change andThen first next = _
  rw [andThen, raised]

end Run

section Loops

variable {Item : Type} {continues : Item → Bool}

/-- The items up to and including the first that does not continue. -/
def upTo (continues : Item → Bool) : List Item → List Item
  | [] => []
  | item :: rest => item :: if continues item then upTo continues rest else []

/-- They come first. -/
theorem upTo_comes_first (items : List Item) : upTo continues items <+: items := by
  induction items with
  | nil => exact List.nil_prefix
  | cons item rest ih =>
    rw [upTo, List.prefix_cons_inj]
    split
    · exact ih
    · exact List.nil_prefix

/-- All of them continue but perhaps the last, which is then followed by none. -/
theorem upTo_cases (items : List Item) :
    (upTo continues items = items ∧ ∀ item ∈ items, continues item = true) ∨
      ∃ before last, upTo continues items = before ++ [last] ∧
        (∀ item ∈ before, continues item = true) ∧ continues last = false := by
  induction items with
  | nil => exact .inl ⟨rfl, by simp⟩
  | cons item rest ih =>
    rw [upTo]
    cases goesOn : continues item with
    | false => exact .inr ⟨[], item, rfl, by simp, goesOn⟩
    | true =>
      rw [if_pos rfl]
      rcases ih with ⟨same, all⟩ | ⟨before, last, split, all, stops⟩
      · exact .inl ⟨congrArg _ same, List.forall_mem_cons.mpr ⟨goesOn, all⟩⟩
      · exact .inr ⟨item :: before, last, congrArg _ split,
          List.forall_mem_cons.mpr ⟨goesOn, all⟩, stops⟩

namespace Run

variable {Effect Error Value : Type}

/-- Whether the body of a loop neither raises nor returns from it. -/
def goesOn (body : Item → Run Effect Error (Option Value)) (item : Item) : Bool :=
  match (body item).outcome with
  | .ok none => true
  | _ => false

/-- A loop performs its body for all items and ends after them, or up to the first item that ends
it, and ends as that item does. -/
theorem loop_cases (body : Item → Run Effect Error (Option Value)) (after : Value)
    (items : List Item) :
    ((∀ item ∈ items, goesOn body item = true) ∧
      loop body after items = ⟨items.flatMap fun item => (body item).effects, .ok after⟩) ∨
    ∃ before last rest, items = before ++ last :: rest ∧
      (∀ item ∈ before, goesOn body item = true) ∧ goesOn body last = false ∧
      loop body after items =
        ⟨(before ++ [last]).flatMap fun item => (body item).effects,
          (body last).outcome.map fun returned => returned.getD after⟩ := by
  induction items with
  | nil => exact .inl ⟨by simp, rfl⟩
  | cons item rest ih =>
    rw [loop]
    rcases ended : (body item).outcome with raised | - | value
    · rw [bind_of_error ended]
      refine .inr ⟨[], item, rest, rfl, by simp, by rw [goesOn, ended], ?_⟩
      simp [ended, Except.map]
    · have next : goesOn body item = true := by rw [goesOn, ended]
      rw [bind_of_ok ended]
      rcases ih with ⟨all, same⟩ | ⟨before, last, others, split, all, stops, same⟩
      · rw [same]
        exact .inl ⟨List.forall_mem_cons.mpr ⟨next, all⟩, rfl⟩
      · rw [same]
        exact .inr ⟨item :: before, last, others, congrArg _ split,
          List.forall_mem_cons.mpr ⟨next, all⟩, stops, rfl⟩
    · rw [bind_of_ok ended]
      refine .inr ⟨[], item, rest, rfl, by simp, by rw [goesOn, ended], ?_⟩
      simp [ended, Except.map]

end Run

end Loops

section Blocks

variable {Effect Name : Type}

/-- What an effect does to the blocks that are open. -/
inductive Role (Name : Type) where
  | opens (name : Name)
  | closes (name : Name)
  | plain

variable [DecidableEq Name] {role : Effect → Role Name}

/-- The blocks that are open after an effect, innermost first; only the innermost can be closed. -/
def act (role : Effect → Role Name) (blocks : List Name) (effect : Effect) : Option (List Name) :=
  match role effect, blocks with
  | .plain, _ => some blocks
  | .opens name, _ => some (name :: blocks)
  | .closes _, [] => none
  | .closes name, innermost :: others => if innermost = name then some others else none

/-- Whatever is open, these effects open and close their own blocks, innermost first. -/
def Balanced (role : Effect → Role Name) (effects : List Effect) : Prop :=
  ∀ blocks, effects.foldlM (act role) blocks = some blocks

/-- No effects are balanced. -/
theorem balanced_nil : Balanced role [] := fun _ => rfl

/-- Balanced effects after balanced effects are balanced. -/
theorem balanced_append {before after : List Effect} (first : Balanced role before)
    (second : Balanced role after) : Balanced role (before ++ after) := by
  intro blocks
  rw [List.foldlM_append, first blocks]
  exact second blocks

/-- The effects of groups are balanced when those of each group are. -/
theorem balanced_flatMap {Group : Type} {effects : Group → List Effect} {groups : List Group}
    (each : ∀ group ∈ groups, Balanced role (effects group)) :
    Balanced role (groups.flatMap effects) := by
  induction groups with
  | nil => exact balanced_nil
  | cons group rest ih =>
    rw [List.forall_mem_cons] at each
    rw [List.flatMap_cons]
    exact balanced_append each.1 (ih each.2)

/-- Effects that neither open nor close a block are balanced. -/
theorem balanced_plain {effects : List Effect} (plain : ∀ effect ∈ effects, role effect = .plain) :
    Balanced role effects := by
  induction effects with
  | nil => exact balanced_nil
  | cons effect rest ih =>
    rw [List.forall_mem_cons] at plain
    intro blocks
    have kept : act role blocks effect = some blocks := by
      unfold act
      rw [plain.1]
    rw [List.foldlM_cons, kept]
    exact ih plain.2 blocks

/-- A block is balanced if its body is. -/
theorem balanced_block {enter leave : Effect} {name : Name} {effects : List Effect}
    (opens : role enter = .opens name) (closes : role leave = .closes name)
    (body : Balanced role effects) : Balanced role (enter :: (effects ++ [leave])) := by
  intro blocks
  have entered : act role blocks enter = some (name :: blocks) := by
    unfold act
    rw [opens]
  have left : act role (name :: blocks) leave = some blocks := by
    unfold act
    rw [closes]
    exact if_pos rfl
  rw [List.foldlM_cons, entered, Option.bind_eq_bind, Option.bind_some, List.foldlM_append,
    body, Option.bind_eq_bind, Option.bind_some, List.foldlM_cons, left]
  rfl

end Blocks

section Settings

variable {Effect Value : Type}

/-- The value in force after some effects: the last one that was set. -/
def latest (sets : Effect → Option Value) (effects : List Effect) : Option Value :=
  effects.reverse.findSome? sets

/-- Without effects no setting is in force. -/
@[simp] theorem latest_nil (sets : Effect → Option Value) : latest sets [] = none := rfl

/-- The settings made later are in force before the earlier ones. -/
@[simp] theorem latest_append (sets : Effect → Option Value) (before after : List Effect) :
    latest sets (before ++ after) = (latest sets after).or (latest sets before) := by
  rw [latest, List.reverse_append, List.findSome?_append]
  rfl

/-- The first effect sets what no later effect does. -/
@[simp] theorem latest_cons (sets : Effect → Option Value) (effect : Effect)
    (effects : List Effect) :
    latest sets (effect :: effects) = (latest sets effects).or (sets effect) := by
  have single : latest sets [effect] = sets effect := by
    simp only [latest, List.reverse_singleton, List.findSome?_cons, List.findSome?_nil]
    cases sets effect <;> rfl
  rw [← List.singleton_append, latest_append, single]

variable {Group : Type} {sets : Effect → Option Value} {effects : Group → List Effect}

/-- Groups of effects that set nothing leave nothing in force. -/
theorem latest_flatMap_unset {groups : List Group}
    (unset : ∀ group ∈ groups, latest sets (effects group) = none) :
    latest sets (groups.flatMap effects) = none := by
  induction groups with
  | nil => rfl
  | cons group rest ih =>
    rw [List.forall_mem_cons] at unset
    rw [List.flatMap_cons, latest_append, unset.1, ih unset.2, Option.none_or]

/-- If only one of several groups sets anything, its value is in force. -/
theorem latest_flatMap {group : Group} {groups : List Group} (mem : group ∈ groups)
    (others : ∀ other ∈ groups, other ≠ group → latest sets (effects other) = none) :
    latest sets (groups.flatMap effects) = latest sets (effects group) := by
  induction groups with
  | nil => contradiction
  | cons head rest ih =>
    rw [List.forall_mem_cons] at others
    rw [List.flatMap_cons, latest_append]
    by_cases later : group ∈ rest
    · rw [ih later others.2]
      by_cases same : head = group
      · rw [same, Option.or_self]
      · rw [others.1 same, Option.or_none]
    · have here : head = group := ((List.mem_cons.mp mem).resolve_right later).symm
      have unset : ∀ other ∈ rest, latest sets (effects other) = none := fun other found =>
        others.2 other found fun same => later (same ▸ found)
      rw [latest_flatMap_unset unset, here, Option.none_or]

end Settings

end Effects
