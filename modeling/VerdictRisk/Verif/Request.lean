import VerdictRisk.Request
import VerdictRisk.Library.Validation

/-!
# Valid requests

A request is constructed from ten arguments that are checked in a fixed order. `requestSlots` lists
them with what each has to be. A number is converted before it is checked, and the conversion of an
`int` that no double can hold raises something else than the boundary's error.
-/

namespace VerdictRisk

open Python Validation

/-- What an argument has to be. -/
inductive SlotKind where
  | identifier
  | number
  | positions
  | tradeOutcomes
  | time
  | advisory
deriving DecidableEq

/-- An argument under its name. -/
structure RequestSlot where
  name : String
  kind : SlotKind
  value : Argument

/-- The arguments in the order in which they are checked. -/
def requestSlots (arguments : RequestArguments) : List RequestSlot :=
  [⟨"run_id", .identifier, arguments.runId⟩,
    ⟨"target_family", .identifier, arguments.targetFamily⟩,
    ⟨"daily_realized_pnl", .number, arguments.dailyRealizedPnl⟩,
    ⟨"equity", .number, arguments.equity⟩,
    ⟨"proposed_cost", .number, arguments.proposedCost⟩,
    ⟨"expected_value", .number, arguments.expectedValue⟩,
    ⟨"open_positions", .positions, arguments.openPositions⟩,
    ⟨"trade_outcomes", .tradeOutcomes, arguments.tradeOutcomes⟩,
    ⟨"current_time", .time, arguments.currentTime⟩,
    ⟨"advisory", .advisory, arguments.advisory⟩]

/-- The argument is a list or a tuple of the items. -/
def IsSequence {Item : Type} (made : Item → Argument) (value : Argument) (items : List Item) :
    Prop :=
  value = .list (items.map made) ∨ value = .tuple (items.map made)

/-- The argument that a time is given as. -/
def timeArgument : Option DateTime → Argument
  | none => .none
  | some dt => .datetime dt

/-- The argument is an advisory or its absence. -/
def IsAdvisory (value : Argument) : Option Entries → Prop
  | none => value = .none
  | some entries => ∃ typeName, value = .mapping typeName entries

/-- The argument is a number that cannot be converted to a double. -/
def RequestSlot.Oversized (slot : RequestSlot) : Prop :=
  slot.kind = .number ∧ ∃ n : ℤ, slot.value = .int n ∧ PyNum.floatLimit ≤ n.natAbs

/-- The error is the boundary's. -/
def IsBoundaryError (error : RequestError) : Prop :=
  ∃ fieldName message, error = .riskProviderError fieldName message

/-- The name in the boundary's error: two of the checks name their field themselves. -/
def RequestSlot.errorName (slot : RequestSlot) : String :=
  match slot.kind with
  | .time => "current_time"
  | .advisory => "advisory"
  | _ => slot.name

/-- The names in the errors are those of the arguments. -/
theorem errorName_eq {arguments : RequestArguments} {slot : RequestSlot}
    (member : slot ∈ requestSlots arguments) : slot.errorName = slot.name := by
  simp only [requestSlots, List.mem_cons, List.not_mem_nil, or_false] at member
  rcases member with rfl | rfl | rfl | rfl | rfl | rfl | rfl | rfl | rfl | rfl <;> rfl

/-- A string with a character that is not a space is accepted as it is. -/
theorem requireIdentifier_ok_iff {name : String} {value : Argument} {text : Identifier} :
    requireIdentifier name value = .ok text ↔ value = .str text.val := by
  cases value with
  | str given =>
    rw [requireIdentifier, Argument.str.injEq]
    split
    · rw [Except.ok.injEq]
      exact ⟨fun same => congrArg Subtype.val same, fun same => Subtype.ext same⟩
    · rename_i blank
      refine iff_of_false nofun ?_
      rintro rfl
      exact blank text.property
  | none | bool | int | float | list | tuple | position | tradeOutcome | datetime | mapping
    | object => exact iff_of_false nofun nofun

/-- A refused name is named in the error. -/
theorem requireIdentifier_error {name : String} {value : Argument} {error : RequestError}
    (refused : requireIdentifier name value = .error error) :
    ∃ message, error = .riskProviderError name message := by
  unfold requireIdentifier at refused
  split at refused
  · split at refused
    · contradiction
    · cases refused
      exact ⟨_, rfl⟩
  · cases refused
    exact ⟨_, rfl⟩

/-- Positions are accepted as positions. -/
theorem asPosition_iff (value : Argument) (pos : Position) :
    value.asPosition = some pos ↔ value = .position pos := by
  cases value <;> simp [Argument.asPosition]

/-- Outcomes are accepted as outcomes. -/
theorem asTradeOutcome_iff (value : Argument) (outcome : TradeOutcome) :
    value.asTradeOutcome = some outcome ↔ value = .tradeOutcome outcome := by
  cases value <;> simp [Argument.asTradeOutcome]

/-- A sequence of items of the type is accepted as it is. -/
theorem requireItems_ok_iff {Item : Type} {name itemType : String}
    {accept : Argument → Option Item} {made : Item → Argument}
    (exactly : ∀ value item, accept value = some item ↔ value = made item) (index : ℕ)
    (values : List Argument) (items : List Item) :
    requireItems name itemType accept index values = .ok items ↔ values = items.map made := by
  induction values generalizing index items with
  | nil =>
    rw [requireItems, Except.ok.injEq]
    cases items <;> simp
  | cons value rest ih =>
    rw [requireItems]
    cases accepted : accept value with
    | none =>
      refine iff_of_false nofun ?_
      intro same
      cases items with
      | nil => contradiction
      | cons item items =>
        rw [List.map_cons, List.cons.injEq] at same
        rw [(exactly value item).mpr same.1] at accepted
        contradiction
    | some item =>
      have given := (exactly value item).mp accepted
      simp only [Fallible.map_ok_iff, ih]
      constructor
      · rintro ⟨others, rfl, rfl⟩
        rw [List.map_cons, given]
      · intro same
        cases items with
        | nil => contradiction
        | cons head others =>
          rw [List.map_cons, List.cons.injEq] at same
          rw [(exactly value head).mpr same.1, Option.some.injEq] at accepted
          exact ⟨others, same.2, by rw [accepted]⟩

/-- A refused item is reported under the name of the sequence. -/
theorem requireItems_error {Item : Type} {name itemType : String}
    {accept : Argument → Option Item} (index : ℕ) (values : List Argument) {error : RequestError}
    (refused : requireItems name itemType accept index values = .error error) :
    ∃ message, error = .riskProviderError name message := by
  induction values generalizing index with
  | nil => contradiction
  | cons value rest ih =>
    rw [requireItems] at refused
    split at refused
    · rename_i item _
      cases later : requireItems name itemType accept (index + 1) rest with
      | ok items =>
        rw [later] at refused
        contradiction
      | error error' =>
        rw [later] at refused
        cases refused
        exact ih (index + 1) later
    · cases refused
      exact ⟨_, rfl⟩

/-- A list or a tuple of items of the type is accepted in its order. -/
theorem requireTupleOf_ok_iff {Item : Type} {name itemType : String}
    {accept : Argument → Option Item} {made : Item → Argument}
    (exactly : ∀ value item, accept value = some item ↔ value = made item) (value : Argument)
    (items : List Item) :
    requireTupleOf name itemType accept value = .ok items ↔ IsSequence made value items := by
  unfold IsSequence
  cases value with
  | list values => simpa [requireTupleOf] using requireItems_ok_iff exactly 0 values items
  | tuple values => simpa [requireTupleOf] using requireItems_ok_iff exactly 0 values items
  | none | bool | int | float | str | position | tradeOutcome | datetime | mapping | object =>
    simp [requireTupleOf]

/-- A refused sequence is named in the error. -/
theorem requireTupleOf_error {Item : Type} {name itemType : String}
    {accept : Argument → Option Item} {value : Argument} {error : RequestError}
    (refused : requireTupleOf name itemType accept value = .error error) :
    ∃ message, error = .riskProviderError name message := by
  cases value with
  | list values => exact requireItems_error 0 values refused
  | tuple values => exact requireItems_error 0 values refused
  | none | bool | int | float | str | position | tradeOutcome | datetime | mapping | object =>
    cases refused
    exact ⟨_, rfl⟩

/-- A time or `None` is accepted as it is. -/
theorem requireTime_ok_iff {value : Argument} {time : Option DateTime} :
    requireTime value = .ok time ↔ value = timeArgument time := by
  cases value <;> cases time <;> simp [requireTime, timeArgument]

/-- A refused time is named in the error. -/
theorem requireTime_error {value : Argument} {error : RequestError}
    (refused : requireTime value = .error error) :
    ∃ message, error = .riskProviderError "current_time" message := by
  unfold requireTime at refused
  split at refused <;> cases refused
  exact ⟨_, rfl⟩

/-- An advisory or `None` is accepted as it is. -/
theorem requireAdvisory_ok_iff {value : Argument} {entries : Option Entries} :
    requireAdvisory value = .ok entries ↔ IsAdvisory value entries := by
  cases value <;> cases entries <;> simp [requireAdvisory, IsAdvisory]

/-- A refused advisory is named in the error. -/
theorem requireAdvisory_error {value : Argument} {error : RequestError}
    (refused : requireAdvisory value = .error error) :
    ∃ message, error = .riskProviderError "advisory" message := by
  unfold requireAdvisory at refused
  split at refused <;> cases refused
  exact ⟨_, rfl⟩

section Slots

variable [FloatFormat]

/-- The argument is a number, an `int` that a double can hold or a `float`, with the float that it
is converted to. -/
def Denotes (value : Argument) (x : PyFloat) : Prop :=
  value = .float x ∨
    ∃ n : ℤ, value = .int n ∧ n.natAbs < PyNum.floatLimit ∧ x = (PyNum.int n).toFloat

/-- The argument is what it has to be. -/
def RequestSlot.Valid (slot : RequestSlot) : Prop :=
  match slot.kind with
  | .identifier => ∃ text, slot.value = .str text ∧ isBlank text = false
  | .number => ∃ x, Denotes slot.value x ∧ x.isFinite = true
  | .positions => ∃ positions, IsSequence .position slot.value positions
  | .tradeOutcomes => ∃ outcomes, IsSequence .tradeOutcome slot.value outcomes
  | .time => ∃ time, slot.value = timeArgument time
  | .advisory => ∃ entries, IsAdvisory slot.value entries

/-- A request holds its arguments: the names and the times as they were given, the numbers as
finite floats, and the sequences in their order. -/
structure HoldsArguments (arguments : RequestArguments) (request : RiskProviderRequest) : Prop where
  runId : arguments.runId = .str request.runId ∧ isBlank request.runId = false
  targetFamily : arguments.targetFamily = .str request.targetFamily ∧
    isBlank request.targetFamily = false
  dailyRealizedPnl : Denotes arguments.dailyRealizedPnl request.dailyRealizedPnl.val ∧
    request.dailyRealizedPnl.val.isFinite = true
  equity : Denotes arguments.equity request.equity.val ∧ request.equity.val.isFinite = true
  proposedCost : Denotes arguments.proposedCost request.proposedCost.val ∧
    request.proposedCost.val.isFinite = true
  expectedValue : Denotes arguments.expectedValue request.expectedValue.val ∧
    request.expectedValue.val.isFinite = true
  openPositions : IsSequence .position arguments.openPositions request.openPositions
  tradeOutcomes : IsSequence .tradeOutcome arguments.tradeOutcomes request.tradeOutcomes
  currentTime : arguments.currentTime = timeArgument request.currentTime
  advisory : IsAdvisory arguments.advisory request.advisory

/-- A request is constructed from its arguments, or the boundary's error names an argument that is
invalid. -/
def RequestSound (arguments : RequestArguments) : Prop :=
  match RiskProviderRequest.ofArguments arguments with
  | .ok request => HoldsArguments arguments request
  | .error (.riskProviderError fieldName _) =>
    ∃ slot ∈ requestSlots arguments, slot.name = fieldName ∧ ¬ slot.Valid
  | .error (.other _) => False

/-- A finite float is accepted as it is. -/
theorem requireFiniteFloat_ok_iff {name : String} {number : PyFloat} {x : FiniteFloat} :
    requireFiniteFloat name number = .ok x ↔ number = x.val := by
  unfold requireFiniteFloat
  split
  · rw [Except.ok.injEq]
    exact ⟨fun same => congrArg Subtype.val same, fun same => Subtype.ext same⟩
  · rename_i infinite
    refine iff_of_false nofun ?_
    rintro rfl
    exact infinite x.property

/-- A number that is finite after its conversion is accepted as it is. -/
theorem requireFinite_ok_iff {name : String} {value : Argument} {x : FiniteFloat} :
    requireFinite name value = .ok x ↔ Denotes value x.val := by
  unfold Denotes
  cases value with
  | int n =>
    rw [requireFinite]
    split
    · rename_i fits
      rw [requireFiniteFloat_ok_iff]
      simp [fits, eq_comm]
    · rename_i large
      simp [large]
  | float given => simp [requireFinite, requireFiniteFloat_ok_iff]
  | none | bool | str | list | tuple | position | tradeOutcome | datetime | mapping | object =>
    simp [requireFinite]

/-- A refused number is named in the error, unless it is an `int` that no double can hold. -/
theorem requireFinite_error {name : String} {value : Argument} {error : RequestError}
    (refused : requireFinite name value = .error error) :
    (∃ message, error = .riskProviderError name message) ∨
      ∃ n : ℤ, value = .int n ∧ PyNum.floatLimit ≤ n.natAbs := by
  have infinite : ∀ number : PyFloat, requireFiniteFloat name number = .error error →
      ∃ message, error = .riskProviderError name message := by
    intro number refused
    unfold requireFiniteFloat at refused
    split at refused
    · contradiction
    · cases refused
      exact ⟨_, rfl⟩
  cases value with
  | int n =>
    rw [requireFinite] at refused
    split at refused
    · exact .inl (infinite _ refused)
    · rename_i large
      exact .inr ⟨n, rfl, not_lt.mp large⟩
  | float x => exact .inl (infinite x refused)
  | none | bool | str | list | tuple | position | tradeOutcome | datetime | mapping | object =>
    cases refused
    exact .inl ⟨_, rfl⟩

/-- What the constructor raises at an argument. -/
def RequestSlot.raises (slot : RequestSlot) : Option RequestError :=
  match slot.kind with
  | .identifier => raised (requireIdentifier slot.name slot.value)
  | .number => raised (requireFinite slot.name slot.value)
  | .positions => raised (requireTupleOf slot.name "Position" Argument.asPosition slot.value)
  | .tradeOutcomes =>
    raised (requireTupleOf slot.name "TradeOutcome" Argument.asTradeOutcome slot.value)
  | .time => raised (requireTime slot.value)
  | .advisory => raised (requireAdvisory slot.value)

/-- An argument that raises nothing is valid. -/
theorem RequestSlot.valid_iff (slot : RequestSlot) : slot.Valid ↔ slot.raises = none := by
  unfold RequestSlot.Valid RequestSlot.raises
  cases slot.kind with
  | identifier =>
    simp only [raised_eq_none_iff, requireIdentifier_ok_iff]
    constructor
    · intro ⟨text, given, named⟩
      exact ⟨⟨text, named⟩, given⟩
    · intro ⟨text, given⟩
      exact ⟨text.val, given, text.property⟩
  | number =>
    simp only [raised_eq_none_iff, requireFinite_ok_iff]
    constructor
    · intro ⟨x, given, finite⟩
      exact ⟨⟨x, finite⟩, given⟩
    · intro ⟨x, given⟩
      exact ⟨x.val, given, x.property⟩
  | positions => simp only [raised_eq_none_iff, requireTupleOf_ok_iff asPosition_iff]
  | tradeOutcomes => simp only [raised_eq_none_iff, requireTupleOf_ok_iff asTradeOutcome_iff]
  | time => simp only [raised_eq_none_iff, requireTime_ok_iff]
  | advisory => simp only [raised_eq_none_iff, requireAdvisory_ok_iff]

/-- The arguments that are left out are valid. -/
theorem defaults_valid (runId dailyRealizedPnl equity targetFamily proposedCost : Argument) :
    ∀ slot ∈ requestSlots { runId, dailyRealizedPnl, equity, targetFamily, proposedCost },
      slot.name ∈ ["expected_value", "open_positions", "trade_outcomes", "current_time",
        "advisory"] → slot.Valid := by
  simp only [requestSlots, List.forall_mem_cons]
  have number : ∃ x, Denotes (.float 0) x ∧ x.isFinite = true := ⟨0, .inl rfl, rfl⟩
  refine ⟨?_, ?_, ?_, ?_, ?_, fun _ => number, fun _ => ⟨[], .inr rfl⟩, fun _ => ⟨[], .inr rfl⟩,
    fun _ => ⟨none, rfl⟩, fun _ => ⟨none, rfl⟩, List.forall_mem_nil _⟩
  all_goals
    intro given
    simp at given

/-- What is raised at an argument is the boundary's error with its name, unless it is an `int` that
no double can hold. -/
theorem RequestSlot.raises_cases {slot : RequestSlot} {error : RequestError}
    (raises : slot.raises = some error) :
    (∃ message, error = .riskProviderError slot.errorName message) ∨ slot.Oversized := by
  obtain ⟨name, kind, value⟩ := slot
  cases kind with
  | identifier => exact .inl (requireIdentifier_error (raised_eq_some_iff.mp raises))
  | number =>
    rcases requireFinite_error (raised_eq_some_iff.mp raises) with named | large
    · exact .inl named
    · exact .inr ⟨rfl, large⟩
  | positions | tradeOutcomes => exact .inl (requireTupleOf_error (raised_eq_some_iff.mp raises))
  | time => exact .inl (requireTime_error (raised_eq_some_iff.mp raises))
  | advisory => exact .inl (requireAdvisory_error (raised_eq_some_iff.mp raises))

/-- An `int` that no double can hold raises an `OverflowError`. -/
theorem RequestSlot.oversized_raises {slot : RequestSlot} (oversized : slot.Oversized) :
    slot.raises = some (.other (.overflowError "int too large to convert to float")) := by
  obtain ⟨kind, n, value, large⟩ := oversized
  rw [RequestSlot.raises, kind, value]
  simp only [requireFinite, if_neg (not_lt.mpr large), raised_error]

/-- Exactly the integers that no double can hold raise another error than the boundary's. -/
theorem RequestSlot.oversized_iff (slot : RequestSlot) : slot.Oversized ↔
    ∃ error, slot.raises = some error ∧ ¬ IsBoundaryError error := by
  constructor
  · intro oversized
    exact ⟨_, oversized_raises oversized, nofun⟩
  · intro ⟨error, raises, foreign⟩
    rcases raises_cases raises with named | oversized
    · exact absurd ⟨_, named⟩ foreign
    · exact oversized

/-- Any other argument that is invalid is refused with the boundary's error. -/
theorem RequestSlot.refused_iff (slot : RequestSlot) : ¬ slot.Valid ∧ ¬ slot.Oversized ↔
    ∃ error, slot.raises = some error ∧ IsBoundaryError error := by
  rw [slot.valid_iff, slot.oversized_iff]
  cases slot.raises with
  | none => simp
  | some error => simp

/-- The boundary's error names the argument that it was raised at. -/
theorem slot_named {arguments : RequestArguments} {slot : RequestSlot}
    (member : slot ∈ requestSlots arguments) {fieldName message : String}
    (raises : slot.raises = some (.riskProviderError fieldName message)) :
    slot.name = fieldName := by
  rcases RequestSlot.raises_cases raises with ⟨message', named⟩ | oversized
  · rw [RequestError.riskProviderError.injEq, errorName_eq member] at named
    exact named.1.symm
  · rw [RequestSlot.oversized_raises oversized, Option.some.injEq] at raises
    contradiction

/-- The constructor raises the first error among its arguments. -/
theorem raised_ofArguments (arguments : RequestArguments) :
    raised (RiskProviderRequest.ofArguments arguments) =
      (requestSlots arguments).findSome? RequestSlot.raises := by
  unfold RiskProviderRequest.ofArguments requestSlots
  simp only [findSome?_cons_or, RequestSlot.raises, List.findSome?_nil]
  exact raised_bind fun _ _ => raised_bind fun _ _ => raised_bind fun _ _ => raised_bind fun _ _ =>
    raised_bind fun _ _ => raised_bind fun _ _ => raised_bind fun _ _ => raised_bind fun _ _ =>
      raised_bind fun _ _ => raised_bind fun _ _ => rfl

/-- The boundary's error names an argument that is invalid. -/
theorem invalid_named {arguments : RequestArguments} {fieldName message : String}
    (refused : RiskProviderRequest.ofArguments arguments =
      .error (.riskProviderError fieldName message)) :
    ∃ slot ∈ requestSlots arguments, slot.name = fieldName ∧ ¬ slot.Valid := by
  have first := raised_ofArguments arguments
  rw [refused, raised_error] at first
  obtain ⟨slot, member, raises⟩ := List.exists_of_findSome?_eq_some first.symm
  have invalid : ¬ slot.Valid := by
    rw [slot.valid_iff, raises]
    exact Option.some_ne_none _
  exact ⟨slot, member, slot_named member raises, invalid⟩

/-- A request that was constructed holds its arguments. -/
theorem constructed_holds {arguments : RequestArguments} {request : RiskProviderRequest}
    (constructed : RiskProviderRequest.ofArguments arguments = .ok request) :
    HoldsArguments arguments request := by
  obtain ⟨runId, hRunId, constructed⟩ := Fallible.bind_ok_iff.mp constructed
  obtain ⟨family, hFamily, constructed⟩ := Fallible.bind_ok_iff.mp constructed
  obtain ⟨pnl, hPnl, constructed⟩ := Fallible.bind_ok_iff.mp constructed
  obtain ⟨equity, hEquity, constructed⟩ := Fallible.bind_ok_iff.mp constructed
  obtain ⟨cost, hCost, constructed⟩ := Fallible.bind_ok_iff.mp constructed
  obtain ⟨expected, hExpected, constructed⟩ := Fallible.bind_ok_iff.mp constructed
  obtain ⟨positions, hPositions, constructed⟩ := Fallible.bind_ok_iff.mp constructed
  obtain ⟨outcomes, hOutcomes, constructed⟩ := Fallible.bind_ok_iff.mp constructed
  obtain ⟨time, hTime, constructed⟩ := Fallible.bind_ok_iff.mp constructed
  obtain ⟨advisory, hAdvisory, constructed⟩ := Fallible.bind_ok_iff.mp constructed
  cases constructed
  exact
    { runId := ⟨requireIdentifier_ok_iff.mp hRunId, runId.property⟩
      targetFamily := ⟨requireIdentifier_ok_iff.mp hFamily, family.property⟩
      dailyRealizedPnl := ⟨requireFinite_ok_iff.mp hPnl, pnl.property⟩
      equity := ⟨requireFinite_ok_iff.mp hEquity, equity.property⟩
      proposedCost := ⟨requireFinite_ok_iff.mp hCost, cost.property⟩
      expectedValue := ⟨requireFinite_ok_iff.mp hExpected, expected.property⟩
      openPositions := (requireTupleOf_ok_iff asPosition_iff _ _).mp hPositions
      tradeOutcomes := (requireTupleOf_ok_iff asTradeOutcome_iff _ _).mp hOutcomes
      currentTime := requireTime_ok_iff.mp hTime
      advisory := requireAdvisory_ok_iff.mp hAdvisory }

/-- A request is constructed or an invalid argument is named, except when an argument is an `int`
that no double can hold and all arguments that are checked before it are valid. -/
theorem request_sound_iff (arguments : RequestArguments) : RequestSound arguments ↔
    (∃ before slot after, requestSlots arguments = before ++ slot :: after ∧
      (¬ slot.Valid ∧ ¬ slot.Oversized) ∧ ∀ earlier ∈ before, ¬ earlier.Oversized) ∨
    ∀ slot ∈ requestSlots arguments, ¬ slot.Oversized := by
  have sound := @sound_iff RequestError RequestSlot RequestSlot.raises IsBoundaryError _ _
    (fun _ => False) (requestSlots arguments) RequestSlot.refused_iff RequestSlot.oversized_iff
  simp only [not_false_iff, and_true, implies_true] at sound
  rw [← sound, ← raised_ofArguments, RequestSound]
  cases answer : RiskProviderRequest.ofArguments arguments with
  | ok request =>
    have holds : HoldsArguments arguments request := constructed_holds answer
    exact iff_of_true holds (by simp)
  | error error =>
    cases error with
    | riskProviderError fieldName message =>
      have named := invalid_named answer
      exact iff_of_true named (by simp [IsBoundaryError])
    | other raised => simp [IsBoundaryError]

end Slots

section Example

attribute [local instance] FloatFormat.exact

/-- Arguments whose equity is an `int` that no double can hold. -/
def oversizedEquity : RequestArguments where
  runId := .str "run-1"
  dailyRealizedPnl := .float 0
  equity := .int PyNum.floatLimit
  targetFamily := .str "family"
  proposedCost := .float 100

/-- An equity that no double can hold escapes as an `OverflowError`. -/
theorem oversized_equity_escapes : ¬ RequestSound oversizedEquity := by
  have runId : RequestSlot.raises ⟨"run_id", .identifier, oversizedEquity.runId⟩ = none := rfl
  have family : RequestSlot.raises ⟨"target_family", .identifier, oversizedEquity.targetFamily⟩ =
      none := rfl
  have pnl : RequestSlot.raises ⟨"daily_realized_pnl", .number, oversizedEquity.dailyRealizedPnl⟩ =
      none := rfl
  have large : RequestSlot.Oversized ⟨"equity", .number, oversizedEquity.equity⟩ :=
    ⟨rfl, PyNum.floatLimit, rfl, le_of_eq rfl⟩
  have escapes := raised_ofArguments oversizedEquity
  simp only [requestSlots, List.findSome?_cons, runId, family, pnl,
    RequestSlot.oversized_raises large, raised_eq_some_iff] at escapes
  unfold RequestSound
  rw [escapes]
  exact not_false

end Example

end VerdictRisk
