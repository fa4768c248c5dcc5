import VerdictRisk.Provider

/-!
# Request construction

`RiskProviderRequest.__post_init__` of `provider.py`, on arguments of any type. Four helpers check
the fields in the source's order and raise a `RiskProviderError` that names the field; the numbers
are converted to floats on the way.
-/

namespace VerdictRisk

open Python

/-- An argument of the constructor. -/
inductive Argument where
  | none
  | bool (value : Bool)
  | int (n : ℤ)
  | float (x : PyFloat)
  | str (text : String)
  | list (items : List Argument)
  | tuple (items : List Argument)
  | position (pos : Position)
  | tradeOutcome (outcome : TradeOutcome)
  | datetime (dt : DateTime)
  /-- A `Mapping`, by the name of its type. -/
  | mapping (typeName : String) (entries : Entries)
  /-- Any other object, by the name of its type. -/
  | object (typeName : String)

namespace Argument

/-- `type(value).__name__` -/
def typeName : Argument → String
  | .none => "NoneType"
  | .bool _ => "bool"
  | .int _ => "int"
  | .float _ => "float"
  | .str _ => "str"
  | .list _ => "list"
  | .tuple _ => "tuple"
  | .position _ => "Position"
  | .tradeOutcome _ => "TradeOutcome"
  | .datetime _ => "datetime"
  | .mapping typeName _ => typeName
  | .object typeName => typeName

/-- `isinstance(value, Position)` -/
def asPosition : Argument → Option Position
  | .position pos => some pos
  | _ => Option.none

/-- `isinstance(value, TradeOutcome)` -/
def asTradeOutcome : Argument → Option TradeOutcome
  | .tradeOutcome outcome => some outcome
  | _ => Option.none

end Argument

/-- What the constructor raises. -/
inductive RequestError where
  /-- `RiskProviderError`, with the name of the field. -/
  | riskProviderError (fieldName message : String)
  /-- Any other exception. -/
  | other (raised : PyError)
deriving DecidableEq

/-- `str(error)` -/
def RequestError.text : RequestError → String
  | .riskProviderError fieldName message => s!"{fieldName}: {message}"
  | .other raised => raised.message

/-- The arguments of a request, with their defaults. -/
structure RequestArguments where
  runId : Argument
  dailyRealizedPnl : Argument
  equity : Argument
  targetFamily : Argument
  proposedCost : Argument
  expectedValue : Argument := .float 0
  openPositions : Argument := .tuple []
  tradeOutcomes : Argument := .tuple []
  currentTime : Argument := .none
  advisory : Argument := .none

/-- A name that `_require_identifier` accepted. -/
abbrev Identifier : Type := { text : String // isBlank text = false }

/-- `_require_identifier` -/
def requireIdentifier (name : String) (value : Argument) : Except RequestError Identifier :=
  let refused := RequestError.riskProviderError name "expected a non-empty string"
  match value with
  | .str text => if given : isBlank text = false then .ok ⟨text, given⟩ else .error refused
  | _ => .error refused

/-- The loop of `_require_tuple_of` from an index on. -/
def requireItems {Item : Type} (name itemType : String) (accept : Argument → Option Item) :
    ℕ → List Argument → Except RequestError (List Item)
  | _, [] => .ok []
  | index, value :: rest =>
    match accept value with
    | some item => (requireItems name itemType accept (index + 1) rest).map (item :: ·)
    | none =>
      let given := value.typeName
      .error (.riskProviderError name s!"item {index} is {given}, expected {itemType}")

/-- `_require_tuple_of` -/
def requireTupleOf {Item : Type} (name itemType : String) (accept : Argument → Option Item)
    (value : Argument) : Except RequestError (List Item) :=
  match value with
  | .list items | .tuple items => requireItems name itemType accept 0 items
  | _ => .error (.riskProviderError name s!"expected a sequence of {itemType}")

/-- The check of `current_time`. -/
def requireTime (value : Argument) : Except RequestError (Option DateTime) :=
  match value with
  | .none => .ok none
  | .datetime dt => .ok (some dt)
  | _ => .error (.riskProviderError "current_time" "expected a datetime or None")

/-- The check of `advisory`. -/
def requireAdvisory (value : Argument) : Except RequestError (Option Entries) :=
  match value with
  | .none => .ok none
  | .mapping _ entries => .ok (some entries)
  | _ => .error (.riskProviderError "advisory" "expected a mapping or None")

variable [FloatFormat]

/-- The end of `_require_finite`: a float that is not finite is refused. -/
def requireFiniteFloat (name : String) (number : PyFloat) : Except RequestError FiniteFloat :=
  if finite : number.isFinite = true then .ok ⟨number, finite⟩
  else
    let given := FloatFormat.repr number
    .error (.riskProviderError name s!"must be finite, got {given}")

/-- `_require_finite`; the conversion of an `int` that no double can hold raises an
`OverflowError`. -/
def requireFinite (name : String) (value : Argument) : Except RequestError FiniteFloat :=
  match value with
  | .int n =>
    if n.natAbs < PyNum.floatLimit then requireFiniteFloat name (PyNum.int n).toFloat
    else .error (.other (.overflowError "int too large to convert to float"))
  | .float x => requireFiniteFloat name x
  | _ =>
    let given := value.typeName
    .error (.riskProviderError name s!"expected a real number, got {given}")

/-- The constructor: `__post_init__` checks the fields one after the other. -/
def RiskProviderRequest.ofArguments (arguments : RequestArguments) :
    Except RequestError RiskProviderRequest := do
  let runId ← requireIdentifier "run_id" arguments.runId
  let targetFamily ← requireIdentifier "target_family" arguments.targetFamily
  let dailyRealizedPnl ← requireFinite "daily_realized_pnl" arguments.dailyRealizedPnl
  let equity ← requireFinite "equity" arguments.equity
  let proposedCost ← requireFinite "proposed_cost" arguments.proposedCost
  let expectedValue ← requireFinite "expected_value" arguments.expectedValue
  let openPositions ←
    requireTupleOf "open_positions" "Position" Argument.asPosition arguments.openPositions
  let tradeOutcomes ←
    requireTupleOf "trade_outcomes" "TradeOutcome" Argument.asTradeOutcome arguments.tradeOutcomes
  let currentTime ← requireTime arguments.currentTime
  let advisory ← requireAdvisory arguments.advisory
  .ok
    { runId := runId.val
      dailyRealizedPnl
      equity
      targetFamily := targetFamily.val
      proposedCost
      expectedValue
      openPositions
      tradeOutcomes
      currentTime
      advisory
      runIdGiven := runId.property
      targetFamilyGiven := targetFamily.property }

end VerdictRisk
