import VerdictRisk.State
import VerdictRisk.Python.Yaml

/-!
# Config loader

`config.py`, from the parsed document on: the sections are read in the source's order, and in
each the fields that are present. Six of the seven fields are one reading with a range of their own,
and only the window is stored as something else than its float; the loss limit stays an `int`. The
texts of the errors name the file by its resolved path.
-/

namespace VerdictRisk

open Python

/-- What the loader returns: the parameters in the order they were read, and the warnings it
issued. -/
structure LoadedConfig where
  values : List (String × PyNum)
  warnings : List String

/-- The entries of a parsed mapping. -/
abbrev Section : Type := List (PyKey × Yaml)

/-- The range check of a numeric field. -/
inductive RangeCheck where
  /-- `if not (0.0 < value <= 1.0)` -/
  | unitInterval
  /-- `if value <= 0.0` -/
  | positive
  /-- No check. -/
  | unchecked
deriving DecidableEq

/-- The range that a refused value is said to miss. -/
def RangeCheck.violation : RangeCheck → PyFloat → Option String
  | .unitInterval, value => if (0 : PyFloat).lt value && value.le 1 then none else some "in (0, 1]"
  | .positive, value => if value.le 0 then some "> 0" else none
  | .unchecked, _ => none

section Loader

variable [FloatFormat]

/-- `_require_number`; its argument `name` is not read. -/
def requireNumber (value : Yaml) (path yamlKey : String) : Except PyError PyFloat :=
  match value with
  | .int n =>
    if n.natAbs < PyNum.floatLimit then .ok (PyNum.int n).toFloat
    else .error (.overflowError "int too large to convert to float")
  | .float x => .ok x
  | other =>
    let given := other.typeName
    .error (.typeError s!"{yamlKey} must be a number, got {given} (config: {path})")

/-- What a field holds. -/
inductive FieldKind where
  /-- A number in a range, stored as a function of its float. -/
  | number (range : RangeCheck) (store : PyFloat → PyFloat)
  /-- An `int` that is not negative, stored as it is. -/
  | count

/-- A field of a section: its key there, its key in the result and what it holds. -/
structure ConfigField where
  key : String
  outKey : String
  kind : FieldKind

/-- The reading of a numeric field. -/
def readNumber (range : RangeCheck) (store : PyFloat → PyFloat) (path yamlKey : String)
    (raw : Yaml) : Except PyError PyNum := do
  let value ← requireNumber raw path yamlKey
  match range.violation value with
  | some missed =>
    let given := FloatFormat.repr value
    .error (.valueError s!"{yamlKey} must be {missed}, got {given} (config: {path})")
  | none => .ok (.float (store value))

/-- The reading of `max_consecutive_losses`. -/
def readCount (path yamlKey : String) (raw : Yaml) : Except PyError PyNum :=
  match raw with
  | .int n =>
    if n < 0 then do
      let given ← intText n
      .error (.valueError s!"{yamlKey} must be >= 0, got {given} (config: {path})")
    else .ok (.int n)
  | other =>
    let given := other.typeName
    .error (.typeError s!"{yamlKey} must be an int, got {given} (config: {path})")

/-- The reading of a field from the value under its key. -/
def ConfigField.read (field : ConfigField) (path name : String) (raw : Yaml) :
    Except PyError PyNum :=
  let key := field.key
  match field.kind with
  | .number range store => readNumber range store path s!"{name}.{key}" raw
  | .count => readCount path s!"{name}.{key}" raw

/-- `drawdown.max_daily_drawdown_pct` -/
def maxDailyDrawdownPct : ConfigField :=
  ⟨"max_daily_drawdown_pct", "max_daily_drawdown_pct", .number .unitInterval id⟩

/-- `concentration.max_correlated_exposure` -/
def maxCorrelatedExposure : ConfigField :=
  ⟨"max_correlated_exposure", "max_correlated_exposure", .number .positive id⟩

/-- `concentration.max_cluster_usd` -/
def maxClusterUsd : ConfigField :=
  ⟨"max_cluster_usd", "max_cluster_usd", .number .positive id⟩

/-- `expected_value.min_expected_value` -/
def minExpectedValue : ConfigField :=
  ⟨"min_expected_value", "min_expected_value", .number .unchecked id⟩

/-- `consecutive_losses.max_consecutive_losses` -/
def maxConsecutiveLosses : ConfigField :=
  ⟨"max_consecutive_losses", "consecutive_loss_limit", .count⟩

/-- `consecutive_losses.time_window_seconds`: stored in minutes. -/
def timeWindowSeconds : ConfigField :=
  ⟨"time_window_seconds", "consecutive_loss_window_minutes", .number .positive (·.div 60)⟩

/-- `kelly.conservative_fraction` -/
def conservativeFraction : ConfigField :=
  ⟨"conservative_fraction", "kelly_conservative_fraction", .number .unitInterval id⟩

/-- The sections in the order they are read, with their fields. -/
def configSections : List (String × List ConfigField) :=
  [("drawdown", [maxDailyDrawdownPct]),
    ("concentration", [maxCorrelatedExposure, maxClusterUsd]),
    ("expected_value", [minExpectedValue]),
    ("consecutive_losses", [maxConsecutiveLosses, timeWindowSeconds]),
    ("kelly", [conservativeFraction])]

/-- `_KNOWN_TOP_LEVEL_KEYS` -/
def knownTopLevelKeys : List String :=
  ["drawdown", "concentration", "expected_value", "consecutive_losses", "kelly"]

/-- The loop over the top-level keys: a warning for each that is not known. -/
def unknownKeyWarnings (path : String) : Section → Except PyError (List String)
  | [] => .ok []
  | (key, _) :: rest =>
    if key ∈ knownTopLevelKeys.map PyKey.str then unknownKeyWarnings path rest
    else do
      let name ← key.text
      let others ← unknownKeyWarnings path rest
      .ok (s!"unknown top-level key '{name}' in risk config at {path} (ignored)" :: others)

/-- What `_section` makes of the value under the name of a section. -/
def sectionEntries (path name : String) (found : Yaml) : Except PyError Section :=
  match if found.truthy then found else .dict [] with
  | .dict entries => .ok entries
  | _ => .error (.typeError s!"{name} must be a mapping (config: {path})")

/-- `_section` -/
def readSection (path : String) (data : Section) (name : String) : Except PyError Section :=
  sectionEntries path name ((data.lookup (.str name)).getD (.dict []))

/-- What a section adds to the result for one of its fields. -/
def readField (path name : String) (entries : Section) (field : ConfigField) :
    Except PyError (List (String × PyNum)) :=
  match entries.lookup (.str field.key) with
  | none => .ok []
  | some raw => (field.read path name raw).map fun value => [(field.outKey, value)]

/-- What a section adds to the result. -/
def readFields (path : String) (data : Section) (name : String) (fields : List ConfigField) :
    Except PyError (List (String × PyNum)) := do
  let entries ← readSection path data name
  let values ← fields.mapM (readField path name entries)
  .ok values.flatten

/-- Load and validate the YAML desk-controls config at a resolved path, from its parsed document. -/
def loadRiskConfig (path : String) (document : Yaml) : Except PyError LoadedConfig := do
  let data ← match document with
    | .none => .ok []
    | .dict entries => .ok entries
    | _ => .error (.typeError s!"risk config at {path} must be a YAML mapping at the top level")
  let warnings ← unknownKeyWarnings path data
  let values ← configSections.mapM fun (name, fields) => readFields path data name fields
  .ok ⟨values.flatten, warnings⟩

/-- An argument of `RiskContext` that has to be an `int`. -/
def requireInt (value : PyNum) (fieldName : String) : Except PyError ℤ :=
  match value with
  | .int n => .ok n
  | .float _ => .error (.valueError s!"{fieldName} must be an int")

/-- `RiskContext(**{k: v for k, v in values if k in RiskContext.__struct_fields__})` -/
def RiskContext.ofConfig (values : List (String × PyNum)) : Except PyError RiskContext := do
  let argument := fun (name : String) (default : PyNum) => (values.lookup name).getD default
  let given := RiskContext.default
  let budget ← requireInt (argument "latency_budget_us" (.int given.latencyBudgetUs))
    "latency_budget_us"
  let limit ← requireInt (argument "consecutive_loss_limit" (.int given.consecutiveLossLimit))
    "consecutive_loss_limit"
  RiskContext.new
    (argument "max_daily_drawdown_pct" given.maxDailyDrawdownPct.val)
    (argument "max_weekly_drawdown_pct" given.maxWeeklyDrawdownPct.val)
    (argument "max_correlated_exposure" given.maxCorrelatedExposure.val)
    (argument "min_expected_value" given.minExpectedValue.val)
    budget limit
    (argument "consecutive_loss_window_minutes" given.consecutiveLossWindowMinutes.val)

end Loader

end VerdictRisk
