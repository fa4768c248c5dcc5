import VerdictRisk.Python.Datetime

/-!
# Core state structures

The records of `state.py`. A record whose `__post_init__` rejects some arguments carries what
it checked: a limit of a `RiskContext` is a finite number, a breaker snapshot has a threshold
of at least one. The `new` of a record runs the checks in the source's order and raises the
source's error. `Position` and `TradeOutcome` can be mutated after their construction and the
gates check them again, so they hold any number.
-/

namespace VerdictRisk

open Python

/-- `RISK_STATE_SCHEMA_VERSION` -/
def riskStateSchemaVersion : ℤ := 1

/-- A number that `_ensure_finite` accepted. -/
abbrev FiniteNum : Type := { x : PyNum // x.isFinite = true }

/-- A float that `_ensure_finite` accepted. -/
abbrev FiniteFloat : Type := { x : PyFloat // x.isFinite = true }

/-- `_ensure_finite`; `math.isfinite` itself raises on an `int` that no double can hold. -/
def ensureFinite (value : PyNum) (fieldName : String) : Except PyError FiniteNum :=
  if finite : value.isFinite = true then .ok ⟨value, finite⟩
  else match value with
    | .int _ => .error (.overflowError "int too large to convert to float")
    | .float _ => .error (.valueError s!"{fieldName} must be finite")

/-- Exactly the finite numbers are accepted, unchanged. -/
theorem ensureFinite_ok {value : PyNum} {fieldName : String} {checked : FiniteNum} :
    ensureFinite value fieldName = .ok checked ↔ value = checked.val := by
  unfold ensureFinite
  split
  · rename_i finite
    constructor
    · intro accepted
      cases accepted
      rfl
    · rintro rfl
      rfl
  · rename_i refused
    constructor
    · cases value <;> intro accepted <;> contradiction
    · rintro rfl
      exact absurd checked.property refused

/-- Immutable configuration for all risk gates. -/
structure RiskContext where
  maxDailyDrawdownPct : FiniteNum
  maxWeeklyDrawdownPct : FiniteNum
  maxCorrelatedExposure : FiniteNum
  minExpectedValue : FiniteNum
  latencyBudgetUs : ℤ
  consecutiveLossLimit : ℤ
  consecutiveLossWindowMinutes : FiniteNum
deriving DecidableEq

namespace RiskContext

/-- The constructor: `__post_init__` checks the five limits in field order. -/
def new (maxDailyDrawdownPct maxWeeklyDrawdownPct maxCorrelatedExposure minExpectedValue : PyNum)
    (latencyBudgetUs consecutiveLossLimit : ℤ) (consecutiveLossWindowMinutes : PyNum) :
    Except PyError RiskContext := do
  let daily ← ensureFinite maxDailyDrawdownPct "max_daily_drawdown_pct"
  let weekly ← ensureFinite maxWeeklyDrawdownPct "max_weekly_drawdown_pct"
  let exposure ← ensureFinite maxCorrelatedExposure "max_correlated_exposure"
  let expected ← ensureFinite minExpectedValue "min_expected_value"
  let window ← ensureFinite consecutiveLossWindowMinutes "consecutive_loss_window_minutes"
  .ok ⟨daily, weekly, exposure, expected, latencyBudgetUs, consecutiveLossLimit, window⟩

/-- `RiskContext()`. The literals `0.10` and `0.20` are the doubles nearest to them. -/
def default : RiskContext where
  maxDailyDrawdownPct := ⟨.float (.finite (3602879701896397 / 36028797018963968)), rfl⟩
  maxWeeklyDrawdownPct := ⟨.float (.finite (3602879701896397 / 18014398509481984)), rfl⟩
  maxCorrelatedExposure := ⟨.float 2500, rfl⟩
  minExpectedValue := ⟨.float 0, rfl⟩
  latencyBudgetUs := 500
  consecutiveLossLimit := 0
  consecutiveLossWindowMinutes := ⟨.float 15, rfl⟩

/-- Exactly the finite limits are accepted, unchanged. -/
theorem new_ok {daily weekly exposure expected window : PyNum} {budget limit : ℤ}
    {ctx : RiskContext} :
    new daily weekly exposure expected budget limit window = .ok ctx ↔
      daily = ctx.maxDailyDrawdownPct.val ∧ weekly = ctx.maxWeeklyDrawdownPct.val ∧
      exposure = ctx.maxCorrelatedExposure.val ∧ expected = ctx.minExpectedValue.val ∧
      budget = ctx.latencyBudgetUs ∧ limit = ctx.consecutiveLossLimit ∧
      window = ctx.consecutiveLossWindowMinutes.val := by
  constructor
  · intro built
    obtain ⟨_, hd, built⟩ := ok_of_bind built
    obtain ⟨_, hw, built⟩ := ok_of_bind built
    obtain ⟨_, he, built⟩ := ok_of_bind built
    obtain ⟨_, hv, built⟩ := ok_of_bind built
    obtain ⟨_, ht, built⟩ := ok_of_bind built
    cases built
    exact ⟨ensureFinite_ok.mp hd, ensureFinite_ok.mp hw, ensureFinite_ok.mp he,
      ensureFinite_ok.mp hv, rfl, rfl, ensureFinite_ok.mp ht⟩
  · rintro ⟨rfl, rfl, rfl, rfl, rfl, rfl, rfl⟩
    have accept : ∀ (x : FiniteNum) (name : String), ensureFinite x.val name = .ok x :=
      fun _ _ => ensureFinite_ok.mpr rfl
    simp only [new, accept, bind, Except.bind]

end RiskContext

/-- Memory-efficient representation of an open or resolved market position. -/
structure Position where
  ticker : String
  family : String
  costBasis : PyNum
  currentValue : PyNum
  isResolved : Bool
deriving DecidableEq

/-- The constructor's checks on a position. -/
def Position.new (ticker family : String) (costBasis currentValue : PyNum) (isResolved : Bool) :
    Except PyError Position := do
  let cost ← ensureFinite costBasis "cost_basis"
  let current ← ensureFinite currentValue "current_value"
  .ok ⟨ticker, family, cost.val, current.val, isResolved⟩

/-- Outcome returned by the risk engine for a proposed trade. -/
structure RiskDecision where
  approved : Bool
  reasonCode : String
  suggestedSize : FiniteFloat
deriving DecidableEq

namespace RiskDecision

/-- The constructor: a non-finite size raises. -/
def new (approved : Bool) (reasonCode : String) (suggestedSize : PyFloat) :
    Except PyError RiskDecision :=
  if finite : suggestedSize.isFinite = true then .ok ⟨approved, reasonCode, ⟨suggestedSize, finite⟩⟩
  else .error (.valueError "suggested_size must be finite")

/-- What every gate does to the decision it is handed: a rejection sets `approved` and
`reason_code` and returns `False`, a pass leaves the decision untouched and returns `True`. -/
def settle (decision : RiskDecision) : Option String → Bool × RiskDecision
  | some reason => (false, { decision with approved := false, reasonCode := reason })
  | none => (true, decision)

/-- What a fresh decision is settled by can be read off it. -/
theorem settle_injective {size : FiniteFloat} {verdict verdict' : Option String} :
    (settle ⟨true, "OK", size⟩ verdict).2 = (settle ⟨true, "OK", size⟩ verdict').2 ↔
      verdict = verdict' := by
  cases verdict <;> cases verdict' <;> simp [settle]

/-- A decision with a finite size is constructed as given. -/
theorem new_finite (approved : Bool) (reason : String) (size : FiniteFloat) :
    new approved reason size.val = .ok ⟨approved, reason, size⟩ := dif_pos size.property

/-- Only a finite size is accepted. -/
theorem new_ok {approved : Bool} {reason : String} {size : PyFloat} {decision : RiskDecision}
    (built : new approved reason size = .ok decision) :
    decision.approved = approved ∧ decision.reasonCode = reason ∧
      decision.suggestedSize.val = size := by
  unfold new at built
  split at built
  · cases built
    exact ⟨rfl, rfl, rfl⟩
  · contradiction

end RiskDecision

/-- An `int` that is not below one is a positive count. -/
theorem one_le_toNat {n : ℤ} (positive : ¬ n < 1) : 1 ≤ n.toNat := by omega

/-- Serializable snapshot of a manual kill switch. -/
structure KillSwitchState where
  tripped : Bool
  reason : String
  trippedAt : Option DateTime
deriving DecidableEq

/-- `KillSwitchState()` -/
def KillSwitchState.default : KillSwitchState := ⟨false, "ERR_KILL_SWITCH_MANUAL", none⟩

/-- Serializable snapshot of the time-based circuit breaker. -/
structure TimedCircuitBreakerState where
  consecutiveLossThreshold : ℕ
  cooldownHours : PyNum
  lossStreak : ℕ
  tripped : Bool
  trippedAt : Option DateTime
  /-- The threshold is at least one. -/
  thresholdPos : 1 ≤ consecutiveLossThreshold
  /-- The cooldown does not compare as zero or negative. -/
  cooldownAccepted : cooldownHours.exact.le 0 = false
deriving DecidableEq

/-- The constructor: `__post_init__` checks the threshold, the cooldown and the streak. -/
def TimedCircuitBreakerState.new (consecutiveLossThreshold : ℤ) (cooldownHours : PyNum)
    (lossStreak : ℤ) (tripped : Bool) (trippedAt : Option DateTime) :
    Except PyError TimedCircuitBreakerState :=
  if positive : consecutiveLossThreshold < 1 then
    .error (.valueError "consecutive_loss_threshold must be >= 1")
  else if accepted : cooldownHours.exact.le 0 = true then
    .error (.valueError "cooldown_hours must be > 0")
  else if lossStreak < 0 then .error (.valueError "loss_streak must be >= 0")
  else .ok
    { consecutiveLossThreshold := consecutiveLossThreshold.toNat
      cooldownHours, lossStreak := lossStreak.toNat, tripped, trippedAt
      thresholdPos := one_le_toNat positive
      cooldownAccepted := Bool.eq_false_iff.mpr accepted }

/-- A snapshot is rebuilt from its own fields. -/
theorem TimedCircuitBreakerState.new_self (state : TimedCircuitBreakerState) :
    new state.consecutiveLossThreshold state.cooldownHours state.lossStreak state.tripped
      state.trippedAt = .ok state := by
  have positive := state.thresholdPos
  have accepted := state.cooldownAccepted
  unfold new
  rw [dif_neg (by omega), dif_neg (by simp [accepted]), if_neg (by omega)]
  simp

/-- What the constructor accepted is what it holds. -/
theorem TimedCircuitBreakerState.new_ok {threshold streak : ℤ} {cooldown : PyNum} {tripped : Bool}
    {trippedAt : Option DateTime} {state : TimedCircuitBreakerState}
    (built : new threshold cooldown streak tripped trippedAt = .ok state) :
    (state.consecutiveLossThreshold : ℤ) = threshold ∧ state.cooldownHours = cooldown ∧
      (state.lossStreak : ℤ) = streak ∧ state.tripped = tripped ∧ state.trippedAt = trippedAt := by
  unfold new at built
  split at built
  · contradiction
  · split at built
    · contradiction
    · split at built
      · contradiction
      · cases built
        exact ⟨Int.toNat_of_nonneg (by omega), rfl, Int.toNat_of_nonneg (by omega), rfl, rfl⟩

/-- Serializable snapshot of the rolling consecutive-loss gate. -/
structure ConsecutiveLossGateState where
  maxLosses : ℕ
  windowTrades : ℕ
  history : List Bool
  /-- At least one loss is tolerated. -/
  maxLossesPos : 1 ≤ maxLosses
  /-- The limit fits the window. -/
  maxLossesFit : maxLosses ≤ windowTrades
  /-- The history fits the window. -/
  historyFits : history.length ≤ windowTrades
deriving DecidableEq

/-- The constructor: `__post_init__` checks the two limits, then the history. -/
def ConsecutiveLossGateState.new (maxLosses windowTrades : ℤ) (history : List Bool) :
    Except PyError ConsecutiveLossGateState :=
  if positive : maxLosses < 1 then .error (.valueError "max_losses must be >= 1")
  else if windowTrades < 1 then .error (.valueError "window_trades must be >= 1")
  else if fit : maxLosses > windowTrades then
    .error (.valueError "max_losses cannot exceed window_trades")
  else if fits : (history.length : ℤ) > windowTrades then
    .error (.valueError "history cannot exceed window_trades")
  else .ok
    { maxLosses := maxLosses.toNat, windowTrades := windowTrades.toNat, history
      maxLossesPos := one_le_toNat positive
      maxLossesFit := by omega
      historyFits := by omega }

/-- A snapshot is rebuilt from its own fields. -/
theorem ConsecutiveLossGateState.new_self (state : ConsecutiveLossGateState) :
    new state.maxLosses state.windowTrades state.history = .ok state := by
  have positive := state.maxLossesPos
  have fit := state.maxLossesFit
  have fits := state.historyFits
  unfold new
  rw [dif_neg (by omega), if_neg (by omega), dif_neg (by omega), dif_neg (by omega)]
  simp

/-- What the constructor accepted is what it holds. -/
theorem ConsecutiveLossGateState.new_ok {losses window : ℤ} {history : List Bool}
    {state : ConsecutiveLossGateState} (built : new losses window history = .ok state) :
    (state.maxLosses : ℤ) = losses ∧ (state.windowTrades : ℤ) = window ∧
      state.history = history := by
  unfold new at built
  split at built
  · contradiction
  · split at built
    · contradiction
    · split at built
      · contradiction
      · split at built
        · contradiction
        · cases built
          exact ⟨Int.toNat_of_nonneg (by omega), Int.toNat_of_nonneg (by omega), rfl⟩

/-- Schema-versioned serializable risk state. -/
structure RiskState where
  schemaVersion : ℤ
  context : RiskContext
  killSwitch : Option KillSwitchState
  timedBreaker : Option TimedCircuitBreakerState
  consecutiveLossGate : Option ConsecutiveLossGateState
  /-- Only the current schema is constructed. -/
  versionSupported : schemaVersion = riskStateSchemaVersion
deriving DecidableEq

/-- The constructor: `__post_init__` refuses another schema. -/
def RiskState.new (schemaVersion : ℤ) (context : RiskContext) (killSwitch : Option KillSwitchState)
    (timedBreaker : Option TimedCircuitBreakerState)
    (consecutiveLossGate : Option ConsecutiveLossGateState) : Except PyError RiskState :=
  if supported : schemaVersion = riskStateSchemaVersion then
    .ok ⟨schemaVersion, context, killSwitch, timedBreaker, consecutiveLossGate, supported⟩
  else
    let expected := riskStateSchemaVersion
    .error (.valueError
      s!"Unsupported risk state schema_version={schemaVersion}; expected {expected}")

/-- What the constructor accepted is what it holds. -/
theorem RiskState.new_ok {version : ℤ} {context : RiskContext} {switch : Option KillSwitchState}
    {breaker : Option TimedCircuitBreakerState} {gate : Option ConsecutiveLossGateState}
    {state : RiskState} (built : new version context switch breaker gate = .ok state) :
    state.schemaVersion = version ∧ state.context = context ∧ state.killSwitch = switch ∧
      state.timedBreaker = breaker ∧ state.consecutiveLossGate = gate := by
  unfold new at built
  split at built
  · cases built
    exact ⟨rfl, rfl, rfl, rfl, rfl⟩
  · contradiction

/-- Representation of a past trade outcome for consecutive loss gating. -/
structure TradeOutcome where
  timestamp : DateTime
  pnl : PyFloat
deriving DecidableEq

end VerdictRisk
