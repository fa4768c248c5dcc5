import VerdictRisk.State
import Mathlib.Data.List.Sort

/-!
# Stateless risk gates

The gate functions of `gates.py`. A gate mutates the decision it is handed and returns
whether the trade may pass; here it returns both. Its branches are the reason it rejects
with, if any, and `RiskDecision.settle` is what it does with that reason.
-/

namespace VerdictRisk

open Python

/-- The two answers of `_timezone_mode`. -/
inductive TimezoneMode where
  | aware
  | naive
deriving DecidableEq, Repr

/-- `_is_aware` -/
def isAware (dt : DateTime) : Bool := dt.tzinfo.isSome && dt.utcoffset.isSome

/-- `_timezone_mode` -/
def timezoneMode (dt : DateTime) : TimezoneMode := if isAware dt then .aware else .naive

/-- Two datetimes have one mode exactly when both or neither answer an offset. -/
theorem timezoneMode_eq_iff (left right : DateTime) :
    timezoneMode left = timezoneMode right ↔ left.utcoffset.isSome = right.utcoffset.isSome := by
  have aware : ∀ dt : DateTime, isAware dt = dt.utcoffset.isSome := by
    intro dt
    cases zone : dt.tzinfo <;> simp [isAware, DateTime.utcoffset, zone]
  unfold timezoneMode
  rw [aware left, aware right]
  cases left.utcoffset.isSome <;> cases right.utcoffset.isSome <;> simp

section Gates

variable [FloatFormat]

/-- The branches of `evaluate_drawdown`. -/
def drawdownRejection (ctx : RiskContext) (dailyRealizedPnl equity : PyFloat) : Option String :=
  let limit := ctx.maxDailyDrawdownPct.val
  if equity.isNan || dailyRealizedPnl.isNan || equity.isInf || dailyRealizedPnl.isInf
      || limit.isNan || limit.isInf then
    some "ERR_INVALID_FLOAT_DRAWDOWN"
  else if equity.le 0 then some "ERR_ZERO_OR_NEGATIVE_EQUITY"
  else
    let drawdownPct := dailyRealizedPnl.div equity
    if drawdownPct.lt limit.neg.exact then
      let actual := FloatFormat.percent drawdownPct
      let allowed := FloatFormat.percent limit.neg.toFloat
      some s!"ERR_DAILY_DRAWDOWN: {actual} exceeds limit {allowed}"
    else none

/-- Pessimistic drawdown gate. -/
def evaluateDrawdown (ctx : RiskContext) (dailyRealizedPnl equity : PyFloat)
    (decision : RiskDecision) : Bool × RiskDecision :=
  decision.settle (drawdownRejection ctx dailyRealizedPnl equity)

/-- The loop of `evaluate_concentration`: the exposure summed in list order, or `none` at the
first counted position whose cost is NaN or infinite. -/
def currentExposure (targetFamily : String) : PyFloat → List Position → Option PyFloat
  | exposure, [] => some exposure
  | exposure, pos :: rest =>
    if !pos.isResolved && pos.family == targetFamily then
      if pos.costBasis.isNan || pos.costBasis.isInf then none
      else currentExposure targetFamily (exposure.add pos.costBasis.toFloat) rest
    else currentExposure targetFamily exposure rest

/-- The branches of `evaluate_concentration`. -/
def concentrationRejection (ctx : RiskContext) (targetFamily : String) (proposedCost : PyFloat)
    (openPositions : List Position) : Option String :=
  let limit := ctx.maxCorrelatedExposure.val
  if proposedCost.isNan || proposedCost.isInf || limit.isNan || limit.isInf then
    some "ERR_INVALID_FLOAT_CONCENTRATION"
  else match currentExposure targetFamily 0 openPositions with
    | none => some "ERR_INVALID_FLOAT_CONCENTRATION"
    | some exposure =>
      if limit.exact.lt (exposure.add proposedCost) then
        let allowed := limit.repr
        some s!"ERR_CONCENTRATION: {targetFamily} exposure would exceed {allowed}"
      else none

/-- Blocks trades that concentrate capital into a single event resolution or asset family. -/
def evaluateConcentration (ctx : RiskContext) (targetFamily : String) (proposedCost : PyFloat)
    (openPositions : List Position) (decision : RiskDecision) : Bool × RiskDecision :=
  decision.settle (concentrationRejection ctx targetFamily proposedCost openPositions)

/-- The branches of `evaluate_expected_value`. -/
def expectedValueRejection (ctx : RiskContext) (expectedValue : PyFloat) : Option String :=
  let minimum := ctx.minExpectedValue.val
  if expectedValue.isNan || expectedValue.isInf || minimum.isNan || minimum.isInf then
    some "ERR_INVALID_FLOAT_EXPECTED_VALUE"
  else if expectedValue.lt minimum.exact then
    let actual := FloatFormat.repr expectedValue
    let required := minimum.repr
    some s!"ERR_EXPECTED_VALUE: {actual} is below minimum {required}"
  else none

/-- Blocks trades that do not meet the minimum expected value threshold. -/
def evaluateExpectedValue (ctx : RiskContext) (expectedValue : PyFloat)
    (decision : RiskDecision) : Bool × RiskDecision :=
  decision.settle (expectedValueRejection ctx expectedValue)

/-- `sorted(trade_outcomes, key=lambda x: x.timestamp)`: stable, oldest first. -/
def sortedOutcomes (outcomes : List TradeOutcome) : List TradeOutcome :=
  outcomes.insertionSort fun left right => right.timestamp.before left.timestamp = false

/-- `max(...)` keeps the first of several latest timestamps. -/
def latestTimestamp : DateTime → List TradeOutcome → DateTime
  | latest, [] => latest
  | latest, outcome :: rest =>
    latestTimestamp (if latest.before outcome.timestamp then outcome.timestamp else latest) rest

/-- The loop of `evaluate_consecutive_losses` over the outcomes from newest to oldest, with
the losses counted so far. -/
def scanLosses (ctx : RiskContext) (limitSeconds : PyFloat) (currentTime : DateTime) :
    ℕ → List TradeOutcome → Except PyError (Option String)
  | _, [] => .ok none
  | counted, outcome :: rest =>
    if outcome.pnl.lt 0 then
      match currentTime.sub outcome.timestamp with
      | .error raised => .error raised
      | .ok timeDiff =>
        let diffSeconds := totalSeconds timeDiff
        if diffSeconds.lt 0 then .ok (some "ERR_INVALID_TIME_ORDER")
        else if (0 : PyFloat).le diffSeconds && diffSeconds.le limitSeconds then
          let losses := counted + 1
          if ctx.consecutiveLossLimit ≤ losses then
            let minutes := ctx.consecutiveLossWindowMinutes.val.repr
            .ok (some
              s!"ERR_CONSECUTIVE_LOSS_LIMIT: {losses} consecutive losses within {minutes} minutes")
          else scanLosses ctx limitSeconds currentTime losses rest
        -- Older outcomes are outside the window too.
        else .ok none
    -- A win breaks the streak.
    else .ok none

/-- The branches of `evaluate_consecutive_losses`. -/
def consecutiveLossesRejection (ctx : RiskContext) (tradeOutcomes : Option (List TradeOutcome))
    (currentTime : Option DateTime) : Except PyError (Option String) :=
  let window := ctx.consecutiveLossWindowMinutes.val
  if ctx.consecutiveLossLimit < 0 || window.exact.lt 0 then
    .ok (some "ERR_INVALID_CONSECUTIVE_LOSS_CONTEXT")
  else if ctx.consecutiveLossLimit ≤ 0 then .ok none
  else match tradeOutcomes with
    | none | some [] => .ok none
    | some (first :: rest) =>
      let outcomes := first :: rest
      let mode := timezoneMode first.timestamp
      if outcomes.any fun outcome => timezoneMode outcome.timestamp != mode then
        .ok (some "ERR_INVALID_TIMEZONE_MIXED")
      else if outcomes.any fun outcome => !outcome.pnl.isFinite then
        .ok (some "ERR_INVALID_FLOAT_CONSECUTIVE_LOSSES")
      else
        let limitSeconds := window.toFloat.mul 60
        match currentTime with
        | none => scanLosses ctx limitSeconds (latestTimestamp first.timestamp rest) 0
            (sortedOutcomes outcomes).reverse
        | some now =>
          if timezoneMode now != mode then .ok (some "ERR_INVALID_TIMEZONE_MIXED")
          else scanLosses ctx limitSeconds now 0 (sortedOutcomes outcomes).reverse

/-- Blocks trades after N consecutive losses within Y minutes. -/
def evaluateConsecutiveLosses (ctx : RiskContext) (tradeOutcomes : Option (List TradeOutcome))
    (currentTime : Option DateTime) (decision : RiskDecision) :
    Except PyError (Bool × RiskDecision) :=
  (consecutiveLossesRejection ctx tradeOutcomes currentTime).map decision.settle

/-- Inputs for `evaluate_cluster_cap`. -/
structure ClusterCapContext where
  clusterId : String
  clusterOpenUsd : PyFloat
  proposedCost : PyFloat
  maxClusterUsd : PyFloat
deriving DecidableEq

/-- Reject a trade if adding it would exceed the cluster's open-USD ceiling. -/
def evaluateClusterCap (ctx : ClusterCapContext) : Except PyError RiskDecision :=
  if ctx.clusterId == "unknown" then RiskDecision.new true "OK" ctx.proposedCost
  else if ctx.proposedCost.le 0 then RiskDecision.new true "OK" ctx.proposedCost
  else if ctx.maxClusterUsd.le 0 then
    let ceiling := FloatFormat.repr ctx.maxClusterUsd
    RiskDecision.new false s!"ERR_CLUSTER_CAP: max_cluster_usd={ceiling} is not positive" 0
  else
    let exposure := ctx.clusterOpenUsd.add ctx.proposedCost
    if ctx.maxClusterUsd.lt exposure then
      let cluster := ctx.clusterId
      let total := FloatFormat.repr exposure
      let ceiling := FloatFormat.repr ctx.maxClusterUsd
      RiskDecision.new false
        s!"ERR_CLUSTER_CAP: {cluster} exposure {total} would exceed {ceiling}" 0
    else RiskDecision.new true "OK" ctx.proposedCost

end Gates

end VerdictRisk
