import VerdictRisk.Engine
import VerdictRisk.ProviderReceipts

/-!
# Risk provider

`provider.py`: the adapter that evaluates a validated request and returns the decision with the
verdict of every stateless gate and a receipt. A request carries what its constructor checked.
The authority is mutated before the report and the receipt are built, so an evaluation that
raises there leaves the mutated authority behind.
-/

namespace VerdictRisk

open Python

/-- `PROVIDER_API_VERSION` -/
def providerApiVersion : ℤ := 1

/-- The gates of the report, in the engine's short-circuit order. -/
inductive StatelessGate where
  | evaluateExpectedValue
  | evaluateDrawdown
  | evaluateConsecutiveLosses
  | evaluateConcentration
deriving DecidableEq

/-- The name of a gate in the report. -/
def StatelessGate.name : StatelessGate → String
  | .evaluateExpectedValue => "evaluate_expected_value"
  | .evaluateDrawdown => "evaluate_drawdown"
  | .evaluateConsecutiveLosses => "evaluate_consecutive_losses"
  | .evaluateConcentration => "evaluate_concentration"

/-- `_STATELESS_GATES` -/
def statelessGates : List StatelessGate :=
  [.evaluateExpectedValue, .evaluateDrawdown, .evaluateConsecutiveLosses, .evaluateConcentration]

/-- A bounded, fully validated risk evaluation request. -/
structure RiskProviderRequest where
  runId : String
  dailyRealizedPnl : FiniteFloat
  equity : FiniteFloat
  targetFamily : String
  proposedCost : FiniteFloat
  expectedValue : FiniteFloat
  openPositions : List Position
  tradeOutcomes : List TradeOutcome
  currentTime : Option DateTime
  /-- Hints only, never consulted by any gate. -/
  advisory : Option Entries
  /-- The run has a name. -/
  runIdGiven : isBlank runId = false
  /-- The family has a name. -/
  targetFamilyGiven : isBlank targetFamily = false

/-- A request for 100 on an equity of 1000. -/
def plainRequest : RiskProviderRequest where
  runId := "run-1"
  dailyRealizedPnl := ⟨0, rfl⟩
  equity := ⟨1000, rfl⟩
  targetFamily := "family"
  proposedCost := ⟨100, rfl⟩
  expectedValue := ⟨0, rfl⟩
  openPositions := []
  tradeOutcomes := []
  currentTime := none
  advisory := none
  runIdGiven := by decide
  targetFamilyGiven := by decide

/-- One hard gate's independent verdict on the request. -/
structure GateOutcome where
  gate : String
  approved : Bool
  reasonCode : String
deriving DecidableEq

/-- The portable decision a Verdict runtime gates on. -/
structure RiskProviderResult where
  approved : Bool
  reasonCode : String
  suggestedSize : PyFloat
  gateOutcomes : List GateOutcome
  stateSchemaVersion : ℤ
  elapsedUs : ℤ
  receipt : RiskReceipt
  apiVersion : ℤ

/-- A position as the receipt digests it. -/
def Position.entry (position : Position) : PyValue :=
  .record [
    ("ticker", .str position.ticker),
    ("family", .str position.family),
    ("cost_basis", .ofNum position.costBasis),
    ("current_value", .ofNum position.currentValue),
    ("is_resolved", .bool position.isResolved)]

/-- An outcome as the receipt digests it. -/
def TradeOutcome.entry [ReceiptFormat] (outcome : TradeOutcome) : PyValue :=
  .record [
    ("timestamp", .str (ReceiptFormat.isoformat outcome.timestamp)),
    ("pnl", .float outcome.pnl)]

namespace RiskProviderRequest

/-- The arguments of `evaluate_with_state` for a request; no cluster context is passed. -/
def call (request : RiskProviderRequest) : TradeCall where
  dailyRealizedPnl := request.dailyRealizedPnl.val
  equity := request.equity.val
  targetFamily := request.targetFamily
  proposedCost := request.proposedCost.val
  openPositions := request.openPositions
  expectedValue := request.expectedValue.val
  tradeOutcomes := if request.tradeOutcomes.isEmpty then none else some request.tradeOutcomes
  currentTime := request.currentTime
  clusterCapCtx := none

/-- `dict(request.advisory) if request.advisory else None` -/
def advisoryValue (request : RiskProviderRequest) : PyValue :=
  match request.advisory with
  | none | some [] => .none
  | some entries => .dict entries

/-- The current time as the receipt digests it. -/
def currentTimeValue [ReceiptFormat] (request : RiskProviderRequest) : PyValue :=
  match request.currentTime with
  | none => .none
  | some now => .str (ReceiptFormat.isoformat now)

/-- The inputs that the receipt digests. -/
def inputs [ReceiptFormat] (request : RiskProviderRequest) : PyValue :=
  .record [
    ("daily_realized_pnl", .float request.dailyRealizedPnl.val),
    ("equity", .float request.equity.val),
    ("target_family", .str request.targetFamily),
    ("proposed_cost", .float request.proposedCost.val),
    ("expected_value", .float request.expectedValue.val),
    ("open_positions", .list (request.openPositions.map Position.entry)),
    ("trade_outcomes", .list (request.tradeOutcomes.map TradeOutcome.entry)),
    ("current_time", request.currentTimeValue),
    ("advisory", request.advisoryValue)]

end RiskProviderRequest

/-- The configuration that the receipt digests. -/
def RiskContext.config (ctx : RiskContext) : PyValue :=
  .record [
    ("max_daily_drawdown_pct", .ofNum ctx.maxDailyDrawdownPct.val),
    ("max_weekly_drawdown_pct", .ofNum ctx.maxWeeklyDrawdownPct.val),
    ("max_correlated_exposure", .ofNum ctx.maxCorrelatedExposure.val),
    ("min_expected_value", .ofNum ctx.minExpectedValue.val),
    ("latency_budget_us", .int ctx.latencyBudgetUs),
    ("consecutive_loss_limit", .int ctx.consecutiveLossLimit),
    ("consecutive_loss_window_minutes", .ofNum ctx.consecutiveLossWindowMinutes.val),
    ("state_schema_version", .int riskStateSchemaVersion)]

/-- An entry of the report in the receipt's details. -/
def GateOutcome.entry (item : GateOutcome) : PyValue :=
  .record [("gate", .str item.gate), ("approved", .bool item.approved),
    ("reason_code", .str item.reasonCode)]

/-- The details of the receipt. -/
def receiptDetails (request : RiskProviderRequest) (reasonCode : String)
    (gateOutcomes : List GateOutcome) : Entries :=
  [(.str "advisory", request.advisoryValue),
    (.str "reason_code", .str reasonCode),
    (.str "gate_outcomes", .list (gateOutcomes.map GateOutcome.entry)),
    (.str "api_version", .int providerApiVersion)]

section Evaluate

variable [FloatFormat]

/-- One gate of the report, run on a scratch decision. -/
def runStatelessGate (ctx : RiskContext) (request : RiskProviderRequest) (scratch : RiskDecision) :
    StatelessGate → Except PyError RiskDecision
  | .evaluateExpectedValue =>
    .ok (evaluateExpectedValue ctx request.expectedValue.val scratch).2
  | .evaluateDrawdown =>
    .ok (evaluateDrawdown ctx request.dailyRealizedPnl.val request.equity.val scratch).2
  | .evaluateConsecutiveLosses => do
    let result ← evaluateConsecutiveLosses ctx (some request.tradeOutcomes) request.currentTime
      scratch
    .ok result.2
  | .evaluateConcentration =>
    .ok (evaluateConcentration ctx request.targetFamily request.proposedCost.val
      request.openPositions scratch).2

/-- Run every pure gate independently for the audit report. -/
def gateReport (ctx : RiskContext) (request : RiskProviderRequest) :
    Except PyError (List GateOutcome) :=
  statelessGates.mapM fun gate => do
    let scratch ← RiskDecision.new true "OK" request.proposedCost.val
    let scratch ← runStatelessGate ctx request scratch gate
    .ok ⟨gate.name, scratch.approved, scratch.reasonCode⟩

/-- In-process adapter from a Verdict runtime onto the risk engine. -/
structure RiskProvider where
  ctx : RiskContext
  authority : RiskAuthority

namespace RiskProvider

/-- The constructor: the default context and a stateless authority where none is given. -/
def new (ctx : Option RiskContext) (authority : Option RiskAuthority) : RiskProvider :=
  ⟨ctx.getD .default, authority.getD (.new none none none false)⟩

/-- What an evaluation leaves behind: its result, the provider with its authority mutated, and
the decisions that `on_trip` was invoked with. -/
structure Evaluated where
  outcome : Except PyError RiskProviderResult
  provider : RiskProvider
  alerts : List RiskDecision

/-- The report, the receipt and the result for an authoritative decision. -/
def conclude [ReceiptFormat] (ctx : RiskContext) (request : RiskProviderRequest)
    (decision : RiskDecision) (clock : Clock) : Except PyError RiskProviderResult := do
  let gateOutcomes ← gateReport ctx request
  let outcome := if decision.approved then "approved" else "rejected"
  let receipt ← buildRiskReceipt request.runId request.inputs ctx.config outcome [] none
    (some (receiptDetails request decision.reasonCode gateOutcomes))
  .ok
    { approved := decision.approved
      reasonCode := decision.reasonCode
      suggestedSize := decision.suggestedSize.val
      gateOutcomes
      stateSchemaVersion := riskStateSchemaVersion
      elapsedUs := clock.elapsedUs
      receipt
      apiVersion := providerApiVersion }

/-- Evaluate a request. `engineClock` is read by the engine's latency budget, `clock` by the
provider itself. -/
def evaluate [ReceiptFormat] (provider : RiskProvider) (request : RiskProviderRequest)
    (engineClock clock : Clock) : Evaluated :=
  let evaluation := provider.authority.evaluateWithState provider.ctx request.call engineClock
  { outcome := do
      let decision ← evaluation.outcome
      conclude provider.ctx request decision clock
    provider := { provider with authority := evaluation.authority }
    alerts := evaluation.alerts }

/-- How a result follows from a decision. -/
structure Concluded [ReceiptFormat] (ctx : RiskContext) (request : RiskProviderRequest)
    (decision : RiskDecision) (result : RiskProviderResult) : Prop where
  approved : result.approved = decision.approved
  reasonCode : result.reasonCode = decision.reasonCode
  suggestedSize : result.suggestedSize = decision.suggestedSize.val
  reported : gateReport ctx request = .ok result.gateOutcomes
  receipt : buildRiskReceipt request.runId request.inputs ctx.config
    (if decision.approved then "approved" else "rejected") [] none
    (some (receiptDetails request decision.reasonCode result.gateOutcomes)) = .ok result.receipt

/-- A result holds the decision, the report and a receipt of both. -/
theorem conclude_ok [ReceiptFormat] {ctx : RiskContext} {request : RiskProviderRequest}
    {decision : RiskDecision} {clock : Clock} {result : RiskProviderResult}
    (concluded : conclude ctx request decision clock = .ok result) :
    Concluded ctx request decision result := by
  obtain ⟨report, reported, concluded⟩ := ok_of_bind concluded
  obtain ⟨receipt, built, concluded⟩ := ok_of_bind concluded
  cases concluded
  exact ⟨rfl, rfl, rfl, reported, built⟩

/-- An evaluation that returns has settled a decision and concluded from it. -/
theorem evaluate_ok [ReceiptFormat] {provider : RiskProvider} {request : RiskProviderRequest}
    {engineClock clock : Clock} {result : RiskProviderResult}
    (returned : (provider.evaluate request engineClock clock).outcome = .ok result) :
    ∃ decision, (provider.authority.evaluateWithState provider.ctx request.call
        engineClock).outcome = .ok decision ∧
      Concluded provider.ctx request decision result := by
  obtain ⟨decision, decided, concluded⟩ := ok_of_bind returned
  exact ⟨decision, decided, conclude_ok concluded⟩

end RiskProvider

end Evaluate

end VerdictRisk
