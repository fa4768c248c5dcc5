import VerdictRisk.Engine
import VerdictRisk.Library.Effects

/-!
# Tracing of the stateless path

The spans of `engine.py`: `_evaluate_stateless` and `_run_gate` open a span only while the SDK is
installed, which is looked up again for every span. The model says which calls reach the tracer
and its spans, and in which order; what they export is not modelled.
-/

namespace VerdictRisk

open Python Effects

/-- What is set on a span. -/
inductive AttributeValue where
  | bool (value : Bool)
  | float (value : PyFloat)
  | int (value : ℤ)
  | str (value : String)
deriving DecidableEq

/-- A call on the tracer or on one of its spans, which go by their names. -/
inductive TracerCall (Error : Type) where
  /-- `start_as_current_span(name)`, entered -/
  | start (span : String)
  /-- `span.set_attribute(key, value)` -/
  | setAttribute (span key : String) (value : AttributeValue)
  /-- `span.record_exception(exc)` -/
  | recordException (span : String) (raised : Error)
  /-- The span is left, with what was raised inside. -/
  | finish (span : String) (raised : Option Error)
deriving DecidableEq

/-- The blocks of a tracer are its spans. -/
def TracerCall.role {Error : Type} : TracerCall Error → Role String
  | .start span => .opens span
  | .finish span _ => .closes span
  | .setAttribute _ _ _ | .recordException _ _ => .plain

/-- A computation that is traced. -/
abbrev Traced (Value : Type) : Type := Run (TracerCall PyError) PyError Value

/-- The module of the tracer provider's class, as it is found when a span is to be started. -/
abbrev ProviderModules : Type := String → String

/-- Return True when OpenTelemetry SDK tracing has been configured. -/
def tracingEnabled (module : String) : Bool :=
  "opentelemetry.sdk".toList.isPrefixOf module.toList

/-- Start a span only when SDK tracing is active; otherwise there is none. -/
def maybeSpan {Value : Type} (modules : ProviderModules) (name : String)
    (body : Option String → Traced Value) : Traced Value :=
  if tracingEnabled (modules name) then .within (.start name) (.finish name) (body (some name))
  else body none

/-- Set span attributes when a real span exists. -/
def setAttrs (span : Option String) (attrs : List (String × AttributeValue)) : Traced Unit :=
  match span with
  | none => .perform []
  | some span => .perform (attrs.map fun (key, value) => .setAttribute span key value)

/-- Annotate a root span with the rejection result. -/
def markRejected (span : Option String) (decision : RiskDecision) : Traced Unit :=
  setAttrs span [("approved", .bool false), ("reason_code", .str decision.reasonCode)]

/-- Execute a gate and annotate a child span when tracing is active. -/
def runGateTraced (modules : ProviderModules) (name : String)
    (gate : Except PyError (Bool × RiskDecision)) : Traced (Bool × RiskDecision) :=
  maybeSpan modules name fun span => do
    let (result, decision) ← Run.lift gate
    setAttrs span [("approved", .bool result)]
    if !result then setAttrs span [("reason_code", .str decision.reasonCode)]
    return (result, decision)

section Evaluate

variable [FloatFormat]

/-- `_evaluate_stateless`, with its spans. -/
def evaluateStatelessTraced (modules : ProviderModules) (ctx : RiskContext) (call : TradeCall)
    (clock : Clock) : Traced RiskDecision :=
  maybeSpan modules "evaluate_trade" fun span => do
    setAttrs span
      [("trade_risk_engine.target_family", .str call.targetFamily),
        ("trade_risk_engine.proposed_cost", .float call.proposedCost),
        ("trade_risk_engine.expected_value", .float call.expectedValue),
        ("trade_risk_engine.daily_realized_pnl", .float call.dailyRealizedPnl),
        ("trade_risk_engine.equity", .float call.equity)]
    let decision ← Run.lift (RiskDecision.new true "OK" call.proposedCost)
    let (passed, decision) ← runGateTraced modules "evaluate_expected_value"
      (.ok (evaluateExpectedValue ctx call.expectedValue decision))
    if !passed then
      markRejected span decision
      return decision
    let (passed, decision) ← runGateTraced modules "evaluate_drawdown"
      (.ok (evaluateDrawdown ctx call.dailyRealizedPnl call.equity decision))
    if !passed then
      markRejected span decision
      return decision
    let (passed, decision) ← runGateTraced modules "evaluate_consecutive_losses"
      (evaluateConsecutiveLosses ctx call.tradeOutcomes call.currentTime decision)
    if !passed then
      markRejected span decision
      return decision
    let (passed, decision) ← runGateTraced modules "evaluate_concentration"
      (.ok (evaluateConcentration ctx call.targetFamily call.proposedCost call.openPositions
        decision))
    if !passed then
      markRejected span decision
      return decision
    if let some cluster := call.clusterCapCtx then
      let clusterDecision ← Run.lift (evaluateClusterCap cluster)
      if !clusterDecision.approved then
        let decision :=
          { decision with approved := false, reasonCode := clusterDecision.reasonCode }
        markRejected span decision
        return decision
    let late ← Run.lift (latencyRejection ctx clock)
    if let some reason := late then
      let decision := { decision with approved := false, reasonCode := reason }
      markRejected span decision
      return decision
    setAttrs span
      [("approved", .bool true), ("suggested_size", .float decision.suggestedSize.val)]
    return decision

end Evaluate

end VerdictRisk
