import VerdictRisk.DeskGates

/-!
# Risk evaluation entry points

`engine.py`: the stateless chain of gates behind `evaluate_trade`, and the `RiskAuthority`
that checks the desk gates before it. Tracing spans are left to `Tracing`; they change no
decision. The two `perf_counter` readings of the latency budget are an argument. The
`on_trip` callback is an observer: the model returns the decisions it is invoked with.
-/

namespace VerdictRisk

open Python

/-- The arguments of `evaluate_trade` after the context. -/
structure TradeCall where
  dailyRealizedPnl : PyFloat
  equity : PyFloat
  targetFamily : String
  proposedCost : PyFloat
  openPositions : List Position
  expectedValue : PyFloat
  tradeOutcomes : Option (List TradeOutcome)
  currentTime : Option DateTime
  clusterCapCtx : Option ClusterCapContext
deriving DecidableEq

/-- A call of a given cost on an equity of 1000, without profit, positions or history. -/
def TradeCall.plain (cost : PyFloat) (now : Option DateTime) : TradeCall where
  dailyRealizedPnl := 0
  equity := 1000
  targetFamily := "family"
  proposedCost := cost
  openPositions := []
  expectedValue := 0
  tradeOutcomes := none
  currentTime := now
  clusterCapCtx := none

/-- The readings of `perf_counter_ns` at the two ends of an evaluation. -/
structure Clock where
  startNs : ℤ
  endNs : ℤ
deriving DecidableEq

/-- `elapsed_us` -/
def Clock.elapsedUs (clock : Clock) : ℤ := (clock.endNs - clock.startNs) / 1000

/-- `if not _run_gate(...): return decision` -/
def runGate (result : Bool × RiskDecision) (next : RiskDecision → Except PyError RiskDecision) :
    Except PyError RiskDecision :=
  if result.1 then next result.2 else .ok result.2

/-- The latency budget, checked after every gate has passed. -/
def latencyRejection (ctx : RiskContext) (clock : Clock) : Except PyError (Option String) :=
  let elapsedUs := clock.elapsedUs
  if elapsedUs > ctx.latencyBudgetUs then do
    let budget ← intText ctx.latencyBudgetUs
    .ok (some s!"ERR_LATENCY_BUDGET: evaluation took {elapsedUs}us (limit {budget}us)")
  else .ok none

/-- The budget passes every evaluation that takes no longer. -/
theorem latencyRejection_passes_iff (ctx : RiskContext) (clock : Clock) :
    latencyRejection ctx clock = .ok none ↔ clock.elapsedUs ≤ ctx.latencyBudgetUs := by
  unfold latencyRejection
  dsimp only
  by_cases late : clock.elapsedUs > ctx.latencyBudgetUs
  · rw [if_pos late]
    cases intText ctx.latencyBudgetUs <;> simp [bind, Except.bind, not_le.mpr late]
  · rw [if_neg late]
    simp [not_lt.mp late]

/-- The budget rejects an evaluation that takes longer, if it can write the reason. -/
theorem latencyRejection_late {ctx : RiskContext} {clock : Clock}
    (late : ctx.latencyBudgetUs < clock.elapsedUs) :
    latencyRejection ctx clock = (intText ctx.latencyBudgetUs).map fun budget =>
      some s!"ERR_LATENCY_BUDGET: evaluation took {clock.elapsedUs}us (limit {budget}us)" := by
  unfold latencyRejection
  dsimp only
  rw [if_pos late]
  cases intText ctx.latencyBudgetUs <;> rfl

section Evaluate

variable [FloatFormat]

/-- The optional cluster cap: its own decision is consulted, and only its rejection is copied. -/
def runClusterCap (clusterCapCtx : Option ClusterCapContext) (decision : RiskDecision)
    (next : RiskDecision → Except PyError RiskDecision) : Except PyError RiskDecision :=
  match clusterCapCtx with
  | none => next decision
  | some cluster => do
    let clusterDecision ← evaluateClusterCap cluster
    if clusterDecision.approved then next decision
    else .ok { decision with approved := false, reasonCode := clusterDecision.reasonCode }

/-- Run the pure gate chain. -/
def evaluateStateless (ctx : RiskContext) (call : TradeCall) (clock : Clock) :
    Except PyError RiskDecision := do
  let decision ← RiskDecision.new true "OK" call.proposedCost
  runGate (evaluateExpectedValue ctx call.expectedValue decision) fun decision =>
    runGate (evaluateDrawdown ctx call.dailyRealizedPnl call.equity decision) fun decision => do
      let result ← evaluateConsecutiveLosses ctx call.tradeOutcomes call.currentTime decision
      runGate result fun decision =>
        runGate (evaluateConcentration ctx call.targetFamily call.proposedCost call.openPositions
            decision) fun decision =>
          runClusterCap call.clusterCapCtx decision fun decision =>
            (latencyRejection ctx clock).map fun reason => (decision.settle reason).2

/-- Evaluate a proposed trade using only supplied inputs. -/
def evaluateTrade (ctx : RiskContext) (call : TradeCall) (clock : Clock) :
    Except PyError RiskDecision := evaluateStateless ctx call clock

end Evaluate

/-- Coordinator for deterministic trade risk evaluation. -/
structure RiskAuthority where
  killSwitch : Option KillSwitch
  timedBreaker : Option TimedCircuitBreaker
  consecutiveLossGate : Option ConsecutiveLossGate
  /-- Whether a callback is installed. -/
  onTrip : Bool
  lastTripReason : Option String

/-- What an evaluation leaves behind: its result, the authority, and the decisions that
`on_trip` was invoked with. -/
structure Evaluation where
  outcome : Except PyError RiskDecision
  authority : RiskAuthority
  alerts : List RiskDecision

namespace RiskAuthority

/-- The constructor. -/
def new (killSwitch : Option KillSwitch) (timedBreaker : Option TimedCircuitBreaker)
    (consecutiveLossGate : Option ConsecutiveLossGate) (onTrip : Bool) : RiskAuthority :=
  ⟨killSwitch, timedBreaker, consecutiveLossGate, onTrip, none⟩

/-- The kill switch check; without a switch the trade proceeds. -/
def passKillSwitch (authority : RiskAuthority) (decision : RiskDecision) : Bool × RiskDecision :=
  match authority.killSwitch with
  | none => (true, decision)
  | some switch => switch.check decision

/-- The breaker check, which may clear the breaker. -/
def passTimedBreaker [FloatFormat] (authority : RiskAuthority) (decision : RiskDecision)
    (now : Option DateTime) : Except PyError (Bool × RiskDecision) × RiskAuthority :=
  match authority.timedBreaker with
  | none => (.ok (true, decision), authority)
  | some breaker =>
    let (result, breaker) := breaker.check decision now
    (result, { authority with timedBreaker := some breaker })

/-- The loss gate check. -/
def passLossGate (authority : RiskAuthority) (decision : RiskDecision) : Bool × RiskDecision :=
  match authority.consecutiveLossGate with
  | none => (true, decision)
  | some gate => gate.check decision

/-- Invoke `on_trip` once per distinct stateful rejection reason. -/
def maybeFireTrip (authority : RiskAuthority) (decision : RiskDecision) :
    RiskAuthority × List RiskDecision :=
  if !authority.onTrip || some decision.reasonCode == authority.lastTripReason then (authority, [])
  else ({ authority with lastTripReason := some decision.reasonCode }, [decision])

/-- A stateful rejection returns the decision after the callback. -/
def haltWith (authority : RiskAuthority) (decision : RiskDecision) : Evaluation :=
  let (authority, alerts) := authority.maybeFireTrip decision
  ⟨.ok decision, authority, alerts⟩

/-- Evaluate a trade after checking opt-in stateful gates. -/
def evaluateWithState [FloatFormat] (authority : RiskAuthority) (ctx : RiskContext)
    (call : TradeCall) (clock : Clock) : Evaluation :=
  match RiskDecision.new true "OK" call.proposedCost with
  | .error raised => ⟨.error raised, authority, []⟩
  | .ok decision =>
    match authority.passKillSwitch decision with
    | (false, decision) => authority.haltWith decision
    | (true, decision) =>
      match authority.passTimedBreaker decision call.currentTime with
      | (.error raised, authority) => ⟨.error raised, authority, []⟩
      | (.ok (false, decision), authority) => authority.haltWith decision
      | (.ok (true, decision), authority) =>
        match authority.passLossGate decision with
        | (false, decision) => authority.haltWith decision
        | (true, _) => ⟨evaluateStateless ctx call clock, authority, []⟩

/-- Feed settled-trade PnL into configured stateful gates. -/
def recordResolvedTrade (authority : RiskAuthority) (pnl : PyNum) (at' : Option DateTime) :
    RiskAuthority :=
  { authority with
    timedBreaker := authority.timedBreaker.map (·.record pnl at')
    consecutiveLossGate := authority.consecutiveLossGate.map (·.record pnl) }

/-- Capture the current authority state together with the active policy. -/
def snapshotState (authority : RiskAuthority) (ctx : RiskContext) : Except PyError RiskState := do
  let timedBreaker ← authority.timedBreaker.mapM TimedCircuitBreaker.toState
  let consecutiveLossGate ← authority.consecutiveLossGate.mapM ConsecutiveLossGate.toState
  RiskState.new riskStateSchemaVersion ctx (authority.killSwitch.map KillSwitch.toState)
    timedBreaker consecutiveLossGate

/-- Restore a `RiskAuthority` from a serialized state snapshot. -/
def fromState [FloatFormat] (state : RiskState) (onTrip : Bool) : Except PyError RiskAuthority := do
  let timedBreaker ← state.timedBreaker.mapM TimedCircuitBreaker.fromState
  let consecutiveLossGate ← state.consecutiveLossGate.mapM ConsecutiveLossGate.fromState
  .ok (new (state.killSwitch.map KillSwitch.fromState) timedBreaker consecutiveLossGate onTrip)

/-- The snapshot of an authority, field by field. -/
def stateOf (authority : RiskAuthority) (ctx : RiskContext) : RiskState :=
  { schemaVersion := riskStateSchemaVersion
    context := ctx
    killSwitch := authority.killSwitch.map KillSwitch.toState
    timedBreaker := authority.timedBreaker.map TimedCircuitBreaker.stateOf
    consecutiveLossGate := authority.consecutiveLossGate.map ConsecutiveLossGate.stateOf
    versionSupported := rfl }

/-- Every authority can be captured. -/
theorem snapshotState_eq (authority : RiskAuthority) (ctx : RiskContext) :
    authority.snapshotState ctx = .ok (authority.stateOf ctx) := by
  obtain ⟨switch, breaker, gate, callback, reason⟩ := authority
  cases breaker <;> cases gate <;>
    simp [snapshotState, stateOf, TimedCircuitBreaker.toState_eq, ConsecutiveLossGate.toState_eq,
      RiskState.new, bind, Except.bind, pure, Except.pure, Functor.map, Except.map]

/-- A captured authority is restored with its gates; the memory of the callback is new. -/
theorem fromState_stateOf [FloatFormat] (authority : RiskAuthority) (ctx : RiskContext)
    (onTrip : Bool) :
    fromState (authority.stateOf ctx) onTrip =
      .ok { authority with onTrip, lastTripReason := none } := by
  obtain ⟨switch, breaker, gate, callback, reason⟩ := authority
  have switches : (switch.map KillSwitch.toState).map KillSwitch.fromState = switch := by
    cases switch with
    | none => rfl
    | some switch => exact congrArg some (KillSwitch.fromState_toState switch)
  cases breaker <;> cases gate <;>
    simp [fromState, stateOf, new, switches, TimedCircuitBreaker.fromState_stateOf,
      ConsecutiveLossGate.fromState_stateOf, bind, Except.bind, pure, Except.pure, Functor.map,
      Except.map]

end RiskAuthority

end VerdictRisk
