import VerdictRisk.Provider
import VerdictRisk.Session
import VerdictRisk.Verif.Chain

/-!
# Decision and report

The decision comes from a chain that stops at the first gate that rejects; the report asks every
stateless gate on a scratch decision of its own. Both ask the same checks, so the decision can be
read off the report, desk halts and the latency budget apart.
-/

namespace VerdictRisk

open Python

section Report

variable [FloatFormat]

/-- The kill switch as a check. -/
def switchCheck (authority : RiskAuthority) : Checks.Check PyError String :=
  .ok (authority.killSwitch.bind fun switch => if switch.tripped then some switch.reason else none)

/-- The breaker as a check. -/
def breakerCheck (authority : RiskAuthority) (now : Option DateTime) :
    Checks.Check PyError String :=
  match authority.timedBreaker with
  | none => .ok none
  | some breaker => breaker.rejection now

/-- The loss gate as a check. -/
def lossGateCheck (authority : RiskAuthority) : Checks.Check PyError String :=
  .ok (authority.consecutiveLossGate.bind ConsecutiveLossGate.rejection)

/-- The desk gates, in the order in which they are asked. -/
def statefulChecks (authority : RiskAuthority) (now : Option DateTime) :
    List (Checks.Check PyError String) :=
  [switchCheck authority, breakerCheck authority now, lossGateCheck authority]

omit [FloatFormat] in
/-- A clear switch passes. -/
theorem switchCheck_clear {authority : RiskAuthority} (clear : authority.SwitchClear) :
    switchCheck authority = .ok none := by
  unfold switchCheck
  cases present : authority.killSwitch with
  | none => rfl
  | some switch => simp [clear switch present]

/-- A breaker that rejects nothing passes. -/
theorem breakerCheck_passes {authority : RiskAuthority} {now : Option DateTime}
    (passed : ∀ breaker, authority.timedBreaker = some breaker →
      breaker.rejection now = .ok none) : breakerCheck authority now = .ok none := by
  unfold breakerCheck
  cases present : authority.timedBreaker with
  | none => rfl
  | some breaker => exact passed breaker present

omit [FloatFormat] in
/-- A clear loss gate passes. -/
theorem lossGateCheck_clear {authority : RiskAuthority} (clear : authority.LossGateClear) :
    lossGateCheck authority = .ok none := by
  unfold lossGateCheck
  cases present : authority.consecutiveLossGate with
  | none => rfl
  | some gate => simp [clear gate present]

/-- An evaluation settles one decision by the first desk gate, stateless gate or budget that does
not pass. -/
theorem evaluateWithState_outcome (authority : RiskAuthority) (ctx : RiskContext)
    (call : TradeCall) (clock : Clock) {decision : RiskDecision}
    (built : RiskDecision.new true "OK" call.proposedCost = .ok decision) :
    (authority.evaluateWithState ctx call clock).outcome =
      (Checks.first (statefulChecks authority call.currentTime ++
        chainChecks ctx call clock)).map fun reason => (decision.settle reason).2 := by
  rw [statefulChecks, List.cons_append, List.cons_append, List.cons_append, List.nil_append]
  rcases authority.evaluateWithState_cases ctx call clock built with
    ⟨switch, present, up, evaluated⟩ |
    ⟨clear, breaker, raised, present, _, _, failed, evaluated⟩ |
    ⟨clear, breaker, reason, present, _, _, rejected, evaluated⟩ |
    ⟨clear, onward, _, passed, ⟨gate, reason, present, rejected, evaluated⟩ |
      ⟨gateClear, evaluated⟩⟩
  · have halted : switchCheck authority = .ok (some switch.reason) := by
      simp [switchCheck, present, up]
    rw [evaluated, halted]
    rfl
  · have halted : breakerCheck authority call.currentTime = .error raised := by
      simp [breakerCheck, present, failed]
    rw [evaluated, switchCheck_clear clear, halted]
    rfl
  · have halted : breakerCheck authority call.currentTime = .ok (some reason) := by
      simp [breakerCheck, present, rejected]
    rw [evaluated, switchCheck_clear clear, halted]
    rfl
  · have halted : lossGateCheck authority = .ok (some reason) := by
      simp [lossGateCheck, present, rejected]
    rw [evaluated, switchCheck_clear clear, breakerCheck_passes passed, halted]
    rfl
  · rw [evaluated, switchCheck_clear clear, breakerCheck_passes passed,
      lossGateCheck_clear gateClear]
    simp only [Checks.first_passed]
    rw [evaluateStateless_eq, built]
    rfl

/-- What a gate of the report is asked. -/
def gateCheck (ctx : RiskContext) (request : RiskProviderRequest) :
    StatelessGate → Checks.Check PyError String
  | .evaluateExpectedValue => .ok (expectedValueRejection ctx request.expectedValue.val)
  | .evaluateDrawdown =>
    .ok (drawdownRejection ctx request.dailyRealizedPnl.val request.equity.val)
  | .evaluateConsecutiveLosses =>
    consecutiveLossesRejection ctx (some request.tradeOutcomes) request.currentTime
  | .evaluateConcentration =>
    .ok (concentrationRejection ctx request.targetFamily request.proposedCost.val
      request.openPositions)

/-- The entry of a gate that answers as given. -/
def reportEntry (gate : StatelessGate) (answer : Option String) : GateOutcome :=
  ⟨gate.name, answer.isNone, answer.getD "OK"⟩

/-- The reason of an entry that is not approved. -/
def GateOutcome.rejection (entry : GateOutcome) : Option String :=
  if entry.approved then none else some entry.reasonCode

omit [FloatFormat] in
/-- An entry of the report rejects with the answer of its gate. -/
theorem reportEntry_rejection (gate : StatelessGate) (answer : Option String) :
    (reportEntry gate answer).rejection = answer := by
  cases answer <;> rfl

omit [FloatFormat] in
/-- The first reason in a report is that of its first entry that is not approved. -/
theorem findSome_rejection (report : List GateOutcome) :
    report.findSome? GateOutcome.rejection =
      (report.find? (!·.approved)).map GateOutcome.reasonCode := by
  induction report with
  | nil => rfl
  | cons entry rest ih =>
    rw [List.findSome?_cons, List.find?_cons, GateOutcome.rejection]
    cases entry.approved with
    | true => exact ih
    | false => rfl

/-- The chain asks the gates of the report, in its order: no outcomes and an empty list of them
are answered alike. -/
theorem gateChecks_call (ctx : RiskContext) (request : RiskProviderRequest) :
    gateChecks ctx request.call = statelessGates.map (gateCheck ctx request) := by
  have losses : consecutiveLossesRejection ctx request.call.tradeOutcomes
      request.call.currentTime =
      consecutiveLossesRejection ctx (some request.tradeOutcomes) request.currentTime := by
    unfold RiskProviderRequest.call
    cases request.tradeOutcomes <;> rfl
  rw [gateChecks, losses]
  rfl

/-- A gate of the report settles its scratch decision. -/
theorem runStatelessGate_eq (ctx : RiskContext) (request : RiskProviderRequest)
    (scratch : RiskDecision) (gate : StatelessGate) :
    runStatelessGate ctx request scratch gate =
      (gateCheck ctx request gate).map fun reason => (scratch.settle reason).2 := by
  cases gate with
  | evaluateConsecutiveLosses =>
    simp only [runStatelessGate, evaluateConsecutiveLosses, gateCheck]
    cases consecutiveLossesRejection ctx (some request.tradeOutcomes) request.currentTime <;> rfl
  | _ => rfl

/-- The report makes an entry of what each gate answers. -/
theorem gateReport_eq (ctx : RiskContext) (request : RiskProviderRequest) :
    gateReport ctx request =
      statelessGates.mapM fun gate => (gateCheck ctx request gate).map (reportEntry gate) := by
  unfold gateReport
  refine congrArg (List.mapM · statelessGates) (funext fun gate => ?_)
  rw [RiskDecision.new_finite true "OK" request.proposedCost]
  simp only [bind, Except.bind, runStatelessGate_eq]
  rcases gateCheck ctx request gate with raised | - | reason <;> rfl

/-- The chain of the gates answers with the first entry of the report that is not approved. -/
theorem first_gateChecks {ctx : RiskContext} {request : RiskProviderRequest}
    {report : List GateOutcome} (reported : gateReport ctx request = .ok report) :
    Checks.first (gateChecks ctx request.call) =
      .ok ((report.find? (!·.approved)).map GateOutcome.reasonCode) := by
  rw [gateReport_eq] at reported
  rw [gateChecks_call, ← findSome_rejection]
  exact Checks.first_report _ reportEntry_rejection reported

/-- What decides a result: a desk halt, else the first entry of the report that is not approved,
else the latency budget. -/
def DecidedBy (halt : Option String) (result : RiskProviderResult) : Prop :=
  match halt, result.gateOutcomes.find? (!·.approved) with
  | some reason, _ => result.approved = false ∧ result.reasonCode = reason
  | none, some entry => result.approved = false ∧ result.reasonCode = entry.reasonCode
  | none, none => (result.approved = true ∧ result.reasonCode = "OK") ∨
      (result.approved = false ∧ ∃ text, result.reasonCode = "ERR_LATENCY_BUDGET" ++ text)

/-- The report asks the four gates in order, and the receipt says what the result says. -/
structure Evidenced (result : RiskProviderResult) : Prop where
  gates : result.gateOutcomes.map GateOutcome.gate = statelessGates.map StatelessGate.name
  outcome : result.receipt.outcome = if result.approved then "approved" else "rejected"
  reasonCode : result.receipt.details.lookup (.str "reason_code") =
    some (.str result.reasonCode)
  gateOutcomes : result.receipt.details.lookup (.str "gate_outcomes") =
    some (.list (result.gateOutcomes.map GateOutcome.entry))

/-- The receipt of a result says what the result says. -/
theorem concluded_evidenced [ReceiptFormat] {ctx : RiskContext} {request : RiskProviderRequest}
    {decision : RiskDecision} {result : RiskProviderResult}
    (concluded : RiskProvider.Concluded ctx request decision result) : Evidenced result := by
  have built := buildRiskReceipt_ok concluded.receipt
  have reported := concluded.reported
  rw [gateReport_eq] at reported
  constructor
  · exact Checks.report_entries _ _ (fun _ _ => rfl) reported
  · rw [built.outcome, concluded.approved]
  · rw [built.details, concluded.reasonCode]
    rfl
  · rw [built.details]
    rfl

omit [FloatFormat] in
/-- The latency budget has a reason code of its own. -/
theorem latencyRejection_text {ctx : RiskContext} {clock : Clock} {reason : String}
    (late : latencyRejection ctx clock = .ok (some reason)) :
    ∃ text, reason = "ERR_LATENCY_BUDGET" ++ text := by
  have exceeded : ctx.latencyBudgetUs < clock.elapsedUs := by
    by_contra within
    have passes := (latencyRejection_passes_iff ctx clock).mpr (not_lt.mp within)
    rw [passes] at late
    cases late
  rw [latencyRejection_late exceeded] at late
  cases written : intText ctx.latencyBudgetUs with
  | error raised =>
    rw [written] at late
    contradiction
  | ok budget =>
    rw [written, Except.map, Except.ok.injEq] at late
    have same := Option.some.inj late
    have head : "ERR_LATENCY_BUDGET: evaluation took " =
        "ERR_LATENCY_BUDGET" ++ ": evaluation took " := by decide
    rw [← same]
    simp only [toString, head, String.append_assoc]
    exact ⟨_, rfl⟩

/-- The decision agrees with the report: a desk halt overrides it, otherwise its first entry that
is not approved decides, and if there is none only the latency budget can reject. The receipt
records the same decision and the same report. -/
theorem decision_agrees_with_report [ReceiptFormat] (provider : RiskProvider)
    (request : RiskProviderRequest) (engineClock clock : Clock) {result : RiskProviderResult}
    (returned : (provider.evaluate request engineClock clock).outcome = .ok result) :
    (∃ halt, Checks.first (statefulChecks provider.authority request.currentTime) = .ok halt ∧
      DecidedBy halt result) ∧ Evidenced result := by
  obtain ⟨decision, decided, concluded⟩ := RiskProvider.evaluate_ok returned
  refine ⟨?_, concluded_evidenced concluded⟩
  have built := RiskDecision.new_finite true "OK" request.proposedCost
  have chain := evaluateWithState_outcome provider.authority provider.ctx request.call
    engineClock built
  rw [decided, Checks.first_append, chainChecks, Checks.first_append (gateChecks _ _),
    first_gateChecks concluded.reported] at chain
  have now : request.call.currentTime = request.currentTime := rfl
  have cluster : clusterCheck request.call.clusterCapCtx = .ok none := rfl
  rw [now, cluster, Checks.first_passed] at chain
  cases halted : Checks.first (statefulChecks provider.authority request.currentTime) with
  | error raised =>
    rw [halted] at chain
    contradiction
  | ok halt =>
    refine ⟨halt, rfl, ?_⟩
    rw [halted] at chain
    unfold DecidedBy
    rw [concluded.approved, concluded.reasonCode]
    cases halt with
    | some reason =>
      cases chain
      exact ⟨rfl, rfl⟩
    | none =>
      cases failing : result.gateOutcomes.find? (!·.approved) with
      | some entry =>
        rw [failing] at chain
        cases chain
        exact ⟨rfl, rfl⟩
      | none =>
        rw [failing] at chain
        cases late : latencyRejection provider.ctx engineClock with
        | error raised =>
          rw [late] at chain
          contradiction
        | ok verdict =>
          rw [late] at chain
          cases verdict with
          | none =>
            cases chain
            exact .inl ⟨rfl, rfl⟩
          | some text =>
            cases chain
            exact .inr ⟨rfl, latencyRejection_text late⟩

end Report

section Example

attribute [local instance] FloatFormat.exact ReceiptFormat.plain

/-- A provider whose kill switch is tripped. -/
def haltedProvider : RiskProvider :=
  .new none (some (.new (some ⟨true, none, "ERR_KILL_SWITCH_MANUAL"⟩) none none false))

/-- A tripped switch overrides a report that every gate approves. -/
theorem halted_request_rejected : ∃ result,
    (haltedProvider.evaluate plainRequest ⟨0, 0⟩ ⟨0, 0⟩).outcome = .ok result ∧
      result.approved = false ∧ result.reasonCode = "ERR_KILL_SWITCH_MANUAL" ∧
      Evidenced result := by
  have returns : (haltedProvider.evaluate plainRequest ⟨0, 0⟩ ⟨0, 0⟩).outcome.isOk = true := by
    decide +kernel
  cases returned : (haltedProvider.evaluate plainRequest ⟨0, 0⟩ ⟨0, 0⟩).outcome with
  | error raised =>
    rw [returned] at returns
    contradiction
  | ok result =>
    obtain ⟨⟨halt, first, decided⟩, evidenced⟩ := decision_agrees_with_report _ _ _ _ returned
    cases first
    exact ⟨result, rfl, decided.1, decided.2, evidenced⟩

end Example

end VerdictRisk
