import VerdictRisk.Provider
import VerdictRisk.Verif.EdgeFloats

/-!
# Replays

The stateless path reads one thing besides its arguments: the clock of the latency budget. The
budget is asked last, so a decision can depend on the clock only when everything before the budget
passes, and then it depends on nothing but how long the evaluation took.
-/

namespace VerdictRisk

open Python

/-- The budget does not tell the two readings apart: they last equally long, or none of them
exceeds it. -/
def SameReading (ctx : RiskContext) (clock clock' : Clock) : Prop :=
  clock.elapsedUs = clock'.elapsedUs ∨
    (clock.elapsedUs ≤ ctx.latencyBudgetUs ∧ clock'.elapsedUs ≤ ctx.latencyBudgetUs)

/-- A reason of the budget says how long the evaluation took. -/
theorem lateReason_inj {elapsed other : ℤ} {budget : String} :
    s!"ERR_LATENCY_BUDGET: evaluation took {elapsed}us (limit {budget}us)" =
        s!"ERR_LATENCY_BUDGET: evaluation took {other}us (limit {budget}us)" ↔
      elapsed = other := by
  constructor
  · intro same
    simp only [String.append_left_inj, String.append_right_inj] at same
    exact intText_inj same
  · intro same
    rw [same]

/-- What the budget answers to two readings is the same when it does not tell them apart. -/
theorem latencyRejection_eq_iff {ctx : RiskContext} {clock clock' : Clock}
    {verdict verdict' : Option String} (answered : latencyRejection ctx clock = .ok verdict)
    (answered' : latencyRejection ctx clock' = .ok verdict') :
    verdict = verdict' ↔ SameReading ctx clock clock' := by
  have passes := latencyRejection_passes_iff ctx clock
  have passes' := latencyRejection_passes_iff ctx clock'
  rw [answered, Except.ok.injEq] at passes
  rw [answered', Except.ok.injEq] at passes'
  by_cases within : clock.elapsedUs ≤ ctx.latencyBudgetUs
  · by_cases within' : clock'.elapsedUs ≤ ctx.latencyBudgetUs
    · rw [passes.mpr within, passes'.mpr within']
      exact iff_of_true rfl (.inr ⟨within, within'⟩)
    · have late : verdict' ≠ none := fun silent => within' (passes'.mp silent)
      rw [passes.mpr within]
      refine iff_of_false (fun same => late same.symm) ?_
      rintro (same | ⟨_, reached⟩)
      · exact within' (same ▸ within)
      · exact within' reached
  · by_cases within' : clock'.elapsedUs ≤ ctx.latencyBudgetUs
    · have late : verdict ≠ none := fun silent => within (passes.mp silent)
      rw [passes'.mpr within']
      apply iff_of_false late
      rintro (same | ⟨reached, _⟩)
      · exact within (same ▸ within')
      · exact within reached
    · rw [latencyRejection_late (not_le.mp within)] at answered
      rw [latencyRejection_late (not_le.mp within')] at answered'
      obtain ⟨budget, written, same⟩ := Fallible.map_ok_iff.mp answered
      obtain ⟨budget', written', same'⟩ := Fallible.map_ok_iff.mp answered'
      rw [written, Except.ok.injEq] at written'
      subst written'
      rw [← same, ← same', Option.some.injEq, lateReason_inj, SameReading]
      simp [within]

section Replay

variable [FloatFormat]

/-- Everything before the latency budget passes. -/
structure ReachesBudget (ctx : RiskContext) (call : TradeCall) : Prop where
  gates : ∀ check ∈ gateChecks ctx call, check = .ok none
  cap : clusterCheck call.clusterCapCtx = .ok none

/-- The chain up to the budget settles a call, or the budget does. -/
theorem chain_or_budget (ctx : RiskContext) (call : TradeCall) :
    (ReachesBudget ctx call ∧ ∀ clock,
      Checks.first (chainChecks ctx call clock) = latencyRejection ctx clock) ∨
    (¬ ReachesBudget ctx call ∧ ∀ clock clock', Checks.first (chainChecks ctx call clock) =
      Checks.first (chainChecks ctx call clock')) := by
  have last : ∀ clock, Checks.first [latencyRejection ctx clock] = latencyRejection ctx clock := by
    intro clock
    rcases latencyRejection ctx clock with raised | - | reason <;> rfl
  have passes := Checks.first_passes_iff (gateChecks ctx call)
  simp only [chainChecks, Checks.first_append (gateChecks ctx call)]
  rcases gates : Checks.first (gateChecks ctx call) with raised | - | reason
  · right
    refine ⟨fun reaches => ?_, fun clock clock' => rfl⟩
    rw [passes.mpr reaches.gates] at gates
    contradiction
  · rcases cap : clusterCheck call.clusterCapCtx with raised | - | reason
    · right
      refine ⟨fun reaches => ?_, fun clock clock' => rfl⟩
      rw [reaches.cap] at cap
      contradiction
    · left
      refine ⟨⟨passes.mp gates, cap⟩, fun clock => ?_⟩
      rw [Checks.first_passed, Checks.first_passed, last, last]
    · right
      refine ⟨fun reaches => ?_, fun clock clock' => rfl⟩
      rw [reaches.cap] at cap
      cases cap
  · right
    refine ⟨fun reaches => ?_, fun clock clock' => rfl⟩
    rw [passes.mpr reaches.gates] at gates
    cases gates

/-- Two decisions on one call are equal exactly when the call is settled before the budget or the
budget does not tell the readings apart. -/
theorem decisions_eq_iff {ctx : RiskContext} {call : TradeCall} {clock clock' : Clock}
    {decision decision' : RiskDecision} (returned : evaluateTrade ctx call clock = .ok decision)
    (returned' : evaluateTrade ctx call clock' = .ok decision') :
    decision = decision' ↔ (ReachesBudget ctx call → SameReading ctx clock clock') := by
  obtain ⟨_, verdict, answered, rfl⟩ := evaluateStateless_ok returned
  obtain ⟨_, verdict', answered', rfl⟩ := evaluateStateless_ok returned'
  rw [RiskDecision.settle_injective]
  rcases chain_or_budget ctx call with ⟨reaches, decided⟩ | ⟨settled, decided⟩
  · rw [decided] at answered answered'
    rw [latencyRejection_eq_iff answered answered']
    exact ⟨fun same _ => same, fun same => same reaches⟩
  · rw [decided clock clock', answered', Except.ok.injEq] at answered
    exact iff_of_true answered.symm fun reaches => absurd reaches settled

variable [ReceiptFormat]

/-- The receipts of two decisions on one request are equal exactly when the decisions are. -/
theorem receipts_eq_iff {ctx : RiskContext} {request : RiskProviderRequest}
    {decision decision' : RiskDecision} {result result' : RiskProviderResult}
    (sized : decision.suggestedSize = decision'.suggestedSize)
    (concluded : RiskProvider.Concluded ctx request decision result)
    (concluded' : RiskProvider.Concluded ctx request decision' result') :
    result.receipt = result'.receipt ↔ decision = decision' := by
  constructor
  · intro same
    have built := buildRiskReceipt_ok concluded.receipt
    have built' := buildRiskReceipt_ok concluded'.receipt
    have details := built.details
    have outcome := built.outcome
    rw [same, built'.details] at details
    rw [same, built'.outcome] at outcome
    simp only [receiptDetails, Option.getD_some, List.cons.injEq, Prod.mk.injEq, true_and,
      PyValue.str.injEq] at details
    have reasons : decision'.reasonCode = decision.reasonCode := details.1
    obtain ⟨approved, reason, size⟩ := decision
    obtain ⟨approved', reason', size'⟩ := decision'
    cases reasons
    cases sized
    cases approved <;> cases approved' <;> simp at outcome ⊢
  · rintro rfl
    have reported := concluded.reported
    rw [concluded'.reported, Except.ok.injEq] at reported
    have receipt := concluded.receipt
    rw [← reported, concluded'.receipt, Except.ok.injEq] at receipt
    exact receipt.symm

/-- Two evaluations of one call under one policy return the same decision exactly when the call is
settled before the latency budget is asked, or the two readings last equally long, or none of them
exceeds the budget; and so it is for the receipts of two stateless evaluations of one request. -/
theorem replay_iff (ctx : RiskContext) (clock clock' : Clock) :
    (∀ call decision decision', evaluateTrade ctx call clock = .ok decision →
      evaluateTrade ctx call clock' = .ok decision' →
        (decision = decision' ↔ (ReachesBudget ctx call → SameReading ctx clock clock'))) ∧
    ∀ request outer outer' result result',
      ((RiskProvider.new (some ctx) none).evaluate request clock outer).outcome = .ok result →
      ((RiskProvider.new (some ctx) none).evaluate request clock' outer').outcome = .ok result' →
        (result.receipt = result'.receipt ↔
          (ReachesBudget ctx request.call → SameReading ctx clock clock')) := by
  constructor
  · intro call decision decision' returned returned'
    exact decisions_eq_iff returned returned'
  · intro request outer outer' result result' returned returned'
    obtain ⟨decision, decided, concluded⟩ := RiskProvider.evaluate_ok returned
    obtain ⟨decision', decided', concluded'⟩ := RiskProvider.evaluate_ok returned'
    replace decided : evaluateTrade ctx request.call clock = .ok decision := by
      rw [← evaluateWithState_stateless ctx request.call clock false]
      exact decided
    replace decided' : evaluateTrade ctx request.call clock' = .ok decision' := by
      rw [← evaluateWithState_stateless ctx request.call clock' false]
      exact decided'
    have sized : decision.suggestedSize = decision'.suggestedSize := by
      obtain ⟨_, verdict, _, rfl⟩ := evaluateStateless_ok decided
      obtain ⟨_, verdict', _, rfl⟩ := evaluateStateless_ok decided'
      cases verdict <;> cases verdict' <;> rfl
    rw [receipts_eq_iff sized concluded concluded']
    exact decisions_eq_iff decided decided'

end Replay

section Example

attribute [local instance] FloatFormat.exact ReceiptFormat.plain

/-- Two evaluations within the budget of the default policy return one decision. -/
theorem quick_evaluations_agree :
    let call := TradeCall.plain 10 none
    ∃ decision decision', evaluateTrade .default call ⟨0, 0⟩ = .ok decision ∧
      evaluateTrade .default call ⟨0, 400000⟩ = .ok decision' ∧ decision = decision' := by
  intro call
  have approved : evaluateTrade .default call ⟨0, 0⟩ = .ok ⟨true, "OK", ⟨10, rfl⟩⟩ := by
    decide +kernel
  have approved' : evaluateTrade .default call ⟨0, 400000⟩ = .ok ⟨true, "OK", ⟨10, rfl⟩⟩ := by
    decide +kernel
  have within : SameReading .default ⟨0, 0⟩ ⟨0, 400000⟩ := .inr (by decide)
  have agree := (replay_iff .default ⟨0, 0⟩ ⟨0, 400000⟩).1 call _ _ approved approved'
  exact ⟨_, _, approved, approved', agree.mpr fun _ => within⟩

/-- Under the default policy an evaluation is approved at once and rejected after 501
microseconds. -/
theorem slow_evaluation_rejected : ∃ decision decision',
    evaluateTrade .default (.plain 10 none) ⟨0, 0⟩ = .ok decision ∧
      evaluateTrade .default (.plain 10 none) ⟨0, 501000⟩ = .ok decision' ∧
      decision ≠ decision' := by
  refine ⟨⟨true, "OK", ⟨10, rfl⟩⟩,
    ⟨false, "ERR_LATENCY_BUDGET: evaluation took 501us (limit 500us)", ⟨10, rfl⟩⟩, ?_⟩
  decide +kernel

end Example

end VerdictRisk
