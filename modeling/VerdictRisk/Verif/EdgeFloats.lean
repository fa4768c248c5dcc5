import VerdictRisk.Session
import VerdictRisk.Verif.Chain

/-!
# Edge floats

The gates answer every float. What raises is the text and the objects around them: a decision is
built of the proposed cost before any gate could reject it, the cluster cap builds another one of
the cluster's cost, and the reason of the latency budget writes the limit out.
-/

namespace VerdictRisk

open Python

variable [FloatFormat]

/-- The call returns a decision, and rejects a cost that is not finite. -/
def Survives (call : TradeCall) (outcome : Except PyError RiskDecision) : Prop :=
  ∃ decision, outcome = .ok decision ∧
    (call.proposedCost.isFinite = false → decision.approved = false)

/-- What the budget has to write, if it rejects, has no more digits than can be written. -/
def BudgetAnswers (ctx : RiskContext) (clock : Clock) : Prop :=
  clock.elapsedUs ≤ ctx.latencyBudgetUs ∨ ctx.latencyBudgetUs.natAbs < textLimit

/-- The cluster cap rejects. -/
def CapStops (call : TradeCall) : Prop :=
  ∃ cluster, call.clusterCapCtx = some cluster ∧ CapExceeded cluster

/-- The proposed cost is finite, and behind the pure gates nothing raises: one of them rejects, or
the cap rejects, or the cluster's cost is finite too and the budget answers. -/
structure Evaluable (ctx : RiskContext) (call : TradeCall) (clock : Clock) : Prop where
  cost : call.proposedCost.isFinite = true
  settled : (∃ check ∈ gateChecks ctx call, check ≠ .ok none) ∨ CapStops call ∨
    ((∀ cluster, call.clusterCapCtx = some cluster → cluster.proposedCost.isFinite = true) ∧
      BudgetAnswers ctx clock)

omit [FloatFormat] in
/-- The budget answers, or it raises on the limit it has to write. -/
theorem latencyRejection_returns_iff (ctx : RiskContext) (clock : Clock) :
    (∃ verdict, latencyRejection ctx clock = .ok verdict) ↔ BudgetAnswers ctx clock := by
  by_cases within : clock.elapsedUs ≤ ctx.latencyBudgetUs
  · exact iff_of_true ⟨none, (latencyRejection_passes_iff ctx clock).mpr within⟩ (.inl within)
  · rw [latencyRejection_late (not_le.mp within), BudgetAnswers]
    unfold intText
    by_cases short : ctx.latencyBudgetUs.natAbs < textLimit
    · simp [short, Except.map]
    · simp [short, within, Except.map]

/-- The rest of the chain answers when the cap stops it, or when the cap passes and the budget
answers. -/
theorem capAndBudget_return_iff (ctx : RiskContext) (call : TradeCall) (clock : Clock) :
    (∃ verdict, Checks.first [clusterCheck call.clusterCapCtx, latencyRejection ctx clock] =
        .ok verdict) ↔
      CapStops call ∨ ((∀ cluster, call.clusterCapCtx = some cluster →
        cluster.proposedCost.isFinite = true) ∧ BudgetAnswers ctx clock) := by
  have passed : Checks.first [Except.ok none, latencyRejection ctx clock] =
      latencyRejection ctx clock := by
    rw [Checks.first_passed]
    rcases latencyRejection ctx clock with raised | - | reason <;> rfl
  cases given : call.clusterCapCtx with
  | none =>
    have open' : ¬ CapStops call := by simp [CapStops, given]
    rw [show clusterCheck none = .ok none from rfl, passed, latencyRejection_returns_iff]
    simp [open']
  | some cluster =>
    have stops : CapStops call ↔ CapExceeded cluster := by simp [CapStops, given]
    rw [stops]
    rcases clusterCheck_cases cluster with ⟨exceeded, reason, rejected⟩ |
      ⟨within, finite, passes⟩ | ⟨within, infinite, raised, fails⟩
    · simp [rejected, exceeded]
    · rw [passes, passed, latencyRejection_returns_iff]
      simp [within, finite]
    · simp [fails, within, infinite]

/-- The chain answers exactly the calls that are evaluable. -/
theorem evaluateStateless_survives_iff (ctx : RiskContext) (call : TradeCall) (clock : Clock) :
    Survives call (evaluateStateless ctx call clock) ↔ Evaluable ctx call clock := by
  rw [evaluateStateless_eq]
  by_cases finite : call.proposedCost.isFinite = true
  · have returns : Survives call (evaluateStateless ctx call clock) ↔
        ∃ verdict, Checks.first (chainChecks ctx call clock) = .ok verdict := by
      rw [Survives, evaluateStateless_eq, RiskDecision.new, dif_pos finite]
      rcases Checks.first (chainChecks ctx call clock) with raised | verdict
      · simp [bind, Except.bind, Except.map]
      · simp [bind, Except.bind, Except.map, finite]
    rw [evaluateStateless_eq] at returns
    have evaluable : Evaluable ctx call clock ↔ (∃ check ∈ gateChecks ctx call, check ≠ .ok none) ∨
        ∃ verdict, Checks.first [clusterCheck call.clusterCapCtx, latencyRejection ctx clock] =
          .ok verdict := by
      rw [capAndBudget_return_iff]
      exact ⟨fun evaluable => evaluable.settled, fun settled => ⟨finite, settled⟩⟩
    rw [returns, evaluable, chainChecks, Checks.first_append]
    obtain ⟨verdict, answered⟩ := Checks.first_returns (gateChecks_return ctx call)
    have passes := Checks.first_passes_iff (gateChecks ctx call)
    rw [answered] at passes ⊢
    cases verdict with
    | none =>
      have each := passes.mp rfl
      have silent : ¬ ∃ check ∈ gateChecks ctx call, check ≠ .ok none := by simpa using each
      rw [Checks.first_passed, or_iff_right silent]
      rcases Checks.first [clusterCheck call.clusterCapCtx, latencyRejection ctx clock] with
        raised | - | reason <;> simp
    | some reason =>
      have rejected : ∃ check ∈ gateChecks ctx call, check ≠ .ok none := by
        by_contra silent
        simp only [not_exists, not_and, ne_eq, not_not] at silent
        have passed := passes.mpr silent
        cases passed
      simp [rejected]
  · rw [RiskDecision.new, dif_neg finite]
    constructor
    · rintro ⟨decision, returned, _⟩
      contradiction
    · intro evaluable
      exact absurd evaluable.cost finite

/-- Without stateful gates the authority evaluates as `evaluate_trade` does. -/
theorem evaluateWithState_stateless (ctx : RiskContext) (call : TradeCall) (clock : Clock)
    (onTrip : Bool) :
    ((RiskAuthority.new none none none onTrip).evaluateWithState ctx call clock).outcome =
      evaluateTrade ctx call clock := by
  unfold RiskAuthority.evaluateWithState
  cases built : RiskDecision.new true "OK" call.proposedCost with
  | error raised =>
    rw [evaluateTrade, evaluateStateless_eq, built]
    rfl
  | ok decision => rfl

/-- Both entry points return a decision, and reject a cost that is not finite, exactly on the
evaluable calls; so no call with a cost that is not finite is among them. -/
theorem engine_survives_iff (ctx : RiskContext) (call : TradeCall) (clock : Clock)
    (onTrip : Bool) :
    (Survives call (evaluateTrade ctx call clock) ∧ Survives call
        ((RiskAuthority.new none none none onTrip).evaluateWithState ctx call clock).outcome) ↔
      Evaluable ctx call clock := by
  rw [evaluateWithState_stateless, and_self]
  exact evaluateStateless_survives_iff ctx call clock

omit [FloatFormat] in
/-- A proposed cost of NaN raises under the default policy. -/
theorem nan_cost_raises :
    ¬ Survives (.plain .nan none) (@evaluateTrade .exact .default (.plain .nan none) ⟨0, 0⟩) := by
  rintro ⟨decision, returned, _⟩
  have raises : (@evaluateTrade .exact .default (.plain .nan none) ⟨0, 0⟩).isOk = false := by
    decide +kernel
  rw [returned] at raises
  contradiction

end VerdictRisk
