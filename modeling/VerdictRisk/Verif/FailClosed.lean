import VerdictRisk.Verif.Chain

/-!
# Failing closed on non-finite numbers

The four pure gates guard their inputs against NaN and infinities, so what they approve they
have read as finite numbers. The cluster cap compares without a guard: a NaN makes both of its
comparisons false, and the trade passes.
-/

namespace VerdictRisk

open Python

variable [FloatFormat]

omit [FloatFormat] in
/-- Every number that a gate has to consult is finite. -/
structure ConsultedFinite (ctx : RiskContext) (call : TradeCall) : Prop where
  expectedValue : call.expectedValue.isFinite = true
  dailyRealizedPnl : call.dailyRealizedPnl.isFinite = true
  equity : call.equity.isFinite = true
  proposedCost : call.proposedCost.isFinite = true
  positions : ∀ pos ∈ call.openPositions, counts call.targetFamily pos →
    pos.costBasis.exact.isFinite = true
  outcomes : 0 < ctx.consecutiveLossLimit → ∀ outcome ∈ call.tradeOutcomes.getD [],
    outcome.pnl.isFinite = true
  cluster : ∀ cluster, call.clusterCapCtx = some cluster → cluster.clusterId ≠ "unknown" →
    cluster.clusterOpenUsd.isFinite = true ∧ cluster.proposedCost.isFinite = true ∧
      cluster.maxClusterUsd.isFinite = true

/-- Something other than a guard on the cluster's two totals stops the call: a pure gate, a
cost that no decision can carry, a comparison of the cap, or the latency budget. -/
def StoppedElsewhere (ctx : RiskContext) (call : TradeCall) (clock : Clock)
    (cluster : ClusterCapContext) : Prop :=
  (∃ check ∈ gateChecks ctx call, check ≠ .ok none) ∨
  cluster.proposedCost.isFinite = false ∨
  (cluster.proposedCost.le 0 = false ∧ (cluster.maxClusterUsd.le 0 = true ∨
    cluster.maxClusterUsd.lt (cluster.clusterOpenUsd.add cluster.proposedCost) = true)) ∨
  latencyRejection ctx clock ≠ .ok none

/-- The chain passes when each of its parts does. -/
theorem chain_passes_iff (ctx : RiskContext) (call : TradeCall) (clock : Clock) :
    Checks.first (chainChecks ctx call clock) = .ok none ↔
      (∀ check ∈ gateChecks ctx call, check = .ok none) ∧
        clusterCheck call.clusterCapCtx = .ok none ∧ latencyRejection ctx clock = .ok none := by
  rw [Checks.first_passes_iff, chainChecks, List.forall_mem_append, List.forall_mem_cons,
    List.forall_mem_singleton]

/-- What the four pure gates pass they have read as finite. -/
theorem gates_consult_finite {ctx : RiskContext} {call : TradeCall}
    (passes : ∀ check ∈ gateChecks ctx call, check = .ok none) :
    call.expectedValue.isFinite = true ∧ call.dailyRealizedPnl.isFinite = true ∧
      call.equity.isFinite = true ∧ call.proposedCost.isFinite = true ∧
      (∀ pos ∈ call.openPositions, counts call.targetFamily pos →
        pos.costBasis.exact.isFinite = true) ∧
      (0 < ctx.consecutiveLossLimit → ∀ outcome ∈ call.tradeOutcomes.getD [],
        outcome.pnl.isFinite = true) := by
  simp only [gateChecks, List.forall_mem_cons, Except.ok.injEq] at passes
  obtain ⟨expected, drawdown, losses, concentration, _⟩ := passes
  rw [expectedValue_passes_iff] at expected
  rw [drawdown_passes_iff] at drawdown
  rw [concentration_passes_iff] at concentration
  rw [consecutiveLosses_passes_iff] at losses
  obtain ⟨cost, exposure, summed, _⟩ := concentration
  have positions := (currentExposure_some_iff _ _ _).mp ⟨exposure, summed⟩
  refine ⟨expected.1, drawdown.1, drawdown.2.1, cost, positions, ?_⟩
  intro active outcome member
  obtain ⟨_, _, off | empty | ⟨first, rest, given, _, finite, _⟩⟩ := losses
  · omega
  · rw [empty] at member
    contradiction
  · rw [given] at member
    exact finite outcome member

/-- A known cluster whose cost is finite passes unless a comparison of the cap stops it. -/
theorem known_cluster_passes {cluster : ClusterCapContext} (known : cluster.clusterId ≠ "unknown") :
    clusterCheck (some cluster) = .ok none ↔ cluster.proposedCost.isFinite = true ∧
      ¬ (cluster.proposedCost.le 0 = false ∧ (cluster.maxClusterUsd.le 0 = true ∨
        cluster.maxClusterUsd.lt (cluster.clusterOpenUsd.add cluster.proposedCost) = true)) := by
  rw [clusterCap_passes_iff]
  cases cluster.proposedCost.le 0 <;> cases cluster.maxClusterUsd.le 0 <;> simp [known]

/-- An approval is based on finite numbers only exactly when the two totals of a known cluster
are finite or something else stops the call. -/
theorem approval_consults_finite_iff (ctx : RiskContext) (call : TradeCall) (clock : Clock) :
    (∀ decision, evaluateTrade ctx call clock = .ok decision → decision.approved = true →
        ConsultedFinite ctx call) ↔
      ∀ cluster, call.clusterCapCtx = some cluster → cluster.clusterId ≠ "unknown" →
        (cluster.clusterOpenUsd.isFinite = true ∧ cluster.maxClusterUsd.isFinite = true) ∨
          StoppedElsewhere ctx call clock cluster := by
  have approves := evaluateStateless_approves_iff ctx call clock
  rw [chain_passes_iff] at approves
  constructor
  · intro failsClosed cluster given known
    by_cases stopped : StoppedElsewhere ctx call clock cluster
    · exact .inr stopped
    · simp only [StoppedElsewhere, not_or, not_exists, not_and, ne_eq, not_not] at stopped
      obtain ⟨gates, cost, cap, latency⟩ := stopped
      have capped : clusterCheck call.clusterCapCtx = .ok none := by
        rw [given, known_cluster_passes known]
        exact ⟨by simpa using cost, by simpa using cap⟩
      have finite := (gates_consult_finite gates).2.2.2.1
      obtain ⟨decision, returned, approved⟩ := approves.mpr ⟨finite, gates, capped, latency⟩
      obtain ⟨opened, _, ceiling⟩ :=
        (failsClosed decision returned approved).cluster cluster given known
      exact .inl ⟨opened, ceiling⟩
  · intro guarded decision returned approved
    obtain ⟨_, gates, capped, latency⟩ := approves.mp ⟨decision, returned, approved⟩
    obtain ⟨expected, daily, equity, cost, positions, outcomes⟩ := gates_consult_finite gates
    refine ⟨expected, daily, equity, cost, positions, outcomes, ?_⟩
    intro cluster given known
    rw [given, known_cluster_passes known] at capped
    rcases guarded cluster given known with ⟨opened, ceiling⟩ | refused | infinite | compared | late
    · exact ⟨opened, capped.1, ceiling⟩
    · obtain ⟨check, member, fails⟩ := refused
      exact absurd (gates check member) fails
    · rw [capped.1] at infinite
      contradiction
    · exact absurd compared capped.2
    · exact absurd latency late

omit [FloatFormat] in
/-- A cluster total of NaN is approved under the default policy. -/
theorem nan_cluster_total_approved :
    let call := { TradeCall.plain 10 none with clusterCapCtx := some ⟨"cluster", .nan, 10, 100⟩ }
    ¬ ∀ decision, @evaluateTrade .exact .default call ⟨0, 0⟩ = .ok decision →
      decision.approved = true → ConsultedFinite .default call := by
  intro call failsClosed
  have approved : @evaluateTrade .exact .default call ⟨0, 0⟩ = .ok ⟨true, "OK", ⟨10, rfl⟩⟩ := by
    decide +kernel
  have consulted := failsClosed _ approved rfl
  have known := (consulted.cluster _ rfl (by decide)).1
  contradiction

end VerdictRisk
