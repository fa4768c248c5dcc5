import VerdictRisk.Verif.ExactGates

/-!
# Safer calls

What it means that one call, under one context, is at least as safe as another: nothing that a
gate reads has moved towards a rejection. The consecutive-loss scan of the safer call stops no
later and counts no more losses, whatever the format of the floats.
-/

namespace VerdictRisk

open Python

/-- Every float of a call is finite. -/
structure FiniteCall (call : TradeCall) : Prop where
  dailyRealizedPnl : call.dailyRealizedPnl.isFinite = true
  equity : call.equity.isFinite = true
  proposedCost : call.proposedCost.isFinite = true
  expectedValue : call.expectedValue.isFinite = true
  positions : ∀ pos ∈ call.openPositions, pos.costBasis.exact.isFinite = true
  outcomes : ∀ outcome ∈ call.tradeOutcomes.getD [], outcome.pnl.isFinite = true
  cluster : ∀ cluster, call.clusterCapCtx = some cluster →
    cluster.clusterOpenUsd.isFinite = true ∧ cluster.proposedCost.isFinite = true ∧
      cluster.maxClusterUsd.isFinite = true

/-- Neither call has a cluster context, or both have one for the same cluster and the second
asks for no more under no lower a cap. -/
inductive SaferCluster : Option ClusterCapContext → Option ClusterCapContext → Prop
  | neither : SaferCluster none none
  | both {cluster cluster' : ClusterCapContext} :
      cluster'.clusterId = cluster.clusterId →
      cluster'.clusterOpenUsd.value ≤ cluster.clusterOpenUsd.value →
      cluster'.proposedCost.value ≤ cluster.proposedCost.value →
      cluster.maxClusterUsd.value ≤ cluster'.maxClusterUsd.value →
      SaferCluster (some cluster) (some cluster')

/-- The second call, under the second context, is at least as safe as the first. -/
structure Safer (ctx ctx' : RiskContext) (call call' : TradeCall) : Prop where
  equity : call'.equity = call.equity
  targetFamily : call'.targetFamily = call.targetFamily
  tradeOutcomes : call'.tradeOutcomes = call.tradeOutcomes
  currentTime : call'.currentTime = call.currentTime
  dailyRealizedPnl : call.dailyRealizedPnl.value ≤ call'.dailyRealizedPnl.value
  expectedValue : call.expectedValue.value ≤ call'.expectedValue.value
  proposedCost : call'.proposedCost.value ≤ call.proposedCost.value
  openPositions : positionLedger.Relieved call.openPositions call'.openPositions
  maxDailyDrawdownPct : ctx.maxDailyDrawdownPct.val.value ≤ ctx'.maxDailyDrawdownPct.val.value
  maxCorrelatedExposure :
    ctx.maxCorrelatedExposure.val.value ≤ ctx'.maxCorrelatedExposure.val.value
  minExpectedValue : ctx'.minExpectedValue.val.value ≤ ctx.minExpectedValue.val.value
  consecutiveLossLimit : ctx'.consecutiveLossLimit = ctx.consecutiveLossLimit ∨
    1 ≤ ctx.consecutiveLossLimit ∧ ctx.consecutiveLossLimit ≤ ctx'.consecutiveLossLimit
  windowNonneg : 0 ≤ ctx'.consecutiveLossWindowMinutes.val.value
  consecutiveLossWindow :
    ctx'.consecutiveLossWindowMinutes.val.value ≤ ctx.consecutiveLossWindowMinutes.val.value
  cluster : SaferCluster call.clusterCapCtx call'.clusterCapCtx

/-- A scan that stays below its limit stays below a higher limit within a shorter window: it
stops no later, and counts no more losses until then. -/
theorem scan_mono [FloatFormat] {ctx ctx' : RiskContext} {window window' : PyFloat} {now : DateTime}
    (limit : ctx.consecutiveLossLimit ≤ ctx'.consecutiveLossLimit)
    (shorter : ∀ seconds : PyFloat, seconds.le window' = true → seconds.le window = true)
    (counted : ℕ) (outcomes : List TradeOutcome)
    (passes : scanLosses ctx window now counted outcomes = .ok none) :
    scanLosses ctx' window' now counted outcomes = .ok none := by
  induction outcomes generalizing counted with
  | nil => rfl
  | cons outcome rest ih =>
    rw [scanLosses] at passes ⊢
    cases loss : outcome.pnl.lt 0 with
    | false => simp
    | true =>
      rw [loss, if_pos rfl] at passes
      rw [if_pos rfl]
      cases elapsed : now.sub outcome.timestamp with
      | error raised =>
        rw [elapsed] at passes
        contradiction
      | ok microseconds =>
        simp only [elapsed] at passes ⊢
        by_cases future : (totalSeconds microseconds).lt 0 = true
        · rw [if_pos future] at passes
          contradiction
        · rw [if_neg future] at passes ⊢
          by_cases inside' :
              ((0 : PyFloat).le (totalSeconds microseconds) &&
                (totalSeconds microseconds).le window') = true
          · have inside : ((0 : PyFloat).le (totalSeconds microseconds) &&
                (totalSeconds microseconds).le window) = true := by
              rw [Bool.and_eq_true] at inside' ⊢
              exact ⟨inside'.1, shorter _ inside'.2⟩
            rw [if_pos inside] at passes
            rw [if_pos inside']
            by_cases reached : ctx.consecutiveLossLimit ≤ (counted + 1 : ℕ)
            · rw [if_pos reached] at passes
              simp at passes
            · have below : ¬ ctx'.consecutiveLossLimit ≤ (counted + 1 : ℕ) := by omega
              rw [if_neg reached] at passes
              rw [if_neg below]
              exact ih (counted + 1) passes
          · rw [if_neg inside']

end VerdictRisk
