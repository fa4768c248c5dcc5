import VerdictRisk.Verif.Chain
import VerdictRisk.Library.Ledger

/-!
# The gates in exact arithmetic

Without rounding, the comparisons of the gates are inequalities between rationals. The
exposure that the concentration gate sums is that of a ledger whose entries are the positions.
-/

namespace VerdictRisk

open Python

attribute [local instance] FloatFormat.exact

/-- The positions as a ledger: a position is booked to its family until it is resolved. -/
def positionLedger : Ledgers.Ledger Position String ℚ where
  closed pos := pos.isResolved
  close pos := { pos with isResolved := true }
  booked pos family := pos.family == family
  amount pos := pos.costBasis.value
  closed_close _ := rfl
  amount_close _ := rfl

/-- Without rounding, the conversion of a number to a float keeps its value. -/
theorem toFloat_exact (x : PyNum) : x.toFloat = x.exact := by
  cases x <;> rfl

/-- The window in seconds is sixty times the window in minutes. -/
theorem window_seconds (minutes : FiniteNum) :
    (minutes.val.toFloat.mul 60).isFinite = true ∧
      (minutes.val.toFloat.mul 60).value = minutes.val.value * 60 := by
  have finite := PyNum.exact_isFinite minutes.property
  rw [toFloat_exact]
  obtain ⟨seconds, value⟩ := exact_mul finite (PyFloat.isFinite_ofNat 60)
  refine ⟨seconds, ?_⟩
  rw [value, PyFloat.value_ofNat, PyNum.value]
  norm_num

/-- The summed exposure of a family is that of the ledger. -/
theorem currentExposure_exact {family : String} {start total : PyFloat} {positions : List Position}
    (finite : start.isFinite = true)
    (summed : currentExposure family start positions = some total) :
    total.isFinite = true ∧
      total.value = start.value + positionLedger.exposure family positions := by
  induction positions generalizing start with
  | nil =>
    rw [currentExposure, Option.some.injEq] at summed
    rw [← summed, Ledgers.Ledger.exposure_nil, add_zero]
    exact ⟨finite, rfl⟩
  | cons pos rest ih =>
    rw [currentExposure, PyNum.isNan_or_isInf] at summed
    rw [Ledgers.Ledger.exposure_cons]
    cases counted : (!pos.isResolved && pos.family == family) with
    | false =>
      have weight : positionLedger.weight family pos = 0 := by
        simp [Ledgers.Ledger.weight, positionLedger, counted]
      rw [counted, if_neg Bool.false_ne_true] at summed
      rw [weight, zero_add]
      exact ih finite summed
    | true =>
      have weight : positionLedger.weight family pos = pos.costBasis.value := by
        simp [Ledgers.Ledger.weight, positionLedger, counted]
      rw [counted, if_pos rfl] at summed
      cases cost : pos.costBasis.exact.isFinite with
      | false => simp [cost] at summed
      | true =>
        rw [cost, Bool.not_true, if_neg Bool.false_ne_true, toFloat_exact] at summed
        obtain ⟨sumFinite, sumValue⟩ := exact_add finite cost
        obtain ⟨totalFinite, totalValue⟩ := ih sumFinite summed
        refine ⟨totalFinite, ?_⟩
        rw [totalValue, sumValue, weight, PyNum.value, add_assoc]

/-- The concentration gate compares the exposure of the family with the cost added. -/
theorem concentration_exact {ctx : RiskContext} {family : String} {cost : PyFloat}
    {positions : List Position} (finite : cost.isFinite = true)
    (known : ∀ pos ∈ positions, counts family pos → pos.costBasis.exact.isFinite = true) :
    concentrationRejection ctx family cost positions = none ↔
      positionLedger.exposure family positions + cost.value ≤
        ctx.maxCorrelatedExposure.val.value := by
  obtain ⟨exposure, summed⟩ := (currentExposure_some_iff family 0 positions).mpr known
  obtain ⟨exposureFinite, exposureValue⟩ := currentExposure_exact rfl summed
  rw [PyFloat.value_ofNat, Nat.cast_zero, zero_add] at exposureValue
  obtain ⟨sumFinite, sumValue⟩ := exact_add exposureFinite finite
  have limit := PyNum.exact_isFinite ctx.maxCorrelatedExposure.property
  have compared : ctx.maxCorrelatedExposure.val.exact.lt (exposure.add cost) = false ↔
      positionLedger.exposure family positions + cost.value ≤
        ctx.maxCorrelatedExposure.val.value := by
    rw [← Bool.not_eq_true, PyFloat.lt_iff limit sumFinite, not_lt, sumValue, exposureValue]
    exact Iff.rfl
  rw [concentration_passes_iff, ← compared]
  constructor
  · rintro ⟨_, total, found, within⟩
    rw [summed, Option.some.injEq] at found
    rw [found]
    exact within
  · intro within
    exact ⟨finite, exposure, summed, within⟩

/-- The drawdown gate compares the loss with the share of the equity it may use. -/
theorem drawdown_exact {ctx : RiskContext} {pnl equity : PyFloat} (pnlFinite : pnl.isFinite = true)
    (equityFinite : equity.isFinite = true) :
    drawdownRejection ctx pnl equity = none ↔
      0 < equity.value ∧ -ctx.maxDailyDrawdownPct.val.value ≤ pnl.value / equity.value := by
  obtain ⟨ratioFinite, ratioValue⟩ := exact_div pnlFinite equityFinite
  have limit : ctx.maxDailyDrawdownPct.val.neg.exact.isFinite = true := by
    rw [PyNum.exact_neg_isFinite]
    exact PyNum.exact_isFinite ctx.maxDailyDrawdownPct.property
  rw [drawdown_passes_iff, ← Bool.not_eq_true, PyFloat.lt_iff ratioFinite limit, not_lt,
    ratioValue, PyNum.exact_neg_value]
  simp only [pnlFinite, equityFinite, true_and, PyNum.value]

/-- The cluster cap admits what is unknown, costs nothing, or fits under a positive cap. -/
theorem clusterCap_exact {cluster : ClusterCapContext}
    (openFinite : cluster.clusterOpenUsd.isFinite = true)
    (costFinite : cluster.proposedCost.isFinite = true)
    (capFinite : cluster.maxClusterUsd.isFinite = true) :
    clusterCheck (some cluster) = .ok none ↔
      cluster.clusterId = "unknown" ∨ cluster.proposedCost.value ≤ 0 ∨
        0 < cluster.maxClusterUsd.value ∧
          cluster.clusterOpenUsd.value + cluster.proposedCost.value ≤
            cluster.maxClusterUsd.value := by
  obtain ⟨sumFinite, sumValue⟩ := exact_add openFinite costFinite
  rw [clusterCap_passes_iff, ← Bool.not_eq_true, ← Bool.not_eq_true,
    PyFloat.le_iff costFinite rfl, PyFloat.le_iff capFinite rfl, PyFloat.lt_iff capFinite sumFinite,
    PyFloat.value_ofNat, Nat.cast_zero, not_le, not_lt, sumValue]
  simp only [costFinite, true_and]

end VerdictRisk
