import VerdictRisk.Verif.ExposureDrift
import VerdictRisk.Verif.LossWindow

/-!
# Doubles against exact arithmetic

Each gate compares a figure with a limit, and in doubles the figure has been rounded. Where two
floats of the format part the exact figure from the limit, the rounded one is on the same side of
it, whether it was a ratio, a sum or a span of time. So away from its limits the engine approves in
doubles what it approves in exact arithmetic.
-/

namespace VerdictRisk

open Python

section Parted

variable [FloatFormat]

/-- Two floats of the format lie between two numbers, or are the numbers. -/
def Parted (p q : ℚ) : Prop :=
  ∃ low high : PyFloat, low.Held ∧ high.Held ∧ low.isFinite = true ∧ high.isFinite = true ∧
    p ≤ low.value ∧ low.value < high.value ∧ high.value ≤ q

/-- If one number is below another, they are parted. -/
def Clear (p q : ℚ) : Prop := p < q → Parted p q

/-- Numbers further apart are parted too. -/
theorem Parted.mono {p p' q q' : ℚ} (parted : Parted p q) (lower : p' ≤ p) (upper : q ≤ q') :
    Parted p' q' := by
  obtain ⟨low, high, held, held', finite, finite', below, apart, above⟩ := parted
  exact ⟨low, high, held, held', finite, finite', lower.trans below, apart, above.trans upper⟩

variable [SoundRounding]

/-- Numbers that are parted are rounded apart. -/
theorem Parted.round_lt {p q : ℚ} (parted : Parted p q) :
    (FloatFormat.round p).level < (FloatFormat.round q).level := by
  obtain ⟨low, high, heldLow, heldHigh, finiteLow, finiteHigh, below, apart, above⟩ := parted
  have lower := PyFloat.level_round_mono below
  have upper := PyFloat.level_round_mono above
  rw [heldLow.fixed finiteLow] at lower
  rw [heldHigh.fixed finiteHigh] at upper
  have strict : low.level < high.level := by
    rw [← not_le, PyFloat.level_le_iff finiteHigh finiteLow, not_le]
    exact apart
  exact lower.trans_lt (strict.trans_le upper)

/-- Rounding keeps the strict order of numbers that are clear of each other. -/
theorem Clear.round_lt_iff {p q : ℚ} (clear : Clear p q) :
    (FloatFormat.round p).level < (FloatFormat.round q).level ↔ p < q := by
  constructor
  · intro rounded
    rw [← not_le]
    intro ordered
    exact absurd (PyFloat.level_round_mono ordered) (not_le.mpr rounded)
  · intro ordered
    exact (clear ordered).round_lt

/-- It keeps their order the other way round too. -/
theorem Clear.round_le_iff {p q : ℚ} (clear : Clear p q) :
    (FloatFormat.round q).level ≤ (FloatFormat.round p).level ↔ q ≤ p := by
  rw [← not_lt, clear.round_lt_iff, not_lt]

end Parted

section Gates

variable [FloatFormat] [SoundRounding] {ctx : RiskContext}

omit [SoundRounding] in
/-- The expected-value gate compares without any arithmetic. -/
theorem expectedValue_precise (expectedValue : PyFloat) :
    expectedValueRejection ctx expectedValue = none ↔
      @expectedValueRejection .exact ctx expectedValue = none := by
  rw [expectedValue_passes_iff, @expectedValue_passes_iff .exact]

/-- The drawdown gate decides exactly where the ratio is clear of the limit. -/
theorem drawdown_precise {pnl equity : PyFloat}
    (held : ctx.maxDailyDrawdownPct.val.neg.exact.Held)
    (clear : Clear (pnl.value / equity.value) (-ctx.maxDailyDrawdownPct.val.value)) :
    drawdownRejection ctx pnl equity = none ↔
      @drawdownRejection .exact ctx pnl equity = none := by
  rw [drawdown_passes_iff]
  by_cases finite : pnl.isFinite = true ∧ equity.isFinite = true
  · have limit : ctx.maxDailyDrawdownPct.val.neg.exact.isFinite = true := by
      rw [PyNum.exact_neg_isFinite]
      exact PyNum.exact_isFinite ctx.maxDailyDrawdownPct.property
    have rounded := held.fixed limit
    rw [PyNum.exact_neg_value] at rounded
    have number := PyFloat.div_number finite.1 finite.2
    rw [drawdown_exact finite.1 finite.2, PyFloat.not_lt_level number
      (PyFloat.isNan_of_finite limit), PyFloat.level_div finite.1 finite.2, ← rounded]
    have compared := clear.round_le_iff
    simp only [finite.1, finite.2, true_and]
    exact and_congr_right fun _ => compared
  · rw [@drawdown_passes_iff .exact]
    exact iff_of_false (fun passes => finite ⟨passes.1, passes.2.1⟩)
      (fun passes => finite ⟨passes.1, passes.2.1⟩)

omit [SoundRounding] in
/-- The cluster cap does not raise on a finite cost. -/
theorem clusterCap_returns {cluster : ClusterCapContext}
    (finite : cluster.proposedCost.isFinite = true) :
    ∃ verdict, clusterCheck (some cluster) = .ok verdict := by
  rcases clusterCheck_cases cluster with ⟨_, reason, rejected⟩ | ⟨_, _, passed⟩ |
    ⟨_, infinite, _⟩
  · exact ⟨some reason, rejected⟩
  · exact ⟨none, passed⟩
  · rw [finite] at infinite
    contradiction

/-- The cluster cap decides exactly where the sum is clear of a cap that the format holds. -/
theorem clusterCap_precise {cluster : ClusterCapContext}
    (openFinite : cluster.clusterOpenUsd.isFinite = true)
    (costFinite : cluster.proposedCost.isFinite = true)
    (capFinite : cluster.maxClusterUsd.isFinite = true) (held : cluster.maxClusterUsd.Held)
    (clear : Clear cluster.maxClusterUsd.value
      (cluster.clusterOpenUsd.value + cluster.proposedCost.value)) :
    clusterCheck (some cluster) = .ok none ↔ @clusterCheck .exact (some cluster) = .ok none := by
  have number := (PyFloat.held_add (PyFloat.isNan_of_finite openFinite) costFinite).number
  rw [clusterCap_passes_iff, clusterCap_exact openFinite costFinite capFinite,
    PyFloat.not_lt_level (PyFloat.isNan_of_finite capFinite) number,
    PyFloat.level_add openFinite costFinite, ← held.fixed capFinite, clear.round_le_iff,
    ← Bool.not_eq_true, PyFloat.le_iff costFinite rfl, PyFloat.le_iff capFinite rfl,
    PyFloat.value_ofNat, Nat.cast_zero, not_le]
  simp only [costFinite, true_and]

end Gates

/-- In exact arithmetic all numbers are clear of each other. -/
theorem exact_clear (p q : ℚ) : @Clear .exact p q := by
  have held : ∀ r : ℚ, @PyFloat.Held .exact (.finite r) := fun r =>
    @PyFloat.Held.mk .exact (.finite r) rfl fun _ => rfl
  intro ordered
  exact ⟨.finite p, .finite q, held p, held q, rfl, rfl, le_rfl, ordered, le_rfl⟩

section Window

variable [FloatFormat] [SoundRounding] {elapsed : ℤ}

/-- The sign of a span of time is told. -/
theorem totalSeconds_negative_iff (clear : Clear ((elapsed : ℚ) / 1000000) 0) :
    (totalSeconds elapsed).lt 0 = true ↔ (elapsed : ℚ) / 1000000 < 0 := by
  rw [totalSeconds, PyFloat.lt_level (SoundRounding.known _) rfl, ← PyFloat.level_round_zero]
  exact clear.round_lt_iff

/-- Where the time passed is clear of zero, its sign is kept in doubles. -/
theorem totalSeconds_nonneg_iff (clear : Clear ((elapsed : ℚ) / 1000000) 0) :
    (0 : PyFloat).le (totalSeconds elapsed) = true ↔ 0 ≤ (elapsed : ℚ) / 1000000 := by
  rw [totalSeconds, PyFloat.le_level rfl (SoundRounding.known _), ← PyFloat.level_round_zero]
  exact clear.round_le_iff

/-- Whether a span of time is within a window is told, if the window converts without loss. -/
theorem totalSeconds_within_iff {minutes : PyNum} (fits : minutes.toFloat.isFinite = true)
    (kept : minutes.toFloat.value = minutes.value)
    (clear : Clear (minutes.value * 60) ((elapsed : ℚ) / 1000000)) :
    (totalSeconds elapsed).le (minutes.toFloat.mul 60) = true ↔
      (elapsed : ℚ) / 1000000 ≤ minutes.value * 60 := by
  have sixty : (60 : PyFloat).isFinite = true := rfl
  have seconds : (60 : PyFloat).value = 60 := PyFloat.value_ofNat 60
  rw [totalSeconds, PyFloat.le_level (SoundRounding.known _) (PyFloat.mul_number fits sixty),
    PyFloat.level_mul fits sixty, kept, seconds]
  exact clear.round_le_iff

end Window

/-- Scans in two formats that agree on the spans of time answer alike. -/
theorem scan_alike {format format' : FloatFormat} {ctx : RiskContext} {window window' : PyFloat}
    {now : DateTime} {outcomes : List TradeOutcome}
    (same : ∀ outcome ∈ outcomes, ∀ elapsed, now.sub outcome.timestamp = .ok elapsed →
      (@totalSeconds format elapsed).lt 0 = (@totalSeconds format' elapsed).lt 0 ∧
      (0 : PyFloat).le (@totalSeconds format elapsed) =
        (0 : PyFloat).le (@totalSeconds format' elapsed) ∧
      (@totalSeconds format elapsed).le window = (@totalSeconds format' elapsed).le window')
    (counted : ℕ) :
    (@scanLosses format ctx window now counted outcomes).map Option.isNone =
      (@scanLosses format' ctx window' now counted outcomes).map Option.isNone := by
  induction outcomes generalizing counted with
  | nil => rfl
  | cons outcome rest ih =>
    rw [List.forall_mem_cons] at same
    rw [@scanLosses.eq_2 format, @scanLosses.eq_2 format']
    cases outcome.pnl.lt 0 with
    | false => rfl
    | true =>
      rw [if_pos rfl, if_pos rfl]
      cases between : now.sub outcome.timestamp with
      | error raised => rfl
      | ok elapsed =>
        obtain ⟨future, past, inside⟩ := same.1 elapsed between
        dsimp only
        rw [future, past, inside]
        split
        · rfl
        · split
          · split
            · rfl
            · exact ih same.2 (counted + 1)
          · rfl

section Chain

variable [FloatFormat] [SoundRounding] {ctx : RiskContext}

/-- No outcome is too near to the current time, or to the far end of the window. -/
def ElapsedClear (ctx : RiskContext) (tradeOutcomes : Option (List TradeOutcome))
    (currentTime : Option DateTime) : Prop :=
  ∀ first rest, tradeOutcomes = some (first :: rest) → ∀ outcome ∈ first :: rest, ∀ elapsed : ℤ,
    (presentTime currentTime first rest).sub outcome.timestamp = .ok elapsed →
      Clear ((elapsed : ℚ) / 1000000) 0 ∧
        Clear (ctx.consecutiveLossWindowMinutes.val.value * 60) ((elapsed : ℚ) / 1000000)

/-- The consecutive-loss gate decides exactly where the outcomes are clear of its window. -/
theorem consecutiveLosses_precise {tradeOutcomes : Option (List TradeOutcome)}
    {currentTime : Option DateTime}
    (fits : ctx.consecutiveLossWindowMinutes.val.toFloat.isFinite = true)
    (kept : ctx.consecutiveLossWindowMinutes.val.toFloat.value =
      ctx.consecutiveLossWindowMinutes.val.value)
    (clear : ElapsedClear ctx tradeOutcomes currentTime) :
    (consecutiveLossesRejection ctx tradeOutcomes currentTime).map Option.isNone =
      (@consecutiveLossesRejection .exact ctx tradeOutcomes currentTime).map Option.isNone := by
  have exactFits :
      (@PyNum.toFloat .exact ctx.consecutiveLossWindowMinutes.val).isFinite = true := by
    rw [toFloat_exact]
    exact PyNum.exact_isFinite ctx.consecutiveLossWindowMinutes.property
  have exactKept : (@PyNum.toFloat .exact ctx.consecutiveLossWindowMinutes.val).value =
      ctx.consecutiveLossWindowMinutes.val.value := by
    rw [toFloat_exact]
    rfl
  have scans : ∀ first rest, tradeOutcomes = some (first :: rest) →
      (scanLosses ctx (ctx.consecutiveLossWindowMinutes.val.toFloat.mul 60)
          (presentTime currentTime first rest) 0
          (sortedOutcomes (first :: rest)).reverse).map Option.isNone =
        (@scanLosses .exact ctx
          (@PyFloat.mul .exact (@PyNum.toFloat .exact ctx.consecutiveLossWindowMinutes.val) 60)
          (presentTime currentTime first rest) 0
          (sortedOutcomes (first :: rest)).reverse).map Option.isNone := by
    intro first rest given
    apply scan_alike
    intro outcome member elapsed between
    rw [List.mem_reverse, sortedOutcomes, List.mem_insertionSort] at member
    obtain ⟨past, inside⟩ := clear first rest given outcome member elapsed between
    refine ⟨?_, ?_, ?_⟩
    · rw [Bool.eq_iff_iff, totalSeconds_negative_iff past,
        @totalSeconds_negative_iff .exact _ _ (exact_clear _ _)]
    · rw [Bool.eq_iff_iff, totalSeconds_nonneg_iff past,
        @totalSeconds_nonneg_iff .exact _ _ (exact_clear _ _)]
    · rw [Bool.eq_iff_iff, totalSeconds_within_iff fits kept inside,
        @totalSeconds_within_iff .exact _ _ _ exactFits exactKept (exact_clear _ _)]
  simp only [consecutiveLossesRejection]
  split
  · rfl
  · split
    · rfl
    · cases tradeOutcomes with
      | none => rfl
      | some outcomes =>
        cases outcomes with
        | nil => rfl
        | cons first rest =>
          dsimp only
          split
          · rfl
          · split
            · rfl
            · cases currentTime with
              | none => exact scans first rest rfl
              | some now =>
                dsimp only
                split
                · rfl
                · exact scans first rest rfl

/-- The figures of a call and its limits are floats of the format, and costs are not negative. -/
structure FormatCall (ctx : RiskContext) (call : TradeCall) : Prop where
  drawdownLimit : ctx.maxDailyDrawdownPct.val.neg.exact.Held
  exposureLimit : HeldNum ctx.maxCorrelatedExposure.val
  exposureFits : ctx.maxCorrelatedExposure.val.toFloat.isFinite = true
  windowFits : ctx.consecutiveLossWindowMinutes.val.toFloat.isFinite = true
  windowKept : ctx.consecutiveLossWindowMinutes.val.toFloat.value =
    ctx.consecutiveLossWindowMinutes.val.value
  cost : call.proposedCost.Held
  costNonneg : 0 ≤ call.proposedCost.value
  positions : Costed call.openPositions
  cluster : ∀ cluster, call.clusterCapCtx = some cluster →
    cluster.clusterOpenUsd.isFinite = true ∧ cluster.proposedCost.isFinite = true ∧
      cluster.maxClusterUsd.isFinite = true ∧ cluster.maxClusterUsd.Held

variable {unit : ℚ} [RelativeRounding unit]

/-- No figure of a call is so near to its limit that rounding might take it across: two floats
part the ratio, the cluster total and the spans of time from theirs where they exceed it, and the
exposure is off its limit by more than its drift. -/
structure AwayFromLimits (unit : ℚ) (ctx : RiskContext) (call : TradeCall) : Prop where
  drawdown : Clear (call.dailyRealizedPnl.value / call.equity.value)
    (-ctx.maxDailyDrawdownPct.val.value)
  elapsed : ElapsedClear ctx call.tradeOutcomes call.currentTime
  exposure : exposureDrift unit call.targetFamily call.openPositions call.proposedCost <
    |trueExposure call.targetFamily call.openPositions call.proposedCost -
      ctx.maxCorrelatedExposure.val.value|
  cluster : ∀ cluster, call.clusterCapCtx = some cluster → Clear cluster.maxClusterUsd.value
    (cluster.clusterOpenUsd.value + cluster.proposedCost.value)

/-- The concentration gate decides exactly where the exposure is off its limit by more than its
drift. -/
theorem concentration_precise {call : TradeCall} (inputs : FormatCall ctx call)
    (finite : call.proposedCost.isFinite = true) (away : AwayFromLimits unit ctx call) :
    concentrationRejection ctx call.targetFamily call.proposedCost call.openPositions = none ↔
      @concentrationRejection .exact ctx call.targetFamily call.proposedCost
        call.openPositions = none := by
  have costs : ∀ pos ∈ call.openPositions, counts call.targetFamily pos →
      pos.costBasis.exact.isFinite = true := fun pos member _ => inputs.positions.known pos member
  rw [concentration_exact finite costs]
  change _ ↔ trueExposure call.targetFamily call.openPositions call.proposedCost ≤ _
  have apart := away.exposure
  constructor
  · intro passes
    have room : trueExposure call.targetFamily call.openPositions call.proposedCost ≤
        ctx.maxCorrelatedExposure.val.value +
          exposureDrift unit call.targetFamily call.openPositions call.proposedCost :=
      (room_of_concentration inputs.positions inputs.cost finite inputs.costNonneg passes).2
    by_contra exceeds
    rw [not_le] at exceeds
    rw [abs_of_pos (sub_pos.mpr exceeds)] at apart
    linarith only [room, apart]
  · intro within
    rw [abs_of_nonpos (sub_nonpos.mpr within)] at apart
    exact concentration_of_room inputs.positions inputs.cost finite inputs.costNonneg
      inputs.exposureLimit inputs.exposureFits (by linarith only [apart])

omit [RelativeRounding unit] in
/-- The cluster cap raises, rejects and passes alike where it decides exactly. -/
theorem clusterCheck_precise {call : TradeCall} (inputs : FormatCall ctx call)
    (away : AwayFromLimits unit ctx call) :
    (clusterCheck call.clusterCapCtx).map Option.isNone =
      (@clusterCheck .exact call.clusterCapCtx).map Option.isNone := by
  cases given : call.clusterCapCtx with
  | none => rfl
  | some cluster =>
    obtain ⟨opened, cost, cap, held⟩ := inputs.cluster cluster given
    have passes := clusterCap_precise opened cost cap held (away.cluster cluster given)
    obtain ⟨verdict, answered⟩ := clusterCap_returns cost
    obtain ⟨verdict', answered'⟩ := @clusterCap_returns .exact _ cost
    rw [answered, answered', Except.ok.injEq, Except.ok.injEq] at passes
    rw [answered, answered']
    exact Checks.alike_of_passes passes

/-- Away from its limits the chain approves, rejects and raises in doubles, or in any other
rounding with a bounded relative error on sums, as it does in exact arithmetic. -/
theorem evaluateStateless_precise {call : TradeCall} (inputs : FormatCall ctx call)
    (away : AwayFromLimits unit ctx call) (clock : Clock) :
    (evaluateStateless ctx call clock).map RiskDecision.approved =
      (@evaluateStateless .exact ctx call clock).map RiskDecision.approved := by
  rw [evaluateStateless_ruled, @evaluateStateless_ruled .exact]
  by_cases finite : call.proposedCost.isFinite = true
  · have expected := @expectedValue_precise _ ctx call.expectedValue
    have drawdown := drawdown_precise inputs.drawdownLimit away.drawdown
    have losses := consecutiveLosses_precise inputs.windowFits inputs.windowKept away.elapsed
    have concentration := concentration_precise inputs finite away
    have chains : (Checks.first (chainChecks ctx call clock)).map Option.isNone =
        (Checks.first (@chainChecks .exact ctx call clock)).map Option.isNone := by
      apply Checks.first_alike
      exact .cons (Checks.alike_of_passes expected) (.cons (Checks.alike_of_passes drawdown)
        (.cons losses (.cons (Checks.alike_of_passes concentration)
          (.cons (clusterCheck_precise inputs away) (.cons rfl .nil)))))
    rw [chains]
  · rw [RiskDecision.new, dif_neg finite]
    rfl

end Chain

end VerdictRisk
