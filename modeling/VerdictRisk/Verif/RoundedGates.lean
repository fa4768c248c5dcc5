import VerdictRisk.Verif.SaferCall
import VerdictRisk.Python.Binary64

/-!
# The gates in floating point

In doubles each sum, product and quotient is rounded, so an exposure depends on the order of its
positions and a ratio is not what a division of rationals gives. Still every gate is monotone: a
sound rounding keeps the order of results, and a sum that has been rounded is not lowered by
adding a cost that is not negative. So a safer call is approved whenever the first one was, in
doubles as in exact arithmetic.
-/

namespace VerdictRisk

open Python

section Gates

variable [FloatFormat] [SoundRounding]

/-- A number that is not negative converts to a float that is not negative. -/
theorem toFloat_nonneg {x : PyNum} (finite : x.toFloat.isFinite = true) (nonneg : 0 ≤ x.value) :
    0 ≤ x.toFloat.value := by
  cases x with
  | float x => exact nonneg
  | int n =>
    have rounded := PyFloat.level_round_mono (p := 0) (q := (n : ℚ)) nonneg
    rw [PyFloat.level_round_zero] at rounded
    have ordered := (PyFloat.level_le_iff (PyFloat.isFinite_ofNat 0) finite).mp rounded
    rwa [PyFloat.value_ofNat, Nat.cast_zero] at ordered

/-- What a position adds to a running exposure. -/
def addCost (targetFamily : String) (exposure : PyFloat) (pos : Position) : PyFloat :=
  if !pos.isResolved && pos.family == targetFamily then exposure.add pos.costBasis.toFloat
  else exposure

omit [SoundRounding] in
/-- The exposure of finite costs is summed from left to right. -/
theorem currentExposure_eq (targetFamily : String) {positions : List Position}
    (finite : ∀ pos ∈ positions, pos.costBasis.exact.isFinite = true) (start : PyFloat) :
    currentExposure targetFamily start positions =
      some (positions.foldl (addCost targetFamily) start) := by
  induction positions generalizing start with
  | nil => rfl
  | cons pos rest ih =>
    rw [List.forall_mem_cons] at finite
    rw [currentExposure, List.foldl_cons, addCost]
    split
    · rw [PyNum.isNan_or_isInf, finite.1, Bool.not_true, if_neg Bool.false_ne_true]
      exact ih finite.2 _
    · exact ih finite.2 _

/-- A position whose cost converts keeps a running exposure held. -/
theorem addCost_held {targetFamily : String} {exposure : PyFloat} {pos : Position}
    (held : exposure.Held) (fits : pos.costBasis.toFloat.isFinite = true) :
    (addCost targetFamily exposure pos).Held := by
  unfold addCost
  split
  · exact PyFloat.held_add held.number fits
  · exact held

/-- Positions whose costs convert leave a running exposure held. -/
theorem exposure_held (targetFamily : String) {positions : List Position} {start : PyFloat}
    (held : start.Held) (fits : ∀ pos ∈ positions, pos.costBasis.toFloat.isFinite = true) :
    (positions.foldl (addCost targetFamily) start).Held := by
  induction positions generalizing start with
  | nil => exact held
  | cons pos rest ih =>
    rw [List.forall_mem_cons] at fits
    exact ih (addCost_held held fits.1) fits.2

/-- A position keeps the order of two running exposures. -/
theorem addCost_mono {targetFamily : String} {exposure exposure' : PyFloat} {pos : Position}
    (held : exposure.Held) (held' : exposure'.Held)
    (fits : pos.costBasis.toFloat.isFinite = true) (less : exposure'.level ≤ exposure.level) :
    (addCost targetFamily exposure' pos).level ≤ (addCost targetFamily exposure pos).level := by
  unfold addCost
  split
  · exact PyFloat.level_add_mono held'.number held.number fits fits less le_rfl
  · exact less

/-- A position whose cost is not negative does not lower a running exposure. -/
theorem le_addCost {targetFamily : String} {exposure : PyFloat} {pos : Position}
    (held : exposure.Held) (fits : pos.costBasis.toFloat.isFinite = true)
    (nonneg : 0 ≤ pos.costBasis.value) :
    exposure.level ≤ (addCost targetFamily exposure pos).level := by
  unfold addCost
  split
  · exact PyFloat.level_le_add held fits (toFloat_nonneg fits nonneg)
  · exact le_rfl

/-- Relieving a book does not raise the exposure summed over it. -/
theorem exposure_relieved (targetFamily : String) {positions positions' : List Position}
    (relieved : positionLedger.Relieved positions positions')
    (fits : ∀ pos ∈ positions, pos.costBasis.toFloat.isFinite = true) {start start' : PyFloat}
    (held : start.Held) (held' : start'.Held) (less : start'.level ≤ start.level) :
    (positions'.foldl (addCost targetFamily) start').level ≤
      (positions.foldl (addCost targetFamily) start).level := by
  induction relieved generalizing start start' with
  | nil => exact less
  | keep pos _ ih =>
    rw [List.forall_mem_cons] at fits
    exact ih fits.2 (addCost_held held fits.1) (addCost_held held' fits.1)
      (addCost_mono held held' fits.1 less)
  | drop pos nonneg _ ih =>
    rw [List.forall_mem_cons] at fits
    exact ih fits.2 (addCost_held held fits.1) held'
      (less.trans (le_addCost held fits.1 nonneg))
  | close pos nonneg _ ih =>
    rw [List.forall_mem_cons] at fits
    exact ih fits.2 (addCost_held held fits.1) held'
      (less.trans (le_addCost held fits.1 nonneg))

/-- The concentration gate compares the level of the summed exposure with the cost added. -/
theorem concentration_level_iff {ctx : RiskContext} {targetFamily : String}
    {proposedCost : PyFloat} {positions : List Position} (finite : proposedCost.isFinite = true)
    (known : ∀ pos ∈ positions, pos.costBasis.exact.isFinite = true)
    (fits : ∀ pos ∈ positions, pos.costBasis.toFloat.isFinite = true) :
    concentrationRejection ctx targetFamily proposedCost positions = none ↔
      ((positions.foldl (addCost targetFamily) 0).add proposedCost).level ≤
        ctx.maxCorrelatedExposure.val.exact.level := by
  have summed := currentExposure_eq targetFamily known 0
  have held := exposure_held targetFamily PyFloat.held_zero fits
  have number := (PyFloat.held_add held.number finite).number
  have limit : ctx.maxCorrelatedExposure.val.exact.isNan = false :=
    PyFloat.isNan_of_finite (PyNum.exact_isFinite ctx.maxCorrelatedExposure.property)
  rw [concentration_passes_iff, summed, ← PyFloat.not_lt_level limit number]
  simp only [finite, true_and, Option.some.injEq, exists_eq_left']

/-- The drawdown gate passes the higher result against the wider limit. -/
theorem rounded_drawdown_mono {ctx ctx' : RiskContext} {call call' : TradeCall}
    (safer : Safer ctx ctx' call call') (finite' : FiniteCall call')
    (passes : drawdownRejection ctx call.dailyRealizedPnl call.equity = none) :
    drawdownRejection ctx' call'.dailyRealizedPnl call'.equity = none := by
  rw [drawdown_passes_iff] at passes
  obtain ⟨pnl, equity, positive, above⟩ := passes
  rw [safer.equity, drawdown_passes_iff]
  refine ⟨finite'.dailyRealizedPnl, equity, positive, ?_⟩
  have limit : ctx.maxDailyDrawdownPct.val.neg.exact.isFinite = true := by
    rw [PyNum.exact_neg_isFinite]
    exact PyNum.exact_isFinite ctx.maxDailyDrawdownPct.property
  have limit' : ctx'.maxDailyDrawdownPct.val.neg.exact.isFinite = true := by
    rw [PyNum.exact_neg_isFinite]
    exact PyNum.exact_isFinite ctx'.maxDailyDrawdownPct.property
  rw [PyFloat.not_lt_level (PyFloat.div_number pnl equity) (PyFloat.isNan_of_finite limit)] at above
  rw [PyFloat.not_lt_level (PyFloat.div_number finite'.dailyRealizedPnl equity)
    (PyFloat.isNan_of_finite limit')]
  have limits : ctx'.maxDailyDrawdownPct.val.neg.exact.level ≤
      ctx.maxDailyDrawdownPct.val.neg.exact.level := by
    rw [PyFloat.level_le_iff limit' limit, PyNum.exact_neg_value, PyNum.exact_neg_value]
    exact neg_le_neg safer.maxDailyDrawdownPct
  have ratios : (call.dailyRealizedPnl.div call.equity).level ≤
      (call'.dailyRealizedPnl.div call.equity).level := by
    rw [PyFloat.level_div pnl equity, PyFloat.level_div finite'.dailyRealizedPnl equity]
    exact PyFloat.level_round_mono
      (div_le_div_of_nonneg_right safer.dailyRealizedPnl positive.le)
  exact limits.trans (above.trans ratios)

/-- The concentration gate passes the relieved book with the lower cost. -/
theorem rounded_concentration_mono {ctx ctx' : RiskContext} {call call' : TradeCall}
    (safer : Safer ctx ctx' call call') (finite : FiniteCall call) (finite' : FiniteCall call')
    (fits : ∀ pos ∈ call.openPositions, pos.costBasis.toFloat.isFinite = true)
    (fits' : ∀ pos ∈ call'.openPositions, pos.costBasis.toFloat.isFinite = true)
    (passes : concentrationRejection ctx call.targetFamily call.proposedCost call.openPositions
      = none) :
    concentrationRejection ctx' call'.targetFamily call'.proposedCost call'.openPositions
      = none := by
  rw [concentration_level_iff finite.proposedCost finite.positions fits] at passes
  rw [safer.targetFamily, concentration_level_iff finite'.proposedCost finite'.positions fits']
  have exposure : (call'.openPositions.foldl (addCost call.targetFamily) 0).level ≤
      (call.openPositions.foldl (addCost call.targetFamily) 0).level :=
    exposure_relieved _ safer.openPositions fits PyFloat.held_zero PyFloat.held_zero le_rfl
  have cost : call'.proposedCost.level ≤ call.proposedCost.level :=
    (PyFloat.level_le_iff finite'.proposedCost finite.proposedCost).mpr safer.proposedCost
  have sums := PyFloat.level_add_mono (exposure_held _ PyFloat.held_zero fits').number
    (exposure_held _ PyFloat.held_zero fits).number finite'.proposedCost finite.proposedCost
    exposure cost
  have limits : ctx.maxCorrelatedExposure.val.exact.level ≤
      ctx'.maxCorrelatedExposure.val.exact.level :=
    (PyFloat.level_le_iff (PyNum.exact_isFinite ctx.maxCorrelatedExposure.property)
      (PyNum.exact_isFinite ctx'.maxCorrelatedExposure.property)).mpr safer.maxCorrelatedExposure
  exact sums.trans (passes.trans limits)

/-- The cluster cap passes the smaller request under the higher cap. -/
theorem rounded_clusterCap_mono {ctx ctx' : RiskContext} {call call' : TradeCall}
    (safer : Safer ctx ctx' call call') (finite : FiniteCall call) (finite' : FiniteCall call')
    (passes : clusterCheck call.clusterCapCtx = .ok none) :
    clusterCheck call'.clusterCapCtx = .ok none := by
  have related := safer.cluster
  have known := finite.cluster
  have known' := finite'.cluster
  revert related known known' passes
  generalize call.clusterCapCtx = cap
  generalize call'.clusterCapCtx = cap'
  intro passes related known known'
  cases related with
  | neither => rfl
  | @both cluster cluster' same opened cost ceiling =>
    obtain ⟨openFinite, costFinite, capFinite⟩ := known cluster rfl
    obtain ⟨openFinite', costFinite', capFinite'⟩ := known' cluster' rfl
    rw [clusterCap_passes_iff] at passes ⊢
    refine ⟨costFinite', ?_⟩
    rw [same]
    rcases passes.2 with unknown | free | ⟨positive, fits⟩
    · exact .inl unknown
    · rw [PyFloat.le_iff costFinite rfl] at free
      rw [PyFloat.le_iff costFinite' rfl]
      exact .inr (.inl (cost.trans free))
    · refine .inr (.inr ⟨?_, ?_⟩)
      · rw [← Bool.not_eq_true, PyFloat.le_iff capFinite rfl, not_le] at positive
        rw [← Bool.not_eq_true, PyFloat.le_iff capFinite' rfl, not_le]
        exact positive.trans_le ceiling
      · have number : ∀ {opened cost : PyFloat}, opened.isFinite = true → cost.isFinite = true →
            (opened.add cost).isNan = false := fun hl hr =>
          (PyFloat.held_add (PyFloat.isNan_of_finite hl) hr).number
        rw [PyFloat.not_lt_level (PyFloat.isNan_of_finite capFinite)
          (number openFinite costFinite)] at fits
        rw [PyFloat.not_lt_level (PyFloat.isNan_of_finite capFinite')
          (number openFinite' costFinite')]
        have sums := PyFloat.level_add_mono (PyFloat.isNan_of_finite openFinite')
          (PyFloat.isNan_of_finite openFinite) costFinite' costFinite
          ((PyFloat.level_le_iff openFinite' openFinite).mpr opened)
          ((PyFloat.level_le_iff costFinite' costFinite).mpr cost)
        exact sums.trans (fits.trans ((PyFloat.level_le_iff capFinite capFinite').mpr ceiling))

/-- A number that the format holds: any integer, and the floats of the format. -/
def HeldNum (x : PyNum) : Prop := ∀ float, x = .float float → float.Held

omit [SoundRounding] in
/-- The conversion of a held number is on the level of its rounded value. -/
theorem toFloat_level {x : PyNum} (held : HeldNum x) (finite : x.exact.isFinite = true) :
    x.toFloat.level = (FloatFormat.round x.value).level := by
  cases x with
  | int n => rfl
  | float float => exact ((held float rfl).fixed finite).symm

/-- A finite number converts to a number. -/
theorem toFloat_number {x : PyNum} (finite : x.exact.isFinite = true) :
    x.toFloat.isNan = false := by
  cases x with
  | int n => exact SoundRounding.known _
  | float float => exact PyFloat.isNan_of_finite finite

/-- What lies in the shorter window lies in the longer one. -/
theorem rounded_window_mono {minutes minutes' : FiniteNum} (held : HeldNum minutes.val)
    (held' : HeldNum minutes'.val) (nonneg : 0 ≤ minutes'.val.value)
    (shorter : minutes'.val.value ≤ minutes.val.value) (seconds : PyFloat)
    (inside : seconds.le (minutes'.val.toFloat.mul 60) = true) :
    seconds.le (minutes.val.toFloat.mul 60) = true := by
  have finite := PyNum.exact_isFinite minutes.property
  have finite' := PyNum.exact_isFinite minutes'.property
  have longer : minutes'.val.toFloat.level ≤ minutes.val.toFloat.level := by
    rw [toFloat_level held finite, toFloat_level held' finite']
    exact PyFloat.level_round_mono shorter
  have above : PyFloat.level 0 ≤ minutes'.val.toFloat.level := by
    rw [toFloat_level held' finite', ← PyFloat.level_round_zero]
    exact PyFloat.level_round_mono nonneg
  have sixty : (60 : PyFloat).isFinite = true := rfl
  obtain ⟨number', number, _, ordered⟩ := PyFloat.level_mul_mono (toFloat_number finite')
    (toFloat_number finite) sixty sixty above (by rw [PyFloat.value_ofNat]; norm_num) longer le_rfl
  cases unknown : seconds.isNan with
  | true =>
    cases seconds with
    | nan => contradiction
    | _ => contradiction
  | false =>
    rw [PyFloat.le_level unknown number'] at inside
    rw [PyFloat.le_level unknown number]
    exact inside.trans ordered

/-- The consecutive-loss gate passes the same history under a safer context. -/
theorem rounded_consecutiveLosses_mono {ctx ctx' : RiskContext} {call call' : TradeCall}
    (safer : Safer ctx ctx' call call') (held : HeldNum ctx.consecutiveLossWindowMinutes.val)
    (held' : HeldNum ctx'.consecutiveLossWindowMinutes.val)
    (passes : consecutiveLossesRejection ctx call.tradeOutcomes call.currentTime = .ok none) :
    consecutiveLossesRejection ctx' call'.tradeOutcomes call'.currentTime = .ok none := by
  rw [consecutiveLosses_passes_iff] at passes ⊢
  rw [safer.tradeOutcomes, safer.currentTime]
  obtain ⟨nonneg, _, ways⟩ := passes
  have window : ctx'.consecutiveLossWindowMinutes.val.exact.lt 0 = false := by
    have finite := PyNum.exact_isFinite ctx'.consecutiveLossWindowMinutes.property
    rw [← Bool.not_eq_true, PyFloat.lt_iff finite rfl, not_lt, PyFloat.value_ofNat, Nat.cast_zero]
    exact safer.windowNonneg
  have nonneg' : 0 ≤ ctx'.consecutiveLossLimit := by
    rcases safer.consecutiveLossLimit with same | ⟨_, higher⟩ <;> omega
  refine ⟨nonneg', window, ?_⟩
  rcases ways with off | empty | ⟨first, rest, given, modes, finite, agrees, scanned⟩
  · left
    rcases safer.consecutiveLossLimit with same | ⟨active, _⟩ <;> omega
  · exact .inr (.inl empty)
  · refine .inr (.inr ⟨first, rest, given, modes, finite, agrees, ?_⟩)
    have limit : ctx.consecutiveLossLimit ≤ ctx'.consecutiveLossLimit := by
      rcases safer.consecutiveLossLimit with same | ⟨_, higher⟩ <;> omega
    exact scan_mono limit
      (rounded_window_mono held held' safer.windowNonneg safer.consecutiveLossWindow) 0 _ scanned

/-- The inputs are floats of the format: the costs of the positions convert to finite floats, and
the windows are held. -/
structure HeldInputs (ctx : RiskContext) (call : TradeCall) : Prop where
  costs : ∀ pos ∈ call.openPositions, pos.costBasis.toFloat.isFinite = true
  window : HeldNum ctx.consecutiveLossWindowMinutes.val

/-- A call at least as safe passes every check that the other passes, within its latency budget. -/
theorem rounded_chain_mono {ctx ctx' : RiskContext} {call call' : TradeCall}
    {clock clock' : Clock} (safer : Safer ctx ctx' call call') (finite : FiniteCall call)
    (finite' : FiniteCall call') (held : HeldInputs ctx call) (held' : HeldInputs ctx' call')
    (inTime : clock'.elapsedUs ≤ ctx'.latencyBudgetUs)
    (passes : Checks.first (chainChecks ctx call clock) = .ok none) :
    Checks.first (chainChecks ctx' call' clock') = .ok none := by
  refine Checks.first_mono ?_ passes
  have expected : expectedValueRejection ctx call.expectedValue = none →
      expectedValueRejection ctx' call'.expectedValue = none := by
    rw [expectedValue_passes_iff, expectedValue_passes_iff]
    intro passes
    exact ⟨finite'.expectedValue,
      safer.minExpectedValue.trans (passes.2.trans safer.expectedValue)⟩
  have latency : latencyRejection ctx' clock' = .ok none :=
    (latencyRejection_passes_iff ctx' clock').mpr inTime
  simp only [chainChecks, gateChecks, List.cons_append, List.nil_append, List.forall₂_cons,
    Except.ok.injEq]
  exact ⟨expected, rounded_drawdown_mono safer finite',
    rounded_consecutiveLosses_mono safer held.window held'.window,
    rounded_concentration_mono safer finite finite' held.costs held'.costs,
    rounded_clusterCap_mono safer finite finite', fun _ => latency, .nil⟩

/-- In any sound rounding, that of doubles included, a call at least as safe as an approved one is
approved within its latency budget. -/
theorem rounded_safer_call_approved {ctx ctx' : RiskContext} {call call' : TradeCall}
    {clock clock' : Clock} (safer : Safer ctx ctx' call call') (finite : FiniteCall call)
    (finite' : FiniteCall call') (held : HeldInputs ctx call) (held' : HeldInputs ctx' call')
    (inTime : clock'.elapsedUs ≤ ctx'.latencyBudgetUs)
    (approved : ∃ decision, evaluateTrade ctx call clock = .ok decision ∧
      decision.approved = true) :
    ∃ decision, evaluateTrade ctx' call' clock' = .ok decision ∧ decision.approved = true := by
  rw [evaluateTrade, evaluateStateless_approves_iff] at approved ⊢
  exact ⟨finite'.proposedCost,
    rounded_chain_mono safer finite finite' held held' inTime approved.2⟩

end Gates

section Example

attribute [local instance] FloatFormat.doubles

/-- The double nearest to a third. -/
def third : PyFloat := .finite (6004799503160661 / 18014398509481984)

/-- With positions of a third each, half the trade with one of them resolved is approved in doubles
because the whole was. -/
theorem half_trade_approved_in_doubles :
    let pos : Position := ⟨"ticker", "family", .float third, .float third, false⟩
    let call := { TradeCall.plain 20 none with openPositions := [pos, pos, pos] }
    let call' := { TradeCall.plain 10 none with
      openPositions := [pos, { pos with isResolved := true }, pos] }
    evaluateTrade .default call ⟨0, 0⟩ = .ok ⟨true, "OK", ⟨20, rfl⟩⟩ ∧
      ∃ decision, evaluateTrade .default call' ⟨0, 0⟩ = .ok decision ∧
        decision.approved = true := by
  intro pos call call'
  have approved : evaluateTrade .default call ⟨0, 0⟩ = .ok ⟨true, "OK", ⟨20, rfl⟩⟩ := by
    decide +kernel
  have relieved : positionLedger.Relieved call.openPositions call'.openPositions :=
    .keep pos (.close pos (by decide +kernel) (.keep pos .nil))
  have safer : Safer .default .default call call' :=
    ⟨rfl, rfl, rfl, rfl, le_refl _, le_refl _, by decide +kernel, relieved, le_refl _, le_refl _,
      le_refl _, .inl rfl, by decide +kernel, le_refl _, .neither⟩
  have finite : FiniteCall call :=
    ⟨rfl, rfl, rfl, rfl, by decide +kernel, by decide +kernel, fun _ given => by contradiction⟩
  have finite' : FiniteCall call' :=
    ⟨rfl, rfl, rfl, rfl, by decide +kernel, by decide +kernel, fun _ given => by contradiction⟩
  have window : HeldNum RiskContext.default.consecutiveLossWindowMinutes.val := by
    intro float same
    cases same
    exact ⟨rfl, by decide +kernel⟩
  have held : HeldInputs .default call := ⟨by decide +kernel, window⟩
  have held' : HeldInputs .default call' := ⟨by decide +kernel, window⟩
  have within : (⟨0, 0⟩ : Clock).elapsedUs ≤ RiskContext.default.latencyBudgetUs := by decide
  exact ⟨approved,
    rounded_safer_call_approved safer finite finite' held held' within ⟨_, approved, rfl⟩⟩

end Example

end VerdictRisk
