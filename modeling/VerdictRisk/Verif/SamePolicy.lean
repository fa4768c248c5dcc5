import VerdictRisk.Records
import VerdictRisk.Python.Rounding
import VerdictRisk.Verif.Chain
import VerdictRisk.Verif.SnapshotRestore

/-!
# Policies read back

A context that has been through JSON has a float in the place of every integer limit. Where doubles
hold the limits the gates cannot tell: each approves, rejects and raises as before, although a
reason may spell its limit differently.
-/

namespace VerdictRisk

open Python Python.Fields

section Policies

variable [FloatFormat]

omit [FloatFormat] in
/-- A comparison depends on the value of a finite float alone. -/
theorem lt_same {x y y' : PyFloat} (finite : y.isFinite = true) (finite' : y'.isFinite = true)
    (same : y.value = y'.value) : x.lt y = x.lt y' ∧ y.lt x = y'.lt x := by
  have number : y.isNan = false := PyFloat.isNan_of_finite finite
  have number' : y'.isNan = false := PyFloat.isNan_of_finite finite'
  cases nan : x.isNan with
  | true =>
    cases x with
    | nan => cases y <;> cases y' <;> exact ⟨rfl, rfl⟩
    | _ => contradiction
  | false =>
    constructor
    · rw [Bool.eq_iff_iff, PyFloat.lt_level nan number,
        PyFloat.lt_level nan number', PyFloat.level_of_finite finite,
        PyFloat.level_of_finite finite', same]
    · rw [Bool.eq_iff_iff, PyFloat.lt_level number nan,
        PyFloat.lt_level number' nan, PyFloat.level_of_finite finite,
        PyFloat.level_of_finite finite', same]

/-- Two contexts of one policy: the limits that the gates read are the same numbers, also when
they are converted. -/
structure SamePolicy (ctx ctx' : RiskContext) : Prop where
  drawdown : ctx.maxDailyDrawdownPct.val.value = ctx'.maxDailyDrawdownPct.val.value
  exposure : ctx.maxCorrelatedExposure.val.value = ctx'.maxCorrelatedExposure.val.value
  expected : ctx.minExpectedValue.val.value = ctx'.minExpectedValue.val.value
  window : ctx.consecutiveLossWindowMinutes.val.value =
    ctx'.consecutiveLossWindowMinutes.val.value
  windowFloat : ctx.consecutiveLossWindowMinutes.val.toFloat =
    ctx'.consecutiveLossWindowMinutes.val.toFloat
  budget : ctx.latencyBudgetUs = ctx'.latencyBudgetUs
  limit : ctx.consecutiveLossLimit = ctx'.consecutiveLossLimit

namespace SamePolicy

variable {ctx ctx' : RiskContext}

/-- The expected-value gate passes alike under both contexts. -/
theorem expectedValue (same : SamePolicy ctx ctx') (expectedValue : PyFloat) :
    expectedValueRejection ctx expectedValue = none ↔
      expectedValueRejection ctx' expectedValue = none := by
  rw [expectedValue_passes_iff, expectedValue_passes_iff, same.expected]

/-- The drawdown gate passes alike under both contexts. -/
theorem drawdownRatio (same : SamePolicy ctx ctx') (dailyRealizedPnl equity : PyFloat) :
    drawdownRejection ctx dailyRealizedPnl equity = none ↔
      drawdownRejection ctx' dailyRealizedPnl equity = none := by
  have limits : ctx.maxDailyDrawdownPct.val.neg.exact.value =
      ctx'.maxDailyDrawdownPct.val.neg.exact.value := by
    rw [PyNum.exact_neg_value, PyNum.exact_neg_value]
    exact congrArg Neg.neg same.drawdown
  have finite : ∀ x : FiniteNum, x.val.neg.exact.isFinite = true := by
    intro x
    rw [PyNum.exact_neg_isFinite]
    exact PyNum.exact_isFinite x.property
  rw [drawdown_passes_iff, drawdown_passes_iff, (lt_same (finite _) (finite _) limits).1]

/-- The concentration gate passes alike under both contexts. -/
theorem concentration (same : SamePolicy ctx ctx') (targetFamily : String)
    (proposedCost : PyFloat) (openPositions : List Position) :
    concentrationRejection ctx targetFamily proposedCost openPositions = none ↔
      concentrationRejection ctx' targetFamily proposedCost openPositions = none := by
  have compared : ∀ exposure, ctx.maxCorrelatedExposure.val.exact.lt exposure =
      ctx'.maxCorrelatedExposure.val.exact.lt exposure := fun exposure =>
    (lt_same (PyNum.exact_isFinite ctx.maxCorrelatedExposure.property)
      (PyNum.exact_isFinite ctx'.maxCorrelatedExposure.property) same.exposure).2
  rw [concentration_passes_iff, concentration_passes_iff]
  simp only [compared]

/-- The two scans count the same losses. -/
theorem scanLosses_alike (same : SamePolicy ctx ctx') (limitSeconds : PyFloat)
    (currentTime : DateTime) (counted : ℕ) (outcomes : List TradeOutcome) :
    (scanLosses ctx limitSeconds currentTime counted outcomes).map Option.isNone =
      (scanLosses ctx' limitSeconds currentTime counted outcomes).map Option.isNone := by
  induction outcomes generalizing counted with
  | nil => rfl
  | cons outcome rest ih =>
    simp only [scanLosses, same.limit]
    split
    · split
      · rfl
      · split
        · rfl
        · split
          · split
            · rfl
            · exact ih (counted + 1)
          · rfl
    · rfl

/-- The consecutive-loss gate raises, rejects and passes alike under both contexts. -/
theorem consecutiveLosses (same : SamePolicy ctx ctx')
    (tradeOutcomes : Option (List TradeOutcome)) (currentTime : Option DateTime) :
    (consecutiveLossesRejection ctx tradeOutcomes currentTime).map Option.isNone =
      (consecutiveLossesRejection ctx' tradeOutcomes currentTime).map Option.isNone := by
  have negative : ctx.consecutiveLossWindowMinutes.val.exact.lt 0 =
      ctx'.consecutiveLossWindowMinutes.val.exact.lt 0 :=
    (lt_same (PyNum.exact_isFinite ctx.consecutiveLossWindowMinutes.property)
      (PyNum.exact_isFinite ctx'.consecutiveLossWindowMinutes.property) same.window).2
  simp only [consecutiveLossesRejection, negative, same.limit, same.windowFloat]
  split
  · rfl
  · split
    · rfl
    · split
      · rfl
      · rfl
      · split
        · rfl
        · split
          · rfl
          · split
            · exact same.scanLosses_alike _ _ _ _
            · split
              · rfl
              · exact same.scanLosses_alike _ _ _ _

/-- Every check of the chain raises and passes alike. -/
theorem chain_alike (same : SamePolicy ctx ctx') (call : TradeCall) (clock : Clock) :
    (Checks.first (chainChecks ctx call clock)).map Option.isNone =
      (Checks.first (chainChecks ctx' call clock)).map Option.isNone := by
  have budget : latencyRejection ctx clock = latencyRejection ctx' clock := by
    simp only [latencyRejection, same.budget]
  apply Checks.first_alike
  have expected := same.expectedValue call.expectedValue
  have drawdown := same.drawdownRatio call.dailyRealizedPnl call.equity
  have losses := same.consecutiveLosses call.tradeOutcomes call.currentTime
  have concentration := same.concentration call.targetFamily call.proposedCost call.openPositions
  exact .cons (Checks.alike_of_passes expected) (.cons (Checks.alike_of_passes drawdown)
    (.cons losses (.cons (Checks.alike_of_passes concentration)
      (.cons rfl (.cons (by rw [budget]) .nil)))))

/-- Under one policy a call is approved, rejected or refused alike. -/
theorem evaluateStateless_alike (same : SamePolicy ctx ctx') (call : TradeCall) (clock : Clock) :
    (evaluateStateless ctx call clock).map RiskDecision.approved =
      (evaluateStateless ctx' call clock).map RiskDecision.approved := by
  rw [evaluateStateless_ruled, evaluateStateless_ruled, same.chain_alike]

end SamePolicy

/-- The limits of a context that are converted to floats. -/
def RiskContext.limits (ctx : RiskContext) : List FiniteNum :=
  [ctx.maxDailyDrawdownPct, ctx.maxWeeklyDrawdownPct, ctx.maxCorrelatedExposure,
    ctx.minExpectedValue, ctx.consecutiveLossWindowMinutes]

/-- Doubles hold the integer limits. -/
def LimitsHeld (ctx : RiskContext) : Prop := ∀ x ∈ ctx.limits, ∀ n, x.val = .int n → HeldByDouble n

omit [FloatFormat] in
/-- No limit is an integer. -/
def FloatLimits (ctx : RiskContext) : Prop := ∀ x ∈ ctx.limits, ∃ y, x.val = .float y

/-- What is read of a context that was written. -/
structure Reread (ctx back : RiskContext) : Prop where
  daily : back.maxDailyDrawdownPct.val = .float ctx.maxDailyDrawdownPct.val.toFloat
  weekly : back.maxWeeklyDrawdownPct.val = .float ctx.maxWeeklyDrawdownPct.val.toFloat
  exposure : back.maxCorrelatedExposure.val = .float ctx.maxCorrelatedExposure.val.toFloat
  expected : back.minExpectedValue.val = .float ctx.minExpectedValue.val.toFloat
  budget : back.latencyBudgetUs = ctx.latencyBudgetUs
  limit : back.consecutiveLossLimit = ctx.consecutiveLossLimit
  window : back.consecutiveLossWindowMinutes.val =
    .float ctx.consecutiveLossWindowMinutes.val.toFloat

variable {ctx back : RiskContext}

/-- A limit that doubles hold is converted without loss. -/
theorem held_toFloat {x : FiniteNum} (held : ∀ n, x.val = .int n → HeldByDouble n) :
    x.val.toFloat.isFinite = true ∧ x.val.toFloat.value = x.val.value := by
  obtain ⟨x, checked⟩ := x
  cases x with
  | int n => exact held n rfl
  | float y => exact ⟨checked, rfl⟩

/-- A context whose limits doubles hold is read back. -/
theorem context_reread (codec : Msgspec) (held : LimitsHeld ctx) :
    ∃ back, (RiskContext.slot codec).read ((RiskContext.slot codec).write ctx) = some back ∧
      Reread ctx back := by
  rw [LimitsHeld, RiskContext.limits] at held
  simp only [List.forall_mem_cons] at held
  obtain ⟨daily, weekly, exposure, expected, window, _⟩ := held
  have dailyFinite := (held_toFloat daily).1
  have weeklyFinite := (held_toFloat weekly).1
  have exposureFinite := (held_toFloat exposure).1
  have expectedFinite := (held_toFloat expected).1
  have windowFinite := (held_toFloat window).1
  refine ⟨⟨⟨.float _, dailyFinite⟩, ⟨.float _, weeklyFinite⟩, ⟨.float _, exposureFinite⟩,
    ⟨.float _, expectedFinite⟩, ctx.latencyBudgetUs, ctx.consecutiveLossLimit,
    ⟨.float _, windowFinite⟩⟩, ?_, ⟨rfl, rfl, rfl, rfl, rfl, rfl, rfl⟩⟩
  rw [RiskContext.slot, struct_written, RiskContext.fields, build_written_iff]
  refine ⟨(_, _, _, _, _, _, _), ?_,
    RiskContext.new_ok.mpr ⟨rfl, rfl, rfl, rfl, rfl, rfl, rfl⟩⟩
  refine field_written_iff.mpr ⟨Slot.number_written_iff.mpr ⟨dailyFinite, rfl⟩, ?_⟩
  refine field_written_iff.mpr ⟨Slot.number_written_iff.mpr ⟨weeklyFinite, rfl⟩, ?_⟩
  refine field_written_iff.mpr ⟨Slot.number_written_iff.mpr ⟨exposureFinite, rfl⟩, ?_⟩
  refine field_written_iff.mpr ⟨Slot.number_written_iff.mpr ⟨expectedFinite, rfl⟩, ?_⟩
  refine field_written_iff.mpr ⟨rfl, field_written_iff.mpr ⟨rfl, ?_⟩⟩
  exact (one_written _ _ _ _).trans (Slot.number_written_iff.mpr ⟨windowFinite, rfl⟩)

namespace Reread

/-- No limit of a context that has been read is an integer. -/
theorem floatLimits (reread : Reread ctx back) : FloatLimits back := by
  rw [FloatLimits, RiskContext.limits]
  simp only [List.forall_mem_cons]
  exact ⟨⟨_, reread.daily⟩, ⟨_, reread.weekly⟩, ⟨_, reread.exposure⟩, ⟨_, reread.expected⟩,
    ⟨_, reread.window⟩, by simp⟩

/-- A context whose limits doubles hold is read back as one of the same policy. -/
theorem samePolicy (reread : Reread ctx back) (held : LimitsHeld ctx) : SamePolicy ctx back := by
  rw [LimitsHeld, RiskContext.limits] at held
  simp only [List.forall_mem_cons] at held
  obtain ⟨daily, _, exposure, expected, window, _⟩ := held
  have same : ∀ {x y : FiniteNum}, (∀ n, x.val = .int n → HeldByDouble n) →
      y.val = .float x.val.toFloat → x.val.value = y.val.value := by
    intro x y held read
    rw [read]
    exact (held_toFloat held).2.symm
  refine ⟨same daily reread.daily, same exposure reread.exposure, same expected reread.expected,
    same window reread.window, ?_, reread.budget.symm, reread.limit.symm⟩
  rw [reread.window]
  rfl

/-- A context without integer limits is read back as it was. -/
theorem eq_of_floatLimits (reread : Reread ctx back) (floats : FloatLimits ctx) : back = ctx := by
  rw [FloatLimits, RiskContext.limits] at floats
  simp only [List.forall_mem_cons] at floats
  obtain ⟨daily, weekly, exposure, expected, window, _⟩ := floats
  have same : ∀ {x y : FiniteNum}, (∃ z, x.val = .float z) → y.val = .float x.val.toFloat →
      y = x := by
    rintro x y ⟨z, float⟩ read
    rw [float] at read
    exact Subtype.ext (read.trans float.symm)
  obtain ⟨_, _, _, _, _, _, _⟩ := ctx
  obtain ⟨_, _, _, _, _, _, _⟩ := back
  rw [RiskContext.mk.injEq]
  exact ⟨same daily reread.daily, same weekly reread.weekly, same exposure reread.exposure,
    same expected reread.expected, reread.budget, reread.limit, same window reread.window⟩

end Reread

/-- Float limits are held by doubles. -/
theorem FloatLimits.held (floats : FloatLimits ctx) : LimitsHeld ctx := by
  intro x member n integer
  obtain ⟨y, float⟩ := floats x member
  rw [float] at integer
  contradiction

/-- A decision is read back as it was. -/
theorem decision_reread (codec : Msgspec) (decision : RiskDecision) :
    RiskDecision.fromJson codec (.ok (decision.toJson codec)) = .ok decision := by
  have read : (RiskDecision.slot codec).read (decision.toJson codec) = some decision := by
    rw [RiskDecision.toJson, RiskDecision.slot, struct_written, RiskDecision.fields,
      build_written_iff]
    refine ⟨(decision.approved, decision.reasonCode, decision.suggestedSize), ?_,
      RiskDecision.new_finite _ _ _⟩
    exact field_written_iff.mpr ⟨rfl, field_written_iff.mpr ⟨rfl, one_written _ _ _ _⟩⟩
  rw [RiskDecision.fromJson, recordFromJson]
  simp only [read]

end Policies

section Examples

attribute [local instance] FloatFormat.exact

/-- The integer limit is finite. -/
theorem integer_limit_finite : (PyNum.int 2500).isFinite = true := by
  unfold PyNum.isFinite PyNum.floatLimit
  decide +kernel

/-- A context with an integer limit on the exposure. -/
def integerExposure : RiskContext :=
  { RiskContext.default with maxCorrelatedExposure := ⟨.int 2500, integer_limit_finite⟩ }

-- The reasons are not the same: one spells the limit as an integer, the other as a float.
example : concentrationRejection integerExposure "family" 3000 [] ≠
    concentrationRejection .default "family" 3000 [] := by
  decide +kernel

end Examples

end VerdictRisk
