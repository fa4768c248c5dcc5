import VerdictRisk.Verif.RoundedGates
import VerdictRisk.Library.Runs

/-!
# Portfolio exposure in floating point

The caller hands each evaluation the positions it has entered so far, resolved ones included, and
the gate sums their costs anew with a rounding at every step. An approval bounds that rounded sum.
Entering the position repeats the gate's own addition, and resolving one anywhere in the book does
not raise the sums that follow it, so along every run the exposure that the gate would compute for
any open family is within the limit.
-/

namespace VerdictRisk

open Python

/-- A trade the caller wants to open: the call, without its positions, and what the position it
enters records besides. -/
structure RoundedOrder where
  ticker : String
  currentValue : PyNum
  call : TradeCall
  clock : Clock
  /-- The proposed cost is not negative. -/
  nonneg : 0 ≤ call.proposedCost.value

/-- The operations of the caller on its positions. -/
inductive PositionOp where
  | openTrade (order : RoundedOrder)
  | closeTrade (index : ℕ)

/-- The position an approved order enters. -/
def RoundedOrder.position (order : RoundedOrder) : Position :=
  ⟨order.ticker, order.call.targetFamily, .float order.call.proposedCost, order.currentValue, false⟩

/-- One operation of the caller under a fixed policy. -/
def positionStep [FloatFormat] (ctx : RiskContext) (positions : List Position) :
    PositionOp → Option (Except PyError RiskDecision) × List Position
  | .openTrade order =>
    let outcome := evaluateTrade ctx { order.call with openPositions := positions } order.clock
    match outcome with
    | .ok decision =>
      (some outcome, if decision.approved then positions ++ [order.position] else positions)
    | .error _ => (some outcome, positions)
  | .closeTrade index => (none, positions.modify index positionLedger.close)

/-- The caller as a machine. -/
def positionKeeper [FloatFormat] (ctx : RiskContext) :
    Runs.Machine (List Position) PositionOp (Option (Except PyError RiskDecision)) :=
  ⟨positionStep ctx⟩

section Keeper

variable [FloatFormat] [SoundRounding] {ctx : RiskContext} {positions : List Position}

/-- What holds of the positions along every run. -/
structure SoundPositions (ctx : RiskContext) (positions : List Position) : Prop where
  floats : ∀ pos ∈ positions, ∃ cost : PyFloat, pos.costBasis = .float cost ∧ cost.isFinite = true
  nonneg : ∀ pos ∈ positions, 0 ≤ pos.costBasis.value
  bounded : ∀ family, (∃ pos ∈ positions, counts family pos) →
    (positions.foldl (addCost family) 0).level ≤ ctx.maxCorrelatedExposure.val.exact.level

namespace SoundPositions

omit [SoundRounding] in
/-- The costs are finite. -/
theorem known (sound : SoundPositions ctx positions) :
    ∀ pos ∈ positions, pos.costBasis.exact.isFinite = true := by
  intro pos member
  obtain ⟨cost, same, finite⟩ := sound.floats pos member
  rw [same]
  exact finite

omit [SoundRounding] in
/-- The costs are floats already. -/
theorem fits (sound : SoundPositions ctx positions) :
    ∀ pos ∈ positions, pos.costBasis.toFloat.isFinite = true := by
  intro pos member
  obtain ⟨cost, same, finite⟩ := sound.floats pos member
  rw [same]
  exact finite

/-- Entering an approved position keeps the exposures within the limit: the sum of its family is
the one the gate has compared, and no other sum changes. -/
theorem entered (sound : SoundPositions ctx positions) {order : RoundedOrder}
    (approved : ∃ decision,
      evaluateTrade ctx { order.call with openPositions := positions } order.clock = .ok decision ∧
        decision.approved = true) :
    SoundPositions ctx (positions ++ [order.position]) := by
  obtain ⟨finite, passes⟩ := (evaluateStateless_approves_iff _ _ _).mp approved
  rw [Checks.first_passes_iff] at passes
  have gate := passes (.ok (concentrationRejection ctx order.call.targetFamily
    order.call.proposedCost positions)) (by simp [chainChecks, gateChecks])
  rw [Except.ok.injEq, concentration_level_iff finite sound.known sound.fits] at gate
  constructor
  · intro pos member
    rcases List.mem_append.mp member with held | fresh
    · exact sound.floats pos held
    · rw [List.mem_singleton.mp fresh]
      exact ⟨order.call.proposedCost, rfl, finite⟩
  · intro pos member
    rcases List.mem_append.mp member with held | fresh
    · exact sound.nonneg pos held
    · rw [List.mem_singleton.mp fresh]
      exact order.nonneg
  · rintro family ⟨pos, member, counted⟩
    rw [List.foldl_append, List.foldl_cons, List.foldl_nil, addCost]
    by_cases same : order.call.targetFamily = family
    · have taken : (!order.position.isResolved && order.position.family == family) = true := by
        simp [RoundedOrder.position, same]
      rw [if_pos taken, ← same]
      exact gate
    · have skipped : ¬ (!order.position.isResolved && order.position.family == family) = true := by
        simp [RoundedOrder.position, same]
      rw [if_neg skipped]
      rcases List.mem_append.mp member with held | fresh
      · exact sound.bounded family ⟨pos, held, counted⟩
      · rw [List.mem_singleton.mp fresh] at counted
        exact absurd counted.2 same

/-- Resolving a position keeps the exposures within the limit. -/
theorem resolved (sound : SoundPositions ctx positions) (index : ℕ) :
    SoundPositions ctx (positions.modify index positionLedger.close) := by
  constructor
  · intro pos member
    rcases positionLedger.mem_modify member with held | ⟨old, held, rfl⟩
    · exact sound.floats pos held
    · exact sound.floats old held
  · intro pos member
    rcases positionLedger.mem_modify member with held | ⟨old, held, rfl⟩
    · exact sound.nonneg pos held
    · exact sound.nonneg old held
  · rintro family ⟨pos, member, counted⟩
    have relieved := positionLedger.relieved_modify sound.nonneg index
    have lower := exposure_relieved family relieved sound.fits PyFloat.held_zero PyFloat.held_zero
      le_rfl
    rcases positionLedger.mem_modify member with held | ⟨old, _, rfl⟩
    · exact lower.trans (sound.bounded family ⟨pos, held, counted⟩)
    · have closed := counted.1
      contradiction

end SoundPositions

/-- Every operation keeps the exposures within the limit. -/
theorem positionStep_sound (sound : SoundPositions ctx positions) (op : PositionOp) :
    SoundPositions ctx ((positionKeeper ctx).next positions op) := by
  cases op with
  | closeTrade index => exact sound.resolved index
  | openTrade order =>
    change SoundPositions ctx (positionStep ctx positions (.openTrade order)).2
    unfold positionStep
    dsimp only
    cases returned : evaluateTrade ctx { order.call with openPositions := positions }
        order.clock with
    | error raised => exact sound
    | ok decision =>
      dsimp only
      cases approved : decision.approved with
      | false => exact sound
      | true => exact sound.entered ⟨decision, returned, approved⟩

/-- Along every run, and in doubles in particular, the exposure that the gate computes for a family
with an unresolved position is a number within the limit. -/
theorem rounded_exposure_within_limit (ctx : RiskContext) (run : List PositionOp)
    (family : String)
    (occupied : ∃ pos ∈ (positionKeeper ctx).after [] run, counts family pos) :
    ∃ exposure, currentExposure family 0 ((positionKeeper ctx).after [] run) = some exposure ∧
      exposure.le ctx.maxCorrelatedExposure.val.exact = true := by
  have empty : SoundPositions ctx [] := by
    constructor <;> simp
  have sound := (positionKeeper ctx).after_invariant empty
    (fun _ op held => positionStep_sound held op) run
  refine ⟨_, currentExposure_eq family sound.known 0, ?_⟩
  have number := (exposure_held family PyFloat.held_zero sound.fits).number
  have limit : ctx.maxCorrelatedExposure.val.exact.isNan = false :=
    PyFloat.isNan_of_finite (PyNum.exact_isFinite ctx.maxCorrelatedExposure.property)
  exact (PyFloat.le_level number limit).mpr (sound.bounded family occupied)

end Keeper

section Example

attribute [local instance] FloatFormat.doubles

/-- Two trades of a third each, the first of them closed before a third one, stay within the
default limit in doubles. -/
theorem thirds_within_limit :
    let order : RoundedOrder :=
      ⟨"ticker", .float third, .plain third none, ⟨0, 0⟩, by decide +kernel⟩
    let positions := (positionKeeper .default).after []
      [.openTrade order, .openTrade order, .closeTrade 0, .openTrade order]
    ∃ exposure, currentExposure "family" 0 positions = some exposure ∧
      exposure.le RiskContext.default.maxCorrelatedExposure.val.exact = true := by
  intro order positions
  refine rounded_exposure_within_limit .default _ "family" ⟨order.position, ?_, rfl, rfl⟩
  decide +kernel

end Example

end VerdictRisk
