import VerdictRisk.Verif.RoundedGates

/-!
# Dominance of safer trades

Exact arithmetic is the sound rounding that changes no result, and it holds every number. So what
the gates keep in every sound rounding they keep in exact arithmetic of every finite call, without
a condition on the floats: a call that is at least as safe in each of its inputs passes whatever
the first call passed.
-/

namespace VerdictRisk

open Python

attribute [local instance] FloatFormat.exact

/-- In exact arithmetic every finite number is held. -/
theorem heldNum_exact {x : PyNum} (finite : x.exact.isFinite = true) : HeldNum x := by
  intro float same
  subst same
  refine ⟨PyFloat.isNan_of_finite finite, fun known => ?_⟩
  have rounded : (FloatFormat.round float.value).isFinite = true := rfl
  have value : (FloatFormat.round float.value).value = float.value := rfl
  exact le_antisymm ((PyFloat.level_le_iff rounded known).mpr value.le)
    ((PyFloat.level_le_iff known rounded).mpr value.ge)

/-- In exact arithmetic the inputs of every finite call are held. -/
theorem heldInputs_exact (ctx : RiskContext) {call : TradeCall} (finite : FiniteCall call) :
    HeldInputs ctx call where
  costs pos member := by
    rw [toFloat_exact]
    exact finite.positions pos member
  window := heldNum_exact (PyNum.exact_isFinite ctx.consecutiveLossWindowMinutes.property)

/-- If the first call is approved, a call at least as safe that is evaluated within its latency
budget is approved too. -/
theorem safer_call_approved {ctx ctx' : RiskContext} {call call' : TradeCall}
    {clock clock' : Clock} (safer : Safer ctx ctx' call call') (finite : FiniteCall call)
    (finite' : FiniteCall call') (inTime : clock'.elapsedUs ≤ ctx'.latencyBudgetUs)
    (approved : ∃ decision, evaluateTrade ctx call clock = .ok decision ∧
      decision.approved = true) :
    ∃ decision, evaluateTrade ctx' call' clock' = .ok decision ∧ decision.approved = true := by
  have held : HeldInputs ctx call := heldInputs_exact ctx finite
  have held' : HeldInputs ctx' call' := heldInputs_exact ctx' finite'
  rw [evaluateTrade, evaluateStateless_approves_iff] at approved ⊢
  exact ⟨finite'.proposedCost,
    rounded_chain_mono safer finite finite' held held' inTime approved.2⟩

/-- Half the trade, with the open position resolved, is approved because the whole was. -/
theorem half_trade_approved :
    let pos : Position := ⟨"ticker", "family", .float 100, .float 100, false⟩
    let call := { TradeCall.plain 20 none with openPositions := [pos] }
    let call' := { TradeCall.plain 10 none with
      openPositions := [{ pos with isResolved := true }] }
    evaluateTrade .default call ⟨0, 0⟩ = .ok ⟨true, "OK", ⟨20, rfl⟩⟩ ∧
      ∃ decision, evaluateTrade .default call' ⟨0, 0⟩ = .ok decision ∧
        decision.approved = true := by
  intro pos call call'
  have approved : evaluateTrade .default call ⟨0, 0⟩ = .ok ⟨true, "OK", ⟨20, rfl⟩⟩ := by
    decide +kernel
  have relieved : positionLedger.Relieved call.openPositions call'.openPositions :=
    .close pos (by decide +kernel) .nil
  have safer : Safer .default .default call call' :=
    ⟨rfl, rfl, rfl, rfl, le_refl _, le_refl _, by decide +kernel, relieved, le_refl _, le_refl _,
      le_refl _, .inl rfl, by decide +kernel, le_refl _, .neither⟩
  have finite : FiniteCall call :=
    ⟨rfl, rfl, rfl, rfl, by decide +kernel, by decide +kernel, fun _ given => by contradiction⟩
  have finite' : FiniteCall call' :=
    ⟨rfl, rfl, rfl, rfl, by decide +kernel, by decide +kernel, fun _ given => by contradiction⟩
  have within : (⟨0, 0⟩ : Clock).elapsedUs ≤ RiskContext.default.latencyBudgetUs := by decide
  exact ⟨approved, safer_call_approved safer finite finite' within ⟨_, approved, rfl⟩⟩

end VerdictRisk
