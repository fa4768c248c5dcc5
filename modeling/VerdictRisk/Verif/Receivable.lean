import VerdictRisk.Python.Serializable
import VerdictRisk.Verif.EdgeFloats
import VerdictRisk.Verif.Report
import VerdictRisk.Verif.Secrets

/-!
# Requests that can be evaluated

A request that was constructed holds finite figures, so every gate answers it. The receipt is
where an evaluation can still raise: the construction of a request does not look into the
advisory, and the receipt writes all of it, and the integers of the policy, out.
-/

namespace VerdictRisk

open Python

/-- The positions hold what the constructor of a position accepts. -/
def Constructed (request : RiskProviderRequest) : Prop :=
  ∀ position ∈ request.openPositions,
    position.costBasis.isFinite = true ∧ position.currentValue.isFinite = true

/-- What the receipt writes of a request and a policy can be written: the names of the advisory's
keys, the advisory, and the two integers of the policy. -/
structure Recordable [FloatFormat] (ctx : RiskContext) (request : RiskProviderRequest) : Prop where
  names : ∀ key, Reaches key request.advisoryValue → ∃ name, key.text = .ok name
  advisory : Serializable request.advisoryValue
  latencyBudget : ctx.latencyBudgetUs.natAbs < textLimit
  lossLimit : ctx.consecutiveLossLimit.natAbs < textLimit

/-- The advisory reaches a key with a forbidden name. -/
def CarriesSecret [FloatFormat] (request : RiskProviderRequest) : Prop :=
  ∃ key, Reaches key request.advisoryValue ∧ Forbidden key

/-- The inputs of a constructed request can be written when its advisory can. -/
theorem serializable_inputs_iff [ReceiptFormat] {request : RiskProviderRequest}
    (constructed : Constructed request) :
    Serializable request.inputs ↔ Serializable request.advisoryValue := by
  have positions : Serializable (.list (request.openPositions.map Position.entry)) := by
    rw [Serializable, serializableItems_iff, List.forall_mem_map]
    intro position member
    obtain ⟨cost, current⟩ := constructed position member
    rw [Position.entry, serializable_record_iff]
    simp only [List.forall_mem_cons, serializable_ofNum cost, serializable_ofNum current]
    simp [Serializable]
  have outcomes : Serializable (.list (request.tradeOutcomes.map TradeOutcome.entry)) := by
    rw [Serializable, serializableItems_iff, List.forall_mem_map]
    intro outcome member
    rw [TradeOutcome.entry, serializable_record_iff]
    simp [Serializable]
  have time : Serializable request.currentTimeValue := by
    unfold RiskProviderRequest.currentTimeValue
    cases request.currentTime <;> simp [Serializable]
  rw [RiskProviderRequest.inputs, serializable_record_iff]
  simp only [List.forall_mem_cons, positions, outcomes, time]
  simp [Serializable]

/-- The configuration can be written when its two integers can. -/
theorem serializable_config_iff (ctx : RiskContext) : Serializable ctx.config ↔
    ctx.latencyBudgetUs.natAbs < textLimit ∧ ctx.consecutiveLossLimit.natAbs < textLimit := by
  have version : riskStateSchemaVersion.natAbs < textLimit := by
    refine lt_of_lt_of_le ?_ floatLimit_le_textLimit
    unfold PyNum.floatLimit
    decide +kernel
  rw [RiskContext.config, serializable_record_iff]
  simp only [List.forall_mem_cons, serializable_ofNum ctx.maxDailyDrawdownPct.property,
    serializable_ofNum ctx.maxWeeklyDrawdownPct.property,
    serializable_ofNum ctx.maxCorrelatedExposure.property,
    serializable_ofNum ctx.minExpectedValue.property,
    serializable_ofNum ctx.consecutiveLossWindowMinutes.property]
  simp [Serializable, version]

section Receipts

variable [FloatFormat]

/-- The names that the receipt's details add are harmless, so the filter looks at the advisory
alone. -/
theorem clean_details_iff (request : RiskProviderRequest) (reasonCode : String)
    (gateOutcomes : List GateOutcome) :
    Clean (.dict (receiptDetails request reasonCode gateOutcomes)) ↔
      Clean request.advisoryValue := by
  have harmless : ∀ name : String, foldedName name ∉ sensitiveNames → Harmless (.str name) :=
    fun name allowed => ⟨name, rfl, allowed⟩
  have entries : ∀ item : GateOutcome, Clean item.entry := by
    intro item
    rw [GateOutcome.entry, PyValue.record_eq, clean_dict_iff]
    simp only [List.map_cons, List.map_nil, List.forall_mem_cons]
    exact ⟨⟨harmless "gate" (by decide), clean_of_leaf rfl rfl⟩,
      ⟨harmless "approved" (by decide), clean_of_leaf rfl rfl⟩,
      ⟨harmless "reason_code" (by decide), clean_of_leaf rfl rfl⟩, by simp⟩
  have report : Clean (.list (gateOutcomes.map GateOutcome.entry)) := by
    rw [clean_iff]
    simp only [entriesOf, childrenOf, List.forall_mem_map]
    exact ⟨by simp, fun item _ => entries item⟩
  rw [receiptDetails, clean_dict_iff]
  simp only [List.forall_mem_cons]
  constructor
  · intro clean
    exact clean.1.2
  · intro clean
    exact ⟨⟨harmless "advisory" (by decide), clean⟩,
      ⟨harmless "reason_code" (by decide), clean_of_leaf rfl rfl⟩,
      ⟨harmless "gate_outcomes" (by decide), report⟩,
      ⟨harmless "api_version" (by decide), clean_of_leaf rfl rfl⟩, by simp⟩

/-- The report never raises. -/
theorem gateReport_returns (ctx : RiskContext) (request : RiskProviderRequest) :
    ∃ report, gateReport ctx request = .ok report := by
  rw [gateReport_eq, Fallible.mapM_returns_iff]
  intro gate member
  have answered : ∃ verdict, gateCheck ctx request gate = .ok verdict := by
    have answers := gateChecks_return ctx request.call
    rw [gateChecks_call] at answers
    exact answers _ (List.mem_map_of_mem member)
  obtain ⟨verdict, answered⟩ := answered
  exact ⟨_, Fallible.map_ok_iff.mpr ⟨verdict, answered, rfl⟩⟩

/-- Behind the stateful gates every request is decided, unless the latency budget cannot be
written. -/
theorem evaluateStateless_decides {ctx : RiskContext} (request : RiskProviderRequest)
    (clock : Clock) (latencyBudget : ctx.latencyBudgetUs.natAbs < textLimit) :
    ∃ decision, evaluateStateless ctx request.call clock = .ok decision := by
  have uncapped : ∀ cluster, request.call.clusterCapCtx = some cluster →
      cluster.proposedCost.isFinite = true := by
    intro cluster given
    contradiction
  have evaluable : Evaluable ctx request.call clock :=
    ⟨request.proposedCost.property, .inr (.inr ⟨uncapped, .inr latencyBudget⟩)⟩
  obtain ⟨decision, returned, _⟩ := (evaluateStateless_survives_iff ctx _ clock).mpr evaluable
  exact ⟨decision, returned⟩

variable [ReceiptFormat]

/-- A value has a digest when it can be written. -/
theorem hash_returns_iff (value : PyValue) :
    (∃ digest, hash value = .ok digest) ↔ Serializable value := by
  rw [← dumps_returns_iff]
  constructor
  · rintro ⟨_, returned⟩
    obtain ⟨payload, written, _⟩ := Fallible.bind_ok_iff.mp returned
    exact ⟨payload, written⟩
  · rintro ⟨payload, written⟩
    exact ⟨_, Fallible.bind_ok_iff.mpr ⟨payload, written, rfl⟩⟩

/-- A receipt is built when its run and its outcome have names, its mappings are clean and what it
digests can be written. -/
theorem buildRiskReceipt_returns_iff {runId outcome : String} {inputs config : PyValue}
    {evidenceRefs : List String} {provenance details : Option Entries} :
    (∃ receipt, buildRiskReceipt runId inputs config outcome evidenceRefs provenance details =
        .ok receipt) ↔
      (isBlank runId || isBlank outcome) = false ∧ Clean (.dict (provenance.getD [])) ∧
        Clean (.dict (details.getD [])) ∧ Serializable inputs ∧ Serializable config := by
  unfold buildRiskReceipt
  cases blank : isBlank runId || isBlank outcome with
  | true =>
    refine iff_of_false ?_ (by simp)
    rintro ⟨receipt, built⟩
    contradiction
  | false =>
    rw [← rejectSensitive_ok_iff, ← rejectSensitive_ok_iff, ← hash_returns_iff,
      ← hash_returns_iff, and_iff_right rfl]
    constructor
    · rintro ⟨receipt, built⟩
      obtain ⟨_, first, built⟩ := Fallible.bind_ok_iff.mp built
      obtain ⟨_, second, built⟩ := Fallible.bind_ok_iff.mp built
      obtain ⟨inputsHash, third, built⟩ := Fallible.bind_ok_iff.mp built
      obtain ⟨configHash, fourth, _⟩ := Fallible.bind_ok_iff.mp built
      exact ⟨first, second, ⟨inputsHash, third⟩, configHash, fourth⟩
    · rintro ⟨first, second, ⟨inputsHash, third⟩, configHash, fourth⟩
      rw [first, second, third, fourth]
      exact ⟨_, rfl⟩

/-- From a decision on a constructed request follows a result when the request carries no secret
and can be recorded. -/
theorem conclude_returns_iff {ctx : RiskContext} {request : RiskProviderRequest}
    (constructed : Constructed request) (decision : RiskDecision) (clock : Clock) :
    (∃ result, RiskProvider.conclude ctx request decision clock = .ok result) ↔
      ¬ CarriesSecret request ∧ Recordable ctx request := by
  obtain ⟨report, reported⟩ := gateReport_returns ctx request
  have concluded : (∃ result, RiskProvider.conclude ctx request decision clock = .ok result) ↔
      ∃ receipt, buildRiskReceipt request.runId request.inputs ctx.config
        (if decision.approved then "approved" else "rejected") [] none
        (some (receiptDetails request decision.reasonCode report)) = .ok receipt := by
    constructor
    · rintro ⟨result, returned⟩
      have made := RiskProvider.conclude_ok returned
      have same := made.reported
      rw [reported, Except.ok.injEq] at same
      rw [same]
      exact ⟨result.receipt, made.receipt⟩
    · rintro ⟨receipt, built⟩
      rw [RiskProvider.conclude, reported]
      exact ⟨_, Fallible.bind_ok_iff.mpr ⟨report, rfl,
        Fallible.bind_ok_iff.mpr ⟨receipt, built, rfl⟩⟩⟩
  have named : (isBlank request.runId ||
      isBlank (if decision.approved then "approved" else "rejected")) = false := by
    rw [request.runIdGiven]
    cases decision.approved <;> decide
  have empty : Clean (.dict ((none : Option Entries).getD [])) := by
    rw [clean_dict_iff]
    simp
  rw [concluded, buildRiskReceipt_returns_iff, and_iff_right named, and_iff_right empty,
    Option.getD_some, clean_details_iff, serializable_inputs_iff constructed,
    serializable_config_iff]
  constructor
  · rintro ⟨clean, advisory, latencyBudget, lossLimit⟩
    refine ⟨?_, ?_, advisory, latencyBudget, lossLimit⟩
    · rintro ⟨key, reached, forbidden⟩
      exact ((harmless_iff key).mp (clean key reached)).2 forbidden
    · intro key reached
      exact ((harmless_iff key).mp (clean key reached)).1
  · rintro ⟨innocent, recordable⟩
    refine ⟨?_, recordable.advisory, recordable.latencyBudget, recordable.lossLimit⟩
    intro key reached
    exact (harmless_iff key).mpr
      ⟨recordable.names key reached, fun forbidden => innocent ⟨key, reached, forbidden⟩⟩

/-- A stateless provider returns a result for a request without secrets exactly when the request
can be recorded: for a constructed request, "it raises only on a forbidden name" holds when it
carries one or can be recorded. -/
theorem evaluates_innocent_iff (ctx : RiskContext) (request : RiskProviderRequest)
    (engineClock clock : Clock) (constructed : Constructed request) :
    (¬ CarriesSecret request → ∃ result, ((RiskProvider.new (some ctx) none).evaluate request
        engineClock clock).outcome = .ok result) ↔
      CarriesSecret request ∨ Recordable ctx request := by
  have returns : (∃ result, ((RiskProvider.new (some ctx) none).evaluate request
      engineClock clock).outcome = .ok result) ↔
        ¬ CarriesSecret request ∧ Recordable ctx request := by
    constructor
    · rintro ⟨result, returned⟩
      obtain ⟨decision, _, concluded⟩ := Fallible.bind_ok_iff.mp returned
      exact (conclude_returns_iff constructed decision clock).mp ⟨result, concluded⟩
    · intro recorded
      obtain ⟨decision, decided⟩ :=
        evaluateStateless_decides request engineClock recorded.2.latencyBudget
      obtain ⟨result, concluded⟩ := (conclude_returns_iff constructed decision clock).mpr recorded
      refine ⟨result, Fallible.bind_ok_iff.mpr ⟨decision, ?_, concluded⟩⟩
      exact (evaluateWithState_stateless ctx request.call engineClock false).trans decided
  rw [returns]
  by_cases secret : CarriesSecret request
  · simp [secret]
  · simp [secret]

end Receipts

section Example

attribute [local instance] FloatFormat.exact ReceiptFormat.plain

/-- What the filter passes carries no secret. -/
theorem innocent_of_passed {request : RiskProviderRequest}
    (passed : rejectSensitive request.advisoryValue = .ok ()) : ¬ CarriesSecret request := by
  rintro ⟨key, reached, forbidden⟩
  have clean := (rejectSensitive_ok_iff _).mp passed
  exact ((harmless_iff key).mp (clean key reached)).2 forbidden

/-- A request with a position and a hint is evaluated under the default policy. -/
theorem hinted_request_evaluated :
    let request := { plainRequest with
      openPositions := [⟨"TICKER", "family", .float 5, .float 5, false⟩]
      advisory := some [(.str "hint", .int 1)] }
    ∃ result, ((RiskProvider.new (some .default) none).evaluate request ⟨0, 0⟩
      ⟨0, 0⟩).outcome = .ok result := by
  intro request
  have constructed : Constructed request := by
    simp only [Constructed, request, List.forall_mem_singleton]
    exact ⟨rfl, rfl⟩
  have small : ∀ n : ℤ, n.natAbs ≤ 500 → n.natAbs < textLimit := by
    intro n few
    refine lt_of_le_of_lt few (lt_of_lt_of_le ?_ floatLimit_le_textLimit)
    unfold PyNum.floatLimit
    decide +kernel
  have innocent : ¬ CarriesSecret request := innocent_of_passed rfl
  have clean := (rejectSensitive_ok_iff request.advisoryValue).mp rfl
  have recordable : Recordable .default request := by
    refine ⟨fun key reached => ((harmless_iff key).mp (clean key reached)).1, ?_,
      small _ (by decide), small _ (by decide)⟩
    exact ⟨.inr (.inr (by decide)), ⟨trivial, small 1 (by decide)⟩, trivial⟩
  exact (evaluates_innocent_iff .default request ⟨0, 0⟩ ⟨0, 0⟩ constructed).mpr
    (.inr recordable) innocent

/-- An advisory with a number and a string among its keys makes the evaluation raise. -/
theorem mixed_keys_raise :
    let request := { plainRequest with
      advisory := some [(.int 1, .str "a"), (.str "b", .int 2)] }
    ¬ (¬ CarriesSecret request → ∃ result, ((RiskProvider.new (some .default) none).evaluate
      request ⟨0, 0⟩ ⟨0, 0⟩).outcome = .ok result) := by
  intro request evaluated
  have innocent : ¬ CarriesSecret request := innocent_of_passed (by decide +kernel)
  obtain ⟨result, returned⟩ := evaluated innocent
  have raises : ((RiskProvider.new (some .default) none).evaluate request ⟨0, 0⟩
      ⟨0, 0⟩).outcome.isOk = false := by
    decide +kernel
  rw [returned] at raises
  contradiction

end Example

end VerdictRisk
