import VerdictRisk.Python.Alike
import VerdictRisk.Snapshot
import VerdictRisk.Verif.ReceiptBinding

/-!
# Receipts of equal inputs

Python compares numbers by value and timestamps by instant, and a receipt digests how they are
written. A request converts its own figures to floats; the positions it holds and the policy keep
the numbers they were built with, so equal inputs have equal digests only where they are also
written alike.
-/

namespace VerdictRisk

open Python

/-- `left == right` -/
def RiskContext.eq (left right : RiskContext) : Bool :=
  left.maxDailyDrawdownPct.val.eq right.maxDailyDrawdownPct.val &&
  left.maxWeeklyDrawdownPct.val.eq right.maxWeeklyDrawdownPct.val &&
  left.maxCorrelatedExposure.val.eq right.maxCorrelatedExposure.val &&
  left.minExpectedValue.val.eq right.minExpectedValue.val &&
  left.latencyBudgetUs == right.latencyBudgetUs &&
  left.consecutiveLossLimit == right.consecutiveLossLimit &&
  left.consecutiveLossWindowMinutes.val.eq right.consecutiveLossWindowMinutes.val

/-- `left == right` -/
def Position.eq (left right : Position) : Bool :=
  left.ticker == right.ticker && left.family == right.family &&
  left.costBasis.eq right.costBasis && left.currentValue.eq right.currentValue &&
  left.isResolved == right.isResolved

/-- `left == right` -/
def TradeOutcome.eq (left right : TradeOutcome) : Bool :=
  left.timestamp.eq right.timestamp && left.pnl.eq right.pnl

/-- Two requests are equal field by field, whatever their advisories. -/
structure RiskProviderRequest.Equal (left right : RiskProviderRequest) : Prop where
  runId : left.runId = right.runId
  dailyRealizedPnl : left.dailyRealizedPnl.val.eq right.dailyRealizedPnl.val = true
  equity : left.equity.val.eq right.equity.val = true
  targetFamily : left.targetFamily = right.targetFamily
  proposedCost : left.proposedCost.val.eq right.proposedCost.val = true
  expectedValue : left.expectedValue.val.eq right.expectedValue.val = true
  openPositions : List.Forall₂ (fun position position' => position.eq position' = true)
    left.openPositions right.openPositions
  tradeOutcomes : List.Forall₂ (fun outcome outcome' => outcome.eq outcome' = true)
    left.tradeOutcomes right.tradeOutcomes
  currentTime : Option.Rel (fun now now' => now.eq now' = true) left.currentTime right.currentTime

/-- Two numbers have one type, and floats one sign. -/
def SameForm : PyNum → PyNum → Prop
  | .int _, .int _ => True
  | .float x, .float y => x.isNegative = y.isNegative
  | _, _ => False

/-- Two timestamps have one wall clock and one offset. -/
def SameClock (left right : DateTime) : Prop :=
  left.wall = right.wall ∧ left.utcoffset = right.utcoffset

/-- The limits of two policies are written alike when they are equal. -/
def SameLimits (left right : RiskContext) : Prop :=
  ∀ pair ∈ [(left.maxDailyDrawdownPct, right.maxDailyDrawdownPct),
    (left.maxWeeklyDrawdownPct, right.maxWeeklyDrawdownPct),
    (left.maxCorrelatedExposure, right.maxCorrelatedExposure),
    (left.minExpectedValue, right.minExpectedValue),
    (left.consecutiveLossWindowMinutes, right.consecutiveLossWindowMinutes)],
    SameForm pair.1.val pair.2.val

/-- What two equal requests hold is written alike. -/
structure SameForms [FloatFormat] (left right : RiskProviderRequest) : Prop where
  figures : ∀ pair ∈ [(left.dailyRealizedPnl, right.dailyRealizedPnl), (left.equity, right.equity),
    (left.proposedCost, right.proposedCost), (left.expectedValue, right.expectedValue)],
    pair.1.val.isNegative = pair.2.val.isNegative
  positions : List.Forall₂ (fun position position' =>
    SameForm position.costBasis position'.costBasis ∧
      SameForm position.currentValue position'.currentValue) left.openPositions right.openPositions
  outcomes : List.Forall₂ (fun outcome outcome' =>
    SameClock outcome.timestamp outcome'.timestamp ∧
      outcome.pnl.isNegative = outcome'.pnl.isNegative) left.tradeOutcomes right.tradeOutcomes
  currentTime : Option.Rel SameClock left.currentTime right.currentTime
  advisory : Alike left.advisoryValue right.advisoryValue

/-- Equal floats of one sign are the same. -/
theorem float_eq_iff_sign {x y : PyFloat} (equal : x.eq y = true) :
    x = y ↔ x.isNegative = y.isNegative := by
  constructor
  · intro same
    rw [same]
  · intro sign
    cases x with
    | nan => contradiction
    | posInf => cases y <;> first | rfl | contradiction
    | negInf => cases y <;> first | rfl | contradiction
    | negZero =>
      cases y with
      | negZero => rfl
      | finite q' =>
        have zero : (0 : ℚ) = q' := of_decide_eq_true equal
        rw [← zero] at sign
        contradiction
      | _ => contradiction
    | finite q =>
      cases y with
      | negZero =>
        have zero : q = 0 := of_decide_eq_true equal
        rw [zero] at sign
        contradiction
      | finite q' => exact congrArg PyFloat.finite (of_decide_eq_true equal)
      | _ => contradiction

/-- Equal numbers of one form are the same. -/
theorem num_eq_iff_form {x y : PyNum} (equal : x.eq y = true) : x = y ↔ SameForm x y := by
  cases x with
  | int n =>
    cases y with
    | int n' =>
      have values : (n : ℚ) = n' := of_decide_eq_true equal
      exact iff_of_true (congrArg PyNum.int (Int.cast_injective values)) trivial
    | float x' => exact iff_of_false (by simp) id
  | float x =>
    cases y with
    | int n' => exact iff_of_false (by simp) id
    | float x' =>
      rw [PyNum.float.injEq]
      exact float_eq_iff_sign equal

/-- A timestamp's text depends on its wall clock and its offset alone. -/
def ClockTimestamps [ReceiptFormat] : Prop :=
  ∀ dt dt' : DateTime, SameClock dt dt' → ReceiptFormat.isoformat dt = ReceiptFormat.isoformat dt'

/-- Equal policies are the same when their limits are of one form. -/
theorem context_eq_iff_form {left right : RiskContext} (equal : left.eq right = true) :
    left = right ↔ SameLimits left right := by
  simp only [RiskContext.eq, Bool.and_eq_true, beq_iff_eq] at equal
  obtain ⟨⟨⟨⟨⟨⟨daily, weekly⟩, exposure⟩, expected⟩, budget⟩, limit⟩, window⟩ := equal
  simp only [SameLimits, List.forall_mem_cons, ← num_eq_iff_form daily, ← num_eq_iff_form weekly,
    ← num_eq_iff_form exposure, ← num_eq_iff_form expected, ← num_eq_iff_form window]
  cases left
  cases right
  simp only [RiskContext.mk.injEq, Subtype.ext_iff] at budget limit ⊢
  simp [budget, limit]

/-- Equal positions are the same when their numbers are of one form. -/
theorem position_eq_iff_form {left right : Position} (equal : left.eq right = true) :
    left = right ↔ SameForm left.costBasis right.costBasis ∧
      SameForm left.currentValue right.currentValue := by
  simp only [Position.eq, Bool.and_eq_true, beq_iff_eq] at equal
  obtain ⟨⟨⟨⟨ticker, family⟩, cost⟩, current⟩, resolved⟩ := equal
  rw [← num_eq_iff_form cost, ← num_eq_iff_form current]
  cases left
  cases right
  simp only [Position.mk.injEq] at ticker family resolved ⊢
  simp [ticker, family, resolved]

section Receipts

variable [FloatFormat] [ReceiptFormat]

/-- Equal requests whose inputs have one document hold what is written alike. -/
theorem forms_of_sameDocument (timestamps : FaithfulTimestamps)
    {left right : RiskProviderRequest} (equal : left.Equal right)
    (same : SameDocument left.inputs right.inputs) : SameForms left right := by
  obtain ⟨pnl, equity, _, cost, expected, positions, outcomes, time, advisory⟩ :=
    inputs_fields same
  have figure : ∀ {x y : FiniteFloat}, x.val.eq y.val = true →
      SameDocument (.ofNum (.float x.val)) (.ofNum (.float y.val)) →
        x.val.isNegative = y.val.isNegative := by
    intro x y equal alike
    exact (float_eq_iff_sign equal).mp (PyNum.float.inj (sameDocument_ofNum alike))
  constructor
  · simp only [List.forall_mem_cons]
    exact ⟨figure equal.dailyRealizedPnl pnl, figure equal.equity equity,
      figure equal.proposedCost cost, figure equal.expectedValue expected, by simp⟩
  · apply (MemberWise.forall₂_and.mpr ⟨equal.openPositions, positions⟩).imp
    rintro position position' ⟨equal, alike⟩
    exact (position_eq_iff_form equal).mp (Position.entry_inj alike)
  · apply outcomes.imp
    intro outcome outcome' alike
    obtain ⟨text, pnl⟩ := TradeOutcome.entry_inj alike
    exact ⟨timestamps _ _ text, by rw [pnl]⟩
  · have texts := currentTime_inj time
    cases now : left.currentTime with
    | none =>
      rw [now, Option.map_none, eq_comm, Option.map_eq_none_iff] at texts
      rw [texts]
      exact .none
    | some dt =>
      rw [now, Option.map_some, eq_comm, Option.map_eq_some_iff] at texts
      obtain ⟨dt', now', text⟩ := texts
      rw [now']
      exact .some (timestamps dt dt' text.symm)
  · exact (sameDocument_iff_alike _ _).mp advisory

/-- Equal requests that hold what is written alike have inputs with one document. -/
theorem document_of_forms (clocks : ClockTimestamps) {left right : RiskProviderRequest}
    (equal : left.Equal right) (forms : SameForms left right) :
    document left.inputs = document right.inputs := by
  have figures := forms.figures
  simp only [List.forall_mem_cons, ← float_eq_iff_sign equal.dailyRealizedPnl,
    ← float_eq_iff_sign equal.equity, ← float_eq_iff_sign equal.proposedCost,
    ← float_eq_iff_sign equal.expectedValue] at figures
  obtain ⟨pnl, equity, cost, expected, _⟩ := figures
  have positions : left.openPositions = right.openPositions := by
    rw [← List.forall₂_eq_eq_eq]
    apply (MemberWise.forall₂_and.mpr ⟨equal.openPositions, forms.positions⟩).imp
    rintro position position' ⟨equal, form⟩
    exact (position_eq_iff_form equal).mpr form
  have outcomes : left.tradeOutcomes.map TradeOutcome.entry =
      right.tradeOutcomes.map TradeOutcome.entry := by
    rw [← List.forall₂_eq_eq_eq, List.forall₂_map_left_iff, List.forall₂_map_right_iff]
    apply (MemberWise.forall₂_and.mpr ⟨equal.tradeOutcomes, forms.outcomes⟩).imp
    rintro outcome outcome' ⟨equal, clock, sign⟩
    have profits : outcome.pnl = outcome'.pnl :=
      (float_eq_iff_sign (Bool.and_eq_true_iff.mp equal).2).mpr sign
    rw [TradeOutcome.entry, TradeOutcome.entry, clocks _ _ clock, profits]
  have time : left.currentTimeValue = right.currentTimeValue := by
    have clock := forms.currentTime
    unfold RiskProviderRequest.currentTimeValue
    generalize left.currentTime = now, right.currentTime = now' at clock
    cases clock with
    | none => rfl
    | some same => exact congrArg PyValue.str (clocks _ _ same)
  obtain ⟨doc, advisory, advisory'⟩ := (sameDocument_iff_alike _ _).mpr forms.advisory
  apply document_record_congr (inputPairs left right)
  simp only [inputPairs, List.forall_mem_cons, pnl, equity, cost, expected, equal.targetFamily,
    positions, outcomes, time, advisory, advisory']
  simp

/-- The digests of values with one document are the same. -/
theorem hash_congr {left right : PyValue} (same : document left = document right) :
    hash left = hash right := by
  rw [hash, hash, dumps_eq, dumps_eq, same]

/-- Receipts of equal requests under equal policies have equal digests exactly when the policies'
limits, and what the requests hold, are written alike. -/
theorem equal_receipts_iff (faithful : FaithfulRepr)
    (digests : Function.Injective ReceiptFormat.sha256) (timestamps : FaithfulTimestamps)
    (clocks : ClockTimestamps) {provider provider' : RiskProvider}
    {request request' : RiskProviderRequest} {engineClock clock engineClock' clock' : Clock}
    {result result' : RiskProviderResult} (policies : provider.ctx.eq provider'.ctx = true)
    (requests : request.Equal request')
    (returned : (provider.evaluate request engineClock clock).outcome = .ok result)
    (returned' : (provider'.evaluate request' engineClock' clock').outcome = .ok result') :
    (result.receipt.inputsHash = result'.receipt.inputsHash ∧
        result.receipt.configHash = result'.receipt.configHash) ↔
      SameForms request request' ∧ SameLimits provider.ctx provider'.ctx := by
  obtain ⟨inputsHashed, configHashed⟩ := evaluate_digests returned
  obtain ⟨inputsHashed', configHashed'⟩ := evaluate_digests returned'
  constructor
  · rintro ⟨inputs, config⟩
    rw [← inputs] at inputsHashed'
    rw [← config] at configHashed'
    have sameInputs := sameDocument_of_hash faithful digests inputsHashed inputsHashed'
    have sameConfig := sameDocument_of_hash faithful digests configHashed configHashed'
    exact ⟨forms_of_sameDocument timestamps requests sameInputs,
      (context_eq_iff_form policies).mp (config_inj sameConfig)⟩
  · rintro ⟨forms, limits⟩
    rw [hash_congr (document_of_forms clocks requests forms), inputsHashed',
      Except.ok.injEq] at inputsHashed
    rw [(context_eq_iff_form policies).mpr limits, configHashed', Except.ok.injEq] at configHashed
    exact ⟨inputsHashed.symm, configHashed.symm⟩

end Receipts

section Example

attribute [local instance] FloatFormat.fractional ReceiptFormat.tabulated

/-- Counted timestamps depend on wall clock and offset alone. -/
theorem countedTimestamp_clock : ClockTimestamps := by
  rintro dt dt' ⟨wall, offset⟩
  change countedTimestamp dt = countedTimestamp dt'
  rw [countedTimestamp, countedTimestamp, wall, offset]

/-- A request equals itself. -/
theorem plainRequest_equal : plainRequest.Equal plainRequest where
  runId := rfl
  dailyRealizedPnl := by decide +kernel
  equity := by decide +kernel
  targetFamily := rfl
  proposedCost := by decide +kernel
  expectedValue := by decide +kernel
  openPositions := .nil
  tradeOutcomes := .nil
  currentTime := .none

/-- A policy of whole floats has the digests of the one recovered from its JSON. -/
theorem recovered_floats_bound : ∃ recovered result result',
    (RiskContext.slot .counting).read ((RiskContext.slot .counting).write wholeLimits) =
      some recovered ∧
    ((RiskProvider.new (some wholeLimits) none).evaluate plainRequest ⟨0, 0⟩ ⟨0, 0⟩).outcome =
      .ok result ∧
    ((RiskProvider.new (some recovered) none).evaluate plainRequest ⟨0, 0⟩ ⟨0, 0⟩).outcome =
      .ok result' ∧
    result.receipt.inputsHash = result'.receipt.inputsHash ∧
    result.receipt.configHash = result'.receipt.configHash := by
  have restored : (RiskContext.slot .counting).read ((RiskContext.slot .counting).write
      wholeLimits) = some wholeLimits := by
    decide +kernel
  have decided : ((RiskProvider.new (some wholeLimits) none).evaluate plainRequest ⟨0, 0⟩
      ⟨0, 0⟩).outcome.map RiskProviderResult.approved = .ok true := by
    decide +kernel
  obtain ⟨result, returned, _⟩ := Fallible.map_ok_iff.mp decided
  have forms : SameForms plainRequest plainRequest := by
    constructor
    · simp
    · exact .nil
    · exact .nil
    · exact .none
    · exact @Alike.scalar _ _ _ .null rfl rfl
  have limits : SameLimits wholeLimits wholeLimits := by
    simp [SameLimits, SameForm, wholeLimits, RiskContext.default]
  have bound := equal_receipts_iff fractional_faithful tabulatedDigest_injective
    countedTimestamp_faithful countedTimestamp_clock (by decide +kernel) plainRequest_equal
    returned returned
  exact ⟨wholeLimits, result, result, restored, returned, returned, bound.mpr ⟨forms, limits⟩⟩

/-- A policy with an integer limit equals the one recovered from its JSON, but the two have
different digests. -/
theorem recovered_integer_moves :
    let ctx := { wholeLimits with maxCorrelatedExposure := ⟨.int 2500, by decide +kernel⟩ }
    ∃ recovered result result',
      (RiskContext.slot .counting).read ((RiskContext.slot .counting).write ctx) =
        some recovered ∧
      ctx.eq recovered = true ∧ plainRequest.Equal plainRequest ∧
      ((RiskProvider.new (some ctx) none).evaluate plainRequest ⟨0, 0⟩ ⟨0, 0⟩).outcome =
        .ok result ∧
      ((RiskProvider.new (some recovered) none).evaluate plainRequest ⟨0, 0⟩ ⟨0, 0⟩).outcome =
        .ok result' ∧
      result.receipt.configHash ≠ result'.receipt.configHash := by
  intro ctx
  have restored : (RiskContext.slot .counting).read ((RiskContext.slot .counting).write ctx) =
      some wholeLimits := by
    decide +kernel
  have moved : ((RiskProvider.new (some ctx) none).evaluate plainRequest ⟨0, 0⟩
      ⟨0, 0⟩).outcome.map (fun result => result.receipt.configHash) ≠
        ((RiskProvider.new (some wholeLimits) none).evaluate plainRequest ⟨0, 0⟩
          ⟨0, 0⟩).outcome.map (fun result => result.receipt.configHash) := by
    decide +kernel
  have decided : ((RiskProvider.new (some ctx) none).evaluate plainRequest ⟨0, 0⟩
      ⟨0, 0⟩).outcome.map RiskProviderResult.approved = .ok true := by
    decide +kernel
  have decided' : ((RiskProvider.new (some wholeLimits) none).evaluate plainRequest ⟨0, 0⟩
      ⟨0, 0⟩).outcome.map RiskProviderResult.approved = .ok true := by
    decide +kernel
  obtain ⟨result, returned, _⟩ := Fallible.map_ok_iff.mp decided
  obtain ⟨result', returned', _⟩ := Fallible.map_ok_iff.mp decided'
  rw [returned, returned'] at moved
  refine ⟨wholeLimits, result, result', restored, by decide +kernel, plainRequest_equal, returned,
    returned', ?_⟩
  exact fun same => moved (congrArg Except.ok same)

end Example

end VerdictRisk
