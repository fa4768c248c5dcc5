import VerdictRisk.Library.MemberWise
import VerdictRisk.Python.Documents
import VerdictRisk.Verif.Report

/-!
# What a receipt binds

The digests of a receipt are taken of serialized inputs and of a serialized configuration. Where
digests, floats and timestamps are told apart by their texts, two receipts with equal digests were
issued for one policy and for requests that every stateless gate reads alike.
-/

namespace VerdictRisk

open Python

/-- The timestamps that a request holds. -/
def RiskProviderRequest.timestamps (request : RiskProviderRequest) : List DateTime :=
  request.tradeOutcomes.map TradeOutcome.timestamp ++ request.currentTime.toList

/-- Two requests agree on every field that a stateless gate reads. -/
structure RiskProviderRequest.Agrees (left right : RiskProviderRequest) : Prop where
  dailyRealizedPnl : left.dailyRealizedPnl = right.dailyRealizedPnl
  equity : left.equity = right.equity
  targetFamily : left.targetFamily = right.targetFamily
  proposedCost : left.proposedCost = right.proposedCost
  expectedValue : left.expectedValue = right.expectedValue
  openPositions : left.openPositions = right.openPositions
  tradeOutcomes : left.tradeOutcomes = right.tradeOutcomes
  currentTime : left.currentTime = right.currentTime

/-- A timestamp's text tells its wall clock and its offset. -/
def FaithfulTimestamps [ReceiptFormat] : Prop :=
  ∀ dt dt' : DateTime, ReceiptFormat.isoformat dt = ReceiptFormat.isoformat dt' →
    dt.wall = dt'.wall ∧ dt.utcoffset = dt'.utcoffset

/-- Among the timestamps of two requests, wall clock and offset identify one. -/
def Identified (left right : RiskProviderRequest) : Prop :=
  ∀ dt ∈ left.timestamps, ∀ dt' ∈ right.timestamps,
    dt.wall = dt'.wall → dt.utcoffset = dt'.utcoffset → dt = dt'

/-- The inputs of two requests, field by field. -/
def inputPairs [ReceiptFormat] (left right : RiskProviderRequest) :
    List (String × PyValue × PyValue) :=
  [
    ("daily_realized_pnl", .ofNum (.float left.dailyRealizedPnl.val),
      .ofNum (.float right.dailyRealizedPnl.val)),
    ("equity", .ofNum (.float left.equity.val), .ofNum (.float right.equity.val)),
    ("target_family", .str left.targetFamily, .str right.targetFamily),
    ("proposed_cost", .ofNum (.float left.proposedCost.val),
      .ofNum (.float right.proposedCost.val)),
    ("expected_value", .ofNum (.float left.expectedValue.val),
      .ofNum (.float right.expectedValue.val)),
    ("open_positions", .list (left.openPositions.map Position.entry),
      .list (right.openPositions.map Position.entry)),
    ("trade_outcomes", .list (left.tradeOutcomes.map TradeOutcome.entry),
      .list (right.tradeOutcomes.map TradeOutcome.entry)),
    ("current_time", left.currentTimeValue, right.currentTimeValue),
    ("advisory", left.advisoryValue, right.advisoryValue)]

section Digests

variable [FloatFormat] [ReceiptFormat]

/-- The receipt of an evaluation digests its request and its policy. -/
theorem evaluate_digests {provider : RiskProvider} {request : RiskProviderRequest}
    {engineClock clock : Clock} {result : RiskProviderResult}
    (returned : (provider.evaluate request engineClock clock).outcome = .ok result) :
    hash request.inputs = .ok result.receipt.inputsHash ∧
      hash provider.ctx.config = .ok result.receipt.configHash := by
  obtain ⟨decision, _, concluded⟩ := RiskProvider.evaluate_ok returned
  have built := buildRiskReceipt_ok concluded.receipt
  exact ⟨built.inputsHash, built.configHash⟩

/-- Values with one digest have one document. -/
theorem sameDocument_of_hash (faithful : FaithfulRepr)
    (digests : Function.Injective ReceiptFormat.sha256) {left right : PyValue} {digest : String}
    (hashed : hash left = .ok digest) (hashed' : hash right = .ok digest) :
    SameDocument left right := by
  obtain ⟨text, written, hashed⟩ := ok_of_bind hashed
  obtain ⟨text', written', hashed'⟩ := ok_of_bind hashed'
  have same : "sha256:" ++ ReceiptFormat.sha256 text = "sha256:" ++ ReceiptFormat.sha256 text' :=
    (Except.ok.inj hashed).trans (Except.ok.inj hashed').symm
  have texts : text = text' := digests ((String.append_right_inj _).mp same)
  rw [← texts] at written'
  exact sameDocument_of_dumps faithful written written'

omit [ReceiptFormat] in
/-- A policy is determined by the document of its configuration. -/
theorem config_inj {ctx ctx' : RiskContext} (same : SameDocument ctx.config ctx'.config) :
    ctx = ctx' := by
  have fields := sameDocument_record [
    ("max_daily_drawdown_pct", .ofNum ctx.maxDailyDrawdownPct.val,
      .ofNum ctx'.maxDailyDrawdownPct.val),
    ("max_weekly_drawdown_pct", .ofNum ctx.maxWeeklyDrawdownPct.val,
      .ofNum ctx'.maxWeeklyDrawdownPct.val),
    ("max_correlated_exposure", .ofNum ctx.maxCorrelatedExposure.val,
      .ofNum ctx'.maxCorrelatedExposure.val),
    ("min_expected_value", .ofNum ctx.minExpectedValue.val, .ofNum ctx'.minExpectedValue.val),
    ("latency_budget_us", .ofNum (.int ctx.latencyBudgetUs), .ofNum (.int ctx'.latencyBudgetUs)),
    ("consecutive_loss_limit", .ofNum (.int ctx.consecutiveLossLimit),
      .ofNum (.int ctx'.consecutiveLossLimit)),
    ("consecutive_loss_window_minutes", .ofNum ctx.consecutiveLossWindowMinutes.val,
      .ofNum ctx'.consecutiveLossWindowMinutes.val),
    ("state_schema_version", .int riskStateSchemaVersion, .int riskStateSchemaVersion)] same
  simp only [List.forall_mem_cons] at fields
  obtain ⟨daily, weekly, exposure, expected, budget, limit, window, _⟩ := fields
  cases ctx
  cases ctx'
  simp only [RiskContext.mk.injEq]
  exact ⟨Subtype.ext (sameDocument_ofNum daily), Subtype.ext (sameDocument_ofNum weekly),
    Subtype.ext (sameDocument_ofNum exposure), Subtype.ext (sameDocument_ofNum expected),
    PyNum.int.inj (sameDocument_ofNum budget), PyNum.int.inj (sameDocument_ofNum limit),
    Subtype.ext (sameDocument_ofNum window)⟩

omit [ReceiptFormat] in
/-- A position is determined by its document. -/
theorem Position.entry_inj {left right : Position} (same : SameDocument left.entry right.entry) :
    left = right := by
  have fields := sameDocument_record [
    ("ticker", .str left.ticker, .str right.ticker),
    ("family", .str left.family, .str right.family),
    ("cost_basis", .ofNum left.costBasis, .ofNum right.costBasis),
    ("current_value", .ofNum left.currentValue, .ofNum right.currentValue),
    ("is_resolved", .bool left.isResolved, .bool right.isResolved)] same
  simp only [List.forall_mem_cons] at fields
  obtain ⟨ticker, family, cost, current, resolved, _⟩ := fields
  cases left
  cases right
  rw [Position.mk.injEq]
  exact ⟨sameDocument_str ticker, sameDocument_str family, sameDocument_ofNum cost,
    sameDocument_ofNum current, sameDocument_bool resolved⟩

/-- An outcome's document determines its profit and the text of its timestamp. -/
theorem TradeOutcome.entry_inj {left right : TradeOutcome}
    (same : SameDocument left.entry right.entry) :
    ReceiptFormat.isoformat left.timestamp = ReceiptFormat.isoformat right.timestamp ∧
      left.pnl = right.pnl := by
  have fields := sameDocument_record [
    ("timestamp", .str (ReceiptFormat.isoformat left.timestamp),
      .str (ReceiptFormat.isoformat right.timestamp)),
    ("pnl", .ofNum (.float left.pnl), .ofNum (.float right.pnl))] same
  simp only [List.forall_mem_cons] at fields
  obtain ⟨timestamp, pnl, _⟩ := fields
  exact ⟨sameDocument_str timestamp, PyNum.float.inj (sameDocument_ofNum pnl)⟩

/-- The document of the inputs has the documents of their parts. -/
theorem inputs_fields {left right : RiskProviderRequest}
    (same : SameDocument left.inputs right.inputs) :
    SameDocument (.ofNum (.float left.dailyRealizedPnl.val))
        (.ofNum (.float right.dailyRealizedPnl.val)) ∧
      SameDocument (.ofNum (.float left.equity.val)) (.ofNum (.float right.equity.val)) ∧
      SameDocument (.str left.targetFamily) (.str right.targetFamily) ∧
      SameDocument (.ofNum (.float left.proposedCost.val))
        (.ofNum (.float right.proposedCost.val)) ∧
      SameDocument (.ofNum (.float left.expectedValue.val))
        (.ofNum (.float right.expectedValue.val)) ∧
      List.Forall₂ (fun position position' => SameDocument position.entry position'.entry)
        left.openPositions right.openPositions ∧
      List.Forall₂ (fun outcome outcome' => SameDocument outcome.entry outcome'.entry)
        left.tradeOutcomes right.tradeOutcomes ∧
      SameDocument left.currentTimeValue right.currentTimeValue ∧
      SameDocument left.advisoryValue right.advisoryValue := by
  have fields := sameDocument_record (inputPairs left right) same
  simp only [inputPairs, List.forall_mem_cons] at fields
  obtain ⟨pnl, equity, family, cost, expected, positions, outcomes, time, advisory, _⟩ := fields
  have positions := sameDocument_list positions
  have outcomes := sameDocument_list outcomes
  rw [List.forall₂_map_left_iff, List.forall₂_map_right_iff] at positions outcomes
  exact ⟨pnl, equity, family, cost, expected, positions, outcomes, time, advisory⟩

/-- The current times of two requests have one document when both or neither is given, with one
text. -/
theorem currentTime_inj {left right : RiskProviderRequest}
    (same : SameDocument left.currentTimeValue right.currentTimeValue) :
    left.currentTime.map ReceiptFormat.isoformat =
      right.currentTime.map ReceiptFormat.isoformat := by
  unfold RiskProviderRequest.currentTimeValue at same
  cases now : left.currentTime with
  | none =>
    cases now' : right.currentTime with
    | none => rfl
    | some dt' =>
      rw [now, now'] at same
      obtain ⟨doc, written, written'⟩ := same
      cases written
      cases written'
  | some dt =>
    cases now' : right.currentTime with
    | none =>
      rw [now, now'] at same
      obtain ⟨doc, written, written'⟩ := same
      cases written
      cases written'
    | some dt' =>
      rw [now, now'] at same
      rw [Option.map_some, Option.map_some, sameDocument_str same]

/-- Requests whose inputs have one document agree, where their timestamps are identified. -/
theorem inputs_inj (timestamps : FaithfulTimestamps) {request request' : RiskProviderRequest}
    (identified : Identified request request')
    (same : SameDocument request.inputs request'.inputs) : request.Agrees request' := by
  have known : ∀ dt ∈ request.timestamps, ∀ dt' ∈ request'.timestamps,
      ReceiptFormat.isoformat dt = ReceiptFormat.isoformat dt' → dt = dt' := by
    intro dt member dt' member' text
    obtain ⟨wall, offset⟩ := timestamps dt dt' text
    exact identified dt member dt' member' wall offset
  obtain ⟨pnl, equity, family, cost, expected, positions, outcomes, time, _⟩ := inputs_fields same
  have figure : ∀ {x y : FiniteFloat},
      SameDocument (.ofNum (.float x.val)) (.ofNum (.float y.val)) → x = y :=
    fun alike => Subtype.ext (PyNum.float.inj (sameDocument_ofNum alike))
  constructor
  · exact figure pnl
  · exact figure equity
  · exact sameDocument_str family
  · exact figure cost
  · exact figure expected
  · exact MemberWise.eq_of_forall₂ positions fun left _ right _ => Position.entry_inj
  · apply MemberWise.eq_of_forall₂ outcomes
    intro left member right member' alike
    obtain ⟨text, pnl⟩ := TradeOutcome.entry_inj alike
    have stamp := known left.timestamp
      (List.mem_append_left _ (List.mem_map_of_mem member)) right.timestamp
      (List.mem_append_left _ (List.mem_map_of_mem member')) text
    cases left
    cases right
    rw [TradeOutcome.mk.injEq]
    exact ⟨stamp, pnl⟩
  · have texts := currentTime_inj time
    cases now : request.currentTime with
    | none =>
      rw [now, Option.map_none, eq_comm, Option.map_eq_none_iff] at texts
      exact texts.symm
    | some dt =>
      rw [now, Option.map_some, eq_comm, Option.map_eq_some_iff] at texts
      obtain ⟨dt', now', text⟩ := texts
      have member : dt ∈ request.timestamps := by simp [RiskProviderRequest.timestamps, now]
      have member' : dt' ∈ request'.timestamps := by simp [RiskProviderRequest.timestamps, now']
      rw [now', known dt member dt' member' text.symm]

omit [ReceiptFormat] in
/-- Requests that agree have one report. -/
theorem gateReport_congr {request request' : RiskProviderRequest} (agrees : request.Agrees request')
    (ctx : RiskContext) : gateReport ctx request = gateReport ctx request' := by
  unfold gateReport runStatelessGate
  rw [agrees.dailyRealizedPnl, agrees.equity, agrees.targetFamily, agrees.proposedCost,
    agrees.expectedValue, agrees.openPositions, agrees.tradeOutcomes, agrees.currentTime]

/-- Receipts with equal digests were issued for one policy and for requests that agree on every
field a stateless gate reads, with one report. -/
theorem receipts_bind (faithful : FaithfulRepr) (timestamps : FaithfulTimestamps)
    (digests : Function.Injective ReceiptFormat.sha256)
    {provider provider' : RiskProvider} {request request' : RiskProviderRequest}
    {engineClock clock engineClock' clock' : Clock} {result result' : RiskProviderResult}
    (identified : Identified request request')
    (returned : (provider.evaluate request engineClock clock).outcome = .ok result)
    (returned' : (provider'.evaluate request' engineClock' clock').outcome = .ok result')
    (inputs : result.receipt.inputsHash = result'.receipt.inputsHash)
    (config : result.receipt.configHash = result'.receipt.configHash) :
    request.Agrees request' ∧ provider.ctx = provider'.ctx ∧
      result.gateOutcomes = result'.gateOutcomes := by
  obtain ⟨inputsHashed, configHashed⟩ := evaluate_digests returned
  obtain ⟨inputsHashed', configHashed'⟩ := evaluate_digests returned'
  rw [← inputs] at inputsHashed'
  rw [← config] at configHashed'
  have agrees : request.Agrees request' := inputs_inj timestamps identified
    (sameDocument_of_hash faithful digests inputsHashed inputsHashed')
  have policies : provider.ctx = provider'.ctx :=
    config_inj (sameDocument_of_hash faithful digests configHashed configHashed')
  obtain ⟨_, _, concluded⟩ := RiskProvider.evaluate_ok returned
  obtain ⟨_, _, concluded'⟩ := RiskProvider.evaluate_ok returned'
  have reported := concluded.reported
  rw [gateReport_congr agrees, policies, concluded'.reported] at reported
  exact ⟨agrees, policies, (Except.ok.inj reported).symm⟩

end Digests

section Example

attribute [local instance] FloatFormat.fractional

/-- A policy of whole numbers. -/
def wholeLimits : RiskContext :=
  { RiskContext.default with
    maxDailyDrawdownPct := ⟨.float 1, rfl⟩
    maxWeeklyDrawdownPct := ⟨.float 1, rfl⟩ }

/-- The SHA-256 digests of two payloads, and answers unlike them for others. -/
def tabulatedDigest (payload : String) : String :=
  if .ok payload = dumps (@RiskProviderRequest.inputs .plain plainRequest) then
    "b4e1d9efa5b4899c0df3af725aedda1b69adf24d8dfec908f317ad40b1d89147"
  else if .ok payload = dumps wholeLimits.config then
    "410fba654e09c48c10b40017a2212781856f993b2983e4acd63e2b5e52421a7d"
  else "untabulated: " ++ payload

/-- Timestamps as a wall clock in microseconds and an offset. -/
def countedTimestamp (dt : DateTime) : String :=
  toString dt.wall ++ "." ++ (dt.utcoffset.map toString).getD ""

/-- Digests from a table, and counted timestamps. -/
@[reducible] def ReceiptFormat.tabulated : ReceiptFormat := ⟨tabulatedDigest, countedTimestamp⟩

/-- No two payloads have one digest. -/
theorem tabulatedDigest_injective : Function.Injective tabulatedDigest := by
  have other : ∀ (digest payload : String), digest.toList.head? ≠ some 'u' →
      digest ≠ "untabulated: " ++ payload := by
    intro digest payload head same
    simp [same] at head
  intro payload payload' same
  unfold tabulatedDigest at same
  split at same
  · rename_i inputs
    split at same
    · rename_i inputs'
      exact Except.ok.inj (inputs.trans inputs'.symm)
    · split at same
      · exact absurd same (by decide)
      · exact absurd same (other _ _ (by decide))
  · split at same
    · rename_i config
      split at same
      · exact absurd same (by decide)
      · split at same
        · rename_i config'
          exact Except.ok.inj (config.trans config'.symm)
        · exact absurd same (other _ _ (by decide))
    · split at same
      · exact absurd same.symm (other _ _ (by decide))
      · split at same
        · exact absurd same.symm (other _ _ (by decide))
        · exact (String.append_right_inj _).mp same

/-- Counted timestamps tell wall clocks and offsets apart. -/
theorem countedTimestamp_faithful : @FaithfulTimestamps .tabulated := by
  have parts : ∀ dt : DateTime, (countedTimestamp dt).toList =
      (toString dt.wall).toList ++ '.' :: ((dt.utcoffset.map toString).getD "").toList := by
    intro dt
    simp [countedTimestamp]
  intro dt dt' same
  have texts : (countedTimestamp dt).toList = (countedTimestamp dt').toList :=
    String.toList_inj.mpr same
  rw [parts, parts] at texts
  obtain ⟨walls, offsets⟩ := separated_inj (intDigits_free dt.wall) (intDigits_free dt'.wall)
    (by simp) (by simp) texts
  refine ⟨intText_inj (String.toList_inj.mp walls), ?_⟩
  rw [String.toList_inj] at offsets
  cases offset : dt.utcoffset with
  | none =>
    cases offset' : dt'.utcoffset with
    | none => rfl
    | some ahead' =>
      rw [offset, offset'] at offsets
      exact absurd offsets.symm (intText_ne_empty ahead')
  | some ahead =>
    cases offset' : dt'.utcoffset with
    | none =>
      rw [offset, offset'] at offsets
      exact absurd offsets (intText_ne_empty ahead)
    | some ahead' =>
      rw [offset, offset'] at offsets
      exact congrArg some (intText_inj offsets)

attribute [local instance] ReceiptFormat.tabulated

/-- A halted desk and a desk in order report alike on one request under two names. -/
theorem renamed_request_bound :
    let renamed := { plainRequest with runId := "run-2", runIdGiven := by decide }
    let desk := RiskProvider.new (some wholeLimits) none
    let halted := RiskProvider.new (some wholeLimits) (some
      (.new (some ((KillSwitch.new "ERR_KILL_SWITCH_MANUAL").trip none)) none none false))
    ∃ result result' : RiskProviderResult,
      (desk.evaluate plainRequest ⟨0, 0⟩ ⟨0, 0⟩).outcome = .ok result ∧
      (halted.evaluate renamed ⟨0, 0⟩ ⟨0, 0⟩).outcome = .ok result' ∧
      result.approved = true ∧ result'.approved = false ∧
      result.gateOutcomes = result'.gateOutcomes := by
  intro renamed desk halted
  have digests : (desk.evaluate plainRequest ⟨0, 0⟩ ⟨0, 0⟩).outcome.map (fun result =>
      (result.receipt.inputsHash, result.receipt.configHash)) =
        (halted.evaluate renamed ⟨0, 0⟩ ⟨0, 0⟩).outcome.map (fun result =>
          (result.receipt.inputsHash, result.receipt.configHash)) := by
    decide +kernel
  have decided : (desk.evaluate plainRequest ⟨0, 0⟩ ⟨0, 0⟩).outcome.map
      RiskProviderResult.approved = .ok true := by
    decide +kernel
  have halts : (halted.evaluate renamed ⟨0, 0⟩ ⟨0, 0⟩).outcome.map
      RiskProviderResult.approved = .ok false := by
    decide +kernel
  obtain ⟨result, returned, approved⟩ := Fallible.map_ok_iff.mp decided
  obtain ⟨result', returned', rejected⟩ := Fallible.map_ok_iff.mp halts
  rw [returned, returned'] at digests
  obtain ⟨inputs, config⟩ := Prod.mk.inj (Except.ok.inj digests)
  have identified : Identified plainRequest renamed := by
    intro dt member
    contradiction
  have bound := receipts_bind fractional_faithful countedTimestamp_faithful
    tabulatedDigest_injective identified returned returned' inputs config
  exact ⟨result, result', returned, returned', approved, rejected, bound.2.2⟩

end Example

end VerdictRisk
