import VerdictRisk.Verif.LossOrder
import VerdictRisk.Verif.LossRuns
import VerdictRisk.Python.Rounding

/-!
# The loss rules

Three gates watch for losses in a row: one is handed the outcomes with each trade, sorts them and
scans them within a window of time; one holds the flags of the last trades; and one counts and
latches. Over one history they answer alike: the first rejects what the second rejects and the
window spans, and the third is tripped once the second has rejected.
-/

namespace VerdictRisk

open Python Streaks

namespace ConsecutiveLossGate

/-- The gate after a sequence of `record` calls. -/
def recordAll (gate : ConsecutiveLossGate) (trades : List ResolvedTrade) : ConsecutiveLossGate :=
  trades.foldl (fun gate trade => gate.record (.float trade.pnl)) gate

/-- The same calls as a run of operations. -/
def records (trades : List ResolvedTrade) : List LossGateOp :=
  trades.map fun trade => .record trade.pnl

/-- A run of records is the record of all its trades. -/
theorem run_records (gate : ConsecutiveLossGate) (trades : List ResolvedTrade) :
    gate.run (records trades) = .ok (gate.recordAll trades) := by
  induction trades generalizing gate with
  | nil => rfl
  | cons trade rest ih => exact ih (gate.record (.float trade.pnl))

/-- Records flag the losses among the finite trades. -/
theorem flags_records (trades : List ResolvedTrade) :
    LossGateOp.flags (records trades) =
      (ResolvedTrade.finite trades).map ResolvedTrade.isLoss := by
  induction trades using List.reverseRecOn with
  | nil => rfl
  | append_singleton trades trade ih =>
    have last : records (trades ++ [trade]) = records trades ++ [.record trade.pnl] :=
      List.map_append
    rw [last, LossGateOp.flags_snoc _ (by rfl), ih, ResolvedTrade.finite_snoc, LossGateOp.flag]
    cases trade.pnl.isFinite with
    | false => exact List.append_nil _
    | true =>
      rw [if_pos rfl, if_pos rfl, List.map_append]
      rfl

/-- A gate that tolerates all losses of its window but one rejects when the finite trades end with
a window of losses. -/
theorem recordAll_rejects_iff {gate : ConsecutiveLossGate} (fresh : gate.history = [])
    (strict : gate.maxLosses + 1 = gate.windowTrades) (trades : List ResolvedTrade)
    (decision : RiskDecision) :
    ((gate.recordAll trades).check decision).1 = false ↔
      gate.windowTrades ≤ trailing ResolvedTrade.isLoss (ResolvedTrade.finite trades) := by
  obtain ⟨later, reached, holds⟩ := run_holds fresh (records trades)
  rw [run_records, Except.ok.injEq] at reached
  subst reached
  rw [check_rejects_iff, holds.history, holds.maxLosses, holds.windowTrades, flags_records,
    ← count_rtake_iff, rtake_length]
  have most := List.count_le_length (a := true)
    (l := ((ResolvedTrade.finite trades).map ResolvedTrade.isLoss).rtake gate.windowTrades)
  rw [rtake_length] at most
  omega

/-- A new gate has recorded nothing. -/
theorem new_fresh {maxLosses windowTrades : ℤ} {gate : ConsecutiveLossGate}
    (built : new maxLosses windowTrades = .ok gate) :
    gate.history = [] ∧ (gate.maxLosses : ℤ) = maxLosses := by
  unfold new at built
  split at built
  · contradiction
  · split at built
    · contradiction
    · split at built
      · contradiction
      · cases built
        exact ⟨rfl, Int.toNat_of_nonneg (by omega)⟩

end ConsecutiveLossGate

/-- An accepted constructor call keeps its threshold. -/
theorem TimedCircuitBreaker.new_threshold [FloatFormat] {threshold : ℤ} {cooldownHours : PyNum}
    {breaker : TimedCircuitBreaker} (built : new threshold cooldownHours = .ok breaker) :
    (breaker.consecutiveLossThreshold : ℤ) = threshold := by
  unfold new at built
  split at built
  · contradiction
  · split at built
    · contradiction
    · split at built
      · split at built
        · cases built
          exact Int.toNat_of_nonneg (by omega)
        · contradiction
      · cases built
        exact Int.toNat_of_nonneg (by omega)

/-- A fresh or reset breaker is tripped by some trades exactly when the rolling gate of the same
threshold, which tolerates one loss less, has rejected after a beginning of them. -/
theorem tripped_iff_rejected [FloatFormat] {start : TimedCircuitBreaker}
    (clear : start.reset = start) {gate : ConsecutiveLossGate} (fresh : gate.history = [])
    (strict : gate.maxLosses + 1 = gate.windowTrades)
    (same : start.consecutiveLossThreshold = gate.windowTrades) (trades : List ResolvedTrade)
    (decision : RiskDecision) :
    (start.recordAll trades).tripped = true ↔
      ∃ past, past <+: trades ∧ ((gate.recordAll past).check decision).1 = false := by
  have counted := TimedCircuitBreaker.recordAll_count clear trades
  have tripped_iff : (start.recordAll trades).tripped = true ↔
      HasBlock ResolvedTrade.isLoss start.consecutiveLossThreshold
        (ResolvedTrade.finite trades) := by
    rw [counted]
    rcases count_cases ResolvedTrade.isLoss start.thresholdPos (ResolvedTrade.finite trades) with
      ⟨last, latched, first⟩ | ⟨counting, none_yet⟩
    · rw [latched]
      exact iff_of_true rfl first.hasBlock
    · rw [counting]
      exact iff_of_false Bool.false_ne_true none_yet
  rw [tripped_iff, hasBlock_iff, same]
  simp only [ConsecutiveLossGate.recordAll_rejects_iff fresh strict]
  constructor
  · rintro ⟨_, beginning, long⟩
    obtain ⟨past, begins, rfl⟩ := List.prefix_filter_iff.mp beginning
    exact ⟨past, begins, long⟩
  · rintro ⟨past, begins, long⟩
    exact ⟨_, List.prefix_filter_iff.mpr ⟨past, begins, rfl⟩, long⟩

/-- The `record` call that reports an outcome. -/
def TradeOutcome.trade (outcome : TradeOutcome) : ResolvedTrade :=
  ⟨outcome.pnl, some outcome.timestamp⟩

section Scan

variable [FloatFormat]

/-- `0 <= diff_seconds <= limit_seconds` -/
def InWindow (ctx : RiskContext) (current : DateTime) (outcome : TradeOutcome) : Prop :=
  let diffSeconds := totalSeconds (current.since outcome.timestamp)
  (0 : PyFloat).le diffSeconds = true ∧ diffSeconds.le (windowSeconds ctx) = true

omit [FloatFormat] in
/-- What is not negative is not below zero. -/
theorem not_lt_of_le {x : PyFloat} (above : (0 : PyFloat).le x = true) : x.lt 0 = false := by
  cases unknown : x.isNan with
  | true => cases x <;> contradiction
  | false =>
    rw [PyFloat.le_level rfl unknown] at above
    exact (PyFloat.not_lt_level unknown rfl).mpr above

/-- The scan counts the losses in the window. -/
theorem outcomeMark_count_iff (ctx : RiskContext) (current : DateTime) (outcome : TradeOutcome) :
    outcomeMark ctx current outcome = .count ↔
      outcome.trade.isLoss = true ∧ InWindow ctx current outcome := by
  change _ ↔ outcome.pnl.lt 0 = true ∧ _
  unfold outcomeMark InWindow
  cases outcome.pnl.lt 0 with
  | false =>
    rw [if_neg Bool.false_ne_true]
    exact iff_of_false (by decide) fun counted => Bool.false_ne_true counted.1
  | true =>
    rw [if_pos rfl, elapsedMark]
    dsimp only
    generalize totalSeconds (current.since outcome.timestamp) = diffSeconds
    cases above : (0 : PyFloat).le diffSeconds with
    | false =>
      refine iff_of_false ?_ fun counted => Bool.false_ne_true counted.2.1
      rw [Bool.false_and, if_neg Bool.false_ne_true]
      split <;> decide
    | true =>
      rw [not_lt_of_le above, if_neg Bool.false_ne_true, Bool.true_and]
      cases diffSeconds.le (windowSeconds ctx) with
      | false => exact iff_of_false (by decide) fun counted => Bool.false_ne_true counted.2.2
      | true => exact iff_of_true rfl ⟨rfl, rfl, rfl⟩

/-- The gate rejects at its limit when its scan reaches it. -/
theorem settle_reached_iff (ctx : RiskContext) (verdict : Verdict) (decision : RiskDecision) :
    decision.settle (verdictReason ctx verdict) = (false,
        { decision with
          approved := false
          reasonCode := lossReason ctx ctx.consecutiveLossLimit.toNat }) ↔
      verdict = .reached := by
  constructor
  · intro settled
    refine @verdictReason_inj _ ctx verdict .reached ?_
    cases reason : verdictReason ctx verdict with
    | none =>
      rw [reason] at settled
      have passed : true = false := congrArg Prod.fst settled
      contradiction
    | some reason =>
      rw [reason] at settled
      exact congrArg some (congrArg (RiskDecision.reasonCode ∘ Prod.snd) settled)
  · rintro rfl
    rfl

/-- The gate that is handed the outcomes rejects at its limit exactly when so many outcomes at the
end of their order are losses in the window. -/
theorem rejects_at_limit_iff {ctx : RiskContext} {now : Option DateTime} {first : TradeOutcome}
    {rest : List TradeOutcome} (scanned : Scanned ctx (first :: rest) now)
    (decision : RiskDecision) :
    let order := sortedOutcomes (first :: rest)
    let limit := ctx.consecutiveLossLimit.toNat
    evaluateConsecutiveLosses ctx (some (first :: rest)) now decision = .ok (false,
        { decision with approved := false, reasonCode := lossReason ctx limit }) ↔
      (limit ≤ order.length ∧ ∀ outcome ∈ order.rtake limit, outcome.trade.isLoss = true) ∧
        ∀ outcome ∈ order.rtake limit, InWindow ctx (presentTime now first rest) outcome := by
  intro order limit
  have positive : 0 < limit := by
    have active := scanned.active
    omega
  rw [evaluateConsecutiveLosses, rejection_tally scanned]
  change Except.ok _ = Except.ok _ ↔ _
  rw [Except.ok.injEq, settle_reached_iff, tally_reverse_iff positive, le_trailing_iff]
  simp only [decide_eq_true_eq, outcomeMark_count_iff]
  constructor
  · rintro ⟨enough, counted⟩
    exact ⟨⟨enough, fun outcome member => (counted outcome member).1⟩,
      fun outcome member => (counted outcome member).2⟩
  · rintro ⟨⟨enough, losses⟩, inside⟩
    exact ⟨enough, fun outcome member => ⟨losses outcome member, inside outcome member⟩⟩

omit [FloatFormat] in
/-- Outcomes of finite PnL that are reported end with `n` losses when the last `n` are losses. -/
theorem reported_trailing_iff {order : List TradeOutcome}
    (finite : ∀ outcome ∈ order, outcome.pnl.isFinite = true) (n : ℕ) :
    n ≤ trailing ResolvedTrade.isLoss (ResolvedTrade.finite (order.map TradeOutcome.trade)) ↔
      n ≤ order.length ∧ ∀ outcome ∈ order.rtake n, outcome.trade.isLoss = true := by
  have all : ResolvedTrade.finite (order.map TradeOutcome.trade) =
      order.map TradeOutcome.trade := by
    apply List.filter_eq_self.mpr
    intro trade member
    obtain ⟨outcome, held, rfl⟩ := List.mem_map.mp member
    exact finite outcome held
  have last : (order.map TradeOutcome.trade).rtake n = (order.rtake n).map TradeOutcome.trade := by
    rw [List.rtake, List.rtake, List.length_map, List.map_drop]
  rw [all, le_trailing_iff, last, List.length_map]
  simp only [List.forall_mem_map]

/-- The loss rules agree. The gate that is handed the outcomes rejects at its limit exactly when
the rolling gate that tolerates one loss less rejects after them, in their order, and the window
spans all of the last outcomes up to the limit. A breaker with the limit as its threshold is
tripped by some trades exactly when that rolling gate has rejected after a beginning of them. -/
theorem loss_rules_agree {ctx : RiskContext} {now : Option DateTime} {first : TradeOutcome}
    {rest : List TradeOutcome} (scanned : Scanned ctx (first :: rest) now)
    {start : TimedCircuitBreaker} {cooldownHours : PyNum}
    (breaker : TimedCircuitBreaker.new ctx.consecutiveLossLimit cooldownHours = .ok start)
    {gate : ConsecutiveLossGate}
    (rolling : ConsecutiveLossGate.new (ctx.consecutiveLossLimit - 1) ctx.consecutiveLossLimit =
      .ok gate) (decision : RiskDecision) :
    let order := sortedOutcomes (first :: rest)
    let limit := ctx.consecutiveLossLimit.toNat
    (evaluateConsecutiveLosses ctx (some (first :: rest)) now decision = .ok (false,
        { decision with approved := false, reasonCode := lossReason ctx limit }) ↔
      ((gate.recordAll (order.map TradeOutcome.trade)).check decision).1 = false ∧
        ∀ outcome ∈ order.rtake limit, InWindow ctx (presentTime now first rest) outcome) ∧
    ∀ trades, (start.recordAll trades).tripped = true ↔
      ∃ past, past <+: trades ∧ ((gate.recordAll past).check decision).1 = false := by
  intro order limit
  have active := scanned.active
  obtain ⟨fresh, tolerated⟩ := ConsecutiveLossGate.new_fresh rolling
  have window := ConsecutiveLossGate.new_window rolling
  have threshold := TimedCircuitBreaker.new_threshold breaker
  have strict : gate.maxLosses + 1 = gate.windowTrades := by omega
  have size : gate.windowTrades = limit := by omega
  have same : start.consecutiveLossThreshold = gate.windowTrades := by omega
  have finite : ∀ outcome ∈ order, outcome.pnl.isFinite = true := by
    intro outcome member
    exact scanned.finite outcome ((List.mem_insertionSort _).mp member)
  constructor
  · refine (rejects_at_limit_iff scanned decision).trans ?_
    rw [ConsecutiveLossGate.recordAll_rejects_iff fresh strict, size, reported_trailing_iff finite]
  · intro trades
    have clear := TimedCircuitBreaker.FreshOrReset.clear (.inl ⟨_, _, breaker⟩)
    exact tripped_iff_rejected clear fresh strict same trades decision

end Scan

section Example

attribute [local instance] FloatFormat.exact

/-- Two losses ten minutes apart, given newest first, are rejected at a limit of two, because the
rolling gate rejects after them, and they trip a breaker of that threshold. -/
theorem two_losses_reach_every_limit :
    let ctx := { RiskContext.default with consecutiveLossLimit := 2 }
    let latest : TradeOutcome := ⟨⟨600000000, none⟩, .finite (-1)⟩
    let earliest : TradeOutcome := ⟨⟨0, none⟩, .finite (-2)⟩
    (∃ answer, evaluateConsecutiveLosses ctx (some [latest, earliest]) none
        ⟨true, "OK", ⟨10, rfl⟩⟩ = .ok (false, answer)) ∧
      ∃ start, TimedCircuitBreaker.new 2 (.float 24) = .ok start ∧
        (start.recordAll [earliest.trade, latest.trade]).tripped = true := by
  intro ctx latest earliest
  obtain ⟨start, breaker⟩ : ∃ start, TimedCircuitBreaker.new 2 (.float 24) = .ok start :=
    ⟨_, TimedCircuitBreaker.new_float 2 24 (by decide) (by decide +kernel)⟩
  obtain ⟨gate, rolling⟩ : ∃ gate, ConsecutiveLossGate.new 1 2 = .ok gate := ⟨_, rfl⟩
  have scanned : Scanned ctx [latest, earliest] none := by
    refine ⟨by decide, by decide +kernel, List.cons_ne_nil _ _, ?_, ?_⟩
    · simp [latest, earliest]
    · simp [latest, earliest, outcomeTimes, OneMode, timezoneMode, isAware]
  have sorts : sortedOutcomes [latest, earliest] = [earliest, latest] := by decide +kernel
  obtain ⟨rejects, trips⟩ := loss_rules_agree scanned breaker rolling ⟨true, "OK", ⟨10, rfl⟩⟩
  rw [sorts] at rejects
  have rolled : ((gate.recordAll [earliest.trade, latest.trade]).check
      ⟨true, "OK", ⟨10, rfl⟩⟩).1 = false := by
    cases rolling
    decide +kernel
  refine ⟨⟨_, rejects.mpr ⟨rolled, ?_⟩⟩, start, breaker, ?_⟩
  · have inside : InWindow ctx latest.timestamp earliest ∧
        InWindow ctx latest.timestamp latest := by
      unfold InWindow
      decide +kernel
    intro outcome member
    rcases List.mem_pair.mp member with rfl | rfl
    · exact inside.1
    · exact inside.2
  · exact (trips _).mpr ⟨_, List.prefix_rfl, rolled⟩

end Example

end VerdictRisk
