import VerdictRisk.Engine
import VerdictRisk.Library.Checks

/-!
# The stateless chain

`evaluate_trade` hands one mutable decision from gate to gate. Read as a chain of checks it
asks the four pure gates, the cluster cap and the latency budget in turn, and what it returns
is settled by the first that does not pass. Each gate passes under a condition on its inputs
that is stated here once.
-/

namespace VerdictRisk

open Python

variable [FloatFormat]

/-- The four pure gates, in the order of the chain. -/
def gateChecks (ctx : RiskContext) (call : TradeCall) : List (Checks.Check PyError String) :=
  [.ok (expectedValueRejection ctx call.expectedValue),
    .ok (drawdownRejection ctx call.dailyRealizedPnl call.equity),
    consecutiveLossesRejection ctx call.tradeOutcomes call.currentTime,
    .ok (concentrationRejection ctx call.targetFamily call.proposedCost call.openPositions)]

/-- The cluster cap as a check; without a context it passes. -/
def clusterCheck : Option ClusterCapContext → Checks.Check PyError String
  | none => .ok none
  | some cluster => (evaluateClusterCap cluster).map fun decision =>
    if decision.approved then none else some decision.reasonCode

/-- All the checks of the chain. -/
def chainChecks (ctx : RiskContext) (call : TradeCall) (clock : Clock) :
    List (Checks.Check PyError String) :=
  gateChecks ctx call ++ [clusterCheck call.clusterCapCtx, latencyRejection ctx clock]

omit [FloatFormat] in
/-- A gate that settles a decision continues when it has no reason and stops when it has one. -/
theorem runGate_settle (decision : RiskDecision) (reason : Option String)
    (next : RiskDecision → Except PyError RiskDecision) :
    runGate (decision.settle reason) next =
      match reason with
      | none => next decision
      | some _ => .ok (decision.settle reason).2 := by
  cases reason <;> rfl

/-- The cluster cap stops the chain with the reason of its own decision. -/
theorem runClusterCap_eq (cluster : Option ClusterCapContext) (decision : RiskDecision)
    (next : RiskDecision → Except PyError RiskDecision) :
    runClusterCap cluster decision next =
      match clusterCheck cluster with
      | .error raised => .error raised
      | .ok (some reason) => .ok (decision.settle (some reason)).2
      | .ok none => next decision := by
  cases cluster with
  | none => rfl
  | some cluster =>
    simp only [runClusterCap, clusterCheck]
    rcases evaluateClusterCap cluster with raised | ⟨_ | _, reason, size⟩ <;> rfl

/-- The chain settles one decision by the first check that does not pass. -/
theorem evaluateStateless_eq (ctx : RiskContext) (call : TradeCall) (clock : Clock) :
    evaluateStateless ctx call clock =
      RiskDecision.new true "OK" call.proposedCost >>= fun decision =>
        (Checks.first (chainChecks ctx call clock)).map fun reason =>
          (decision.settle reason).2 := by
  unfold evaluateStateless chainChecks gateChecks
  cases RiskDecision.new true "OK" call.proposedCost with
  | error raised => rfl
  | ok decision =>
    simp only [bind, Except.bind, evaluateExpectedValue, evaluateDrawdown,
      evaluateConsecutiveLosses, evaluateConcentration, runGate_settle, runClusterCap_eq,
      List.cons_append, List.nil_append]
    rcases expectedValueRejection ctx call.expectedValue with - | reason
    · rcases drawdownRejection ctx call.dailyRealizedPnl call.equity with - | reason
      · rcases consecutiveLossesRejection ctx call.tradeOutcomes call.currentTime with
          raised | - | reason
        · rfl
        · simp only [Except.map, runGate_settle]
          rcases concentrationRejection ctx call.targetFamily call.proposedCost
            call.openPositions with - | reason
          · rcases clusterCheck call.clusterCapCtx with raised | - | reason
            · rfl
            · rcases latencyRejection ctx clock with raised | - | reason <;> rfl
            · rfl
          · rfl
        · rfl
      · rfl
    · rfl

/-- The chain approves what passes its checks, raises what they raise, and rejects the rest. -/
theorem evaluateStateless_ruled (ctx : RiskContext) (call : TradeCall) (clock : Clock) :
    (evaluateStateless ctx call clock).map RiskDecision.approved =
      RiskDecision.new true "OK" call.proposedCost >>= fun _ =>
        (Checks.first (chainChecks ctx call clock)).map Option.isNone := by
  rw [evaluateStateless_eq]
  by_cases finite : call.proposedCost.isFinite = true
  · rw [RiskDecision.new, dif_pos finite]
    rcases Checks.first (chainChecks ctx call clock) with raised | - | reason <;> rfl
  · rw [RiskDecision.new, dif_neg finite]
    rfl

/-- A decision that the chain returns is settled on the proposed cost by what its checks answer. -/
theorem evaluateStateless_ok {ctx : RiskContext} {call : TradeCall} {clock : Clock}
    {decision : RiskDecision} (returned : evaluateStateless ctx call clock = .ok decision) :
    ∃ finite verdict, Checks.first (chainChecks ctx call clock) = .ok verdict ∧
      decision = (RiskDecision.settle ⟨true, "OK", ⟨call.proposedCost, finite⟩⟩ verdict).2 := by
  rw [evaluateStateless_eq] at returned
  obtain ⟨fresh, built, settled⟩ := ok_of_bind returned
  obtain ⟨verdict, answered, same⟩ := Fallible.map_ok_iff.mp settled
  unfold RiskDecision.new at built
  split at built
  · rename_i finite
    cases built
    exact ⟨finite, verdict, answered, same.symm⟩
  · contradiction

/-- The chain approves exactly the finite costs that pass every check. -/
theorem evaluateStateless_approves_iff (ctx : RiskContext) (call : TradeCall) (clock : Clock) :
    (∃ decision, evaluateStateless ctx call clock = .ok decision ∧ decision.approved = true) ↔
      call.proposedCost.isFinite = true ∧ Checks.first (chainChecks ctx call clock) = .ok none := by
  rw [evaluateStateless_eq]
  by_cases finite : call.proposedCost.isFinite = true
  · rw [RiskDecision.new, dif_pos finite]
    rcases Checks.first (chainChecks ctx call clock) with raised | - | reason
    · simp [bind, Except.bind, Except.map]
    · simp [bind, Except.bind, Except.map, RiskDecision.settle, finite]
    · simp [bind, Except.bind, Except.map, RiskDecision.settle]
  · rw [RiskDecision.new, dif_neg finite]
    simp [bind, Except.bind, finite]

/-- The expected-value gate passes the finite values of at least the minimum. -/
theorem expectedValue_passes_iff (ctx : RiskContext) (expectedValue : PyFloat) :
    expectedValueRejection ctx expectedValue = none ↔
      expectedValue.isFinite = true ∧
        ctx.minExpectedValue.val.value ≤ expectedValue.value := by
  have limit := ctx.minExpectedValue.property
  have guard := PyNum.isNan_or_isInf_of_finite limit
  rw [Bool.or_eq_false_iff] at guard
  unfold expectedValueRejection
  cases finite : expectedValue.isFinite with
  | false => simp [guard, finite]
  | true =>
    have below := PyFloat.lt_iff finite (PyNum.exact_isFinite limit)
    simp only [PyFloat.isNan_or_isInf, finite, guard, Bool.or_self, Bool.not_true,
      Bool.false_eq_true, if_false, true_and]
    rw [PyNum.value, ← not_lt, ← below]
    split <;> simp_all

/-- The drawdown gate passes finite figures with a positive equity whose ratio is not below
the limit. -/
theorem drawdown_passes_iff (ctx : RiskContext) (dailyRealizedPnl equity : PyFloat) :
    drawdownRejection ctx dailyRealizedPnl equity = none ↔
      dailyRealizedPnl.isFinite = true ∧ equity.isFinite = true ∧ 0 < equity.value ∧
        (dailyRealizedPnl.div equity).lt ctx.maxDailyDrawdownPct.val.neg.exact = false := by
  have guard := PyNum.isNan_or_isInf_of_finite ctx.maxDailyDrawdownPct.property
  rw [Bool.or_eq_false_iff] at guard
  have merged : (equity.isNan || dailyRealizedPnl.isNan || equity.isInf || dailyRealizedPnl.isInf) =
      (!equity.isFinite || !dailyRealizedPnl.isFinite) := by
    rw [PyFloat.isFinite_eq, PyFloat.isFinite_eq]
    cases equity.isNan <;> cases dailyRealizedPnl.isNan <;> simp
  unfold drawdownRejection
  simp only [merged, guard, Bool.or_false]
  cases pnl : dailyRealizedPnl.isFinite with
  | false => simp
  | true =>
    cases known : equity.isFinite with
    | false => simp
    | true =>
      have small : equity.le 0 = true ↔ ¬ 0 < equity.value := by
        rw [PyFloat.le_iff known rfl, not_lt, PyFloat.value_ofNat, Nat.cast_zero]
      by_cases above : 0 < equity.value
      · have positive : equity.le 0 = false := Bool.eq_false_iff.mpr fun le => small.mp le above
        simp only [positive, above, true_and, Bool.not_true, Bool.or_self, Bool.false_eq_true,
          if_false]
        split <;> simp_all
      · simp [small.mpr above, above]

omit [FloatFormat] in
/-- A position that counts toward the exposure of a family. -/
def counts (targetFamily : String) (pos : Position) : Prop :=
  pos.isResolved = false ∧ pos.family = targetFamily

/-- The exposure is summed exactly when every counted cost is finite. -/
theorem currentExposure_some_iff (targetFamily : String) (start : PyFloat)
    (positions : List Position) :
    (∃ exposure, currentExposure targetFamily start positions = some exposure) ↔
      ∀ pos ∈ positions, counts targetFamily pos → pos.costBasis.exact.isFinite = true := by
  induction positions generalizing start with
  | nil => simp [currentExposure]
  | cons pos rest ih =>
    rw [List.forall_mem_cons, currentExposure, PyNum.isNan_or_isInf]
    by_cases counted : counts targetFamily pos
    · have taken : (!pos.isResolved && pos.family == targetFamily) = true := by
        simp [counted.1, counted.2]
      rw [if_pos taken]
      cases finite : pos.costBasis.exact.isFinite with
      | false => simp [counted]
      | true => simpa using ih (start.add pos.costBasis.toFloat)
    · have skipped : (!pos.isResolved && pos.family == targetFamily) = false := by
        unfold counts at counted
        cases open' : pos.isResolved <;> simp_all
      simpa [skipped, counted] using ih start

/-- The concentration gate passes a finite cost that, added to a finite exposure, stays
within the limit. -/
theorem concentration_passes_iff (ctx : RiskContext) (targetFamily : String)
    (proposedCost : PyFloat) (openPositions : List Position) :
    concentrationRejection ctx targetFamily proposedCost openPositions = none ↔
      proposedCost.isFinite = true ∧ ∃ exposure,
        currentExposure targetFamily 0 openPositions = some exposure ∧
        ctx.maxCorrelatedExposure.val.exact.lt (exposure.add proposedCost) = false := by
  have guard := PyNum.isNan_or_isInf_of_finite ctx.maxCorrelatedExposure.property
  rw [Bool.or_eq_false_iff] at guard
  unfold concentrationRejection
  simp only [PyFloat.isNan_or_isInf, guard, Bool.or_false]
  cases finite : proposedCost.isFinite with
  | false => simp
  | true =>
    cases summed : currentExposure targetFamily 0 openPositions with
    | none => simp
    | some exposure =>
      cases exceeded : ctx.maxCorrelatedExposure.val.exact.lt (exposure.add proposedCost) <;>
        simp [exceeded]

/-- The scan of the newest losses finds fewer than the limit within the window. -/
def ScanPasses (ctx : RiskContext) (first : TradeOutcome) (rest : List TradeOutcome)
    (currentTime : Option DateTime) : Prop :=
  scanLosses ctx (ctx.consecutiveLossWindowMinutes.val.toFloat.mul 60)
    (currentTime.getD (latestTimestamp first.timestamp rest)) 0
    (sortedOutcomes (first :: rest)).reverse = .ok none

/-- What a gate that is switched on answers about a history: its guards look at the timestamps, at
the results and at the current time, in this order. -/
inductive HistoryAnswer (ctx : RiskContext) (first : TradeOutcome) (rest : List TradeOutcome)
    (currentTime : Option DateTime) : Except PyError (Option String) → Prop
  | mixed (apart : ¬ ∀ outcome ∈ first :: rest,
        timezoneMode outcome.timestamp = timezoneMode first.timestamp) :
      HistoryAnswer ctx first rest currentTime (.ok (some "ERR_INVALID_TIMEZONE_MIXED"))
  | infinite (uniform : ∀ outcome ∈ first :: rest,
        timezoneMode outcome.timestamp = timezoneMode first.timestamp)
      (unknown : ¬ ∀ outcome ∈ first :: rest, outcome.pnl.isFinite = true) :
      HistoryAnswer ctx first rest currentTime (.ok (some "ERR_INVALID_FLOAT_CONSECUTIVE_LOSSES"))
  | foreign (uniform : ∀ outcome ∈ first :: rest,
        timezoneMode outcome.timestamp = timezoneMode first.timestamp)
      (finite : ∀ outcome ∈ first :: rest, outcome.pnl.isFinite = true)
      (apart : ¬ ∀ now, currentTime = some now →
        timezoneMode now = timezoneMode first.timestamp) :
      HistoryAnswer ctx first rest currentTime (.ok (some "ERR_INVALID_TIMEZONE_MIXED"))
  | scanned (uniform : ∀ outcome ∈ first :: rest,
        timezoneMode outcome.timestamp = timezoneMode first.timestamp)
      (finite : ∀ outcome ∈ first :: rest, outcome.pnl.isFinite = true)
      (agrees : ∀ now, currentTime = some now →
        timezoneMode now = timezoneMode first.timestamp) :
      HistoryAnswer ctx first rest currentTime
        (scanLosses ctx (ctx.consecutiveLossWindowMinutes.val.toFloat.mul 60)
          (currentTime.getD (latestTimestamp first.timestamp rest)) 0
          (sortedOutcomes (first :: rest)).reverse)

/-- A gate that is switched on asks its guards about a history in turn, and then scans it. -/
theorem history_answer {ctx : RiskContext} (active : 0 < ctx.consecutiveLossLimit)
    (window : ctx.consecutiveLossWindowMinutes.val.exact.lt 0 = false) (first : TradeOutcome)
    (rest : List TradeOutcome) (currentTime : Option DateTime) :
    HistoryAnswer ctx first rest currentTime
      (consecutiveLossesRejection ctx (some (first :: rest)) currentTime) := by
  have nonneg : ¬ ctx.consecutiveLossLimit < 0 := by omega
  have on : ¬ ctx.consecutiveLossLimit ≤ 0 := by omega
  unfold consecutiveLossesRejection
  simp only [nonneg, window, on, decide_false, Bool.or_self, Bool.false_eq_true, if_false]
  split
  · rename_i mixed
    exact .mixed (by simpa using mixed)
  · rename_i unmixed
    have uniform : ∀ outcome ∈ first :: rest,
        timezoneMode outcome.timestamp = timezoneMode first.timestamp := by
      simpa using unmixed
    split
    · rename_i infinite
      exact .infinite uniform (by simpa [imp_iff_not_or] using infinite)
    · rename_i known
      have finite : ∀ outcome ∈ first :: rest, outcome.pnl.isFinite = true := by
        simpa using known
      cases currentTime with
      | none => exact .scanned uniform finite (by simp)
      | some now =>
        dsimp only
        split
        · rename_i differs
          exact .foreign uniform finite (by simpa using differs)
        · rename_i same
          exact .scanned uniform finite (by simpa using same)

/-- The answer about a history lets a trade pass when the history is finite, is of one timezone
mode, is seen from a time of that mode, and its scan stays below the limit. -/
theorem history_passes_iff {ctx : RiskContext} {first : TradeOutcome}
    {rest : List TradeOutcome} {currentTime : Option DateTime}
    {answered : Except PyError (Option String)}
    (answer : HistoryAnswer ctx first rest currentTime answered) :
    answered = .ok none ↔
      (∀ outcome ∈ first :: rest,
        timezoneMode outcome.timestamp = timezoneMode first.timestamp) ∧
      (∀ outcome ∈ first :: rest, outcome.pnl.isFinite = true) ∧
      (∀ now, currentTime = some now → timezoneMode now = timezoneMode first.timestamp) ∧
      ScanPasses ctx first rest currentTime := by
  cases answer with
  | mixed apart => exact iff_of_false (by simp) fun passes => apart passes.1
  | infinite _ unknown => exact iff_of_false (by simp) fun passes => unknown passes.2.1
  | foreign _ _ apart => exact iff_of_false (by simp) fun passes => apart passes.2.2.1
  | scanned uniform finite agrees =>
    constructor
    · intro passes
      exact ⟨uniform, finite, agrees, passes⟩
    · intro passes
      exact passes.2.2.2

/-- What the consecutive-loss gate answers: it is asked for nothing by an invalid context, has
nothing to do, or answers about a history. -/
inductive LossAnswer (ctx : RiskContext) (currentTime : Option DateTime) :
    Option (List TradeOutcome) → Except PyError (Option String) → Prop
  | invalid {tradeOutcomes : Option (List TradeOutcome)}
      (context : ctx.consecutiveLossLimit < 0 ∨
        ctx.consecutiveLossWindowMinutes.val.exact.lt 0 = true) :
      LossAnswer ctx currentTime tradeOutcomes (.ok (some "ERR_INVALID_CONSECUTIVE_LOSS_CONTEXT"))
  | idle {tradeOutcomes : Option (List TradeOutcome)} (nonneg : 0 ≤ ctx.consecutiveLossLimit)
      (window : ctx.consecutiveLossWindowMinutes.val.exact.lt 0 = false)
      (quiet : ctx.consecutiveLossLimit = 0 ∨ tradeOutcomes.getD [] = []) :
      LossAnswer ctx currentTime tradeOutcomes (.ok none)
  | history {first : TradeOutcome} {rest : List TradeOutcome}
      {answer : Except PyError (Option String)} (active : 0 < ctx.consecutiveLossLimit)
      (window : ctx.consecutiveLossWindowMinutes.val.exact.lt 0 = false)
      (answered : HistoryAnswer ctx first rest currentTime answer) :
      LossAnswer ctx currentTime (some (first :: rest)) answer

/-- The consecutive-loss gate looks at its context, then for a history, then into it. -/
theorem loss_answer (ctx : RiskContext) (tradeOutcomes : Option (List TradeOutcome))
    (currentTime : Option DateTime) :
    LossAnswer ctx currentTime tradeOutcomes
      (consecutiveLossesRejection ctx tradeOutcomes currentTime) := by
  by_cases negative : ctx.consecutiveLossLimit < 0
  · simp only [consecutiveLossesRejection, negative, decide_true, Bool.true_or, if_true]
    exact .invalid (.inl negative)
  · have nonneg : 0 ≤ ctx.consecutiveLossLimit := not_lt.mp negative
    cases window : ctx.consecutiveLossWindowMinutes.val.exact.lt 0 with
    | true =>
      simp only [consecutiveLossesRejection, window, Bool.or_true, if_true]
      exact .invalid (.inr window)
    | false =>
      by_cases off : ctx.consecutiveLossLimit ≤ 0
      · simp only [consecutiveLossesRejection, window, negative, off, decide_false, Bool.or_self,
          Bool.false_eq_true, if_false, if_true]
        exact .idle nonneg window (.inl (le_antisymm off nonneg))
      · cases tradeOutcomes with
        | none =>
          simp only [consecutiveLossesRejection, window, negative, off, decide_false, Bool.or_self,
            Bool.false_eq_true, if_false]
          exact .idle nonneg window (.inr rfl)
        | some outcomes =>
          cases outcomes with
          | nil =>
            simp only [consecutiveLossesRejection, window, negative, off, decide_false,
              Bool.or_self, Bool.false_eq_true, if_false]
            exact .idle nonneg window (.inr rfl)
          | cons first rest =>
            have active : 0 < ctx.consecutiveLossLimit := not_le.mp off
            exact .history active window (history_answer active window first rest currentTime)

/-- The consecutive-loss gate passes when it is switched off, has no history, or scans a
finite history of one timezone mode without reaching its limit. -/
theorem consecutiveLosses_passes_iff (ctx : RiskContext)
    (tradeOutcomes : Option (List TradeOutcome)) (currentTime : Option DateTime) :
    consecutiveLossesRejection ctx tradeOutcomes currentTime = .ok none ↔
      0 ≤ ctx.consecutiveLossLimit ∧ ctx.consecutiveLossWindowMinutes.val.exact.lt 0 = false ∧
        (ctx.consecutiveLossLimit = 0 ∨ tradeOutcomes.getD [] = [] ∨
          ∃ first rest, tradeOutcomes = some (first :: rest) ∧
            (∀ outcome ∈ first :: rest,
              timezoneMode outcome.timestamp = timezoneMode first.timestamp) ∧
            (∀ outcome ∈ first :: rest, outcome.pnl.isFinite = true) ∧
            (∀ now, currentTime = some now → timezoneMode now = timezoneMode first.timestamp) ∧
            ScanPasses ctx first rest currentTime) := by
  have answer := loss_answer ctx tradeOutcomes currentTime
  generalize consecutiveLossesRejection ctx tradeOutcomes currentTime = answered at answer
  cases answer with
  | invalid context =>
    refine iff_of_false (by simp) fun passes => ?_
    cases context with
    | inl negative => exact absurd passes.1 (not_le.mpr negative)
    | inr negative => exact Bool.false_ne_true (passes.2.1.symm.trans negative)
  | idle nonneg window quiet =>
    refine iff_of_true rfl ⟨nonneg, window, ?_⟩
    cases quiet with
    | inl off => exact .inl off
    | inr empty => exact .inr (.inl empty)
  | @history first rest _ active window answered =>
    have passes := history_passes_iff answered
    have on : ctx.consecutiveLossLimit ≠ 0 := by omega
    have nonneg : 0 ≤ ctx.consecutiveLossLimit := by omega
    rw [passes]
    simp [on, nonneg, window]

/-- The cluster cap passes a finite cost that is unknown, not positive, or within the cap. -/
theorem clusterCap_passes_iff (cluster : ClusterCapContext) :
    clusterCheck (some cluster) = .ok none ↔
      cluster.proposedCost.isFinite = true ∧
        (cluster.clusterId = "unknown" ∨ cluster.proposedCost.le 0 = true ∨
          cluster.maxClusterUsd.le 0 = false ∧ cluster.maxClusterUsd.lt
            (cluster.clusterOpenUsd.add cluster.proposedCost) = false) := by
  have approve : (RiskDecision.new true "OK" cluster.proposedCost).map
      (fun decision => if decision.approved then none else some decision.reasonCode) = .ok none ↔
        cluster.proposedCost.isFinite = true := by
    unfold RiskDecision.new
    split <;> simp_all [Except.map]
  have refuse : ∀ reason, (RiskDecision.new false reason 0).map
      (fun decision => if decision.approved then none else some decision.reasonCode) ≠
        .ok none := by
    intro reason
    simp [RiskDecision.new, Except.map]
  simp only [clusterCheck, evaluateClusterCap]
  by_cases unknown : cluster.clusterId = "unknown"
  · simpa [unknown] using approve
  · by_cases free : cluster.proposedCost.le 0 = true
    · simpa [unknown, free] using approve
    · by_cases invalid : cluster.maxClusterUsd.le 0 = true
      · simpa [unknown, free, invalid] using refuse _
      · by_cases exceeded : cluster.maxClusterUsd.lt
            (cluster.clusterOpenUsd.add cluster.proposedCost) = true
        · simpa [unknown, free, invalid, exceeded] using refuse _
        · simpa [unknown, free, invalid, exceeded] using approve

omit [FloatFormat] in
/-- The latest timestamp is one of those given. -/
theorem latestTimestamp_mem (latest : DateTime) (outcomes : List TradeOutcome) :
    latestTimestamp latest outcomes ∈ latest :: outcomes.map TradeOutcome.timestamp := by
  induction outcomes generalizing latest with
  | nil => exact List.mem_singleton.mpr rfl
  | cons outcome rest ih =>
    rw [latestTimestamp, List.map_cons]
    split
    · exact List.mem_cons_of_mem _ (ih outcome.timestamp)
    · rcases List.mem_cons.mp (ih latest) with same | member
      · rw [same]
        exact List.mem_cons_self
      · exact List.mem_cons_of_mem _ (List.mem_cons_of_mem _ member)

/-- A scan raises at no timestamp of the mode of the current time. -/
theorem scanLosses_returns (ctx : RiskContext) (limitSeconds : PyFloat) {currentTime : DateTime}
    {outcomes : List TradeOutcome}
    (uniform : ∀ outcome ∈ outcomes, timezoneMode currentTime = timezoneMode outcome.timestamp)
    (counted : ℕ) :
    ∃ verdict, scanLosses ctx limitSeconds currentTime counted outcomes = .ok verdict := by
  induction outcomes generalizing counted with
  | nil => exact ⟨none, rfl⟩
  | cons outcome rest ih =>
    rw [List.forall_mem_cons] at uniform
    obtain ⟨elapsed, difference⟩ := DateTime.sub_ok ((timezoneMode_eq_iff _ _).mp uniform.1)
    rw [scanLosses]
    simp only [difference]
    split
    · split
      · exact ⟨_, rfl⟩
      · split
        · split
          · exact ⟨_, rfl⟩
          · exact ih uniform.2 (counted + 1)
        · exact ⟨none, rfl⟩
    · exact ⟨none, rfl⟩

/-- The consecutive-loss gate never raises: it compares no timestamps of different modes. -/
theorem consecutiveLosses_returns (ctx : RiskContext)
    (tradeOutcomes : Option (List TradeOutcome)) (currentTime : Option DateTime) :
    ∃ verdict, consecutiveLossesRejection ctx tradeOutcomes currentTime = .ok verdict := by
  have answer := loss_answer ctx tradeOutcomes currentTime
  generalize consecutiveLossesRejection ctx tradeOutcomes currentTime = answered at answer
  cases answer with
  | invalid | idle => exact ⟨_, rfl⟩
  | @history first rest _ _ _ answered =>
    cases answered with
    | mixed | infinite | foreign => exact ⟨_, rfl⟩
    | scanned uniform _ agrees =>
      apply scanLosses_returns
      intro outcome member
      rw [List.mem_reverse, sortedOutcomes, List.mem_insertionSort] at member
      rw [uniform outcome member]
      cases currentTime with
      | some now => exact agrees now rfl
      | none =>
        have latest := latestTimestamp_mem first.timestamp rest
        rw [← List.map_cons, List.mem_map] at latest
        obtain ⟨newest, member, same⟩ := latest
        rw [Option.getD_none, ← same, uniform newest member]

/-- No pure gate raises. -/
theorem gateChecks_return (ctx : RiskContext) (call : TradeCall) :
    ∀ check ∈ gateChecks ctx call, ∃ verdict, check = .ok verdict := by
  simp only [gateChecks, List.forall_mem_cons]
  refine ⟨⟨_, rfl⟩, ⟨_, rfl⟩, ?_, ⟨_, rfl⟩, by simp⟩
  exact consecutiveLosses_returns ctx call.tradeOutcomes call.currentTime

/-- The cluster cap rejects the trade. -/
def CapExceeded (cluster : ClusterCapContext) : Prop :=
  cluster.clusterId ≠ "unknown" ∧ cluster.proposedCost.le 0 = false ∧
    (cluster.maxClusterUsd.le 0 = true ∨
      cluster.maxClusterUsd.lt (cluster.clusterOpenUsd.add cluster.proposedCost) = true)

/-- The cluster cap rejects with a reason of its own, and otherwise builds a decision of the
cluster's cost, which raises unless that is finite. -/
theorem clusterCheck_cases (cluster : ClusterCapContext) :
    (CapExceeded cluster ∧ ∃ reason, clusterCheck (some cluster) = .ok (some reason)) ∨
    (¬ CapExceeded cluster ∧ cluster.proposedCost.isFinite = true ∧
      clusterCheck (some cluster) = .ok none) ∨
    (¬ CapExceeded cluster ∧ cluster.proposedCost.isFinite = false ∧
      ∃ raised, clusterCheck (some cluster) = .error raised) := by
  have approve : (cluster.proposedCost.isFinite = true ∧
        (RiskDecision.new true "OK" cluster.proposedCost).map
          (fun decision => if decision.approved then none else some decision.reasonCode) =
            .ok none) ∨
      (cluster.proposedCost.isFinite = false ∧ ∃ raised,
        (RiskDecision.new true "OK" cluster.proposedCost).map
          (fun decision => if decision.approved then none else some decision.reasonCode) =
            .error raised) := by
    unfold RiskDecision.new
    split <;> simp_all [Except.map]
  have refuse : ∀ reason, (RiskDecision.new false reason 0).map
      (fun decision => if decision.approved then none else some decision.reasonCode) =
        .ok (some reason) := by
    intro reason
    simp [RiskDecision.new, Except.map]
  simp only [clusterCheck, evaluateClusterCap]
  by_cases unknown : cluster.clusterId = "unknown"
  · simpa [CapExceeded, unknown] using approve
  · by_cases free : cluster.proposedCost.le 0 = true
    · simpa [CapExceeded, unknown, free] using approve
    · by_cases invalid : cluster.maxClusterUsd.le 0 = true
      · simp [CapExceeded, unknown, free, invalid, refuse]
      · by_cases exceeded : cluster.maxClusterUsd.lt
            (cluster.clusterOpenUsd.add cluster.proposedCost) = true
        · simp [CapExceeded, unknown, free, invalid, exceeded, refuse]
        · simpa [CapExceeded, unknown, free, invalid, exceeded] using approve

end VerdictRisk
