import VerdictRisk.DeskGates
import VerdictRisk.Library.Streaks

/-!
# Runs of losses

Between two checks a breaker is a counter of losses in a row that latches at its threshold, fed
with the trades of finite PnL; so its fields say where the first block of losses ended, or how
long the trailing one is. The loss gate is a buffer of the last flags of such trades, through
resets and through its own snapshots.
-/

namespace VerdictRisk

open Python Streaks

/-- The arguments of a `record` call with a float PnL. -/
structure ResolvedTrade where
  pnl : PyFloat
  at' : Option DateTime
deriving DecidableEq

namespace ResolvedTrade

/-- `pnl < 0` -/
def isLoss (trade : ResolvedTrade) : Bool := trade.pnl.lt 0

/-- The trades whose PnL is finite, in order. -/
def finite (trades : List ResolvedTrade) : List ResolvedTrade :=
  trades.filter fun trade => trade.pnl.isFinite

/-- A trade is kept last when its PnL is finite. -/
theorem finite_snoc (trades : List ResolvedTrade) (trade : ResolvedTrade) :
    finite (trades ++ [trade]) =
      if trade.pnl.isFinite then finite trades ++ [trade] else finite trades := by
  rw [finite, List.filter_append, List.filter_singleton]
  cases trade.pnl.isFinite
  · exact List.append_nil _
  · rfl

end ResolvedTrade

namespace TimedCircuitBreaker

/-- The breaker after a sequence of `record` calls. -/
def recordAll (breaker : TimedCircuitBreaker) (trades : List ResolvedTrade) :
    TimedCircuitBreaker :=
  trades.foldl (fun breaker trade => breaker.record (.float trade.pnl) trade.at') breaker

/-- The constructor has just returned this breaker, or a reset has. -/
def FreshOrReset [FloatFormat] (breaker : TimedCircuitBreaker) : Prop :=
  (∃ threshold cooldown, new threshold cooldown = .ok breaker) ∨
    ∃ earlier : TimedCircuitBreaker, breaker = earlier.reset

/-- Such a breaker is untripped and has counted nothing. -/
theorem FreshOrReset.clear [FloatFormat] {breaker : TimedCircuitBreaker}
    (start : breaker.FreshOrReset) : breaker.reset = breaker := by
  rcases start with ⟨threshold, cooldown, built⟩ | ⟨earlier, rfl⟩
  · unfold new at built
    split at built
    · contradiction
    · split at built
      · contradiction
      · split at built
        · split at built
          · cases built
            rfl
          · contradiction
        · cases built
          rfl
  · rfl

/-- Trades are recorded after the earlier ones. -/
theorem recordAll_append (breaker : TimedCircuitBreaker) (trades later : List ResolvedTrade) :
    breaker.recordAll (trades ++ later) = (breaker.recordAll trades).recordAll later :=
  List.foldl_append

/-- While the breaker is tripped, no sequence of records changes it. -/
theorem recordAll_of_tripped {breaker : TimedCircuitBreaker} (tripped : breaker.tripped = true)
    (trades : List ResolvedTrade) : breaker.recordAll trades = breaker := by
  induction trades with
  | nil => rfl
  | cons trade rest ih =>
    change (breaker.record (.float trade.pnl) trade.at').recordAll rest = breaker
    rw [record_of_tripped tripped]
    exact ih

section Counting

/-- The breaker whose counter holds this. -/
def ofCounter (breaker : TimedCircuitBreaker) : Counter ResolvedTrade → TimedCircuitBreaker
  | .counting streak => { breaker with lossStreak := streak, tripped := false, trippedAt := none }
  | .latched last =>
    { breaker with
      lossStreak := breaker.consecutiveLossThreshold, tripped := true, trippedAt := last.at' }

/-- A finite trade is fed to the counter of a breaker below its threshold. -/
theorem record_ofCounter (breaker : TimedCircuitBreaker) {counter : Counter ResolvedTrade}
    (below : ∀ streak, counter = .counting streak → streak < breaker.consecutiveLossThreshold)
    {trade : ResolvedTrade} (finite : trade.pnl.isFinite = true) :
    (breaker.ofCounter counter).record (.float trade.pnl) trade.at' =
      breaker.ofCounter
        (feed ResolvedTrade.isLoss breaker.consecutiveLossThreshold counter trade) := by
  have known : isFinite (.float trade.pnl) = true := finite
  cases counter with
  | latched last => exact record_of_tripped rfl _ _
  | counting streak =>
    have bound := below streak rfl
    rw [feed]
    rcases record_cases (breaker.ofCounter (.counting streak)) (.float trade.pnl) trade.at' with
      ⟨ignored, _⟩ | ⟨_, _, win, same⟩ | ⟨_, _, loss, short, same⟩ | ⟨_, _, loss, reached, same⟩
    · rcases ignored with ignored | ignored
      · rw [known] at ignored
        contradiction
      · contradiction
    · have win : trade.isLoss = false := win
      rw [same, win]
      rfl
    · have loss : trade.isLoss = true := loss
      have short : streak + 1 < breaker.consecutiveLossThreshold := short
      rw [same, if_pos loss, if_neg (not_le.mpr short)]
      rfl
    · have loss : trade.isLoss = true := loss
      have reached : breaker.consecutiveLossThreshold ≤ streak + 1 := reached
      have last : streak + 1 = breaker.consecutiveLossThreshold := by omega
      rw [same, if_pos loss, if_pos reached]
      simp only [ofCounter, last]

/-- A cleared breaker counts the finite trades. -/
theorem recordAll_count {breaker : TimedCircuitBreaker} (clear : breaker.reset = breaker)
    (trades : List ResolvedTrade) :
    breaker.recordAll trades = breaker.ofCounter
      (count ResolvedTrade.isLoss breaker.consecutiveLossThreshold
        (ResolvedTrade.finite trades)) := by
  induction trades using List.reverseRecOn with
  | nil => exact clear.symm
  | append_singleton trades trade ih =>
    rw [recordAll_append, ih, ResolvedTrade.finite_snoc]
    change (breaker.ofCounter _).record (.float trade.pnl) trade.at' = _
    cases finite : trade.pnl.isFinite with
    | false =>
      have ignored : ∀ breaker : TimedCircuitBreaker,
          breaker.record (.float trade.pnl) trade.at' = breaker := by
        intro breaker
        have unknown : isFinite (.float trade.pnl) = false := finite
        simp [record, unknown]
      rw [ignored, if_neg Bool.false_ne_true]
    | true =>
      rw [if_pos rfl, count_snoc]
      apply record_ofCounter breaker _ finite
      intro streak counting
      rcases count_cases ResolvedTrade.isLoss breaker.thresholdPos
          (ResolvedTrade.finite trades) with
        ⟨last, latched, _⟩ | ⟨held, none_yet⟩
      · rw [latched] at counting
        contradiction
      · rw [held] at counting
        cases counting
        exact trailing_lt none_yet

end Counting

/-- A fresh or reset breaker that is fed trades is tripped exactly when the finite ones contain
as many losses in a row as its threshold. It then holds the threshold and the time of the trade
that completed the first such block, and nothing recorded later changes it; otherwise it holds
the length of the losing run that the finite trades end with. -/
theorem record_computes_losing_run [FloatFormat] (start : TimedCircuitBreaker)
    (fresh : start.FreshOrReset) (trades : List ResolvedTrade) :
    let breaker := start.recordAll trades
    let finite := ResolvedTrade.finite trades
    let threshold := start.consecutiveLossThreshold
    (breaker.tripped = true ↔ HasBlock ResolvedTrade.isLoss threshold finite) ∧
    (breaker.tripped = true → breaker.lossStreak = threshold ∧
      (∃ last, FirstBlock ResolvedTrade.isLoss threshold finite last ∧
        breaker.trippedAt = last.at') ∧
      ∀ later, start.recordAll (trades ++ later) = breaker) ∧
    (breaker.tripped = false →
      breaker.lossStreak = (finite.rtakeWhile ResolvedTrade.isLoss).length ∧
      breaker.lossStreak < threshold ∧ breaker.trippedAt = none) := by
  intro breaker finite threshold
  have held : breaker = start.ofCounter (count ResolvedTrade.isLoss threshold finite) :=
    recordAll_count fresh.clear trades
  rcases count_cases ResolvedTrade.isLoss start.thresholdPos finite with
    ⟨last, latched, first⟩ | ⟨counting, none_yet⟩
  · rw [latched] at held
    have tripped : breaker.tripped = true := by rw [held]; rfl
    refine ⟨iff_of_true tripped first.hasBlock, ?_, ?_⟩
    · intro _
      refine ⟨by rw [held]; rfl, ⟨last, first, by rw [held]; rfl⟩, ?_⟩
      intro later
      rw [recordAll_append]
      exact recordAll_of_tripped tripped later
    · intro down
      rw [tripped] at down
      contradiction
  · rw [counting] at held
    have down : breaker.tripped = false := by rw [held]; rfl
    refine ⟨iff_of_false (by simp [down]) none_yet, ?_, ?_⟩
    · intro tripped
      rw [down] at tripped
      contradiction
    · intro _
      have streak : breaker.lossStreak = trailing ResolvedTrade.isLoss finite := by rw [held]; rfl
      refine ⟨streak, ?_, by rw [held]; rfl⟩
      rw [streak]
      exact trailing_lt none_yet

/-- A NaN between two losses does not separate them, and the win after them comes too late. -/
theorem second_loss_trips : ∃ start, @new .exact 2 (.float 24) = .ok start ∧
    (start.recordAll [⟨.finite (-1), none⟩, ⟨.nan, none⟩, ⟨.finite (-1), some ⟨0, none⟩⟩,
      ⟨.finite 5, none⟩]).lossStreak = 2 := by
  obtain ⟨start, built, two⟩ : ∃ start, @new .exact 2 (.float 24) = .ok start ∧
      start.consecutiveLossThreshold = 2 :=
    ⟨_, @new_float .exact 2 24 (by decide) (by decide +kernel), rfl⟩
  refine ⟨start, built, ?_⟩
  have computed := @record_computes_losing_run .exact start (.inl ⟨2, .float 24, built⟩)
    [⟨.finite (-1), none⟩, ⟨.nan, none⟩, ⟨.finite (-1), some ⟨0, none⟩⟩, ⟨.finite 5, none⟩]
  rw [two] at computed
  apply (computed.2.1 (computed.1.mpr ?_)).1
  exact ⟨[], [⟨.finite (-1), none⟩, ⟨.finite (-1), some ⟨0, none⟩⟩], [⟨.finite 5, none⟩], rfl, rfl,
    by decide +kernel⟩

end TimedCircuitBreaker

/-- An operation on a loss gate. -/
inductive LossGateOp where
  | record (pnl : PyFloat)
  | reset
  /-- Replacement by `from_state(to_state())`. -/
  | restore
deriving DecidableEq

namespace LossGateOp

/-- What a record adds to the history: whether a finite PnL is a loss. -/
def flag : LossGateOp → Option Bool
  | .record pnl => if pnl.isFinite then some (pnl.lt 0) else none
  | _ => none

/-- Every operation but a reset. -/
def keeps (op : LossGateOp) : Bool := op != .reset

/-- The loss flags of the finite PnLs recorded since the last reset. -/
def flags (ops : List LossGateOp) : List Bool := (ops.rtakeWhile keeps).filterMap flag

/-- A reset leaves no flags. -/
theorem flags_reset (ops : List LossGateOp) : flags (ops ++ [.reset]) = [] := by
  rw [flags, List.rtakeWhile_concat_neg _ _ _ (by decide), List.filterMap_nil]

/-- An operation that keeps the history appends its flag. -/
theorem flags_snoc (ops : List LossGateOp) {op : LossGateOp} (kept : op.keeps = true) :
    flags (ops ++ [op]) = flags ops ++ (flag op).toList := by
  rw [flags, List.rtakeWhile_concat_pos _ _ _ kept, List.filterMap_append, ← flags]
  cases answer : flag op with
  | none => simp [answer]
  | some loss => simp [answer]

end LossGateOp

namespace ConsecutiveLossGate

/-- The gate after an operation; a restore raises where the snapshot or its restoration does. -/
def step (gate : ConsecutiveLossGate) : LossGateOp → Except PyError ConsecutiveLossGate
  | .record pnl => .ok (gate.record (.float pnl))
  | .reset => .ok gate.reset
  | .restore => do
    let state ← gate.toState
    fromState state

/-- The gate after a run. -/
def run (gate : ConsecutiveLossGate) (ops : List LossGateOp) : Except PyError ConsecutiveLossGate :=
  ops.foldlM step gate

/-- A run ends with the step of its last operation. -/
theorem run_snoc (gate : ConsecutiveLossGate) (ops : List LossGateOp) (op : LossGateOp) :
    gate.run (ops ++ [op]) = gate.run ops >>= fun gate => gate.step op := by
  simp only [run, List.foldlM_append, List.foldlM_cons, List.foldlM_nil, bind_pure]

/-- The trim keeps the last flags of the window. -/
theorem trimmed_eq_rtake (window : ℕ) (history : List Bool) :
    trimmed window history = history.rtake window := by
  unfold trimmed
  split
  · rfl
  · rw [List.rtake, Nat.sub_eq_zero_of_le (by omega), List.drop_zero]

/-- The gate is this one, holding the last flags of the window. -/
structure Holds (gate : ConsecutiveLossGate) (flags : List Bool) (later : ConsecutiveLossGate) :
    Prop where
  maxLosses : later.maxLosses = gate.maxLosses
  windowTrades : later.windowTrades = gate.windowTrades
  history : later.history = flags.rtake gate.windowTrades

/-- One operation never raises, and keeps the last flags of the window. -/
theorem step_holds {gate later : ConsecutiveLossGate} {ops : List LossGateOp}
    (holds : gate.Holds (LossGateOp.flags ops) later) (op : LossGateOp) :
    ∃ next, later.step op = .ok next ∧ gate.Holds (LossGateOp.flags (ops ++ [op])) next := by
  cases op with
  | reset =>
    refine ⟨later.reset, rfl, holds.maxLosses, holds.windowTrades, ?_⟩
    rw [LossGateOp.flags_reset]
    exact (List.rtake_nil _).symm
  | restore =>
    have restored : later.step .restore = .ok later := by
      rw [step, toState_eq]
      exact fromState_stateOf later
    have unflagged : LossGateOp.flag .restore = none := rfl
    rw [LossGateOp.flags_snoc ops (by decide), unflagged, Option.toList_none, List.append_nil]
    exact ⟨later, restored, holds⟩
  | record pnl =>
    refine ⟨_, rfl, ?_⟩
    rw [LossGateOp.flags_snoc ops (by rfl), LossGateOp.flag]
    cases finite : pnl.isFinite with
    | false =>
      have ignored : later.record (.float pnl) = later := by
        have unknown : isFinite (.float pnl) = false := finite
        simp [record, unknown]
      rw [ignored, if_neg Bool.false_ne_true, Option.toList_none, List.append_nil]
      exact holds
    | true =>
      have known : isFinite (.float pnl) = true := finite
      have recorded : (later.record (.float pnl)).history =
          trimmed later.windowTrades (later.history ++ [pnl.lt 0]) := by
        simp [record, known, PyNum.exact]
      rw [if_pos rfl]
      refine ⟨?_, ?_, ?_⟩
      · simpa [record, known] using holds.maxLosses
      · simpa [record, known] using holds.windowTrades
      · rw [recorded, trimmed_eq_rtake, holds.windowTrades, holds.history]
        exact rtake_append _ _ _

/-- A run from a gate with an empty history never raises. -/
theorem run_holds {gate : ConsecutiveLossGate} (fresh : gate.history = [])
    (ops : List LossGateOp) :
    ∃ later, gate.run ops = .ok later ∧ gate.Holds (LossGateOp.flags ops) later := by
  induction ops using List.reverseRecOn with
  | nil =>
    refine ⟨gate, rfl, rfl, rfl, ?_⟩
    rw [fresh]
    exact (List.rtake_nil _).symm
  | append_singleton ops op ih =>
    obtain ⟨later, reached, holds⟩ := ih
    obtain ⟨next, stepped, kept⟩ := step_holds holds op
    refine ⟨next, ?_, kept⟩
    rw [run_snoc, reached]
    exact stepped

/-- A check rejects when the history fills the window with more losses than are tolerated. -/
theorem check_rejects_iff (gate : ConsecutiveLossGate) (decision : RiskDecision) :
    (gate.check decision).1 = false ↔
      gate.windowTrades ≤ gate.history.length ∧ gate.maxLosses < gate.history.count true := by
  unfold check rejection
  by_cases short : gate.history.length < gate.windowTrades
  · simp [short, RiskDecision.settle, not_le.mpr short]
  · by_cases exceeded : gate.maxLosses < gate.history.count true
    · simp [short, exceeded, RiskDecision.settle, not_lt.mp short]
    · simp [short, exceeded, RiskDecision.settle]

/-- Whatever is recorded, reset and restored, an accepted gate raises nothing, its history is
the last flags recorded since the last reset, up to the window, and it rejects exactly when there
are that many with more losses among the last ones than it tolerates. -/
theorem gate_answers_window {maxLosses windowTrades : ℤ} {gate : ConsecutiveLossGate}
    (built : new maxLosses windowTrades = .ok gate) (ops : List LossGateOp) :
    ∃ later, gate.run ops = .ok later ∧
      (later.maxLosses : ℤ) = maxLosses ∧ (later.windowTrades : ℤ) = windowTrades ∧
      later.history = (LossGateOp.flags ops).rtake later.windowTrades ∧
      later.history.length = min (LossGateOp.flags ops).length later.windowTrades ∧
      (∃ state, later.toState = .ok state) ∧
      ∀ decision, (later.check decision).1 = false ↔
        later.windowTrades ≤ (LossGateOp.flags ops).length ∧
          later.maxLosses < ((LossGateOp.flags ops).rtake later.windowTrades).count true := by
  have accepted : (gate.maxLosses : ℤ) = maxLosses ∧ gate.history = [] := by
    unfold new at built
    split at built
    · contradiction
    · split at built
      · contradiction
      · split at built
        · contradiction
        · cases built
          exact ⟨Int.toNat_of_nonneg (by omega), rfl⟩
  obtain ⟨later, reached, holds⟩ := run_holds accepted.2 ops
  have history : later.history = (LossGateOp.flags ops).rtake later.windowTrades := by
    rw [holds.windowTrades]
    exact holds.history
  have length : later.history.length = min (LossGateOp.flags ops).length later.windowTrades := by
    rw [history, rtake_length]
  refine ⟨later, reached, ?_, ?_, history, length, ⟨_, later.toState_eq⟩, ?_⟩
  · rw [holds.maxLosses]
    exact accepted.1
  · rw [holds.windowTrades]
    exact new_window built
  · intro decision
    rw [check_rejects_iff, length, ← history]
    have full : later.windowTrades ≤ min (LossGateOp.flags ops).length later.windowTrades ↔
        later.windowTrades ≤ (LossGateOp.flags ops).length := by omega
    rw [full]

/-- Two losses of three are more than one, across a restore and a NaN. -/
theorem two_of_three_reject : ∃ gate later, new 1 3 = .ok gate ∧
    gate.run [.record (.finite (-1)), .reset, .record (.finite (-1)), .restore, .record .nan,
      .record (.finite 2), .record (.finite (-3))] = .ok later ∧
    (later.check ⟨true, "OK", ⟨10, rfl⟩⟩).1 = false := by
  obtain ⟨gate, built⟩ : ∃ gate, new 1 3 = .ok gate := ⟨_, rfl⟩
  obtain ⟨later, reached, tolerated, window, _, _, _, answers⟩ := gate_answers_window built
    [.record (.finite (-1)), .reset, .record (.finite (-1)), .restore, .record .nan,
      .record (.finite 2), .record (.finite (-3))]
  refine ⟨gate, later, built, reached, (answers _).mpr ?_⟩
  have three : later.windowTrades = 3 := by omega
  have one : later.maxLosses = 1 := by omega
  rw [three, one]
  decide +kernel

end ConsecutiveLossGate

end VerdictRisk
