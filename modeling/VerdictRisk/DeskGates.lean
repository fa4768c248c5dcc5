import VerdictRisk.Gates

/-!
# Stateful desk gates

The three gate classes of `gates.py` that remember: the manual kill switch, the timed circuit
breaker and the rolling consecutive-loss gate. A method that mutates its object returns the
object after the call. A breaker or a loss gate carries what its constructor checked, so a
snapshot of one is always accepted by the snapshot's own checks and restores to it.
-/

namespace VerdictRisk

open Python

/-- Manual kill switch: once tripped, every subsequent trade is blocked. -/
structure KillSwitch where
  tripped : Bool
  trippedAt : Option DateTime
  reason : String
deriving DecidableEq

namespace KillSwitch

/-- `KillSwitch(reason)` -/
def new (reason : String) : KillSwitch := ⟨false, none, reason⟩

/-- Hard-trip the switch; a second trip changes nothing. -/
def trip (switch : KillSwitch) (at' : Option DateTime) : KillSwitch :=
  if switch.tripped then switch else { switch with tripped := true, trippedAt := at' }

/-- Clear the switch so trades can flow again. -/
def reset (switch : KillSwitch) : KillSwitch :=
  { switch with tripped := false, trippedAt := none }

/-- Return whether the trade may proceed past this switch. -/
def check (switch : KillSwitch) (decision : RiskDecision) : Bool × RiskDecision :=
  decision.settle (if switch.tripped then some switch.reason else none)

/-- `to_state()` -/
def toState (switch : KillSwitch) : KillSwitchState :=
  ⟨switch.tripped, switch.reason, switch.trippedAt⟩

/-- `from_state(state)` -/
def fromState (state : KillSwitchState) : KillSwitch :=
  { new state.reason with tripped := state.tripped, trippedAt := state.trippedAt }

/-- A tripped switch is tripped. -/
@[simp] theorem trip_tripped (switch : KillSwitch) (at' : Option DateTime) :
    (switch.trip at').tripped = true := by
  cases up : switch.tripped <;> simp [trip, up]

/-- A reset switch is not tripped. -/
@[simp] theorem reset_tripped (switch : KillSwitch) : switch.reset.tripped = false := rfl

/-- A switch is restored from its snapshot unchanged. -/
@[simp] theorem fromState_toState (switch : KillSwitch) : fromState switch.toState = switch := rfl

end KillSwitch

/-- `_is_finite`: an `int` is not a `float`, so it fails the test. -/
def isFinite : PyNum → Bool
  | .float x => x.isFinite
  | .int _ => false

/-- Time-based circuit breaker gate. -/
structure TimedCircuitBreaker where
  consecutiveLossThreshold : ℕ
  cooldownHours : PyFloat
  lossStreak : ℕ
  tripped : Bool
  trippedAt : Option DateTime
  /-- The threshold is at least one. -/
  thresholdPos : 1 ≤ consecutiveLossThreshold
  /-- The cooldown does not compare as zero or negative; NaN passes this test. -/
  cooldownAccepted : cooldownHours.le 0 = false

/-- A number above zero stays above zero in its conversion to a float. -/
theorem toFloat_accepted [FloatFormat] {hours : PyNum} (accepted : hours.exact.le 0 = false) :
    hours.toFloat.le 0 = false := by
  cases hours with
  | float x => exact accepted
  | int n =>
    have positive : 1 ≤ n := by
      by_contra small
      have nonpositive : (PyFloat.finite n).le 0 = true := by
        rw [PyFloat.le_iff rfl rfl]
        change (n : ℚ) ≤ ((0 : ℕ) : ℚ)
        exact_mod_cast (by omega : n ≤ 0)
      rw [PyNum.exact, nonpositive] at accepted
      contradiction
    have ordered := FloatFormat.round_mono 1 n (by exact_mod_cast positive)
    have one : FloatFormat.round 1 = .finite 1 := by
      simpa using FloatFormat.round_int 1 (by decide)
    rw [one] at ordered
    by_contra nonpositive
    rw [Bool.not_eq_false] at nonpositive
    have below : ∀ x : PyFloat, x.le 0 = true → x.lt (.finite 1) = true := by
      intro x small
      cases x with
      | finite q =>
        rw [PyFloat.le_iff rfl rfl] at small
        rw [PyFloat.lt_iff rfl rfl]
        have small : q ≤ ((0 : ℕ) : ℚ) := small
        have small : q ≤ 0 := by simpa using small
        exact lt_of_le_of_lt small one_pos
      | negZero => decide +kernel
      | negInf => rfl
      | posInf => contradiction
      | nan => contradiction
    have reversed : (FloatFormat.round (n : ℚ)).lt (.finite 1) = true := below _ nonpositive
    rw [ordered] at reversed
    contradiction

namespace TimedCircuitBreaker

/-- The constructor; `float(cooldown_hours)` raises on an `int` that no double can hold. -/
def new [FloatFormat] (consecutiveLossThreshold : ℤ) (cooldownHours : PyNum) :
    Except PyError TimedCircuitBreaker :=
  if positive : consecutiveLossThreshold < 1 then
    .error (.valueError "consecutive_loss_threshold must be >= 1")
  else if accepted : cooldownHours.exact.le 0 = true then
    .error (.valueError "cooldown_hours must be > 0")
  else match cooldownHours, accepted with
    | .int n, accepted =>
      if n.natAbs < PyNum.floatLimit then .ok
        { consecutiveLossThreshold := consecutiveLossThreshold.toNat
          cooldownHours := PyNum.toFloat (.int n)
          lossStreak := 0, tripped := false, trippedAt := none
          thresholdPos := one_le_toNat positive
          cooldownAccepted := toFloat_accepted (Bool.eq_false_iff.mpr accepted) }
      else .error (.overflowError "int too large to convert to float")
    | .float x, accepted => .ok
        { consecutiveLossThreshold := consecutiveLossThreshold.toNat
          cooldownHours := x
          lossStreak := 0, tripped := false, trippedAt := none
          thresholdPos := one_le_toNat positive
          cooldownAccepted := Bool.eq_false_iff.mpr accepted }

/-- Feed a resolved trade's PnL into the breaker. -/
def record (breaker : TimedCircuitBreaker) (pnl : PyNum) (at' : Option DateTime) :
    TimedCircuitBreaker :=
  if !isFinite pnl then breaker
  -- While tripped, losses do not accumulate.
  else if breaker.tripped then breaker
  else if pnl.exact.lt 0 then
    let streak := breaker.lossStreak + 1
    if breaker.consecutiveLossThreshold ≤ streak then
      { breaker with lossStreak := streak, tripped := true, trippedAt := at' }
    else { breaker with lossStreak := streak }
  else { breaker with lossStreak := 0 }

/-- Manually clear the breaker. -/
def reset (breaker : TimedCircuitBreaker) : TimedCircuitBreaker :=
  { breaker with lossStreak := 0, tripped := false, trippedAt := none }

/-- `now - tripped_at >= timedelta(hours=cooldown_hours)` -/
def cooldownElapsed [FloatFormat] (cooldownHours : PyFloat) (trippedAt now : DateTime) :
    Except PyError Bool := do
  let elapsed ← now.sub trippedAt
  let cooldown ← timedeltaHours cooldownHours
  .ok (decide (cooldown ≤ elapsed))

/-- The reason a tripped breaker rejects with. -/
def trippedReason [FloatFormat] (breaker : TimedCircuitBreaker) : Except PyError String := do
  let streak ← intText breaker.lossStreak
  let hours := FloatFormat.repr breaker.cooldownHours
  .ok s!"ERR_TIMED_CIRCUIT_BREAKER: tripped after {streak} consecutive losses, cooldown {hours}h"

/-- A tripped breaker blocks the trade. -/
def blockTripped [FloatFormat] (breaker : TimedCircuitBreaker) (decision : RiskDecision) :
    Except PyError (Bool × RiskDecision) :=
  breaker.trippedReason.map fun reason => decision.settle (some reason)

/-- Return whether the trade may proceed past this breaker; an elapsed cooldown clears it. -/
def check [FloatFormat] (breaker : TimedCircuitBreaker) (decision : RiskDecision)
    (now : Option DateTime) : Except PyError (Bool × RiskDecision) × TimedCircuitBreaker :=
  if breaker.tripped then
    match breaker.trippedAt, now with
    | some trippedAt, some now =>
      if timezoneMode now != timezoneMode trippedAt then
        (.ok (decision.settle (some "ERR_INVALID_TIMEZONE_MIXED")), breaker)
      else match cooldownElapsed breaker.cooldownHours trippedAt now with
        | .error raised => (.error raised, breaker)
        | .ok true => (.ok (decision.settle none), breaker.reset)
        | .ok false => (breaker.blockTripped decision, breaker)
    | _, _ => (breaker.blockTripped decision, breaker)
  else (.ok (decision.settle none), breaker)

/-- `to_state()` -/
def toState (breaker : TimedCircuitBreaker) : Except PyError TimedCircuitBreakerState :=
  TimedCircuitBreakerState.new breaker.consecutiveLossThreshold (.float breaker.cooldownHours)
    breaker.lossStreak breaker.tripped breaker.trippedAt

/-- `from_state(state)` -/
def fromState [FloatFormat] (state : TimedCircuitBreakerState) :
    Except PyError TimedCircuitBreaker := do
  let breaker ← new state.consecutiveLossThreshold state.cooldownHours
  .ok { breaker with
    lossStreak := state.lossStreak, tripped := state.tripped, trippedAt := state.trippedAt }

/-- The snapshot of a breaker, field by field. -/
def stateOf (breaker : TimedCircuitBreaker) : TimedCircuitBreakerState :=
  { consecutiveLossThreshold := breaker.consecutiveLossThreshold
    cooldownHours := .float breaker.cooldownHours
    lossStreak := breaker.lossStreak
    tripped := breaker.tripped
    trippedAt := breaker.trippedAt
    thresholdPos := breaker.thresholdPos
    cooldownAccepted := breaker.cooldownAccepted }

/-- The snapshot's checks accept every breaker. -/
theorem toState_eq (breaker : TimedCircuitBreaker) : breaker.toState = .ok breaker.stateOf :=
  TimedCircuitBreakerState.new_self breaker.stateOf

/-- A float cooldown is kept as it is. -/
theorem new_float [FloatFormat] (threshold : ℕ) (hours : PyFloat) (positive : 1 ≤ threshold)
    (accepted : hours.le 0 = false) :
    new threshold (.float hours) = .ok ⟨threshold, hours, 0, false, none, positive, accepted⟩ := by
  have threshold_ok : ¬ (threshold : ℤ) < 1 := by omega
  have hours_ok : ¬ ((PyNum.float hours).exact.le 0 = true) := by simp [PyNum.exact, accepted]
  simp only [new, dif_neg threshold_ok, dif_neg hours_ok, Int.toNat_natCast]

/-- A snapshot with a float cooldown restores to a breaker with its fields. -/
theorem fromState_float [FloatFormat] (state : TimedCircuitBreakerState) (hours : PyFloat)
    (float : state.cooldownHours = .float hours) :
    ∃ accepted, fromState state = .ok
      ⟨state.consecutiveLossThreshold, hours, state.lossStreak, state.tripped, state.trippedAt,
        state.thresholdPos, accepted⟩ := by
  have accepted : hours.le 0 = false := by
    have checked := state.cooldownAccepted
    rwa [float] at checked
  refine ⟨accepted, ?_⟩
  simp only [fromState, float, new_float _ _ state.thresholdPos accepted, bind, Except.bind]

/-- A breaker is restored from its snapshot unchanged. -/
theorem fromState_stateOf [FloatFormat] (breaker : TimedCircuitBreaker) :
    fromState breaker.stateOf = .ok breaker := by
  obtain ⟨_, restored⟩ := fromState_float breaker.stateOf breaker.cooldownHours rfl
  exact restored

/-- The cooldown of the current trip has elapsed at `now`. -/
def Elapsed [FloatFormat] (breaker : TimedCircuitBreaker) (now : Option DateTime) : Prop :=
  ∃ trippedAt current, breaker.trippedAt = some trippedAt ∧ now = some current ∧
    timezoneMode current = timezoneMode trippedAt ∧
    cooldownElapsed breaker.cooldownHours trippedAt current = .ok true

/-- Without a trip time or a current time no cooldown elapses. -/
theorem not_elapsed [FloatFormat] {breaker : TimedCircuitBreaker} {now : Option DateTime}
    (untimed : breaker.trippedAt = none ∨ now = none) : ¬ breaker.Elapsed now := by
  rintro ⟨_, _, since, current, _⟩
  rcases untimed with untimed | untimed
  · rw [untimed] at since
    contradiction
  · rw [untimed] at current
    contradiction

/-- With both times, the cooldown has elapsed when the modes agree and the test holds. -/
theorem elapsed_iff [FloatFormat] {breaker : TimedCircuitBreaker} {trippedAt : DateTime}
    (since : breaker.trippedAt = some trippedAt) (current : DateTime) :
    breaker.Elapsed (some current) ↔ timezoneMode current = timezoneMode trippedAt ∧
      cooldownElapsed breaker.cooldownHours trippedAt current = .ok true := by
  constructor
  · rintro ⟨_, _, since', current', mode, lapsed⟩
    rw [since] at since'
    cases since'
    cases current'
    exact ⟨mode, lapsed⟩
  · rintro ⟨mode, lapsed⟩
    exact ⟨trippedAt, current, since, rfl, mode, lapsed⟩

/-- The reason a check rejects with, if it does. -/
def rejection [FloatFormat] (breaker : TimedCircuitBreaker) (now : Option DateTime) :
    Except PyError (Option String) :=
  if breaker.tripped then
    match breaker.trippedAt, now with
    | some trippedAt, some now =>
      if timezoneMode now != timezoneMode trippedAt then .ok (some "ERR_INVALID_TIMEZONE_MIXED")
      else match cooldownElapsed breaker.cooldownHours trippedAt now with
        | .error raised => .error raised
        | .ok true => .ok none
        | .ok false => breaker.trippedReason.map some
    | _, _ => breaker.trippedReason.map some
  else .ok none

/-- A tripped breaker that blocks the trade rejects it, or raises when it cannot write the
reason. -/
theorem blocked_cases [FloatFormat] {breaker : TimedCircuitBreaker} {decision : RiskDecision}
    {now : Option DateTime} (rejects : breaker.rejection now = breaker.trippedReason.map some)
    (checked : breaker.check decision now = (breaker.blockTripped decision, breaker)) :
    (∃ reason, breaker.rejection now = .ok (some reason) ∧
      breaker.check decision now = (.ok (decision.settle (some reason)), breaker)) ∨
    (∃ raised, breaker.rejection now = .error raised ∧
      breaker.check decision now = (.error raised, breaker)) := by
  rw [rejects, checked, blockTripped]
  cases breaker.trippedReason with
  | error raised => exact .inr ⟨raised, rfl, rfl⟩
  | ok reason => exact .inl ⟨reason, rfl, rfl⟩

/-- A check passes an untripped breaker, clears an elapsed trip, and otherwise rejects or
raises; only the second changes the breaker. -/
theorem check_cases [FloatFormat] (breaker : TimedCircuitBreaker) (decision : RiskDecision)
    (now : Option DateTime) :
    (breaker.tripped = false ∧ breaker.rejection now = .ok none ∧
      breaker.check decision now = (.ok (true, decision), breaker)) ∨
    (breaker.tripped = true ∧ breaker.Elapsed now ∧ breaker.rejection now = .ok none ∧
      breaker.check decision now = (.ok (true, decision), breaker.reset)) ∨
    (breaker.tripped = true ∧ ¬ breaker.Elapsed now ∧ ∃ reason,
      breaker.rejection now = .ok (some reason) ∧
      breaker.check decision now = (.ok (decision.settle (some reason)), breaker)) ∨
    (breaker.tripped = true ∧ ¬ breaker.Elapsed now ∧ ∃ raised,
      breaker.rejection now = .error raised ∧
      breaker.check decision now = (.error raised, breaker)) := by
  cases tripped : breaker.tripped with
  | false =>
    exact .inl ⟨rfl, by simp [rejection, tripped], by simp [check, tripped, RiskDecision.settle]⟩
  | true =>
    right
    cases since : breaker.trippedAt with
    | none =>
      have running : ¬ breaker.Elapsed now := not_elapsed (.inl since)
      have rejects : breaker.rejection now = breaker.trippedReason.map some := by
        simp [rejection, tripped, since]
      have checked : breaker.check decision now = (breaker.blockTripped decision, breaker) := by
        simp [check, tripped, since]
      rcases blocked_cases rejects checked with halted | failed
      · exact .inr (.inl ⟨rfl, running, halted⟩)
      · exact .inr (.inr ⟨rfl, running, failed⟩)
    | some trippedAt =>
      cases now with
      | none =>
        have running : ¬ breaker.Elapsed none := not_elapsed (.inr rfl)
        have rejects : breaker.rejection none = breaker.trippedReason.map some := by
          simp [rejection, tripped, since]
        have checked : breaker.check decision none = (breaker.blockTripped decision, breaker) := by
          simp [check, tripped, since]
        rcases blocked_cases rejects checked with halted | failed
        · exact .inr (.inl ⟨rfl, running, halted⟩)
        · exact .inr (.inr ⟨rfl, running, failed⟩)
      | some current =>
        have lapses := elapsed_iff since current
        by_cases mode : timezoneMode current = timezoneMode trippedAt
        · cases lapsed : cooldownElapsed breaker.cooldownHours trippedAt current with
          | error raised =>
            have running : ¬ breaker.Elapsed (some current) := by simp [lapses, lapsed]
            exact .inr (.inr ⟨rfl, running, raised,
              by simp [rejection, tripped, since, mode, lapsed],
              by simp [check, tripped, since, mode, lapsed]⟩)
          | ok done =>
            cases done with
            | true =>
              exact .inl ⟨rfl, lapses.mpr ⟨mode, lapsed⟩,
                by simp [rejection, tripped, since, mode, lapsed],
                by simp [check, tripped, since, mode, lapsed, RiskDecision.settle]⟩
            | false =>
              have running : ¬ breaker.Elapsed (some current) := by simp [lapses, lapsed]
              have rejects : breaker.rejection (some current) =
                  breaker.trippedReason.map some := by
                simp [rejection, tripped, since, mode, lapsed]
              have checked : breaker.check decision (some current) =
                  (breaker.blockTripped decision, breaker) := by
                simp [check, tripped, since, mode, lapsed]
              rcases blocked_cases rejects checked with halted | failed
              · exact .inr (.inl ⟨rfl, running, halted⟩)
              · exact .inr (.inr ⟨rfl, running, failed⟩)
        · have running : ¬ breaker.Elapsed (some current) :=
            fun elapsed => mode (lapses.mp elapsed).1
          exact .inr (.inl ⟨rfl, running, "ERR_INVALID_TIMEZONE_MIXED",
            by simp [rejection, tripped, since, mode], by simp [check, tripped, since, mode]⟩)

/-- A record is ignored, ends the streak, extends it, or completes it and trips. -/
theorem record_cases (breaker : TimedCircuitBreaker) (pnl : PyNum) (at' : Option DateTime) :
    ((isFinite pnl = false ∨ breaker.tripped = true) ∧ breaker.record pnl at' = breaker) ∨
    (isFinite pnl = true ∧ breaker.tripped = false ∧ pnl.exact.lt 0 = false ∧
      breaker.record pnl at' = { breaker with lossStreak := 0 }) ∨
    (isFinite pnl = true ∧ breaker.tripped = false ∧ pnl.exact.lt 0 = true ∧
      breaker.lossStreak + 1 < breaker.consecutiveLossThreshold ∧
      breaker.record pnl at' = { breaker with lossStreak := breaker.lossStreak + 1 }) ∨
    (isFinite pnl = true ∧ breaker.tripped = false ∧ pnl.exact.lt 0 = true ∧
      breaker.consecutiveLossThreshold ≤ breaker.lossStreak + 1 ∧
      breaker.record pnl at' =
        { breaker with
          lossStreak := breaker.lossStreak + 1, tripped := true, trippedAt := at' }) := by
  cases finite : isFinite pnl with
  | false => exact .inl ⟨.inl rfl, by simp [record, finite]⟩
  | true =>
    cases tripped : breaker.tripped with
    | true => exact .inl ⟨.inr rfl, by simp [record, finite, tripped]⟩
    | false =>
      right
      cases loss : pnl.exact.lt 0 with
      | false => exact .inl ⟨rfl, rfl, rfl, by simp [record, finite, tripped, loss]⟩
      | true =>
        right
        by_cases reached : breaker.consecutiveLossThreshold ≤ breaker.lossStreak + 1
        · exact .inr ⟨rfl, rfl, rfl, reached, by simp [record, finite, tripped, loss, reached]⟩
        · exact .inl ⟨rfl, rfl, rfl, by omega, by simp [record, finite, tripped, loss, reached]⟩

/-- While the breaker is tripped, records change nothing. -/
theorem record_of_tripped {breaker : TimedCircuitBreaker} (tripped : breaker.tripped = true)
    (pnl : PyNum) (at' : Option DateTime) : breaker.record pnl at' = breaker := by
  rcases record_cases breaker pnl at' with ⟨_, same⟩ | ⟨_, clear, _⟩ | ⟨_, clear, _⟩ |
    ⟨_, clear, _⟩
  · exact same
  all_goals
    rw [tripped] at clear
    contradiction

/-- A record that raises the tripped flag stores its own time. -/
theorem record_trips {breaker : TimedCircuitBreaker} {pnl : PyNum} {at' : Option DateTime}
    (clear : breaker.tripped = false) (raised : (breaker.record pnl at').tripped = true) :
    (breaker.record pnl at').trippedAt = at' := by
  rcases record_cases breaker pnl at' with ⟨_, same⟩ | ⟨_, _, _, same⟩ | ⟨_, _, _, _, same⟩ |
    ⟨_, _, _, _, same⟩ <;> rw [same] at raised ⊢
  all_goals exact absurd raised (by simp [clear])

/-- A record leaves the cooldown alone. -/
@[simp] theorem record_cooldownHours (breaker : TimedCircuitBreaker) (pnl : PyNum)
    (at' : Option DateTime) : (breaker.record pnl at').cooldownHours = breaker.cooldownHours := by
  rcases record_cases breaker pnl at' with ⟨_, same⟩ | ⟨_, _, _, same⟩ | ⟨_, _, _, _, same⟩ |
    ⟨_, _, _, _, same⟩ <;> rw [same]

/-- A reset breaker is not tripped. -/
@[simp] theorem reset_tripped (breaker : TimedCircuitBreaker) :
    breaker.reset.tripped = false := rfl

end TimedCircuitBreaker

/-- Rolling-window consecutive-loss gate. -/
structure ConsecutiveLossGate where
  maxLosses : ℕ
  windowTrades : ℕ
  /-- `True` is a loss. -/
  history : List Bool
  /-- At least one loss is tolerated. -/
  maxLossesPos : 1 ≤ maxLosses
  /-- The limit fits the window. -/
  maxLossesFit : maxLosses ≤ windowTrades
  /-- The history never outgrows the window. -/
  historyFits : history.length ≤ windowTrades

namespace ConsecutiveLossGate

/-- The constructor. -/
def new (maxLosses windowTrades : ℤ) : Except PyError ConsecutiveLossGate :=
  if positive : maxLosses < 1 then .error (.valueError "max_losses must be >= 1")
  else if windowTrades < 1 then .error (.valueError "window_trades must be >= 1")
  else if fit : maxLosses > windowTrades then
    .error (.valueError "max_losses cannot exceed window_trades")
  else .ok
    { maxLosses := maxLosses.toNat, windowTrades := windowTrades.toNat, history := []
      maxLossesPos := one_le_toNat positive
      maxLossesFit := by omega
      historyFits := Nat.zero_le _ }

/-- `history[-window:]`, taken when the history has outgrown the window. -/
def trimmed (window : ℕ) (history : List Bool) : List Bool :=
  if history.length > window then history.drop (history.length - window) else history

/-- A trimmed history is no longer than the window. -/
theorem trimmed_length (window : ℕ) (history : List Bool) :
    (trimmed window history).length ≤ window := by
  unfold trimmed
  split
  · rw [List.length_drop]
    omega
  · omega

/-- Feed a resolved trade's PnL. NaN and infinite inputs are ignored. -/
def record (gate : ConsecutiveLossGate) (pnl : PyNum) : ConsecutiveLossGate :=
  if !isFinite pnl then gate
  else
    { gate with
      history := trimmed gate.windowTrades (gate.history ++ [pnl.exact.lt 0])
      historyFits := trimmed_length _ _ }

/-- The branches of `check`. -/
def rejection (gate : ConsecutiveLossGate) : Option String :=
  -- Not enough history to evaluate.
  if gate.history.length < gate.windowTrades then none
  else
    let losses := gate.history.count true
    if losses > gate.maxLosses then
      let window := gate.windowTrades
      let limit := gate.maxLosses
      some s!"ERR_CONSECUTIVE_LOSS_GATE: {losses} losses in last {window} trades (limit {limit})"
    else none

/-- Return whether the trade may proceed past this gate. -/
def check (gate : ConsecutiveLossGate) (decision : RiskDecision) : Bool × RiskDecision :=
  decision.settle gate.rejection

/-- Clear the rolling history. -/
def reset (gate : ConsecutiveLossGate) : ConsecutiveLossGate :=
  { gate with history := [], historyFits := Nat.zero_le _ }

/-- `to_state()` -/
def toState (gate : ConsecutiveLossGate) : Except PyError ConsecutiveLossGateState :=
  ConsecutiveLossGateState.new gate.maxLosses gate.windowTrades gate.history

/-- An accepted constructor call keeps its window. -/
theorem new_window {maxLosses windowTrades : ℤ} {gate : ConsecutiveLossGate}
    (built : new maxLosses windowTrades = .ok gate) : (gate.windowTrades : ℤ) = windowTrades := by
  unfold new at built
  split at built
  · contradiction
  · split at built
    · contradiction
    · split at built
      · contradiction
      · cases built
        exact Int.toNat_of_nonneg (by omega)

/-- `from_state(state)` -/
def fromState (state : ConsecutiveLossGateState) : Except PyError ConsecutiveLossGate :=
  match built : new state.maxLosses state.windowTrades with
  | .error raised => .error raised
  | .ok gate => .ok
    { gate with
      history := state.history
      historyFits := by
        have window := new_window built
        have fits := state.historyFits
        omega }

/-- The snapshot of a loss gate, field by field. -/
def stateOf (gate : ConsecutiveLossGate) : ConsecutiveLossGateState :=
  { maxLosses := gate.maxLosses
    windowTrades := gate.windowTrades
    history := gate.history
    maxLossesPos := gate.maxLossesPos
    maxLossesFit := gate.maxLossesFit
    historyFits := gate.historyFits }

/-- The snapshot's checks accept every loss gate. -/
theorem toState_eq (gate : ConsecutiveLossGate) : gate.toState = .ok gate.stateOf :=
  ConsecutiveLossGateState.new_self gate.stateOf

/-- Every snapshot of a loss gate restores to a gate with its fields. -/
theorem fromState_eq (state : ConsecutiveLossGateState) :
    fromState state = .ok
      ⟨state.maxLosses, state.windowTrades, state.history, state.maxLossesPos, state.maxLossesFit,
        state.historyFits⟩ := by
  have positive := state.maxLossesPos
  have fit := state.maxLossesFit
  have accepted : new state.maxLosses state.windowTrades = .ok
      ⟨state.maxLosses, state.windowTrades, [], positive, fit, Nat.zero_le _⟩ := by
    unfold new
    rw [dif_neg (by omega), if_neg (by omega), dif_neg (by omega)]
    simp only [Int.toNat_natCast]
  unfold fromState
  split
  · rename_i refused
    rw [accepted] at refused
    contradiction
  · rename_i gate built
    rw [accepted] at built
    cases built
    rfl

/-- A loss gate is restored from its snapshot unchanged. -/
theorem fromState_stateOf (gate : ConsecutiveLossGate) : fromState gate.stateOf = .ok gate :=
  fromState_eq gate.stateOf

end ConsecutiveLossGate

end VerdictRisk
