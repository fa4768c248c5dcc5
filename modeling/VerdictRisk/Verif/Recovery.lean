import VerdictRisk.Python.Serializable
import VerdictRisk.Python.Chronology
import VerdictRisk.Verif.BreakerStates
import VerdictRisk.Verif.DeskHalt

/-!
# Recovery

A halt ends by itself when its cooldown is over, which the breaker can only see from a trip time
and a cooldown that `timedelta` can hold. Neither is checked where it is given: the time of a
record is optional, and the constructor refuses a cooldown only when it compares as zero or
below. So a trip without a time lasts until a manual reset, and a check of a timed trip with a
cooldown that does not fit raises.
-/

namespace VerdictRisk

open Python

/-- `timedelta(hours=cooldown_hours)` does not raise. -/
def CooldownFits [FloatFormat] (cooldownHours : PyFloat) : Prop :=
  ∃ cooldown, timedeltaHours cooldownHours = .ok cooldown

/-- A time of a given mode at a given instant. -/
def timeAt (mode : TimezoneMode) (instant : ℤ) : DateTime :=
  match mode with
  | .naive => ⟨instant, none⟩
  | .aware => ⟨instant, some (.fixed 0)⟩

/-- There is a time at every instant in every timezone mode. -/
theorem timeAt_facts (mode : TimezoneMode) (instant : ℤ) :
    timezoneMode (timeAt mode instant) = mode ∧ (timeAt mode instant).OffsetInRange ∧
      (timeAt mode instant).instant = instant := by
  cases mode with
  | naive =>
    refine ⟨rfl, ?_, Int.sub_zero instant⟩
    intro offset given
    contradiction
  | aware =>
    refine ⟨rfl, ?_, Int.sub_zero instant⟩
    intro offset given
    cases given
    exact ⟨by decide, by decide⟩

namespace TimedCircuitBreaker

variable [FloatFormat]

/-- Time alone clears the breaker: a check at any late enough time of some timezone mode lets the
trade proceed and leaves the breaker as a reset does. -/
def Recoverable (breaker : TimedCircuitBreaker) : Prop :=
  ∃ mode late, ∀ now : DateTime, timezoneMode now = mode → now.OffsetInRange →
    late ≤ now.instant → ∀ decision,
      breaker.check decision (some now) = (.ok (true, decision), breaker.reset)

/-- The trip of this breaker has a time and a cooldown that fits. -/
def Timed (breaker : TimedCircuitBreaker) : Prop :=
  breaker.trippedAt.isSome = true ∧ CooldownFits breaker.cooldownHours

/-- A check clears a tripped breaker exactly when the cooldown has elapsed. -/
theorem check_clears_iff {breaker : TimedCircuitBreaker} (tripped : breaker.tripped = true)
    (decision : RiskDecision) (now : Option DateTime) :
    breaker.check decision now = (.ok (true, decision), breaker.reset) ↔ breaker.Elapsed now := by
  rcases breaker.check_cases decision now with ⟨clear, _⟩ | ⟨_, lapsed, _, checked⟩ |
    ⟨_, running, _, _, checked⟩ | ⟨_, running, _, _, checked⟩
  · rw [tripped] at clear
    contradiction
  · exact iff_of_true checked lapsed
  · refine iff_of_false ?_ running
    rw [checked]
    intro same
    cases congrArg Prod.fst same
  · refine iff_of_false ?_ running
    rw [checked]
    intro same
    cases congrArg Prod.fst same

/-- A trip can be waited out exactly when it has a time and its cooldown fits. -/
theorem recoverable_iff {breaker : TimedCircuitBreaker} (tripped : breaker.tripped = true) :
    breaker.Recoverable ↔ breaker.Timed := by
  constructor
  · rintro ⟨mode, late, clears⟩
    obtain ⟨sameMode, inRange, instant⟩ := timeAt_facts mode late
    have cleared := clears (timeAt mode late) sameMode inRange (le_of_eq instant.symm)
      ⟨true, "OK", 0, rfl⟩
    rw [check_clears_iff tripped] at cleared
    obtain ⟨since, _, known, _, _, lapsed⟩ := cleared
    obtain ⟨_, cooldown, _, duration, _⟩ := (cooldownElapsed_iff _ _ _).mp lapsed
    exact ⟨by rw [known, Option.isSome_some], cooldown, duration⟩
  · rintro ⟨known, cooldown, duration⟩
    obtain ⟨since, known⟩ := Option.isSome_iff_exists.mp known
    obtain ⟨late, passed⟩ := since.sub_eventually cooldown
    refine ⟨timezoneMode since, late, ?_⟩
    intro now mode inRange reached decision
    rw [check_clears_iff tripped, elapsed_iff known, cooldownElapsed_iff]
    obtain ⟨elapsed, difference, enough⟩ :=
      passed now ((timezoneMode_eq_iff _ _).mp mode) inRange reached
    exact ⟨mode, elapsed, cooldown, difference, duration, enough⟩

/-- This record trips the breaker. -/
def Trips (breaker : TimedCircuitBreaker) (pnl : PyNum) : Prop :=
  breaker.tripped = false ∧ isFinite pnl = true ∧ pnl.exact.lt 0 = true ∧
    breaker.consecutiveLossThreshold ≤ breaker.lossStreak + 1

omit [FloatFormat] in
/-- A record trips the breaker with its own time, or leaves the flag and the trip time alone. -/
theorem record_trips_or (breaker : TimedCircuitBreaker) (pnl : PyNum) (at' : Option DateTime) :
    (breaker.Trips pnl ∧ breaker.record pnl at' =
      { breaker with lossStreak := breaker.lossStreak + 1, tripped := true, trippedAt := at' }) ∨
    (¬ breaker.Trips pnl ∧ (breaker.record pnl at').tripped = breaker.tripped ∧
      (breaker.record pnl at').trippedAt = breaker.trippedAt) := by
  rcases breaker.record_cases pnl at' with ⟨ignored, same⟩ | ⟨_, _, win, same⟩ |
    ⟨_, _, _, below, same⟩ | ⟨finite, clear, loss, reached, same⟩ <;> rw [same]
  · right
    refine ⟨?_, rfl, rfl⟩
    rintro ⟨clear, finite, _⟩
    rcases ignored with infinite | tripped
    · rw [finite] at infinite
      contradiction
    · rw [clear] at tripped
      contradiction
  · right
    refine ⟨?_, rfl, rfl⟩
    rintro ⟨_, _, loss, _⟩
    rw [win] at loss
    contradiction
  · right
    refine ⟨?_, rfl, rfl⟩
    rintro ⟨_, _, _, reached⟩
    omega
  · exact .inl ⟨⟨clear, finite, loss, reached⟩, rfl⟩

end TimedCircuitBreaker

namespace RiskAuthority

variable [FloatFormat]

/-- A tripped breaker recovers by time alone. -/
def RecoversByTime (authority : RiskAuthority) : Prop :=
  ∀ breaker, authority.timedBreaker = some breaker → breaker.tripped = true → breaker.Recoverable

/-- A breaker that starts tripped has a trip time and a cooldown that fits. -/
def StartsTimed (authority : RiskAuthority) : Prop :=
  ∀ breaker, authority.timedBreaker = some breaker → breaker.tripped = true → breaker.Timed

/-- A record that trips the breaker is given a time, and the cooldown fits. -/
def TimedTrip (authority : RiskAuthority) : DeskOp → Prop
  | .record pnl at' => ∀ breaker, authority.timedBreaker = some breaker → breaker.Trips pnl →
      at'.isSome = true ∧ CooldownFits breaker.cooldownHours
  | _ => True

/-- A tripped breaker recovers by time alone exactly when it has a trip time and a cooldown that
fits. -/
theorem recoversByTime_iff (authority : RiskAuthority) :
    authority.RecoversByTime ↔ authority.StartsTimed := by
  constructor
  · intro recovers breaker held tripped
    exact (breaker.recoverable_iff tripped).mp (recovers breaker held tripped)
  · intro timed breaker held tripped
    exact (breaker.recoverable_iff tripped).mpr (timed breaker held tripped)

/-- Without a tripped breaker there is nothing to wait out. -/
theorem startsTimed_of_clear {authority : RiskAuthority}
    (clear : ∀ breaker, authority.timedBreaker = some breaker → breaker.tripped = false) :
    authority.StartsTimed := by
  intro breaker held tripped
  rw [clear breaker held] at tripped
  contradiction

/-- A record keeps trips timed exactly when it times the trip it raises. -/
theorem record_timed_iff {authority : RiskAuthority} (timed : authority.StartsTimed)
    (pnl : PyNum) (at' : Option DateTime) :
    (authority.recordResolvedTrade pnl at').StartsTimed ↔
      authority.TimedTrip (.record pnl at') := by
  constructor
  · intro later breaker held trips
    have recorded : (authority.recordResolvedTrade pnl at').timedBreaker =
        some (breaker.record pnl at') := congrArg (Option.map _) held
    rcases breaker.record_trips_or pnl at' with ⟨_, same⟩ | ⟨calm, _⟩
    · rw [same] at recorded
      exact later _ recorded rfl
    · exact absurd trips calm
  · intro meets later recorded tripped
    obtain ⟨breaker, held, rfl⟩ := Option.map_eq_some_iff.mp recorded
    rcases breaker.record_trips_or pnl at' with ⟨trips, same⟩ | ⟨_, flag, since⟩
    · rw [same]
      exact meets breaker held trips
    · rw [flag] at tripped
      rw [TimedCircuitBreaker.Timed, since, TimedCircuitBreaker.record_cooldownHours]
      exact timed breaker held tripped

/-- An evaluation trips no breaker. -/
theorem evaluate_timed {authority : RiskAuthority} (timed : authority.StartsTimed)
    (ctx : RiskContext) (call : TradeCall) (clock : Clock) :
    (authority.evaluateWithState ctx call clock).authority.StartsTimed := by
  obtain ⟨onward, path, same⟩ := authority.evaluateWithState_authority ctx call clock
  rw [StartsTimed, same.timedBreaker]
  rcases path with rfl | passes
  · exact timed
  · cases passes with
    | absent _ => exact timed
    | clear _ _ _ => exact timed
    | elapsed breaker _ _ _ =>
      apply startsTimed_of_clear
      intro cleared held
      cases held
      exact breaker.reset_tripped

/-- One operation keeps trips recoverable exactly when it times the trip it raises. -/
theorem next_recovers_iff (authority : RiskAuthority) (op : DeskOp)
    (recovers : authority.RecoversByTime) :
    (desk.next authority op).RecoversByTime ↔ authority.TimedTrip op := by
  rw [recoversByTime_iff] at recovers ⊢
  cases op with
  | record pnl at' => exact record_timed_iff recovers pnl at'
  | evaluate ctx call clock => exact iff_of_true (evaluate_timed recovers ctx call clock) trivial
  | resetBreaker =>
    refine iff_of_true (startsTimed_of_clear ?_) trivial
    intro cleared held
    obtain ⟨breaker, _, rfl⟩ := Option.map_eq_some_iff.mp held
    exact breaker.reset_tripped
  | recover ctx onTrip =>
    refine iff_of_true ?_ trivial
    change (authority.recover ctx onTrip).StartsTimed
    rw [recover_eq]
    exact recovers
  | tripSwitch _ => exact iff_of_true recovers trivial
  | resetSwitch => exact iff_of_true recovers trivial
  | resetLossGate => exact iff_of_true recovers trivial

/-- Every trip of a session, at whatever point the session is left, can be waited out exactly when
the trip it starts with is timed and each record that trips the breaker is given a time, with a
cooldown that fits. -/
theorem trips_recover_iff (authority : RiskAuthority) (session : List DeskOp) :
    (∀ past, past <+: session → (desk.after authority past).RecoversByTime) ↔
      authority.StartsTimed ∧ desk.Along TimedTrip authority session := by
  rw [Runs.Machine.holds_throughout_iff desk next_recovers_iff, recoversByTime_iff]

end RiskAuthority

section Examples

attribute [local instance] FloatFormat.exact

/-- A single loss recorded without a time trips a breaker of threshold one for good. -/
theorem untimed_trip_never_recovers : ∃ breaker,
    TimedCircuitBreaker.new 1 (.float 24) = .ok breaker ∧
      let desk' := desk.after (.new none (some breaker) none false)
        [.record (.float (.finite (-1))) none]
      desk'.breakerTripped = true ∧ ¬ desk'.RecoversByTime := by
  have accepted : (24 : PyFloat).le 0 = false := by decide +kernel
  refine ⟨_, TimedCircuitBreaker.new_float 1 24 (le_refl 1) accepted, ?_⟩
  let start : TimedCircuitBreaker := ⟨1, 24, 0, false, none, le_refl 1, accepted⟩
  have loss : (PyNum.float (.finite (-1))).exact.lt 0 = true := by decide +kernel
  rcases start.record_trips_or (.float (.finite (-1))) none with ⟨_, same⟩ | ⟨calm, _⟩
  · let tripped : TimedCircuitBreaker := ⟨1, 24, 1, true, none, le_refl 1, accepted⟩
    have held : (desk.after (.new none (some start) none false)
        [.record (.float (.finite (-1))) none]).timedBreaker = some tripped := congrArg some same
    refine ⟨congrArg (Option.any _) held, ?_⟩
    rw [RiskAuthority.recoversByTime_iff]
    intro timed
    have known := (timed tripped held rfl).1
    contradiction
  · exact absurd ⟨rfl, rfl, loss, le_refl 1⟩ calm

end Examples

namespace TimedCircuitBreaker

variable [FloatFormat]

/-- What keeps the checks of a breaker from raising. -/
structure Answerable (breaker : TimedCircuitBreaker) : Prop where
  /-- The cooldown is within the range of `timedelta`. -/
  fits : CooldownFits breaker.cooldownHours
  /-- The streak of a later trip can be written. -/
  threshold : breaker.consecutiveLossThreshold < textLimit
  /-- The streak of the current trip, or of one at the next loss, can be written. -/
  streak : (if breaker.tripped then breaker.lossStreak else breaker.lossStreak + 1) < textLimit

/-- With the flag down and nothing counted, only the threshold may have to be written. -/
theorem Answerable.fresh {breaker later : TimedCircuitBreaker} (answerable : breaker.Answerable)
    (hours : later.cooldownHours = breaker.cooldownHours)
    (threshold : later.consecutiveLossThreshold = breaker.consecutiveLossThreshold)
    (clear : later.tripped = false) (nothing : later.lossStreak = 0) : later.Answerable := by
  have positive := breaker.thresholdPos
  have bounded := answerable.threshold
  refine ⟨hours ▸ answerable.fits, threshold ▸ bounded, ?_⟩
  rw [clear, nothing, if_neg Bool.false_ne_true]
  omega

/-- No operation makes a check raise that could not raise before. -/
theorem answerable_next {breaker : TimedCircuitBreaker} (op : BreakerOp)
    (answerable : breaker.Answerable) : (operations.next breaker op).Answerable := by
  have bounded := answerable.threshold
  cases op with
  | record pnl at' =>
    change (breaker.record pnl at').Answerable
    rcases breaker.record_cases pnl at' with ⟨_, same⟩ | ⟨_, clear, _, same⟩ |
      ⟨_, clear, _, below, same⟩ | ⟨_, clear, _, reached, same⟩ <;> rw [same]
    · exact answerable
    · exact answerable.fresh rfl rfl clear rfl
    · refine ⟨answerable.fits, bounded, ?_⟩
      rw [clear, if_neg Bool.false_ne_true]
      show breaker.lossStreak + 1 + 1 < textLimit
      omega
    · have counted := answerable.streak
      rw [clear, if_neg Bool.false_ne_true] at counted
      exact ⟨answerable.fits, bounded, counted⟩
  | check decision now =>
    change (breaker.check decision now).2.Answerable
    rcases breaker.check_cases decision now with ⟨_, _, same⟩ | ⟨_, _, _, same⟩ |
      ⟨_, _, _, _, same⟩ | ⟨_, _, _, _, same⟩ <;> rw [same]
    · exact answerable
    · exact answerable.fresh rfl rfl rfl rfl
    · exact answerable
    · exact answerable
  | reset => exact answerable.fresh rfl rfl rfl rfl

/-- The reason of a trip can be written exactly when the streak has few enough digits. -/
theorem trippedReason_returns_iff (breaker : TimedCircuitBreaker) :
    (∃ reason, breaker.trippedReason = .ok reason) ↔ breaker.lossStreak < textLimit := by
  have written := intText_returns_iff breaker.lossStreak
  rw [Int.natAbs_natCast] at written
  rw [← written]
  unfold trippedReason
  cases intText breaker.lossStreak with
  | error raised => simp [bind, Except.bind]
  | ok text => simp [bind, Except.bind]

/-- A check of an answerable breaker returns. -/
theorem check_returns {breaker : TimedCircuitBreaker} (answerable : breaker.Answerable)
    (decision : RiskDecision) (now : Option DateTime) :
    ∃ answer, (breaker.check decision now).1 = .ok answer := by
  have blocked : breaker.tripped = true → ∃ answer, breaker.blockTripped decision = .ok answer := by
    intro tripped
    have short := answerable.streak
    rw [if_pos tripped] at short
    obtain ⟨reason, written⟩ := breaker.trippedReason_returns_iff.mpr short
    exact ⟨decision.settle (some reason), by rw [blockTripped, written]; rfl⟩
  obtain ⟨cooldown, duration⟩ := answerable.fits
  unfold check
  by_cases tripped : breaker.tripped = true
  · rw [if_pos tripped]
    split
    · rename_i since current known
      split
      · exact ⟨_, rfl⟩
      · rename_i mode
        have mode : timezoneMode current = timezoneMode since := by simpa using mode
        obtain ⟨elapsed, difference⟩ := DateTime.sub_ok ((timezoneMode_eq_iff _ _).mp mode)
        have lapses : cooldownElapsed breaker.cooldownHours since current =
            .ok (decide (cooldown ≤ elapsed)) := by
          simp only [cooldownElapsed, difference, duration, bind, Except.bind]
        rw [lapses]
        cases decide (cooldown ≤ elapsed) with
        | true => exact ⟨_, rfl⟩
        | false => exact blocked tripped
    · exact blocked tripped
  · rw [if_neg tripped]
    exact ⟨_, rfl⟩

/-- Every breaker can be made to trip at a given time, or without one, exactly at its threshold. -/
theorem halted_reached (start : TimedCircuitBreaker) (since : Option DateTime) :
    ∃ ops, operations.after start ops =
      ofPhase start.thresholdPos start.cooldownAccepted (.halted since) := by
  have positive := start.thresholdPos
  have accepted := start.cooldownAccepted
  obtain ⟨ops, reached⟩ :=
    (Phase.halted since).reached positive (Over positive accepted)
  have run := after_ofPhase positive accepted (Phase.fresh positive) ops
  rw [reached] at run
  exact ⟨.reset :: ops, run.symm⟩

/-- Where a trip at a time can be checked at that time, the cooldown fits. -/
theorem cooldownFits_of_check {breaker : TimedCircuitBreaker} {since : DateTime}
    (tripped : breaker.tripped = true) (known : breaker.trippedAt = some since)
    {decision : RiskDecision} {answer : Bool × RiskDecision}
    (checked : (breaker.check decision (some since)).1 = .ok answer) :
    CooldownFits breaker.cooldownHours := by
  cases duration : timedeltaHours breaker.cooldownHours with
  | ok cooldown => exact ⟨cooldown, duration⟩
  | error raised =>
    obtain ⟨elapsed, difference⟩ := DateTime.sub_ok (rfl : since.utcoffset.isSome = _)
    have failed : cooldownElapsed breaker.cooldownHours since since = .error raised := by
      simp only [cooldownElapsed, difference, duration, bind, Except.bind]
    simp only [check, tripped, known, failed, bne_self_eq_false, Bool.false_eq_true, if_true,
      if_false] at checked
    contradiction

/-- Where a trip can be checked without a time, its streak has few enough digits. -/
theorem lossStreak_of_check {breaker : TimedCircuitBreaker} (tripped : breaker.tripped = true)
    {decision : RiskDecision} {answer : Bool × RiskDecision}
    (checked : (breaker.check decision none).1 = .ok answer) : breaker.lossStreak < textLimit := by
  rw [← trippedReason_returns_iff]
  have blocked : (breaker.check decision none).1 = breaker.blockTripped decision := by
    unfold check
    rw [if_pos tripped]
    cases breaker.trippedAt <;> rfl
  rw [blocked, blockTripped] at checked
  cases written : breaker.trippedReason with
  | ok reason => exact ⟨reason, rfl⟩
  | error raised =>
    rw [written] at checked
    contradiction

/-- No check raises, in whatever state the operations have left the breaker and at whatever time,
exactly when the breaker is answerable. Every breaker is one that `from_state` accepts. -/
theorem checks_return_iff (start : TimedCircuitBreaker) :
    (∀ ops decision now,
      ∃ answer, ((operations.after start ops).check decision now).1 = .ok answer) ↔
      start.Answerable := by
  let decision : RiskDecision := ⟨true, "OK", 0, rfl⟩
  constructor
  · intro returns
    obtain ⟨timed, reached⟩ := start.halted_reached (some ⟨0, none⟩)
    obtain ⟨_, checked⟩ := returns timed decision (some ⟨0, none⟩)
    rw [reached] at checked
    obtain ⟨untimed, reached⟩ := start.halted_reached none
    obtain ⟨_, blocked⟩ := returns untimed decision none
    rw [reached] at blocked
    have fits : CooldownFits (ofPhase start.thresholdPos start.cooldownAccepted
        (.halted (some ⟨0, none⟩))).cooldownHours := cooldownFits_of_check rfl rfl checked
    have threshold : start.consecutiveLossThreshold < textLimit := lossStreak_of_check rfl blocked
    refine ⟨fits, threshold, ?_⟩
    by_cases tripped : start.tripped = true
    · rw [if_pos tripped]
      obtain ⟨_, written⟩ := returns [] decision none
      exact lossStreak_of_check tripped written
    · rw [if_neg tripped]
      obtain ⟨_, written⟩ := returns [Phase.loss none] decision none
      change ((start.record (.float (.finite (-1))) none).check decision none).1 = _ at written
      rcases start.record_trips_or (.float (.finite (-1))) none with ⟨_, same⟩ | ⟨calm, _⟩
      · rw [same] at written
        exact lossStreak_of_check rfl written
      · have loss : (PyNum.float (.finite (-1))).exact.lt 0 = true := by decide +kernel
        have below : ¬ start.consecutiveLossThreshold ≤ start.lossStreak + 1 :=
          fun reached => calm ⟨Bool.eq_false_iff.mpr tripped, rfl, loss, reached⟩
        omega
  · intro answerable ops decision now
    have kept : (operations.after start ops).Answerable :=
      operations.after_invariant answerable (fun _ op => answerable_next op) ops
    exact check_returns kept decision now

end TimedCircuitBreaker

section Examples

open TimedCircuitBreaker

attribute [local instance] FloatFormat.exact

/-- A cooldown of NaN is accepted, and the first check after a timed trip raises. -/
theorem nan_cooldown_raises : ∃ breaker, new 1 (.float .nan) = .ok breaker ∧
    ((operations.after breaker [.record (.float (.finite (-1))) (some ⟨0, none⟩)]).check
      ⟨true, "OK", 0, rfl⟩ (some ⟨3600000000, none⟩)).1 =
        .error (.valueError "cannot convert float NaN to integer") := by
  refine ⟨_, new_float 1 .nan (le_refl 1) rfl, ?_⟩
  let start : TimedCircuitBreaker := ⟨1, .nan, 0, false, none, le_refl 1, rfl⟩
  have loss : (PyNum.float (.finite (-1))).exact.lt 0 = true := by decide +kernel
  change ((start.record (.float (.finite (-1))) (some ⟨0, none⟩)).check _ _).1 = _
  rcases start.record_trips_or (.float (.finite (-1))) (some ⟨0, none⟩) with ⟨_, same⟩ | ⟨calm, _⟩
  · rw [same]
    rfl
  · exact absurd ⟨rfl, rfl, loss, le_refl 1⟩ calm

end Examples

end VerdictRisk
