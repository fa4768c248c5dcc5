import VerdictRisk.Verif.Recovery

/-!
# Spellings of a time

A breaker compares its cooldown with `now - tripped_at`, and Python subtracts wall clocks where
the two values carry one `tzinfo` object. When the object has changed its offset in between, the
wall clocks are not as far apart as the instants, so a check can depend on the zone in which a time
is written. Two runs over the same instants answer alike exactly when the one reads instants
wherever the other does.
-/

namespace VerdictRisk

open Python

/-- One time, as two runs write it: of one timezone mode and at one instant. -/
structure Restated where
  first : DateTime
  second : DateTime
  sameMode : timezoneMode first = timezoneMode second
  sameInstant : first.instant = second.instant

namespace TimedCircuitBreaker

variable [FloatFormat]

/-- The cooldown of the current trip is over at `now` by the instants of the two times. -/
def InstantsElapsed (breaker : TimedCircuitBreaker) (now : Option DateTime) : Prop :=
  ∃ since current cooldown, breaker.trippedAt = some since ∧ now = some current ∧
    timezoneMode current = timezoneMode since ∧
    timedeltaHours breaker.cooldownHours = .ok cooldown ∧
    cooldown ≤ current.instant - since.instant

/-- Where the times of a trip and of its check carry one zone object, the wall clocks reach the
cooldown exactly when the instants do. -/
def ReadsInstants (breaker : TimedCircuitBreaker) (now : Option DateTime) : Prop :=
  ∀ since current cooldown, breaker.tripped = true → breaker.trippedAt = some since →
    now = some current → timezoneMode current = timezoneMode since →
    timedeltaHours breaker.cooldownHours = .ok cooldown → current.sameZone since = true →
    (cooldown ≤ current.wall - since.wall ↔ cooldown ≤ current.instant - since.instant)

/-- With both times of one mode and a cooldown that fits, the check compares the cooldown with the
wall clocks of one zone object, or with the instants. -/
theorem elapsed_reads {breaker : TimedCircuitBreaker} {since current : DateTime} {cooldown : ℤ}
    (known : breaker.trippedAt = some since) (mode : timezoneMode current = timezoneMode since)
    (duration : timedeltaHours breaker.cooldownHours = .ok cooldown) :
    (breaker.InstantsElapsed (some current) ↔ cooldown ≤ current.instant - since.instant) ∧
      (breaker.Elapsed (some current) ↔
        if current.sameZone since then cooldown ≤ current.wall - since.wall
        else cooldown ≤ current.instant - since.instant) := by
  constructor
  · constructor
    · rintro ⟨since', current', cooldown', known', now, _, duration', reached⟩
      cases known.symm.trans known'
      cases now
      cases duration.symm.trans duration'
      exact reached
    · intro reached
      exact ⟨since, current, cooldown, known, rfl, mode, duration, reached⟩
  · rw [elapsed_iff known, cooldownElapsed_iff]
    have difference : current.sub since = .ok (if current.sameZone since then
        current.wall - since.wall else current.instant - since.instant) := by
      by_cases same : current.sameZone since = true
      · rw [DateTime.sub, if_pos same, if_pos same]
      · rw [if_neg same]
        have consistent : current.Consistent since := fun shared => absurd shared same
        exact DateTime.sub_instants ((timezoneMode_eq_iff _ _).mp mode) consistent
    constructor
    · rintro ⟨_, elapsed, cooldown', difference', duration', reached⟩
      cases difference.symm.trans difference'
      cases duration.symm.trans duration'
      split at reached
      · rename_i same
        rwa [if_pos same]
      · rename_i same
        rwa [if_neg same]
    · intro reached
      refine ⟨mode, _, cooldown, difference, duration, ?_⟩
      split
      · rename_i same
        rwa [if_pos same] at reached
      · rename_i same
        rwa [if_neg same] at reached

/-- A check of a tripped breaker reads instants exactly when it finds the cooldown elapsed where
the instants say so. -/
theorem readsInstants_iff {breaker : TimedCircuitBreaker} (tripped : breaker.tripped = true)
    (now : Option DateTime) :
    breaker.ReadsInstants now ↔ (breaker.Elapsed now ↔ breaker.InstantsElapsed now) := by
  constructor
  · intro reads
    constructor
    · rintro ⟨since, current, known, rfl, mode, lapsed⟩
      obtain ⟨_, cooldown, _, duration, _⟩ := (cooldownElapsed_iff _ _ _).mp lapsed
      obtain ⟨instants, elapsed⟩ := elapsed_reads known mode duration
      have reached := elapsed.mp ⟨since, current, known, rfl, mode, lapsed⟩
      rw [instants]
      split at reached
      · rename_i same
        exact (reads since current cooldown tripped known rfl mode duration same).mp reached
      · exact reached
    · rintro ⟨since, current, cooldown, known, rfl, mode, duration, reached⟩
      rw [(elapsed_reads known mode duration).2]
      split
      · rename_i same
        exact (reads since current cooldown tripped known rfl mode duration same).mpr reached
      · exact reached
  · rintro agree since current cooldown - known rfl mode duration same
    obtain ⟨instants, elapsed⟩ := elapsed_reads known mode duration
    rw [if_pos same] at elapsed
    rw [← instants, ← elapsed]
    exact agree

/-- Two breakers that differ at most in how the time of their trip is written. -/
def Restates (left right : TimedCircuitBreaker) : Prop :=
  ∃ since : Option Restated, left.trippedAt = since.map Restated.first ∧
    right = { left with trippedAt := since.map Restated.second }

/-- By the instants, restated times elapse alike. -/
theorem instantsElapsed_restated {left right : TimedCircuitBreaker} (restates : left.Restates right)
    (now : Option Restated) :
    left.InstantsElapsed (now.map Restated.first) ↔
      right.InstantsElapsed (now.map Restated.second) := by
  obtain ⟨since, known, rfl⟩ := restates
  constructor
  · rintro ⟨_, _, cooldown, known', here, mode, duration, reached⟩
    rw [known'] at known
    obtain ⟨trip, rfl, rfl⟩ := Option.map_eq_some_iff.mp known.symm
    obtain ⟨current, rfl, rfl⟩ := Option.map_eq_some_iff.mp here
    rw [current.sameMode, trip.sameMode] at mode
    rw [current.sameInstant, trip.sameInstant] at reached
    exact ⟨trip.second, current.second, cooldown, rfl, rfl, mode, duration, reached⟩
  · rintro ⟨_, _, cooldown, known', here, mode, duration, reached⟩
    obtain ⟨trip, rfl, rfl⟩ := Option.map_eq_some_iff.mp known'
    obtain ⟨current, rfl, rfl⟩ := Option.map_eq_some_iff.mp here
    rw [← current.sameMode, ← trip.sameMode] at mode
    rw [← current.sameInstant, ← trip.sameInstant] at reached
    exact ⟨trip.first, current.first, cooldown, known, rfl, mode, duration, reached⟩

/-- A running trip of one mode is rejected with its reason, once the cooldown has been read. -/
theorem rejection_running {breaker : TimedCircuitBreaker} {since current : DateTime}
    (tripped : breaker.tripped = true) (known : breaker.trippedAt = some since)
    (mode : timezoneMode current = timezoneMode since)
    (running : ¬ breaker.Elapsed (some current)) :
    breaker.rejection (some current) =
      timedeltaHours breaker.cooldownHours >>= fun _ => breaker.trippedReason.map some := by
  obtain ⟨elapsed, difference⟩ := DateTime.sub_ok ((timezoneMode_eq_iff _ _).mp mode)
  rw [elapsed_iff known, cooldownElapsed_iff] at running
  have agree : (timezoneMode current != timezoneMode since) = false := by simp [mode]
  cases duration : timedeltaHours breaker.cooldownHours with
  | error raised =>
    have failed : cooldownElapsed breaker.cooldownHours since current = .error raised := by
      simp only [cooldownElapsed, difference, duration, bind, Except.bind]
    simp only [rejection, tripped, known, agree, failed, if_true, Bool.false_eq_true, if_false]
    rfl
  | ok cooldown =>
    have short : ¬ cooldown ≤ elapsed :=
      fun reached => running ⟨mode, elapsed, cooldown, difference, duration, reached⟩
    have lasts : cooldownElapsed breaker.cooldownHours since current = .ok false := by
      simp only [cooldownElapsed, difference, duration, bind, Except.bind, short, decide_false]
    simp only [rejection, tripped, known, agree, lasts, if_true, Bool.false_eq_true, if_false]
    rfl

/-- Restated trips that have not elapsed are rejected for one reason. -/
theorem rejection_restated {left right : TimedCircuitBreaker} (restates : left.Restates right)
    {now : Option Restated} (running : ¬ left.Elapsed (now.map Restated.first))
    (running' : ¬ right.Elapsed (now.map Restated.second)) :
    left.rejection (now.map Restated.first) = right.rejection (now.map Restated.second) := by
  obtain ⟨since, known, rfl⟩ := restates
  by_cases tripped : left.tripped = true
  · cases since with
    | none => simp [rejection, tripped, known, trippedReason]
    | some trip =>
      cases now with
      | none => simp [rejection, tripped, known, trippedReason]
      | some current =>
        by_cases mode : timezoneMode current.first = timezoneMode trip.first
        · have mode' : timezoneMode current.second = timezoneMode trip.second := by
            rw [← current.sameMode, ← trip.sameMode]
            exact mode
          let right : TimedCircuitBreaker := { left with trippedAt := some trip.second }
          have tripped' : right.tripped = true := tripped
          have known' : right.trippedAt = some trip.second := rfl
          have rejected := rejection_running tripped known mode running
          have rejected' := rejection_running tripped' known' mode' running'
          exact rejected.trans rejected'.symm
        · have mode' : ¬ timezoneMode current.second = timezoneMode trip.second := by
            rw [← current.sameMode, ← trip.sameMode]
            exact mode
          simp [rejection, tripped, known, mode, mode']
  · simp [rejection, tripped]

/-- A check of a running trip answers with its rejection and keeps the breaker. -/
theorem check_running {breaker : TimedCircuitBreaker} (tripped : breaker.tripped = true)
    {now : Option DateTime} (running : ¬ breaker.Elapsed now) (decision : RiskDecision) :
    breaker.check decision now = ((breaker.rejection now).map decision.settle, breaker) ∧
      (breaker.check decision now).1 ≠ .ok (true, decision) := by
  rcases breaker.check_cases decision now with ⟨clear, _⟩ | ⟨_, lapsed, _⟩ |
    ⟨_, _, reason, rejects, checked⟩ | ⟨_, _, raised, rejects, checked⟩
  · rw [tripped] at clear
    contradiction
  · exact absurd lapsed running
  · rw [checked, rejects]
    refine ⟨rfl, ?_⟩
    intro same
    cases same
  · rw [checked, rejects]
    refine ⟨rfl, ?_⟩
    intro same
    cases same

/-- Checks of restated trips are answered alike exactly when the cooldown has elapsed in both or in
neither, and then they leave restated breakers. -/
theorem check_restated {left right : TimedCircuitBreaker} (restates : left.Restates right)
    (tripped : left.tripped = true) (decision : RiskDecision) (now : Option Restated) :
    ((left.check decision (now.map Restated.first)).1 =
        (right.check decision (now.map Restated.second)).1 ↔
      (left.Elapsed (now.map Restated.first) ↔ right.Elapsed (now.map Restated.second))) ∧
    ((left.Elapsed (now.map Restated.first) ↔ right.Elapsed (now.map Restated.second)) →
      (left.check decision (now.map Restated.first)).2.Restates
        (right.check decision (now.map Restated.second)).2) := by
  have tripped' : right.tripped = true := by
    obtain ⟨_, _, rfl⟩ := restates
    exact tripped
  have cleared : left.reset.Restates right.reset := by
    obtain ⟨_, _, rfl⟩ := restates
    exact ⟨none, rfl, rfl⟩
  by_cases lapsed : left.Elapsed (now.map Restated.first)
  · have checked := (check_clears_iff tripped decision _).mpr lapsed
    by_cases lapsed' : right.Elapsed (now.map Restated.second)
    · have checked' := (check_clears_iff tripped' decision _).mpr lapsed'
      rw [checked, checked']
      exact ⟨iff_of_true rfl (iff_of_true lapsed lapsed'), fun _ => cleared⟩
    · obtain ⟨_, differs⟩ := check_running tripped' lapsed' decision
      rw [checked]
      refine ⟨iff_of_false differs.symm ?_, ?_⟩
      · exact fun same => lapsed' (same.mp lapsed)
      · exact fun same => absurd (same.mp lapsed) lapsed'
  · obtain ⟨checked, differs⟩ := check_running tripped lapsed decision
    by_cases lapsed' : right.Elapsed (now.map Restated.second)
    · have checked' := (check_clears_iff tripped' decision _).mpr lapsed'
      rw [checked']
      refine ⟨iff_of_false differs ?_, ?_⟩
      · exact fun same => lapsed (same.mpr lapsed')
      · exact fun same => absurd (same.mpr lapsed') lapsed
    · obtain ⟨checked', _⟩ := check_running tripped' lapsed' decision
      have rejected := rejection_restated restates lapsed lapsed'
      rw [checked, checked', rejected]
      exact ⟨iff_of_true rfl (iff_of_false lapsed lapsed'), fun _ => restates⟩

omit [FloatFormat] in
/-- Records leave restated breakers restated, whatever time they give the trip. -/
theorem record_restated {left right : TimedCircuitBreaker} (restates : left.Restates right)
    (pnl : PyNum) (at' : Option Restated) :
    (left.record pnl (at'.map Restated.first)).Restates
      (right.record pnl (at'.map Restated.second)) := by
  obtain ⟨since, known, rfl⟩ := restates
  unfold record
  dsimp only
  split
  · exact ⟨since, known, rfl⟩
  · split
    · exact ⟨since, known, rfl⟩
    · split
      · split
        · exact ⟨at', rfl, rfl⟩
        · exact ⟨since, known, rfl⟩
      · exact ⟨since, known, rfl⟩

end TimedCircuitBreaker

/-- One operation of two runs that write the times differently. -/
inductive RestatedOp where
  | record (pnl : PyNum) (at' : Option Restated)
  | check (decision : RiskDecision) (now : Option Restated)
  | reset

namespace RestatedOp

/-- The operation of the first run. -/
def first : RestatedOp → BreakerOp
  | record pnl at' => .record pnl (at'.map Restated.first)
  | check decision now => .check decision (now.map Restated.first)
  | reset => .reset

/-- The operation of the second run. -/
def second : RestatedOp → BreakerOp
  | record pnl at' => .record pnl (at'.map Restated.second)
  | check decision now => .check decision (now.map Restated.second)
  | reset => .reset

end RestatedOp

/-- An operation that is a check reads instants. -/
def BreakerOp.ReadsInstants [FloatFormat] (breaker : TimedCircuitBreaker) : BreakerOp → Prop
  | .check _ now => breaker.ReadsInstants now
  | _ => True

namespace TimedCircuitBreaker

variable [FloatFormat]

/-- Against a check that reads instants, a restated check is answered alike exactly when it reads
instants too, and then it leaves restated breakers. -/
theorem next_restated {left right : TimedCircuitBreaker} (restates : left.Restates right)
    (op : RestatedOp) (reads : op.second.ReadsInstants right) :
    (operations.answer left op.first = operations.answer right op.second ↔
        op.first.ReadsInstants left) ∧
      (op.first.ReadsInstants left →
        (operations.next left op.first).Restates (operations.next right op.second)) := by
  cases op with
  | record pnl at' =>
    exact ⟨iff_of_true rfl trivial, fun _ => record_restated restates pnl at'⟩
  | reset =>
    obtain ⟨_, _, rfl⟩ := restates
    exact ⟨iff_of_true rfl trivial, fun _ => ⟨none, rfl, rfl⟩⟩
  | check decision now =>
    by_cases tripped : left.tripped = true
    · have tripped' : right.tripped = true := by
        obtain ⟨_, _, rfl⟩ := restates
        exact tripped
      obtain ⟨alike, onward⟩ := check_restated restates tripped decision now
      have reads' := (readsInstants_iff tripped' _).mp reads
      have instants : left.ReadsInstants (now.map Restated.first) ↔
          (left.Elapsed (now.map Restated.first) ↔ right.Elapsed (now.map Restated.second)) := by
        rw [readsInstants_iff tripped, instantsElapsed_restated restates now, ← reads']
      constructor
      · change some _ = some _ ↔ left.ReadsInstants (now.map Restated.first)
        rw [Option.some.injEq, instants]
        exact alike
      · intro reads
        exact onward (instants.mp reads)
    · have clear : left.tripped = false := Bool.eq_false_iff.mpr tripped
      have clear' : right.tripped = false := by
        obtain ⟨_, _, rfl⟩ := restates
        exact clear
      have checked :
          left.check decision (now.map Restated.first) = (.ok (true, decision), left) := by
        simp [check, clear, RiskDecision.settle]
      have checked' : right.check decision (now.map Restated.second) =
          (.ok (true, decision), right) := by
        simp [check, clear', RiskDecision.settle]
      have reads : left.ReadsInstants (now.map Restated.first) :=
        fun _ _ _ up => absurd up tripped
      constructor
      · refine iff_of_true ?_ reads
        change some (left.check decision (now.map Restated.first)).1 =
          some (right.check decision (now.map Restated.second)).1
        rw [checked, checked']
      · intro _
        change (left.check decision (now.map Restated.first)).2.Restates
          (right.check decision (now.map Restated.second)).2
        rw [checked, checked']
        exact restates

/-- Every check of a run reads instants. -/
def ReadsInstantsAlong (start : TimedCircuitBreaker) (ops : List BreakerOp) : Prop :=
  operations.Along (fun breaker op => op.ReadsInstants breaker) start ops

/-- Two runs over the same instants, from one breaker up to how the time of its trip is written, of
which one reads instants throughout: every check is answered alike exactly when the other reads
instants throughout. The run of which that is assumed is the one to compare with: it holds where a
trip and its checks are written at fixed offsets or in different zone objects, as after a snapshot,
or in one zone object that keeps its offset. Not covered are two runs that both let a cooldown end
by the wall clock of one zone object whose offset changes in between. -/
theorem restated_checks_agree_iff (start : TimedCircuitBreaker) (since : Option Restated)
    (run : List RestatedOp)
    (instants : ReadsInstantsAlong { start with trippedAt := since.map Restated.second }
      (run.map RestatedOp.second)) :
    operations.answers { start with trippedAt := since.map Restated.first }
        (run.map RestatedOp.first) =
      operations.answers { start with trippedAt := since.map Restated.second }
        (run.map RestatedOp.second) ↔
    ReadsInstantsAlong { start with trippedAt := since.map Restated.first }
      (run.map RestatedOp.first) := by
  have related : Restates { start with trippedAt := since.map Restated.first }
      { start with trippedAt := since.map Restated.second } := ⟨since, rfl, rfl⟩
  apply operations.twins_alike_iff ?_ ?_ related instants
  · intro left right op restates reads
    exact (next_restated restates op reads).1
  · intro left right op restates reads
    exact (next_restated restates op reads).2

end TimedCircuitBreaker

section Examples

open TimedCircuitBreaker

attribute [local instance] FloatFormat.exact

/-- Noon in a zone that is four hours behind UTC, as its own object writes it and as a snapshot
does. -/
def noon : Restated where
  first := ⟨12 * hourMicroseconds, some (.zone 0 (some (-4 * hourMicroseconds)) false)⟩
  second := ⟨12 * hourMicroseconds, some (.fixed (-4 * hourMicroseconds))⟩
  sameMode := rfl
  sameInstant := rfl

/-- Eleven o'clock on the next day in the same zone, now five hours behind UTC. -/
def nextDay : Restated where
  first := ⟨35 * hourMicroseconds, some (.zone 0 (some (-5 * hourMicroseconds)) false)⟩
  second := ⟨35 * hourMicroseconds, some (.zone 0 (some (-5 * hourMicroseconds)) false)⟩
  sameMode := rfl
  sameInstant := rfl

/-- A breaker trips at noon, and is checked a day later by the instants and 23 hours later by the
wall clock. -/
def overnight (decision : RiskDecision) : List RestatedOp :=
  [.record (.float (.finite (-1))) (some noon), .check decision (some nextDay)]

/-- The run that reads the trip time of a snapshot reads instants, so the two runs agree exactly
when the other does. -/
theorem overnight_agree_iff : ∃ start decision, new 1 (.float 24) = .ok start ∧
    (operations.answers start ((overnight decision).map RestatedOp.first) =
        operations.answers start ((overnight decision).map RestatedOp.second) ↔
      start.ReadsInstantsAlong ((overnight decision).map RestatedOp.first)) := by
  let start : TimedCircuitBreaker := ⟨1, 24, 0, false, none, le_refl 1, by decide +kernel⟩
  have tripped : (start.record (.float (.finite (-1))) (some noon.second)).trippedAt =
      some noon.second := by decide +kernel
  have reads : (start.record (.float (.finite (-1))) (some noon.second)).ReadsInstants
      (some nextDay.second) := by
    intro since current cooldown _ known now _ _ same
    rw [tripped] at known
    cases known
    cases now
    contradiction
  let decision : RiskDecision := ⟨true, "OK", 0, rfl⟩
  exact ⟨start, decision, new_float 1 24 (le_refl 1) start.cooldownAccepted,
    restated_checks_agree_iff start none (overnight decision) ⟨trivial, reads, trivial⟩⟩

/-- Which operations of a run are checks that let the trade proceed. -/
def passes (answers : List (Option (Except PyError (Bool × RiskDecision)))) : List Bool :=
  answers.map fun answer => answer.any fun checked => checked.toOption.any (·.1)

/-- The check overnight passes when the trip time has been through a snapshot, and not before. -/
theorem snapshot_ends_cooldown : ∃ start decision, new 1 (.float 24) = .ok start ∧
    operations.answers start ((overnight decision).map RestatedOp.first) ≠
      operations.answers start ((overnight decision).map RestatedOp.second) := by
  let start : TimedCircuitBreaker := ⟨1, 24, 0, false, none, le_refl 1, by decide +kernel⟩
  let decision : RiskDecision := ⟨true, "OK", 0, rfl⟩
  refine ⟨start, decision, new_float 1 24 (le_refl 1) start.cooldownAccepted, ?_⟩
  have zoned : passes (operations.answers start ((overnight decision).map RestatedOp.first)) =
      [false, false] := by decide +kernel
  have restored : passes (operations.answers start ((overnight decision).map RestatedOp.second)) =
      [false, true] := by decide +kernel
  intro same
  have alike := congrArg passes same
  rw [zoned, restored] at alike
  contradiction

end Examples

end VerdictRisk
