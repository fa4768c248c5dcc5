import VerdictRisk.Snapshot
import VerdictRisk.Engine

/-!
# Restored snapshots

The constructors of the gates accept more than a snapshot can carry: a cooldown that is not
finite is written as `null` and refused on the way back. A snapshot is restored to an equal
one exactly when JSON can carry the numbers and the trip times of the authority.
-/

namespace VerdictRisk

open Python Python.Fields

section Restored

variable [FloatFormat] {codec : Msgspec}

/-- The integer is the value of a double. -/
def HeldByDouble (n : ℤ) : Prop :=
  (FloatFormat.round n).isFinite = true ∧ (FloatFormat.round n).value = n

/-- What JSON can carry of an authority and its context: integer limits that doubles hold, a
finite cooldown and trip times whose offset does not depend on `fold`. -/
structure Carried (authority : RiskAuthority) (ctx : RiskContext) : Prop where
  limits : ∀ x ∈ [ctx.maxDailyDrawdownPct, ctx.maxWeeklyDrawdownPct, ctx.maxCorrelatedExposure,
    ctx.minExpectedValue, ctx.consecutiveLossWindowMinutes], ∀ n, x.val = .int n → HeldByDouble n
  switchTime : ∀ switch, authority.killSwitch = some switch →
    ∀ trippedAt, switch.trippedAt = some trippedAt → trippedAt.folded = false
  cooldown : ∀ breaker, authority.timedBreaker = some breaker →
    breaker.cooldownHours.isFinite = true
  breakerTime : ∀ breaker, authority.timedBreaker = some breaker →
    ∀ trippedAt, breaker.trippedAt = some trippedAt → trippedAt.folded = false

/-- The trip times of an authority, if they have offsets, have whole-minute ones. -/
def WholeMinuteTrips (authority : RiskAuthority) : Prop :=
  (∀ switch, authority.killSwitch = some switch →
    ∀ trippedAt, switch.trippedAt = some trippedAt → trippedAt.WholeMinute) ∧
  ∀ breaker, authority.timedBreaker = some breaker →
    ∀ trippedAt, breaker.trippedAt = some trippedAt → trippedAt.WholeMinute

/-- A checked limit survives unless it is an integer no double holds. -/
theorem limit_survives_iff (x : FiniteNum) :
    (Slot.number : Slot codec PyNum).Survives x.val ↔ ∀ n, x.val = .int n → HeldByDouble n := by
  obtain ⟨x, checked⟩ := x
  rw [Slot.number_survives_iff]
  cases x with
  | int n =>
    simp only [PyNum.toFloat, PyNum.eq, PyNum.exact, PyNum.int.injEq, forall_eq', HeldByDouble]
    apply and_congr_right
    intro finite
    rw [PyFloat.eq_iff rfl finite]
    exact eq_comm
  | float x =>
    have finite : x.isFinite = true := checked
    have equal : x.eq x = true := (PyFloat.eq_iff finite finite).mpr rfl
    simp [PyNum.toFloat, PyNum.eq, PyNum.exact, finite, equal]

omit [FloatFormat] in
/-- An optional trip time survives when its offset does not depend on `fold`. -/
theorem trippedAt_survives_iff (codec : Msgspec) {trippedAt : Option DateTime}
    (whole : ∀ dt, trippedAt = some dt → dt.WholeMinute) :
    (Slot.timestamp : Slot codec DateTime).orNull.Survives trippedAt ↔
      ∀ dt, trippedAt = some dt → dt.folded = false := by
  rw [Slot.orNull_survives]
  refine forall_congr' fun dt => forall_congr' fun given => ?_
  rw [Slot.timestamp_survives (whole dt given)]
  exact and_iff_right Json.noConfusion

/-- A context survives when every integer limit does. -/
theorem context_survives_iff (ctx : RiskContext) : (RiskContext.slot codec).Survives ctx ↔
    ∀ x ∈ [ctx.maxDailyDrawdownPct, ctx.maxWeeklyDrawdownPct, ctx.maxCorrelatedExposure,
      ctx.minExpectedValue, ctx.consecutiveLossWindowMinutes], ∀ n, x.val = .int n →
      HeldByDouble n := by
  rw [RiskContext.slot, struct_survives, RiskContext.fields]
  simp only [build_survives, field_survives, one_survives, limit_survives_iff, Slot.int_survives,
    true_and, List.forall_mem_cons, List.not_mem_nil, false_implies, implies_true, and_true]

omit [FloatFormat] in
/-- A kill switch survives when its trip time does. -/
theorem killSwitch_survives_iff {switch : Option KillSwitch}
    (whole : ∀ held, switch = some held →
      ∀ trippedAt, held.trippedAt = some trippedAt → trippedAt.WholeMinute) :
    (KillSwitchState.slot codec).orNull.Survives (switch.map KillSwitch.toState) ↔
      ∀ held, switch = some held →
        ∀ trippedAt, held.trippedAt = some trippedAt → trippedAt.folded = false := by
  cases switch with
  | none => simp
  | some held =>
    have time := trippedAt_survives_iff codec (whole held rfl)
    simp [KillSwitchState.slot, KillSwitchState.fields, KillSwitch.toState, time]

/-- A breaker survives when its cooldown is finite and its trip time survives. -/
theorem timedBreaker_survives_iff {breaker : Option TimedCircuitBreaker}
    (whole : ∀ held, breaker = some held →
      ∀ trippedAt, held.trippedAt = some trippedAt → trippedAt.WholeMinute) :
    (TimedCircuitBreakerState.slot codec).orNull.Survives
      (breaker.map TimedCircuitBreaker.stateOf) ↔
      (∀ held, breaker = some held → held.cooldownHours.isFinite = true) ∧
      ∀ held, breaker = some held →
        ∀ trippedAt, held.trippedAt = some trippedAt → trippedAt.folded = false := by
  cases breaker with
  | none => simp
  | some held =>
    have time := trippedAt_survives_iff codec (whole held rfl)
    have cooldown : (held.cooldownHours.isFinite = true ∧
        held.cooldownHours.eq held.cooldownHours = true) ↔ held.cooldownHours.isFinite = true :=
      and_iff_left_of_imp fun finite => (PyFloat.eq_iff finite finite).mpr rfl
    simp [TimedCircuitBreakerState.slot, TimedCircuitBreakerState.fields,
      TimedCircuitBreaker.stateOf, PyNum.toFloat, PyNum.eq, PyNum.exact, cooldown, time]

omit [FloatFormat] in
/-- A loss gate survives. -/
theorem lossGate_survives (gate : Option ConsecutiveLossGateState) :
    (ConsecutiveLossGateState.slot codec).orNull.Survives gate := by
  rw [Slot.orNull_survives]
  intro state _
  simp [ConsecutiveLossGateState.slot, ConsecutiveLossGateState.fields]

/-- A state is restored as an equal one when its fields survive. -/
theorem restored_equal_iff [Unicode] (state : RiskState) :
    (∃ back, RiskState.fromJson codec (.ok (state.toJson codec)) = .ok back ∧
      state.eq codec back = true) ↔ (RiskState.slot codec).Survives state := by
  rw [← (RiskState.slot codec).read_write]
  refine exists_congr fun back => and_congr_left fun _ => ?_
  rw [RiskState.fromJson_ok_iff]
  constructor
  · rintro ⟨raw, written, _, _, read⟩
    cases written
    exact read
  · intro read
    have keys : Json.keys ((RiskState.fields codec).write state) = RiskState.allowedKeys :=
      (RiskState.fields codec).keys_write state
    have version : Json.lookup "schema_version" ((RiskState.fields codec).write state) =
        some (.int state.schemaVersion) := rfl
    refine ⟨_, rfl, fun key => by rw [keys], ?_, read⟩
    rw [version, state.versionSupported]
    rfl

/-- A snapshot is restored as an equal one exactly when JSON can carry the authority and its
context. -/
theorem snapshot_restored_iff [Unicode] (authority : RiskAuthority) (ctx : RiskContext)
    (whole : WholeMinuteTrips authority) :
    ∃ state, authority.snapshotState ctx = .ok state ∧
      ((∃ back, RiskState.fromJson codec (.ok (state.toJson codec)) = .ok back ∧
        state.eq codec back = true) ↔ Carried authority ctx) := by
  refine ⟨authority.stateOf ctx, authority.snapshotState_eq ctx, ?_⟩
  obtain ⟨wholeSwitch, wholeBreaker⟩ := whole
  have fields : (RiskState.slot codec).Survives (authority.stateOf ctx) ↔
      (RiskContext.slot codec).Survives ctx ∧
      (KillSwitchState.slot codec).orNull.Survives (authority.killSwitch.map KillSwitch.toState) ∧
      (TimedCircuitBreakerState.slot codec).orNull.Survives
        (authority.timedBreaker.map TimedCircuitBreaker.stateOf) ∧
      (ConsecutiveLossGateState.slot codec).orNull.Survives
        (authority.consecutiveLossGate.map ConsecutiveLossGate.stateOf) :=
    and_iff_right trivial
  rw [restored_equal_iff, fields, context_survives_iff, killSwitch_survives_iff wholeSwitch,
    timedBreaker_survives_iff wholeBreaker]
  constructor
  · rintro ⟨limits, switchTime, ⟨cooldown, breakerTime⟩, _⟩
    exact ⟨limits, switchTime, cooldown, breakerTime⟩
  · intro carried
    exact ⟨carried.limits, carried.switchTime, ⟨carried.cooldown, carried.breakerTime⟩,
      lossGate_survives _⟩

end Restored

section Examples

attribute [local instance] FloatFormat.exact Unicode.allPrintable

/-- A desk with every gate, its switch tripped without a time. -/
def trippedDesk : RiskAuthority :=
  .new (some ((KillSwitch.new "ERR_KILL_SWITCH_MANUAL").trip none))
    ((TimedCircuitBreaker.new 3 (.float 24)).toOption.map (·.record (.float (.finite (-1))) none))
    (ConsecutiveLossGate.new 2 3).toOption false

/-- A desk with every gate is restored as it was. -/
theorem tripped_desk_restored : ∃ state, trippedDesk.snapshotState .default = .ok state ∧
    ∃ back, RiskState.fromJson .counting (.ok (state.toJson .counting)) = .ok back ∧
      state.eq .counting back = true := by
  have whole : WholeMinuteTrips trippedDesk := by
    constructor
    · rintro switch ⟨⟩ trippedAt ⟨⟩
    · rintro breaker ⟨⟩ trippedAt ⟨⟩
  obtain ⟨state, captured, restored⟩ :=
    @snapshot_restored_iff _ .counting _ trippedDesk .default whole
  refine ⟨state, captured, restored.mpr ⟨?_, ?_, ?_, ?_⟩⟩
  · exact fun _ _ _ _ => ⟨rfl, rfl⟩
  · rintro switch ⟨⟩ trippedAt ⟨⟩
  · rintro breaker ⟨⟩
    rfl
  · rintro breaker ⟨⟩ trippedAt ⟨⟩

/-- A desk whose breaker never cools down. -/
def endlessCooldown : RiskAuthority :=
  .new none (TimedCircuitBreaker.new 3 (.float .posInf)).toOption none false

/-- The constructor accepts an infinite cooldown and the desk is captured, but its snapshot is
refused. -/
theorem endless_cooldown_refused : endlessCooldown.timedBreaker.isSome = true ∧
    ∃ state, endlessCooldown.snapshotState .default = .ok state ∧
      ∀ back, RiskState.fromJson .counting (.ok (state.toJson .counting)) ≠ .ok back := by
  refine ⟨rfl, endlessCooldown.stateOf .default, endlessCooldown.snapshotState_eq _, ?_⟩
  intro back restored
  obtain ⟨raw, written, _, _, read⟩ := RiskState.fromJson_ok_iff.mp restored
  cases written
  have refused : (RiskState.fields .counting).read
      ((RiskState.fields .counting).write (endlessCooldown.stateOf .default)) = none := rfl
  rw [refused] at read
  contradiction

end Examples

end VerdictRisk
