import VerdictRisk.Snapshot
import VerdictRisk.Engine
import VerdictRisk.Library.Runs

/-!
# Breaker states

A breaker counts losses in a row; at the threshold it halts the desk until its cooldown is
over. `Phase` says just that, with a count that cannot reach the threshold, and every operation
of the breaker is a step of phases. So the states that runs reach are exactly the phases, which
is the invariant `Sound` of the fields. Restoring a snapshot compares no field with another.
-/

namespace VerdictRisk

open Python Python.Fields

/-- An operation on a breaker. -/
inductive BreakerOp where
  | record (pnl : PyNum) (at' : Option DateTime)
  | check (decision : RiskDecision) (now : Option DateTime)
  | reset

/-- What a breaker of a given threshold is doing. -/
inductive Phase (threshold : ℕ) where
  /-- It counts losses in a row, fewer than the threshold. -/
  | counting (losses : Fin threshold)
  /-- It halts the desk since the trip, whose time may be unknown. -/
  | halted (since : Option DateTime)

namespace Phase

section Steps

variable {threshold : ℕ} (positive : 1 ≤ threshold)

/-- Nothing has been lost yet. -/
def fresh : Phase threshold := counting ⟨0, positive⟩

/-- A resolved trade: only a finite loss counts, and none while the desk is halted. -/
def record (pnl : PyNum) (at' : Option DateTime) : Phase threshold → Phase threshold
  | halted since => halted since
  | counting losses =>
    if !isFinite pnl then counting losses
    else if pnl.exact.lt 0 then
      if below : losses + 1 < threshold then counting ⟨losses + 1, below⟩ else halted at'
    else fresh positive

open Classical in
/-- A look at the clock ends a halt whose cooldown is over. -/
noncomputable def check (lapsed : Option DateTime → Prop) : Phase threshold → Phase threshold
  | halted since => if lapsed since then fresh positive else halted since
  | counting losses => counting losses

/-- One operation; `lapsed` says when the cooldown of a trip has elapsed. -/
noncomputable def step (lapsed : Option DateTime → Option DateTime → Prop)
    (phase : Phase threshold) : BreakerOp → Phase threshold
  | .record pnl at' => phase.record positive pnl at'
  | .check _ now => phase.check positive (lapsed now)
  | .reset => fresh positive

/-- The phases as a machine. -/
noncomputable def phases (lapsed : Option DateTime → Option DateTime → Prop) :
    Runs.Machine (Phase threshold) BreakerOp Unit :=
  ⟨fun phase op => ((), phase.step positive lapsed op)⟩

/-- A finite loss. -/
def loss (at' : Option DateTime) : BreakerOp := .record (.float (.finite (-1))) at'

/-- A finite loss is counted, or it is the one that halts the desk. -/
theorem loss_counted (losses : Fin threshold) (at' : Option DateTime)
    (lapsed : Option DateTime → Option DateTime → Prop) :
    (counting losses).step positive lapsed (loss at') =
      if below : losses + 1 < threshold then counting ⟨losses + 1, below⟩ else halted at' := by
  have finite : isFinite (.float (.finite (-1))) = true := rfl
  have negative : (PyNum.float (.finite (-1))).exact.lt 0 = true := by decide +kernel
  simp only [step, loss, record, finite, negative, Bool.not_true, Bool.false_eq_true, if_false,
    if_true]

/-- Losses in a row are counted up to the threshold. -/
theorem losses_counted (lapsed : Option DateTime → Option DateTime → Prop) (at' : Option DateTime)
    (losses : ℕ) (below : losses < threshold) :
    (phases positive lapsed).after (fresh positive) (List.replicate losses (loss at')) =
      counting ⟨losses, below⟩ := by
  induction losses with
  | zero => rfl
  | succ losses ih =>
    have counted := loss_counted positive ⟨losses, by omega⟩ at' lapsed
    rw [List.replicate_succ', Runs.Machine.after_snoc, ih (by omega)]
    rw [dif_pos below] at counted
    exact counted

/-- Every phase is reached by losses alone. -/
theorem reached (lapsed : Option DateTime → Option DateTime → Prop) (phase : Phase threshold) :
    ∃ ops, (phases positive lapsed).after (fresh positive) ops = phase := by
  cases phase with
  | counting losses =>
    exact ⟨_, losses_counted positive lapsed none losses.val losses.isLt⟩
  | halted since =>
    have counted := losses_counted positive lapsed since (threshold - 1) (by omega)
    refine ⟨List.replicate (threshold - 1) (loss since) ++ [loss since], ?_⟩
    rw [Runs.Machine.after_snoc, counted]
    have last := loss_counted positive ⟨threshold - 1, by omega⟩ since lapsed
    rw [dif_neg (by simp only; omega)] at last
    exact last

end Steps

end Phase

namespace TimedCircuitBreaker

variable [FloatFormat]

/-- The breaker as a machine; only a check answers. -/
def operations : Runs.Machine TimedCircuitBreaker BreakerOp
    (Option (Except PyError (Bool × RiskDecision))) where
  step breaker
    | .record pnl at' => (none, breaker.record pnl at')
    | .check decision now =>
      let (result, breaker) := breaker.check decision now
      (some result, breaker)
    | .reset => (none, breaker.reset)

/-- A state that some run from an accepted construction ends in. -/
def Reachable (breaker : TimedCircuitBreaker) : Prop :=
  ∃ threshold cooldown fresh ops, new threshold cooldown = .ok fresh ∧
    operations.after fresh ops = breaker

/-- The invariant of a breaker's fields. -/
structure Sound (breaker : TimedCircuitBreaker) : Prop where
  tripped_iff : breaker.tripped = true ↔ breaker.consecutiveLossThreshold ≤ breaker.lossStreak
  bounded : breaker.lossStreak ≤ breaker.consecutiveLossThreshold
  untimed : breaker.tripped = false → breaker.trippedAt = none

section Refinement

variable {threshold : ℕ} (positive : 1 ≤ threshold) {cooldown : PyFloat}
  (accepted : cooldown.le 0 = false)

/-- The breaker in a phase. -/
def ofPhase : Phase threshold → TimedCircuitBreaker
  | .counting losses => ⟨threshold, cooldown, losses, false, none, positive, accepted⟩
  | .halted since => ⟨threshold, cooldown, threshold, true, since, positive, accepted⟩

/-- The cooldown of a trip at `since` has elapsed at `now`. -/
def Over (now since : Option DateTime) : Prop :=
  (ofPhase positive accepted (.halted since)).Elapsed now

/-- Every operation of a breaker is the step of its phase. -/
theorem next_ofPhase (phase : Phase threshold) (op : BreakerOp) :
    ofPhase positive accepted (phase.step positive (Over positive accepted) op) =
      operations.next (ofPhase positive accepted phase) op := by
  cases op with
  | record pnl at' =>
    cases phase with
    | halted since =>
      exact (record_of_tripped rfl pnl at').symm
    | counting losses =>
      change _ = (ofPhase positive accepted (.counting losses)).record pnl at'
      rcases record_cases (ofPhase positive accepted (.counting losses)) pnl at' with
        ⟨ignored, same⟩ | ⟨finite, _, win, same⟩ | ⟨finite, _, loss, below, same⟩ |
        ⟨finite, _, loss, reached, same⟩
      · have ignored : isFinite pnl = false := ignored.resolve_right (by simp [ofPhase])
        rw [same]
        simp [Phase.step, Phase.record, ignored]
      · rw [same]
        simp [Phase.step, Phase.record, finite, win, Phase.fresh, ofPhase]
      · have below : losses.val + 1 < threshold := below
        rw [same]
        simp [Phase.step, Phase.record, finite, loss, below, ofPhase]
      · have reached : threshold ≤ losses.val + 1 := reached
        have last : losses.val + 1 = threshold := by omega
        rw [same]
        simp [Phase.step, Phase.record, finite, loss, last, ofPhase]
  | check decision now =>
    change _ = ((ofPhase positive accepted phase).check decision now).2
    cases phase with
    | counting losses =>
      rcases check_cases (ofPhase positive accepted (.counting losses)) decision now with
        ⟨_, _, same⟩ | ⟨up, _⟩ | ⟨up, _⟩ | ⟨up, _⟩
      · rw [same]
        rfl
      all_goals contradiction
    | halted since =>
      rcases check_cases (ofPhase positive accepted (.halted since)) decision now with
        ⟨down, _⟩ | ⟨_, lapsed, _, same⟩ | ⟨_, still, _, _, same⟩ | ⟨_, still, _, _, same⟩
      · contradiction
      · have lapsed : Over positive accepted now since := lapsed
        rw [same]
        simp [Phase.step, Phase.check, lapsed, Phase.fresh, ofPhase, reset]
      all_goals
        have still : ¬ Over positive accepted now since := still
        rw [same]
        simp [Phase.step, Phase.check, still]
  | reset =>
    cases phase <;> rfl

/-- Runs of a breaker are runs of phases. -/
theorem after_ofPhase (phase : Phase threshold) (ops : List BreakerOp) :
    ofPhase positive accepted ((Phase.phases positive (Over positive accepted)).after phase ops) =
      operations.after (ofPhase positive accepted phase) ops :=
  Runs.Machine.map_after _ _ (next_ofPhase positive accepted) phase ops

omit [FloatFormat] in
/-- The fields of a breaker in a phase meet the invariant. -/
theorem ofPhase_sound (phase : Phase threshold) : (ofPhase positive accepted phase).Sound := by
  cases phase with
  | counting losses =>
    have below := losses.isLt
    exact ⟨by simp [ofPhase], Nat.le_of_lt below, fun _ => rfl⟩
  | halted since => exact ⟨by simp [ofPhase], Nat.le_refl _, by simp [ofPhase]⟩

end Refinement

omit [FloatFormat] in
/-- The invariant, with the flag up and with the flag down. -/
theorem sound_iff (breaker : TimedCircuitBreaker) :
    breaker.Sound ↔
      (breaker.tripped = true ∧ breaker.lossStreak = breaker.consecutiveLossThreshold) ∨
      (breaker.tripped = false ∧ breaker.lossStreak < breaker.consecutiveLossThreshold ∧
        breaker.trippedAt = none) := by
  constructor
  · intro sound
    cases up : breaker.tripped with
    | true =>
      have reached := sound.tripped_iff.mp up
      exact .inl ⟨rfl, Nat.le_antisymm sound.bounded reached⟩
    | false =>
      have below : ¬ breaker.consecutiveLossThreshold ≤ breaker.lossStreak := by
        intro reached
        rw [sound.tripped_iff.mpr reached] at up
        contradiction
      exact .inr ⟨rfl, Nat.lt_of_not_le below, sound.untimed up⟩
  · rintro (⟨up, reached⟩ | ⟨down, below, untimed⟩)
    · refine ⟨iff_of_true up (Nat.le_of_eq reached.symm), Nat.le_of_eq reached, ?_⟩
      intro down
      rw [up] at down
      contradiction
    · refine ⟨?_, Nat.le_of_lt below, fun _ => untimed⟩
      rw [down]
      exact iff_of_false Bool.false_ne_true (Nat.not_le_of_lt below)

omit [FloatFormat] in
/-- A breaker whose fields meet the invariant is in a phase. -/
theorem Sound.phase {breaker : TimedCircuitBreaker} (sound : breaker.Sound) :
    ∃ phase, ofPhase breaker.thresholdPos breaker.cooldownAccepted phase = breaker := by
  rw [sound_iff] at sound
  obtain ⟨threshold, cooldown, streak, tripped, since, positive, accepted⟩ := breaker
  rcases sound with ⟨up, reached⟩ | ⟨down, below, untimed⟩
  · cases up
    cases reached
    exact ⟨.halted since, rfl⟩
  · cases down
    cases untimed
    exact ⟨.counting ⟨streak, below⟩, rfl⟩

/-- A breaker is constructed in its fresh phase. -/
theorem new_fresh {threshold : ℤ} {cooldown : PyNum} {breaker : TimedCircuitBreaker}
    (built : new threshold cooldown = .ok breaker) :
    ofPhase breaker.thresholdPos breaker.cooldownAccepted (Phase.fresh breaker.thresholdPos) =
      breaker := by
  unfold new at built
  split at built
  · contradiction
  · split at built
    · contradiction
    · split at built
      · split at built
        · cases built
          rfl
        · contradiction
      · cases built
        rfl

/-- The reachable breakers are those whose fields meet the invariant. -/
theorem reachable_iff_sound (breaker : TimedCircuitBreaker) :
    breaker.Reachable ↔ breaker.Sound := by
  constructor
  · rintro ⟨threshold, cooldown, fresh, ops, built, rfl⟩
    rw [← new_fresh built, ← after_ofPhase]
    exact ofPhase_sound _ _ _
  · intro sound
    obtain ⟨phase, same⟩ := sound.phase
    have positive := breaker.thresholdPos
    have accepted := breaker.cooldownAccepted
    obtain ⟨ops, reached⟩ := phase.reached positive (Over positive accepted)
    have run := after_ofPhase positive accepted (Phase.fresh positive) ops
    rw [reached] at run
    exact ⟨_, _, _, ops, new_float _ _ positive accepted, run.symm.trans same⟩

end TimedCircuitBreaker

section Restored

variable [FloatFormat]

/-- No trip time is given. -/
def Untimed (entry : Option Json) : Prop := entry = none ∨ entry = some .null

/-- The fields of a breaker's object agree with each other; an absent field is its default. -/
def Agree (codec : Msgspec) (object : Json) : Prop :=
  ∃ threshold streak tripped,
    (Slot.int : Slot codec ℤ).readOr (some 3) (object.member "consecutive_loss_threshold") =
      some threshold ∧
    (Slot.int : Slot codec ℤ).readOr (some 0) (object.member "loss_streak") = some streak ∧
    (Slot.bool : Slot codec Bool).readOr (some false) (object.member "tripped") = some tripped ∧
    ((tripped = true ∧ streak = threshold) ∨
      (tripped = false ∧ streak < threshold ∧ Untimed (object.member "tripped_at")))

variable {codec : Msgspec}

omit [FloatFormat] in
/-- No trip time is restored exactly where none is given. -/
theorem restored_untimed_iff {entry : Option Json} {trippedAt : Option DateTime}
    (read : (Slot.timestamp : Slot codec DateTime).orNull.readOr (some none) entry =
      some trippedAt) : trippedAt = none ↔ Untimed entry := by
  cases entry with
  | none =>
    cases read
    exact iff_of_true rfl (.inl rfl)
  | some json =>
    by_cases null : json = .null
    · rw [null] at read
      cases read
      exact iff_of_true rfl (.inr (congrArg some null))
    · have read : (Slot.timestamp : Slot codec DateTime).orNull.read json = some trippedAt := read
      rw [Slot.orNull_read _ null] at read
      obtain ⟨dt, _, rfl⟩ := Option.map_eq_some_iff.mp read
      simp [Untimed, null]

/-- A restored breaker has the fields of its object, and its cooldown is a float. -/
theorem breakerState_read {entries : List (String × Json)} {state : TimedCircuitBreakerState}
    (read : (TimedCircuitBreakerState.fields codec).read entries = some state) :
    (Slot.int : Slot codec ℤ).readOr (some 3)
        (Json.lookup "consecutive_loss_threshold" entries) =
      some ↑state.consecutiveLossThreshold ∧
    (∃ hours, state.cooldownHours = .float hours) ∧
    (Slot.int : Slot codec ℤ).readOr (some 0) (Json.lookup "loss_streak" entries) =
      some ↑state.lossStreak ∧
    (Slot.bool : Slot codec Bool).readOr (some false) (Json.lookup "tripped" entries) =
      some state.tripped ∧
    (state.trippedAt = none ↔ Untimed (Json.lookup "tripped_at" entries)) := by
  obtain ⟨⟨threshold, cooldown, streak, tripped, trippedAt⟩, read, built⟩ :=
    build_read_iff.mp read
  obtain ⟨readThreshold, read⟩ := field_read_iff.mp read
  obtain ⟨readCooldown, read⟩ := field_read_iff.mp read
  obtain ⟨readStreak, read⟩ := field_read_iff.mp read
  obtain ⟨readTripped, readTime⟩ := field_read_iff.mp read
  obtain ⟨rfl, rfl, rfl, rfl, rfl⟩ := TimedCircuitBreakerState.new_ok built
  refine ⟨readThreshold, ?_, readStreak, readTripped, restored_untimed_iff readTime⟩
  cases given : Json.lookup "cooldown_hours" entries with
  | none =>
    rw [given] at readCooldown
    exact ⟨_, (Option.some.inj readCooldown).symm⟩
  | some json =>
    rw [given] at readCooldown
    obtain ⟨hours, float, _⟩ := number_read_float readCooldown
    exact ⟨hours, float⟩

/-- The fields of an object agree when those restored from it do. -/
theorem agree_iff {entries : List (String × Json)} {state : TimedCircuitBreakerState}
    (read : (TimedCircuitBreakerState.fields codec).read entries = some state) :
    Agree codec (.obj entries) ↔
      (state.tripped = true ∧ state.lossStreak = state.consecutiveLossThreshold) ∨
      (state.tripped = false ∧ state.lossStreak < state.consecutiveLossThreshold ∧
        state.trippedAt = none) := by
  obtain ⟨readThreshold, _, readStreak, readTripped, untimed⟩ := breakerState_read read
  constructor
  · rintro ⟨threshold, streak, tripped, sameThreshold, sameStreak, sameTripped, agree⟩
    have threshold_eq := Option.some.inj (readThreshold.symm.trans sameThreshold)
    have streak_eq := Option.some.inj (readStreak.symm.trans sameStreak)
    have tripped_eq := Option.some.inj (readTripped.symm.trans sameTripped)
    rcases agree with ⟨up, reached⟩ | ⟨down, below, none_given⟩
    · have reached : state.lossStreak = state.consecutiveLossThreshold := by omega
      exact .inl ⟨tripped_eq.trans up, reached⟩
    · have below : state.lossStreak < state.consecutiveLossThreshold := by omega
      exact .inr ⟨tripped_eq.trans down, below, untimed.mpr none_given⟩
  · intro agree
    refine ⟨_, _, _, readThreshold, readStreak, readTripped, ?_⟩
    rcases agree with ⟨up, reached⟩ | ⟨down, below, untimed_state⟩
    · exact .inl ⟨up, congrArg Nat.cast reached⟩
    · exact .inr ⟨down, Int.ofNat_lt.mpr below, untimed.mp untimed_state⟩

/-- The breaker of an accepted payload is read from its object. -/
theorem breaker_read [Unicode] {payload object : Json} {state : RiskState}
    (accepted : RiskState.fromJson codec (.ok payload) = .ok state)
    (present : payload.member "timed_breaker" = some object) (given : object ≠ .null) :
    ∃ entries breaker, object = .obj entries ∧ state.timedBreaker = some breaker ∧
      (TimedCircuitBreakerState.fields codec).read entries = some breaker := by
  obtain ⟨raw, rfl, _, _, read⟩ := RiskState.fromJson_ok_iff.mp accepted
  obtain ⟨⟨version, context, switch, restored, gate⟩, read, built⟩ := build_read_iff.mp read
  obtain ⟨_, read⟩ := field_read_iff.mp read
  obtain ⟨_, read⟩ := field_read_iff.mp read
  obtain ⟨_, read⟩ := field_read_iff.mp read
  obtain ⟨readBreaker, _⟩ := field_read_iff.mp read
  obtain ⟨_, _, _, rfl, _⟩ := RiskState.new_ok built
  have found : Json.lookup "timed_breaker" raw = some object := present
  rw [found, Slot.readOr, Slot.orNull_read _ given] at readBreaker
  obtain ⟨breaker, read, same⟩ := Option.map_eq_some_iff.mp readBreaker
  cases object with
  | obj entries => exact ⟨entries, breaker, rfl, same.symm, read⟩
  | _ => contradiction

/-- An authority is restored with the breaker that its snapshot restores to. -/
theorem fromState_breaker {state : RiskState} {snapshot : TimedCircuitBreakerState}
    {breaker : TimedCircuitBreaker} (present : state.timedBreaker = some snapshot)
    (restored : TimedCircuitBreaker.fromState snapshot = .ok breaker) (onTrip : Bool) :
    ∃ authority, RiskAuthority.fromState state onTrip = .ok authority ∧
      authority.timedBreaker = some breaker := by
  unfold RiskAuthority.fromState
  rw [present]
  cases state.consecutiveLossGate with
  | none =>
    simp [restored, RiskAuthority.new, bind, Except.bind, pure, Except.pure, Functor.map,
      Except.map]
  | some gate =>
    simp [restored, ConsecutiveLossGate.fromState_eq, RiskAuthority.new, bind, Except.bind,
      Functor.map, Except.map]

/-- The restored breaker meets the invariant of reachable breakers exactly when the fields of its
object agree with each other. -/
theorem restored_breaker_sound_iff [Unicode] {payload object : Json} {state : RiskState}
    (accepted : RiskState.fromJson codec (.ok payload) = .ok state)
    (present : payload.member "timed_breaker" = some object) (given : object ≠ .null)
    (onTrip : Bool) :
    ∃ authority breaker, RiskAuthority.fromState state onTrip = .ok authority ∧
      authority.timedBreaker = some breaker ∧ (breaker.Reachable ↔ breaker.Sound) ∧
      (breaker.Sound ↔ Agree codec object) := by
  obtain ⟨entries, snapshot, rfl, held, read⟩ := breaker_read accepted present given
  obtain ⟨_, ⟨hours, float⟩, _⟩ := breakerState_read read
  obtain ⟨_, restored⟩ := TimedCircuitBreaker.fromState_float snapshot hours float
  obtain ⟨authority, built, breaker⟩ := fromState_breaker held restored onTrip
  have sound := TimedCircuitBreaker.sound_iff
  exact ⟨authority, _, built, breaker, TimedCircuitBreaker.reachable_iff_sound _,
    (sound _).trans (agree_iff read).symm⟩

end Restored

section Examples

attribute [local instance] FloatFormat.exact Unicode.allPrintable

/-- A payload with a breaker of threshold 3 in a given state and no trip time. -/
def breakerPayload (streak : ℤ) (tripped : Bool) : Json :=
  .obj [("schema_version", .int 1), ("context", (RiskContext.slot .counting).write .default),
    ("kill_switch", .null),
    ("timed_breaker", .obj [("consecutive_loss_threshold", .int 3), ("cooldown_hours", .int 24),
      ("loss_streak", .int streak), ("tripped", .bool tripped), ("tripped_at", .null)]),
    ("consecutive_loss_gate", .null)]

/-- A breaker that tripped at its threshold is restored in a reachable state. -/
theorem tripped_breaker_restored : ∃ state authority breaker,
    RiskState.fromJson .counting (.ok (breakerPayload 3 true)) = .ok state ∧
      RiskAuthority.fromState state false = .ok authority ∧
      authority.timedBreaker = some breaker ∧ breaker.Reachable := by
  let state : RiskState :=
    ⟨1, .default, none, some ⟨3, .float 24, 3, true, none, by decide, by decide +kernel⟩, none, rfl⟩
  have accepted : RiskState.fromJson .counting (.ok (breakerPayload 3 true)) = .ok state :=
    RiskState.fromJson_ok_iff.mpr ⟨_, rfl, fun _ => Iff.rfl, rfl, rfl⟩
  obtain ⟨authority, breaker, restored, held, reachable, sound⟩ :=
    restored_breaker_sound_iff accepted rfl Json.noConfusion false
  have agree : Agree .counting (.obj [("consecutive_loss_threshold", .int 3),
      ("cooldown_hours", .int 24), ("loss_streak", .int 3), ("tripped", .bool true),
      ("tripped_at", .null)]) := ⟨3, 3, true, rfl, rfl, rfl, .inl ⟨rfl, rfl⟩⟩
  exact ⟨state, authority, breaker, accepted, restored, held, reachable.mpr (sound.mpr agree)⟩

/-- An untripped breaker beyond its threshold is restored and lets trades through. -/
theorem overrun_breaker_restored : ∃ state authority breaker,
    RiskState.fromJson .counting (.ok (breakerPayload 5 false)) = .ok state ∧
      RiskAuthority.fromState state false = .ok authority ∧
      authority.timedBreaker = some breaker ∧ ¬ breaker.Sound ∧
      breaker.rejection none = .ok none := by
  refine ⟨⟨1, .default, none,
    some ⟨3, .float 24, 5, false, none, by decide, by decide +kernel⟩, none, rfl⟩, _, _,
    RiskState.fromJson_ok_iff.mpr ⟨_, rfl, fun _ => Iff.rfl, rfl, rfl⟩, rfl, rfl, ?_, rfl⟩
  rintro ⟨_, bounded, _⟩
  contradiction

end Examples

end VerdictRisk
