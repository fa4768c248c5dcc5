import VerdictRisk.Library.MemberWise
import VerdictRisk.Library.Refinement
import VerdictRisk.Verif.DeskHalt
import VerdictRisk.Verif.SamePolicy
import VerdictRisk.Verif.Zones

/-!
# Restarts

A process that stops is started again from the JSON of its last snapshot, and goes on under the
policy of that snapshot. What comes back is not what was there: limits have become floats, and a
trip time has a fixed offset in the place of its zone. No ruling tells, as long as doubles hold the
limits, the cooldown is finite, and the trades are recorded at naive times or at fixed offsets.
-/

namespace VerdictRisk

open Python Python.Fields

/-- A process: its authority, and the policy that it evaluates trades under. -/
structure Process where
  authority : RiskAuthority
  ctx : RiskContext

/-- What happens to a process. -/
inductive ProcessOp where
  /-- It stops, and is started again from its last snapshot. -/
  | restart (onTrip : Bool)
  | operate (op : DeskOp)

/-- The operation under a policy. -/
def DeskOp.under (ctx : RiskContext) : DeskOp → DeskOp
  | .evaluate _ call clock => .evaluate ctx call clock
  | .recover _ onTrip => .recover ctx onTrip
  | op => op

section Processes

variable [FloatFormat] [Unicode] (codec : Msgspec)

/-- The process that `RiskAuthority.from_state(RiskState.from_json(payload))` starts, where
`payload` is `authority.snapshot_state(ctx).to_json()`. -/
def Process.restart (process : Process) (onTrip : Bool) : Except PyError Process := do
  let state ← process.authority.snapshotState process.ctx
  let restored ← RiskState.fromJson codec (.ok (state.toJson codec))
  let authority ← RiskAuthority.fromState restored onTrip
  .ok ⟨authority, restored.context⟩

/-- What an evaluation answers, and the process afterwards; one that cannot be started again
stays. -/
def processStep (process : Process) :
    ProcessOp → Option (Except PyError RiskDecision) × Process
  | .restart onTrip => (none, ((process.restart codec onTrip).toOption).getD process)
  | .operate op =>
    let (answer, authority) := deskStep process.authority (op.under process.ctx)
    (answer, { process with authority })

/-- A process as a machine. -/
def processDesk : Runs.Machine Process ProcessOp (Option (Except PyError RiskDecision)) :=
  ⟨processStep codec⟩

/-- The results of the evaluations of a process, in order. -/
def rulings (process : Process) (session : List ProcessOp) : List (Except PyError RiskDecision) :=
  (processDesk codec).visible process session

end Processes

/-- The operations between the restarts, under the policy of the process. -/
def ProcessOp.between (ctx : RiskContext) : ProcessOp → Option DeskOp
  | .restart _ => none
  | .operate op => some (op.under ctx)

/-- Trades are recorded at naive times or at fixed offsets, of whole minutes, and the switch is
tripped at offsets of whole minutes. -/
def ProcessOp.Portable : ProcessOp → Prop
  | .operate (.record _ at') => ∀ time, at' = some time → time.Plain ∧ time.WholeMinute
  | .operate (.tripSwitch at') => ∀ time, at' = some time → time.WholeMinute
  | _ => True

/-- JSON can carry the gates, and no trip time depends on a zone. -/
structure RiskAuthority.Portable (authority : RiskAuthority) : Prop where
  switchTime : ∀ switch, authority.killSwitch = some switch →
    ∀ time, switch.trippedAt = some time → time.WholeMinute
  breakerTime : ∀ breaker, authority.timedBreaker = some breaker →
    ∀ time, breaker.trippedAt = some time → time.Plain ∧ time.WholeMinute
  cooldown : ∀ breaker, authority.timedBreaker = some breaker →
    breaker.cooldownHours.isFinite = true

/-- Gates that JSON can carry are carried whatever the callback. -/
theorem RiskAuthority.Portable.of_sameGates {left right : RiskAuthority} (portable : left.Portable)
    (same : right.SameGates left) : right.Portable := by
  refine ⟨?_, ?_, ?_⟩
  · rw [same.killSwitch]
    exact portable.switchTime
  · rw [same.timedBreaker]
    exact portable.breakerTime
  · rw [same.timedBreaker]
    exact portable.cooldown

/-- What a breaker has been through leaves its cooldown, and its trip time, or sets the latter. -/
theorem RiskAuthority.Portable.withBreaker {authority : RiskAuthority}
    (portable : authority.Portable) {act : TimedCircuitBreaker → TimedCircuitBreaker}
    (cooldown : ∀ breaker, (act breaker).cooldownHours = breaker.cooldownHours)
    (time : ∀ breaker time, (act breaker).trippedAt = some time →
      breaker.trippedAt = some time ∨ time.Plain ∧ time.WholeMinute) :
    RiskAuthority.Portable { authority with timedBreaker := authority.timedBreaker.map act } where
  switchTime := portable.switchTime
  breakerTime := by
    intro breaker present since known
    obtain ⟨earlier, held, rfl⟩ := Option.map_eq_some_iff.mp present
    rcases time earlier since known with kept | set
    · exact portable.breakerTime earlier held since kept
    · exact set
  cooldown := by
    intro breaker present
    obtain ⟨earlier, held, rfl⟩ := Option.map_eq_some_iff.mp present
    rw [cooldown]
    exact portable.cooldown earlier held

/-- Portable operations leave gates that JSON can carry. -/
theorem portable_next [FloatFormat] {authority : RiskAuthority} (portable : authority.Portable)
    (ctx : RiskContext) {op : DeskOp} (times : (ProcessOp.operate op).Portable) :
    (desk.next authority (op.under ctx)).Portable := by
  have cleared : ∀ (breaker : TimedCircuitBreaker) time, breaker.reset.trippedAt = some time →
      breaker.trippedAt = some time ∨ time.Plain ∧ time.WholeMinute := by
    intro breaker time known
    contradiction
  cases op with
  | tripSwitch at' =>
    refine ⟨?_, portable.breakerTime, portable.cooldown⟩
    intro switch present time known
    obtain ⟨earlier, held, rfl⟩ := Option.map_eq_some_iff.mp present
    unfold KillSwitch.trip at known
    split at known
    · exact portable.switchTime earlier held time known
    · exact times time known
  | resetSwitch =>
    refine ⟨?_, portable.breakerTime, portable.cooldown⟩
    intro switch present time known
    obtain ⟨earlier, _, rfl⟩ := Option.map_eq_some_iff.mp present
    contradiction
  | resetBreaker => exact portable.withBreaker (fun _ => rfl) cleared
  | resetLossGate => exact ⟨portable.switchTime, portable.breakerTime, portable.cooldown⟩
  | record pnl at' =>
    have recorded := portable.withBreaker (fun breaker => breaker.record_cooldownHours pnl at')
      fun breaker time known => by
        rcases breaker.record_trips_or pnl at' with ⟨_, same⟩ | ⟨_, _, kept⟩
        · rw [same] at known
          exact .inr (times time known)
        · rw [kept] at known
          exact .inl known
    exact ⟨recorded.switchTime, recorded.breakerTime, recorded.cooldown⟩
  | recover _ onTrip =>
    change (authority.recover ctx onTrip).Portable
    rw [RiskAuthority.recover_eq]
    exact ⟨portable.switchTime, portable.breakerTime, portable.cooldown⟩
  | evaluate _ call clock =>
    obtain ⟨onward, path, same⟩ := authority.evaluateWithState_authority ctx call clock
    refine RiskAuthority.Portable.of_sameGates ?_ same
    rcases path with rfl | ⟨_⟩ | ⟨_, _, _⟩ | ⟨breaker, present, _, _⟩
    · exact portable
    · exact portable
    · exact portable
    · have lapsed : RiskAuthority.Portable
          { authority with timedBreaker := authority.timedBreaker.map TimedCircuitBreaker.reset } :=
        portable.withBreaker (fun _ => rfl) cleared
      rw [present] at lapsed
      exact lapsed

/-- A time that is written as it is. -/
def Restated.self (time : DateTime) : Restated := ⟨time, time, rfl, rfl⟩

/-- The first of a time that is written as it is. -/
@[simp] theorem Restated.first_comp_self : Restated.first ∘ Restated.self = id := rfl

/-- The second of a time that is written as it is. -/
@[simp] theorem Restated.second_comp_self : Restated.second ∘ Restated.self = id := rfl

/-- What shares its zone with a time of a fixed offset shares its offset. -/
theorem consistent_of_plain {since : DateTime} (plain : since.Plain) (current : DateTime) :
    current.Consistent since := by
  intro same
  unfold DateTime.sameZone at same
  rcases plain with naive | ⟨offset, fixed⟩
  · rw [naive, decide_eq_true_iff, Option.map_none, Option.map_eq_none_iff] at same
    rw [DateTime.utcoffset, DateTime.utcoffset, same, naive]
  · rw [fixed, decide_eq_true_iff, Option.map_some, Option.map_eq_some_iff] at same
    obtain ⟨zone, held, identity⟩ := same
    cases zone with
    | fixed ahead =>
      cases identity
      rw [DateTime.utcoffset, DateTime.utcoffset, held, fixed]
    | zone => contradiction

namespace TimedCircuitBreaker

variable {left middle right : TimedCircuitBreaker}

/-- A breaker restates itself. -/
theorem Restates.refl (breaker : TimedCircuitBreaker) : breaker.Restates breaker :=
  ⟨breaker.trippedAt.map Restated.self, by simp, by simp⟩

/-- The time of a trip may be written differently again and again. -/
theorem Restates.trans (first : left.Restates middle) (second : middle.Restates right) :
    left.Restates right := by
  obtain ⟨since, known, rfl⟩ := first
  obtain ⟨since', known', rfl⟩ := second
  have written : since.map Restated.second = since'.map Restated.first := known'
  cases since with
  | none =>
    cases since' with
    | none => exact ⟨none, known, rfl⟩
    | some trip' => contradiction
  | some trip =>
    cases since' with
    | none => contradiction
    | some trip' =>
      have same : trip.second = trip'.first := Option.some.inj written
      refine ⟨some ⟨trip.first, trip'.second, ?_, ?_⟩, known, rfl⟩
      · rw [trip.sameMode, same, trip'.sameMode]
      · rw [trip.sameInstant, same, trip'.sameInstant]

variable [FloatFormat]

/-- A check reads instants if the trip time has a fixed offset. -/
theorem readsInstants_of_plain {breaker : TimedCircuitBreaker}
    (plain : ∀ time, breaker.trippedAt = some time → time.Plain) (now : Option DateTime) :
    breaker.ReadsInstants now := by
  intro since current cooldown _ known _ _ _ same
  have offsets := consistent_of_plain (plain since known) current same
  have apart : current.wall - since.wall = current.instant - since.instant := by
    rw [DateTime.instant, DateTime.instant, offsets]
    omega
  rw [apart]

/-- Breakers whose trip times have fixed offsets and are written differently answer a check
alike. -/
theorem check_of_plain (restates : left.Restates right)
    (plain : ∀ time, left.trippedAt = some time → time.Plain)
    (plain' : ∀ time, right.trippedAt = some time → time.Plain) (decision : RiskDecision)
    (now : Option DateTime) :
    (left.check decision now).1 = (right.check decision now).1 ∧
      (left.check decision now).2.Restates (right.check decision now).2 := by
  have reads := readsInstants_of_plain plain now
  have reads' := readsInstants_of_plain plain' now
  obtain ⟨alike, onward⟩ := next_restated restates (.check decision (now.map Restated.self))
    (by simpa [RestatedOp.second, BreakerOp.ReadsInstants] using reads')
  simp only [RestatedOp.first, RestatedOp.second, BreakerOp.ReadsInstants, Option.map_map,
    Restated.first_comp_self, Restated.second_comp_self, Option.map_id_fun, id_eq] at alike onward
  exact ⟨Option.some.inj (alike.mpr reads), onward reads⟩

end TimedCircuitBreaker

/-- The switch without the time of its trip, which no check reads. -/
def KillSwitch.untimed (switch : KillSwitch) : KillSwitch := { switch with trippedAt := none }

namespace RiskAuthority

/-- The gates differ at most in the times of their trips: in that of the switch, and in how that of
the breaker is written. -/
structure Resumes (left right : RiskAuthority) : Prop where
  killSwitch : left.killSwitch.map KillSwitch.untimed = right.killSwitch.map KillSwitch.untimed
  timedBreaker : Option.Rel TimedCircuitBreaker.Restates left.timedBreaker right.timedBreaker
  consecutiveLossGate : left.consecutiveLossGate = right.consecutiveLossGate

variable {left middle right : RiskAuthority}

/-- An authority resumes itself. -/
theorem Resumes.refl (authority : RiskAuthority) : authority.Resumes authority := by
  refine ⟨rfl, ?_, rfl⟩
  cases authority.timedBreaker with
  | none => exact .none
  | some breaker => exact .some (.refl breaker)

/-- Resuming is transitive. -/
theorem Resumes.trans (first : left.Resumes middle) (second : middle.Resumes right) :
    left.Resumes right := by
  refine ⟨first.killSwitch.trans second.killSwitch, ?_,
    first.consecutiveLossGate.trans second.consecutiveLossGate⟩
  have restates := first.timedBreaker
  have restates' := second.timedBreaker
  revert restates restates'
  generalize left.timedBreaker = breaker
  generalize middle.timedBreaker = breaker'
  generalize right.timedBreaker = breaker''
  intro restates restates'
  cases restates with
  | none => exact restates'
  | some written =>
    cases restates' with
    | some written' => exact .some (written.trans written')

/-- Only the gates are compared. -/
theorem Resumes.of_sameGates {left' right' : RiskAuthority} (resumes : left.Resumes right)
    (same : left'.SameGates left) (same' : right'.SameGates right) : left'.Resumes right' := by
  refine ⟨?_, ?_, ?_⟩
  · rw [same.killSwitch, same'.killSwitch]
    exact resumes.killSwitch
  · rw [same.timedBreaker, same'.timedBreaker]
    exact resumes.timedBreaker
  · rw [same.consecutiveLossGate, same'.consecutiveLossGate]
    exact resumes.consecutiveLossGate

/-- What is done to both breakers, if it leaves them alike, leaves the authorities alike. -/
theorem Resumes.withBreakers (resumes : left.Resumes right)
    {act : TimedCircuitBreaker → TimedCircuitBreaker}
    (kept : ∀ {breaker breaker' : TimedCircuitBreaker}, breaker.Restates breaker' →
      (act breaker).Restates (act breaker')) :
    Resumes { left with timedBreaker := left.timedBreaker.map act }
      { right with timedBreaker := right.timedBreaker.map act } := by
  refine ⟨resumes.killSwitch, ?_, resumes.consecutiveLossGate⟩
  have restates := resumes.timedBreaker
  revert restates
  dsimp only
  generalize left.timedBreaker = breaker
  generalize right.timedBreaker = breaker'
  intro restates
  cases restates with
  | none => exact .none
  | some written => exact .some (kept written)

/-- What is done to both switches, if it does not look at the time of the trip, leaves the
authorities alike. -/
theorem Resumes.withSwitches (resumes : left.Resumes right) {act : KillSwitch → KillSwitch}
    (kept : ∀ switch : KillSwitch, (act switch).untimed = (act switch.untimed).untimed) :
    Resumes { left with killSwitch := left.killSwitch.map act }
      { right with killSwitch := right.killSwitch.map act } := by
  refine ⟨?_, resumes.timedBreaker, resumes.consecutiveLossGate⟩
  have acted : ∀ switch : Option KillSwitch, (switch.map act).map KillSwitch.untimed =
      (switch.map KillSwitch.untimed).map fun switch => (act switch).untimed := by
    intro switch
    cases switch with
    | none => rfl
    | some switch => exact congrArg some (kept switch)
  dsimp only
  rw [acted, acted, resumes.killSwitch]

/-- The switches are checked alike. -/
theorem passKillSwitch_resumes (resumes : left.Resumes right) (decision : RiskDecision) :
    left.passKillSwitch decision = right.passKillSwitch decision := by
  have checked : ∀ authority : RiskAuthority, authority.passKillSwitch decision =
      (authority.killSwitch.map KillSwitch.untimed).elim (true, decision)
        fun switch => switch.check decision := by
    intro authority
    unfold passKillSwitch
    cases authority.killSwitch <;> rfl
  rw [checked, checked, resumes.killSwitch]

end RiskAuthority

section Operations

variable [FloatFormat]

/-- Both results approve, reject or raise, and they are the same unless some limit is an integer. -/
def RuledAlike (ctx : RiskContext) (result result' : Except PyError RiskDecision) : Prop :=
  result.map RiskDecision.approved = result'.map RiskDecision.approved ∧
    (FloatLimits ctx → result = result')

omit [FloatFormat] in
/-- A result is ruled as itself. -/
theorem RuledAlike.refl (ctx : RiskContext) (result : Except PyError RiskDecision) :
    RuledAlike ctx result result := ⟨rfl, fun _ => rfl⟩

/-- The policy that a process goes on under: that of its first context, with limits that JSON can
carry. -/
structure Keeps (ctx ctx' : RiskContext) : Prop where
  same : SamePolicy ctx ctx'
  exact : FloatLimits ctx → ctx' = ctx
  held : LimitsHeld ctx'

variable {ctx ctx' : RiskContext}

/-- Under the policy kept, the chain rules alike. -/
theorem Keeps.evaluateStateless (keeps : Keeps ctx ctx') (call : TradeCall) (clock : Clock) :
    RuledAlike ctx (evaluateStateless ctx call clock) (evaluateStateless ctx' call clock) := by
  refine ⟨keeps.same.evaluateStateless_alike call clock, ?_⟩
  intro floats
  rw [keeps.exact floats]

namespace RiskAuthority

variable {left right : RiskAuthority}

/-- The breakers are checked alike. -/
theorem passTimedBreaker_resumes (resumes : left.Resumes right) (portable : left.Portable)
    (portable' : right.Portable) (decision : RiskDecision) (now : Option DateTime) :
    (left.passTimedBreaker decision now).1 = (right.passTimedBreaker decision now).1 ∧
      (left.passTimedBreaker decision now).2.Resumes (right.passTimedBreaker decision now).2 := by
  have restates := resumes.timedBreaker
  unfold passTimedBreaker
  cases present : left.timedBreaker with
  | none =>
    cases present' : right.timedBreaker with
    | none => exact ⟨rfl, resumes⟩
    | some breaker' =>
      rw [present, present'] at restates
      contradiction
  | some breaker =>
    cases present' : right.timedBreaker with
    | none =>
      rw [present, present'] at restates
      contradiction
    | some breaker' =>
      rw [present, present'] at restates
      cases restates with
      | some written =>
        obtain ⟨alike, onward⟩ := TimedCircuitBreaker.check_of_plain written
          (fun time known => (portable.breakerTime breaker present time known).1)
          (fun time known => (portable'.breakerTime breaker' present' time known).1) decision now
        exact ⟨alike, resumes.killSwitch, .some onward, resumes.consecutiveLossGate⟩

/-- A trade is ruled on alike before and after a restart. -/
theorem evaluateWithState_resumes (resumes : left.Resumes right) (portable : left.Portable)
    (portable' : right.Portable) (keeps : Keeps ctx ctx') (call : TradeCall) (clock : Clock) :
    RuledAlike ctx (left.evaluateWithState ctx call clock).outcome
        (right.evaluateWithState ctx' call clock).outcome ∧
      (left.evaluateWithState ctx call clock).authority.Resumes
        (right.evaluateWithState ctx' call clock).authority := by
  have halted : ∀ {left right : RiskAuthority}, left.Resumes right → ∀ decision,
      RuledAlike ctx (left.haltWith decision).outcome (right.haltWith decision).outcome ∧
        (left.haltWith decision).authority.Resumes (right.haltWith decision).authority :=
    fun {left right} resumes decision => ⟨.refl ctx _,
      resumes.of_sameGates (left.haltWith_sameGates decision) (right.haltWith_sameGates decision)⟩
  cases built : RiskDecision.new true "OK" call.proposedCost with
  | error raised =>
    rw [evaluateWithState_raised built, evaluateWithState_raised built]
    exact ⟨.refl ctx _, resumes⟩
  | ok decision =>
    simp only [evaluateWithState, built, passKillSwitch_resumes resumes]
    obtain ⟨proceed, decision⟩ := right.passKillSwitch decision
    cases proceed with
    | false => exact halted resumes decision
    | true =>
      have breakers :=
        passTimedBreaker_resumes resumes portable portable' decision call.currentTime
      revert breakers
      dsimp only
      generalize left.passTimedBreaker decision call.currentTime = answered
      generalize right.passTimedBreaker decision call.currentTime = answered'
      rintro ⟨alike, onward⟩
      obtain ⟨answer, left⟩ := answered
      obtain ⟨answer', right⟩ := answered'
      cases alike
      replace onward : left.Resumes right := onward
      rcases answer with raised | ⟨proceed, decision⟩
      · exact ⟨.refl ctx _, onward⟩
      · cases proceed with
        | false => exact halted onward decision
        | true =>
          have gates : left.passLossGate decision = right.passLossGate decision := by
            simp only [passLossGate, onward.consecutiveLossGate]
          simp only [gates]
          obtain ⟨proceed, decision⟩ := right.passLossGate decision
          cases proceed with
          | false => exact halted onward decision
          | true => exact ⟨keeps.evaluateStateless call clock, onward⟩

/-- Every operation is answered alike before and after a restart. -/
theorem desk_resumes (resumes : left.Resumes right) (portable : left.Portable)
    (portable' : right.Portable) (keeps : Keeps ctx ctx') (op : DeskOp) :
    Option.Rel (RuledAlike ctx) (desk.answer left (op.under ctx))
        (desk.answer right (op.under ctx')) ∧
      (desk.next left (op.under ctx)).Resumes (desk.next right (op.under ctx')) := by
  have cleared : ∀ {breaker breaker' : TimedCircuitBreaker}, breaker.Restates breaker' →
      breaker.reset.Restates breaker'.reset := by
    rintro breaker _ ⟨_, _, rfl⟩
    exact .refl breaker.reset
  cases op with
  | tripSwitch at' =>
    refine ⟨.none, resumes.withSwitches fun switch => ?_⟩
    cases up : switch.tripped <;> simp [KillSwitch.trip, KillSwitch.untimed, up]
  | resetSwitch => exact ⟨.none, resumes.withSwitches fun switch => rfl⟩
  | resetBreaker => exact ⟨.none, resumes.withBreakers cleared⟩
  | resetLossGate =>
    exact ⟨.none, resumes.killSwitch, resumes.timedBreaker,
      congrArg (Option.map _) resumes.consecutiveLossGate⟩
  | record pnl at' =>
    have recorded : ∀ {breaker breaker' : TimedCircuitBreaker}, breaker.Restates breaker' →
        (breaker.record pnl at').Restates (breaker'.record pnl at') := by
      intro breaker breaker' restates
      have kept := TimedCircuitBreaker.record_restated restates pnl (at'.map Restated.self)
      simpa using kept
    have breakers := resumes.withBreakers recorded
    exact ⟨.none, breakers.killSwitch, breakers.timedBreaker,
      congrArg (Option.map _) resumes.consecutiveLossGate⟩
  | recover _ onTrip =>
    refine ⟨.none, ?_⟩
    change (left.recover ctx onTrip).Resumes (right.recover ctx' onTrip)
    rw [recover_eq, recover_eq]
    exact ⟨resumes.killSwitch, resumes.timedBreaker, resumes.consecutiveLossGate⟩
  | evaluate _ call clock =>
    obtain ⟨alike, onward⟩ :=
      evaluateWithState_resumes resumes portable portable' keeps call clock
    exact ⟨.some alike, onward⟩

end RiskAuthority

end Operations

section Restart

variable (codec : Msgspec)

/-- The time of a trip is read back as the same time, at a fixed offset. -/
theorem trippedAt_reread {trippedAt : Option DateTime}
    (whole : ∀ time, trippedAt = some time → time.WholeMinute) :
    ∃ since : Option Restated, trippedAt = since.map Restated.first ∧
      (Slot.timestamp : Slot codec DateTime).orNull.read
        ((Slot.timestamp : Slot codec DateTime).orNull.write trippedAt) =
          some (since.map Restated.second) ∧
      ∀ time, since.map Restated.second = some time → time.Plain ∧ time.WholeMinute := by
  cases trippedAt with
  | none => exact ⟨none, rfl, rfl, by simp⟩
  | some time =>
    obtain ⟨back, read, ⟨mode, instant⟩, plain⟩ :=
      @Slot.timestamp_written codec time (whole time rfl)
    refine ⟨some ⟨time, back, (timezoneMode_eq_iff _ _).mpr mode, instant⟩, rfl, ?_, ?_⟩
    · rw [Slot.orNull_written_some _ (by simp [Slot.timestamp]), read]
      rfl
    · rintro _ ⟨⟩
      exact plain

/-- A switch is read back with the time of its trip. -/
theorem killSwitchState_written (state : KillSwitchState) {since : Option DateTime}
    (read : (Slot.timestamp : Slot codec DateTime).orNull.read
      ((Slot.timestamp : Slot codec DateTime).orNull.write state.trippedAt) = some since) :
    (KillSwitchState.slot codec).read ((KillSwitchState.slot codec).write state) =
      some { state with trippedAt := since } := by
  rw [KillSwitchState.slot, struct_written, KillSwitchState.fields, build_written_iff]
  refine ⟨(state.tripped, state.reason, since), ?_, rfl⟩
  exact field_written_iff.mpr ⟨rfl, field_written_iff.mpr ⟨rfl, (one_written _ _ _ _).trans read⟩⟩

/-- A loss gate is read back as it was. -/
theorem lossGateState_written (state : ConsecutiveLossGateState) :
    (ConsecutiveLossGateState.slot codec).read ((ConsecutiveLossGateState.slot codec).write state) =
      some state := by
  rw [ConsecutiveLossGateState.slot, struct_written, ConsecutiveLossGateState.fields,
    build_written_iff]
  refine ⟨(↑state.maxLosses, ↑state.windowTrades, state.history), ?_,
    ConsecutiveLossGateState.new_self state⟩
  exact field_written_iff.mpr ⟨rfl, field_written_iff.mpr ⟨rfl,
    (one_written _ _ _ _).trans (Slot.tuple_written _ (fun _ => rfl) _)⟩⟩

variable [FloatFormat]

/-- A breaker with a finite cooldown is read back with the time of its trip. -/
theorem timedBreakerState_written (breaker : TimedCircuitBreaker)
    (cooldown : breaker.cooldownHours.isFinite = true) {since : Option DateTime}
    (read : (Slot.timestamp : Slot codec DateTime).orNull.read
      ((Slot.timestamp : Slot codec DateTime).orNull.write breaker.trippedAt) = some since) :
    (TimedCircuitBreakerState.slot codec).read
        ((TimedCircuitBreakerState.slot codec).write breaker.stateOf) =
      some (TimedCircuitBreaker.stateOf { breaker with trippedAt := since }) := by
  rw [TimedCircuitBreakerState.slot, struct_written, TimedCircuitBreakerState.fields,
    build_written_iff]
  refine ⟨(↑breaker.consecutiveLossThreshold, .float breaker.cooldownHours, ↑breaker.lossStreak,
    breaker.tripped, since), ?_, TimedCircuitBreakerState.new_self
      (TimedCircuitBreaker.stateOf { breaker with trippedAt := since })⟩
  refine field_written_iff.mpr ⟨rfl, field_written_iff.mpr
    ⟨Slot.number_written_iff.mpr ⟨cooldown, rfl⟩, ?_⟩⟩
  exact field_written_iff.mpr ⟨rfl, field_written_iff.mpr ⟨rfl, (one_written _ _ _ _).trans read⟩⟩

/-- The state of a process is read back as its parts are. -/
theorem riskState_written [Unicode] {state : RiskState} {context : RiskContext}
    {switch : Option KillSwitchState} {breaker : Option TimedCircuitBreakerState}
    (contextRead : (RiskContext.slot codec).read ((RiskContext.slot codec).write state.context) =
      some context)
    (switchRead : (KillSwitchState.slot codec).orNull.read
      ((KillSwitchState.slot codec).orNull.write state.killSwitch) = some switch)
    (breakerRead : (TimedCircuitBreakerState.slot codec).orNull.read
      ((TimedCircuitBreakerState.slot codec).orNull.write state.timedBreaker) = some breaker)
    (gateRead : (ConsecutiveLossGateState.slot codec).orNull.read
      ((ConsecutiveLossGateState.slot codec).orNull.write state.consecutiveLossGate) =
        some state.consecutiveLossGate) :
    RiskState.fromJson codec (.ok (state.toJson codec)) =
      .ok { state with context, killSwitch := switch, timedBreaker := breaker } := by
  have read : (RiskState.fields codec).read ((RiskState.fields codec).write state) =
      some { state with context, killSwitch := switch, timedBreaker := breaker } := by
    rw [RiskState.fields, build_written_iff]
    refine ⟨(state.schemaVersion, context, switch, breaker, state.consecutiveLossGate), ?_,
      dif_pos state.versionSupported⟩
    refine field_written_iff.mpr ⟨rfl, field_written_iff.mpr ⟨contextRead, ?_⟩⟩
    exact field_written_iff.mpr ⟨switchRead, field_written_iff.mpr ⟨breakerRead,
      (one_written _ _ _ _).trans gateRead⟩⟩
  have keys : Json.keys ((RiskState.fields codec).write state) = RiskState.allowedKeys :=
    (RiskState.fields codec).keys_write state
  have version : Json.lookup "schema_version" ((RiskState.fields codec).write state) =
      some (.int state.schemaVersion) := rfl
  refine RiskState.fromJson_ok_iff.mpr ⟨_, rfl, fun key => by rw [keys], ?_, read⟩
  rw [version, state.versionSupported]
  rfl

omit [FloatFormat] in
/-- The switch is started again with its reason, tripped or not. -/
theorem killSwitch_restarted {switch : Option KillSwitch}
    (whole : ∀ held, switch = some held →
      ∀ time, held.trippedAt = some time → time.WholeMinute) :
    ∃ back, (KillSwitchState.slot codec).orNull.read
        ((KillSwitchState.slot codec).orNull.write (switch.map KillSwitch.toState)) = some back ∧
      switch.map KillSwitch.untimed = (back.map KillSwitch.fromState).map KillSwitch.untimed ∧
      ∀ held, back.map KillSwitch.fromState = some held →
        ∀ time, held.trippedAt = some time → time.WholeMinute := by
  cases switch with
  | none => exact ⟨none, rfl, rfl, by simp⟩
  | some held =>
    obtain ⟨since, _, read, later⟩ := trippedAt_reread codec (whole held rfl)
    refine ⟨some { held.toState with trippedAt := since.map Restated.second }, ?_, rfl, ?_⟩
    · rw [Option.map_some, Slot.orNull_written_some _ (by simp [KillSwitchState.slot]),
        killSwitchState_written codec held.toState read]
      rfl
    · rintro _ ⟨⟩ time known
      exact (later time known).2

/-- The breaker is started again with its count, and with its trip at the same time. -/
theorem timedBreaker_restarted {breaker : Option TimedCircuitBreaker}
    (whole : ∀ held, breaker = some held →
      ∀ time, held.trippedAt = some time → time.WholeMinute)
    (cooldown : ∀ held, breaker = some held → held.cooldownHours.isFinite = true) :
    ∃ back started, (TimedCircuitBreakerState.slot codec).orNull.read
        ((TimedCircuitBreakerState.slot codec).orNull.write
          (breaker.map TimedCircuitBreaker.stateOf)) = some back ∧
      back.mapM TimedCircuitBreaker.fromState = .ok started ∧
      Option.Rel TimedCircuitBreaker.Restates breaker started ∧
      (∀ held, started = some held → ∀ time, held.trippedAt = some time →
        time.Plain ∧ time.WholeMinute) ∧
      ∀ held, started = some held → held.cooldownHours.isFinite = true := by
  cases breaker with
  | none => exact ⟨none, none, rfl, rfl, .none, by simp, by simp⟩
  | some held =>
    obtain ⟨since, known, read, later⟩ := trippedAt_reread codec (whole held rfl)
    let started : TimedCircuitBreaker := { held with trippedAt := since.map Restated.second }
    refine ⟨some started.stateOf, some started, ?_, ?_, .some ⟨since, known, rfl⟩, ?_, ?_⟩
    · rw [Option.map_some, Slot.orNull_written_some _ (by simp [TimedCircuitBreakerState.slot]),
        timedBreakerState_written codec held (cooldown held rfl) read]
      rfl
    · rw [Option.mapM_some, TimedCircuitBreaker.fromState_stateOf]
      rfl
    · rintro _ ⟨⟩
      exact later
    · rintro _ ⟨⟩
      exact cooldown held rfl

omit [FloatFormat] in
/-- The loss gate is started again as it was. -/
theorem lossGate_restarted (gate : Option ConsecutiveLossGate) :
    (ConsecutiveLossGateState.slot codec).orNull.read
        ((ConsecutiveLossGateState.slot codec).orNull.write
          (gate.map ConsecutiveLossGate.stateOf)) =
      some (gate.map ConsecutiveLossGate.stateOf) ∧
      (gate.map ConsecutiveLossGate.stateOf).mapM ConsecutiveLossGate.fromState = .ok gate := by
  cases gate with
  | none => exact ⟨rfl, rfl⟩
  | some gate =>
    constructor
    · rw [Option.map_some, Slot.orNull_written_some _ (by simp [ConsecutiveLossGateState.slot]),
        lossGateState_written]
      rfl
    · rw [Option.map_some, Option.mapM_some, ConsecutiveLossGate.fromState_stateOf]
      rfl

/-- A process that JSON can carry is started again, where it was. -/
theorem Process.restart_resumes [Unicode] {process : Process}
    (portable : process.authority.Portable) (held : LimitsHeld process.ctx) (onTrip : Bool) :
    ∃ started, process.restart codec onTrip = .ok started ∧
      process.authority.Resumes started.authority ∧ started.authority.Portable ∧
      Reread process.ctx started.ctx := by
  obtain ⟨authority, ctx⟩ := process
  obtain ⟨context, contextRead, reread⟩ := context_reread codec held
  obtain ⟨switch, switchRead, untimed, switchTime⟩ :=
    killSwitch_restarted codec portable.switchTime
  obtain ⟨breaker, started, breakerRead, restored, restates, breakerTime, cooldown⟩ :=
    timedBreaker_restarted codec
      (fun held present time known => (portable.breakerTime held present time known).2)
      portable.cooldown
  obtain ⟨gateRead, gateRestored⟩ := lossGate_restarted codec authority.consecutiveLossGate
  have gate : (authority.stateOf ctx).consecutiveLossGate.mapM ConsecutiveLossGate.fromState =
      .ok authority.consecutiveLossGate := gateRestored
  have read : RiskState.fromJson codec (.ok ((authority.stateOf ctx).toJson codec)) =
      .ok { authority.stateOf ctx with context, killSwitch := switch, timedBreaker := breaker } :=
    riskState_written codec contextRead switchRead breakerRead gateRead
  refine ⟨⟨.new (switch.map KillSwitch.fromState) started authority.consecutiveLossGate onTrip,
    context⟩, ?_, ⟨untimed, restates, rfl⟩, ⟨switchTime, breakerTime, cooldown⟩, reread⟩
  simp only [Process.restart, RiskAuthority.snapshotState_eq, read, bind, Except.bind,
    RiskAuthority.fromState, restored, gate]

end Restart

section Sessions

variable [FloatFormat] [Unicode] (codec : Msgspec)

/-- A process goes on where another has stayed. -/
structure Follows (stayed process : Process) : Prop where
  resumes : stayed.authority.Resumes process.authority
  keeps : Keeps stayed.ctx process.ctx
  stayedPortable : stayed.authority.Portable
  portable : process.authority.Portable

omit [Unicode] in
/-- A process whose limits doubles hold follows itself. -/
theorem Follows.refl {process : Process} (portable : process.authority.Portable)
    (held : LimitsHeld process.ctx) : Follows process process :=
  ⟨.refl _, ⟨⟨rfl, rfl, rfl, rfl, rfl, rfl, rfl⟩, fun _ => rfl, held⟩, portable, portable⟩

/-- After a restart a process goes on where it was. -/
theorem Follows.restart {stayed process : Process} (follows : Follows stayed process)
    (onTrip : Bool) : ∃ started, process.restart codec onTrip = .ok started ∧
      Follows stayed started := by
  obtain ⟨started, restarted, resumes, portable, reread⟩ :=
    process.restart_resumes codec follows.portable follows.keeps.held onTrip
  have again := reread.samePolicy follows.keeps.held
  have same := follows.keeps.same
  refine ⟨started, restarted, follows.resumes.trans resumes, ⟨?_, ?_, reread.floatLimits.held⟩,
    follows.stayedPortable, portable⟩
  · exact ⟨same.drawdown.trans again.drawdown, same.exposure.trans again.exposure,
      same.expected.trans again.expected, same.window.trans again.window,
      same.windowFloat.trans again.windowFloat, same.budget.trans again.budget,
      same.limit.trans again.limit⟩
  · intro floats
    have kept := follows.keeps.exact floats
    rw [reread.eq_of_floatLimits (kept ▸ floats), kept]

/-- A process that is started again refines the desk that never stops. -/
theorem processDesk_refines (ctx : RiskContext) :
    (processDesk codec).Refines desk (ProcessOp.between ctx) ProcessOp.Portable (RuledAlike ctx)
      fun authority process => Follows ⟨authority, ctx⟩ process where
  silent := by
    intro authority process op follows _ silent
    cases op with
    | restart onTrip =>
      obtain ⟨started, restarted, onward⟩ := follows.restart codec onTrip
      refine ⟨rfl, ?_⟩
      change Follows _ ((process.restart codec onTrip).toOption.getD process)
      rw [restarted]
      exact onward
    | operate op => contradiction
  shown := by
    intro authority process op inner follows portable shown
    cases op with
    | restart onTrip => contradiction
    | operate op =>
      cases shown
      obtain ⟨alike, onward⟩ := RiskAuthority.desk_resumes follows.resumes follows.stayedPortable
        follows.portable follows.keeps op
      exact ⟨alike, onward, follows.keeps, portable_next follows.stayedPortable ctx portable,
        portable_next follows.portable process.ctx portable⟩

/-- However often a process is started again from its snapshots, it can be started again at any
point, and it approves, rejects and raises as if it had never stopped. If no limit of its policy is
an integer, its decisions are the same to the letter. -/
theorem restarts_unnoticed {process : Process} (portable : process.authority.Portable)
    (held : LimitsHeld process.ctx) {session : List ProcessOp}
    (times : ∀ op ∈ session, op.Portable) :
    (∀ past, past <+: session → ∀ onTrip, ∃ started,
      ((processDesk codec).after process past).restart codec onTrip = .ok started) ∧
    (rulings codec process session).map (Except.map RiskDecision.approved) =
      (decisions process.authority (session.filterMap (ProcessOp.between process.ctx))).map
        (Except.map RiskDecision.approved) ∧
    (FloatLimits process.ctx → rulings codec process session =
      decisions process.authority (session.filterMap (ProcessOp.between process.ctx))) := by
  have start : Follows process process := .refl portable held
  have follows := (processDesk_refines codec process.ctx).run start times
  refine ⟨?_, ?_, ?_⟩
  · intro past beginning onTrip
    have met : ∀ op ∈ past, op.Portable := fun op member => times op (beginning.subset member)
    have reached := ((processDesk_refines codec process.ctx).run start met).2
    obtain ⟨started, restarted, _⟩ := reached.restart codec onTrip
    exact ⟨started, restarted⟩
  · exact (MemberWise.map_eq_map_of_forall₂ (follows.1.imp fun _ _ alike => alike.1)).symm
  · intro floats
    have same : List.Forall₂ (· = ·) _ _ := follows.1.imp fun _ _ alike => alike.2 floats
    rw [List.forall₂_eq_eq_eq] at same
    exact same.symm

end Sessions

section Examples

attribute [local instance] FloatFormat.exact Unicode.allPrintable

/-- A breaker trips at hour zero, and the process is started again before each of two
evaluations, one within the cooldown and one after it. -/
def restartedTwice : List ProcessOp :=
  [.operate (.record (.float (.finite (-1))) (some ⟨0, none⟩)), .restart true,
    .operate (.evaluate .default (.plain 10 (some ⟨hourMicroseconds, none⟩)) ⟨0, 0⟩),
    .restart false,
    .operate (.evaluate .default (.plain 10 (some ⟨24 * hourMicroseconds, none⟩)) ⟨0, 0⟩)]

/-- Neither restart is noticed. -/
theorem restarts_within_cooldown :
    let breaker : TimedCircuitBreaker := ⟨1, 24, 0, false, none, Nat.le_refl 1, rfl⟩
    let process : Process :=
      ⟨.new (some (.new "ERR_KILL_SWITCH_MANUAL")) (some breaker) none false, .default⟩
    rulings .counting process restartedTwice =
      decisions process.authority (restartedTwice.filterMap (ProcessOp.between .default)) := by
  intro breaker process
  have portable : process.authority.Portable := by
    refine ⟨?_, ?_, ?_⟩
    · rintro switch ⟨⟩ time ⟨⟩
    · rintro held ⟨⟩ time ⟨⟩
    · rintro held ⟨⟩
      rfl
  have floats : FloatLimits .default := by
    simp [FloatLimits, RiskContext.limits, RiskContext.default]
  have times : ∀ op ∈ restartedTwice, op.Portable := by
    simp only [restartedTwice, List.forall_mem_cons]
    refine ⟨?_, trivial, trivial, trivial, trivial, by simp⟩
    rintro time ⟨⟩
    refine ⟨.inl rfl, ?_⟩
    rintro offset ⟨⟩
  exact (restarts_unnoticed .counting portable floats.held times).2.2 floats

end Examples

end VerdictRisk
