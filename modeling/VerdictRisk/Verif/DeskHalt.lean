import VerdictRisk.Session

/-!
# Desk halts

A tripped kill switch stays tripped until its reset, and a tripped breaker until its own reset
or an evaluation at which the cooldown has elapsed. So an approved evaluation shows that every
halt raised before it has been lifted.
-/

namespace VerdictRisk

open Python

variable [FloatFormat]

/-- `now - trip >= timedelta(hours=cooldown_hours)`, for times of one mode. -/
def CooldownOver (cooldownHours : PyFloat) (trip now : DateTime) : Prop :=
  timezoneMode now = timezoneMode trip ∧ ∃ elapsed cooldown, now.sub trip = .ok elapsed ∧
    timedeltaHours cooldownHours = .ok cooldown ∧ cooldown ≤ elapsed

/-- The test of the source, read as an inequality of durations. -/
theorem cooldownElapsed_iff (cooldownHours : PyFloat) (trip now : DateTime) :
    TimedCircuitBreaker.cooldownElapsed cooldownHours trip now = .ok true ↔
      ∃ elapsed cooldown, now.sub trip = .ok elapsed ∧
        timedeltaHours cooldownHours = .ok cooldown ∧ cooldown ≤ elapsed := by
  constructor
  · intro lapsed
    obtain ⟨elapsed, difference, lapsed⟩ := ok_of_bind lapsed
    obtain ⟨cooldown, duration, lapsed⟩ := ok_of_bind lapsed
    exact ⟨elapsed, cooldown, difference, duration, by simpa using lapsed⟩
  · rintro ⟨elapsed, cooldown, difference, duration, reached⟩
    simp [TimedCircuitBreaker.cooldownElapsed, difference, duration, reached, bind, Except.bind]

namespace RiskAuthority

/-- The breaker is present and tripped. -/
def breakerTripped (authority : RiskAuthority) : Bool := authority.timedBreaker.any (·.tripped)

/-- An evaluation leaves the gates as they were, or as the passed breaker left them. -/
theorem evaluateWithState_authority (authority : RiskAuthority) (ctx : RiskContext)
    (call : TradeCall) (clock : Clock) :
    ∃ onward, (onward = authority ∨ authority.BreakerPasses call.currentTime onward) ∧
      (authority.evaluateWithState ctx call clock).authority.SameGates onward := by
  cases built : RiskDecision.new true "OK" call.proposedCost with
  | error raised =>
    rw [evaluateWithState_raised built]
    exact ⟨authority, .inl rfl, .refl authority⟩
  | ok decision =>
    rcases authority.evaluateWithState_cases ctx call clock built
      with ⟨_, _, _, done⟩ | ⟨_, _, _, _, _, _, _, done⟩ | ⟨_, _, _, _, _, _, _, done⟩ |
        ⟨_, onward, passes, _, ⟨_, _, _, _, done⟩ | ⟨_, done⟩⟩ <;> rw [done]
    · exact ⟨authority, .inl rfl, haltWith_sameGates _ _⟩
    · exact ⟨authority, .inl rfl, .refl authority⟩
    · exact ⟨authority, .inl rfl, haltWith_sameGates _ _⟩
    · exact ⟨onward, .inr passes, haltWith_sameGates _ _⟩
    · exact ⟨onward, .inr passes, .refl onward⟩

/-- An evaluation never touches the kill switch. -/
theorem evaluateWithState_killSwitch (authority : RiskAuthority) (ctx : RiskContext)
    (call : TradeCall) (clock : Clock) :
    (authority.evaluateWithState ctx call clock).authority.killSwitch = authority.killSwitch := by
  obtain ⟨onward, from_, same⟩ := authority.evaluateWithState_authority ctx call clock
  rw [same.killSwitch]
  rcases from_ with rfl | passes
  · rfl
  · exact passes.others.1

/-- An approved evaluation was stopped by no stateful gate. -/
theorem approved_passes {authority : RiskAuthority} {ctx : RiskContext} {call : TradeCall}
    {clock : Clock} {decision : RiskDecision}
    (returned : (authority.evaluateWithState ctx call clock).outcome = .ok decision)
    (approved : decision.approved = true) :
    authority.SwitchClear ∧ ∃ onward, authority.BreakerPasses call.currentTime onward := by
  cases built : RiskDecision.new true "OK" call.proposedCost with
  | error raised =>
    rw [evaluateWithState_raised built] at returned
    contradiction
  | ok fresh =>
    rcases authority.evaluateWithState_cases ctx call clock built
      with ⟨_, _, _, done⟩ | ⟨_, _, _, _, _, _, _, done⟩ | ⟨_, _, _, _, _, _, _, done⟩ |
        ⟨clear, onward, passes, _, ⟨_, _, _, _, done⟩ | ⟨_, done⟩⟩ <;> rw [done] at returned
    · cases returned
      contradiction
    · contradiction
    · cases returned
      contradiction
    · exact ⟨clear, onward, passes⟩
    · exact ⟨clear, onward, passes⟩

/-- The gates whose halts are followed: a kill switch, and a breaker with this cooldown. -/
def Equipped (cooldownHours : PyFloat) (authority : RiskAuthority) : Prop :=
  (∃ switch, authority.killSwitch = some switch) ∧
    ∃ breaker, authority.timedBreaker = some breaker ∧ breaker.cooldownHours = cooldownHours

/-- The kill switch is present and tripped. -/
def SwitchUp (authority : RiskAuthority) : Prop :=
  ∃ switch, authority.killSwitch = some switch ∧ switch.tripped = true

/-- The breaker is tripped since this time, with this cooldown. -/
def BreakerUp (cooldownHours : PyFloat) (since : Option DateTime) (authority : RiskAuthority) :
    Prop :=
  ∃ breaker, authority.timedBreaker = some breaker ∧ breaker.tripped = true ∧
    breaker.trippedAt = since ∧ breaker.cooldownHours = cooldownHours

end RiskAuthority

/-- No operation removes a gate or changes the cooldown. -/
theorem equipped_next {cooldownHours : PyFloat} {authority : RiskAuthority} (op : DeskOp)
    (equipped : authority.Equipped cooldownHours) :
    (desk.next authority op).Equipped cooldownHours := by
  obtain ⟨⟨switch, present⟩, breaker, guarded, hours⟩ := equipped
  cases op with
  | tripSwitch at' =>
    exact ⟨⟨switch.trip at', congrArg (Option.map _) present⟩, breaker, guarded, hours⟩
  | resetSwitch =>
    exact ⟨⟨switch.reset, congrArg (Option.map _) present⟩, breaker, guarded, hours⟩
  | resetBreaker =>
    exact ⟨⟨switch, present⟩, breaker.reset, congrArg (Option.map _) guarded, hours⟩
  | resetLossGate => exact ⟨⟨switch, present⟩, breaker, guarded, hours⟩
  | record pnl at' =>
    exact ⟨⟨switch, present⟩, breaker.record pnl at', congrArg (Option.map _) guarded,
      (breaker.record_cooldownHours pnl at').trans hours⟩
  | recover ctx onTrip =>
    change (authority.recover ctx onTrip).Equipped cooldownHours
    rw [RiskAuthority.recover_eq]
    exact ⟨⟨switch, present⟩, breaker, guarded, hours⟩
  | evaluate ctx call clock =>
    obtain ⟨onward, path, same⟩ := authority.evaluateWithState_authority ctx call clock
    change (authority.evaluateWithState ctx call clock).authority.Equipped cooldownHours
    rw [RiskAuthority.Equipped, same.killSwitch, same.timedBreaker]
    rcases path with rfl | ⟨absent⟩ | ⟨_, _, _⟩ | ⟨tripped, held, _, _⟩
    · exact ⟨⟨switch, present⟩, breaker, guarded, hours⟩
    · exact ⟨⟨switch, present⟩, breaker, guarded, hours⟩
    · exact ⟨⟨switch, present⟩, breaker, guarded, hours⟩
    · rw [guarded] at held
      cases held
      exact ⟨⟨switch, present⟩, breaker.reset, rfl, hours⟩

/-- Only its reset lowers a tripped kill switch. -/
theorem switchUp_next {authority : RiskAuthority} (op : DeskOp) (up : authority.SwitchUp) :
    (desk.next authority op).SwitchUp ∨ op = .resetSwitch := by
  obtain ⟨switch, present, tripped⟩ := up
  cases op with
  | tripSwitch at' =>
    exact .inl ⟨switch.trip at', congrArg (Option.map _) present, switch.trip_tripped at'⟩
  | resetSwitch => exact .inr rfl
  | resetBreaker => exact .inl ⟨switch, present, tripped⟩
  | resetLossGate => exact .inl ⟨switch, present, tripped⟩
  | record pnl at' => exact .inl ⟨switch, present, tripped⟩
  | recover ctx onTrip =>
    left
    change (authority.recover ctx onTrip).SwitchUp
    rw [RiskAuthority.recover_eq]
    exact ⟨switch, present, tripped⟩
  | evaluate ctx call clock =>
    refine .inl ⟨switch, ?_, tripped⟩
    exact (authority.evaluateWithState_killSwitch ctx call clock).trans present

/-- An evaluation at a time when the cooldown of the trip is over. -/
def LiftsTrip (cooldownHours : PyFloat) (since : Option DateTime) (op : DeskOp) : Prop :=
  ∃ ctx call clock trip now, op = .evaluate ctx call clock ∧ since = some trip ∧
    call.currentTime = some now ∧ CooldownOver cooldownHours trip now

/-- A tripped breaker passes an evaluation only when its cooldown is over. -/
theorem breakerPasses_lifts {cooldownHours : PyFloat} {since : Option DateTime}
    {authority onward : RiskAuthority} {ctx : RiskContext} {call : TradeCall} {clock : Clock}
    (up : authority.BreakerUp cooldownHours since)
    (passes : authority.BreakerPasses call.currentTime onward) :
    LiftsTrip cooldownHours since (.evaluate ctx call clock) := by
  obtain ⟨breaker, guarded, tripped, rfl, rfl⟩ := up
  rcases passes with ⟨absent⟩ | ⟨held, there, clear⟩ | ⟨held, there, _, elapsed⟩
  · rw [guarded] at absent
    contradiction
  · rw [guarded] at there
    cases there
    rw [tripped] at clear
    contradiction
  · rw [guarded] at there
    cases there
    obtain ⟨trip, now, since, current, mode, lapsed⟩ := elapsed
    exact ⟨ctx, call, clock, trip, now, rfl, since, current, mode,
      (cooldownElapsed_iff _ _ _).mp lapsed⟩

/-- Only its reset, or an evaluation after the cooldown, lowers a tripped breaker. -/
theorem breakerUp_next {cooldownHours : PyFloat} {since : Option DateTime}
    {authority : RiskAuthority} (op : DeskOp) (up : authority.BreakerUp cooldownHours since) :
    (desk.next authority op).BreakerUp cooldownHours since ∨
      (op = .resetBreaker ∨ LiftsTrip cooldownHours since op) := by
  obtain ⟨breaker, guarded, tripped, at', hours⟩ := id up
  cases op with
  | tripSwitch _ => exact .inl ⟨breaker, guarded, tripped, at', hours⟩
  | resetSwitch => exact .inl ⟨breaker, guarded, tripped, at', hours⟩
  | resetBreaker => exact .inr (.inl rfl)
  | resetLossGate => exact .inl ⟨breaker, guarded, tripped, at', hours⟩
  | record pnl recorded =>
    refine .inl ⟨breaker, ?_, tripped, at', hours⟩
    change authority.timedBreaker.map (·.record pnl recorded) = some breaker
    rw [guarded, Option.map_some, TimedCircuitBreaker.record_of_tripped tripped]
  | recover ctx onTrip =>
    left
    change (authority.recover ctx onTrip).BreakerUp cooldownHours since
    rw [RiskAuthority.recover_eq]
    exact ⟨breaker, guarded, tripped, at', hours⟩
  | evaluate ctx call clock =>
    obtain ⟨onward, path, same⟩ := authority.evaluateWithState_authority ctx call clock
    rcases path with rfl | passes
    · exact .inl ⟨breaker, same.timedBreaker.trans guarded, tripped, at', hours⟩
    · exact .inr (.inr (breakerPasses_lifts up passes))

/-- The times at which a session evaluates. -/
def evaluationTimes : List DeskOp → List DateTime
  | [] => []
  | .evaluate _ call _ :: rest => call.currentTime.toList ++ evaluationTimes rest
  | _ :: rest => evaluationTimes rest

omit [FloatFormat] in
/-- The time of an evaluation is among the evaluation times of its session. -/
theorem mem_evaluationTimes {ctx : RiskContext} {call : TradeCall} {clock : Clock}
    {session : List DeskOp} {now : DateTime} (member : .evaluate ctx call clock ∈ session)
    (current : call.currentTime = some now) : now ∈ evaluationTimes session := by
  induction session with
  | nil => contradiction
  | cons op rest ih =>
    rcases List.mem_cons.mp member with rfl | later
    · simp [evaluationTimes, current]
    · have found := ih later
      cases op <;> simp [evaluationTimes, found]

/-- A trip of the kill switch is followed by a reset before anything is approved. -/
theorem switch_lifted {cooldownHours : PyFloat} {start : RiskAuthority}
    (equipped : start.Equipped cooldownHours) {past later : List DeskOp} {at' : Option DateTime}
    (clear : (desk.after start (past ++ .tripSwitch at' :: later)).SwitchClear) :
    .resetSwitch ∈ later := by
  rw [desk.after_append, desk.after_cons] at clear
  obtain ⟨⟨switch, present⟩, _⟩ := desk.after_invariant equipped
    (fun _ op => equipped_next op) past
  have up : (desk.next (desk.after start past) (.tripSwitch at')).SwitchUp :=
    ⟨switch.trip at', congrArg (Option.map _) present, switch.trip_tripped at'⟩
  rcases desk.after_or_ended up (fun _ op => switchUp_next op) later with still | ⟨op, member, rfl⟩
  · obtain ⟨switch, present, tripped⟩ := still
    rw [clear switch present] at tripped
    contradiction
  · exact member

/-- A trip of the breaker is followed by a reset of the breaker, or lifted by an evaluation
after its cooldown, before anything is approved. -/
theorem breaker_lifted {cooldownHours : PyFloat} {start onward : RiskAuthority}
    (equipped : start.Equipped cooldownHours) {past later : List DeskOp} {pnl : PyNum}
    {at' : Option DateTime} (ctx : RiskContext) {call : TradeCall} (clock : Clock)
    (before : (desk.after start past).breakerTripped = false)
    (tripped : (desk.after start (past ++ [.record pnl at'])).breakerTripped = true)
    (passes : (desk.after start (past ++ .record pnl at' :: later)).BreakerPasses
      call.currentTime onward) :
    .resetBreaker ∈ later ∨ ∃ op ∈ later ++ [.evaluate ctx call clock],
      LiftsTrip cooldownHours at' op := by
  rw [desk.after_snoc] at tripped
  rw [desk.after_append, desk.after_cons] at passes
  obtain ⟨_, breaker, guarded, hours⟩ := desk.after_invariant equipped
    (fun _ op => equipped_next op) past
  have recorded : (desk.next (desk.after start past) (.record pnl at')).timedBreaker =
      some (breaker.record pnl at') := congrArg (Option.map _) guarded
  rw [RiskAuthority.breakerTripped, guarded, Option.any_some] at before
  rw [RiskAuthority.breakerTripped, recorded, Option.any_some] at tripped
  have up : (desk.next (desk.after start past) (.record pnl at')).BreakerUp cooldownHours at' :=
    ⟨breaker.record pnl at', recorded, tripped, TimedCircuitBreaker.record_trips before tripped,
      (breaker.record_cooldownHours pnl at').trans hours⟩
  rcases desk.after_or_ended up (fun _ op => breakerUp_next op) later with
    still | ⟨op, member, rfl | lifts⟩
  · exact .inr ⟨_, List.mem_append_right _ List.mem_cons_self, breakerPasses_lifts still passes⟩
  · exact .inl member
  · exact .inr ⟨op, List.mem_append_left _ member, lifts⟩

/-- Whenever an evaluation is approved, every trip of the kill switch has been followed by a
reset, and every trip of the breaker not followed by its reset carried a time, and some
evaluation since then, at most this one, was at a time of the same mode no earlier than the
cooldown after it. -/
theorem approved_only_when_lifted (switch : KillSwitch) (breaker : TimedCircuitBreaker)
    (gate : Option ConsecutiveLossGate) (onTrip : Bool) (session : List DeskOp)
    (ctx : RiskContext) (call : TradeCall) (clock : Clock) (decision : RiskDecision)
    (returned : ((desk.after (.new (some switch) (some breaker) gate onTrip)
      session).evaluateWithState ctx call clock).outcome = .ok decision)
    (approved : decision.approved = true) :
    (∀ past at' later, session = past ++ .tripSwitch at' :: later → .resetSwitch ∈ later) ∧
    ∀ past pnl at' later, session = past ++ .record pnl at' :: later →
      (desk.after (.new (some switch) (some breaker) gate onTrip) past).breakerTripped = false →
      (desk.after (.new (some switch) (some breaker) gate onTrip)
        (past ++ [.record pnl at'])).breakerTripped = true →
      .resetBreaker ∉ later →
      ∃ trip, at' = some trip ∧ ∃ now ∈ evaluationTimes (later ++ [.evaluate ctx call clock]),
        CooldownOver breaker.cooldownHours trip now := by
  obtain ⟨clear, onward, passes⟩ := RiskAuthority.approved_passes returned approved
  have equipped : (RiskAuthority.new (some switch) (some breaker) gate onTrip).Equipped
      breaker.cooldownHours := ⟨⟨switch, rfl⟩, breaker, rfl, rfl⟩
  constructor
  · rintro past at' later rfl
    exact switch_lifted equipped clear
  · rintro past pnl at' later rfl before tripped unreset
    rcases breaker_lifted equipped ctx clock before tripped passes with
      reset | ⟨op, member, _, _, _, trip, now, rfl, since, current, lapsed⟩
    · exact absurd reset unreset
    · exact ⟨trip, since, now, mem_evaluationTimes member current, lapsed⟩

omit [FloatFormat] in
/-- A breaker tripped by one loss at hour zero lets a trade through after its day. -/
theorem approved_a_day_later :
    let breaker : TimedCircuitBreaker := ⟨1, 24, 0, false, none, by decide, by decide +kernel⟩
    let call := TradeCall.plain 10 (some ⟨24 * hourMicroseconds, none⟩)
    ∃ now ∈ evaluationTimes [.evaluate .default call ⟨0, 0⟩],
      @CooldownOver .exact breaker.cooldownHours ⟨0, none⟩ now := by
  intro breaker call
  have lifted := (@approved_only_when_lifted .exact (.new "ERR_KILL_SWITCH_MANUAL") breaker none
    false [.record (.float (.finite (-1))) (some ⟨0, none⟩)] .default call ⟨0, 0⟩
    ⟨true, "OK", ⟨10, rfl⟩⟩ (by decide +kernel) rfl).2
  obtain ⟨trip, since, now, member, lapsed⟩ :=
    lifted [] _ _ [] rfl rfl (by decide +kernel) (by simp)
  cases since
  exact ⟨now, member, lapsed⟩

end VerdictRisk
