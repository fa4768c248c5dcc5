import VerdictRisk.Verif.DeskHalt

/-!
# Inserted evaluations

An elapsed cooldown is only noticed by an evaluation, and a tripped breaker drops the trades
that are recorded. So an evaluation inserted after the cooldown lowers a flag that would
otherwise have stayed up. The plain and the extended session then differ in this flag alone,
until the next original evaluation lowers it in both; unless a losing trade is recorded in
between, which only the extended session counts.
-/

namespace VerdictRisk

open Python

variable [FloatFormat]

/-- The arguments of an inserted evaluation. -/
structure Probe where
  ctx : RiskContext
  call : TradeCall
  clock : Clock

omit [FloatFormat] in
/-- The evaluation a probe makes. -/
def Probe.op (probe : Probe) : DeskOp := .evaluate probe.ctx probe.call probe.clock

omit [FloatFormat] in
/-- The time an operation is given: `at` of a record, `current_time` of an evaluation. -/
def opTime : DeskOp → Option DateTime
  | .record _ at' => at'
  | .evaluate _ call _ => call.currentTime
  | _ => none

omit [FloatFormat] in
/-- All the operations of an extended session, in order. -/
def schedule (run : List (Probe ⊕ DeskOp)) : List DeskOp := run.map (Sum.elim Probe.op id)

omit [FloatFormat] in
/-- Measured from `since`, the second time is no earlier than the first. -/
def Grows (since now now' : DateTime) : Prop :=
  ∀ elapsed elapsed', now.sub since = .ok elapsed → now'.sub since = .ok elapsed' →
    elapsed ≤ elapsed'

omit [FloatFormat] in
/-- Times of one mode that never go back, measured from any of them or from an earlier one. -/
structure Steady (earlier times : List DateTime) : Prop where
  oneMode : ∀ now ∈ times, ∀ now' ∈ times, timezoneMode now = timezoneMode now'
  grows : ∀ since ∈ earlier ++ times, times.Pairwise (Grows since)

omit [FloatFormat] in
/-- The time of the current trip, if it has one. -/
def RiskAuthority.tripTimes (authority : RiskAuthority) : List DateTime :=
  (authority.timedBreaker.bind (·.trippedAt)).toList

omit [FloatFormat] in
/-- A session of records and evaluations that all carry a time, in one mode and in order. -/
structure TimedSession (authority : RiskAuthority) (ops : List DeskOp) : Prop where
  present : ∀ op ∈ ops, ∃ now, opTime op = some now
  steady : Steady authority.tripTimes (ops.filterMap opTime)

/-- The step does not record a losing trade with the flag still up after the cooldown. -/
def NoLossAfterCooldown (authority : RiskAuthority) (op : DeskOp) : Prop :=
  ∀ pnl at' breaker, op = .record pnl at' → authority.timedBreaker = some breaker →
    breaker.tripped = true → breaker.Elapsed at' →
    ¬ (isFinite pnl = true ∧ pnl.exact.lt 0 = true)

omit [FloatFormat] in
/-- Where zone objects keep their offsets, instants in order are steady times. -/
theorem steady_of_instants {earlier times : List DateTime}
    (oneMode : ∀ now ∈ times, ∀ now' ∈ times, timezoneMode now = timezoneMode now')
    (consistent : ∀ now ∈ times, ∀ since ∈ earlier ++ times, now.Consistent since)
    (ordered : times.Pairwise fun now now' => now.instant ≤ now'.instant)
    (mode : ∀ now ∈ times, ∀ since ∈ earlier ++ times, timezoneMode now = timezoneMode since) :
    Steady earlier times := by
  refine ⟨oneMode, fun since member => ?_⟩
  apply ordered.imp_of_mem
  intro now now' held held' before elapsed elapsed' first second
  rw [DateTime.sub_instants ((timezoneMode_eq_iff _ _).mp (mode now held since member))
    (consistent now held since member), Except.ok.injEq] at first
  rw [DateTime.sub_instants ((timezoneMode_eq_iff _ _).mp (mode now' held' since member))
    (consistent now' held' since member), Except.ok.injEq] at second
  omega

/-- Once the cooldown has elapsed it has elapsed at every later time of the session. -/
theorem elapsed_later {breaker : TimedCircuitBreaker} {now now' : DateTime}
    (elapsed : breaker.Elapsed (some now)) (mode : timezoneMode now = timezoneMode now')
    (grows : ∀ since, breaker.trippedAt = some since → Grows since now now') :
    breaker.Elapsed (some now') := by
  obtain ⟨trip, current, since, here, agrees, lapsed⟩ := elapsed
  cases here
  obtain ⟨spent, cooldown, difference, duration, reached⟩ := (cooldownElapsed_iff _ _ _).mp lapsed
  have agrees' : timezoneMode now' = timezoneMode trip := mode.symm.trans agrees
  obtain ⟨spent', difference'⟩ := DateTime.sub_ok ((timezoneMode_eq_iff _ _).mp agrees')
  have later := grows trip since spent spent' difference difference'
  exact ⟨trip, now', since, rfl, agrees', (cooldownElapsed_iff _ _ _).mpr
    ⟨spent', cooldown, difference', duration, reached.trans later⟩⟩

/-- With an elapsed trip, an evaluation answers as it would with the breaker cleared; after it
both authorities have the same gates, or neither has changed its own. -/
theorem evaluate_elapsed {authority : RiskAuthority} {breaker : TimedCircuitBreaker}
    (ctx : RiskContext) (call : TradeCall) (clock : Clock)
    (guarded : authority.timedBreaker = some breaker) (tripped : breaker.tripped = true)
    (elapsed : breaker.Elapsed call.currentTime) :
    let cleared := { authority with timedBreaker := some breaker.reset }
    (authority.evaluateWithState ctx call clock).outcome =
        (cleared.evaluateWithState ctx call clock).outcome ∧
      ((authority.evaluateWithState ctx call clock).authority.SameGates
          (cleared.evaluateWithState ctx call clock).authority ∨
        (authority.evaluateWithState ctx call clock).authority.SameGates authority ∧
          (cleared.evaluateWithState ctx call clock).authority.SameGates cleared) := by
  intro cleared
  cases built : RiskDecision.new true "OK" call.proposedCost with
  | error raised =>
    rw [RiskAuthority.evaluateWithState_raised built, RiskAuthority.evaluateWithState_raised built]
    exact ⟨rfl, .inr ⟨.refl authority, .refl cleared⟩⟩
  | ok decision =>
    have switches : cleared.passKillSwitch decision = authority.passKillSwitch decision := rfl
    have passed : ∀ decision, authority.passTimedBreaker decision call.currentTime =
        (.ok (true, decision), cleared) := by
      intro decision
      rcases breaker.check_cases decision call.currentTime with ⟨clear, _⟩ | ⟨_, _, _, checked⟩ |
        ⟨_, running, _⟩ | ⟨_, running, _⟩
      · rw [tripped] at clear
        contradiction
      · simp only [RiskAuthority.passTimedBreaker, guarded, checked, cleared]
      · exact absurd elapsed running
      · exact absurd elapsed running
    have idle : ∀ decision, cleared.passTimedBreaker decision call.currentTime =
        (.ok (true, decision), cleared) := by
      intro decision
      simp [RiskAuthority.passTimedBreaker, cleared, TimedCircuitBreaker.check,
        RiskDecision.settle]
    simp only [RiskAuthority.evaluateWithState, built, switches]
    obtain ⟨proceed, decision⟩ := authority.passKillSwitch decision
    cases proceed with
    | false => exact ⟨rfl, .inr ⟨RiskAuthority.haltWith_sameGates _ _,
        RiskAuthority.haltWith_sameGates _ _⟩⟩
    | true =>
      simp only [passed, idle, true_and]
      exact .inl (.refl _)

omit [FloatFormat] in
/-- A cleared breaker is not moved by a trade that is not a finite loss. -/
theorem reset_record (breaker : TimedCircuitBreaker) {pnl : PyNum} (at' : Option DateTime)
    (harmless : ¬ (isFinite pnl = true ∧ pnl.exact.lt 0 = true)) :
    breaker.reset.record pnl at' = breaker.reset := by
  rcases breaker.reset.record_cases pnl at' with ⟨_, same⟩ | ⟨_, _, _, same⟩ |
    ⟨finite, _, loss, _⟩ | ⟨finite, _, loss, _⟩
  · exact same
  · exact same
  · exact absurd ⟨finite, loss⟩ harmless
  · exact absurd ⟨finite, loss⟩ harmless

/-- The extended session has noticed an elapsed cooldown that the plain one has not. -/
def Noticed (times : List DateTime) (plain extended : RiskAuthority) : Prop :=
  ∃ breaker, plain.timedBreaker = some breaker ∧ breaker.tripped = true ∧
    (∀ now ∈ times, breaker.Elapsed (some now)) ∧
    extended.SameGates { plain with timedBreaker := some breaker.reset }

/-- The plain and the extended session before the rest of a run. -/
structure InStep (run : List (Probe ⊕ DeskOp)) (plain extended : RiskAuthority) : Prop where
  timed : TimedSession plain (schedule run)
  harmless : desk.Along NoLossAfterCooldown plain (Runs.Machine.originals run)
  gates : extended.SameGates plain ∨
    Noticed ((schedule run).filterMap opTime) plain extended

/-- No operation that is given a time makes up a trip time. -/
theorem tripTimes_next {authority : RiskAuthority} {op : DeskOp} {now since : DateTime}
    (timed : opTime op = some now) (member : since ∈ (desk.next authority op).tripTimes) :
    since ∈ authority.tripTimes ∨ since = now := by
  have tripAt : ∀ {authority : RiskAuthority}, since ∈ authority.tripTimes ↔
      ∃ breaker, authority.timedBreaker = some breaker ∧ breaker.trippedAt = some since := by
    intro authority
    rw [RiskAuthority.tripTimes, Option.mem_toList, Option.bind_eq_some_iff]
  rw [tripAt] at member ⊢
  obtain ⟨breaker, guarded, trip⟩ := member
  cases op with
  | record pnl at' =>
    obtain ⟨old, held, rfl⟩ := Option.map_eq_some_iff.mp guarded
    rcases old.record_cases pnl at' with ⟨_, same⟩ | ⟨_, _, _, same⟩ | ⟨_, _, _, _, same⟩ |
      ⟨_, _, _, _, same⟩
    · rw [same] at trip
      exact .inl ⟨old, held, trip⟩
    · rw [same] at trip
      exact .inl ⟨old, held, trip⟩
    · rw [same] at trip
      exact .inl ⟨old, held, trip⟩
    · rw [same] at trip
      have given : at' = some now := timed
      rw [given] at trip
      exact .inr (Option.some.inj trip).symm
  | evaluate ctx call clock =>
    obtain ⟨onward, path, same⟩ := authority.evaluateWithState_authority ctx call clock
    have kept : onward.timedBreaker = some breaker := same.timedBreaker.symm.trans guarded
    rcases path with rfl | ⟨_⟩ | ⟨_, _, _⟩ | ⟨old, _, _, _⟩
    · exact .inl ⟨breaker, kept, trip⟩
    · exact .inl ⟨breaker, kept, trip⟩
    · exact .inl ⟨breaker, kept, trip⟩
    · cases kept
      contradiction
  | tripSwitch _ => contradiction
  | resetSwitch => contradiction
  | resetBreaker => contradiction
  | resetLossGate => contradiction
  | recover _ _ => contradiction

omit [FloatFormat] in
/-- The rest of a timed session is a timed session for whatever the first operation made of the
authority. -/
theorem timed_rest {authority onward : RiskAuthority} {op : DeskOp} {rest : List DeskOp}
    (timed : TimedSession authority (op :: rest))
    (trips : ∀ now, opTime op = some now → ∀ since ∈ onward.tripTimes,
      since ∈ authority.tripTimes ∨ since = now) :
    TimedSession onward rest ∧ ∃ now, opTime op = some now ∧
      ∀ later ∈ rest.filterMap opTime, timezoneMode now = timezoneMode later ∧
        ∀ since ∈ authority.tripTimes, Grows since now later := by
  obtain ⟨now, given⟩ := timed.present op List.mem_cons_self
  obtain ⟨oneMode, grows⟩ := timed.steady
  rw [List.filterMap_cons_some given] at oneMode grows
  refine ⟨⟨fun op member => timed.present op (List.mem_cons_of_mem _ member), ?_, ?_⟩,
    now, given, ?_⟩
  · intro first held second held'
    exact oneMode first (List.mem_cons_of_mem _ held) second (List.mem_cons_of_mem _ held')
  · intro since member
    refine (List.pairwise_cons.mp (grows since ?_)).2
    rcases List.mem_append.mp member with tripped | later
    · rcases trips now given since tripped with old | rfl
      · exact List.mem_append_left _ old
      · exact List.mem_append_right _ List.mem_cons_self
    · exact List.mem_append_right _ (List.mem_cons_of_mem _ later)
  · intro later member
    refine ⟨oneMode now List.mem_cons_self later (List.mem_cons_of_mem _ member), ?_⟩
    intro since tripped
    exact (List.pairwise_cons.mp (grows since (List.mem_append_left _ tripped))).1 later member

/-- An inserted evaluation keeps the sessions in step. -/
theorem inserted_inStep {probe : Probe} {rest : List (Probe ⊕ DeskOp)}
    {plain extended : RiskAuthority} (inStep : InStep (.inl probe :: rest) plain extended) :
    InStep rest plain (desk.next extended probe.op) := by
  obtain ⟨timed, harmless, gates⟩ := inStep
  obtain ⟨timedRest, now, given, later⟩ := timed_rest timed fun _ _ _ member => .inl member
  refine ⟨timedRest, harmless, ?_⟩
  obtain ⟨onward, path, moved⟩ :=
    extended.evaluateWithState_authority probe.ctx probe.call probe.clock
  rcases gates with same | ⟨breaker, guarded, tripped, elapsed, same⟩
  · rcases path with rfl | ⟨_⟩ | ⟨_, _, _⟩ | ⟨breaker, held, tripped, elapsed⟩
    · exact .inl (moved.trans same)
    · exact .inl (moved.trans same)
    · exact .inl (moved.trans same)
    · have guarded : plain.timedBreaker = some breaker := same.timedBreaker.symm.trans held
      have current : probe.call.currentTime = some now := given
      rw [current] at elapsed
      refine .inr ⟨breaker, guarded, tripped, ?_, moved.killSwitch.trans same.killSwitch,
        moved.timedBreaker, moved.consecutiveLossGate.trans same.consecutiveLossGate⟩
      intro time member
      obtain ⟨mode, grows⟩ := later time member
      refine elapsed_later elapsed mode fun since trip => grows since ?_
      rw [RiskAuthority.tripTimes, guarded, Option.bind_some, trip]
      exact List.mem_cons_self
  · have stays : onward.SameGates extended := by
      rcases path with rfl | ⟨_⟩ | ⟨_, _, _⟩ | ⟨other, held, up, _⟩
      · exact .refl _
      · exact .refl _
      · exact .refl _
      · rw [same.timedBreaker] at held
        cases held
        contradiction
    refine .inr ⟨breaker, guarded, tripped, ?_, moved.trans (stays.trans same)⟩
    intro time member
    apply elapsed
    rw [schedule, List.map_cons, List.filterMap_cons_some given]
    exact List.mem_cons_of_mem _ member

/-- An original operation is answered alike in sessions that are in step, and keeps them so. -/
theorem original_inStep {op : DeskOp} {rest : List (Probe ⊕ DeskOp)}
    {plain extended : RiskAuthority} (inStep : InStep (.inr op :: rest) plain extended) :
    desk.answer plain op = desk.answer extended op ∧
      InStep rest (desk.next plain op) (desk.next extended op) := by
  obtain ⟨timed, ⟨meets, harmless⟩, gates⟩ := inStep
  obtain ⟨timedRest, now, given, _⟩ := timed_rest timed
    fun now given since member => tripTimes_next given member
  rcases gates with same | ⟨breaker, guarded, tripped, elapsed, same⟩
  · obtain ⟨alike, onward⟩ := desk_sameGates same op
    exact ⟨alike.symm, timedRest, harmless, .inl onward⟩
  · have times : ∀ time, time = now ∨ time ∈ (schedule rest).filterMap opTime →
        breaker.Elapsed (some time) := by
      intro time held
      apply elapsed
      rw [schedule, List.map_cons, List.filterMap_cons_some given]
      exact List.mem_cons.mpr held
    have lapsed : breaker.Elapsed (opTime op) := by
      have here := times now (.inl rfl)
      rwa [← given] at here
    have later : ∀ time ∈ (schedule rest).filterMap opTime, breaker.Elapsed (some time) :=
      fun time member => times time (.inr member)
    obtain ⟨alike, onward⟩ := desk_sameGates same op
    cases op with
    | record pnl at' =>
      have dropped : (desk.next plain (.record pnl at')).timedBreaker = some breaker := by
        change plain.timedBreaker.map (·.record pnl at') = some breaker
        rw [guarded, Option.map_some, TimedCircuitBreaker.record_of_tripped tripped]
      have idle := reset_record breaker at' (meets pnl at' breaker rfl guarded tripped lapsed)
      have unmoved : (desk.next { plain with timedBreaker := some breaker.reset }
          (.record pnl at')).timedBreaker = some breaker.reset := congrArg some idle
      exact ⟨rfl, timedRest, harmless, .inr ⟨breaker, dropped, tripped, later,
        onward.killSwitch, onward.timedBreaker.trans unmoved, onward.consecutiveLossGate⟩⟩
    | evaluate ctx call clock =>
      obtain ⟨outcome, after⟩ := evaluate_elapsed ctx call clock guarded tripped lapsed
      refine ⟨(congrArg some outcome).trans alike.symm, timedRest, harmless, ?_⟩
      rcases after with together | ⟨plainKept, clearedKept⟩
      · exact .inl (onward.trans together.symm)
      · refine .inr ⟨breaker, plainKept.timedBreaker.trans guarded, tripped, later, ?_⟩
        have kept := onward.trans clearedKept
        exact ⟨kept.killSwitch.trans plainKept.killSwitch.symm, kept.timedBreaker,
          kept.consecutiveLossGate.trans plainKept.consecutiveLossGate.symm⟩
    | tripSwitch _ => contradiction
    | resetSwitch => contradiction
    | resetBreaker => contradiction
    | resetLossGate => contradiction
    | recover _ _ => contradiction

/-- In every timed session none of whose steps records a losing trade with the flag still up
after the cooldown, the inserted evaluations leave every original answer unchanged. -/
theorem evaluations_unobserved (authority : RiskAuthority) (run : List (Probe ⊕ DeskOp))
    (timed : TimedSession authority (schedule run))
    (harmless : desk.Along NoLossAfterCooldown authority (Runs.Machine.originals run)) :
    desk.originalAnswers Probe.op authority run =
      desk.answers authority (Runs.Machine.originals run) := by
  have start : InStep run authority authority := ⟨timed, harmless, .inl (.refl authority)⟩
  exact desk.originalAnswers_eq Probe.op InStep (fun _ _ _ _ inStep => inserted_inStep inStep)
    (fun _ _ _ _ inStep => original_inStep inStep) start

omit [FloatFormat] in
/-- A trip at hour zero, looked at after two hours, is lifted for the evaluation that follows as
it would be without the look. -/
theorem one_look_unobserved :
    let breaker : TimedCircuitBreaker := ⟨1, 1, 0, false, none, by decide, by decide +kernel⟩
    let authority := RiskAuthority.new none (some breaker) none false
    let call := TradeCall.plain 10 (some ⟨2 * hourMicroseconds, none⟩)
    let run : List (Probe ⊕ DeskOp) :=
      [.inr (.record (.float (.finite (-1))) (some ⟨0, none⟩)), .inl ⟨.default, call, ⟨0, 0⟩⟩,
        .inr (.evaluate .default call ⟨0, 0⟩)]
    (@desk .exact).originalAnswers Probe.op authority run =
      (@desk .exact).answers authority (Runs.Machine.originals run) := by
  intro breaker authority call run
  have steady : Steady authority.tripTimes ((schedule run).filterMap opTime) :=
    steady_of_instants (by decide) (by decide) (by decide) (by decide)
  have timed : TimedSession authority (schedule run) := by
    refine ⟨?_, steady⟩
    simp only [schedule, run, List.map_cons, List.map_nil, List.forall_mem_cons]
    exact ⟨⟨_, rfl⟩, ⟨_, rfl⟩, ⟨_, rfl⟩, by simp⟩
  have harmless : (@desk .exact).Along (@NoLossAfterCooldown .exact) authority
      (Runs.Machine.originals run) := by
    refine ⟨?_, ?_, trivial⟩
    · intro _ _ held _ guarded up
      cases guarded
      contradiction
    · intro _ _ _ other
      contradiction
  exact @evaluations_unobserved .exact authority run timed harmless

omit [FloatFormat] in
/-- Two losses after the cooldown trip the breaker again only if an evaluation came first. -/
theorem inserted_evaluation_observed :
    ¬ ∀ (authority : RiskAuthority) (run : List (Probe ⊕ DeskOp)),
      TimedSession authority (schedule run) →
        (@desk .exact).originalAnswers Probe.op authority run =
          (@desk .exact).answers authority (Runs.Machine.originals run) := by
  intro unobserved
  let breaker : TimedCircuitBreaker := ⟨2, 1, 0, false, none, by decide, by decide +kernel⟩
  let authority := RiskAuthority.new none (some breaker) none false
  let loss : PyNum := .float (.finite (-1))
  let tripped : DateTime := ⟨0, none⟩
  let after : DateTime := ⟨2 * hourMicroseconds, none⟩
  let call := TradeCall.plain 10 (some after)
  let run : List (Probe ⊕ DeskOp) :=
    [.inr (.record loss tripped), .inr (.record loss tripped), .inl ⟨.default, call, ⟨0, 0⟩⟩,
      .inr (.record loss after), .inr (.record loss after),
      .inr (.evaluate .default call ⟨0, 0⟩)]
  have steady : Steady authority.tripTimes ((schedule run).filterMap opTime) :=
    steady_of_instants (by decide) (by decide) (by decide) (by decide)
  have timed : TimedSession authority (schedule run) := by
    refine ⟨?_, steady⟩
    simp only [schedule, run, List.map_cons, List.map_nil, List.forall_mem_cons]
    exact ⟨⟨_, rfl⟩, ⟨_, rfl⟩, ⟨_, rfl⟩, ⟨_, rfl⟩, ⟨_, rfl⟩, ⟨_, rfl⟩, by simp⟩
  have equal := unobserved authority run timed
  have differ : (@desk .exact).originalAnswers Probe.op authority run ≠
      (@desk .exact).answers authority (Runs.Machine.originals run) := by decide +kernel
  exact differ equal

end VerdictRisk
