import VerdictRisk.Engine
import VerdictRisk.Library.Runs

/-!
# Desk sessions

An authority lives through a session: its gates are tripped and reset by hand, it is fed
resolved trades, it evaluates proposed ones, and after a crash it is replaced by the one its
snapshot restores to. A session is a run of the machine `desk` over these operations. The
lemmas here say once what an evaluation can do, so that no later proof unfolds it.
-/

namespace VerdictRisk

open Python

namespace RiskAuthority

/-- No tripped kill switch blocks the evaluation. -/
def SwitchClear (authority : RiskAuthority) : Prop :=
  ∀ switch, authority.killSwitch = some switch → switch.tripped = false

/-- No loss gate blocks the evaluation. -/
def LossGateClear (authority : RiskAuthority) : Prop :=
  ∀ gate, authority.consecutiveLossGate = some gate → gate.rejection = none

/-- The breaker lets an evaluation at `now` through and leaves the authority as stated. -/
inductive BreakerPasses [FloatFormat] (authority : RiskAuthority) (now : Option DateTime) :
    RiskAuthority → Prop
  | absent : authority.timedBreaker = none → BreakerPasses authority now authority
  | clear (breaker : TimedCircuitBreaker) : authority.timedBreaker = some breaker →
      breaker.tripped = false → BreakerPasses authority now authority
  | elapsed (breaker : TimedCircuitBreaker) : authority.timedBreaker = some breaker →
      breaker.tripped = true → breaker.Elapsed now →
      BreakerPasses authority now { authority with timedBreaker := some breaker.reset }

/-- Two authorities with the same gates, whatever their callbacks. -/
structure SameGates (left right : RiskAuthority) : Prop where
  killSwitch : left.killSwitch = right.killSwitch
  timedBreaker : left.timedBreaker = right.timedBreaker
  consecutiveLossGate : left.consecutiveLossGate = right.consecutiveLossGate

/-- An authority has the gates that it has. -/
theorem SameGates.refl (authority : RiskAuthority) : authority.SameGates authority :=
  ⟨rfl, rfl, rfl⟩

/-- Having the same gates is transitive. -/
theorem SameGates.trans {left middle right : RiskAuthority} (first : left.SameGates middle)
    (second : middle.SameGates right) : left.SameGates right :=
  ⟨first.killSwitch.trans second.killSwitch, first.timedBreaker.trans second.timedBreaker,
    first.consecutiveLossGate.trans second.consecutiveLossGate⟩

/-- Having the same gates is symmetric. -/
theorem SameGates.symm {left right : RiskAuthority} (same : left.SameGates right) :
    right.SameGates left :=
  ⟨same.killSwitch.symm, same.timedBreaker.symm, same.consecutiveLossGate.symm⟩

/-- The callback changes no gate. -/
theorem maybeFireTrip_sameGates (authority : RiskAuthority) (decision : RiskDecision) :
    (authority.maybeFireTrip decision).1.SameGates authority := by
  unfold maybeFireTrip
  split <;> exact ⟨rfl, rfl, rfl⟩

/-- The callback is installed and was not invoked with this reason last. -/
def Announces (authority : RiskAuthority) (reason : String) : Prop :=
  authority.onTrip = true ∧ authority.lastTripReason ≠ some reason

/-- A stateful rejection with another reason is announced, and the reason is remembered. -/
theorem haltWith_announced {authority : RiskAuthority} {decision : RiskDecision}
    (announces : authority.Announces decision.reasonCode) :
    authority.haltWith decision = ⟨.ok decision,
      { authority with lastTripReason := some decision.reasonCode }, [decision]⟩ := by
  obtain ⟨installed, other⟩ := announces
  have fires : ¬ (!authority.onTrip || some decision.reasonCode == authority.lastTripReason) =
      true := by
    simpa [installed] using fun same => other same.symm
  rw [haltWith, maybeFireTrip, if_neg fires]

/-- Any other stateful rejection leaves the authority as it was. -/
theorem haltWith_silent {authority : RiskAuthority} {decision : RiskDecision}
    (silent : ¬ authority.Announces decision.reasonCode) :
    authority.haltWith decision = ⟨.ok decision, authority, []⟩ := by
  have passed : (!authority.onTrip || some decision.reasonCode == authority.lastTripReason) =
      true := by
    cases installed : authority.onTrip with
    | false => rfl
    | true =>
      have same : authority.lastTripReason = some decision.reasonCode := by
        by_contra other
        exact silent ⟨installed, other⟩
      simp [same]
  rw [haltWith, maybeFireTrip, if_pos passed]

/-- A stateful rejection changes no gate. -/
theorem haltWith_sameGates (authority : RiskAuthority) (decision : RiskDecision) :
    (authority.haltWith decision).authority.SameGates authority :=
  authority.maybeFireTrip_sameGates decision

section Evaluate

variable [FloatFormat]

/-- Passing the breaker changes neither of the other two gates. -/
theorem BreakerPasses.others {authority onward : RiskAuthority} {now : Option DateTime}
    (passes : authority.BreakerPasses now onward) :
    onward.killSwitch = authority.killSwitch ∧
      onward.consecutiveLossGate = authority.consecutiveLossGate := by
  cases passes <;> exact ⟨rfl, rfl⟩

/-- Passing the breaker leaves the callback and its memory alone. -/
theorem BreakerPasses.callback {authority onward : RiskAuthority} {now : Option DateTime}
    (passes : authority.BreakerPasses now onward) :
    onward.onTrip = authority.onTrip ∧ onward.lastTripReason = authority.lastTripReason := by
  cases passes <;> exact ⟨rfl, rfl⟩

/-- A non-finite proposed cost raises before any gate is asked. -/
theorem evaluateWithState_raised {authority : RiskAuthority} {ctx : RiskContext}
    {call : TradeCall} {clock : Clock} {raised : PyError}
    (refused : RiskDecision.new true "OK" call.proposedCost = .error raised) :
    authority.evaluateWithState ctx call clock = ⟨.error raised, authority, []⟩ := by
  simp only [evaluateWithState, refused]

/-- The breaker check raises, rejects, or passes. -/
theorem passTimedBreaker_cases (authority : RiskAuthority) (decision : RiskDecision)
    (now : Option DateTime) :
    (∃ breaker raised, authority.timedBreaker = some breaker ∧ breaker.tripped = true ∧
      ¬ breaker.Elapsed now ∧ breaker.rejection now = .error raised ∧
      authority.passTimedBreaker decision now = (.error raised, authority)) ∨
    (∃ breaker reason, authority.timedBreaker = some breaker ∧ breaker.tripped = true ∧
      ¬ breaker.Elapsed now ∧ breaker.rejection now = .ok (some reason) ∧
      authority.passTimedBreaker decision now =
        (.ok (decision.settle (some reason)), authority)) ∨
    (∃ onward, authority.BreakerPasses now onward ∧
      (∀ breaker, authority.timedBreaker = some breaker → breaker.rejection now = .ok none) ∧
      authority.passTimedBreaker decision now = (.ok (true, decision), onward)) := by
  cases present : authority.timedBreaker with
  | none =>
    exact .inr (.inr ⟨authority, .absent present, by simp,
      by simp [passTimedBreaker, present]⟩)
  | some breaker =>
    have unchanged : { authority with timedBreaker := some breaker } = authority := by
      rw [← present]
    rcases breaker.check_cases decision now with ⟨clear, passed, checked⟩ |
      ⟨up, lapsed, passed, checked⟩ | ⟨up, running, reason, rejected, checked⟩ |
      ⟨up, running, raised, failed, checked⟩
    · exact .inr (.inr ⟨authority, .clear breaker present clear, by simpa using passed,
        by simp [passTimedBreaker, present, checked, unchanged]⟩)
    · exact .inr (.inr ⟨_, .elapsed breaker present up lapsed, by simpa using passed,
        by simp [passTimedBreaker, present, checked]⟩)
    · exact .inr (.inl ⟨breaker, reason, rfl, up, running, rejected,
        by simp [passTimedBreaker, present, checked, unchanged]⟩)
    · exact .inl ⟨breaker, raised, rfl, up, running, failed,
        by simp [passTimedBreaker, present, checked, unchanged]⟩

/-- With a finite cost, an evaluation is halted by the kill switch, by the breaker, or by the
loss gate, or the breaker raises, or the stateless chain decides. -/
theorem evaluateWithState_cases (authority : RiskAuthority) (ctx : RiskContext)
    (call : TradeCall) (clock : Clock) {decision : RiskDecision}
    (built : RiskDecision.new true "OK" call.proposedCost = .ok decision) :
    (∃ switch, authority.killSwitch = some switch ∧ switch.tripped = true ∧
      authority.evaluateWithState ctx call clock =
        authority.haltWith (decision.settle (some switch.reason)).2) ∨
    (authority.SwitchClear ∧ ∃ breaker raised, authority.timedBreaker = some breaker ∧
      breaker.tripped = true ∧ ¬ breaker.Elapsed call.currentTime ∧
      breaker.rejection call.currentTime = .error raised ∧
      authority.evaluateWithState ctx call clock = ⟨.error raised, authority, []⟩) ∨
    (authority.SwitchClear ∧ ∃ breaker reason, authority.timedBreaker = some breaker ∧
      breaker.tripped = true ∧ ¬ breaker.Elapsed call.currentTime ∧
      breaker.rejection call.currentTime = .ok (some reason) ∧
      authority.evaluateWithState ctx call clock =
        authority.haltWith (decision.settle (some reason)).2) ∨
    (authority.SwitchClear ∧ ∃ onward, authority.BreakerPasses call.currentTime onward ∧
      (∀ breaker, authority.timedBreaker = some breaker →
        breaker.rejection call.currentTime = .ok none) ∧
      ((∃ gate reason, authority.consecutiveLossGate = some gate ∧
          gate.rejection = some reason ∧ authority.evaluateWithState ctx call clock =
            onward.haltWith (decision.settle (some reason)).2) ∨
        (authority.LossGateClear ∧ authority.evaluateWithState ctx call clock =
          ⟨evaluateStateless ctx call clock, onward, []⟩))) := by
  by_cases blocked : ∃ switch, authority.killSwitch = some switch ∧ switch.tripped = true
  · obtain ⟨switch, present, up⟩ := blocked
    have halted : authority.passKillSwitch decision = decision.settle (some switch.reason) := by
      simp [passKillSwitch, present, KillSwitch.check, up]
    refine .inl ⟨switch, present, up, ?_⟩
    simp only [evaluateWithState, built, halted, RiskDecision.settle]
  have clear : authority.SwitchClear := by
    intro switch present
    exact Bool.eq_false_iff.mpr fun up => blocked ⟨switch, present, up⟩
  have passed : authority.passKillSwitch decision = (true, decision) := by
    unfold passKillSwitch
    split
    · rfl
    · rename_i switch present
      simp [KillSwitch.check, clear switch present, RiskDecision.settle]
  right
  rcases authority.passTimedBreaker_cases decision call.currentTime with
    ⟨breaker, raised, present, up, running, failed, checked⟩ |
    ⟨breaker, reason, present, up, running, rejected, checked⟩ |
    ⟨onward, passes, silent, checked⟩
  · refine .inl ⟨clear, breaker, raised, present, up, running, failed, ?_⟩
    simp only [evaluateWithState, built, passed, checked]
  · refine .inr (.inl ⟨clear, breaker, reason, present, up, running, rejected, ?_⟩)
    simp only [evaluateWithState, built, passed, checked, RiskDecision.settle]
  · refine .inr (.inr ⟨clear, onward, passes, silent, ?_⟩)
    have gates := passes.others.2
    cases gate : authority.consecutiveLossGate with
    | none =>
      rw [gate] at gates
      refine .inr ⟨by simp [LossGateClear, gate], ?_⟩
      simp only [evaluateWithState, built, passed, checked, passLossGate, gates]
    | some lossGate =>
      rw [gate] at gates
      cases verdict : lossGate.rejection with
      | none =>
        refine .inr ⟨by simpa [LossGateClear, gate] using verdict, ?_⟩
        simp only [evaluateWithState, built, passed, checked, passLossGate, gates,
          ConsecutiveLossGate.check, verdict, RiskDecision.settle]
      | some reason =>
        refine .inl ⟨lossGate, reason, rfl, verdict, ?_⟩
        simp only [evaluateWithState, built, passed, checked, passLossGate, gates,
          ConsecutiveLossGate.check, verdict, RiskDecision.settle]

/-- The breaker check reads and changes nothing but the gates. -/
theorem passTimedBreaker_sameGates {left right : RiskAuthority} (same : left.SameGates right)
    (decision : RiskDecision) (now : Option DateTime) :
    (left.passTimedBreaker decision now).1 = (right.passTimedBreaker decision now).1 ∧
      (left.passTimedBreaker decision now).2.SameGates
        (right.passTimedBreaker decision now).2 := by
  unfold passTimedBreaker
  rw [same.timedBreaker]
  cases right.timedBreaker with
  | none => exact ⟨rfl, same⟩
  | some breaker => exact ⟨rfl, same.killSwitch, rfl, same.consecutiveLossGate⟩

/-- An evaluation reads and changes nothing but the gates, the callback's memory apart. -/
theorem evaluateWithState_sameGates {left right : RiskAuthority} (same : left.SameGates right)
    (ctx : RiskContext) (call : TradeCall) (clock : Clock) :
    (left.evaluateWithState ctx call clock).outcome =
        (right.evaluateWithState ctx call clock).outcome ∧
      (left.evaluateWithState ctx call clock).authority.SameGates
        (right.evaluateWithState ctx call clock).authority := by
  have halted : ∀ {left right : RiskAuthority}, left.SameGates right → ∀ decision,
      (left.haltWith decision).outcome = (right.haltWith decision).outcome ∧
        (left.haltWith decision).authority.SameGates (right.haltWith decision).authority :=
    fun {left right} same decision => ⟨rfl, (left.haltWith_sameGates decision).trans
      (same.trans (right.haltWith_sameGates decision).symm)⟩
  cases built : RiskDecision.new true "OK" call.proposedCost with
  | error raised =>
    rw [evaluateWithState_raised built, evaluateWithState_raised built]
    exact ⟨rfl, same⟩
  | ok decision =>
    have switches : left.passKillSwitch decision = right.passKillSwitch decision := by
      simp only [passKillSwitch, same.killSwitch]
    simp only [evaluateWithState, built, switches]
    obtain ⟨proceed, decision⟩ := right.passKillSwitch decision
    cases proceed with
    | false => exact halted same decision
    | true =>
      have breakers := passTimedBreaker_sameGates same decision call.currentTime
      revert breakers
      dsimp only
      generalize left.passTimedBreaker decision call.currentTime = answered
      generalize right.passTimedBreaker decision call.currentTime = answered'
      rintro ⟨alike, same⟩
      obtain ⟨answer, left⟩ := answered
      obtain ⟨answer', right⟩ := answered'
      cases alike
      replace same : left.SameGates right := same
      rcases answer with raised | ⟨proceed, decision⟩
      · exact ⟨rfl, same⟩
      · cases proceed with
        | false => exact halted same decision
        | true =>
          have gates : left.passLossGate decision = right.passLossGate decision := by
            simp only [passLossGate, same.consecutiveLossGate]
          simp only [gates]
          obtain ⟨proceed, decision⟩ := right.passLossGate decision
          cases proceed with
          | false => exact halted same decision
          | true => exact ⟨rfl, same⟩

end Evaluate

/-- `authority.kill_switch.trip(at)` -/
def tripKillSwitch (authority : RiskAuthority) (at' : Option DateTime) : RiskAuthority :=
  { authority with killSwitch := authority.killSwitch.map (·.trip at') }

/-- `authority.kill_switch.reset()` -/
def resetKillSwitch (authority : RiskAuthority) : RiskAuthority :=
  { authority with killSwitch := authority.killSwitch.map KillSwitch.reset }

/-- `authority.timed_breaker.reset()` -/
def resetTimedBreaker (authority : RiskAuthority) : RiskAuthority :=
  { authority with timedBreaker := authority.timedBreaker.map TimedCircuitBreaker.reset }

/-- `authority.consecutive_loss_gate.reset()` -/
def resetLossGate (authority : RiskAuthority) : RiskAuthority :=
  { authority with
    consecutiveLossGate := authority.consecutiveLossGate.map ConsecutiveLossGate.reset }

/-- `RiskAuthority.from_state(authority.snapshot_state(ctx))`; when either call raises, the old
authority stays. -/
def recover [FloatFormat] (authority : RiskAuthority) (ctx : RiskContext) (onTrip : Bool) :
    RiskAuthority :=
  match authority.snapshotState ctx >>= (fromState · onTrip) with
  | .ok restored => restored
  | .error _ => authority

/-- Recovery always succeeds, with every gate as it was. -/
theorem recover_eq [FloatFormat] (authority : RiskAuthority) (ctx : RiskContext) (onTrip : Bool) :
    authority.recover ctx onTrip = { authority with onTrip, lastTripReason := none } := by
  have restored : authority.snapshotState ctx >>= (fromState · onTrip) =
      .ok { authority with onTrip, lastTripReason := none } := by
    rw [snapshotState_eq]
    exact fromState_stateOf authority ctx onTrip
  simp only [recover, restored]

end RiskAuthority

/-- The operations of a session. -/
inductive DeskOp where
  | tripSwitch (at' : Option DateTime)
  | resetSwitch
  | resetBreaker
  | resetLossGate
  | record (pnl : PyNum) (at' : Option DateTime)
  | evaluate (ctx : RiskContext) (call : TradeCall) (clock : Clock)
  | recover (ctx : RiskContext) (onTrip : Bool)

section Desk

variable [FloatFormat]

/-- What an operation answers, which only an evaluation does, and the authority after it. -/
def deskStep (authority : RiskAuthority) :
    DeskOp → Option (Except PyError RiskDecision) × RiskAuthority
  | .tripSwitch at' => (none, authority.tripKillSwitch at')
  | .resetSwitch => (none, authority.resetKillSwitch)
  | .resetBreaker => (none, authority.resetTimedBreaker)
  | .resetLossGate => (none, authority.resetLossGate)
  | .record pnl at' => (none, authority.recordResolvedTrade pnl at')
  | .evaluate ctx call clock =>
    let evaluation := authority.evaluateWithState ctx call clock
    (some evaluation.outcome, evaluation.authority)
  | .recover ctx onTrip => (none, authority.recover ctx onTrip)

/-- The desk as a machine. -/
def desk : Runs.Machine RiskAuthority DeskOp (Option (Except PyError RiskDecision)) := ⟨deskStep⟩

/-- The results of the evaluations of a session, in order. -/
def decisions (authority : RiskAuthority) (session : List DeskOp) :
    List (Except PyError RiskDecision) := (desk.answers authority session).reduceOption

/-- Every operation reads and changes nothing but the gates. -/
theorem desk_sameGates {left right : RiskAuthority} (same : left.SameGates right) (op : DeskOp) :
    desk.answer left op = desk.answer right op ∧
      (desk.next left op).SameGates (desk.next right op) := by
  cases op with
  | evaluate ctx call clock =>
    obtain ⟨alike, onward⟩ := RiskAuthority.evaluateWithState_sameGates same ctx call clock
    exact ⟨congrArg some alike, onward⟩
  | recover ctx onTrip =>
    refine ⟨rfl, ?_⟩
    change (left.recover ctx onTrip).SameGates (right.recover ctx onTrip)
    rw [RiskAuthority.recover_eq, RiskAuthority.recover_eq]
    exact ⟨same.killSwitch, same.timedBreaker, same.consecutiveLossGate⟩
  | tripSwitch at' =>
    exact ⟨rfl, congrArg (Option.map _) same.killSwitch, same.timedBreaker,
      same.consecutiveLossGate⟩
  | resetSwitch =>
    exact ⟨rfl, congrArg (Option.map _) same.killSwitch, same.timedBreaker,
      same.consecutiveLossGate⟩
  | resetBreaker =>
    exact ⟨rfl, same.killSwitch, congrArg (Option.map _) same.timedBreaker,
      same.consecutiveLossGate⟩
  | resetLossGate =>
    exact ⟨rfl, same.killSwitch, same.timedBreaker,
      congrArg (Option.map _) same.consecutiveLossGate⟩
  | record pnl at' =>
    exact ⟨rfl, same.killSwitch, congrArg (Option.map _) same.timedBreaker,
      congrArg (Option.map _) same.consecutiveLossGate⟩

/-- The snapshot of an authority restores, and from then on the restored authority decides as
the original does, whatever the session brings. -/
theorem recovery_keeps_decisions (authority : RiskAuthority) (ctx : RiskContext) (onTrip : Bool)
    (session : List DeskOp) :
    ∃ state restored, authority.snapshotState ctx = .ok state ∧
      RiskAuthority.fromState state onTrip = .ok restored ∧
      decisions restored session = decisions authority session := by
  refine ⟨_, _, authority.snapshotState_eq ctx, authority.fromState_stateOf ctx onTrip, ?_⟩
  have same : RiskAuthority.SameGates { authority with onTrip, lastTripReason := none } authority :=
    ⟨rfl, rfl, rfl⟩
  exact congrArg _ (desk.answers_eq desk (fun _ _ op same => desk_sameGates same op) same session)

end Desk

end VerdictRisk
