import VerdictRisk.Verif.Interleaving
import VerdictRisk.Verif.DeskHalt

/-!
# Desks that are reset

No operation changes the configuration of a gate: the reason of the switch, the threshold and the
cooldown of the breaker, the limit and the window of the loss gate. A reset clears everything
else, so a desk whose gates have all been reset decides as it did when it was new, whatever has
happened to it.
-/

namespace VerdictRisk

open Python

namespace KillSwitch

/-- A reset forgets a trip. -/
@[simp] theorem reset_trip (switch : KillSwitch) (at' : Option DateTime) :
    (switch.trip at').reset = switch.reset := by
  unfold trip
  split <;> rfl

/-- A second reset changes nothing. -/
@[simp] theorem reset_reset (switch : KillSwitch) : switch.reset.reset = switch.reset := rfl

/-- A new switch is as its reset leaves it. -/
@[simp] theorem reset_new (reason : String) : (new reason).reset = new reason := rfl

end KillSwitch

namespace TimedCircuitBreaker

/-- A reset forgets a record. -/
@[simp] theorem reset_record (breaker : TimedCircuitBreaker) (pnl : PyNum)
    (at' : Option DateTime) : (breaker.record pnl at').reset = breaker.reset := by
  rcases record_cases breaker pnl at' with ⟨_, same⟩ | ⟨_, _, _, same⟩ | ⟨_, _, _, _, same⟩ |
    ⟨_, _, _, _, same⟩ <;> rw [same] <;> rfl

/-- A second reset changes nothing. -/
@[simp] theorem reset_reset (breaker : TimedCircuitBreaker) :
    breaker.reset.reset = breaker.reset := rfl

/-- A new breaker is as its reset leaves it. -/
theorem reset_new [FloatFormat] {threshold : ℤ} {cooldown : PyNum} {breaker : TimedCircuitBreaker}
    (built : new threshold cooldown = .ok breaker) : breaker.reset = breaker := by
  unfold new at built
  split at built
  · contradiction
  · split at built
    · contradiction
    · split at built
      · split at built
        · cases built
          rfl
        · contradiction
      · cases built
        rfl

end TimedCircuitBreaker

namespace ConsecutiveLossGate

/-- A reset forgets a record. -/
@[simp] theorem reset_record (gate : ConsecutiveLossGate) (pnl : PyNum) :
    (gate.record pnl).reset = gate.reset := by
  unfold record
  split <;> rfl

/-- A second reset changes nothing. -/
@[simp] theorem reset_reset (gate : ConsecutiveLossGate) : gate.reset.reset = gate.reset := rfl

/-- A new loss gate is as its reset leaves it. -/
theorem reset_new {maxLosses windowTrades : ℤ} {gate : ConsecutiveLossGate}
    (built : new maxLosses windowTrades = .ok gate) : gate.reset = gate := by
  unfold new at built
  split at built
  · contradiction
  · split at built
    · contradiction
    · split at built
      · contradiction
      · cases built
        rfl

end ConsecutiveLossGate

namespace RiskAuthority

/-- Every gate of the desk reset. -/
def cleared (authority : RiskAuthority) : RiskAuthority :=
  authority.resetKillSwitch.resetTimedBreaker.resetLossGate

/-- The gates of an authority are as their constructors made them. -/
structure Constructed [FloatFormat] (authority : RiskAuthority) : Prop where
  killSwitch : ∀ switch, authority.killSwitch = some switch →
    ∃ reason, switch = KillSwitch.new reason
  timedBreaker : ∀ breaker, authority.timedBreaker = some breaker →
    ∃ threshold cooldown, TimedCircuitBreaker.new threshold cooldown = .ok breaker
  consecutiveLossGate : ∀ gate, authority.consecutiveLossGate = some gate →
    ∃ maxLosses windowTrades, ConsecutiveLossGate.new maxLosses windowTrades = .ok gate

/-- An authority with new gates is as a reset of every gate leaves it. -/
theorem Constructed.cleared [FloatFormat] {authority : RiskAuthority}
    (constructed : authority.Constructed) : authority.cleared.SameGates authority := by
  have unchanged : ∀ {α : Type} {reset : α → α} {gate : Option α},
      (∀ held, gate = some held → reset held = held) → gate.map reset = gate := by
    intro α reset gate kept
    cases gate with
    | none => rfl
    | some held => exact congrArg some (kept held rfl)
  refine ⟨unchanged ?_, unchanged ?_, unchanged ?_⟩
  · intro switch present
    obtain ⟨reason, rfl⟩ := constructed.killSwitch switch present
    exact KillSwitch.reset_new reason
  · intro breaker present
    obtain ⟨_, _, built⟩ := constructed.timedBreaker breaker present
    exact TimedCircuitBreaker.reset_new built
  · intro gate present
    obtain ⟨_, _, built⟩ := constructed.consecutiveLossGate gate present
    exact ConsecutiveLossGate.reset_new built

/-- Resetting the gates of alike authorities leaves them alike. -/
theorem SameGates.cleared {left right : RiskAuthority} (same : left.SameGates right) :
    left.cleared.SameGates right.cleared :=
  ⟨congrArg (Option.map _) same.killSwitch, congrArg (Option.map _) same.timedBreaker,
    congrArg (Option.map _) same.consecutiveLossGate⟩

/-- Passing the breaker changes nothing that its reset keeps. -/
theorem BreakerPasses.cleared [FloatFormat] {authority onward : RiskAuthority}
    {now : Option DateTime} (passes : authority.BreakerPasses now onward) :
    onward.cleared.SameGates authority.cleared := by
  cases passes with
  | absent | clear => exact .refl _
  | elapsed breaker present _ _ =>
    refine ⟨rfl, ?_, rfl⟩
    change some breaker.reset.reset = authority.timedBreaker.map TimedCircuitBreaker.reset
    rw [present, TimedCircuitBreaker.reset_reset, Option.map_some]

end RiskAuthority

section Desk

variable [FloatFormat]

/-- No operation changes what a reset keeps. -/
theorem desk_cleared (authority : RiskAuthority) (op : DeskOp) :
    (desk.next authority op).cleared.SameGates authority.cleared := by
  have reset : ∀ {α : Type} {act reset : α → α}, (∀ gate, reset (act gate) = reset gate) →
      ∀ gate : Option α, (gate.map act).map reset = gate.map reset := by
    intro α act reset kept gate
    cases gate with
    | none => rfl
    | some gate => exact congrArg some (kept gate)
  cases op with
  | tripSwitch at' => exact ⟨reset (KillSwitch.reset_trip · at') _, rfl, rfl⟩
  | resetSwitch => exact ⟨reset KillSwitch.reset_reset _, rfl, rfl⟩
  | resetBreaker => exact ⟨rfl, reset TimedCircuitBreaker.reset_reset _, rfl⟩
  | resetLossGate => exact ⟨rfl, rfl, reset ConsecutiveLossGate.reset_reset _⟩
  | record pnl at' =>
    exact ⟨rfl, reset (TimedCircuitBreaker.reset_record · pnl at') _,
      reset (ConsecutiveLossGate.reset_record · pnl) _⟩
  | recover ctx onTrip =>
    change (authority.recover ctx onTrip).cleared.SameGates _
    rw [RiskAuthority.recover_eq]
    exact ⟨rfl, rfl, rfl⟩
  | evaluate ctx call clock =>
    obtain ⟨onward, path, same⟩ := authority.evaluateWithState_authority ctx call clock
    refine same.cleared.trans ?_
    rcases path with rfl | passes
    · exact .refl _
    · exact passes.cleared

/-- A session changes nothing that a reset keeps. -/
theorem session_cleared (authority : RiskAuthority) (session : List DeskOp) :
    (desk.after authority session).cleared.SameGates authority.cleared := by
  have kept : ∀ (state : RiskAuthority) (op : DeskOp),
      state.cleared.SameGates authority.cleared →
        (desk.next state op).cleared.SameGates authority.cleared :=
    fun state op same => (desk_cleared state op).trans same
  exact desk.after_invariant (.refl authority.cleared) kept session

/-- After any session, resetting the three gates in any order, with recoveries in between, leaves
a desk whose later decisions are those of the desk when its gates were new. -/
theorem reset_desk_decides_as_new {authority : RiskAuthority}
    (constructed : authority.Constructed) {resets : List DeskOp}
    (complete : ∀ gate, gateHistory gate resets =
      gateHistory gate [.resetSwitch, .resetBreaker, .resetLossGate])
    (session later : List DeskOp) :
    decisions authority (session ++ resets ++ later) =
      decisions authority session ++ decisions authority later := by
  change desk.visible authority (session ++ resets ++ later) =
    desk.visible authority session ++ desk.visible authority later
  have settled := desk_footprint.same_of_histories complete (desk.after authority session) _
    (.refl _)
  have silent : desk.visible (desk.after authority session) resets = [] := settled.1
  have fresh : (desk.after (desk.after authority session) resets).SameGates authority :=
    settled.2.trans ((session_cleared authority session).trans constructed.cleared)
  rw [desk.visible_append, desk.visible_append, silent, List.append_nil, desk.after_append,
    (desk_footprint.same_refl later _ _ fresh).1]

end Desk

section Example

attribute [local instance] FloatFormat.exact

/-- A desk halted by its switch and its breaker approves again once both are reset. -/
theorem halted_desk_reset :
    let breaker : TimedCircuitBreaker := ⟨1, 24, 0, false, none, Nat.le_refl 1, rfl⟩
    let authority : RiskAuthority :=
      .new (some (.new "ERR_KILL_SWITCH_MANUAL")) (some breaker) none false
    let halt : List DeskOp := [.tripSwitch none, .record (.float (.finite (-1))) none]
    let evaluate : DeskOp := .evaluate .default (.plain 10 none) ⟨0, 0⟩
    decisions authority (halt ++ [.resetBreaker, .resetLossGate, .resetSwitch] ++ [evaluate]) =
      decisions authority halt ++ decisions authority [evaluate] := by
  intro breaker authority halt evaluate
  have constructed : authority.Constructed := by
    refine ⟨?_, ?_, by simp [authority, RiskAuthority.new]⟩
    · intro switch present
      cases present
      exact ⟨_, rfl⟩
    · intro held present
      cases present
      exact ⟨1, .float 24, TimedCircuitBreaker.new_float 1 24 (by decide) (by decide +kernel)⟩
  refine reset_desk_decides_as_new constructed ?_ halt [evaluate]
  intro gate
  cases gate <;> rfl

end Example

end VerdictRisk
