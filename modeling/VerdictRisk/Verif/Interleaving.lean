import VerdictRisk.Session
import VerdictRisk.Library.Interleavings

/-!
# The order of desk operations

The operator, the feed of settled trades and the order router use one authority. Each operation
touches some of its gates, and only the order in which each gate is touched matters: two sessions
that interleave the same histories of the three gates return the same decisions and leave the
gates alike. So nothing that happens to one gate is observed through another.
-/

namespace VerdictRisk

open Python

/-- The gates of a desk. -/
inductive DeskGate where
  | killSwitch
  | timedBreaker
  | consecutiveLossGate
deriving DecidableEq, Repr

/-- The operations that read or change a gate. An evaluation may ask all three, and a recovery
puts back each gate as it was. -/
def DeskOp.touches : DeskOp → DeskGate → Bool
  | .tripSwitch _, .killSwitch | .resetSwitch, .killSwitch => true
  | .resetBreaker, .timedBreaker => true
  | .resetLossGate, .consecutiveLossGate => true
  | .record _ _, .timedBreaker | .record _ _, .consecutiveLossGate => true
  | .evaluate _ _ _, _ => true
  | _, _ => false

/-- The operations of a session that touch a gate. -/
def gateHistory (gate : DeskGate) (session : List DeskOp) : List DeskOp :=
  session.filter fun op => op.touches gate

section Desk

variable [FloatFormat]

/-- Operations on different gates commute. -/
theorem desk_commute (authority : RiskAuthority) (first second : DeskOp)
    (used : ∃ gate, first.touches gate = true) (used' : ∃ gate, second.touches gate = true)
    (apart : ∀ gate, first.touches gate = true → second.touches gate = false) :
    desk.visible authority [first, second] = desk.visible authority [second, first] ∧
      (desk.after authority [first, second]).SameGates
        (desk.after authority [second, first]) := by
  obtain ⟨gate, touched⟩ := used
  obtain ⟨gate', touched'⟩ := used'
  have unshared : second.touches gate = false := apart gate touched
  have unshared' : first.touches gate' = false := by
    by_contra shared
    rw [Bool.not_eq_false] at shared
    rw [apart gate' shared] at touched'
    contradiction
  cases first with
  | evaluate ctx call clock => contradiction
  | recover ctx onTrip => cases gate <;> contradiction
  | tripSwitch at' | resetSwitch =>
    cases gate with
    | killSwitch => cases second <;> first | contradiction | exact ⟨rfl, .refl _⟩
    | timedBreaker | consecutiveLossGate => contradiction
  | resetBreaker =>
    cases gate with
    | timedBreaker => cases second <;> first | contradiction | exact ⟨rfl, .refl _⟩
    | killSwitch | consecutiveLossGate => contradiction
  | resetLossGate =>
    cases gate with
    | consecutiveLossGate => cases second <;> first | contradiction | exact ⟨rfl, .refl _⟩
    | killSwitch | timedBreaker => contradiction
  | record pnl at' =>
    cases gate' with
    | killSwitch => cases second <;> first | contradiction | exact ⟨rfl, .refl _⟩
    | timedBreaker | consecutiveLossGate => contradiction

omit [FloatFormat] in
/-- Only a recovery touches no gate. -/
theorem DeskOp.untouched {op : DeskOp} (untouched : ∀ gate, op.touches gate = false) :
    ∃ ctx onTrip, op = .recover ctx onTrip := by
  have switch := untouched .killSwitch
  have breaker := untouched .timedBreaker
  have lossGate := untouched .consecutiveLossGate
  cases op with
  | recover ctx onTrip => exact ⟨ctx, onTrip, rfl⟩
  | _ => contradiction

/-- The gates that each operation touches are all that it reads and changes. -/
theorem desk_footprint : desk.Footprint RiskAuthority.SameGates DeskOp.touches where
  equivalence := ⟨RiskAuthority.SameGates.refl, .symm, .trans⟩
  alike op same := desk_sameGates same op
  unnoticed authority op untouched := by
    obtain ⟨ctx, onTrip, rfl⟩ := DeskOp.untouched untouched
    refine ⟨rfl, ?_⟩
    change (authority.recover ctx onTrip).SameGates authority
    rw [RiskAuthority.recover_eq]
    exact ⟨rfl, rfl, rfl⟩
  commute := desk_commute

/-- Two sessions in which each gate sees the same operations in the same order return the same
decisions and leave the gates alike, however the operations on different gates interleave. -/
theorem interleavings_decide_alike (authority : RiskAuthority) {session session' : List DeskOp}
    (histories : ∀ gate, gateHistory gate session = gateHistory gate session') :
    decisions authority session = decisions authority session' ∧
      (desk.after authority session).SameGates (desk.after authority session') :=
  desk_footprint.same_of_histories histories authority authority (.refl authority)

end Desk

section Example

attribute [local instance] FloatFormat.exact

/-- A loss that is settled while the switch is tripped trips the breaker as it would have before
the switch. -/
theorem loss_and_trip_exchanged :
    let breaker : TimedCircuitBreaker := ⟨1, 24, 0, false, none, Nat.le_refl 1, rfl⟩
    let authority : RiskAuthority :=
      .new (some (.new "ERR_KILL_SWITCH_MANUAL")) (some breaker) none false
    let loss : DeskOp := .record (.float (.finite (-1))) none
    let evaluate : DeskOp := .evaluate .default (.plain 10 none) ⟨0, 0⟩
    decisions authority [.tripSwitch none, loss, .resetSwitch, evaluate] =
      decisions authority [loss, .tripSwitch none, .resetSwitch, evaluate] := by
  intro breaker authority loss evaluate
  refine (interleavings_decide_alike authority ?_).1
  intro gate
  cases gate <;> rfl

end Example

end VerdictRisk
