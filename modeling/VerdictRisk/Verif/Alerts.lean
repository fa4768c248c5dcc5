import Mathlib.Data.List.TakeWhile
import VerdictRisk.Library.Notices
import VerdictRisk.Verif.DeskHalt
import VerdictRisk.Verif.Report

/-!
# Alerts

The authority invokes `on_trip` with a stateful rejection unless it invoked it with the same
reason last. What is passed to the callback along a session is then what an observer is told of
the stream of stateful rejections, whose memory is the authority's last trip reason.
-/

namespace VerdictRisk

open Python

/-- The operation works on the authority in place; only a recovery replaces it. -/
def DeskOp.inPlace : DeskOp → Bool
  | .recover _ _ => false
  | _ => true

section Alerts

variable [FloatFormat]

/-- The decision that a stateful gate rejects an evaluation with, if one does. -/
def statefulRejection (authority : RiskAuthority) : DeskOp → Option RiskDecision
  | .evaluate _ call _ =>
    match RiskDecision.new true "OK" call.proposedCost,
        Checks.first (statefulChecks authority call.currentTime) with
    | .ok decision, .ok (some reason) => some (decision.settle (some reason)).2
    | _, _ => none
  | _ => none

/-- The decisions that an operation invokes `on_trip` with. -/
def alertsOf (authority : RiskAuthority) : DeskOp → List RiskDecision
  | .evaluate ctx call clock => (authority.evaluateWithState ctx call clock).alerts
  | _ => []

/-- The desk as a machine that answers with the stateful rejection of each operation. -/
def rejectionDesk : Runs.Machine RiskAuthority DeskOp (Option RiskDecision) :=
  ⟨fun authority op => (statefulRejection authority op, desk.next authority op)⟩

/-- The desk as a machine that answers with the alerts of each operation. -/
def alertDesk : Runs.Machine RiskAuthority DeskOp (List RiskDecision) :=
  ⟨fun authority op => (alertsOf authority op, desk.next authority op)⟩

/-- The stateful rejections of a session, in order. -/
def rejections (authority : RiskAuthority) (session : List DeskOp) : List RiskDecision :=
  (rejectionDesk.answers authority session).reduceOption

/-- The decisions that a session invokes `on_trip` with, in order. -/
def alerts (authority : RiskAuthority) (session : List DeskOp) : List RiskDecision :=
  (alertDesk.answers authority session).flatten

/-- An empty session has no rejections. -/
theorem rejections_nil (authority : RiskAuthority) : rejections authority [] = [] := rfl

/-- The rejections of a session are that of its first operation and those of the rest. -/
theorem rejections_cons (authority : RiskAuthority) (op : DeskOp) (rest : List DeskOp) :
    rejections authority (op :: rest) =
      (statefulRejection authority op).toList ++ rejections (desk.next authority op) rest := by
  unfold rejections
  rw [Runs.Machine.answers]
  change (statefulRejection authority op :: _).reduceOption = _
  cases statefulRejection authority op <;> rfl

/-- The alerts of a session are those of its first operation and those of the rest. -/
theorem alerts_cons (authority : RiskAuthority) (op : DeskOp) (rest : List DeskOp) :
    alerts authority (op :: rest) = alertsOf authority op ++ alerts (desk.next authority op) rest :=
  rfl

/-- The decisions of a session are that of its first operation, if it answers with one, and those of
the rest. -/
theorem decisions_cons (authority : RiskAuthority) (op : DeskOp) (rest : List DeskOp) :
    decisions authority (op :: rest) =
      (desk.answer authority op).toList ++ decisions (desk.next authority op) rest := by
  unfold decisions
  rw [Runs.Machine.answers]
  cases desk.answer authority op <;> rfl

/-- The alerts of two sessions in turn. -/
theorem alerts_append (authority : RiskAuthority) (first second : List DeskOp) :
    alerts authority (first ++ second) =
      alerts authority first ++ alerts (desk.after authority first) second := by
  induction first generalizing authority with
  | nil => rfl
  | cons op rest ih =>
    rw [List.cons_append, alerts_cons, alerts_cons, ih, List.append_assoc]
    rfl

/-- An evaluation halts with a stateful rejection, at an authority with the callback and the
memory of the one that was asked, or it invokes no callback and keeps the memory. -/
theorem evaluate_alert_cases (authority : RiskAuthority) (ctx : RiskContext) (call : TradeCall)
    (clock : Clock) :
    (∃ rejection, ∃ onward : RiskAuthority,
      statefulRejection authority (.evaluate ctx call clock) = some rejection ∧
      onward.onTrip = authority.onTrip ∧ onward.lastTripReason = authority.lastTripReason ∧
      authority.evaluateWithState ctx call clock = onward.haltWith rejection) ∨
    (statefulRejection authority (.evaluate ctx call clock) = none ∧
      ∃ outcome, ∃ onward : RiskAuthority, onward.onTrip = authority.onTrip ∧
        onward.lastTripReason = authority.lastTripReason ∧
        authority.evaluateWithState ctx call clock = ⟨outcome, onward, []⟩) := by
  cases built : RiskDecision.new true "OK" call.proposedCost with
  | error raised =>
    exact .inr ⟨by simp [statefulRejection, built], _, authority, rfl, rfl,
      RiskAuthority.evaluateWithState_raised built⟩
  | ok decision =>
    simp only [statefulRejection, built, statefulChecks]
    rcases authority.evaluateWithState_cases ctx call clock built with
      ⟨switch, present, up, evaluated⟩ |
      ⟨clear, breaker, raised, present, _, _, failed, evaluated⟩ |
      ⟨clear, breaker, reason, present, _, _, rejected, evaluated⟩ |
      ⟨clear, onward, passes, passed, ⟨gate, reason, present, rejected, evaluated⟩ |
        ⟨gateClear, evaluated⟩⟩
    · have halted : switchCheck authority = .ok (some switch.reason) := by
        simp [switchCheck, present, up]
      exact .inl ⟨_, authority, by rw [halted, Checks.first_rejected], rfl, rfl, evaluated⟩
    · have halted : breakerCheck authority call.currentTime = .error raised := by
        simp [breakerCheck, present, failed]
      exact .inr ⟨by rw [switchCheck_clear clear, halted]; rfl, _, authority, rfl, rfl, evaluated⟩
    · have halted : breakerCheck authority call.currentTime = .ok (some reason) := by
        simp [breakerCheck, present, rejected]
      exact .inl ⟨_, authority, by rw [switchCheck_clear clear, halted]; rfl, rfl, rfl, evaluated⟩
    · have halted : lossGateCheck authority = .ok (some reason) := by
        simp [lossGateCheck, present, rejected]
      exact .inl ⟨_, onward,
        by rw [switchCheck_clear clear, breakerCheck_passes passed, halted]; rfl,
        passes.callback.1, passes.callback.2, evaluated⟩
    · exact .inr ⟨by
        rw [switchCheck_clear clear, breakerCheck_passes passed, lossGateCheck_clear gateClear]
        rfl, _, onward, passes.callback.1, passes.callback.2, evaluated⟩

/-- An operation in place tells the callback of its stateful rejection unless the callback heard
its reason last, and the reason is remembered. -/
theorem alert_step {authority : RiskAuthority} (installed : authority.onTrip = true) {op : DeskOp}
    (inPlace : op.inPlace = true) :
    alertsOf authority op = Notices.told RiskDecision.reasonCode authority.lastTripReason
        (statefulRejection authority op).toList ∧
      (desk.next authority op).onTrip = true ∧
      (desk.next authority op).lastTripReason = Notices.heard RiskDecision.reasonCode
        authority.lastTripReason (statefulRejection authority op).toList := by
  cases op with
  | evaluate ctx call clock =>
    change (authority.evaluateWithState ctx call clock).alerts = _ ∧
      (authority.evaluateWithState ctx call clock).authority.onTrip = true ∧
      (authority.evaluateWithState ctx call clock).authority.lastTripReason = _
    rcases evaluate_alert_cases authority ctx call clock with
      ⟨rejection, onward, rejected, callback, memory, evaluated⟩ |
      ⟨passed, outcome, onward, callback, memory, evaluated⟩
    · rw [evaluated, rejected, Option.toList_some]
      by_cases repeated : authority.lastTripReason = some rejection.reasonCode
      · have silent : ¬ onward.Announces rejection.reasonCode :=
          fun announces => announces.2 (memory.trans repeated)
        rw [RiskAuthority.haltWith_silent silent, Notices.told_repeated repeated]
        exact ⟨rfl, callback.trans installed, memory.trans repeated⟩
      · have announces : onward.Announces rejection.reasonCode :=
          ⟨callback.trans installed, fun same => repeated (memory.symm.trans same)⟩
        rw [RiskAuthority.haltWith_announced announces, Notices.told_changed repeated]
        exact ⟨rfl, callback.trans installed, rfl⟩
    · rw [evaluated, passed]
      exact ⟨rfl, callback.trans installed, memory⟩
  | recover => contradiction
  | tripSwitch | resetSwitch | resetBreaker | resetLossGate | record =>
    exact ⟨rfl, installed, rfl⟩

/-- Along a session in place the callback is told of the stateful rejections, with the authority's
last trip reason for its memory. -/
theorem alerts_told {authority : RiskAuthority} (installed : authority.onTrip = true)
    {session : List DeskOp} (inPlace : ∀ op ∈ session, op.inPlace = true) :
    alerts authority session = Notices.told RiskDecision.reasonCode authority.lastTripReason
        (rejections authority session) ∧
      (desk.after authority session).onTrip = true ∧
      (desk.after authority session).lastTripReason = Notices.heard RiskDecision.reasonCode
        authority.lastTripReason (rejections authority session) := by
  induction session generalizing authority with
  | nil => exact ⟨rfl, installed, rfl⟩
  | cons op rest ih =>
    rw [List.forall_mem_cons] at inPlace
    obtain ⟨here, onTrip, memory⟩ := alert_step installed inPlace.1
    obtain ⟨there, callback, final⟩ := ih onTrip inPlace.2
    rw [alerts_cons, rejections_cons, Notices.told_append, Notices.heard_append, here, there,
      memory]
    rw [memory] at final
    exact ⟨rfl, callback, final⟩

/-- An evaluation returns its stateful rejection, and without one it returns nothing but the
decision of the stateless path. -/
theorem evaluate_returned (authority : RiskAuthority) (ctx : RiskContext) (call : TradeCall)
    (clock : Clock) :
    (∀ rejection, statefulRejection authority (.evaluate ctx call clock) = some rejection →
      (authority.evaluateWithState ctx call clock).outcome = .ok rejection ∧
        rejection.approved = false) ∧
    (statefulRejection authority (.evaluate ctx call clock) = none →
      ∀ decision, (authority.evaluateWithState ctx call clock).outcome = .ok decision →
        evaluateStateless ctx call clock = .ok decision) := by
  cases built : RiskDecision.new true "OK" call.proposedCost with
  | error raised =>
    have outcome : (authority.evaluateWithState ctx call clock).outcome = .error raised := by
      rw [RiskAuthority.evaluateWithState_raised built]
    refine ⟨fun rejection rejected => ?_, fun _ decision returned => ?_⟩
    · simp [statefulRejection, built] at rejected
    · rw [outcome] at returned
      contradiction
  | ok fresh =>
    have outcome := evaluateWithState_outcome authority ctx call clock built
    have stateless := evaluateStateless_eq ctx call clock
    rw [Checks.first_append] at outcome
    simp only [statefulRejection, built]
    rw [built] at stateless
    rcases halted : Checks.first (statefulChecks authority call.currentTime) with
      raised | - | reason <;> rw [halted] at outcome
    · refine ⟨fun rejection rejected => by contradiction, fun _ decision returned => ?_⟩
      rw [outcome, Checks.first_raised] at returned
      contradiction
    · refine ⟨fun rejection rejected => by contradiction, fun _ decision returned => ?_⟩
      rw [stateless, ← returned, outcome, Checks.first_passed]
      rcases Checks.first (chainChecks ctx call clock) with raised | - | reason <;> rfl
    · refine ⟨fun rejection rejected => ?_, fun none => by contradiction⟩
      cases rejected
      exact ⟨outcome, rfl⟩

/-- The stateful rejections of a session are among the decisions that its evaluations return, in
their order, and reject. -/
theorem rejections_returned (authority : RiskAuthority) (session : List DeskOp) :
    ((rejections authority session).map Except.ok).Sublist (decisions authority session) ∧
      ∀ rejection ∈ rejections authority session, rejection.approved = false := by
  induction session generalizing authority with
  | nil => exact ⟨.slnil, by simp [rejections_nil]⟩
  | cons op rest ih =>
    obtain ⟨later, refused⟩ := ih (desk.next authority op)
    rw [rejections_cons, decisions_cons, List.map_append]
    have here : ((statefulRejection authority op).toList.map Except.ok).Sublist
          (desk.answer authority op).toList ∧
        ∀ rejection ∈ (statefulRejection authority op).toList, rejection.approved = false := by
      cases op with
      | evaluate ctx call clock =>
        cases rejected : statefulRejection authority (.evaluate ctx call clock) with
        | none => exact ⟨List.nil_sublist _, by simp⟩
        | some rejection =>
          obtain ⟨returned, rejects⟩ :=
            (evaluate_returned authority ctx call clock).1 rejection rejected
          have answer : desk.answer authority (.evaluate ctx call clock) =
              some (.ok rejection) := congrArg some returned
          rw [answer]
          exact ⟨List.Sublist.refl _, by simpa using rejects⟩
      | tripSwitch | resetSwitch | resetBreaker | resetLossGate | record | recover =>
        exact ⟨List.nil_sublist _, by simp [statefulRejection]⟩
    refine ⟨here.1.append later, fun rejection member => ?_⟩
    rcases List.mem_append.mp member with first | member
    · exact here.2 rejection first
    · exact refused rejection member

/-- Along a session in place no reason is announced twice, and every reason of a stateful
rejection is announced, exactly when no such reason comes back after another one. The stateful
rejections are what the session returns, by `rejections_returned`. -/
theorem alerts_unique_iff (killSwitch : Option KillSwitch)
    (timedBreaker : Option TimedCircuitBreaker) (consecutiveLossGate : Option ConsecutiveLossGate)
    {session : List DeskOp} (inPlace : ∀ op ∈ session, op.inPlace = true) :
    let authority := RiskAuthority.new killSwitch timedBreaker consecutiveLossGate true
    (((alerts authority session).map RiskDecision.reasonCode).Nodup ∧
        ∀ rejection ∈ rejections authority session,
          rejection.reasonCode ∈ (alerts authority session).map RiskDecision.reasonCode) ↔
      Notices.Settled ((rejections authority session).map RiskDecision.reasonCode) := by
  intro authority
  have installed : authority.onTrip = true := rfl
  have told := (alerts_told installed inPlace).1
  rw [told, ← Notices.told_nodup_iff]
  apply and_iff_left
  intro rejection member
  have announced : rejection.reasonCode ∈ (Notices.told RiskDecision.reasonCode none
      (rejections authority session)).map RiskDecision.reasonCode ∨
        none = some rejection.reasonCode := Notices.told_or_heard none member
  rcases announced with found | heard
  · exact found
  · contradiction

omit [FloatFormat] in
/-- The operation is an evaluation that gets to ask the gates. -/
def DeskOp.AsksGates : DeskOp → Prop
  | .evaluate _ call _ => call.proposedCost.isFinite = true
  | _ => False

omit [FloatFormat] in
/-- The authority has a kill switch with this reason. -/
def SwitchReason (reason : String) (authority : RiskAuthority) : Prop :=
  ∃ switch, authority.killSwitch = some switch ∧ switch.reason = reason

omit [FloatFormat] in
/-- The authority has a tripped kill switch with this reason. -/
def SwitchTripped (reason : String) (authority : RiskAuthority) : Prop :=
  ∃ switch, authority.killSwitch = some switch ∧ switch.tripped = true ∧ switch.reason = reason

/-- No operation changes the reason of the kill switch. -/
theorem switchReason_next {reason : String} {authority : RiskAuthority} (op : DeskOp)
    (equipped : SwitchReason reason authority) : SwitchReason reason (desk.next authority op) := by
  obtain ⟨switch, present, named⟩ := equipped
  cases op with
  | tripSwitch at' =>
    refine ⟨switch.trip at', congrArg (Option.map _) present, ?_⟩
    rw [← named, KillSwitch.trip]
    split <;> rfl
  | resetSwitch => exact ⟨switch.reset, congrArg (Option.map _) present, named⟩
  | evaluate ctx call clock =>
    exact ⟨switch, (authority.evaluateWithState_killSwitch ctx call clock).trans present, named⟩
  | recover ctx onTrip =>
    refine ⟨switch, ?_, named⟩
    change (authority.recover ctx onTrip).killSwitch = some switch
    rw [RiskAuthority.recover_eq]
    exact present
  | resetBreaker | resetLossGate | record => exact ⟨switch, present, named⟩

/-- Only its reset clears a tripped kill switch. -/
theorem switchTripped_next {reason : String} {authority : RiskAuthority} {op : DeskOp}
    (tripped : SwitchTripped reason authority) (unreset : op ≠ .resetSwitch) :
    SwitchTripped reason (desk.next authority op) := by
  obtain ⟨switch, present, up, named⟩ := tripped
  cases op with
  | tripSwitch at' =>
    refine ⟨switch, ?_, up, named⟩
    have stays : switch.trip at' = switch := by simp [KillSwitch.trip, up]
    exact (congrArg (Option.map _) present).trans (congrArg some stays)
  | resetSwitch => contradiction
  | evaluate ctx call clock =>
    exact ⟨switch, (authority.evaluateWithState_killSwitch ctx call clock).trans present, up, named⟩
  | recover ctx onTrip =>
    refine ⟨switch, ?_, up, named⟩
    change (authority.recover ctx onTrip).killSwitch = some switch
    rw [RiskAuthority.recover_eq]
    exact present
  | resetBreaker | resetLossGate | record => exact ⟨switch, present, up, named⟩

/-- A tripped switch rejects every evaluation that asks the gates, with its own reason. -/
theorem rejection_of_tripped {reason : String} {authority : RiskAuthority}
    (tripped : SwitchTripped reason authority) (op : DeskOp) :
    (∀ rejection, statefulRejection authority op = some rejection →
        rejection.reasonCode = reason) ∧
      (statefulRejection authority op ≠ none ↔ op.AsksGates) := by
  obtain ⟨switch, present, up, named⟩ := tripped
  cases op with
  | evaluate ctx call clock =>
    have halted : Checks.first (statefulChecks authority call.currentTime) = .ok (some reason) := by
      simp [statefulChecks, switchCheck, present, up, named]
    simp only [statefulRejection, halted, DeskOp.AsksGates, RiskDecision.new]
    by_cases finite : call.proposedCost.isFinite = true
    · rw [dif_pos finite]
      refine ⟨fun rejection rejected => ?_, by simp [finite]⟩
      cases rejected
      rfl
    · simp [finite]
  | _ => simp [statefulRejection, DeskOp.AsksGates]

/-- Until its reset a tripped switch rejects with its own reason, and it does so as soon as an
evaluation asks the gates. -/
theorem rejections_of_tripped {reason : String} {authority : RiskAuthority}
    (tripped : SwitchTripped reason authority) {session : List DeskOp}
    (unreset : .resetSwitch ∉ session) :
    (∀ rejection ∈ rejections authority session, rejection.reasonCode = reason) ∧
      (rejections authority session ≠ [] ↔ ∃ op ∈ session, op.AsksGates) := by
  induction session generalizing authority with
  | nil =>
    rw [rejections_nil]
    exact ⟨by simp, by simp⟩
  | cons op rest ih =>
    rw [List.mem_cons, not_or] at unreset
    have onward := switchTripped_next tripped fun same => unreset.1 same.symm
    obtain ⟨named, asks⟩ := rejection_of_tripped tripped op
    obtain ⟨others, later⟩ := ih onward unreset.2
    rw [rejections_cons, List.forall_mem_append]
    refine ⟨⟨fun rejection member => named rejection (by simpa using member), others⟩, ?_⟩
    simp only [List.mem_cons, exists_eq_or_imp, ← asks, ← later]
    rw [ne_eq, List.append_eq_nil_iff, not_and_or, Option.toList_eq_nil_iff]

/-- After a trip and before the next reset the switch's reason is announced exactly when an
evaluation asks the gates in between and the last alert before the trip had another reason. -/
theorem trip_announced_iff (switch : KillSwitch) (timedBreaker : Option TimedCircuitBreaker)
    (consecutiveLossGate : Option ConsecutiveLossGate) (at' : Option DateTime)
    {before during : List DeskOp} (inPlace : ∀ op ∈ before ++ during, op.inPlace = true)
    (unreset : .resetSwitch ∉ during) :
    let start := RiskAuthority.new (some switch) timedBreaker consecutiveLossGate true
    let tripped := desk.after start (before ++ [.tripSwitch at'])
    (∃ alert ∈ alerts tripped during, alert.reasonCode = switch.reason) ↔
      (∃ op ∈ during, op.AsksGates) ∧
        (alerts start before).getLast?.map RiskDecision.reasonCode ≠ some switch.reason := by
  intro start tripped
  rw [List.forall_mem_append] at inPlace
  have installed : start.onTrip = true := rfl
  obtain ⟨told, onTrip, memory⟩ := alerts_told installed inPlace.1
  have equipped : SwitchReason switch.reason (desk.after start before) :=
    desk.after_invariant ⟨switch, rfl, rfl⟩ (fun _ op kept => switchReason_next op kept) before
  have moved : tripped = desk.next (desk.after start before) (.tripSwitch at') :=
    desk.after_snoc start before (.tripSwitch at')
  have raised : SwitchTripped switch.reason tripped := by
    obtain ⟨switch', present, named⟩ := equipped
    rw [moved]
    refine ⟨switch'.trip at', congrArg (Option.map _) present, switch'.trip_tripped at', ?_⟩
    rw [← named, KillSwitch.trip]
    split <;> rfl
  have callback : tripped.onTrip = true := by
    rw [moved]
    exact onTrip
  have remembered : tripped.lastTripReason =
      (alerts start before).getLast?.map RiskDecision.reasonCode := by
    rw [moved, told]
    change (desk.after start before).lastTripReason = _
    rw [memory, Notices.heard_eq]
    exact Option.or_none
  obtain ⟨named, asked⟩ := rejections_of_tripped raised unreset
  rw [(alerts_told callback inPlace.2).1, Notices.told_of_key_iff named, asked, remembered]

/-- Stateful rejections depend on the gates alone. -/
theorem statefulRejection_sameGates {left right : RiskAuthority} (same : left.SameGates right)
    (op : DeskOp) : statefulRejection left op = statefulRejection right op := by
  cases op with
  | evaluate ctx call clock =>
    simp only [statefulRejection, statefulChecks, switchCheck, breakerCheck, lossGateCheck,
      same.killSwitch, same.timedBreaker, same.consecutiveLossGate]
  | _ => rfl

/-- So do the rejections of a session. -/
theorem rejections_sameGates {left right : RiskAuthority} (same : left.SameGates right)
    (session : List DeskOp) : rejections left session = rejections right session := by
  refine congrArg _ (rejectionDesk.answers_eq rejectionDesk (fun _ _ op same => ?_) same session)
  exact ⟨statefulRejection_sameGates same op, (desk_sameGates same op).2⟩

/-- Whatever the memory was, after a recovery it is lost. -/
theorem alerts_recovered {left right : RiskAuthority} (same : left.SameGates right)
    {session : List DeskOp} (recovers : ∀ op, session.head? = some op → op.inPlace = false) :
    alerts left session = alerts right session := by
  cases session with
  | nil => rfl
  | cons op rest =>
    have replaced := recovers op rfl
    cases op with
    | recover ctx onTrip =>
      have equal : desk.next left (.recover ctx onTrip) =
          desk.next right (.recover ctx onTrip) := by
        change left.recover ctx onTrip = right.recover ctx onTrip
        rw [RiskAuthority.recover_eq, RiskAuthority.recover_eq, same.killSwitch,
          same.timedBreaker, same.consecutiveLossGate]
      rw [alerts_cons, alerts_cons, equal]
      rfl
    | _ => contradiction

/-- The operations of a session before the authority is replaced again. -/
def untilRecovery (session : List DeskOp) : List DeskOp := session.takeWhile DeskOp.inPlace

/-- The snapshot of an authority with a callback restores, and the restored authority passes the
same decisions to the callback exactly when the first stateful rejection before any further
recovery has another reason than the last one before the crash. -/
theorem recovery_keeps_alerts_iff {authority : RiskAuthority} (installed : authority.onTrip = true)
    (ctx : RiskContext) (session : List DeskOp) :
    ∃ state restored, authority.snapshotState ctx = .ok state ∧
      RiskAuthority.fromState state true = .ok restored ∧
      (alerts restored session = alerts authority session ↔
        ∀ rejection, (rejections authority (untilRecovery session)).head? = some rejection →
          authority.lastTripReason ≠ some rejection.reasonCode) := by
  refine ⟨_, _, authority.snapshotState_eq ctx, authority.fromState_stateOf ctx true, ?_⟩
  generalize restores : { authority with onTrip := true, lastTripReason := none } = restored
  have same : restored.SameGates authority := by
    rw [← restores]
    exact ⟨rfl, rfl, rfl⟩
  have callback : restored.onTrip = true := by rw [← restores]
  have forgotten : restored.lastTripReason = none := by rw [← restores]
  have parts : session = untilRecovery session ++ session.dropWhile DeskOp.inPlace :=
    (List.takeWhile_append_dropWhile ..).symm
  have inPlace : ∀ op ∈ untilRecovery session, op.inPlace = true :=
    fun op member => List.mem_takeWhile_imp member
  have recovers : ∀ op, (session.dropWhile DeskOp.inPlace).head? = some op →
      op.inPlace = false := by
    intro op first
    have stops := List.head?_dropWhile_not DeskOp.inPlace session
    rw [first] at stops
    simpa using stops
  have onward : (desk.after restored (untilRecovery session)).SameGates
      (desk.after authority (untilRecovery session)) := by
    have step : ∀ (left right : RiskAuthority) (op op' : DeskOp), left.SameGates right → op = op' →
        desk.answer left op = desk.answer right op' ∧
          (desk.next left op).SameGates (desk.next right op') := by
      rintro left right op _ same rfl
      exact desk_sameGates same op
    exact (desk.answers_agree step same (List.forall₂_same.mpr fun _ _ => rfl)).2
  rw [← Notices.told_forgotten_iff]
  conv_lhs => rw [parts]
  rw [alerts_append, alerts_append, alerts_recovered onward recovers, List.append_left_inj,
    (alerts_told callback inPlace).1, (alerts_told installed inPlace).1, forgotten,
    rejections_sameGates same]

end Alerts

section Example

attribute [local instance] FloatFormat.exact

/-- An evaluation of a plain call under the default policy. -/
def plainEvaluation (now : Option DateTime) : DeskOp :=
  .evaluate .default (.plain 10 now) ⟨0, 0⟩

/-- A breaker that one loss trips for an hour. -/
def touchyBreaker : TimedCircuitBreaker := ⟨1, 1, 0, false, none, le_refl 1, rfl⟩

/-- Two evaluations by one clock are answered with one alert. -/
theorem steady_clock_alerts_once :
    let authority := RiskAuthority.new none (some touchyBreaker) none true
    let session := [.record (.float (.finite (-1))) (some ⟨0, none⟩),
      plainEvaluation (some ⟨0, none⟩), plainEvaluation (some ⟨1, none⟩)]
    ((alerts authority session).map RiskDecision.reasonCode).Nodup := by
  intro authority session
  have inPlace : ∀ op ∈ session, op.inPlace = true := by decide +kernel
  have short : ((rejections authority session).map RiskDecision.reasonCode).length ≤ 2 := by
    decide +kernel
  exact ((alerts_unique_iff none (some touchyBreaker) none inPlace).mpr
    (Notices.settled_of_short short)).1

/-- Evaluations by a naive clock, an aware one and the naive one again raise three alerts, of which
the first and the last have one reason. -/
theorem mixed_clocks_alert_twice :
    let authority := RiskAuthority.new none (some touchyBreaker) none true
    let session := [.record (.float (.finite (-1))) (some ⟨0, none⟩),
      plainEvaluation (some ⟨0, none⟩), plainEvaluation (some ⟨0, some (.fixed 0)⟩),
      plainEvaluation (some ⟨0, none⟩)]
    ¬ ((alerts authority session).map RiskDecision.reasonCode).Nodup := by
  decide +kernel

/-- The first trip of a switch is announced by the next evaluation. -/
theorem first_trip_announced :
    let switch := KillSwitch.new "ERR_KILL_SWITCH_MANUAL"
    let tripped := desk.after (.new (some switch) none none true) ([] ++ [.tripSwitch none])
    ∃ alert ∈ alerts tripped [plainEvaluation none], alert.reasonCode = switch.reason := by
  intro switch tripped
  have inPlace : ∀ op ∈ [] ++ [plainEvaluation none], op.inPlace = true := by decide
  have unreset : .resetSwitch ∉ [plainEvaluation none] := by simp [plainEvaluation]
  refine (trip_announced_iff switch none none none inPlace unreset).mpr ⟨?_, ?_⟩
  · exact ⟨plainEvaluation none, List.mem_singleton_self _, rfl⟩
  · simp [alerts, Runs.Machine.answers]

/-- A trip after a reset is not announced: the callback was invoked with the reason before. -/
theorem second_trip_silent :
    let switch := KillSwitch.new "ERR_KILL_SWITCH_MANUAL"
    let before := [.tripSwitch none, plainEvaluation none, .resetSwitch]
    let tripped := desk.after (.new (some switch) none none true) (before ++ [.tripSwitch none])
    (desk.after (.new (some switch) none none true) before).killSwitch = some switch ∧
      (plainEvaluation none).AsksGates ∧
      ¬ ∃ alert ∈ alerts tripped [plainEvaluation none], alert.reasonCode = switch.reason := by
  refine ⟨by decide +kernel, rfl, by decide +kernel⟩

/-- A trip that was not announced yet is announced after a recovery as it would have been. -/
theorem unannounced_trip_recovers :
    let authority := desk.after (.new (some (.new "ERR_KILL_SWITCH_MANUAL")) none none true)
      [.tripSwitch none]
    ∃ state restored, authority.snapshotState .default = .ok state ∧
      RiskAuthority.fromState state true = .ok restored ∧
      alerts restored [plainEvaluation none] = alerts authority [plainEvaluation none] := by
  intro authority
  have installed : authority.onTrip = true := rfl
  obtain ⟨state, restored, captured, restores, same⟩ :=
    recovery_keeps_alerts_iff installed .default [plainEvaluation none]
  refine ⟨state, restored, captured, restores, same.mpr fun rejection _ remembered => ?_⟩
  contradiction

/-- A trip that was announced is announced again after a recovery. -/
theorem announced_trip_repeated :
    let authority := desk.after (.new (some (.new "ERR_KILL_SWITCH_MANUAL")) none none true)
      [.tripSwitch none, plainEvaluation none]
    ∀ state restored, authority.snapshotState .default = .ok state →
      RiskAuthority.fromState state true = .ok restored →
      alerts restored [plainEvaluation none] ≠ alerts authority [plainEvaluation none] := by
  intro authority state restored captured restores
  rw [authority.snapshotState_eq, Except.ok.injEq] at captured
  rw [← captured, authority.fromState_stateOf, Except.ok.injEq] at restores
  rw [← restores]
  decide +kernel

end Example

end VerdictRisk
