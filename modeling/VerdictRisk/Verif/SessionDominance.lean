import VerdictRisk.Verif.RoundedGates
import VerdictRisk.Verif.Report
import VerdictRisk.Verif.DeskHalt

/-!
# Dominance of calmer sessions

Along two sessions that go through the same steps, the second with results no worse and with calls
at least as safe, a desk with a kill switch and a loss gate approves in the second session
whatever it approves in the first. The relation between the two desks is that the second switch
is tripped only when the first is, and that the second history has a loss only where the first
has one. A timed breaker has no such order: a streak that trips it sooner also ends its cooldown
sooner.
-/

namespace VerdictRisk

open Python

/-- A history has losses only where the other has them. -/
def NoWorse (history history' : List Bool) : Prop :=
  List.Forall₂ (fun loss loss' => loss' = true → loss = true) history history'

/-- A history that is no worse has no more losses. -/
theorem NoWorse.count_le {history history' : List Bool} (noWorse : NoWorse history history') :
    history'.count true ≤ history.count true := by
  induction noWorse with
  | nil => exact le_rfl
  | @cons loss loss' rest rest' head _ ih =>
    cases loss' with
    | false =>
      rw [List.count_cons_of_ne Bool.false_ne_true]
      exact ih.trans List.count_le_count_cons
    | true =>
      rw [head rfl, List.count_cons_self, List.count_cons_self]
      omega

/-- The second loss gate has the same limits and a history that is no worse. -/
structure CalmerGate (gate gate' : ConsecutiveLossGate) : Prop where
  maxLosses : gate'.maxLosses = gate.maxLosses
  windowTrades : gate'.windowTrades = gate.windowTrades
  history : NoWorse gate.history gate'.history

namespace CalmerGate

variable {gate gate' : ConsecutiveLossGate}

/-- The calmer gate passes whenever the other does. -/
theorem passes (calmer : CalmerGate gate gate') (clear : gate.rejection = none) :
    gate'.rejection = none := by
  have lengths : gate.history.length = gate'.history.length := List.Forall₂.length_eq calmer.history
  have losses := calmer.history.count_le
  unfold ConsecutiveLossGate.rejection at clear ⊢
  dsimp only at clear ⊢
  rw [calmer.windowTrades, calmer.maxLosses, ← lengths]
  by_cases short : gate.history.length < gate.windowTrades
  · rw [if_pos short]
  · rw [if_neg short] at clear ⊢
    by_cases exceeded : gate.history.count true > gate.maxLosses
    · rw [if_pos exceeded] at clear
      contradiction
    · rw [if_neg (by omega)]

/-- A result that is no worse keeps the gate calmer. -/
theorem record (calmer : CalmerGate gate gate') {pnl pnl' : PyNum}
    (counted : isFinite pnl' = isFinite pnl)
    (better : pnl'.exact.lt 0 = true → pnl.exact.lt 0 = true) :
    CalmerGate (gate.record pnl) (gate'.record pnl') := by
  unfold ConsecutiveLossGate.record
  rw [counted]
  split
  · exact calmer
  · refine ⟨calmer.maxLosses, calmer.windowTrades, ?_⟩
    have extended : NoWorse (gate.history ++ [pnl.exact.lt 0])
        (gate'.history ++ [pnl'.exact.lt 0]) :=
      List.rel_append calmer.history (.cons better .nil)
    have lengths := List.Forall₂.length_eq extended
    change NoWorse (ConsecutiveLossGate.trimmed _ _) (ConsecutiveLossGate.trimmed _ _)
    unfold ConsecutiveLossGate.trimmed
    rw [calmer.windowTrades, ← lengths]
    split
    · exact List.forall₂_drop _ extended
    · exact extended

end CalmerGate

/-- The second switch is tripped only when the first is. -/
inductive CalmerSwitch : Option KillSwitch → Option KillSwitch → Prop
  | neither : CalmerSwitch none none
  | both {switch switch' : KillSwitch} : (switch'.tripped = true → switch.tripped = true) →
      CalmerSwitch (some switch) (some switch')

/-- An operation on both switches keeps the second calmer when it does so for each of its states. -/
theorem CalmerSwitch.map {first second : Option KillSwitch} (calmer : CalmerSwitch first second)
    {act act' : KillSwitch → KillSwitch}
    (kept : ∀ switch switch' : KillSwitch, (switch'.tripped = true → switch.tripped = true) →
      (act' switch').tripped = true → (act switch).tripped = true) :
    CalmerSwitch (first.map act) (second.map act') := by
  cases calmer with
  | neither => exact .neither
  | both less => exact .both (kept _ _ less)

/-- A calmer switch rejects nothing that the other does not reject. -/
theorem CalmerSwitch.passes {first second : Option KillSwitch}
    (calmer : CalmerSwitch first second)
    (clear :
      (first.bind fun switch => if switch.tripped then some switch.reason else none) = none) :
    (second.bind fun switch => if switch.tripped then some switch.reason else none) = none := by
  cases calmer with
  | neither => rfl
  | @both switch switch' less =>
    rw [Option.bind_some] at clear ⊢
    cases up : switch'.tripped with
    | false => rfl
    | true =>
      rw [less up, if_pos rfl] at clear
      contradiction

/-- Both loss gates are absent, or the second is calmer. -/
inductive CalmerLossGate : Option ConsecutiveLossGate → Option ConsecutiveLossGate → Prop
  | neither : CalmerLossGate none none
  | both {gate gate' : ConsecutiveLossGate} : CalmerGate gate gate' →
      CalmerLossGate (some gate) (some gate')

/-- An operation on both loss gates keeps the second calmer when it does so for each of its
states. -/
theorem CalmerLossGate.map {first second : Option ConsecutiveLossGate}
    (calmer : CalmerLossGate first second) {act act' : ConsecutiveLossGate → ConsecutiveLossGate}
    (kept : ∀ gate gate', CalmerGate gate gate' → CalmerGate (act gate) (act' gate')) :
    CalmerLossGate (first.map act) (second.map act') := by
  cases calmer with
  | neither => exact .neither
  | both calmer => exact .both (kept _ _ calmer)

/-- A calmer loss gate rejects nothing that the other does not reject. -/
theorem CalmerLossGate.passes {first second : Option ConsecutiveLossGate}
    (calmer : CalmerLossGate first second)
    (clear : first.bind ConsecutiveLossGate.rejection = none) :
    second.bind ConsecutiveLossGate.rejection = none := by
  cases calmer with
  | neither => rfl
  | both calmer => exact calmer.passes clear

/-- The second desk, without a breaker as the first, is calmer. -/
structure Calmer (authority authority' : RiskAuthority) : Prop where
  killSwitch : CalmerSwitch authority.killSwitch authority'.killSwitch
  consecutiveLossGate :
    CalmerLossGate authority.consecutiveLossGate authority'.consecutiveLossGate
  timedBreaker : authority.timedBreaker = none
  timedBreaker' : authority'.timedBreaker = none

/-- Alike desks are as calm. -/
theorem Calmer.sameGates {authority authority' onward onward' : RiskAuthority}
    (calmer : Calmer authority authority') (same : onward.SameGates authority)
    (same' : onward'.SameGates authority') : Calmer onward onward' := by
  constructor
  · rw [same.killSwitch, same'.killSwitch]
    exact calmer.killSwitch
  · rw [same.consecutiveLossGate, same'.consecutiveLossGate]
    exact calmer.consecutiveLossGate
  · rw [same.timedBreaker]
    exact calmer.timedBreaker
  · rw [same'.timedBreaker]
    exact calmer.timedBreaker'

section Desk

variable [FloatFormat]

/-- An evaluation approves exactly when no desk gate stops it and the stateless chain approves. -/
theorem evaluateWithState_approves_iff (authority : RiskAuthority) (ctx : RiskContext)
    (call : TradeCall) (clock : Clock) :
    (∃ decision, (authority.evaluateWithState ctx call clock).outcome = .ok decision ∧
        decision.approved = true) ↔
      Checks.first (statefulChecks authority call.currentTime) = .ok none ∧
        call.proposedCost.isFinite = true ∧
        Checks.first (chainChecks ctx call clock) = .ok none := by
  cases finite : call.proposedCost.isFinite with
  | false =>
    have refused : ∃ raised, RiskDecision.new true "OK" call.proposedCost = .error raised := by
      rw [RiskDecision.new, dif_neg (by simp [finite])]
      exact ⟨_, rfl⟩
    obtain ⟨raised, refused⟩ := refused
    rw [RiskAuthority.evaluateWithState_raised refused]
    simp
  | true =>
    have built : RiskDecision.new true "OK" call.proposedCost =
        .ok ⟨true, "OK", ⟨call.proposedCost, finite⟩⟩ := dif_pos finite
    rw [evaluateWithState_outcome authority ctx call clock built, Checks.first_append]
    rcases Checks.first (statefulChecks authority call.currentTime) with raised | - | reason
    · simp [Except.map]
    · rcases Checks.first (chainChecks ctx call clock) with raised | - | reason <;>
        simp [Except.map, RiskDecision.settle]
    · simp [Except.map, RiskDecision.settle]

/-- The desk gates of a calmer desk pass whenever those of the other do. -/
theorem Calmer.stateful_passes {authority authority' : RiskAuthority}
    (calmer : Calmer authority authority') {now now' : Option DateTime}
    (passes : Checks.first (statefulChecks authority now) = .ok none) :
    Checks.first (statefulChecks authority' now') = .ok none := by
  rw [Checks.first_passes_iff] at passes ⊢
  simp only [statefulChecks, List.forall_mem_cons] at passes ⊢
  obtain ⟨switch, _, gate, _⟩ := passes
  refine ⟨?_, ?_, ?_, by simp⟩
  · rw [switchCheck, Except.ok.injEq] at switch ⊢
    exact calmer.killSwitch.passes switch
  · rw [breakerCheck, calmer.timedBreaker']
  · rw [lossGateCheck, Except.ok.injEq] at gate ⊢
    exact calmer.consecutiveLossGate.passes gate

/-- An evaluation changes no gate of a desk without a breaker. -/
theorem evaluateWithState_unguarded {authority : RiskAuthority}
    (unguarded : authority.timedBreaker = none) (ctx : RiskContext) (call : TradeCall)
    (clock : Clock) :
    (authority.evaluateWithState ctx call clock).authority.SameGates authority := by
  obtain ⟨onward, path, same⟩ := authority.evaluateWithState_authority ctx call clock
  rcases path with rfl | ⟨_⟩ | ⟨_, _, _⟩ | ⟨breaker, present, _, _⟩
  · exact same
  · exact same
  · exact same
  · rw [unguarded] at present
    contradiction

/-- The second operation is the first with a result that is no worse or a call at least as safe. -/
inductive Milder : DeskOp → DeskOp → Prop
  | tripSwitch (at' at'' : Option DateTime) : Milder (.tripSwitch at') (.tripSwitch at'')
  | resetSwitch : Milder .resetSwitch .resetSwitch
  | resetBreaker : Milder .resetBreaker .resetBreaker
  | resetLossGate : Milder .resetLossGate .resetLossGate
  | record {pnl pnl' : PyFloat} (at' at'' : Option DateTime) : pnl.isFinite = true →
      pnl'.isFinite = true → pnl.value ≤ pnl'.value →
      Milder (.record (.float pnl) at') (.record (.float pnl') at'')
  | evaluate {ctx ctx' : RiskContext} {call call' : TradeCall} (clock clock' : Clock) :
      Safer ctx ctx' call call' → FiniteCall call → FiniteCall call' → HeldInputs ctx call →
      HeldInputs ctx' call' → clock'.elapsedUs ≤ ctx'.latencyBudgetUs →
      Milder (.evaluate ctx call clock) (.evaluate ctx' call' clock')
  | recover (ctx ctx' : RiskContext) (onTrip onTrip' : Bool) :
      Milder (.recover ctx onTrip) (.recover ctx' onTrip')

/-- An answer that approves a trade. -/
def Approves (answer : Option (Except PyError RiskDecision)) : Prop :=
  ∃ decision, answer = some (.ok decision) ∧ decision.approved = true

omit [FloatFormat] in
/-- A result that is no worse is a loss only where the other is one. -/
theorem loss_of_better {pnl pnl' : PyFloat} (finite : pnl.isFinite = true)
    (finite' : pnl'.isFinite = true) (better : pnl.value ≤ pnl'.value)
    (loss : pnl'.lt 0 = true) : pnl.lt 0 = true := by
  rw [PyFloat.lt_iff finite' rfl] at loss
  rw [PyFloat.lt_iff finite rfl]
  exact better.trans_lt loss

/-- A milder operation on a calmer desk approves whatever the other does on the other, and leaves
the desk calmer. -/
theorem milder_next [SoundRounding] {authority authority' : RiskAuthority}
    (calmer : Calmer authority authority') {op op' : DeskOp} (milder : Milder op op') :
    (Approves (desk.answer authority op) → Approves (desk.answer authority' op')) ∧
      Calmer (desk.next authority op) (desk.next authority' op') := by
  have idle : ∀ {answer : Prop}, Approves none → answer := by
    rintro answer ⟨_, same, _⟩
    contradiction
  have unguarded : ∀ {authority : RiskAuthority} {act : TimedCircuitBreaker → TimedCircuitBreaker},
      authority.timedBreaker = none → authority.timedBreaker.map act = none := by
    intro authority act absent
    rw [absent, Option.map_none]
  cases milder with
  | tripSwitch at' at'' =>
    refine ⟨idle, ⟨calmer.killSwitch.map fun switch switch' _ _ => ?_,
      calmer.consecutiveLossGate, calmer.timedBreaker, calmer.timedBreaker'⟩⟩
    exact switch.trip_tripped at'
  | resetSwitch =>
    refine ⟨idle, ⟨calmer.killSwitch.map fun switch switch' _ up => ?_,
      calmer.consecutiveLossGate, calmer.timedBreaker, calmer.timedBreaker'⟩⟩
    rw [switch'.reset_tripped] at up
    contradiction
  | resetBreaker =>
    exact ⟨idle, ⟨calmer.killSwitch, calmer.consecutiveLossGate,
      unguarded calmer.timedBreaker, unguarded calmer.timedBreaker'⟩⟩
  | resetLossGate =>
    refine ⟨idle, ⟨calmer.killSwitch, calmer.consecutiveLossGate.map fun gate gate' calmer => ?_,
      calmer.timedBreaker, calmer.timedBreaker'⟩⟩
    exact ⟨calmer.maxLosses, calmer.windowTrades, .nil⟩
  | record at' at'' finite finite' better =>
    refine ⟨idle, ⟨calmer.killSwitch, calmer.consecutiveLossGate.map fun gate gate' calmer => ?_,
      unguarded calmer.timedBreaker, unguarded calmer.timedBreaker'⟩⟩
    exact calmer.record (finite'.trans finite.symm) (loss_of_better finite finite' better)
  | evaluate clock clock' safer finite finite' held held' inTime =>
    have unchanged := evaluateWithState_unguarded calmer.timedBreaker
    have unchanged' := evaluateWithState_unguarded calmer.timedBreaker'
    refine ⟨?_, calmer.sameGates (unchanged _ _ clock) (unchanged' _ _ clock')⟩
    rintro ⟨decision, answered, approved⟩
    obtain ⟨stateful, _, chain⟩ := (evaluateWithState_approves_iff _ _ _ _).mp
      ⟨decision, Option.some.inj answered, approved⟩
    have onward := rounded_chain_mono safer finite finite' held held' inTime chain
    obtain ⟨decision', returned, approved'⟩ := (evaluateWithState_approves_iff _ _ _ clock').mpr
      ⟨calmer.stateful_passes stateful, finite'.proposedCost, onward⟩
    exact ⟨decision', congrArg some returned, approved'⟩
  | recover ctx ctx' onTrip onTrip' =>
    refine ⟨idle, ?_⟩
    change Calmer (authority.recover ctx onTrip) (authority'.recover ctx' onTrip')
    rw [RiskAuthority.recover_eq, RiskAuthority.recover_eq]
    exact ⟨calmer.killSwitch, calmer.consecutiveLossGate, calmer.timedBreaker,
      calmer.timedBreaker'⟩

end Desk

section Example

attribute [local instance] FloatFormat.doubles

-- With a breaker of two losses and one hour, turning the first loss into a win lets the streak
-- reach its threshold only after the cooldown of the other session.
example :
    let breaker : TimedCircuitBreaker := ⟨2, 1, 0, false, none, by decide, by decide +kernel⟩
    let later : DateTime := ⟨hourMicroseconds, none⟩
    let loss (at' : DateTime) : DeskOp := .record (.float (.finite (-1))) (some at')
    let evaluate : DeskOp := .evaluate .default (.plain 10 (some later)) ⟨0, 0⟩
    let session (first : PyFloat) : List DeskOp :=
      [.record (.float first) (some ⟨0, none⟩), loss ⟨0, none⟩, evaluate, loss later, evaluate]
    let approvals (first : PyFloat) : List Bool :=
      (decisions (.new none (some breaker) none false) (session first)).map fun outcome =>
        outcome.toOption.any RiskDecision.approved
    approvals (.finite (-1)) = [true, true] ∧ approvals 1 = [true, false] := by
  decide +kernel

end Example

end VerdictRisk
