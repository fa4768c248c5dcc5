import VerdictRisk.Session

/-!
# Spellings of a trade

Python compares an `int` and a `float` by value, but `_is_finite` lets only a `float` through, so
the number of a resolved trade is ignored when it is spelled as an `int`. Two runs that differ in
the spelling of some of these numbers pass through the same authorities exactly when every number
that one run counts and the other ignores is a trade that moves neither the breaker nor the loss
gate.
-/

namespace VerdictRisk

open Python

/-- Numerically equal floats are on the same side of zero. -/
theorem lt_zero_of_eq {left right : PyFloat} (equal : left.eq right = true) :
    left.lt 0 = right.lt 0 := by
  have zero : (0 : PyFloat).isFinite = true := rfl
  by_cases finite : left.isFinite = true ∧ right.isFinite = true
  · have values := (PyFloat.eq_iff finite.1 finite.2).mp equal
    rw [Bool.eq_iff_iff, PyFloat.lt_iff finite.1 zero, PyFloat.lt_iff finite.2 zero, values]
  · cases left <;> cases right <;> simp_all [PyFloat.isFinite, PyFloat.eq]

namespace TimedCircuitBreaker

/-- A trade with this PnL, once counted, leaves the breaker as it is: it is halted, or it has no
streak to end. -/
def Unmoved (breaker : TimedCircuitBreaker) (pnl : PyNum) : Prop :=
  breaker.tripped = true ∨ (pnl.exact.lt 0 = false ∧ breaker.lossStreak = 0)

/-- A finite PnL leaves the breaker as it is exactly when it does not move it. -/
theorem record_unmoved_iff (breaker : TimedCircuitBreaker) {pnl : PyNum}
    (finite : isFinite pnl = true) (at' : Option DateTime) :
    breaker.record pnl at' = breaker ↔ breaker.Unmoved pnl := by
  rcases breaker.record_cases pnl at' with ⟨ignored, same⟩ | ⟨_, clear, win, same⟩ |
    ⟨_, clear, loss, _, same⟩ | ⟨_, clear, loss, _, same⟩ <;> rw [same]
  · have tripped : breaker.tripped = true := by
      rcases ignored with infinite | tripped
      · rw [finite] at infinite
        contradiction
      · exact tripped
    exact iff_of_true rfl (.inl tripped)
  · constructor
    · intro unmoved
      exact .inr ⟨win, (congrArg lossStreak unmoved).symm⟩
    · intro unmoved
      have nothing : breaker.lossStreak = 0 := by
        rcases unmoved with tripped | ⟨_, nothing⟩
        · rw [clear] at tripped
          contradiction
        · exact nothing
      rw [← nothing]
  · have moves : ¬ breaker.Unmoved pnl := by simp [Unmoved, clear, loss]
    refine iff_of_false ?_ moves
    intro unmoved
    have streak := congrArg lossStreak unmoved
    exact Nat.succ_ne_self _ streak
  · have moves : ¬ breaker.Unmoved pnl := by simp [Unmoved, clear, loss]
    refine iff_of_false ?_ moves
    intro unmoved
    have streak := congrArg lossStreak unmoved
    exact Nat.succ_ne_self _ streak

end TimedCircuitBreaker

namespace ConsecutiveLossGate

/-- A trade with this PnL, once counted, leaves the gate as it is: its window is full of such
trades. -/
def Unmoved (gate : ConsecutiveLossGate) (pnl : PyNum) : Prop :=
  gate.history = List.replicate gate.windowTrades (pnl.exact.lt 0)

/-- A list that starts with what a copy of its rest ends with has one entry throughout. -/
theorem eq_replicate_of_shift {flag head : Bool} {rest : List Bool}
    (shift : rest ++ [flag] = head :: rest) :
    head :: rest = List.replicate (rest.length + 1) flag := by
  induction rest generalizing head with
  | nil =>
    rw [List.nil_append, List.singleton_inj] at shift
    rw [shift, List.length_nil, List.replicate_succ, List.replicate_zero]
  | cons next rest ih =>
    rw [List.cons_append, List.cons.injEq] at shift
    obtain ⟨rfl, shift⟩ := shift
    have same := ih shift
    rw [List.length_cons, List.replicate_succ, ← same]
    rw [List.replicate_succ, List.cons.injEq] at same
    rw [same.1]

/-- A buffer is unchanged by a further flag exactly when it is full of that flag. -/
theorem trimmed_snoc_iff {window : ℕ} (positive : 1 ≤ window) {history : List Bool}
    (fits : history.length ≤ window) (flag : Bool) :
    trimmed window (history ++ [flag]) = history ↔ history = List.replicate window flag := by
  have longer : (history ++ [flag]).length = history.length + 1 := List.length_append
  constructor
  · intro same
    have full : window < (history ++ [flag]).length := by
      by_contra short
      rw [trimmed, if_neg short] at same
      have lengths := congrArg List.length same
      omega
    have length : history.length = window := by omega
    rw [trimmed, if_pos full, longer, length, Nat.add_sub_cancel_left] at same
    cases history with
    | nil => exact absurd length (Nat.ne_of_lt positive)
    | cons head rest =>
      have shift : rest ++ [flag] = head :: rest := same
      rw [eq_replicate_of_shift shift, ← length, List.length_cons]
  · intro full
    have length : history.length = window := by rw [full, List.length_replicate]
    have one : history.length + 1 - window = 1 := by omega
    rw [trimmed, if_pos (by omega), longer, one, full, ← List.replicate_succ', List.drop_one,
      List.tail_replicate, Nat.add_sub_cancel]

/-- A finite PnL leaves the gate as it is exactly when it does not move it. -/
theorem record_unmoved_iff (gate : ConsecutiveLossGate) {pnl : PyNum}
    (finite : isFinite pnl = true) : gate.record pnl = gate ↔ gate.Unmoved pnl := by
  have positive : 1 ≤ gate.windowTrades := le_trans gate.maxLossesPos gate.maxLossesFit
  have exact := trimmed_snoc_iff positive gate.historyFits (pnl.exact.lt 0)
  have counted : (gate.record pnl).history =
      trimmed gate.windowTrades (gate.history ++ [pnl.exact.lt 0]) := by
    simp [record, finite]
  constructor
  · intro unmoved
    rw [unmoved] at counted
    exact exact.mp counted.symm
  · intro full
    have unmoved := counted.trans (exact.mpr full)
    obtain ⟨losses, window, history, _, _, _⟩ := gate
    simpa [record, finite] using unmoved

end ConsecutiveLossGate

namespace RiskAuthority

/-- A trade with this PnL, once counted, leaves every gate as it is. -/
structure Unmoved (authority : RiskAuthority) (pnl : PyNum) : Prop where
  timedBreaker : ∀ breaker, authority.timedBreaker = some breaker → breaker.Unmoved pnl
  consecutiveLossGate : ∀ gate, authority.consecutiveLossGate = some gate → gate.Unmoved pnl

/-- A counted record leaves the authority as it is exactly for a trade that moves no gate. -/
theorem record_unmoved_iff (authority : RiskAuthority) {pnl : PyNum}
    (finite : isFinite pnl = true) (at' : Option DateTime) :
    authority.recordResolvedTrade pnl at' = authority ↔ authority.Unmoved pnl := by
  constructor
  · intro same
    refine ⟨?_, ?_⟩
    · intro breaker held
      have kept := congrArg timedBreaker same
      rw [recordResolvedTrade, held, Option.map_some, Option.some.injEq] at kept
      exact (breaker.record_unmoved_iff finite at').mp kept
    · intro gate held
      have kept := congrArg consecutiveLossGate same
      rw [recordResolvedTrade, held, Option.map_some, Option.some.injEq] at kept
      exact (gate.record_unmoved_iff finite).mp kept
  · intro unmoved
    have breakers : authority.timedBreaker.map (·.record pnl at') = authority.timedBreaker := by
      cases held : authority.timedBreaker with
      | none => rfl
      | some breaker =>
        have kept := (breaker.record_unmoved_iff finite at').mpr (unmoved.timedBreaker _ held)
        rw [Option.map_some, kept]
    have gates : authority.consecutiveLossGate.map (·.record pnl) =
        authority.consecutiveLossGate := by
      cases held : authority.consecutiveLossGate with
      | none => rfl
      | some gate =>
        have kept := (gate.record_unmoved_iff finite).mpr (unmoved.consecutiveLossGate _ held)
        rw [Option.map_some, kept]
    rw [recordResolvedTrade, breakers, gates]

/-- A number that `_is_finite` refuses is not recorded. -/
theorem record_ignored (authority : RiskAuthority) {pnl : PyNum} (refused : isFinite pnl = false)
    (at' : Option DateTime) : authority.recordResolvedTrade pnl at' = authority := by
  have breaker : ∀ breaker : TimedCircuitBreaker, breaker.record pnl at' = breaker := by
    simp [TimedCircuitBreaker.record, refused]
  have gate : ∀ gate : ConsecutiveLossGate, gate.record pnl = gate := by
    simp [ConsecutiveLossGate.record, refused]
  simp [recordResolvedTrade, breaker, gate]

/-- Of two spellings of a number that are both counted, each is recorded as the other. -/
theorem record_counted (authority : RiskAuthority) {pnl other : PyNum}
    (equal : pnl.eq other = true) (counted : isFinite pnl = true) (counted' : isFinite other = true)
    (at' : Option DateTime) :
    authority.recordResolvedTrade pnl at' = authority.recordResolvedTrade other at' := by
  have side : pnl.exact.lt 0 = other.exact.lt 0 := lt_zero_of_eq equal
  have breaker : ∀ breaker : TimedCircuitBreaker,
      breaker.record pnl at' = breaker.record other at' := by
    intro breaker
    simp only [TimedCircuitBreaker.record, counted, counted', side]
  have gate : ∀ gate : ConsecutiveLossGate, gate.record pnl = gate.record other := by
    intro gate
    simp only [ConsecutiveLossGate.record, counted, counted', side]
  simp only [recordResolvedTrade, breaker, gate]

/-- Numerically equal trades move the same gates. -/
theorem unmoved_iff_of_eq (authority : RiskAuthority) {pnl other : PyNum}
    (equal : pnl.eq other = true) : authority.Unmoved pnl ↔ authority.Unmoved other := by
  have side : pnl.exact.lt 0 = other.exact.lt 0 := lt_zero_of_eq equal
  constructor
  · rintro ⟨breaker, gate⟩
    simp only [TimedCircuitBreaker.Unmoved, ConsecutiveLossGate.Unmoved, side] at breaker gate
    exact ⟨breaker, gate⟩
  · rintro ⟨breaker, gate⟩
    simp only [TimedCircuitBreaker.Unmoved, ConsecutiveLossGate.Unmoved, ← side] at breaker gate
    exact ⟨breaker, gate⟩

/-- Two spellings of a number are recorded alike exactly when both are counted, or neither, or the
trade moves no gate. -/
theorem record_alike_iff (authority : RiskAuthority) {pnl other : PyNum}
    (equal : pnl.eq other = true) (at' : Option DateTime) :
    authority.recordResolvedTrade pnl at' = authority.recordResolvedTrade other at' ↔
      isFinite pnl = isFinite other ∨ authority.Unmoved pnl := by
  cases counted : isFinite pnl with
  | true =>
    cases counted' : isFinite other with
    | true => exact iff_of_true (authority.record_counted equal counted counted' at') (.inl rfl)
    | false =>
      rw [authority.record_ignored counted' at', authority.record_unmoved_iff counted at']
      simp
  | false =>
    cases counted' : isFinite other with
    | true =>
      rw [authority.record_ignored counted at', eq_comm,
        authority.record_unmoved_iff counted' at', ← authority.unmoved_iff_of_eq equal]
      simp
    | false =>
      rw [authority.record_ignored counted at', authority.record_ignored counted' at']
      exact iff_of_true rfl (.inl rfl)

end RiskAuthority

/-- One operation of two runs that differ in how they spell the recorded numbers. -/
inductive TwinOp where
  | same (op : DeskOp)
  | record (pnl other : PyNum) (equal : pnl.eq other = true) (at' : Option DateTime)

namespace TwinOp

/-- The operation of the first run. -/
def first : TwinOp → DeskOp
  | same op => op
  | record pnl _ _ at' => .record pnl at'

/-- The operation of the second run. -/
def second : TwinOp → DeskOp
  | same op => op
  | record _ other _ at' => .record other at'

/-- The number is counted in both runs or in neither, or the trade moves no gate. -/
def Harmless (authority : RiskAuthority) : TwinOp → Prop
  | same _ => True
  | record pnl other _ _ => isFinite pnl = isFinite other ∨ authority.Unmoved pnl

variable [FloatFormat]

/-- Both spellings lead to one authority exactly when the operation is harmless. -/
theorem next_same_iff (authority : RiskAuthority) (twin : TwinOp) :
    desk.next authority twin.first = desk.next authority twin.second ↔
      twin.Harmless authority := by
  cases twin with
  | same op => exact iff_of_true rfl trivial
  | record pnl other equal at' => exact authority.record_alike_iff equal at'

/-- A record answers nothing, in whatever spelling. -/
theorem answer_same (authority : RiskAuthority) (twin : TwinOp) :
    desk.answer authority twin.first = desk.answer authority twin.second := by
  cases twin with
  | same op => rfl
  | record pnl other equal at' => rfl

/-- Two runs that spell recorded numbers differently pass through the same authorities exactly when
each respelling is harmless where it is made; then they decide alike. A numerically finite number
is recorded as a float of its value exactly when it is a float or the trade moves no gate. -/
theorem spellings_decide_alike (authority : RiskAuthority) (run : List TwinOp) :
    ((∀ past, past <+: run →
      desk.after authority (past.map first) = desk.after authority (past.map second)) ↔
        (desk.reading first).Along (fun authority twin => twin.Harmless authority) authority run) ∧
    ((desk.reading first).Along (fun authority twin => twin.Harmless authority) authority run →
      decisions authority (run.map first) = decisions authority (run.map second)) ∧
    ∀ pnl at', pnl.exact.isFinite = true →
      (authority.recordResolvedTrade pnl at' =
          authority.recordResolvedTrade (.float pnl.exact) at' ↔
        isFinite pnl = true ∨ authority.Unmoved pnl) := by
  refine ⟨desk.twins_same_iff next_same_iff authority run, ?_, ?_⟩
  · intro harmless
    have step : ∀ (state state' : RiskAuthority) (twin : TwinOp), state = state' →
        twin.Harmless state →
        desk.answer state twin.first = desk.answer state' twin.second ∧
          desk.next state twin.first = desk.next state' twin.second := by
      rintro state _ twin rfl harmless
      exact ⟨answer_same state twin, (next_same_iff state twin).mpr harmless⟩
    have answers := desk.twins_alike step rfl harmless
    rw [decisions, decisions, answers]
  · intro pnl at' finite
    have equal : pnl.eq (.float pnl.exact) = true := (PyFloat.eq_iff finite finite).mpr rfl
    have counted : isFinite (.float pnl.exact) = true := finite
    rw [authority.record_alike_iff equal at', counted]

end TwinOp

/-- Which of these evaluations approve their trade. -/
def approvals (results : List (Except PyError RiskDecision)) : List Bool :=
  results.map fun result => result.toOption.any (·.approved)

section Examples

attribute [local instance] FloatFormat.exact

/-- With a threshold of one, a loss of `-1.0` halts the next trade, and a loss of `-1` does not. -/
theorem integer_loss_ignored :
    (PyNum.int (-1)).eq (.float (.finite (-1))) = true ∧
    ∃ breaker, TimedCircuitBreaker.new 1 (.float 24) = .ok breaker ∧
      let authority := RiskAuthority.new none (some breaker) none false
      let evaluate := DeskOp.evaluate .default (.plain 10 none) ⟨0, 0⟩
      decisions authority [.record (.int (-1)) none, evaluate] ≠
        decisions authority [.record (.float (.finite (-1))) none, evaluate] := by
  refine ⟨by decide +kernel, _,
    TimedCircuitBreaker.new_float 1 24 (le_refl 1) (by decide +kernel), ?_⟩
  intro authority evaluate same
  have ignored : approvals (decisions authority [.record (.int (-1)) none, evaluate]) =
      [true] := by decide +kernel
  have counted : approvals (decisions authority
      [.record (.float (.finite (-1))) none, evaluate]) = [false] := by decide +kernel
  rw [same, counted] at ignored
  contradiction

end Examples

end VerdictRisk
