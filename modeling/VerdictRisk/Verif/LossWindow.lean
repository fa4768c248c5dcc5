import VerdictRisk.Verif.ExactGates
import VerdictRisk.Python.Chronology
import VerdictRisk.Library.StableOrder
import VerdictRisk.Library.Streaks

/-!
# The loss window

The consecutive-loss gate sorts the outcomes by time and scans them from the newest: a loss is
refused, counted or ends the scan by the time passed since, and a win ends it. This is a tally of
marks in the stable order of the outcomes. In exact arithmetic the tally reaches its limit
exactly when the newest outcomes are that many losses, all of them within the window. The rule
asks only for the oldest of them. That is the same unless a clock is set back between them: the
order follows the clock, and the time passed since does not.
-/

namespace VerdictRisk

open Python Streaks

/-- The datetimes that the gate is given. -/
def outcomeTimes (now : Option DateTime) (outcomes : List TradeOutcome) : List DateTime :=
  now.toList ++ outcomes.map TradeOutcome.timestamp

/-- All naive or all aware. -/
def OneMode (times : List DateTime) : Prop :=
  ∀ time ∈ times, ∀ time' ∈ times, timezoneMode time = timezoneMode time'

/-- The gate is switched on and its inputs are in order, so it gets to its scan. -/
structure Scanned (ctx : RiskContext) (outcomes : List TradeOutcome) (now : Option DateTime) :
    Prop where
  active : 1 ≤ ctx.consecutiveLossLimit
  window : 0 ≤ ctx.consecutiveLossWindowMinutes.val.value
  nonempty : outcomes ≠ []
  finite : ∀ outcome ∈ outcomes, outcome.pnl.isFinite = true
  oneMode : OneMode (outcomeTimes now outcomes)

/-- `current_time`, or a latest timestamp of the outcomes where none is given. -/
def Current (outcomes : List TradeOutcome) (current : DateTime) : Option DateTime → Prop
  | some now => now = current
  | none => (∃ outcome ∈ outcomes, outcome.timestamp = current) ∧
    ∀ outcome ∈ outcomes, current.before outcome.timestamp = false

/-- Whether one outcome is earlier than another. -/
def earlier (first second : TradeOutcome) : Bool := first.timestamp.before second.timestamp

/-- How many of the outcomes are earlier than this one. -/
def timeRank (outcomes : List TradeOutcome) : TradeOutcome → ℕ :=
  StableOrder.rank earlier outcomes

section Sorting

variable {now : Option DateTime} {outcomes : List TradeOutcome}

/-- The time of an outcome is among the times of the outcomes. -/
theorem mem_outcomeTimes {outcome : TradeOutcome} (member : outcome ∈ outcomes) :
    outcome.timestamp ∈ outcomeTimes now outcomes :=
  List.mem_append_right _ (List.mem_map_of_mem member)

/-- Given times are both naive or both aware. -/
theorem OneMode.same {times : List DateTime} (oneMode : OneMode times) {left right : DateTime}
    (held : left ∈ times) (held' : right ∈ times) :
    left.utcoffset.isSome = right.utcoffset.isSome :=
  (timezoneMode_eq_iff _ _).mp (oneMode left held right held')

/-- Outcomes whose times Python orders are ordered by their times. -/
theorem earlier_weakOrder (oneMode : OneMode (outcomeTimes now outcomes))
    (ordered : DateTime.WeaklyOrdered (outcomes.map TradeOutcome.timestamp)) :
    StableOrder.WeakOrder earlier outcomes where
  asymm _ held _ held' :=
    DateTime.before_asymm (oneMode.same (mem_outcomeTimes held) (mem_outcomeTimes held'))
  split _ held _ held' _ held'' :=
    ordered _ (List.mem_map_of_mem held) _ (List.mem_map_of_mem held') _
      (List.mem_map_of_mem held'')

/-- Sorting by timestamp some of these outcomes is their stable order. -/
theorem sortedOutcomes_stable (oneMode : OneMode (outcomeTimes now outcomes))
    (ordered : DateTime.WeaklyOrdered (outcomes.map TradeOutcome.timestamp))
    {some_outcomes : List TradeOutcome} (among : ∀ outcome ∈ some_outcomes, outcome ∈ outcomes) :
    StableOrder (timeRank outcomes) some_outcomes (sortedOutcomes some_outcomes) := by
  apply StableOrder.insertionSort
  intro first held second held'
  have compared := (earlier_weakOrder oneMode ordered).before_iff_rank (among second held')
    (among first held)
  rw [← Bool.not_eq_true]
  change ¬ earlier second first = true ↔ _
  rw [compared, not_lt]
  rfl

/-- The latest of given timestamps is given. -/
theorem latestTimestamp_given {others : List TradeOutcome}
    (among : ∀ outcome ∈ others, outcome ∈ outcomes) {time : DateTime}
    (known : time ∈ outcomes.map TradeOutcome.timestamp) :
    latestTimestamp time others ∈ outcomes.map TradeOutcome.timestamp := by
  cases List.mem_cons.mp (latestTimestamp_mem time others) with
  | inl same =>
    rw [same]
    exact known
  | inr other =>
    obtain ⟨outcome, member, same⟩ := List.mem_map.mp other
    rw [← same]
    exact List.mem_map_of_mem (among outcome member)

/-- No given timestamp is later than the latest one. -/
theorem latestTimestamp_latest (oneMode : OneMode (outcomeTimes now outcomes))
    (ordered : DateTime.WeaklyOrdered (outcomes.map TradeOutcome.timestamp))
    {latest : DateTime} (known : latest ∈ outcomes.map TradeOutcome.timestamp)
    {others : List TradeOutcome} (among : ∀ outcome ∈ others, outcome ∈ outcomes) :
    (latestTimestamp latest others).before latest = false ∧
      ∀ outcome ∈ others, (latestTimestamp latest others).before outcome.timestamp = false := by
  have given : ∀ time ∈ outcomes.map TradeOutcome.timestamp, time ∈ outcomeTimes now outcomes :=
    fun time => List.mem_append_right _
  induction others generalizing latest with
  | nil =>
    refine ⟨?_, by simp⟩
    rw [latestTimestamp, ← Bool.not_eq_true]
    intro self
    have reversed := DateTime.before_asymm rfl self
    rw [self] at reversed
    contradiction
  | cons outcome rest ih =>
    rw [List.forall_mem_cons] at among
    obtain ⟨member, later⟩ := among
    have here : outcome.timestamp ∈ outcomes.map TradeOutcome.timestamp :=
      List.mem_map_of_mem member
    rw [latestTimestamp, List.forall_mem_cons]
    by_cases newer : latest.before outcome.timestamp = true
    · rw [if_pos newer]
      obtain ⟨above, others⟩ := ih here later
      refine ⟨?_, above, others⟩
      have past := DateTime.before_asymm (oneMode.same (given _ known) (given _ here)) newer
      rw [← Bool.not_eq_true]
      intro under
      cases ordered _ (latestTimestamp_given later here) _ here _ known under with
      | inl low =>
        rw [above] at low
        contradiction
      | inr low =>
        rw [past] at low
        contradiction
    · rw [if_neg newer]
      obtain ⟨above, others⟩ := ih known later
      refine ⟨above, ?_, others⟩
      rw [← Bool.not_eq_true]
      intro under
      cases ordered _ (latestTimestamp_given later known) _ known _ here under with
      | inl low =>
        rw [above] at low
        contradiction
      | inr low => exact newer low

end Sorting

section Scan

variable [FloatFormat]

/-- `limit_seconds` -/
def windowSeconds (ctx : RiskContext) : PyFloat :=
  ctx.consecutiveLossWindowMinutes.val.toFloat.mul 60

/-- What a loss does to the scan, by the time passed since. -/
def elapsedMark (limitSeconds : PyFloat) (elapsed : ℤ) : Mark :=
  let diffSeconds := totalSeconds elapsed
  if diffSeconds.lt 0 then .refuse
  else if (0 : PyFloat).le diffSeconds && diffSeconds.le limitSeconds then .count
  else .stop

/-- What an outcome does to the scan, seen from the current time. -/
def outcomeMark (ctx : RiskContext) (current : DateTime) (outcome : TradeOutcome) : Mark :=
  if outcome.pnl.lt 0 then elapsedMark (windowSeconds ctx) (current.since outcome.timestamp)
  else .stop

/-- The reason that the gate rejects with after this many losses. -/
def lossReason (ctx : RiskContext) (losses : ℕ) : String :=
  let minutes := ctx.consecutiveLossWindowMinutes.val.repr
  s!"ERR_CONSECUTIVE_LOSS_LIMIT: {losses} consecutive losses within {minutes} minutes"

/-- The reason that the gate rejects with, if it does, by the verdict of its scan. -/
def verdictReason (ctx : RiskContext) : Verdict → Option String
  | .passed => none
  | .refused => some "ERR_INVALID_TIME_ORDER"
  | .reached => some (lossReason ctx ctx.consecutiveLossLimit.toNat)

/-- The scan is the tally of its outcomes. -/
theorem scanLosses_tally {ctx : RiskContext} {current : DateTime} {outcomes : List TradeOutcome}
    (oneMode : ∀ outcome ∈ outcomes,
      current.utcoffset.isSome = outcome.timestamp.utcoffset.isSome)
    {counted : ℕ} (below : (counted : ℤ) < ctx.consecutiveLossLimit) :
    scanLosses ctx (windowSeconds ctx) current counted outcomes =
      .ok (verdictReason ctx (tally ctx.consecutiveLossLimit.toNat counted
        (outcomes.map (outcomeMark ctx current)))) := by
  induction outcomes generalizing counted with
  | nil => rfl
  | cons outcome rest ih =>
    have last_iff : ctx.consecutiveLossLimit ≤ (counted + 1 : ℕ) ↔
        ctx.consecutiveLossLimit.toNat = counted + 1 := by omega
    rw [List.forall_mem_cons] at oneMode
    rw [scanLosses, List.map_cons, outcomeMark]
    cases loss : outcome.pnl.lt 0 with
    | false =>
      rw [if_neg Bool.false_ne_true, if_neg Bool.false_ne_true, tally_stop]
      rfl
    | true =>
      rw [if_pos rfl, if_pos rfl, elapsedMark]
      simp only [DateTime.sub_since oneMode.1]
      by_cases future : (totalSeconds (current.since outcome.timestamp)).lt 0 = true
      · rw [if_pos future, if_pos future, tally_refuse]
        rfl
      · rw [if_neg future, if_neg future]
        by_cases inside :
            ((0 : PyFloat).le (totalSeconds (current.since outcome.timestamp)) &&
              (totalSeconds (current.since outcome.timestamp)).le (windowSeconds ctx)) = true
        · rw [if_pos inside, if_pos inside, tally]
          by_cases last : ctx.consecutiveLossLimit ≤ (counted + 1 : ℕ)
          · have same := last_iff.mp last
            rw [if_pos last, if_pos same.le, verdictReason, same]
            rfl
          · have onward := not_le.mp last
            have short := not_le.mpr (Int.lt_toNat.mpr onward)
            rw [if_neg last, if_neg short]
            exact ih oneMode.2 onward
        · rw [if_neg inside, if_neg inside, tally_stop]
          rfl

/-- The time that the gate counts from. -/
def presentTime (now : Option DateTime) (first : TradeOutcome) (rest : List TradeOutcome) :
    DateTime :=
  now.getD (latestTimestamp first.timestamp rest)

omit [FloatFormat] in
/-- It is one of the given times. -/
theorem presentTime_mem (now : Option DateTime) (first : TradeOutcome)
    (rest : List TradeOutcome) : presentTime now first rest ∈ outcomeTimes now (first :: rest) := by
  cases now with
  | none => exact latestTimestamp_mem first.timestamp rest
  | some now => exact List.mem_cons_self

omit [FloatFormat] in
/-- It is the current time, or a latest timestamp. -/
theorem presentTime_current {now : Option DateTime} {first : TradeOutcome}
    {rest : List TradeOutcome} (oneMode : OneMode (outcomeTimes now (first :: rest)))
    (ordered : DateTime.WeaklyOrdered ((first :: rest).map TradeOutcome.timestamp)) :
    Current (first :: rest) (presentTime now first rest) now := by
  cases now with
  | none =>
    have latest := latestTimestamp_mem first.timestamp rest
    rw [← List.map_cons] at latest
    constructor
    · exact List.mem_map.mp latest
    · rw [List.forall_mem_cons]
      apply latestTimestamp_latest oneMode ordered (List.mem_map_of_mem List.mem_cons_self)
      exact fun outcome => List.mem_cons_of_mem first
  | some now => rfl

omit [FloatFormat] in
/-- The guard on the window asks whether it is negative. -/
theorem negative_window_iff (ctx : RiskContext) :
    ctx.consecutiveLossWindowMinutes.val.exact.lt 0 = true ↔
      ctx.consecutiveLossWindowMinutes.val.value < 0 := by
  have finite := PyNum.exact_isFinite ctx.consecutiveLossWindowMinutes.property
  rw [PyFloat.lt_iff finite rfl, PyFloat.value_ofNat, Nat.cast_zero]
  rfl

omit [FloatFormat] in
/-- A window that is not negative passes the guard. -/
theorem window_passes {ctx : RiskContext}
    (window : 0 ≤ ctx.consecutiveLossWindowMinutes.val.value) :
    ctx.consecutiveLossWindowMinutes.val.exact.lt 0 = false := by
  rw [← Bool.not_eq_true, negative_window_iff, not_lt]
  exact window

/-- The gate's answer is the tally of the outcomes from the newest to the oldest. -/
theorem rejection_tally {ctx : RiskContext} {now : Option DateTime} {first : TradeOutcome}
    {rest : List TradeOutcome} (scanned : Scanned ctx (first :: rest) now) :
    consecutiveLossesRejection ctx (some (first :: rest)) now =
      .ok (verdictReason ctx (tally ctx.consecutiveLossLimit.toNat 0
        ((sortedOutcomes (first :: rest)).reverse.map
          (outcomeMark ctx (presentTime now first rest))))) := by
  have active : 0 < ctx.consecutiveLossLimit := scanned.active
  have window := window_passes scanned.window
  have head : first.timestamp ∈ outcomeTimes now (first :: rest) :=
    mem_outcomeTimes List.mem_cons_self
  have oneMode : ∀ outcome ∈ (sortedOutcomes (first :: rest)).reverse,
      (presentTime now first rest).utcoffset.isSome = outcome.timestamp.utcoffset.isSome := by
    intro outcome member
    rw [List.mem_reverse, sortedOutcomes, List.mem_insertionSort] at member
    exact scanned.oneMode.same (presentTime_mem now first rest) (mem_outcomeTimes member)
  have answer := history_answer active window first rest now
  generalize consecutiveLossesRejection ctx (some (first :: rest)) now = answered at answer ⊢
  cases answer with
  | mixed apart =>
    have uniform : ∀ outcome ∈ first :: rest,
        timezoneMode outcome.timestamp = timezoneMode first.timestamp := by
      intro outcome member
      exact scanned.oneMode _ (mem_outcomeTimes member) _ head
    exact absurd uniform apart
  | infinite _ unknown => exact absurd scanned.finite unknown
  | foreign _ _ apart =>
    have agrees : ∀ time, now = some time → timezoneMode time = timezoneMode first.timestamp := by
      intro time given
      have held : time ∈ outcomeTimes now (first :: rest) := by
        rw [given]
        exact List.mem_cons_self
      exact scanned.oneMode time held _ head
    exact absurd agrees apart
  | scanned => exact scanLosses_tally oneMode active

end Scan

section Exact

attribute [local instance] FloatFormat.exact

/-- The window, in microseconds. -/
def windowMicroseconds (ctx : RiskContext) : ℚ :=
  ctx.consecutiveLossWindowMinutes.val.value * 60 * 1000000

/-- The last `limit` outcomes are losses, and the first of them is within the window before the
current time. -/
def LosingStreak (ctx : RiskContext) (current : DateTime) (order : List TradeOutcome) : Prop :=
  ∃ older oldest newer, order = older ++ oldest :: newer ∧
    (oldest :: newer).length = ctx.consecutiveLossLimit.toNat ∧
    (∀ outcome ∈ oldest :: newer, outcome.pnl.lt 0 = true) ∧
    (current.since oldest.timestamp : ℚ) ≤ windowMicroseconds ctx

/-- A loss that is not in the future is counted when it is within the window. -/
theorem elapsedMark_exact {ctx : RiskContext} {elapsed : ℤ} (past : 0 ≤ elapsed) :
    elapsedMark (windowSeconds ctx) elapsed =
      if (elapsed : ℚ) ≤ windowMicroseconds ctx then .count else .stop := by
  obtain ⟨finite, value⟩ := window_seconds ctx.consecutiveLossWindowMinutes
  have known : (totalSeconds elapsed).isFinite = true := rfl
  have seconds : (totalSeconds elapsed).value = (elapsed : ℚ) / 1000000 := rfl
  have nonneg : (0 : ℚ) ≤ (elapsed : ℚ) / 1000000 := by positivity
  have unrefused : (totalSeconds elapsed).lt 0 = false := by
    rw [← Bool.not_eq_true, PyFloat.lt_iff known rfl, not_lt, seconds, PyFloat.value_ofNat,
      Nat.cast_zero]
    exact nonneg
  have started : (0 : PyFloat).le (totalSeconds elapsed) = true := by
    rw [PyFloat.le_iff rfl known, seconds, PyFloat.value_ofNat, Nat.cast_zero]
    exact nonneg
  have inside : (totalSeconds elapsed).le (windowSeconds ctx) = true ↔
      (elapsed : ℚ) ≤ windowMicroseconds ctx := by
    rw [windowSeconds, windowMicroseconds, PyFloat.le_iff known finite, seconds, value,
      div_le_iff₀ (by norm_num : (0 : ℚ) < 1000000)]
  simp only [elapsedMark, unrefused, started, Bool.false_eq_true, if_false, Bool.true_and, inside]

/-- Seen from a current time that is not before it, an outcome is counted or ends the scan. -/
theorem outcomeMark_exact {ctx : RiskContext} {current : DateTime} {outcome : TradeOutcome}
    (past : 0 ≤ current.since outcome.timestamp) :
    outcomeMark ctx current outcome ≠ .refuse ∧
      (outcomeMark ctx current outcome = .count ↔ outcome.pnl.lt 0 = true ∧
        (current.since outcome.timestamp : ℚ) ≤ windowMicroseconds ctx) := by
  unfold outcomeMark
  cases loss : outcome.pnl.lt 0 with
  | false => simp
  | true =>
    rw [if_pos rfl, elapsedMark_exact past]
    by_cases within : (current.since outcome.timestamp : ℚ) ≤ windowMicroseconds ctx
    · rw [if_pos within]
      simp [within]
    · rw [if_neg within]
      simp [within]

/-- All of the last `limit` outcomes are within the window before the current time. -/
def StreakWithin (ctx : RiskContext) (current : DateTime) (order : List TradeOutcome) : Prop :=
  ∀ outcome ∈ order.rtake ctx.consecutiveLossLimit.toNat,
    (current.since outcome.timestamp : ℚ) ≤ windowMicroseconds ctx

/-- A losing streak is made of the last entries. -/
theorem LosingStreak.last {ctx : RiskContext} {current : DateTime} {order : List TradeOutcome}
    (streak : LosingStreak ctx current order) :
    ∃ oldest newer, order.rtake ctx.consecutiveLossLimit.toNat = oldest :: newer ∧
      ctx.consecutiveLossLimit.toNat ≤ order.length ∧
      (∀ outcome ∈ oldest :: newer, outcome.pnl.lt 0 = true) ∧
      (current.since oldest.timestamp : ℚ) ≤ windowMicroseconds ctx := by
  obtain ⟨older, oldest, newer, rfl, length, losses, within⟩ := streak
  have total : (older ++ oldest :: newer).length =
      older.length + ctx.consecutiveLossLimit.toNat := by
    rw [List.length_append, length]
  refine ⟨oldest, newer, ?_, ?_, losses, within⟩
  · rw [List.rtake, total, Nat.add_sub_cancel, List.drop_left]
  · omega

/-- Enough last entries that are losses within the window are a losing streak. -/
theorem losingStreak_of_last {ctx : RiskContext} {current : DateTime}
    {order : List TradeOutcome} (active : 1 ≤ ctx.consecutiveLossLimit)
    (enough : ctx.consecutiveLossLimit.toNat ≤ order.length)
    (losses : ∀ outcome ∈ order.rtake ctx.consecutiveLossLimit.toNat, outcome.pnl.lt 0 = true)
    (within : StreakWithin ctx current order) : LosingStreak ctx current order := by
  have length := rtake_length ctx.consecutiveLossLimit.toNat order
  have split := List.take_append_drop (order.length - ctx.consecutiveLossLimit.toNat) order
  unfold StreakWithin at within
  rw [List.rtake] at losses within length
  cases last : order.drop (order.length - ctx.consecutiveLossLimit.toNat) with
  | nil =>
    rw [last, List.length_nil] at length
    omega
  | cons oldest newer =>
    rw [last] at losses within length split
    refine ⟨_, oldest, newer, split.symm, ?_, losses, within oldest List.mem_cons_self⟩
    omega

/-- The tally of a list from its end reaches the limit exactly at a losing streak that is within
the window as a whole. -/
theorem tally_reached_exact {ctx : RiskContext} {current : DateTime} {order : List TradeOutcome}
    (active : 1 ≤ ctx.consecutiveLossLimit)
    (past : ∀ outcome ∈ order, 0 ≤ current.since outcome.timestamp) :
    tally ctx.consecutiveLossLimit.toNat 0 (order.reverse.map (outcomeMark ctx current)) =
        .reached ↔ LosingStreak ctx current order ∧ StreakWithin ctx current order := by
  have positive : 0 < ctx.consecutiveLossLimit.toNat := by omega
  have counted : ∀ outcome ∈ order.rtake ctx.consecutiveLossLimit.toNat,
      (outcomeMark ctx current outcome = .count ↔ outcome.pnl.lt 0 = true ∧
        (current.since outcome.timestamp : ℚ) ≤ windowMicroseconds ctx) :=
    fun outcome member => (outcomeMark_exact (past outcome (List.mem_of_mem_drop member))).2
  rw [tally_reverse_iff positive, le_trailing_iff]
  simp only [decide_eq_true_eq]
  constructor
  · rintro ⟨enough, counts⟩
    have within : StreakWithin ctx current order := fun outcome member =>
      ((counted outcome member).mp (counts outcome member)).2
    have losses : ∀ outcome ∈ order.rtake ctx.consecutiveLossLimit.toNat,
        outcome.pnl.lt 0 = true := fun outcome member =>
      ((counted outcome member).mp (counts outcome member)).1
    exact ⟨losingStreak_of_last active enough losses within, within⟩
  · rintro ⟨streak, within⟩
    obtain ⟨oldest, newer, last, enough, losses, _⟩ := streak.last
    refine ⟨enough, ?_⟩
    intro outcome member
    apply (counted outcome member).mpr
    refine ⟨losses outcome ?_, within outcome member⟩
    rw [← last]
    exact member

/-- When no more time has passed since later entries, a losing streak is within the window as a
whole. -/
theorem LosingStreak.within_of_sorted {ctx : RiskContext} {current : DateTime}
    {order : List TradeOutcome} (streak : LosingStreak ctx current order)
    (sorted : order.Pairwise fun first second =>
      current.since second.timestamp ≤ current.since first.timestamp) :
    StreakWithin ctx current order := by
  obtain ⟨oldest, newer, last, _, _, within⟩ := streak.last
  have ordered := sorted.sublist (List.drop_sublist
    (order.length - ctx.consecutiveLossLimit.toNat) order)
  rw [← List.rtake, last, List.pairwise_cons] at ordered
  intro outcome member
  rw [last] at member
  cases List.mem_cons.mp member with
  | inl first =>
    rw [first]
    exact within
  | inr later =>
    have elapsed := ordered.1 outcome later
    exact le_trans (by exact_mod_cast elapsed) within

/-- The gate rejects at its limit when the chronological order of the outcomes ends with a losing
streak that is within the window as a whole; otherwise it approves and leaves the decision as it
is. -/
theorem gate_answers {ctx : RiskContext} {first : TradeOutcome} {rest : List TradeOutcome}
    {now : Option DateTime} (scanned : Scanned ctx (first :: rest) now)
    (ordered : DateTime.WeaklyOrdered ((first :: rest).map TradeOutcome.timestamp))
    (latest : ∀ time, now = some time → ∀ outcome ∈ first :: rest,
      time.before outcome.timestamp = false)
    {order : List TradeOutcome}
    (chronological : StableOrder (timeRank (first :: rest)) (first :: rest) order)
    (decision : RiskDecision) :
    ((LosingStreak ctx (presentTime now first rest) order ∧
          StreakWithin ctx (presentTime now first rest) order) ∧
        evaluateConsecutiveLosses ctx (some (first :: rest)) now decision =
          .ok (false, { decision with
            approved := false
            reasonCode := lossReason ctx ctx.consecutiveLossLimit.toNat })) ∨
      (¬ (LosingStreak ctx (presentTime now first rest) order ∧
          StreakWithin ctx (presentTime now first rest) order) ∧
        evaluateConsecutiveLosses ctx (some (first :: rest)) now decision =
          .ok (true, decision)) := by
  have current := presentTime_current scanned.oneMode ordered
  have given := presentTime_mem now first rest
  have answered := rejection_tally scanned
  have sorts : order = sortedOutcomes (first :: rest) :=
    chronological.unique (sortedOutcomes_stable scanned.oneMode ordered fun _ => id)
  have among : ∀ outcome ∈ order, outcome ∈ first :: rest := fun outcome =>
    chronological.perm.mem_iff.mp
  have past : ∀ outcome ∈ order, 0 ≤ (presentTime now first rest).since outcome.timestamp := by
    intro outcome member
    have unordered : (presentTime now first rest).before outcome.timestamp = false := by
      cases now with
      | none => exact current.2 outcome (among outcome member)
      | some time => exact latest time rfl outcome (among outcome member)
    have mode := scanned.oneMode.same given (mem_outcomeTimes (among outcome member))
    rw [← Bool.not_eq_true, DateTime.before_iff_since mode] at unordered
    omega
  have reached := tally_reached_exact scanned.active past
  have unrefused : tally ctx.consecutiveLossLimit.toNat 0
      (order.reverse.map (outcomeMark ctx (presentTime now first rest))) ≠ .refused := by
    apply tally_not_refused
    intro mark marked
    obtain ⟨outcome, member, rfl⟩ := List.mem_map.mp marked
    exact (outcomeMark_exact (past outcome (List.mem_reverse.mp member))).1
  rw [← sorts] at answered
  rw [evaluateConsecutiveLosses, answered, ← reached]
  cases verdict : tally ctx.consecutiveLossLimit.toNat 0
      (order.reverse.map (outcomeMark ctx (presentTime now first rest))) with
  | reached => exact .inl ⟨rfl, rfl⟩
  | passed => exact .inr ⟨by simp, rfl⟩
  | refused => exact absurd verdict unrefused

/-- The rule of the gate: it rejects, with the limit as its reason, when the chronological order of
the outcomes ends with a losing streak, and otherwise approves and leaves the decision as it is. -/
def FollowsRule (ctx : RiskContext) (outcomes : List TradeOutcome) (now : Option DateTime)
    (current : DateTime) (order : List TradeOutcome) : Prop :=
  ∀ decision : RiskDecision,
    (LosingStreak ctx current order ∧
      evaluateConsecutiveLosses ctx (some outcomes) now decision =
        .ok (false, { decision with
          approved := false
          reasonCode := lossReason ctx ctx.consecutiveLossLimit.toNat })) ∨
    (¬ LosingStreak ctx current order ∧
      evaluateConsecutiveLosses ctx (some outcomes) now decision = .ok (true, decision))

/-- The gate follows its rule exactly where a losing streak is within the window as a whole. The
timestamps need only be ordered as `sorted` and `max` require, and not be later than the current
time: a zone object may change its offset between them. -/
theorem rule_followed_iff {ctx : RiskContext} {first : TradeOutcome} {rest : List TradeOutcome}
    {now : Option DateTime} (scanned : Scanned ctx (first :: rest) now)
    (ordered : DateTime.WeaklyOrdered ((first :: rest).map TradeOutcome.timestamp))
    (latest : ∀ time, now = some time → ∀ outcome ∈ first :: rest,
      time.before outcome.timestamp = false)
    {order : List TradeOutcome}
    (chronological : StableOrder (timeRank (first :: rest)) (first :: rest) order) :
    FollowsRule ctx (first :: rest) now (presentTime now first rest) order ↔
      (LosingStreak ctx (presentTime now first rest) order →
        StreakWithin ctx (presentTime now first rest) order) := by
  have answers := gate_answers scanned ordered latest chronological
  constructor
  · intro follows streak
    by_contra outside
    have decision : RiskDecision := ⟨true, "OK", ⟨0, rfl⟩⟩
    rcases follows decision with ⟨_, rejects⟩ | ⟨unbroken, _⟩
    · rcases answers decision with ⟨whole, _⟩ | ⟨_, approves⟩
      · exact outside whole.2
      · rw [rejects] at approves
        have same : false = true := congrArg Prod.fst (Except.ok.inj approves)
        contradiction
    · exact unbroken streak
  · intro within decision
    rcases answers decision with ⟨whole, rejects⟩ | ⟨broken, approves⟩
    · exact .inl ⟨whole.1, rejects⟩
    · exact .inr ⟨fun streak => broken ⟨streak, within streak⟩, approves⟩

/-- Given outcomes that are later the less time has passed since, the gate follows its rule. So it
does for naive times, for fixed offsets, for zone objects that keep their offsets, and for times of
one zone object that is the current time's too; not covered is a zone object whose clock is set
back between timestamps that a current time of another zone is compared with. -/
theorem consecutive_losses_rule {ctx : RiskContext} {outcomes : List TradeOutcome}
    {now : Option DateTime} (scanned : Scanned ctx outcomes now)
    (ordered : DateTime.WeaklyOrdered (outcomes.map TradeOutcome.timestamp))
    (aligned : ∀ current, Current outcomes current now →
      DateTime.Aligned current (outcomes.map TradeOutcome.timestamp))
    (latest : ∀ time, now = some time → ∀ outcome ∈ outcomes,
      time.before outcome.timestamp = false)
    {order : List TradeOutcome}
    (chronological : StableOrder (timeRank outcomes) outcomes order) :
    ∃ current, Current outcomes current now ∧ FollowsRule ctx outcomes now current order := by
  obtain ⟨first, rest, rfl⟩ := List.exists_cons_of_ne_nil scanned.nonempty
  have current := presentTime_current scanned.oneMode ordered
  have sorted : order.Pairwise fun first' second =>
      (presentTime now first rest).since second.timestamp ≤
        (presentTime now first rest).since first'.timestamp := by
    apply chronological.sorted.imp_of_mem
    intro first' second member member' ranked
    have held := chronological.perm.mem_iff.mp member
    have held' := chronological.perm.mem_iff.mp member'
    apply aligned _ current _ (List.mem_map_of_mem held) _ (List.mem_map_of_mem held')
    rw [← Bool.not_eq_true]
    exact ((earlier_weakOrder scanned.oneMode ordered).before_iff_rank held' held).not.mpr
      (not_lt.mpr ranked)
  refine ⟨presentTime now first rest, current, ?_⟩
  intro decision
  rcases gate_answers scanned ordered latest chronological decision with ⟨whole, rejects⟩ |
    ⟨broken, approves⟩
  · exact .inl ⟨whole.1, rejects⟩
  · exact .inr ⟨fun streak => broken ⟨streak, streak.within_of_sorted sorted⟩, approves⟩

/-- Where zone objects keep their offsets the gate follows its rule. -/
theorem consistent_losses_rule {ctx : RiskContext} {outcomes : List TradeOutcome}
    {now : Option DateTime} (scanned : Scanned ctx outcomes now)
    (consistent : ∀ left ∈ outcomeTimes now outcomes, ∀ right ∈ outcomeTimes now outcomes,
      left.Consistent right)
    (latest : ∀ time, now = some time → ∀ outcome ∈ outcomes,
      time.before outcome.timestamp = false)
    {order : List TradeOutcome}
    (chronological : StableOrder (timeRank outcomes) outcomes order) :
    ∃ current, Current outcomes current now ∧ FollowsRule ctx outcomes now current order := by
  have known : ∀ time ∈ outcomes.map TradeOutcome.timestamp, time ∈ outcomeTimes now outcomes :=
    fun _ member => List.mem_append_right _ member
  have oneMode : ∀ left ∈ outcomes.map TradeOutcome.timestamp,
      ∀ right ∈ outcomes.map TradeOutcome.timestamp,
      left.utcoffset.isSome = right.utcoffset.isSome := by
    intro left member right member'
    exact (timezoneMode_eq_iff left right).mp
      (scanned.oneMode left (known left member) right (known right member'))
  have alike : ∀ left ∈ outcomes.map TradeOutcome.timestamp,
      ∀ right ∈ outcomes.map TradeOutcome.timestamp, left.Consistent right :=
    fun left member right member' => consistent left (known left member) right (known right member')
  have ordered := DateTime.weaklyOrdered_of_consistent oneMode alike
  refine consecutive_losses_rule scanned ordered (fun current present => ?_) latest chronological
  have read : current ∈ outcomeTimes now outcomes := by
    cases now with
    | none =>
      obtain ⟨⟨outcome, member, same⟩, _⟩ := present
      exact known current (List.mem_map.mpr ⟨outcome, member, same⟩)
    | some time =>
      cases present
      exact List.mem_cons_self
  exact DateTime.aligned_of_consistent oneMode alike
    fun time member => consistent current read time (known time member)

/-- Two losses within a quarter of an hour, given newest first, are rejected at a limit of two. -/
theorem two_losses_rejected :
    let ctx := { RiskContext.default with consecutiveLossLimit := 2 }
    let outcomes : List TradeOutcome :=
      [⟨⟨600000000, none⟩, .finite (-1)⟩, ⟨⟨0, none⟩, .finite (-2)⟩]
    ∃ answer, evaluateConsecutiveLosses ctx (some outcomes) none ⟨true, "OK", ⟨10, rfl⟩⟩ =
      .ok (false, answer) := by
  intro ctx outcomes
  have scanned : Scanned ctx outcomes none := by
    refine ⟨by decide, by decide +kernel, List.cons_ne_nil _ _, ?_, ?_⟩
    · simp [outcomes]
    · simp [outcomes, outcomeTimes, OneMode, timezoneMode, isAware]
  have oneMode : ∀ left ∈ outcomes.map TradeOutcome.timestamp,
      ∀ right ∈ outcomes.map TradeOutcome.timestamp,
      left.utcoffset.isSome = right.utcoffset.isSome := by decide
  have consistent : ∀ left ∈ outcomes.map TradeOutcome.timestamp,
      ∀ right ∈ outcomes.map TradeOutcome.timestamp, left.Consistent right := by decide
  have ordered := DateTime.weaklyOrdered_of_consistent oneMode consistent
  have chronological := sortedOutcomes_stable scanned.oneMode ordered fun _ => id
  have sorts : sortedOutcomes outcomes =
      [⟨⟨0, none⟩, .finite (-2)⟩, ⟨⟨600000000, none⟩, .finite (-1)⟩] := by decide +kernel
  rw [sorts] at chronological
  have follows := (rule_followed_iff scanned ordered (by simp) chronological).mpr ?_
  · rcases follows ⟨true, "OK", ⟨10, rfl⟩⟩ with ⟨_, rejected⟩ | ⟨unbroken, _⟩
    · exact ⟨_, rejected⟩
    · exact absurd ⟨[], _, _, rfl, rfl, by decide +kernel, by decide +kernel⟩ unbroken
  · intro _
    unfold StreakWithin
    decide +kernel

/-- In a night in which the clock is set back from two to one, three losses at half past one
before that, and at ten and a quarter past one after it, are seen at twenty past by another clock.
The limit is two, and the window a quarter of an hour. In the order of the wall clock, and in the
order of the instants, the last two are losses within the window; the gate approves, because by the
wall clock the first loss is the last. -/
theorem set_back_losses_approved :
    let ctx := { RiskContext.default with consecutiveLossLimit := 2 }
    let minute : ℤ := 60000000
    let before : Tzinfo := .zone 0 (some (-240 * minute)) true
    let after : Tzinfo := .zone 0 (some (-300 * minute)) true
    let now : DateTime := ⟨380 * minute, some (.fixed 0)⟩
    let outcomes : List TradeOutcome := [⟨⟨90 * minute, some before⟩, .finite (-1)⟩,
      ⟨⟨70 * minute, some after⟩, .finite (-1)⟩, ⟨⟨75 * minute, some after⟩, .finite (-1)⟩]
    Scanned ctx outcomes (some now) ∧
      DateTime.WeaklyOrdered (outcomes.map TradeOutcome.timestamp) ∧
      (∀ outcome ∈ outcomes, now.before outcome.timestamp = false) ∧
      (∃ order, StableOrder (timeRank outcomes) outcomes order ∧
        ¬ FollowsRule ctx outcomes (some now) now order) ∧
      outcomes.Pairwise (fun first second =>
        first.timestamp.instant ≤ second.timestamp.instant) ∧
      ¬ FollowsRule ctx outcomes (some now) now outcomes := by
  intro ctx minute before after now outcomes
  have scanned : Scanned ctx outcomes (some now) := by
    refine ⟨by decide, by decide +kernel, List.cons_ne_nil _ _, by simp [outcomes], ?_⟩
    simp [outcomes, outcomeTimes, OneMode, timezoneMode, isAware, now, before, after,
      DateTime.utcoffset, Tzinfo.utcoffset]
  have ordered : DateTime.WeaklyOrdered (outcomes.map TradeOutcome.timestamp) := by
    unfold DateTime.WeaklyOrdered
    decide +kernel
  have approves : ∀ decision, evaluateConsecutiveLosses ctx (some outcomes) (some now) decision =
      .ok (true, decision) := by
    intro decision
    have passed : consecutiveLossesRejection ctx (some outcomes) (some now) = .ok none := by
      decide +kernel
    rw [evaluateConsecutiveLosses, passed]
    rfl
  have broken : ∀ order, LosingStreak ctx now order →
      ¬ FollowsRule ctx outcomes (some now) now order := by
    intro order streak follows
    rcases follows ⟨true, "OK", ⟨10, rfl⟩⟩ with ⟨_, rejects⟩ | ⟨unbroken, _⟩
    · rw [approves] at rejects
      have same : true = false := congrArg Prod.fst (Except.ok.inj rejects)
      contradiction
    · exact unbroken streak
  have sorts : sortedOutcomes outcomes = [⟨⟨70 * minute, some after⟩, .finite (-1)⟩,
      ⟨⟨75 * minute, some after⟩, .finite (-1)⟩, ⟨⟨90 * minute, some before⟩, .finite (-1)⟩] := by
    decide +kernel
  refine ⟨scanned, ordered, by decide +kernel, ⟨_, sortedOutcomes_stable scanned.oneMode ordered
    fun _ => id, broken _ ?_⟩, by decide +kernel, broken _ ?_⟩
  · rw [sorts]
    exact ⟨[_], _, _, rfl, rfl, by decide +kernel, by decide +kernel⟩
  · exact ⟨[_], _, _, rfl, rfl, by decide +kernel, by decide +kernel⟩

end Exact

end VerdictRisk
