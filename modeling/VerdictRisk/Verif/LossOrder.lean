import VerdictRisk.Verif.LossWindow
import VerdictRisk.Library.Scans

/-!
# The order of outcomes

Sorting by timestamp leaves simultaneous outcomes in the order they were supplied in, and the scan
meets the one supplied last first. So the verdict depends on that order exactly when the scan
gets to a time with outcomes that end it differently: a win, a loss later than the current time,
enough losses within the window. The same scan stops at a win before it looks at the time: a win
dated in the future hides the losses before it, and only the outcomes that the scan meets before
that win still count.
-/

namespace VerdictRisk

open Python Streaks

variable [FloatFormat]

omit [FloatFormat] in
/-- Times are of one mode exactly when all are of the mode of one of them. -/
theorem oneMode_iff {times : List DateTime} {time : DateTime} (held : time ∈ times) :
    OneMode times ↔ ∀ time' ∈ times, timezoneMode time' = timezoneMode time := by
  constructor
  · intro oneMode time' held'
    exact oneMode time' held' time held
  · intro same left held' right held''
    rw [same left held', same right held'']

omit [FloatFormat] in
/-- Permuted times are of one mode together. -/
theorem OneMode.mono {times times' : List DateTime} (oneMode : OneMode times)
    (among : ∀ time ∈ times', time ∈ times) : OneMode times' := by
  intro time held time' held'
  exact oneMode time (among time held) time' (among time' held')

/-- A gate that is switched on asks its guards about a history in turn. -/
theorem rejection_guards {ctx : RiskContext} (active : 1 ≤ ctx.consecutiveLossLimit)
    (window : 0 ≤ ctx.consecutiveLossWindowMinutes.val.value) (first : TradeOutcome)
    (rest : List TradeOutcome) (now : Option DateTime) :
    (¬ OneMode ((first :: rest).map TradeOutcome.timestamp) →
      consecutiveLossesRejection ctx (some (first :: rest)) now =
        .ok (some "ERR_INVALID_TIMEZONE_MIXED")) ∧
    (OneMode ((first :: rest).map TradeOutcome.timestamp) →
      (∃ outcome ∈ first :: rest, outcome.pnl.isFinite = false) →
      consecutiveLossesRejection ctx (some (first :: rest)) now =
        .ok (some "ERR_INVALID_FLOAT_CONSECUTIVE_LOSSES")) ∧
    (OneMode ((first :: rest).map TradeOutcome.timestamp) →
      (∀ outcome ∈ first :: rest, outcome.pnl.isFinite = true) →
      ¬ OneMode (outcomeTimes now (first :: rest)) →
      consecutiveLossesRejection ctx (some (first :: rest)) now =
        .ok (some "ERR_INVALID_TIMEZONE_MIXED")) := by
  have started := window_passes window
  have head : first.timestamp ∈ (first :: rest).map TradeOutcome.timestamp := List.mem_cons_self
  have uniform_iff : (∀ outcome ∈ first :: rest,
      timezoneMode outcome.timestamp = timezoneMode first.timestamp) ↔
        OneMode ((first :: rest).map TradeOutcome.timestamp) := by
    rw [oneMode_iff head, List.forall_mem_map]
  have answer := history_answer active started first rest now
  generalize consecutiveLossesRejection ctx (some (first :: rest)) now = answered at answer ⊢
  cases answer with
  | mixed apart =>
    rw [uniform_iff] at apart
    exact ⟨fun _ => rfl, fun oneMode => absurd oneMode apart, fun oneMode => absurd oneMode apart⟩
  | infinite uniform unknown =>
    have oneMode := uniform_iff.mp uniform
    exact ⟨absurd oneMode, fun _ _ => rfl, fun _ finite => absurd finite unknown⟩
  | foreign uniform finite _ =>
    have oneMode := uniform_iff.mp uniform
    refine ⟨absurd oneMode, fun _ infinite => ?_, fun _ _ _ => rfl⟩
    obtain ⟨outcome, member, unknown⟩ := infinite
    exact absurd (finite outcome member) (Bool.eq_false_iff.mp unknown)
  | scanned uniform finite agrees =>
    have oneMode := uniform_iff.mp uniform
    have together : OneMode (outcomeTimes now (first :: rest)) := by
      have held : first.timestamp ∈ outcomeTimes now (first :: rest) :=
        List.mem_append_right _ head
      rw [oneMode_iff held]
      intro time member
      cases List.mem_append.mp member with
      | inl given => exact agrees time (Option.mem_toList.mp given)
      | inr outcome => exact oneMode time outcome _ head
    refine ⟨absurd oneMode, fun _ infinite => ?_, fun _ _ apart => absurd together apart⟩
    obtain ⟨outcome, member, unknown⟩ := infinite
    exact absurd (finite outcome member) (Bool.eq_false_iff.mp unknown)

omit [FloatFormat] in
/-- Permuted outcomes have the same times. -/
theorem outcomeTimes_mem_iff {outcomes outcomes' : List TradeOutcome}
    (permuted : outcomes.Perm outcomes') (now : Option DateTime) (time : DateTime) :
    time ∈ outcomeTimes now outcomes ↔ time ∈ outcomeTimes now outcomes' :=
  ((permuted.map _).append_left _).mem_iff

omit [FloatFormat] in
/-- Whether the gate gets to its scan does not depend on the order of the outcomes. -/
theorem Scanned.perm {ctx : RiskContext} {outcomes outcomes' : List TradeOutcome}
    {now : Option DateTime} (scanned : Scanned ctx outcomes now)
    (permuted : outcomes.Perm outcomes') : Scanned ctx outcomes' now where
  active := scanned.active
  window := scanned.window
  nonempty empty := scanned.nonempty (List.Perm.eq_nil (empty ▸ permuted))
  finite outcome member := scanned.finite outcome (permuted.mem_iff.mpr member)
  oneMode := scanned.oneMode.mono fun time => (outcomeTimes_mem_iff permuted now time).mpr

/-- What a gate answers before its scan does not depend on the order of the outcomes. -/
theorem unscanned_perm {ctx : RiskContext} {outcomes outcomes' : List TradeOutcome}
    {now : Option DateTime} (unscanned : ¬ Scanned ctx outcomes now)
    (permuted : outcomes.Perm outcomes') :
    consecutiveLossesRejection ctx (some outcomes') now =
      consecutiveLossesRejection ctx (some outcomes) now := by
  cases outcomes with
  | nil => rw [permuted.nil_eq]
  | cons first rest =>
    cases outcomes' with
    | nil => exact absurd permuted.symm.nil_eq (List.cons_ne_nil _ _).symm
    | cons first' rest' =>
      by_cases window : 0 ≤ ctx.consecutiveLossWindowMinutes.val.value
      · by_cases active : 1 ≤ ctx.consecutiveLossLimit
        · obtain ⟨mixed, infinite, apart⟩ := rejection_guards active window first rest now
          obtain ⟨mixed', infinite', apart'⟩ := rejection_guards active window first' rest' now
          have times : ∀ time, time ∈ (first :: rest).map TradeOutcome.timestamp ↔
              time ∈ (first' :: rest').map TradeOutcome.timestamp :=
            fun time => (permuted.map _).mem_iff
          by_cases oneMode : OneMode ((first :: rest).map TradeOutcome.timestamp)
          · have oneMode' := oneMode.mono fun time => (times time).mpr
            by_cases finite : ∀ outcome ∈ first :: rest, outcome.pnl.isFinite = true
            · have finite' : ∀ outcome ∈ first' :: rest', outcome.pnl.isFinite = true :=
                fun outcome member => finite outcome (permuted.mem_iff.mpr member)
              have differs : ¬ OneMode (outcomeTimes now (first :: rest)) := fun together =>
                unscanned ⟨active, window, List.cons_ne_nil _ _, finite, together⟩
              have differs' : ¬ OneMode (outcomeTimes now (first' :: rest')) := fun together =>
                differs (together.mono fun time => (outcomeTimes_mem_iff permuted now time).mp)
              rw [apart oneMode finite differs, apart' oneMode' finite' differs']
            · push Not at finite
              obtain ⟨outcome, member, unknown⟩ := finite
              have unknown := Bool.eq_false_iff.mpr unknown
              rw [infinite oneMode ⟨outcome, member, unknown⟩,
                infinite' oneMode' ⟨outcome, permuted.mem_iff.mp member, unknown⟩]
          · have several : ¬ OneMode ((first' :: rest').map TradeOutcome.timestamp) :=
              fun together => oneMode (together.mono fun time => (times time).mp)
            rw [mixed oneMode, mixed' several]
        · have off : ctx.consecutiveLossLimit ≤ 0 := by omega
          simp only [consecutiveLossesRejection, off, if_true]
      · have negative := (negative_window_iff ctx).mpr (not_le.mp window)
        simp only [consecutiveLossesRejection, negative, Bool.or_true, if_true]

/-- Seen from a current time, the scan counts all outcomes after some time, too few of them, and an
outcome of that time ends it with this verdict; or it passes when it has counted all outcomes. -/
def CanEnd (ctx : RiskContext) (outcomes : List TradeOutcome) (now : Option DateTime)
    (verdict : Verdict) : Prop :=
  ∃ current, Current outcomes current now ∧
    Scans.Answers (timeRank outcomes) (outcomeMark ctx current) ctx.consecutiveLossLimit.toNat
      outcomes verdict

omit [FloatFormat] in
/-- A current time of a history is one of its permutations. -/
theorem Current.perm {outcomes outcomes' : List TradeOutcome} {current : DateTime}
    {now : Option DateTime} (present : Current outcomes current now)
    (permuted : outcomes.Perm outcomes') : Current outcomes' current now := by
  cases now with
  | some now => exact present
  | none =>
    obtain ⟨⟨newest, member, same⟩, latest⟩ := present
    refine ⟨⟨newest, permuted.mem_iff.mp member, same⟩, ?_⟩
    intro outcome member'
    exact latest outcome (permuted.mem_iff.mpr member')

/-- The answer to a permutation of a history is a scan of its stable order. -/
theorem rejection_scan {ctx : RiskContext} {outcomes : List TradeOutcome}
    {now : Option DateTime} (scanned : Scanned ctx outcomes now)
    (ordered : DateTime.WeaklyOrdered (outcomes.map TradeOutcome.timestamp))
    {first : TradeOutcome} {rest : List TradeOutcome} (permuted : outcomes.Perm (first :: rest)) :
    StableOrder (timeRank outcomes) (first :: rest) (sortedOutcomes (first :: rest)) ∧
      Current outcomes (presentTime now first rest) now ∧
      consecutiveLossesRejection ctx (some (first :: rest)) now = .ok (verdictReason ctx
        (Scans.scan (outcomeMark ctx (presentTime now first rest))
          ctx.consecutiveLossLimit.toNat (sortedOutcomes (first :: rest)))) := by
  have times : ∀ time ∈ (first :: rest).map TradeOutcome.timestamp,
      time ∈ outcomes.map TradeOutcome.timestamp := fun time =>
    (permuted.map TradeOutcome.timestamp).mem_iff.mpr
  have ordered' : DateTime.WeaklyOrdered ((first :: rest).map TradeOutcome.timestamp) :=
    fun left held middle held' right held'' =>
      ordered left (times left held) middle (times middle held') right (times right held'')
  have scanned' := scanned.perm permuted
  refine ⟨?_, (presentTime_current scanned'.oneMode ordered').perm permuted.symm,
    rejection_tally scanned'⟩
  apply sortedOutcomes_stable scanned.oneMode ordered
  exact fun outcome => permuted.mem_iff.mpr

omit [FloatFormat] in
/-- The first timestamp stays the latest when no other is later. -/
theorem latestTimestamp_first {latest : DateTime} {others : List TradeOutcome}
    (none_later : ∀ outcome ∈ others, latest.before outcome.timestamp = false) :
    latestTimestamp latest others = latest := by
  induction others with
  | nil => rfl
  | cons outcome rest ih =>
    rw [List.forall_mem_cons] at none_later
    rw [latestTimestamp, none_later.1, if_neg Bool.false_ne_true, ih none_later.2]

/-- The latest outcomes look the same from all current times. -/
theorem latest_mark {ctx : RiskContext} {outcomes : List TradeOutcome} {now : Option DateTime}
    (oneMode : OneMode (outcomeTimes now outcomes)) {current current' : DateTime}
    (present : Current outcomes current now) (present' : Current outcomes current' now)
    {outcome : TradeOutcome} (member : outcome ∈ outcomes)
    (latest : ∀ other ∈ outcomes, outcome.timestamp.before other.timestamp = false) :
    outcomeMark ctx current outcome = outcomeMark ctx current' outcome := by
  cases now with
  | some now => rw [← show now = current from present, ← show now = current' from present']
  | none =>
    have passed : ∀ time, Current outcomes time none → time.since outcome.timestamp = 0 := by
      rintro time ⟨⟨newest, held, rfl⟩, last⟩
      have mode := oneMode.same (mem_outcomeTimes held) (mem_outcomeTimes member)
      have early := last outcome member
      have late := latest newest held
      rw [← Bool.not_eq_true, DateTime.before_iff_since mode] at early
      rw [← Bool.not_eq_true, DateTime.before_iff_since mode.symm,
        DateTime.since_swap] at late
      omega
    rw [outcomeMark, outcomeMark, passed current present, passed current' present']

/-- So the marks of the latest outcomes, which none is after, do not depend on the current time. -/
theorem latest_level (ctx : RiskContext) {outcomes given : List TradeOutcome}
    {now : Option DateTime} (oneMode : OneMode (outcomeTimes now outcomes))
    (ordered : DateTime.WeaklyOrdered (outcomes.map TradeOutcome.timestamp))
    (permuted : outcomes.Perm given) {newest : TradeOutcome} (member : newest ∈ outcomes)
    (latest : ∀ outcome ∈ outcomes, newest.timestamp.before outcome.timestamp = false)
    {current current' : DateTime} (present : Current outcomes current now)
    (present' : Current outcomes current' now) :
    (∀ outcome ∈ Scans.after (timeRank outcomes) given (timeRank outcomes newest),
      outcomeMark ctx current outcome = outcomeMark ctx current' outcome) ∧
    ∀ outcome ∈ Scans.level (timeRank outcomes) given (timeRank outcomes newest),
      outcomeMark ctx current outcome = outcomeMark ctx current' outcome := by
  have weak := earlier_weakOrder oneMode ordered
  have last : ∀ other ∈ outcomes, ¬ timeRank outcomes newest < timeRank outcomes other := by
    intro other held
    have unordered : earlier newest other = false := latest other held
    have compared := weak.before_iff_rank member held
    rw [unordered] at compared
    exact compared.not.mp Bool.false_ne_true
  constructor
  · intro outcome held
    obtain ⟨held, past⟩ := List.mem_filter.mp held
    exact absurd (by simpa using past) (last outcome (permuted.mem_iff.mpr held))
  · intro outcome held
    obtain ⟨held, here⟩ := List.mem_filter.mp held
    have held := permuted.mem_iff.mpr held
    have here : timeRank outcomes outcome = timeRank outcomes newest := by simpa using here
    apply latest_mark oneMode present present' held
    intro other held'
    have compared := weak.before_iff_rank held held'
    change earlier outcome other = false
    rw [← Bool.not_eq_true, compared]
    change ¬ timeRank outcomes outcome < timeRank outcomes other
    rw [here]
    exact last other held'

/-- The answer to a history with the entries of a level moved to its end. -/
theorem moved_answered {ctx : RiskContext} {outcomes given : List TradeOutcome}
    {now : Option DateTime} (scanned : Scanned ctx outcomes now)
    (ordered : DateTime.WeaklyOrdered (outcomes.map TradeOutcome.timestamp))
    (permuted : outcomes.Perm given) {current : DateTime} {k : ℕ} {verdict : Verdict}
    (reaches : Scans.Reaches (timeRank outcomes) (outcomeMark ctx current)
      ctx.consecutiveLossLimit.toNat given k)
    (ends : Scans.LevelEnds (timeRank outcomes) (outcomeMark ctx current)
      ctx.consecutiveLossLimit.toNat given k verdict)
    {first : TradeOutcome} {rest : List TradeOutcome}
    (moved : Scans.moved (timeRank outcomes) (outcomeMark ctx current) given k
      (Scans.ending verdict) = first :: rest)
    (seen : presentTime now first rest = current) :
    outcomes.Perm (first :: rest) ∧
      consecutiveLossesRejection ctx (some (first :: rest)) now =
        .ok (verdictReason ctx verdict) := by
  have permuted' : outcomes.Perm (first :: rest) := by
    rw [← moved]
    exact permuted.trans (Scans.moved_perm _ _ given k _)
  obtain ⟨stable, _, answered⟩ := rejection_scan scanned ordered permuted'
  rw [← moved] at stable
  have scans := Scans.scan_moved reaches ends stable
  rw [moved] at scans
  rw [answered, seen, scans]
  exact ⟨permuted', rfl⟩

/-- Every verdict that the scan can end with is the answer to some permutation. -/
theorem answer_given {ctx : RiskContext} {outcomes : List TradeOutcome} {now : Option DateTime}
    (scanned : Scanned ctx outcomes now)
    (ordered : DateTime.WeaklyOrdered (outcomes.map TradeOutcome.timestamp)) {verdict : Verdict}
    (answers : CanEnd ctx outcomes now verdict) :
    ∃ outcomes', outcomes.Perm outcomes' ∧
      consecutiveLossesRejection ctx (some outcomes') now = .ok (verdictReason ctx verdict) := by
  obtain ⟨current, present, answers⟩ := answers
  have cons : ∀ given, outcomes.Perm given → ∃ first rest, given = first :: rest := by
    intro given permuted
    apply List.exists_cons_of_ne_nil
    rintro rfl
    exact scanned.nonempty permuted.eq_nil
  cases now with
  | some now =>
    have seen : ∀ first rest, presentTime (some now) first rest = current := fun _ _ => present
    cases answers with
    | @ended k _ reaches ends =>
      obtain ⟨first, rest, moved⟩ := cons _ (Scans.moved_perm (timeRank outcomes)
        (outcomeMark ctx current) outcomes k (Scans.ending verdict))
      exact ⟨first :: rest,
        moved_answered scanned ordered (.refl outcomes) reaches ends moved (seen first rest)⟩
    | exhausted all few =>
      obtain ⟨first, rest, rfl⟩ := cons outcomes (.refl outcomes)
      obtain ⟨stable, _, answered⟩ := rejection_scan scanned ordered (.refl _)
      refine ⟨first :: rest, .refl _, ?_⟩
      rw [answered, seen, Scans.scan_exhausted all few stable.perm]
  | none =>
    obtain ⟨⟨newest, member, rfl⟩, latest⟩ := id present
    obtain ⟨front, back, split⟩ := List.append_of_mem member
    have permuted : outcomes.Perm (newest :: (front ++ back)) := by
      rw [split]
      exact List.perm_middle
    have seen : ∀ rest, outcomes.Perm (newest :: rest) →
        presentTime none newest rest = newest.timestamp := by
      intro rest permuted'
      apply latestTimestamp_first
      intro outcome held
      exact latest outcome (permuted'.mem_iff.mpr (List.mem_cons_of_mem newest held))
    cases answers.perm permuted with
    | exhausted all few =>
      obtain ⟨stable, _, answered⟩ := rejection_scan scanned ordered permuted
      refine ⟨newest :: (front ++ back), permuted, ?_⟩
      rw [answered, seen _ permuted, Scans.scan_exhausted all few stable.perm]
    | @ended k _ reaches ends =>
      have moved_perm := permuted.trans (Scans.moved_perm (timeRank outcomes)
        (outcomeMark ctx newest.timestamp) (newest :: (front ++ back)) k (Scans.ending verdict))
      by_cases top : timeRank outcomes newest = k
      · obtain ⟨first, rest, moved⟩ := cons _ moved_perm
        rw [moved] at moved_perm
        obtain ⟨_, present', _⟩ := rejection_scan scanned ordered moved_perm
        subst top
        obtain ⟨none_after, same⟩ := latest_level ctx scanned.oneMode ordered permuted
          member latest present present'
        rw [Scans.moved_congr same] at moved
        exact ⟨_, moved_answered scanned ordered permuted (reaches.congr none_after)
          (ends.congr same) moved rfl⟩
      · obtain ⟨rest, moved⟩ := Scans.moved_cons top (front ++ back) (Scans.ending verdict)
        rw [moved] at moved_perm
        exact ⟨_, moved_answered scanned ordered permuted reaches ends moved (seen _ moved_perm)⟩

/-- The reasons of different verdicts differ. -/
theorem verdictReason_inj {ctx : RiskContext} {verdict verdict' : Verdict}
    (same : verdictReason ctx verdict = verdictReason ctx verdict') : verdict = verdict' := by
  have differ : ∀ losses, "ERR_INVALID_TIME_ORDER" ≠ lossReason ctx losses := by
    intro losses
    obtain ⟨text, written⟩ :
        ∃ text, lossReason ctx losses = "ERR_CONSECUTIVE_LOSS_LIMIT: " ++ text := by
      unfold lossReason
      simp only [toString, String.append_assoc]
      exact ⟨_, rfl⟩
    rw [written]
    intro equal
    have letters := congrArg (fun text => (String.toList text)[4]?) equal
    rw [String.toList_append, List.getElem?_append_left (by decide)] at letters
    revert letters
    decide
  cases verdict <;> cases verdict' <;> first
    | rfl
    | exact absurd (Option.some.inj same) (differ _)
    | exact absurd (Option.some.inj same).symm (differ _)
    | contradiction

/-- Every order of a history gets the same answer exactly when no two outcomes can end the scan
with different verdicts. -/
theorem verdict_order_free_iff (ctx : RiskContext) (outcomes : List TradeOutcome)
    (now : Option DateTime)
    (ordered : DateTime.WeaklyOrdered (outcomes.map TradeOutcome.timestamp)) :
    (∀ outcomes', outcomes.Perm outcomes' → ∀ decision,
      evaluateConsecutiveLosses ctx (some outcomes') now decision =
        evaluateConsecutiveLosses ctx (some outcomes) now decision) ↔
    ¬ (Scanned ctx outcomes now ∧ ∃ verdict verdict', verdict ≠ verdict' ∧
      CanEnd ctx outcomes now verdict ∧ CanEnd ctx outcomes now verdict') := by
  constructor
  · rintro alike ⟨scanned, verdict, verdict', differ, answers, answers'⟩
    obtain ⟨given, permuted, answered⟩ := answer_given scanned ordered answers
    obtain ⟨given', permuted', answered'⟩ := answer_given scanned ordered answers'
    have same := (alike given permuted ⟨true, "OK", ⟨0, rfl⟩⟩).trans
      (alike given' permuted' ⟨true, "OK", ⟨0, rfl⟩⟩).symm
    rw [evaluateConsecutiveLosses, evaluateConsecutiveLosses, answered, answered'] at same
    have settled := congrArg Prod.snd (Except.ok.inj same)
    exact differ (verdictReason_inj (RiskDecision.settle_injective.mp settled))
  · intro single outcomes' permuted decision
    have same : consecutiveLossesRejection ctx (some outcomes') now =
        consecutiveLossesRejection ctx (some outcomes) now := by
      by_cases scanned : Scanned ctx outcomes now
      · have positive : 0 < ctx.consecutiveLossLimit.toNat := by
          have active := scanned.active
          omega
        have answer : ∀ given, outcomes.Perm given → ∃ verdict, CanEnd ctx outcomes now verdict ∧
            consecutiveLossesRejection ctx (some given) now = .ok (verdictReason ctx verdict) := by
          intro given permuted'
          obtain ⟨first, rest, rfl⟩ := List.exists_cons_of_ne_nil
            (scanned.perm permuted').nonempty
          obtain ⟨stable, present, answered⟩ := rejection_scan scanned ordered permuted'
          exact ⟨_, ⟨_, present, (Scans.scan_answers positive stable).perm permuted'.symm⟩,
            answered⟩
        obtain ⟨verdict, answers, answered⟩ := answer outcomes (.refl outcomes)
        obtain ⟨verdict', answers', answered'⟩ := answer outcomes' permuted
        have equal : verdict' = verdict := by
          by_contra differ
          exact single ⟨scanned, verdict', verdict, differ, answers', answers⟩
        rw [answered, answered', equal]
      · exact unscanned_perm scanned permuted
    rw [evaluateConsecutiveLosses, evaluateConsecutiveLosses, same]

omit [FloatFormat] in
/-- A win and a loss settled at one instant are rejected in one order and pass in the other. -/
theorem simultaneous_win_and_loss :
    let ctx := { RiskContext.default with consecutiveLossLimit := 1 }
    let win : TradeOutcome := ⟨⟨0, none⟩, .finite 5⟩
    let loss : TradeOutcome := ⟨⟨0, none⟩, .finite (-5)⟩
    let decision : RiskDecision := ⟨true, "OK", ⟨10, rfl⟩⟩
    [win, loss].Perm [loss, win] ∧
      (@evaluateConsecutiveLosses .exact ctx (some [win, loss]) none decision).map Prod.fst =
        .ok false ∧
      (@evaluateConsecutiveLosses .exact ctx (some [loss, win]) none decision).map Prod.fst =
        .ok true := by
  intro ctx win loss decision
  refine ⟨.swap _ _ _, ?_, ?_⟩
  · decide +kernel
  · decide +kernel

omit [FloatFormat] in
/-- At the one instant of such a win and loss the scan can end with two verdicts. -/
theorem simultaneous_outcomes_tied :
    let ctx := { RiskContext.default with consecutiveLossLimit := 1 }
    let win : TradeOutcome := ⟨⟨0, none⟩, .finite 5⟩
    let loss : TradeOutcome := ⟨⟨0, none⟩, .finite (-5)⟩
    ¬ ∀ outcomes', [win, loss].Perm outcomes' → ∀ decision,
      @evaluateConsecutiveLosses .exact ctx (some outcomes') none decision =
        @evaluateConsecutiveLosses .exact ctx (some [win, loss]) none decision := by
  intro ctx win loss
  have ordered : DateTime.WeaklyOrdered ([win, loss].map TradeOutcome.timestamp) :=
    DateTime.weaklyOrdered_of_consistent (by decide) (by decide)
  have scanned : Scanned ctx [win, loss] none := by
    refine ⟨by decide, by decide +kernel, List.cons_ne_nil _ _, ?_, ?_⟩
    · simp [win, loss]
    · simp [win, loss, outcomeTimes, OneMode, timezoneMode, isAware]
  have present : Current [win, loss] ⟨0, none⟩ none := ⟨⟨win, by simp, rfl⟩, by decide⟩
  have reaches : Scans.Reaches (timeRank [win, loss]) (@outcomeMark .exact ctx ⟨0, none⟩)
      ctx.consecutiveLossLimit.toNat [win, loss] 0 := ⟨by decide +kernel, by decide +kernel⟩
  rw [@verdict_order_free_iff .exact ctx [win, loss] none ordered, not_not]
  refine ⟨scanned, .passed, .reached, by decide, ⟨_, present, .ended reaches ?_⟩,
    ⟨_, present, .ended reaches ?_⟩⟩
  · exact ⟨⟨win, by decide, by decide +kernel⟩, by decide⟩
  · exact ⟨⟨loss, by decide, by decide +kernel⟩, by decide +kernel⟩

/-- The gate rejects this history. -/
def Rejects (ctx : RiskContext) (outcomes : List TradeOutcome) (now : Option DateTime) : Prop :=
  ∀ decision, ∃ rejected,
    evaluateConsecutiveLosses ctx (some outcomes) now decision = .ok (false, rejected)

/-- The gate rejects with a reason. -/
theorem rejects_iff {ctx : RiskContext} {outcomes : List TradeOutcome} {now : Option DateTime}
    {verdict : Option String}
    (answered : consecutiveLossesRejection ctx (some outcomes) now = .ok verdict) :
    Rejects ctx outcomes now ↔ verdict ≠ none := by
  unfold Rejects evaluateConsecutiveLosses
  rw [answered]
  cases verdict with
  | none =>
    have size : RiskDecision := ⟨true, "OK", ⟨0, rfl⟩⟩
    simpa [Except.map, RiskDecision.settle] using ⟨size⟩
  | some reason => simp [Except.map, RiskDecision.settle]

/-- A history that is scanned is rejected unless its scan passes. -/
theorem rejects_iff_scan {ctx : RiskContext} {outcomes : List TradeOutcome}
    {now : Option DateTime} {verdict : Verdict}
    (answered : consecutiveLossesRejection ctx (some outcomes) now =
      .ok (verdictReason ctx verdict)) :
    Rejects ctx outcomes now ↔ verdict ≠ .passed := by
  rw [rejects_iff answered]
  cases verdict <;> simp [verdictReason]

/-- A negative window rejects every history. -/
theorem rejects_of_negative {ctx : RiskContext}
    (negative : ctx.consecutiveLossWindowMinutes.val.value < 0) (outcomes : List TradeOutcome)
    (now : Option DateTime) : Rejects ctx outcomes now := by
  have guard := (negative_window_iff ctx).mpr negative
  have guarded : consecutiveLossesRejection ctx (some outcomes) now =
      .ok (some "ERR_INVALID_CONSECUTIVE_LOSS_CONTEXT") := by
    simp only [consecutiveLossesRejection, guard, Bool.or_true, if_true]
  exact (rejects_iff guarded).mpr (Option.some_ne_none _)

/-- A PnL that is not finite is rejected. -/
theorem rejects_of_infinite {ctx : RiskContext} (active : 1 ≤ ctx.consecutiveLossLimit)
    (window : 0 ≤ ctx.consecutiveLossWindowMinutes.val.value) {outcomes : List TradeOutcome}
    (oneMode : OneMode (outcomes.map TradeOutcome.timestamp)) {outcome : TradeOutcome}
    (member : outcome ∈ outcomes) (infinite : outcome.pnl.isFinite = false)
    (now : Option DateTime) : Rejects ctx outcomes now := by
  obtain ⟨first, rest, rfl⟩ := List.exists_cons_of_ne_nil (List.ne_nil_of_mem member)
  have guarded := (rejection_guards active window first rest now).2.1 oneMode
    ⟨outcome, member, infinite⟩
  exact (rejects_iff guarded).mpr (Option.some_ne_none _)

/-- An empty history is not rejected. -/
theorem Rejects.nonempty {ctx : RiskContext} {outcomes : List TradeOutcome}
    {now : Option DateTime} (rejects : Rejects ctx outcomes now)
    (active : 1 ≤ ctx.consecutiveLossLimit)
    (window : 0 ≤ ctx.consecutiveLossWindowMinutes.val.value) : outcomes ≠ [] := by
  rintro rfl
  have started := window_passes window
  have nonneg : ¬ ctx.consecutiveLossLimit < 0 := by omega
  have on : ¬ ctx.consecutiveLossLimit ≤ 0 := by omega
  have passes : consecutiveLossesRejection ctx (some []) now = .ok none := by
    simp [consecutiveLossesRejection, nonneg, started]
  exact (rejects_iff passes).mp rejects rfl

/-- A history that is scanned at a given time is answered by its tally. -/
theorem rejection_at {ctx : RiskContext} {outcomes : List TradeOutcome} {now : DateTime}
    (scanned : Scanned ctx outcomes (some now)) :
    consecutiveLossesRejection ctx (some outcomes) (some now) =
      .ok (verdictReason ctx (tally ctx.consecutiveLossLimit.toNat 0
        ((sortedOutcomes outcomes).reverse.map (outcomeMark ctx now)))) := by
  obtain ⟨first, rest, rfl⟩ := List.exists_cons_of_ne_nil scanned.nonempty
  exact rejection_tally scanned

/-- An outcome in the future refuses when it is a loss, and otherwise ends the scan. -/
theorem future_mark (ctx : RiskContext) {now : DateTime} {outcome : TradeOutcome}
    (signed : ∀ elapsed : ℤ, elapsed < 0 → (totalSeconds elapsed).lt 0 = true)
    (future : now.since outcome.timestamp < 0) :
    outcomeMark ctx now outcome = if outcome.pnl.lt 0 then .refuse else .stop := by
  unfold outcomeMark elapsedMark
  simp only [signed _ future, if_true]

/-- The outcomes of a history that the scan meets before an inserted one: those that are later, and
those at the same time that are supplied after it. -/
def metFirst (before after : List TradeOutcome) (inserted : TradeOutcome) : List TradeOutcome :=
  before.filter (fun outcome => inserted.timestamp.before outcome.timestamp) ++
    after.filter fun outcome => !outcome.timestamp.before inserted.timestamp

omit [FloatFormat] in
/-- The scans with and without an inserted outcome meet the same outcomes before and after it. -/
theorem sortedOutcomes_inserted {before after : List TradeOutcome} {inserted : TradeOutcome}
    {now : Option DateTime} (oneMode : OneMode (outcomeTimes now (before ++ inserted :: after)))
    (ordered : DateTime.WeaklyOrdered
      ((before ++ inserted :: after).map TradeOutcome.timestamp)) :
    ∃ front rest, (sortedOutcomes (before ++ after)).reverse = front ++ rest ∧
      (sortedOutcomes (before ++ inserted :: after)).reverse = front ++ inserted :: rest ∧
      front.Perm (metFirst before after inserted) := by
  have among : ∀ outcome ∈ before ++ after, outcome ∈ before ++ inserted :: after := by
    intro outcome member
    simp only [List.mem_append, List.mem_cons] at member ⊢
    tauto
  have here : inserted ∈ before ++ inserted :: after :=
    List.mem_append_right _ List.mem_cons_self
  have weak := earlier_weakOrder oneMode ordered
  obtain ⟨front, rest, without, inside, met⟩ := StableOrder.inserted
    (sortedOutcomes_stable oneMode ordered among)
    (sortedOutcomes_stable oneMode ordered fun _ => id)
  refine ⟨front, rest, without, inside, ?_⟩
  have later : before.filter (fun outcome => timeRank (before ++ inserted :: after) inserted <
      timeRank (before ++ inserted :: after) outcome) =
        before.filter fun outcome => inserted.timestamp.before outcome.timestamp := by
    apply List.filter_congr
    intro outcome member
    have compared := weak.before_iff_rank here (List.mem_append_left _ member)
    rw [Bool.eq_iff_iff, decide_eq_true_eq]
    exact compared.symm
  have tied : after.filter (fun outcome => timeRank (before ++ inserted :: after) inserted ≤
      timeRank (before ++ inserted :: after) outcome) =
        after.filter fun outcome => !outcome.timestamp.before inserted.timestamp := by
    apply List.filter_congr
    intro outcome member
    have held := List.mem_append_right before (List.mem_cons_of_mem inserted member)
    have compared := weak.before_iff_rank held here
    rw [Bool.eq_iff_iff, decide_eq_true_eq, Bool.not_eq_true', ← Bool.not_eq_true, ← not_lt]
    exact compared.not.symm
  rw [later, tied] at met
  exact met

/-- A rejected history extended by an outcome later than the current time is still rejected exactly
when that outcome is not a finite win, or those that the scan meets before it are not just too
few counted losses, or the window is negative. -/
theorem future_outcome_rejected_iff {ctx : RiskContext} {before after : List TradeOutcome}
    {inserted : TradeOutcome} {now : DateTime} (active : 1 ≤ ctx.consecutiveLossLimit)
    (finite : ∀ outcome ∈ before ++ after, outcome.pnl.isFinite = true)
    (oneMode : OneMode (outcomeTimes (some now) (before ++ inserted :: after)))
    (ordered : DateTime.WeaklyOrdered ((before ++ inserted :: after).map TradeOutcome.timestamp))
    (signed : ∀ elapsed : ℤ, elapsed < 0 → (totalSeconds elapsed).lt 0 = true)
    (future : now.before inserted.timestamp = true)
    (rejects : Rejects ctx (before ++ after) (some now)) :
    Rejects ctx (before ++ inserted :: after) (some now) ↔
      ctx.consecutiveLossWindowMinutes.val.value < 0 ∨
      inserted.pnl.isFinite = false ∨ inserted.pnl.lt 0 = true ∨
      ¬ ((∀ outcome ∈ metFirst before after inserted, outcomeMark ctx now outcome = .count) ∧
        (metFirst before after inserted).length < ctx.consecutiveLossLimit.toNat) := by
  have here : inserted ∈ before ++ inserted :: after :=
    List.mem_append_right _ List.mem_cons_self
  by_cases negative : ctx.consecutiveLossWindowMinutes.val.value < 0
  · exact iff_of_true (rejects_of_negative negative _ _) (.inl negative)
  have window := not_lt.mp negative
  by_cases infinite : inserted.pnl.isFinite = false
  · have together := oneMode.mono fun time => List.mem_append_right [now]
    exact iff_of_true (rejects_of_infinite active window together here infinite _)
      (.inr (.inl infinite))
  have known : inserted.pnl.isFinite = true := (Bool.not_eq_false _).mp infinite
  have among : ∀ time ∈ outcomeTimes (some now) (before ++ after),
      time ∈ outcomeTimes (some now) (before ++ inserted :: after) := by
    intro time member
    simp only [outcomeTimes, List.map_append, List.map_cons, List.mem_append,
      List.mem_cons] at member ⊢
    tauto
  have finite' : ∀ outcome ∈ before ++ inserted :: after, outcome.pnl.isFinite = true := by
    intro outcome member
    rcases List.mem_append.mp member with early | late
    · exact finite outcome (List.mem_append_left _ early)
    · rcases List.mem_cons.mp late with rfl | late
      · exact known
      · exact finite outcome (List.mem_append_right _ late)
  have scanned : Scanned ctx (before ++ after) (some now) :=
    ⟨active, window, rejects.nonempty active window, finite, oneMode.mono among⟩
  have scanned' : Scanned ctx (before ++ inserted :: after) (some now) :=
    ⟨active, window, List.ne_nil_of_mem here, finite', oneMode⟩
  have mode : now.utcoffset.isSome = inserted.timestamp.utcoffset.isSome :=
    oneMode.same List.mem_cons_self (mem_outcomeTimes here)
  have mark := future_mark ctx signed ((DateTime.before_iff_since mode).mp future)
  have positive : 0 < ctx.consecutiveLossLimit.toNat := by omega
  obtain ⟨front, rest, without, inside, met⟩ := sortedOutcomes_inserted oneMode ordered
  have counted_iff : ((∀ marked ∈ front.map (outcomeMark ctx now), marked = .count) ∧
      0 + (front.map (outcomeMark ctx now)).length < ctx.consecutiveLossLimit.toNat) ↔
        (∀ outcome ∈ metFirst before after inserted, outcomeMark ctx now outcome = .count) ∧
          (metFirst before after inserted).length < ctx.consecutiveLossLimit.toNat := by
    rw [List.forall_mem_map, List.length_map, Nat.zero_add, met.length_eq]
    simp only [met.mem_iff]
  rw [rejects_iff_scan (rejection_at scanned), without, List.map_append] at rejects
  rw [rejects_iff_scan (rejection_at scanned'), inside, List.map_append, List.map_cons,
    ← counted_iff]
  by_cases counted : (∀ marked ∈ front.map (outcomeMark ctx now), marked = .count) ∧
      0 + (front.map (outcomeMark ctx now)).length < ctx.consecutiveLossLimit.toNat
  · rw [tally_counted counted.1 counted.2, mark]
    cases loss : inserted.pnl.lt 0 with
    | true => simp
    | false =>
      rw [if_neg Bool.false_ne_true, tally_stop]
      apply iff_of_false (not_not_intro rfl)
      rintro (short | unknown | won | decided)
      · exact negative short
      · exact infinite unknown
      · contradiction
      · exact decided counted
  · rw [tally_decided positive counted _ (rest.map (outcomeMark ctx now))]
    exact iff_of_true rejects (.inr (.inr (.inr counted)))

omit [FloatFormat] in
/-- In exact arithmetic a negative duration has negative seconds. -/
theorem exact_signed (elapsed : ℤ) (negative : elapsed < 0) :
    (@totalSeconds .exact elapsed).lt 0 = true := by
  have known : (@totalSeconds .exact elapsed).isFinite = true := rfl
  have seconds : (@totalSeconds .exact elapsed).value = (elapsed : ℚ) / 1000000 := rfl
  have below : (elapsed : ℚ) < 0 := by exact_mod_cast negative
  rw [PyFloat.lt_iff known rfl, seconds, PyFloat.value_ofNat, Nat.cast_zero]
  exact div_neg_of_neg_of_pos below (by norm_num)

omit [FloatFormat] in
/-- A loss now and a loss a minute from now are rejected. -/
theorem future_loss_rejected :
    let ctx := { RiskContext.default with consecutiveLossLimit := 1 }
    @Rejects .exact ctx [⟨⟨0, none⟩, .finite (-5)⟩, ⟨⟨60000000, none⟩, .finite (-5)⟩]
      (some ⟨0, none⟩) := by
  intro ctx
  let before : List TradeOutcome := [⟨⟨0, none⟩, .finite (-5)⟩]
  let inserted : TradeOutcome := ⟨⟨60000000, none⟩, .finite (-5)⟩
  have finite : ∀ outcome ∈ before ++ [], outcome.pnl.isFinite = true := by simp [before]
  have oneMode : OneMode (outcomeTimes (some ⟨0, none⟩) (before ++ inserted :: [])) := by
    simp [before, inserted, outcomeTimes, OneMode, timezoneMode, isAware]
  have ordered : DateTime.WeaklyOrdered
      ((before ++ inserted :: []).map TradeOutcome.timestamp) :=
    DateTime.weaklyOrdered_of_consistent (by decide) (by decide)
  have rejects : @Rejects .exact ctx (before ++ []) (some ⟨0, none⟩) := by
    have answered : @consecutiveLossesRejection .exact ctx (some (before ++ [])) (some ⟨0, none⟩) =
        .ok (some (@lossReason .exact ctx 1)) := by decide +kernel
    exact (@rejects_iff .exact _ _ _ _ answered).mpr (Option.some_ne_none _)
  exact (@future_outcome_rejected_iff .exact ctx before [] inserted ⟨0, none⟩ (by decide) finite
    oneMode ordered exact_signed
    (by decide) rejects).mpr (.inr (.inr (.inl (by decide +kernel))))

omit [FloatFormat] in
/-- A loss now is rejected, and hidden by a win that is dated a minute from now. -/
theorem future_win_masks_loss :
    let ctx := { RiskContext.default with consecutiveLossLimit := 1 }
    let loss : TradeOutcome := ⟨⟨0, none⟩, .finite (-5)⟩
    let win : TradeOutcome := ⟨⟨60000000, none⟩, .finite 5⟩
    let now : DateTime := ⟨0, none⟩
    now.before win.timestamp = true ∧ @Rejects .exact ctx [loss] (some now) ∧
      ¬ @Rejects .exact ctx [loss, win] (some now) := by
  intro ctx loss win now
  have rejected : @consecutiveLossesRejection .exact ctx (some [loss]) (some now) =
      .ok (some (@lossReason .exact ctx 1)) := by decide +kernel
  have passed : @consecutiveLossesRejection .exact ctx (some [loss, win]) (some now) =
      .ok none := by decide +kernel
  refine ⟨rfl, (@rejects_iff .exact _ _ _ _ rejected).mpr (Option.some_ne_none _), ?_⟩
  rw [@rejects_iff .exact _ _ _ _ passed]
  exact not_not_intro rfl

end VerdictRisk
