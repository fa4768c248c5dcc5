import VerdictRisk.Library.MemberWise
import VerdictRisk.Library.Refinement
import VerdictRisk.Verif.DeskHalt
import VerdictRisk.Verif.Precision

/-!
# The desk in doubles

Behind its gates a desk in doubles is the same state machine as one in exact arithmetic: rounding
enters the conversion of the cooldown, the spelling of a reason, and the chain. So where doubles
convert the cooldown exactly, a session whose calls keep away from their limits is ruled on as in
exact arithmetic.
-/

namespace VerdictRisk

open Python

section Formats

variable {format format' : FloatFormat}

/-- Two formats convert the cooldown of the breaker, if there is one, alike. -/
def SameCooldown (format format' : FloatFormat) (authority : RiskAuthority) : Prop :=
  ∀ breaker, authority.timedBreaker = some breaker →
    @timedeltaHours format breaker.cooldownHours = @timedeltaHours format' breaker.cooldownHours

/-- Two checks of a decision raise or pass alike, or both reject, for reasons that may be spelled
differently. -/
def CheckedAlike (decision : RiskDecision) (answer answer' : Except PyError (Bool × RiskDecision)) :
    Prop :=
  answer = answer' ∨ ∃ reason reason', answer = .ok (decision.settle (some reason)) ∧
    answer' = .ok (decision.settle (some reason'))

/-- In two formats that convert its cooldown alike a breaker is checked alike. -/
theorem TimedCircuitBreaker.check_formats {breaker : TimedCircuitBreaker}
    (cooldown : @timedeltaHours format breaker.cooldownHours =
      @timedeltaHours format' breaker.cooldownHours)
    (decision : RiskDecision) (now : Option DateTime) :
    CheckedAlike decision (@check format breaker decision now).1
        (@check format' breaker decision now).1 ∧
      (@check format breaker decision now).2 = (@check format' breaker decision now).2 := by
  have blocked : CheckedAlike decision (@blockTripped format breaker decision)
      (@blockTripped format' breaker decision) := by
    unfold blockTripped trippedReason
    cases intText breaker.lossStreak with
    | error raised => exact .inl rfl
    | ok streak => exact .inr ⟨_, _, rfl, rfl⟩
  unfold check cooldownElapsed
  rw [cooldown]
  split
  · split
    · split
      · exact ⟨.inl rfl, rfl⟩
      · split
        · exact ⟨.inl rfl, rfl⟩
        · exact ⟨.inl rfl, rfl⟩
        · exact ⟨blocked, rfl⟩
    · exact ⟨blocked, rfl⟩
  · exact ⟨.inl rfl, rfl⟩

namespace RiskAuthority

/-- The breaker check of an authority answers alike, and leaves the same authority. -/
theorem passTimedBreaker_formats {authority : RiskAuthority}
    (cooldown : SameCooldown format format' authority) (decision : RiskDecision)
    (now : Option DateTime) :
    CheckedAlike decision (@passTimedBreaker format authority decision now).1
        (@passTimedBreaker format' authority decision now).1 ∧
      (@passTimedBreaker format authority decision now).2 =
        (@passTimedBreaker format' authority decision now).2 := by
  unfold passTimedBreaker
  cases present : authority.timedBreaker with
  | none => exact ⟨.inl rfl, rfl⟩
  | some breaker =>
    obtain ⟨alike, same⟩ :=
      TimedCircuitBreaker.check_formats (cooldown breaker present) decision now
    refine ⟨alike, ?_⟩
    dsimp only
    rw [same]

/-- Formats that convert the cooldown alike, and rule on the call alike, rule on it alike behind
the gates of an authority, and leave the gates the same. -/
theorem evaluateWithState_formats {authority : RiskAuthority} {ctx : RiskContext}
    {call : TradeCall} {clock : Clock} (cooldown : SameCooldown format format' authority)
    (chain : (@evaluateStateless format ctx call clock).map RiskDecision.approved =
      (@evaluateStateless format' ctx call clock).map RiskDecision.approved) :
    (@evaluateWithState format authority ctx call clock).outcome.map RiskDecision.approved =
        (@evaluateWithState format' authority ctx call clock).outcome.map RiskDecision.approved ∧
      (@evaluateWithState format authority ctx call clock).authority.SameGates
        (@evaluateWithState format' authority ctx call clock).authority := by
  cases built : RiskDecision.new true "OK" call.proposedCost with
  | error raised =>
    rw [@evaluateWithState_raised format _ _ _ _ _ built,
      @evaluateWithState_raised format' _ _ _ _ _ built]
    exact ⟨rfl, .refl authority⟩
  | ok decision =>
    simp only [evaluateWithState, built]
    obtain ⟨proceed, decision⟩ := authority.passKillSwitch decision
    cases proceed with
    | false => exact ⟨rfl, .refl _⟩
    | true =>
      have breakers := passTimedBreaker_formats cooldown decision call.currentTime
      revert breakers
      dsimp only
      generalize @passTimedBreaker format authority decision call.currentTime = answered
      generalize @passTimedBreaker format' authority decision call.currentTime = answered'
      obtain ⟨answer, onward⟩ := answered
      obtain ⟨answer', onward'⟩ := answered'
      rintro ⟨same | ⟨reason, reason', rejected, rejected'⟩, left⟩
      · cases same
        cases left
        rcases answer with raised | ⟨proceed, decision⟩
        · exact ⟨rfl, .refl onward⟩
        · cases proceed with
          | false => exact ⟨rfl, .refl _⟩
          | true =>
            dsimp only
            obtain ⟨proceed, decision⟩ := onward.passLossGate decision
            cases proceed with
            | false => exact ⟨rfl, .refl _⟩
            | true => exact ⟨chain, .refl onward⟩
      · cases rejected
        cases rejected'
        cases left
        exact ⟨rfl, (onward.haltWith_sameGates _).trans (onward.haltWith_sameGates _).symm⟩

end RiskAuthority

/-- What each operation needs of the formats: they rule on the call of an evaluation alike. -/
def RuledAlikeIn (format format' : FloatFormat) : DeskOp → Prop
  | .evaluate ctx call clock =>
    (@evaluateStateless format ctx call clock).map RiskDecision.approved =
      (@evaluateStateless format' ctx call clock).map RiskDecision.approved
  | _ => True

/-- Every operation on an authority is answered alike, and leaves the gates the same. -/
theorem desk_formats {authority : RiskAuthority} (cooldown : SameCooldown format format' authority)
    {op : DeskOp} (ruled : RuledAlikeIn format format' op) :
    Option.Rel (fun left right => left.map RiskDecision.approved = right.map RiskDecision.approved)
        ((@desk format).answer authority op) ((@desk format').answer authority op) ∧
      ((@desk format).next authority op).SameGates ((@desk format').next authority op) := by
  cases op with
  | evaluate ctx call clock =>
    obtain ⟨alike, same⟩ := RiskAuthority.evaluateWithState_formats cooldown ruled
    exact ⟨.some alike, same⟩
  | recover ctx onTrip =>
    refine ⟨.none, ?_⟩
    change (@RiskAuthority.recover format authority ctx onTrip).SameGates
      (@RiskAuthority.recover format' authority ctx onTrip)
    rw [@RiskAuthority.recover_eq format, @RiskAuthority.recover_eq format']
    exact .refl _
  | tripSwitch at' => exact ⟨.none, .refl (authority.tripKillSwitch at')⟩
  | resetSwitch => exact ⟨.none, .refl authority.resetKillSwitch⟩
  | resetBreaker => exact ⟨.none, .refl authority.resetTimedBreaker⟩
  | resetLossGate => exact ⟨.none, .refl authority.resetLossGate⟩
  | record pnl at' => exact ⟨.none, .refl (authority.recordResolvedTrade pnl at')⟩

/-- No operation changes the cooldown. -/
theorem sameCooldown_next {authority : RiskAuthority}
    (cooldown : SameCooldown format format' authority) (op : DeskOp) :
    SameCooldown format format' ((@desk format').next authority op) := by
  have kept : ∀ {act : TimedCircuitBreaker → TimedCircuitBreaker},
      (∀ breaker, (act breaker).cooldownHours = breaker.cooldownHours) →
      SameCooldown format format'
        { authority with timedBreaker := authority.timedBreaker.map act } := by
    intro act hours breaker present
    obtain ⟨earlier, held, rfl⟩ := Option.map_eq_some_iff.mp present
    rw [hours]
    exact cooldown earlier held
  cases op with
  | tripSwitch at' => exact cooldown
  | resetSwitch => exact cooldown
  | resetBreaker => exact kept fun _ => rfl
  | resetLossGate => exact cooldown
  | record pnl at' => exact kept fun breaker => breaker.record_cooldownHours pnl at'
  | recover ctx onTrip =>
    change SameCooldown format format' (@RiskAuthority.recover format' authority ctx onTrip)
    rw [@RiskAuthority.recover_eq format']
    exact cooldown
  | evaluate ctx call clock =>
    obtain ⟨onward, path, same⟩ :=
      @RiskAuthority.evaluateWithState_authority format' authority ctx call clock
    have onwards : SameCooldown format format' onward := by
      rcases path with rfl | ⟨_⟩ | ⟨_, _, _⟩ | ⟨breaker, present, _, _⟩
      · exact cooldown
      · exact cooldown
      · exact cooldown
      · have reset := @kept TimedCircuitBreaker.reset fun _ => rfl
        rw [present] at reset
        exact reset
    intro breaker present
    exact onwards breaker (same.timedBreaker.symm.trans present)

/-- A desk refines the desk in another format where they convert the cooldown and rule on the
calls alike. -/
theorem desk_refines (format format' : FloatFormat) :
    (@desk format).Refines (@desk format') some (RuledAlikeIn format format')
      (fun right left => left.map RiskDecision.approved = right.map RiskDecision.approved)
      (fun right left => left.SameGates right ∧ SameCooldown format format' right) where
  silent := by
    intro right left op _ _ unread
    contradiction
  shown := by
    rintro right left op _ ⟨same, cooldown⟩ ruled ⟨⟩
    obtain ⟨answered, onward⟩ := @desk_sameGates format _ _ same op
    obtain ⟨alike, gates⟩ := desk_formats cooldown ruled
    rw [answered]
    refine ⟨?_, onward.trans gates, sameCooldown_next cooldown op⟩
    revert alike
    generalize (@desk format).answer right op = seen
    generalize (@desk format').answer right op = shown
    intro alike
    cases alike with
    | none => exact .none
    | some same => exact .some same

end Formats

section Doubles

variable [FloatFormat] [SoundRounding] {unit : ℚ} [RelativeRounding unit]

/-- The figures of an evaluation are floats of the format, away from their limits. -/
def DeskOp.Precise (unit : ℚ) : DeskOp → Prop
  | .evaluate ctx call _ => FormatCall ctx call ∧ AwayFromLimits unit ctx call
  | _ => True

/-- A desk in doubles, or in any other rounding with a bounded relative error on sums, that
converts its cooldown exactly, approves, rejects and raises throughout a session as it would in
exact arithmetic, if no evaluation comes so near to a limit that rounding might take it across. -/
theorem session_decides_precisely {authority : RiskAuthority}
    (cooldown : SameCooldown inferInstance .exact authority) {session : List DeskOp}
    (precise : ∀ op ∈ session, op.Precise unit) :
    (decisions authority session).map (Except.map RiskDecision.approved) =
      (@decisions .exact authority session).map (Except.map RiskDecision.approved) := by
  have ruled : ∀ op ∈ session, RuledAlikeIn inferInstance .exact op := by
    intro op member
    have away := precise op member
    cases op with
    | evaluate ctx call clock => exact evaluateStateless_precise away.1 away.2 clock
    | _ => trivial
  have alike := ((desk_refines inferInstance .exact).run ⟨.refl authority, cooldown⟩ ruled).1
  rw [List.filterMap_some] at alike
  exact (MemberWise.map_eq_map_of_forall₂ (alike.imp fun _ _ same => same.symm)).symm

end Doubles

section Examples

attribute [local instance] FloatFormat.doubles

/-- One loss is the limit. -/
def oneLoss : RiskContext := { RiskContext.default with consecutiveLossLimit := 1 }

/-- A trade of a third on top of three positions of a third each, a while after a loss. -/
def thirdTrade (wall : ℤ) : TradeCall :=
  { TradeCall.plain third (some ⟨wall, none⟩) with
    dailyRealizedPnl := .finite (-1)
    openPositions := thirdPositions
    tradeOutcomes := some [⟨⟨0, none⟩, .finite (-1)⟩] }

/-- The exposure is off its limit by more than its drift. -/
theorem third_exposure_away :
    exposureDrift doubleUnit "family" thirdPositions third <
      |trueExposure "family" thirdPositions third -
        RiskContext.default.maxCorrelatedExposure.val.value| := by
  have distance := neg_le_abs (trueExposure "family" thirdPositions third -
    RiskContext.default.maxCorrelatedExposure.val.value)
  linarith only [third_room, distance]

/-- The loss of the day is nowhere near its limit. -/
theorem third_loss_small :
    ¬ (PyFloat.finite (-1)).value / (1000 : PyFloat).value <
      -RiskContext.default.maxDailyDrawdownPct.val.value := by
  rw [PyFloat.value_ofNat]
  norm_num [RiskContext.default, PyNum.value, PyNum.exact, PyFloat.value]

/-- A quarter of an hour is parted from an hour. -/
theorem quarter_before_hour : Parted (15 * 60) 3600 := by
  refine ⟨.finite (900 : ℕ), .finite (3600 : ℕ), PyFloat.held_natCast (by norm_num),
    PyFloat.held_natCast (by norm_num), rfl, rfl, ?_, ?_, ?_⟩ <;> norm_num [PyFloat.value]

/-- The figures of the trade are floats of the format, and its cost is not negative. -/
theorem thirdTrade_formatted (wall : ℤ) : FormatCall oneLoss (thirdTrade wall) where
  drawdownLimit := ⟨by decide +kernel, by decide +kernel⟩
  exposureLimit := default_limit_held
  exposureFits := rfl
  windowFits := rfl
  windowKept := rfl
  cost := third_held
  costNonneg := third_nonneg
  positions := third_positions_costed
  cluster := by simp [thirdTrade, TradeCall.plain]

/-- The trade is away from its limits when the loss is an hour or more in the past. -/
theorem thirdTrade_away {wall : ℤ} (later : hourMicroseconds ≤ wall) :
    AwayFromLimits doubleUnit oneLoss (thirdTrade wall) where
  drawdown := by
    intro below
    exact absurd below third_loss_small
  elapsed := by
    rintro first rest ⟨⟩ outcome member elapsed between
    rw [List.mem_singleton.mp member] at between
    have span : wall - 0 = elapsed := Except.ok.inj between
    have seconds : (3600 : ℚ) ≤ (elapsed : ℚ) / 1000000 := by
      rw [le_div_iff₀ (by norm_num), ← span, sub_zero]
      exact_mod_cast later
    refine ⟨fun past => absurd (seconds.trans_lt past) (by norm_num), fun _ => ?_⟩
    exact quarter_before_hour.mono le_rfl seconds
  exposure := third_exposure_away
  cluster := by simp [thirdTrade, TradeCall.plain]

/-- A breaker trips at hour zero, and trades are evaluated an hour and a day later. -/
theorem third_trades_precise :
    let breaker : TimedCircuitBreaker := ⟨1, 24, 0, false, none, Nat.le_refl 1, rfl⟩
    let authority : RiskAuthority :=
      .new (some (.new "ERR_KILL_SWITCH_MANUAL")) (some breaker) none false
    let session : List DeskOp :=
      [.record (.float (.finite (-1))) (some ⟨0, none⟩),
        .evaluate oneLoss (thirdTrade hourMicroseconds) ⟨0, 0⟩,
        .evaluate oneLoss (thirdTrade dayMicroseconds) ⟨0, 0⟩]
    (decisions authority session).map (Except.map RiskDecision.approved) =
      (@decisions .exact authority session).map (Except.map RiskDecision.approved) := by
  intro breaker authority session
  refine @session_decides_precisely _ _ doubleUnit _ authority ?_ session ?_
  · rintro held ⟨⟩
    decide +kernel
  · simp only [session, List.forall_mem_cons]
    exact ⟨trivial, ⟨thirdTrade_formatted _, thirdTrade_away le_rfl⟩,
      ⟨thirdTrade_formatted _, thirdTrade_away (by decide)⟩, by simp⟩

end Examples

end VerdictRisk
