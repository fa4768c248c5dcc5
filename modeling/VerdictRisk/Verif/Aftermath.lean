import VerdictRisk.Verif.DeskHalt
import VerdictRisk.Verif.Receivable

/-!
# What a failed evaluation leaves behind

The authority is asked first, and asking can clear its breaker, invoke its callback and change what
it remembers. The receipt is built last and can raise. So an evaluation that raises leaves no trace
exactly when the authority had nothing to change, or the receipt had no reason to raise.
-/

namespace VerdictRisk

open Python

section Aftermath

variable [FloatFormat]

/-- The authority changes when it is asked: a stateful rejection is announced, or the breaker's
cooldown is found elapsed. -/
def Touches (authority : RiskAuthority) (now : Option DateTime) : Prop :=
  (∃ reason, Checks.first (statefulChecks authority now) = .ok (some reason) ∧
    authority.Announces reason) ∨
  (authority.SwitchClear ∧ ∃ breaker, authority.timedBreaker = some breaker ∧
    breaker.tripped = true ∧ breaker.Elapsed now)

omit [FloatFormat] in
/-- The evaluation left the authority as it was and invoked no callback. -/
def Untouched (authority : RiskAuthority) (evaluation : Evaluation) : Prop :=
  evaluation.authority = authority ∧ evaluation.alerts = []

/-- Passing the breaker changes the authority exactly when the cooldown of a trip has elapsed. -/
theorem breakerPasses_eq_iff {authority onward : RiskAuthority} {now : Option DateTime}
    (passes : authority.BreakerPasses now onward) :
    onward = authority ↔ ¬ ∃ breaker, authority.timedBreaker = some breaker ∧
      breaker.tripped = true ∧ breaker.Elapsed now := by
  cases passes with
  | absent missing => exact iff_of_true rfl (by simp [missing])
  | clear breaker present clear => exact iff_of_true rfl (by simp [present, clear])
  | elapsed breaker present up lapsed =>
    refine iff_of_false (fun same => ?_) (fun running => running ⟨breaker, present, up, lapsed⟩)
    have cleared := congrArg RiskAuthority.timedBreaker same
    rw [present] at cleared
    have down := congrArg TimedCircuitBreaker.tripped (Option.some.inj cleared)
    rw [up] at down
    contradiction

omit [FloatFormat] in
/-- A stateful rejection leaves an authority untouched when it comes from this authority and is not
announced. -/
theorem haltWith_untouched_iff {authority onward : RiskAuthority} {decision : RiskDecision} :
    Untouched authority (onward.haltWith decision) ↔
      onward = authority ∧ ¬ onward.Announces decision.reasonCode := by
  by_cases announces : onward.Announces decision.reasonCode
  · rw [RiskAuthority.haltWith_announced announces]
    simp [Untouched, announces]
  · rw [RiskAuthority.haltWith_silent announces]
    simp [Untouched, announces]

/-- An evaluation of a finite cost leaves the authority untouched unless it touches it. -/
theorem untouched_iff (authority : RiskAuthority) (ctx : RiskContext) (call : TradeCall)
    (clock : Clock) (finite : call.proposedCost.isFinite = true) :
    Untouched authority (authority.evaluateWithState ctx call clock) ↔
      ¬ Touches authority call.currentTime := by
  have built : RiskDecision.new true "OK" call.proposedCost =
      .ok ⟨true, "OK", ⟨call.proposedCost, finite⟩⟩ := dif_pos finite
  have running : ∀ breaker, authority.timedBreaker = some breaker →
      ¬ breaker.Elapsed call.currentTime → ¬ ∃ breaker, authority.timedBreaker = some breaker ∧
        breaker.tripped = true ∧ breaker.Elapsed call.currentTime := by
    rintro breaker present holds ⟨other, same, _, lapsed⟩
    rw [present, Option.some.injEq] at same
    exact holds (same ▸ lapsed)
  rcases authority.evaluateWithState_cases ctx call clock built with
    ⟨switch, present, up, evaluated⟩ |
    ⟨clear, breaker, raised, present, up, holds, failed, evaluated⟩ |
    ⟨clear, breaker, reason, present, up, holds, rejected, evaluated⟩ |
    ⟨clear, onward, passes, passed, ⟨gate, reason, present, rejected, evaluated⟩ |
      ⟨gateClear, evaluated⟩⟩
  · have first : Checks.first (statefulChecks authority call.currentTime) =
        .ok (some switch.reason) := by
      simp [statefulChecks, switchCheck, present, up]
    have blocked : ¬ authority.SwitchClear := fun clear => by simp [clear switch present] at up
    rw [evaluated, haltWith_untouched_iff, Touches, first]
    simp [blocked, RiskDecision.settle]
  · have first : Checks.first (statefulChecks authority call.currentTime) = .error raised := by
      simp [statefulChecks, switchCheck_clear clear, breakerCheck, present, failed]
    rw [evaluated, Touches, first]
    apply iff_of_true ⟨rfl, rfl⟩
    rintro (⟨_, answered, _⟩ | ⟨_, lapsed⟩)
    · contradiction
    · exact running breaker present holds lapsed
  · have first : Checks.first (statefulChecks authority call.currentTime) = .ok (some reason) := by
      simp [statefulChecks, switchCheck_clear clear, breakerCheck, present, rejected]
    rw [evaluated, haltWith_untouched_iff, Touches, first]
    simp [running breaker present holds, RiskDecision.settle]
  · have first : Checks.first (statefulChecks authority call.currentTime) = .ok (some reason) := by
      simp [statefulChecks, switchCheck_clear clear, breakerCheck_passes passed, lossGateCheck,
        present, rejected]
    have announces : onward.Announces reason ↔ authority.Announces reason := by
      unfold RiskAuthority.Announces
      rw [passes.callback.1, passes.callback.2]
    rw [evaluated, haltWith_untouched_iff, breakerPasses_eq_iff passes, Touches, first]
    simp [announces, clear, RiskDecision.settle, and_comm]
  · have first : Checks.first (statefulChecks authority call.currentTime) = .ok none := by
      simp [statefulChecks, switchCheck_clear clear, breakerCheck_passes passed,
        lossGateCheck_clear gateClear]
    rw [evaluated, Touches, first]
    simp [Untouched, breakerPasses_eq_iff passes, clear]

/-- An evaluation of a request returns a decision or leaves the authority untouched, unless the
latency budget cannot be written. -/
theorem decides_or_untouched (authority : RiskAuthority) {ctx : RiskContext}
    (request : RiskProviderRequest) (clock : Clock)
    (latencyBudget : ctx.latencyBudgetUs.natAbs < textLimit) :
    (∃ decision, (authority.evaluateWithState ctx request.call clock).outcome = .ok decision) ∨
      Untouched authority (authority.evaluateWithState ctx request.call clock) := by
  have built := RiskDecision.new_finite true "OK" request.proposedCost
  obtain ⟨decision, decided⟩ := evaluateStateless_decides request clock latencyBudget
  rcases authority.evaluateWithState_cases ctx request.call clock built with
    ⟨_, _, _, evaluated⟩ | ⟨_, _, _, _, _, _, _, evaluated⟩ | ⟨_, _, _, _, _, _, _, evaluated⟩ |
    ⟨_, _, _, _, ⟨_, _, _, _, evaluated⟩ | ⟨_, evaluated⟩⟩ <;> rw [evaluated]
  · exact .inl ⟨_, rfl⟩
  · exact .inr ⟨rfl, rfl⟩
  · exact .inl ⟨_, rfl⟩
  · exact .inl ⟨_, rfl⟩
  · exact .inl ⟨decision, decided⟩

/-- An evaluation that raises leaves the authority as it was and invokes no callback exactly when
asking the authority changes nothing, or the request carries no secret and can be recorded. -/
theorem failure_untouched_iff [ReceiptFormat] (provider : RiskProvider)
    (request : RiskProviderRequest) (engineClock clock : Clock)
    (constructed : Constructed request) :
    (∀ raised, (provider.evaluate request engineClock clock).outcome = .error raised →
        (provider.evaluate request engineClock clock).provider.authority = provider.authority ∧
          (provider.evaluate request engineClock clock).alerts = []) ↔
      (Touches provider.authority request.currentTime →
        ¬ CarriesSecret request ∧ Recordable provider.ctx request) := by
  have untouched := untouched_iff provider.authority provider.ctx request.call engineClock
    request.proposedCost.property
  constructor
  · intro traceless touches
    cases outcome : (provider.evaluate request engineClock clock).outcome with
    | error raised => exact absurd touches (untouched.mp (traceless raised outcome))
    | ok result =>
      obtain ⟨decision, _, concluded⟩ := Fallible.bind_ok_iff.mp outcome
      exact (conclude_returns_iff constructed decision clock).mp ⟨result, concluded⟩
  · intro recorded raised failed
    apply untouched.mpr
    intro touches
    have recorded := recorded touches
    rcases decides_or_untouched provider.authority request engineClock
      recorded.2.latencyBudget with ⟨decision, decided⟩ | unmoved
    · obtain ⟨result, concluded⟩ := (conclude_returns_iff constructed decision clock).mpr recorded
      have returned : (provider.evaluate request engineClock clock).outcome = .ok result :=
        Fallible.bind_ok_iff.mpr ⟨decision, decided, concluded⟩
      rw [failed] at returned
      contradiction
    · exact untouched.mp unmoved touches

end Aftermath

section Example

attribute [local instance] FloatFormat.exact ReceiptFormat.plain

/-- A request whose advisory holds a key, an hour after the origin of time. -/
def leakyRequest : RiskProviderRequest :=
  { plainRequest with
    currentTime := some ⟨hourMicroseconds, none⟩
    advisory := some [(.str "api_key", .str "sk-live-1")] }

/-- A stateless authority has nothing to change when the receipt is refused. -/
theorem stateless_failure_untouched :
    let provider := RiskProvider.new none none
    (provider.evaluate leakyRequest ⟨0, 0⟩ ⟨0, 0⟩).outcome.isOk = false ∧
      ∀ raised, (provider.evaluate leakyRequest ⟨0, 0⟩ ⟨0, 0⟩).outcome = .error raised →
        (provider.evaluate leakyRequest ⟨0, 0⟩ ⟨0, 0⟩).provider.authority = provider.authority ∧
          (provider.evaluate leakyRequest ⟨0, 0⟩ ⟨0, 0⟩).alerts = [] := by
  intro provider
  have constructed : Constructed leakyRequest := by simp [Constructed, leakyRequest, plainRequest]
  refine ⟨by decide +kernel, (failure_untouched_iff provider leakyRequest ⟨0, 0⟩ ⟨0, 0⟩
    constructed).mpr ?_⟩
  have silent : Checks.first (statefulChecks provider.authority leakyRequest.currentTime) =
      .ok none := rfl
  rintro (⟨reason, answered, _⟩ | ⟨_, breaker, present, _⟩)
  · rw [silent] at answered
    cases answered
  · contradiction

/-- A breaker that has waited out its hour is cleared although the receipt is refused. -/
theorem refused_receipt_clears_breaker :
    let authority := (RiskAuthority.new none (TimedCircuitBreaker.new 1 (.float 1)).toOption none
      false).recordResolvedTrade (.float (.finite (-1))) (some ⟨0, none⟩)
    let provider := RiskProvider.new none (some authority)
    ¬ ∀ raised, (provider.evaluate leakyRequest ⟨0, 0⟩ ⟨0, 0⟩).outcome = .error raised →
      (provider.evaluate leakyRequest ⟨0, 0⟩ ⟨0, 0⟩).provider.authority = provider.authority ∧
        (provider.evaluate leakyRequest ⟨0, 0⟩ ⟨0, 0⟩).alerts = [] := by
  intro authority provider traceless
  have raises : (provider.evaluate leakyRequest ⟨0, 0⟩ ⟨0, 0⟩).outcome.isOk = false := by
    decide +kernel
  cases outcome : (provider.evaluate leakyRequest ⟨0, 0⟩ ⟨0, 0⟩).outcome with
  | ok result =>
    rw [outcome] at raises
    contradiction
  | error raised =>
    have same := congrArg RiskAuthority.breakerTripped (traceless raised outcome).1
    have cleared : (provider.evaluate leakyRequest ⟨0, 0⟩
        ⟨0, 0⟩).provider.authority.breakerTripped = false := by
      decide +kernel
    rw [cleared] at same
    contradiction

end Example

end VerdictRisk
