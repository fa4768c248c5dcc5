import VerdictRisk.Provider
import VerdictRisk.Session

/-!
# Advisory data

A request may carry an advisory mapping. It is written into the receipt and into the digest of
the inputs, and it can make the receipt fail; but the authority has been asked by then, with
arguments that do not mention it. So sessions that differ in their advisories alone move the
authority alike, whatever they return.
-/

namespace VerdictRisk

open Python

/-- The operations of a provider's session: a request is evaluated, or the authority and its
gates are operated directly. -/
inductive ProviderOp where
  | evaluate (request : RiskProviderRequest) (engineClock clock : Clock)
  | operate (op : DeskOp)

/-- Two requests that differ in their advisories alone. -/
def DifferInAdvisory (request request' : RiskProviderRequest) : Prop :=
  ∃ advisory, request' = { request with advisory }

/-- The same operation, an evaluated request's advisory apart. -/
inductive AlikeOp : ProviderOp → ProviderOp → Prop
  | evaluate {request request' : RiskProviderRequest} (engineClock clock : Clock) :
      DifferInAdvisory request request' →
      AlikeOp (.evaluate request engineClock clock) (.evaluate request' engineClock clock)
  | operate (op : DeskOp) : AlikeOp (.operate op) (.operate op)

/-- Where both operations return a result, the results agree on the decision and the report. -/
def SameVerdict (answer answer' : Option (Except PyError RiskProviderResult)) : Prop :=
  ∀ result result', answer = some (.ok result) → answer' = some (.ok result') →
    result.approved = result'.approved ∧ result.reasonCode = result'.reasonCode ∧
      result.suggestedSize = result'.suggestedSize ∧ result.gateOutcomes = result'.gateOutcomes

/-- No gate is asked about the advisory. -/
theorem call_of_differ {request request' : RiskProviderRequest}
    (differ : DifferInAdvisory request request') : request'.call = request.call := by
  obtain ⟨advisory, rfl⟩ := differ
  rfl

section Sessions

variable [FloatFormat]

/-- No entry of the report is about the advisory. -/
theorem gateReport_of_differ (ctx : RiskContext) {request request' : RiskProviderRequest}
    (differ : DifferInAdvisory request request') :
    gateReport ctx request' = gateReport ctx request := by
  obtain ⟨advisory, rfl⟩ := differ
  unfold gateReport
  refine congrArg (List.mapM · statelessGates) (funext fun gate => ?_)
  cases gate <;> rfl

variable [ReceiptFormat]

/-- What an operation returns, which only an evaluation does, and the provider after it. -/
def providerStep (provider : RiskProvider) :
    ProviderOp → Option (Except PyError RiskProviderResult) × RiskProvider
  | .evaluate request engineClock clock =>
    let evaluated := provider.evaluate request engineClock clock
    (some evaluated.outcome, evaluated.provider)
  | .operate op => (none, { provider with authority := desk.next provider.authority op })

/-- A provider as a machine. -/
def providerDesk :
    Runs.Machine RiskProvider ProviderOp (Option (Except PyError RiskProviderResult)) :=
  ⟨providerStep⟩

/-- One request, evaluated under two advisories, leaves one provider behind, and what is
returned agrees. -/
theorem evaluate_of_differ (provider : RiskProvider) {request request' : RiskProviderRequest}
    (engineClock clock : Clock) (differ : DifferInAdvisory request request') :
    SameVerdict (some (provider.evaluate request engineClock clock).outcome)
        (some (provider.evaluate request' engineClock clock).outcome) ∧
      (provider.evaluate request engineClock clock).provider =
        (provider.evaluate request' engineClock clock).provider := by
  have same := call_of_differ differ
  constructor
  · intro result result' returned returned'
    obtain ⟨decision, decided, concluded⟩ := RiskProvider.evaluate_ok (Option.some.inj returned)
    obtain ⟨decision', decided', concluded'⟩ :=
      RiskProvider.evaluate_ok (Option.some.inj returned')
    rw [same, decided, Except.ok.injEq] at decided'
    subst decided'
    have report := concluded'.reported
    rw [gateReport_of_differ provider.ctx differ, concluded.reported, Except.ok.injEq] at report
    exact ⟨concluded.approved.trans concluded'.approved.symm,
      concluded.reasonCode.trans concluded'.reasonCode.symm,
      concluded.suggestedSize.trans concluded'.suggestedSize.symm, report⟩
  · unfold RiskProvider.evaluate
    rw [same]

/-- Alike operations move a provider alike, and what they return agrees. -/
theorem alike_step (provider provider' : RiskProvider) (op op' : ProviderOp)
    (same : provider = provider') (alike : AlikeOp op op') :
    SameVerdict (providerDesk.answer provider op) (providerDesk.answer provider' op') ∧
      providerDesk.next provider op = providerDesk.next provider' op' := by
  subst same
  cases alike with
  | evaluate engineClock clock differ =>
    exact evaluate_of_differ provider engineClock clock differ
  | operate op =>
    refine ⟨?_, rfl⟩
    intro result result' returned
    contradiction

/-- Two sessions that differ in the advisories of their requests alone have the same authority
after every step, whether or not a step raised, and wherever both return a result the results
agree on the decision and the report. -/
theorem advisories_powerless (provider : RiskProvider) {session session' : List ProviderOp}
    (alike : List.Forall₂ AlikeOp session session') :
    (∀ steps, (providerDesk.after provider (session.take steps)).authority =
        (providerDesk.after provider (session'.take steps)).authority) ∧
      List.Forall₂ SameVerdict (providerDesk.answers provider session)
        (providerDesk.answers provider session') := by
  have run : ∀ {ops ops' : List ProviderOp}, List.Forall₂ AlikeOp ops ops' →
      List.Forall₂ SameVerdict (providerDesk.answers provider ops)
          (providerDesk.answers provider ops') ∧
        providerDesk.after provider ops = providerDesk.after provider ops' :=
    fun alike => providerDesk.answers_agree alike_step rfl alike
  constructor
  · intro steps
    have final := (run (List.forall₂_take steps alike)).2
    rw [final]
  · exact (run alike).1

end Sessions

section Example

attribute [local instance] FloatFormat.exact ReceiptFormat.plain

/-- An advisory with a secret makes the evaluation raise, but the breaker that it found elapsed
is cleared as it is without the advisory. -/
theorem secret_advisory_powerless :
    let tripped : TimedCircuitBreaker :=
      ⟨1, 1, 1, true, some ⟨0, none⟩, le_refl 1, rfl⟩
    let provider := RiskProvider.new none (some (.new none (some tripped) none false))
    let request := { plainRequest with currentTime := some ⟨hourMicroseconds, none⟩ }
    let coaxed := { request with advisory := some [(.str "api_key", .str "sk-live-1")] }
    (provider.evaluate coaxed ⟨0, 0⟩ ⟨0, 0⟩).outcome.isOk = false ∧
      (providerDesk.after provider ([.evaluate request ⟨0, 0⟩ ⟨0, 0⟩].take 1)).authority =
        (providerDesk.after provider ([.evaluate coaxed ⟨0, 0⟩ ⟨0, 0⟩].take 1)).authority := by
  intro tripped provider request coaxed
  have alike : List.Forall₂ AlikeOp [.evaluate request ⟨0, 0⟩ ⟨0, 0⟩]
      [.evaluate coaxed ⟨0, 0⟩ ⟨0, 0⟩] := .cons (.evaluate _ _ ⟨_, rfl⟩) .nil
  have powerless := (advisories_powerless provider alike).1 1
  exact ⟨by decide +kernel, powerless⟩

end Example

end VerdictRisk
