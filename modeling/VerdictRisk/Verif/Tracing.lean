import VerdictRisk.Tracing
import VerdictRisk.Verif.Chain

/-!
# What a trace tells

Tracing changes no decision, and the calls it makes are determined by the answers of the gates.
Conversely the decision can be read off the calls of a traced evaluation, and the answer of every
gate that was asked off the calls on its own span.
-/

namespace VerdictRisk

open Python Effects

/-- What is set on the span of a gate, by its answer. -/
def gateMarks (name : String) : Checks.Check PyError String → List (TracerCall PyError)
  | .error _ => []
  | .ok none => [.setAttribute name "approved" (.bool true)]
  | .ok (some reason) =>
    [.setAttribute name "approved" (.bool false), .setAttribute name "reason_code" (.str reason)]

/-- The calls on the span of a gate. -/
def gateCalls (modules : ProviderModules) (name : String) (answer : Checks.Check PyError String) :
    List (TracerCall PyError) :=
  if tracingEnabled (modules name) then
    .start name :: (gateMarks name answer ++ [.finish name (Run.raised answer)])
  else []

/-- A gate is run with the calls that belong to its answer. -/
theorem runGateTraced_settle (modules : ProviderModules) (name : String)
    (answer : Checks.Check PyError String) (decision : RiskDecision) :
    runGateTraced modules name (answer.map decision.settle) =
      ⟨gateCalls modules name answer, answer.map decision.settle⟩ := by
  unfold runGateTraced maybeSpan gateCalls
  split <;> rcases answer with raised | - | reason <;> rfl

/-- Whether a gate lets the chain go on. -/
def passed (gate : String × Checks.Check PyError String) : Bool :=
  match gate.2 with
  | .ok none => true
  | _ => false

/-- A gate has passed exactly when its check answers no reason. -/
theorem passed_iff (gate : String × Checks.Check PyError String) :
    passed gate = true ↔ gate.2 = .ok none := by
  rcases gate with ⟨name, raised | - | reason⟩ <;> simp [passed]

/-- A decision after a check: it raises, it rejects on the root span, or the chain goes on. -/
def follow (span : Option String) (decision : RiskDecision) (next : Traced RiskDecision) :
    Checks.Check PyError String → Traced RiskDecision
  | .error raised => .lift (.error raised)
  | .ok (some reason) => do
    let decision := (decision.settle (some reason)).2
    markRejected span decision
    return decision
  | .ok none => next

/-- Checks in turn are followed as their chain is. -/
theorem follow_first (span : Option String) (decision : RiskDecision)
    (next : Traced RiskDecision) (before rest : List (Checks.Check PyError String)) :
    follow span decision next (Checks.first (before ++ rest)) =
      follow span decision (follow span decision next (Checks.first rest))
        (Checks.first before) := by
  rw [Checks.first_append]
  rcases Checks.first before with raised | - | reason
  · rfl
  · rcases Checks.first rest with raised | - | reason <;> rfl
  · rfl

/-- A chain of gates that hand on one decision. -/
def tracedChain (modules : ProviderModules) (span : Option String) (decision : RiskDecision)
    (next : RiskDecision → Traced RiskDecision) :
    List (String × Checks.Check PyError String) → Traced RiskDecision
  | [] => next decision
  | (name, answer) :: rest => do
    let (passed, decision) ← runGateTraced modules name (answer.map decision.settle)
    if !passed then
      markRejected span decision
      return decision
    tracedChain modules span decision next rest

/-- The calls of a chain are those of the gates it asks and of what follows their answer. -/
theorem tracedChain_eq (modules : ProviderModules) (span : Option String)
    (decision : RiskDecision) (next : RiskDecision → Traced RiskDecision)
    (gates : List (String × Checks.Check PyError String)) :
    tracedChain modules span decision next gates =
      let rest := follow span decision (next decision) (Checks.first (gates.map Prod.snd))
      ⟨(upTo passed gates).flatMap (fun gate => gateCalls modules gate.1 gate.2) ++ rest.effects,
        rest.outcome⟩ := by
  induction gates with
  | nil => rfl
  | cons gate gates ih =>
    obtain ⟨name, answer⟩ := gate
    rw [tracedChain, runGateTraced_settle]
    rcases answer with raised | - | reason
    · simp [bind, Run.andThen, Except.map, upTo, passed, follow, Run.lift]
    · change Run.andThen _ _ = _
      simp only [Run.andThen, Except.map, RiskDecision.settle, Bool.not_true, Bool.false_eq_true,
        if_false, ih, upTo, passed, if_true, List.map_cons, Checks.first_passed,
        List.flatMap_cons, List.append_assoc]
    · simp [bind, Run.andThen, Except.map, upTo, passed, follow, RiskDecision.settle]

/-- The calls on the root span at the start. -/
def inputCalls (call : TradeCall) : List (TracerCall PyError) :=
  [.setAttribute "evaluate_trade" "trade_risk_engine.target_family" (.str call.targetFamily),
    .setAttribute "evaluate_trade" "trade_risk_engine.proposed_cost" (.float call.proposedCost),
    .setAttribute "evaluate_trade" "trade_risk_engine.expected_value" (.float call.expectedValue),
    .setAttribute "evaluate_trade" "trade_risk_engine.daily_realized_pnl"
      (.float call.dailyRealizedPnl),
    .setAttribute "evaluate_trade" "trade_risk_engine.equity" (.float call.equity)]

/-- The calls on the root span at the end, by the outcome. -/
def verdictCalls : Except PyError RiskDecision → List (TracerCall PyError)
  | .error _ => []
  | .ok decision =>
    if decision.approved then
      [.setAttribute "evaluate_trade" "approved" (.bool true),
        .setAttribute "evaluate_trade" "suggested_size" (.float decision.suggestedSize.val)]
    else
      [.setAttribute "evaluate_trade" "approved" (.bool false),
        .setAttribute "evaluate_trade" "reason_code" (.str decision.reasonCode)]

section Gates

variable [FloatFormat]

/-- The names of the gates with what they answer. -/
def namedGates (ctx : RiskContext) (call : TradeCall) :
    List (String × Checks.Check PyError String) :=
  ["evaluate_expected_value", "evaluate_drawdown", "evaluate_consecutive_losses",
    "evaluate_concentration"].zip (gateChecks ctx call)

/-- The gates that are asked: up to the first that does not pass, and none when there is no decision
to ask them about. -/
def askedGates (ctx : RiskContext) (call : TradeCall) :
    List (String × Checks.Check PyError String) :=
  if call.proposedCost.isFinite then upTo passed (namedGates ctx call) else []

/-- The approval at the end of the chain. -/
def tracedApproval (span : Option String) (decision : RiskDecision) : Traced RiskDecision := do
  setAttrs span [("approved", .bool true), ("suggested_size", .float decision.suggestedSize.val)]
  return decision

/-- What happens within the root span. -/
def tracedBody (modules : ProviderModules) (span : Option String) (ctx : RiskContext)
    (call : TradeCall) (clock : Clock) : Traced RiskDecision := do
  Run.perform (if span.isSome then inputCalls call else [])
  let decision ← Run.lift (RiskDecision.new true "OK" call.proposedCost)
  tracedChain modules span decision
    (fun decision => follow span decision (tracedApproval span decision)
      (Checks.first [clusterCheck call.clusterCapCtx, latencyRejection ctx clock]))
    (namedGates ctx call)

/-- What follows the gates is a chain of the cluster cap and the latency budget. -/
theorem tracedEnd_eq (span : Option String) (ctx : RiskContext) (call : TradeCall) (clock : Clock)
    (decision : RiskDecision) :
    (do
      if let some cluster := call.clusterCapCtx then
        let clusterDecision ← Run.lift (evaluateClusterCap cluster)
        if !clusterDecision.approved then
          let decision :=
            { decision with approved := false, reasonCode := clusterDecision.reasonCode }
          markRejected span decision
          return decision
      let late ← Run.lift (latencyRejection ctx clock)
      if let some reason := late then
        let decision := { decision with approved := false, reasonCode := reason }
        markRejected span decision
        return decision
      setAttrs span
        [("approved", .bool true), ("suggested_size", .float decision.suggestedSize.val)]
      return decision) =
    follow span decision (tracedApproval span decision)
      (Checks.first [clusterCheck call.clusterCapCtx, latencyRejection ctx clock]) := by
  unfold clusterCheck
  cases call.clusterCapCtx with
  | none => rcases latencyRejection ctx clock with raised | - | reason <;> rfl
  | some cluster =>
    dsimp only
    rcases evaluateClusterCap cluster with raised | ⟨_ | _, reason, size⟩
    · rfl
    · rfl
    · rcases latencyRejection ctx clock with raised | - | reason <;> rfl

/-- The traced evaluation is a chain of its gates. -/
theorem evaluateStatelessTraced_chain (modules : ProviderModules) (ctx : RiskContext)
    (call : TradeCall) (clock : Clock) :
    evaluateStatelessTraced modules ctx call clock =
      maybeSpan modules "evaluate_trade" fun span => tracedBody modules span ctx call clock := by
  unfold evaluateStatelessTraced maybeSpan tracedBody
  simp only [tracedChain, namedGates, gateChecks, List.zip_cons_cons, List.zip_nil_left,
    ← tracedEnd_eq]
  split <;> rfl

omit [FloatFormat] in
/-- The end of a chain tells its verdict to the root span. -/
theorem follow_approval {span : Option String} (root : span = none ∨ span = some "evaluate_trade")
    {decision : RiskDecision} (fresh : decision.approved = true)
    (verdict : Checks.Check PyError String) :
    follow span decision (tracedApproval span decision) verdict =
      let outcome := verdict.map fun reason => (decision.settle reason).2
      ⟨if span.isSome then verdictCalls outcome else [], outcome⟩ := by
  rcases root with rfl | rfl <;> rcases verdict with raised | - | reason <;>
    simp [follow, tracedApproval, markRejected, setAttrs, verdictCalls, RiskDecision.settle, fresh,
      Run.lift, Run.perform, Run.andThen, bind, pure, Except.map]

/-- Within the root span the inputs come first, then the gates that are asked, then the verdict. -/
theorem tracedBody_eq (modules : ProviderModules) {span : Option String}
    (root : span = none ∨ span = some "evaluate_trade") (ctx : RiskContext) (call : TradeCall)
    (clock : Clock) :
    tracedBody modules span ctx call clock =
      let outcome := evaluateStateless ctx call clock
      ⟨(if span.isSome then inputCalls call else []) ++
          ((askedGates ctx call).flatMap (fun gate => gateCalls modules gate.1 gate.2) ++
            if span.isSome then verdictCalls outcome else []), outcome⟩ := by
  have checks : (namedGates ctx call).map Prod.snd ++
      [clusterCheck call.clusterCapCtx, latencyRejection ctx clock] = chainChecks ctx call clock :=
    rfl
  unfold tracedBody askedGates
  rw [evaluateStateless_eq]
  by_cases finite : call.proposedCost.isFinite = true
  · rw [RiskDecision.new, dif_pos finite, if_pos finite]
    simp only [Run.lift_ok_bind, tracedChain_eq, ← follow_first, checks]
    rw [follow_approval root rfl]
    rfl
  · rw [RiskDecision.new, dif_neg finite, if_neg finite]
    simp [bind, Run.andThen, Except.bind, Run.perform, Run.lift, verdictCalls]

/-- What a traced evaluation calls, and that tracing changes nothing about its outcome. -/
theorem evaluateStatelessTraced_eq (modules : ProviderModules) (ctx : RiskContext)
    (call : TradeCall) (clock : Clock) :
    evaluateStatelessTraced modules ctx call clock =
      let outcome := evaluateStateless ctx call clock
      let gates := (askedGates ctx call).flatMap fun gate => gateCalls modules gate.1 gate.2
      ⟨if tracingEnabled (modules "evaluate_trade") then
          .start "evaluate_trade" :: (inputCalls call ++ gates ++ verdictCalls outcome ++
            [.finish "evaluate_trade" (Run.raised outcome)])
        else gates, outcome⟩ := by
  rw [evaluateStatelessTraced_chain, maybeSpan, tracedBody_eq modules (.inl rfl),
    tracedBody_eq modules (.inr rfl)]
  split <;> simp [Run.within]

end Gates

/-- What a call sets an attribute of a span to. -/
def attributeOn (span key : String) : TracerCall PyError → Option AttributeValue
  | .setAttribute span' key' value => if span' = span ∧ key' = key then some value else none
  | _ => none

/-- What a call ends a span with. -/
def ended (span : String) : TracerCall PyError → Option (Option PyError)
  | .finish span' raised => if span' = span then some raised else none
  | _ => none

/-- The reason code of a span. -/
def reasonOn (span : String) (calls : List (TracerCall PyError)) : Option String :=
  match latest (attributeOn span "reason_code") calls with
  | some (.str reason) => some reason
  | _ => none

/-- The outcome of an evaluation, read off its root span. -/
def readOutcome (calls : List (TracerCall PyError)) : Option (Except PyError RiskDecision) :=
  match latest (ended "evaluate_trade") calls with
  | none => none
  | some (some raised) => some (.error raised)
  | some none =>
    match latest (attributeOn "evaluate_trade" "approved") calls,
      latest (attributeOn "evaluate_trade" "trade_risk_engine.proposed_cost") calls with
    | some (.bool approved), some (.float cost) =>
      some (RiskDecision.new approved ((reasonOn "evaluate_trade" calls).getD "OK") cost)
    | _, _ => none

/-- The answer of a gate, read off the end of its span. -/
def readGate (calls : List (TracerCall PyError)) :
    TracerCall PyError → Option (String × Checks.Check PyError String)
  | .finish span raised =>
    if span = "evaluate_trade" then none
    else match raised with
      | some raised => some (span, .error raised)
      | none => some (span, .ok (reasonOn span calls))
  | _ => none

/-- The answers of the gates, in the order in which their spans end. -/
def readGates (calls : List (TracerCall PyError)) : List (String × Checks.Check PyError String) :=
  calls.filterMap (readGate calls)

/-- The inputs on the root span are no answers of a gate. -/
theorem readGate_inputs (calls : List (TracerCall PyError)) (call : TradeCall) :
    (inputCalls call).filterMap (readGate calls) = [] := by
  simp [inputCalls, List.filterMap_cons, readGate]

/-- Neither is the verdict. -/
theorem readGate_verdict (calls : List (TracerCall PyError))
    (outcome : Except PyError RiskDecision) :
    (verdictCalls outcome).filterMap (readGate calls) = [] := by
  cases outcome with
  | error raised => rfl
  | ok decision => cases approved : decision.approved <;>
      simp [verdictCalls, approved, List.filterMap_cons, readGate]

/-- The answer of a traced gate is read off its calls, if its reason stands on its span. -/
theorem readGate_gateCalls (calls : List (TracerCall PyError)) (modules : ProviderModules)
    {gate : String × Checks.Check PyError String} (notRoot : gate.1 ≠ "evaluate_trade")
    (stands : tracingEnabled (modules gate.1) = true →
      ∀ reason, gate.2 = .ok reason → reasonOn gate.1 calls = reason) :
    (gateCalls modules gate.1 gate.2).filterMap (readGate calls) =
      if tracingEnabled (modules gate.1) then [gate] else [] := by
  by_cases traced : tracingEnabled (modules gate.1) = true
  · have reason := stands traced
    rw [gateCalls, if_pos traced, if_pos traced]
    obtain ⟨name, raised | - | rejected⟩ := gate <;> dsimp only at notRoot reason
    · simp [gateMarks, List.filterMap_cons, readGate, notRoot]
    · simp [gateMarks, List.filterMap_cons, readGate, notRoot, reason none rfl]
    · simp [gateMarks, List.filterMap_cons, readGate, notRoot, reason (some rejected) rfl]
  · rw [gateCalls, if_neg traced, if_neg traced]
    rfl

section Reading

variable [FloatFormat]

/-- The gates that are asked are four of different names. -/
theorem askedGates_sublist (ctx : RiskContext) (call : TradeCall) :
    ((askedGates ctx call).map Prod.fst).Sublist
      ["evaluate_expected_value", "evaluate_drawdown", "evaluate_consecutive_losses",
        "evaluate_concentration"] := by
  unfold askedGates
  split
  · exact (upTo_comes_first (namedGates ctx call)).sublist.map Prod.fst
  · exact List.nil_sublist _

/-- The root span is none of a gate. -/
theorem askedGates_not_root {ctx : RiskContext} {call : TradeCall}
    {gate : String × Checks.Check PyError String} (asked : gate ∈ askedGates ctx call) :
    gate.1 ≠ "evaluate_trade" := by
  have named := (askedGates_sublist ctx call).subset (List.mem_map_of_mem asked)
  intro same
  rw [same] at named
  simp at named

/-- Two gates of the same name are the same. -/
theorem askedGates_unique {ctx : RiskContext} {call : TradeCall}
    {gate other : String × Checks.Check PyError String} (asked : gate ∈ askedGates ctx call)
    (asked' : other ∈ askedGates ctx call) (same : other.1 = gate.1) : other = gate :=
  List.inj_on_of_nodup_map ((askedGates_sublist ctx call).nodup (by simp)) asked' asked same

omit [FloatFormat] in
/-- The calls of a gate are about its own span. -/
theorem gateCalls_elsewhere (modules : ProviderModules) {name span : String} (differs : name ≠ span)
    (answer : Checks.Check PyError String) (key : String) :
    latest (attributeOn span key) (gateCalls modules name answer) = none ∧
      latest (ended span) (gateCalls modules name answer) = none := by
  unfold gateCalls
  split
  · rcases answer with raised | - | reason <;> simp [gateMarks, attributeOn, ended, differs]
  · exact ⟨rfl, rfl⟩

/-- The outcome of an evaluation can be read off its calls exactly when its root span is traced. -/
theorem readOutcome_evaluate (modules : ProviderModules) (ctx : RiskContext) (call : TradeCall)
    (clock : Clock) :
    readOutcome (evaluateStatelessTraced modules ctx call clock).effects =
      if tracingEnabled (modules "evaluate_trade") then some (evaluateStateless ctx call clock)
      else none := by
  rw [evaluateStatelessTraced_eq]
  dsimp only
  have silent : ∀ key, latest (attributeOn "evaluate_trade" key)
      ((askedGates ctx call).flatMap fun gate => gateCalls modules gate.1 gate.2) = none :=
    fun key => latest_flatMap_unset fun gate asked =>
      (gateCalls_elsewhere modules (askedGates_not_root asked) gate.2 key).1
  have unended : latest (ended "evaluate_trade")
      ((askedGates ctx call).flatMap fun gate => gateCalls modules gate.1 gate.2) = none :=
    latest_flatMap_unset fun gate asked =>
      (gateCalls_elsewhere modules (askedGates_not_root asked) gate.2 "").2
  split
  · unfold readOutcome reasonOn
    cases outcome : evaluateStateless ctx call clock with
    | error raised => simp [ended]
    | ok decision =>
      obtain ⟨finite, verdict, _, rfl⟩ := evaluateStateless_ok outcome
      cases verdict with
      | none =>
        simp [ended, attributeOn, inputCalls, verdictCalls, RiskDecision.settle, silent,
          RiskDecision.new, finite]
      | some reason =>
        simp [ended, attributeOn, inputCalls, verdictCalls, RiskDecision.settle, silent,
          RiskDecision.new, finite]
  · rw [readOutcome, unended]

/-- Every span that is started ends, and before the spans around it. -/
theorem evaluateStatelessTraced_balanced (modules : ProviderModules) (ctx : RiskContext)
    (call : TradeCall) (clock : Clock) :
    Balanced TracerCall.role (evaluateStatelessTraced modules ctx call clock).effects := by
  have gates : Balanced TracerCall.role
      ((askedGates ctx call).flatMap fun gate => gateCalls modules gate.1 gate.2) := by
    refine balanced_flatMap fun gate _ => ?_
    unfold gateCalls
    split
    · refine balanced_block rfl rfl (balanced_plain ?_)
      rcases gate.2 with raised | - | reason <;> simp [gateMarks, TracerCall.role]
    · exact balanced_nil
  have inputs : Balanced TracerCall.role (inputCalls call) :=
    balanced_plain (by simp [inputCalls, TracerCall.role])
  have verdict : ∀ outcome, Balanced TracerCall.role (verdictCalls outcome) := by
    intro outcome
    apply balanced_plain
    cases outcome with
    | error raised => simp [verdictCalls]
    | ok decision => cases approved : decision.approved <;> simp [verdictCalls, approved,
        TracerCall.role]
  rw [evaluateStatelessTraced_eq]
  dsimp only
  split
  · exact balanced_block rfl rfl (balanced_append (balanced_append inputs gates) (verdict _))
  · exact gates

/-- On the span of a gate stands the reason of that gate. -/
theorem reasonOn_gate (modules : ProviderModules) {ctx : RiskContext} {call : TradeCall}
    (clock : Clock) {gate : String × Checks.Check PyError String}
    (asked : gate ∈ askedGates ctx call) (traced : tracingEnabled (modules gate.1) = true)
    {reason : Option String} (answered : gate.2 = .ok reason) :
    reasonOn gate.1 (evaluateStatelessTraced modules ctx call clock).effects = reason := by
  have differs := askedGates_not_root asked
  have own : latest (attributeOn gate.1 "reason_code")
      ((askedGates ctx call).flatMap fun gate => gateCalls modules gate.1 gate.2) =
      latest (attributeOn gate.1 "reason_code") (gateCalls modules gate.1 gate.2) :=
    latest_flatMap asked fun other asked' apart => (gateCalls_elsewhere modules
      (fun same => apart (askedGates_unique asked asked' same)) other.2 "reason_code").1
  have verdict : ∀ outcome,
      latest (attributeOn gate.1 "reason_code") (verdictCalls outcome) = none := by
    intro outcome
    cases outcome with
    | error raised => rfl
    | ok decision => cases approved : decision.approved <;>
        simp [verdictCalls, approved, attributeOn, differs.symm]
  have inputs : latest (attributeOn gate.1 "reason_code") (inputCalls call) = none := by
    simp [inputCalls, attributeOn, differs.symm]
  have ends : ∀ calls : List (TracerCall PyError), latest (attributeOn gate.1 "reason_code")
      (if tracingEnabled (modules "evaluate_trade") then
        .start "evaluate_trade" :: (inputCalls call ++ calls ++
          verdictCalls (evaluateStateless ctx call clock) ++
            [.finish "evaluate_trade" (Run.raised (evaluateStateless ctx call clock))])
      else calls) = latest (attributeOn gate.1 "reason_code") calls := by
    intro calls
    split
    · simp [verdict, inputs, attributeOn]
    · rfl
  rw [evaluateStatelessTraced_eq, reasonOn]
  dsimp only
  rw [ends, own, answered, gateCalls, if_pos traced]
  cases reason <;> simp [gateMarks, attributeOn]

/-- Only the calls between the inputs and the verdict are about gates. -/
theorem readGate_within (calls : List (TracerCall PyError)) (modules : ProviderModules)
    (ctx : RiskContext) (call : TradeCall) (clock : Clock) :
    (evaluateStatelessTraced modules ctx call clock).effects.filterMap (readGate calls) =
      ((askedGates ctx call).flatMap fun gate =>
        gateCalls modules gate.1 gate.2).filterMap (readGate calls) := by
  have started : readGate calls (.start "evaluate_trade") = none := rfl
  have finished : ∀ raised, readGate calls (.finish "evaluate_trade" raised) = none := fun _ => rfl
  rw [evaluateStatelessTraced_eq]
  dsimp only
  split
  · simp [started, finished, readGate_inputs, readGate_verdict]
  · rfl

/-- The gate spans tell the answers of the gates that were asked and traced. -/
theorem readGates_evaluate (modules : ProviderModules) (ctx : RiskContext) (call : TradeCall)
    (clock : Clock) :
    readGates (evaluateStatelessTraced modules ctx call clock).effects =
      (askedGates ctx call).filter fun gate => tracingEnabled (modules gate.1) := by
  have own : ∀ gate ∈ askedGates ctx call,
      (gateCalls modules gate.1 gate.2).filterMap
        (readGate (evaluateStatelessTraced modules ctx call clock).effects) =
      if tracingEnabled (modules gate.1) then [gate] else [] := fun gate asked =>
    readGate_gateCalls _ modules (askedGates_not_root asked) fun traced _ answered =>
      reasonOn_gate modules clock asked traced answered
  have spans : ((askedGates ctx call).flatMap fun gate =>
        gateCalls modules gate.1 gate.2).filterMap
          (readGate (evaluateStatelessTraced modules ctx call clock).effects) =
      (askedGates ctx call).filter fun gate => tracingEnabled (modules gate.1) := by
    rw [List.filterMap_flatMap, List.flatMap_congr own]
    induction askedGates ctx call with
    | nil => rfl
    | cons gate rest ih =>
      rw [List.flatMap_cons, ih, List.filter_cons]
      split <;> rfl
  rw [← spans]
  exact readGate_within _ modules ctx call clock

/-- Tracing changes no outcome, and the outcome, raised or returned, can be read off the calls
exactly when the root span is traced. -/
theorem trace_tells_outcome (modules : ProviderModules) (ctx : RiskContext) (call : TradeCall)
    (clock : Clock) :
    let traced := evaluateStatelessTraced modules ctx call clock
    traced.outcome = evaluateStateless ctx call clock ∧
      readOutcome traced.effects =
        if tracingEnabled (modules "evaluate_trade") then some traced.outcome else none := by
  have outcome : (evaluateStatelessTraced modules ctx call clock).outcome =
      evaluateStateless ctx call clock := by
    rw [evaluateStatelessTraced_eq]
  refine ⟨outcome, ?_⟩
  rw [outcome]
  exact readOutcome_evaluate modules ctx call clock

/-- Every span that is started ends before the spans around it. The gate spans are those of the
traced gates that were asked, with the answer of each, and all of them but the last have passed. -/
theorem trace_tells_gates (modules : ProviderModules) (ctx : RiskContext) (call : TradeCall)
    (clock : Clock) :
    let calls := (evaluateStatelessTraced modules ctx call clock).effects
    Balanced TracerCall.role calls ∧
      readGates calls = (askedGates ctx call).filter (fun gate => tracingEnabled (modules gate.1)) ∧
      ∀ gate ∈ (readGates calls).dropLast, gate.2 = .ok none := by
  refine ⟨evaluateStatelessTraced_balanced modules ctx call clock,
    readGates_evaluate modules ctx call clock, ?_⟩
  rw [readGates_evaluate, askedGates]
  split
  · rcases upTo_cases (namedGates ctx call) with
      ⟨same, all⟩ | ⟨before, last, split, all, _⟩
    · rw [same]
      intro gate mem
      exact (passed_iff gate).mp (all gate (List.mem_filter.mp (List.dropLast_subset _ mem)).1)
    · rw [split, List.filter_append]
      intro gate mem
      refine (passed_iff gate).mp (all gate ?_)
      by_cases traced : tracingEnabled (modules last.1) = true
      · rw [List.filter_singleton, traced, cond_true, List.dropLast_concat] at mem
        exact (List.mem_filter.mp mem).1
      · rw [List.filter_singleton, Bool.eq_false_iff.mpr traced, cond_false,
          List.append_nil] at mem
        exact (List.mem_filter.mp (List.dropLast_subset _ mem)).1
  · simp

end Reading

section Example

attribute [local instance] FloatFormat.exact

-- The SDK is found from the second span on: the root is not traced, but both gates asked are.
example :
    let modules : ProviderModules := fun span =>
      if span = "evaluate_trade" then "opentelemetry.trace" else "opentelemetry.sdk.trace"
    let call := { TradeCall.plain 20 none with equity := 0 }
    readGates (evaluateStatelessTraced modules .default call ⟨0, 0⟩).effects =
      [("evaluate_expected_value", .ok none),
        ("evaluate_drawdown", .ok (some "ERR_ZERO_OR_NEGATIVE_EQUITY"))] := by
  decide +kernel

end Example

end VerdictRisk
