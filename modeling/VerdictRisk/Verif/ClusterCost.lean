import VerdictRisk.Python.Rounding
import VerdictRisk.Verif.SaferCall
import VerdictRisk.Verif.FailClosed
import VerdictRisk.Session

/-!
# The cost that the cluster cap sees

A trade's cost enters the chain twice: as the argument that the decision carries, and inside the
cluster context, which is all that the cap reads. Nothing compares the two. So an approval keeps
the trade within the cap unless the context quotes a cost that the cap admits where it would not
admit the cost of the call, and no other check stops the call.
-/

namespace VerdictRisk

open Python

section Cap

variable [FloatFormat]

/-- The cap refuses a positive cost: the ceiling is not positive, or the cluster would exceed it. -/
def CapRefuses (cluster : ClusterCapContext) (cost : PyFloat) : Prop :=
  cluster.maxClusterUsd.le 0 = true ∨
    cluster.maxClusterUsd.lt (cluster.clusterOpenUsd.add cost) = true

/-- The context quotes a cost that is free or admitted where the cap would refuse this positive
one. -/
structure Underquoted (cluster : ClusterCapContext) (cost : PyFloat) : Prop where
  positive : (0 : PyFloat).lt cost = true
  admitted : cluster.proposedCost.le 0 = true ∨ ¬ CapRefuses cluster cluster.proposedCost
  refused : CapRefuses cluster cost

omit [FloatFormat] in
/-- Of two floats that are not NaN, one is at most the other exactly when it is not above it. -/
theorem le_iff_not_lt {left right : PyFloat} (number : left.isNan = false)
    (number' : right.isNan = false) : left.le right = true ↔ ¬ right.lt left = true := by
  by_cases finite : left.isFinite = true ∧ right.isFinite = true
  · rw [PyFloat.le_iff finite.1 finite.2, PyFloat.lt_iff finite.2 finite.1, not_lt]
  · cases left <;> cases right <;>
      simp_all [PyFloat.isFinite, PyFloat.isNan, PyFloat.le, PyFloat.lt, PyFloat.eq]

/-- A context that quotes the cost of the call does not underquote it. -/
theorem not_underquoted_of_quoted {cluster : ClusterCapContext} {cost : PyFloat}
    (number : cost.isNan = false) (quoted : cluster.proposedCost = cost) :
    ¬ Underquoted cluster cost := by
  intro underquoted
  have admitted := underquoted.admitted
  rw [quoted] at admitted
  rcases admitted with free | admitted
  · exact (le_iff_not_lt number rfl).mp free underquoted.positive
  · exact admitted underquoted.refused

/-- The pure gates and the latency budget pass. -/
def OthersPass (ctx : RiskContext) (call : TradeCall) (clock : Clock) : Prop :=
  (∀ check ∈ gateChecks ctx call, check = .ok none) ∧ latencyRejection ctx clock = .ok none

/-- The decision carries the cost of the call, the ceiling is positive, and the cluster with this
cost stays within it. -/
structure WithinCap (cluster : ClusterCapContext) (call : TradeCall) (decision : RiskDecision) :
    Prop where
  size : decision.suggestedSize.val = call.proposedCost
  positive : (0 : PyFloat).lt cluster.maxClusterUsd = true
  within : (cluster.clusterOpenUsd.add decision.suggestedSize.val).le cluster.maxClusterUsd = true

/-- Where rounding gives a number, the sum of two finite floats is one. -/
theorem add_isNan (rounds : ∀ q, (FloatFormat.round q).isNan = false) {left right : PyFloat}
    (finite : left.isFinite = true) (finite' : right.isFinite = true) :
    (left.add right).isNan = false := by
  cases left <;> cases right <;> first | contradiction | exact rounds _ | rfl

/-- An approval of this call keeps the cluster within its cap exactly when the cap does not refuse
the cost of the call. -/
theorem withinCap_iff (rounds : ∀ q, (FloatFormat.round q).isNan = false)
    {cluster : ClusterCapContext} {call : TradeCall} {decision : RiskDecision}
    (finite : FiniteCall call) (given : call.clusterCapCtx = some cluster)
    (size : decision.suggestedSize.val = call.proposedCost) :
    WithinCap cluster call decision ↔ ¬ CapRefuses cluster call.proposedCost := by
  obtain ⟨openFinite, _, capFinite⟩ := finite.cluster cluster given
  have ceiling : cluster.maxClusterUsd.isNan = false := PyFloat.isNan_of_finite capFinite
  have total := add_isNan rounds openFinite finite.proposedCost
  have positive := le_iff_not_lt ceiling (rfl : (0 : PyFloat).isNan = false)
  have within := le_iff_not_lt total ceiling
  rw [CapRefuses, not_or, positive, not_not, ← within]
  constructor
  · rintro ⟨_, positive, within⟩
    rw [size] at within
    exact ⟨positive, within⟩
  · rintro ⟨positive, within⟩
    rw [← size] at within
    exact ⟨size, positive, within⟩

/-- The chain approves a finite call of a known cluster exactly when the other checks pass and the
cluster's own cost is free or not refused. -/
theorem chain_approves_iff (ctx : RiskContext) {call : TradeCall} (clock : Clock)
    {cluster : ClusterCapContext} (finite : FiniteCall call)
    (given : call.clusterCapCtx = some cluster) (known : cluster.clusterId ≠ "unknown") :
    (∃ decision, evaluateStateless ctx call clock = .ok decision ∧ decision.approved = true) ↔
      OthersPass ctx call clock ∧
        (cluster.proposedCost.le 0 = true ∨ ¬ CapRefuses cluster cluster.proposedCost) := by
  have quoted := (finite.cluster cluster given).2.1
  have cap : clusterCheck (some cluster) = .ok none ↔
      cluster.proposedCost.le 0 = true ∨ ¬ CapRefuses cluster cluster.proposedCost := by
    rw [clusterCap_passes_iff, CapRefuses, not_or, Bool.not_eq_true, Bool.not_eq_true]
    simp only [quoted, known, true_and, false_or]
  rw [evaluateStateless_approves_iff, chain_passes_iff, given, cap, OthersPass]
  simp only [finite.proposedCost, true_and]
  tauto

/-- A decision that the chain returns carries the cost of the call. -/
theorem chain_size {ctx : RiskContext} {call : TradeCall} {clock : Clock}
    {decision : RiskDecision} (returned : evaluateStateless ctx call clock = .ok decision) :
    decision.suggestedSize.val = call.proposedCost := by
  obtain ⟨_, verdict, _, rfl⟩ := evaluateStateless_ok returned
  cases verdict <;> rfl

/-- The approvals of a positive cost by the chain keep the cluster within its cap exactly when the
other checks do not let an underquoted cost through. -/
theorem chain_within_iff (rounds : ∀ q, (FloatFormat.round q).isNan = false) (ctx : RiskContext)
    {call : TradeCall} (clock : Clock) {cluster : ClusterCapContext} (finite : FiniteCall call)
    (given : call.clusterCapCtx = some cluster) (known : cluster.clusterId ≠ "unknown") :
    (∀ decision, evaluateStateless ctx call clock = .ok decision →
        (0 : PyFloat).lt call.proposedCost = true → decision.approved = true →
        WithinCap cluster call decision) ↔
      ¬ (OthersPass ctx call clock ∧ Underquoted cluster call.proposedCost) := by
  have approves := chain_approves_iff ctx clock finite given known
  constructor
  · rintro keeps ⟨others, positive, admitted, refused⟩
    obtain ⟨decision, returned, approved⟩ := approves.mpr ⟨others, admitted⟩
    have within := keeps decision returned positive approved
    exact (withinCap_iff rounds finite given (chain_size returned)).mp within refused
  · intro quoted decision returned positive approved
    obtain ⟨others, admitted⟩ := approves.mp ⟨decision, returned, approved⟩
    rw [withinCap_iff rounds finite given (chain_size returned)]
    intro refused
    exact quoted ⟨others, positive, admitted, refused⟩

/-- No stateful gate stops an evaluation at this time. -/
structure RiskAuthority.Clear (authority : RiskAuthority) (now : Option DateTime) : Prop where
  killSwitch : authority.SwitchClear
  timedBreaker : ∀ breaker, authority.timedBreaker = some breaker →
    breaker.rejection now = .ok none
  consecutiveLossGate : authority.LossGateClear

/-- An authority whose stateful gates are clear decides as the chain, and another approves
nothing. -/
theorem RiskAuthority.evaluateWithState_clear_or (authority : RiskAuthority) (ctx : RiskContext)
    (call : TradeCall) (clock : Clock) (finite : call.proposedCost.isFinite = true) :
    (authority.Clear call.currentTime ∧ (authority.evaluateWithState ctx call clock).outcome =
      evaluateStateless ctx call clock) ∨
    (¬ authority.Clear call.currentTime ∧ ∀ decision,
      (authority.evaluateWithState ctx call clock).outcome = .ok decision →
        decision.approved = false) := by
  have built : RiskDecision.new true "OK" call.proposedCost = .ok ⟨true, "OK", _, finite⟩ :=
    dif_pos finite
  rcases authority.evaluateWithState_cases ctx call clock built with ⟨switch, present, up, done⟩ |
    ⟨_, breaker, raised, present, _, _, failed, done⟩ |
    ⟨_, breaker, reason, present, _, _, rejects, done⟩ |
    ⟨switches, onward, _, silent, ⟨gate, reason, present, rejects, done⟩ | ⟨gates, done⟩⟩
  · right
    refine ⟨?_, ?_⟩
    · intro clear
      have down := clear.killSwitch switch present
      rw [up] at down
      contradiction
    · intro decision returned
      rw [done] at returned
      cases returned
      rfl
  · right
    refine ⟨?_, ?_⟩
    · intro clear
      have passed := clear.timedBreaker breaker present
      rw [failed] at passed
      contradiction
    · intro decision returned
      rw [done] at returned
      contradiction
  · right
    refine ⟨?_, ?_⟩
    · intro clear
      have passed := clear.timedBreaker breaker present
      rw [rejects] at passed
      cases passed
    · intro decision returned
      rw [done] at returned
      cases returned
      rfl
  · right
    refine ⟨?_, ?_⟩
    · intro clear
      have passed := clear.consecutiveLossGate gate present
      rw [rejects] at passed
      contradiction
    · intro decision returned
      rw [done] at returned
      cases returned
      rfl
  · left
    refine ⟨⟨switches, silent, gates⟩, ?_⟩
    rw [done]

/-- For a finite call on a known cluster, approvals of a positive cost by either entry point keep
the cluster within its cap exactly when the other gates it asks do not let an underquoted cost
through. -/
theorem cap_enforced_iff (rounds : ∀ q, (FloatFormat.round q).isNan = false) (ctx : RiskContext)
    (call : TradeCall) (clock : Clock) (cluster : ClusterCapContext) (finite : FiniteCall call)
    (given : call.clusterCapCtx = some cluster) (known : cluster.clusterId ≠ "unknown") :
    ((∀ decision, evaluateTrade ctx call clock = .ok decision →
        (0 : PyFloat).lt call.proposedCost = true → decision.approved = true →
        WithinCap cluster call decision) ↔
      ¬ (OthersPass ctx call clock ∧ Underquoted cluster call.proposedCost)) ∧
    ∀ authority : RiskAuthority,
      (∀ decision, (authority.evaluateWithState ctx call clock).outcome = .ok decision →
        (0 : PyFloat).lt call.proposedCost = true → decision.approved = true →
        WithinCap cluster call decision) ↔
      ¬ (authority.Clear call.currentTime ∧ OthersPass ctx call clock ∧
        Underquoted cluster call.proposedCost) := by
  have chain := chain_within_iff rounds ctx clock finite given known
  refine ⟨chain, ?_⟩
  intro authority
  rcases authority.evaluateWithState_clear_or ctx call clock finite.proposedCost with
    ⟨clear, same⟩ | ⟨blocked, rejects⟩
  · rw [same, chain]
    simp only [clear, true_and]
  · refine iff_of_true ?_ ?_
    · intro decision returned _ approved
      rw [rejects decision returned] at approved
      contradiction
    · exact fun let_through => blocked let_through.1

end Cap

section Examples

attribute [local instance] FloatFormat.exact

/-- A trade of a given cost, quoted at another, on a cluster with 50 open and a ceiling of 100. -/
def clusterCall (cost quoted : ℕ) : TradeCall :=
  { TradeCall.plain (.finite cost) none with
    clusterCapCtx := some ⟨"BTC", 50, .finite quoted, 100⟩ }

/-- Every number of such a call is finite. -/
theorem clusterCall_finite (cost quoted : ℕ) : FiniteCall (clusterCall cost quoted) := by
  refine ⟨rfl, rfl, rfl, rfl, by simp [clusterCall, TradeCall.plain],
    by simp [clusterCall, TradeCall.plain], ?_⟩
  intro cluster given
  cases given
  exact ⟨rfl, rfl, rfl⟩

/-- A trade that is quoted at its own cost is approved within the cap. -/
theorem quoted_trade_within_cap : ∃ decision,
    evaluateTrade .default (clusterCall 10 10) ⟨0, 0⟩ = .ok decision ∧
      decision.approved = true ∧ WithinCap ⟨"BTC", 50, 10, 100⟩ (clusterCall 10 10) decision := by
  have enforced := (cap_enforced_iff (fun _ => rfl) .default (clusterCall 10 10) ⟨0, 0⟩
    ⟨"BTC", 50, 10, 100⟩ (clusterCall_finite 10 10) rfl (by decide)).1
  have quoted : ¬ Underquoted ⟨"BTC", 50, 10, 100⟩ (clusterCall 10 10).proposedCost :=
    not_underquoted_of_quoted rfl rfl
  have keeps := enforced.mpr fun through => quoted through.2
  have returned : evaluateTrade .default (clusterCall 10 10) ⟨0, 0⟩ =
      .ok ⟨true, "OK", ⟨.finite (10 : ℕ), rfl⟩⟩ := by decide +kernel
  exact ⟨_, returned, rfl, keeps _ returned (by decide +kernel) rfl⟩

/-- A trade of 1000 that is quoted at 1 is approved far above the cap. -/
theorem underquoted_trade_approved : FiniteCall (clusterCall 1000 1) ∧
    (0 : PyFloat).lt (clusterCall 1000 1).proposedCost = true ∧ ∃ decision,
      evaluateTrade .default (clusterCall 1000 1) ⟨0, 0⟩ = .ok decision ∧
        decision.approved = true ∧
        ¬ WithinCap ⟨"BTC", 50, 1, 100⟩ (clusterCall 1000 1) decision := by
  refine ⟨clusterCall_finite 1000 1, by decide +kernel, ⟨true, "OK", ⟨.finite (1000 : ℕ), rfl⟩⟩,
    by decide +kernel, rfl, ?_⟩
  intro within
  have below := within.within
  have above : ((50 : PyFloat).add (.finite (1000 : ℕ))).le 100 = false := by decide +kernel
  rw [above] at below
  contradiction

end Examples

end VerdictRisk
