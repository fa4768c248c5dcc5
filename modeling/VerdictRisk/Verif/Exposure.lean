import VerdictRisk.Verif.ExactGates
import VerdictRisk.Library.Runs

/-!
# Portfolio exposure

The caller keeps the book. To open a trade it evaluates it against the current book, with the
cluster total it has summed itself, and on approval enters an unresolved position; to close
one it marks the position resolved. Each evaluation sees a single trade, yet along every such
run every family and every known cluster stays under its cap: the book is a ledger, and an
approval admits the new entry to each of its accounts.
-/

namespace VerdictRisk

open Python

attribute [local instance] FloatFormat.exact

/-- An entry of the caller's book: a position and the cluster it was mapped to. -/
structure Holding where
  position : Position
  clusterId : String
deriving DecidableEq

/-- The unresolved cost of the holdings that belong to some group. -/
def unresolvedCost (belongs : Holding → Bool) (book : List Holding) : ℚ :=
  ((book.filter fun holding => !holding.position.isResolved && belongs holding).map
    fun holding => holding.position.costBasis.value).sum

/-- The unresolved cost of a family. -/
def familyCost (family : String) : List Holding → ℚ :=
  unresolvedCost fun holding => holding.position.family == family

/-- The unresolved cost of a cluster, which the caller supplies as `cluster_open_usd`. -/
def clusterCost (clusterId : String) : List Holding → ℚ :=
  unresolvedCost fun holding => holding.clusterId == clusterId

/-- A trade the caller wants to open, with the arguments of the call that do not come from the
book. -/
structure OpenOrder where
  ticker : String
  family : String
  clusterId : String
  proposedCost : ℚ
  currentValue : PyNum
  dailyRealizedPnl : PyFloat
  equity : PyFloat
  expectedValue : PyFloat
  tradeOutcomes : Option (List TradeOutcome)
  currentTime : Option DateTime
  clock : Clock
  /-- The proposed cost is positive. -/
  positive : 0 < proposedCost

/-- The operations of the caller. -/
inductive BookOp where
  | openTrade (order : OpenOrder)
  | closeTrade (index : ℕ)

/-- The arguments of `evaluate_trade` for an order against the current book. -/
def OpenOrder.call (order : OpenOrder) (caps : String → FiniteFloat) (book : List Holding) :
    TradeCall where
  dailyRealizedPnl := order.dailyRealizedPnl
  equity := order.equity
  targetFamily := order.family
  proposedCost := .finite order.proposedCost
  openPositions := book.map Holding.position
  expectedValue := order.expectedValue
  tradeOutcomes := order.tradeOutcomes
  currentTime := order.currentTime
  clusterCapCtx := some
    { clusterId := order.clusterId
      clusterOpenUsd := .finite (clusterCost order.clusterId book)
      proposedCost := .finite order.proposedCost
      maxClusterUsd := (caps order.clusterId).val }

/-- The holding an approved order enters. -/
def OpenOrder.holding (order : OpenOrder) : Holding where
  position := ⟨order.ticker, order.family, .float (.finite order.proposedCost),
    order.currentValue, false⟩
  clusterId := order.clusterId

/-- Mark a holding resolved. -/
def Holding.resolve (holding : Holding) : Holding :=
  { holding with position := { holding.position with isResolved := true } }

/-- One operation of the caller under a fixed policy and fixed cluster caps. -/
def bookStep (ctx : RiskContext) (caps : String → FiniteFloat) (book : List Holding) :
    BookOp → Option (Except PyError RiskDecision) × List Holding
  | .openTrade order =>
    let outcome := evaluateTrade ctx (order.call caps book) order.clock
    match outcome with
    | .ok decision =>
      (some outcome, if decision.approved then book ++ [order.holding] else book)
    | .error _ => (some outcome, book)
  | .closeTrade index => (none, book.modify index Holding.resolve)

/-- The caller as a machine. -/
def caller (ctx : RiskContext) (caps : String → FiniteFloat) :
    Runs.Machine (List Holding) BookOp (Option (Except PyError RiskDecision)) :=
  ⟨bookStep ctx caps⟩

/-- What is capped: a family, or a cluster that is known. -/
inductive Account where
  | family (name : String)
  | cluster (clusterId : String)

/-- The book as a ledger over families and known clusters. -/
def bookLedger : Ledgers.Ledger Holding Account ℚ where
  closed holding := holding.position.isResolved
  close := Holding.resolve
  booked holding
    | .family name => holding.position.family == name
    | .cluster clusterId => holding.clusterId == clusterId && clusterId != "unknown"
  amount holding := holding.position.costBasis.value
  closed_close _ := rfl
  amount_close _ := rfl

/-- The caps of the accounts. -/
def accountLimit (ctx : RiskContext) (caps : String → FiniteFloat) : Account → ℚ
  | .family _ => ctx.maxCorrelatedExposure.val.value
  | .cluster clusterId => (caps clusterId).val.value

/-- The exposure of an account is the unresolved cost booked to it. -/
theorem exposure_eq (account : Account) (book : List Holding) :
    bookLedger.exposure account book =
      unresolvedCost (fun holding => bookLedger.booked holding account) book := by
  induction book with
  | nil => rfl
  | cons holding rest ih =>
    rw [Ledgers.Ledger.exposure_cons, ih, unresolvedCost, unresolvedCost, List.filter_cons]
    unfold Ledgers.Ledger.weight
    cases counted : (!bookLedger.closed holding && bookLedger.booked holding account) with
    | true =>
      have taken : (!holding.position.isResolved && bookLedger.booked holding account) = true :=
        counted
      rw [if_pos rfl, if_pos taken, List.map_cons, List.sum_cons]
      rfl
    | false =>
      have skipped : ¬ (!holding.position.isResolved && bookLedger.booked holding account) = true :=
        Bool.eq_false_iff.mp counted
      rw [if_neg Bool.false_ne_true, if_neg skipped, zero_add]

/-- A known cluster is an account of its own. -/
theorem cluster_exposure {clusterId : String} (known : clusterId ≠ "unknown")
    (book : List Holding) :
    bookLedger.exposure (.cluster clusterId) book = clusterCost clusterId book := by
  have booked : (fun holding => bookLedger.booked holding (.cluster clusterId)) =
      fun holding => holding.clusterId == clusterId := by
    funext holding
    simp [bookLedger, known]
  rw [exposure_eq, booked, clusterCost]

/-- The positions the gate is handed carry the exposure of the book. -/
theorem family_exposure (family : String) (book : List Holding) :
    positionLedger.exposure family (book.map Holding.position) =
      bookLedger.exposure (.family family) book := by
  induction book with
  | nil => rfl
  | cons holding rest ih =>
    rw [List.map_cons, Ledgers.Ledger.exposure_cons, Ledgers.Ledger.exposure_cons, ih]
    rfl

/-- What holds of the book along every run. -/
structure SoundBook (ctx : RiskContext) (caps : String → FiniteFloat) (book : List Holding) :
    Prop where
  within : bookLedger.Within (accountLimit ctx caps) book
  finite : ∀ holding ∈ book, holding.position.costBasis.exact.isFinite = true

variable {ctx : RiskContext} {caps : String → FiniteFloat} {book : List Holding}

/-- An approval admits the order to the accounts of its family and of its cluster. -/
theorem approved_admitted (sound : SoundBook ctx caps book) {order : OpenOrder}
    {decision : RiskDecision}
    (returned : evaluateTrade ctx (order.call caps book) order.clock = .ok decision)
    (approved : decision.approved = true) :
    bookLedger.Admitted (accountLimit ctx caps) book order.holding := by
  obtain ⟨_, passes⟩ := (evaluateStateless_approves_iff _ _ _).mp ⟨decision, returned, approved⟩
  rw [Checks.first_passes_iff] at passes
  have concentration : concentrationRejection ctx order.family (.finite order.proposedCost)
      (book.map Holding.position) = none := by
    have gate := passes (.ok (concentrationRejection ctx order.family
      (.finite order.proposedCost) (book.map Holding.position)))
      (by simp [chainChecks, gateChecks, OpenOrder.call])
    rwa [Except.ok.injEq] at gate
  have known : ∀ pos ∈ book.map Holding.position, counts order.family pos →
      pos.costBasis.exact.isFinite = true := by
    intro pos member _
    obtain ⟨holding, held, rfl⟩ := List.mem_map.mp member
    exact sound.finite holding held
  rw [concentration_exact rfl known, family_exposure] at concentration
  have cluster := passes (clusterCheck (order.call caps book).clusterCapCtx)
    (by simp [chainChecks])
  have capped := (clusterCap_exact rfl rfl (caps order.clusterId).property).mp cluster
  intro account booked
  cases account with
  | family name =>
    have same : order.family = name := by simpa [bookLedger, OpenOrder.holding] using booked
    rw [← same]
    exact concentration
  | cluster clusterId =>
    have booked : order.clusterId = clusterId ∧ clusterId ≠ "unknown" := by
      simpa [bookLedger, OpenOrder.holding] using booked
    obtain ⟨rfl, named⟩ := booked
    rw [cluster_exposure named]
    rcases capped with unknown | free | ⟨_, fits⟩
    · exact absurd unknown named
    · exact absurd free (not_le.mpr order.positive)
    · exact fits

/-- Every operation keeps the book sound. -/
theorem bookStep_sound (sound : SoundBook ctx caps book) (op : BookOp) :
    SoundBook ctx caps ((caller ctx caps).next book op) := by
  cases op with
  | openTrade order =>
    change SoundBook ctx caps (bookStep ctx caps book (.openTrade order)).2
    unfold bookStep
    dsimp only
    cases returned : evaluateTrade ctx (order.call caps book) order.clock with
    | error raised => exact sound
    | ok decision =>
      dsimp only
      cases approved : decision.approved with
      | false => exact sound
      | true =>
        rw [if_pos rfl]
        have admitted := approved_admitted sound returned approved
        constructor
        · exact bookLedger.within_open sound.within order.positive.le rfl admitted
        · intro holding member
          rcases List.mem_append.mp member with held | fresh
          · exact sound.finite holding held
          · rw [List.mem_singleton.mp fresh]
            rfl
  | closeTrade index =>
    constructor
    · exact bookLedger.within_close sound.within index
    · intro holding member
      rcases bookLedger.mem_modify member with held | ⟨old, held, rfl⟩
      · exact sound.finite holding held
      · exact sound.finite old held

/-- In every book the caller can reach, the unresolved cost of each family with an unresolved
position is within the exposure limit, and that of each known cluster with one is within the
cap of the cluster. -/
theorem exposure_within_caps (ctx : RiskContext) (caps : String → FiniteFloat)
    (run : List BookOp) :
    let book := (caller ctx caps).after [] run
    (∀ family, (∃ holding ∈ book, holding.position.isResolved = false ∧
        holding.position.family = family) →
      familyCost family book ≤ ctx.maxCorrelatedExposure.val.value) ∧
    (∀ clusterId, clusterId ≠ "unknown" → (∃ holding ∈ book,
        holding.position.isResolved = false ∧ holding.clusterId = clusterId) →
      clusterCost clusterId book ≤ (caps clusterId).val.value) := by
  intro book
  have empty : SoundBook ctx caps [] :=
    ⟨bookLedger.within_nil, fun _ member => absurd member List.not_mem_nil⟩
  have sound : SoundBook ctx caps book :=
    (caller ctx caps).after_invariant empty (fun _ op held => bookStep_sound held op) run
  constructor
  · rintro family ⟨holding, member, unresolved, same⟩
    have bounded := sound.within.bounded (.family family)
      ⟨holding, member, unresolved, beq_iff_eq.mpr same⟩
    rw [exposure_eq] at bounded
    exact bounded
  · rintro clusterId known ⟨holding, member, unresolved, same⟩
    have booked : bookLedger.booked holding (.cluster clusterId) = true := by
      simp [bookLedger, same, known]
    have bounded := sound.within.bounded (.cluster clusterId) ⟨holding, member, unresolved, booked⟩
    rw [cluster_exposure known] at bounded
    exact bounded

end VerdictRisk
