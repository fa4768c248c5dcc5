import VerdictRisk.Verif.Loader
import VerdictRisk.Verif.Chain

/-!
# Loaded configurations

What the consumers of a loaded configuration check again: the constructor of `RiskContext`, the
gates, the Kelly fraction and the cluster cap. A range check that NaN or an infinity passes lets a
value through that a consumer refuses, so a loaded configuration is accepted exactly when the four
fields whose range does not bound them are finite.
-/

namespace VerdictRisk

open Python Validation

/-- Texts whose letters differ at some place are different, whatever follows the first. -/
theorem append_ne_of_letter {head code : String} (place : ℕ) (inside : place < head.toList.length)
    (differ : head.toList[place]? ≠ code.toList[place]?) (text : String) : head ++ text ≠ code := by
  intro same
  have letters := congrArg (fun text => (String.toList text)[place]?) same
  simp only [String.toList_append] at letters
  rw [List.getElem?_append_left inside] at letters
  exact differ letters

section Gates

variable [FloatFormat]

/-- No gate rejects because of the context: for finite arguments none answers its code for invalid
numbers, and the loss gate never answers its code for an invalid context. -/
structure ContextAccepted (ctx : RiskContext) : Prop where
  drawdown : ∀ pnl equity : PyFloat, pnl.isFinite = true → equity.isFinite = true →
    drawdownRejection ctx pnl equity ≠ some "ERR_INVALID_FLOAT_DRAWDOWN"
  concentration : ∀ (family : String) (cost : PyFloat) (positions : List Position),
    cost.isFinite = true → (∀ pos ∈ positions, pos.costBasis.exact.isFinite = true) →
      concentrationRejection ctx family cost positions ≠ some "ERR_INVALID_FLOAT_CONCENTRATION"
  expectedValue : ∀ expected : PyFloat, expected.isFinite = true →
    expectedValueRejection ctx expected ≠ some "ERR_INVALID_FLOAT_EXPECTED_VALUE"
  consecutiveLosses : ∀ outcomes now, consecutiveLossesRejection ctx outcomes now ≠
    .ok (some "ERR_INVALID_CONSECUTIVE_LOSS_CONTEXT")

omit [FloatFormat] in
/-- A limit of a context is neither NaN nor infinite. -/
theorem limit_accepted (limit : FiniteNum) : limit.val.isNan = false ∧ limit.val.isInf = false := by
  have finite := PyNum.isNan_or_isInf_of_finite limit.property
  rwa [Bool.or_eq_false_iff] at finite

omit [FloatFormat] in
/-- A finite float is neither NaN nor infinite. -/
theorem float_accepted {x : PyFloat} (finite : x.isFinite = true) :
    x.isNan = false ∧ x.isInf = false := by
  rw [PyFloat.isFinite_eq] at finite
  simpa using finite

/-- The drawdown gate does not object to a context. -/
theorem drawdown_accepted (ctx : RiskContext) {pnl equity : PyFloat}
    (pnlFinite : pnl.isFinite = true) (equityFinite : equity.isFinite = true) :
    drawdownRejection ctx pnl equity ≠ some "ERR_INVALID_FLOAT_DRAWDOWN" := by
  simp only [drawdownRejection, limit_accepted, float_accepted pnlFinite,
    float_accepted equityFinite, Bool.or_self, Bool.false_eq_true, if_false]
  split
  · simp
  · split
    · rw [Ne, Option.some.injEq]
      simp only [toString, String.append_assoc]
      exact append_ne_of_letter 4 (by decide) (by decide) _
    · simp

/-- The expected value gate does not object to a context. -/
theorem expectedValue_accepted (ctx : RiskContext) {expected : PyFloat}
    (finite : expected.isFinite = true) :
    expectedValueRejection ctx expected ≠ some "ERR_INVALID_FLOAT_EXPECTED_VALUE" := by
  simp only [expectedValueRejection, limit_accepted, float_accepted finite, Bool.or_self,
    Bool.false_eq_true, if_false]
  split
  · rw [Ne, Option.some.injEq]
    simp only [toString, String.append_assoc]
    exact append_ne_of_letter 4 (by decide) (by decide) _
  · simp

/-- The concentration gate does not object to a context. -/
theorem concentration_accepted (ctx : RiskContext) (family : String) {cost : PyFloat}
    {positions : List Position} (costFinite : cost.isFinite = true)
    (positionsFinite : ∀ pos ∈ positions, pos.costBasis.exact.isFinite = true) :
    concentrationRejection ctx family cost positions ≠
      some "ERR_INVALID_FLOAT_CONCENTRATION" := by
  obtain ⟨exposure, summed⟩ := (currentExposure_some_iff family 0 positions).mpr
    fun pos member _ => positionsFinite pos member
  simp only [concentrationRejection, limit_accepted, float_accepted costFinite, Bool.or_self,
    Bool.false_eq_true, if_false, summed]
  split
  · rw [Ne, Option.some.injEq]
    simp only [toString, String.append_assoc]
    exact append_ne_of_letter 4 (by decide) (by decide) _
  · simp

/-- A scan of the losses rejects for an invalid order of time or for too many losses. -/
theorem scanLosses_reason (ctx : RiskContext) (limitSeconds : PyFloat) (now : DateTime)
    (counted : ℕ) (outcomes : List TradeOutcome) {reason : String}
    (rejected : scanLosses ctx limitSeconds now counted outcomes = .ok (some reason)) :
    reason = "ERR_INVALID_TIME_ORDER" ∨
      ∃ text, reason = "ERR_CONSECUTIVE_LOSS_LIMIT: " ++ text := by
  induction outcomes generalizing counted with
  | nil => cases rejected
  | cons outcome rest ih =>
    unfold scanLosses at rejected
    split at rejected
    · split at rejected
      · contradiction
      · rename_i elapsed _
        simp only at rejected
        split at rejected
        · cases rejected
          exact .inl rfl
        · split at rejected
          · split at rejected
            · cases rejected
              simp only [toString, String.append_assoc]
              exact .inr ⟨_, rfl⟩
            · exact ih (counted + 1) rejected
          · cases rejected
    · cases rejected

/-- The loss gate does not object to a context whose limit and window are not negative. -/
theorem consecutiveLosses_accepted {ctx : RiskContext} (limit : 0 ≤ ctx.consecutiveLossLimit)
    (window : ctx.consecutiveLossWindowMinutes.val.exact.lt 0 = false)
    (outcomes : Option (List TradeOutcome)) (now : Option DateTime) :
    consecutiveLossesRejection ctx outcomes now ≠
      .ok (some "ERR_INVALID_CONSECUTIVE_LOSS_CONTEXT") := by
  intro rejected
  have answer := loss_answer ctx outcomes now
  rw [rejected] at answer
  cases answer with
  | invalid context =>
    cases context with
    | inl negative => exact absurd limit (not_le.mpr negative)
    | inr negative => exact Bool.false_ne_true (window.symm.trans negative)
  | history _ _ answered =>
    generalize given : (Except.ok (some "ERR_INVALID_CONSECUTIVE_LOSS_CONTEXT") :
      Except PyError (Option String)) = answer at answered
    cases answered with
    | mixed | infinite | foreign => simp at given
    | scanned =>
      cases scanLosses_reason ctx _ _ _ _ given.symm with
      | inl same => simp at same
      | inr same =>
        obtain ⟨text, same⟩ := same
        exact append_ne_of_letter 4 (by decide) (by decide) text same.symm

/-- No gate objects to a context whose loss limit and window are not negative. -/
theorem contextAccepted {ctx : RiskContext} (limit : 0 ≤ ctx.consecutiveLossLimit)
    (window : ctx.consecutiveLossWindowMinutes.val.exact.lt 0 = false) : ContextAccepted ctx where
  drawdown _ _ := drawdown_accepted ctx
  concentration family _ _ := concentration_accepted ctx family
  expectedValue _ := expectedValue_accepted ctx
  consecutiveLosses := consecutiveLosses_accepted limit window

end Gates

section Loaded

variable [FloatFormat]

omit [FloatFormat] in
/-- A number that passes the check of the unit interval is finite and in it. -/
theorem unitInterval_passed {x : PyFloat} (passed : RangeCheck.unitInterval.violation x = none) :
    x.isFinite = true ∧ (0 : PyFloat).lt x = true ∧ x.le 1 = true := by
  have between : (0 : PyFloat).lt x = true ∧ x.le 1 = true := by
    simpa [RangeCheck.violation] using passed
  refine ⟨?_, between⟩
  cases x with
  | finite | negZero => rfl
  | nan | posInf | negInf => exact absurd between (by decide)

omit [FloatFormat] in
/-- A finite number that passes the check for positive numbers is positive. -/
theorem positive_passed {x : PyFloat} (passed : RangeCheck.positive.violation x = none)
    (finite : x.isFinite = true) : (0 : PyFloat).lt x = true := by
  rw [positive_iff]
  constructor
  · simpa [RangeCheck.violation] using passed
  · rintro rfl
    contradiction

/-- A float is finite when its sixtieth is. -/
theorem finite_of_sixtieth {x : PyFloat} (finite : (x.div 60).isFinite = true) :
    x.isFinite = true := by
  cases x with
  | finite | negZero => rfl
  | nan | posInf | negInf => cases finite

/-- The sixtieth of a positive number is not negative. -/
theorem sixtieth_nonneg {x : PyFloat} (positive : (0 : PyFloat).lt x = true)
    (finite : x.isFinite = true) : (x.div 60).lt 0 = false := by
  rw [PyFloat.lt_iff rfl finite, PyFloat.value_ofNat, Nat.cast_zero] at positive
  cases x with
  | finite q =>
    have ordered : 0 ≤ q / 60 := div_nonneg (le_of_lt positive) (by norm_num)
    have rounded := FloatFormat.round_mono 0 (q / 60) ordered
    have sixty : (60 : PyFloat) = .finite 60 := congrArg PyFloat.finite (Nat.cast_ofNat)
    have zero : FloatFormat.round 0 = 0 := by
      simpa [PyFloat.zero_eq_finite] using FloatFormat.round_int 0 (by decide)
    rw [sixty, PyFloat.finite_div q 60 (ne_of_gt positive), ← zero]
    exact rounded
  | negZero | nan | posInf | negInf => exact absurd positive (by decide)

omit [FloatFormat] in
/-- The mapping at the top of a document; an empty one stands for any other document. -/
def topLevel : Yaml → Section
  | .dict entries => entries
  | _ => []

/-- Only a mapping, or nothing at all, is loaded. -/
theorem loaded_topLevel {path : String} {document : Yaml} {config : LoadedConfig}
    (loaded : loadRiskConfig path document = .ok config) :
    loadRiskConfig path (.dict (topLevel document)) = .ok config := by
  cases document with
  | dict entries => exact loaded
  | none => exact loaded
  | bool | int | float | str | list | object => cases loaded

/-- The engine takes a configuration: its values are finite, the context built from them is
constructed and no gate objects to it, and the Kelly fraction and the cluster cap are what their
consumers ask for. -/
structure EngineAccepts (config : LoadedConfig) : Prop where
  finite : ∀ entry ∈ config.values, entry.2.exact.isFinite = true
  context : ∃ ctx, RiskContext.ofConfig config.values = .ok ctx ∧ ContextAccepted ctx
  kelly : ∀ value, config.values.lookup "kelly_conservative_fraction" = some value →
    ∃ fraction, value = .float fraction ∧ (0 : PyFloat).lt fraction = true ∧ fraction.le 1 = true
  cluster : ∀ value, config.values.lookup "max_cluster_usd" = some value →
    ∃ cap, value = .float cap ∧ cap.isFinite = true ∧ (0 : PyFloat).lt cap = true ∧
      ∀ (cluster : String) (opened cost : PyFloat), cluster ≠ "unknown" →
        (0 : PyFloat).lt cost = true → cap.lt (opened.add cost) = true →
          ∃ decision, evaluateClusterCap ⟨cluster, opened, cost, cap⟩ = .ok decision ∧
            decision.approved = false

/-- The fields that the loader does not bound. -/
def unboundedFields : List (String × ConfigField) :=
  [("concentration", maxCorrelatedExposure), ("concentration", maxClusterUsd),
    ("expected_value", minExpectedValue), ("consecutive_losses", timeWindowSeconds)]

/-- The fields that the loader does not bound are finite where they are present. -/
def UnboundedFinite (document : Yaml) : Prop :=
  ∀ asked ∈ unboundedFields, ∀ raw x, fieldValue (topLevel document) asked = some raw →
    Yaml.asFloat raw = some x → x.isFinite = true

/-- The recognised fields in the order in which they are read. -/
theorem recognisedFields_eq : recognisedFields =
    [("drawdown", maxDailyDrawdownPct), ("concentration", maxCorrelatedExposure),
      ("concentration", maxClusterUsd), ("expected_value", minExpectedValue),
      ("consecutive_losses", maxConsecutiveLosses), ("consecutive_losses", timeWindowSeconds),
      ("kelly", conservativeFraction)] := rfl

/-- A known cluster's positive trade beyond a positive cap is rejected. -/
theorem capped_trade_rejected {cap cost : PyFloat} {cluster : String} {opened : PyFloat}
    (capPositive : (0 : PyFloat).lt cap = true) (known : cluster ≠ "unknown")
    (costPositive : (0 : PyFloat).lt cost = true) (exceeds : cap.lt (opened.add cost) = true) :
    ∃ decision, evaluateClusterCap ⟨cluster, opened, cost, cap⟩ = .ok decision ∧
      decision.approved = false := by
  have named : (cluster == "unknown") = false := by simpa using known
  have costAbove := ((positive_iff cost).mp costPositive).1
  have capAbove := ((positive_iff cap).mp capPositive).1
  simp only [evaluateClusterCap, named, costAbove, capAbove, exceeds, Bool.false_eq_true, if_false,
    if_true]
  exact ⟨_, RiskDecision.new_finite false _ ⟨0, rfl⟩, rfl⟩

section Values

variable {path : String} {data : Section} {config : LoadedConfig}

/-- A numeric field that was loaded denotes a float that passed its range check. -/
theorem loaded_number (loaded : loadRiskConfig path (.dict data) = .ok config)
    {asked : String × ConfigField} (member : asked ∈ recognisedFields) {range : RangeCheck}
    {store : PyFloat → PyFloat} (kind : asked.2.kind = .number range store) {value : PyNum}
    (found : config.values.lookup asked.2.outKey = some value) :
    ∃ raw x, fieldValue data asked = some raw ∧ Yaml.asFloat raw = some x ∧
      range.violation x = none ∧ value = .float (store x) := by
  obtain ⟨raw, present, read⟩ := (loaded_lookup_iff loaded member value).mp found
  obtain ⟨x, denoted, passed, stored⟩ := read_number kind read
  exact ⟨raw, x, present, denoted, passed, stored⟩

/-- A recognised field is a count, or a number of the unit interval, or not bounded. -/
theorem recognised_cases {asked : String × ConfigField} (member : asked ∈ recognisedFields) :
    asked.2.kind = .count ∨ asked.2.kind = .number .unitInterval id ∨ asked ∈ unboundedFields := by
  rw [recognisedFields_eq] at member
  simp only [List.mem_cons, List.not_mem_nil, or_false] at member
  unfold unboundedFields
  rcases member with rfl | rfl | rfl | rfl | rfl | rfl | rfl
  · exact .inr (.inl rfl)
  · exact .inr (.inr (by simp))
  · exact .inr (.inr (by simp))
  · exact .inr (.inr (by simp))
  · exact .inl rfl
  · exact .inr (.inr (by simp))
  · exact .inr (.inl rfl)

/-- A field that is not bounded is a number, stored as it is or in minutes. -/
theorem unbounded_number {asked : String × ConfigField} (member : asked ∈ unboundedFields) :
    ∃ range store, asked.2.kind = .number range store ∧ (store = id ∨ store = (·.div 60)) := by
  simp only [unboundedFields, List.mem_cons, List.not_mem_nil, or_false] at member
  rcases member with rfl | rfl | rfl | rfl
  · exact ⟨_, _, rfl, .inl rfl⟩
  · exact ⟨_, _, rfl, .inl rfl⟩
  · exact ⟨_, _, rfl, .inl rfl⟩
  · exact ⟨_, _, rfl, .inr rfl⟩

/-- A field that is not bounded is recognised. -/
theorem unbounded_recognised {asked : String × ConfigField} (member : asked ∈ unboundedFields) :
    asked ∈ recognisedFields := by
  rw [recognisedFields_eq]
  simp only [unboundedFields, List.mem_cons, List.not_mem_nil, or_false] at member ⊢
  tauto

/-- What is present and recognised was read. -/
theorem present_read (loaded : loadRiskConfig path (.dict data) = .ok config)
    {asked : String × ConfigField} (member : asked ∈ recognisedFields) {raw : Yaml}
    (present : fieldValue data asked = some raw) :
    ∃ value, asked.2.read path asked.1 raw = .ok value ∧
      (asked.2.outKey, value) ∈ config.values := by
  have item := (field_mem_loaderItems data asked raw).mpr ⟨member, present⟩
  obtain ⟨value, read⟩ := raised_eq_none_iff.mp (loaded_raises_none loaded item)
  have entry := (loaded_entry_iff loaded _ value).mpr ⟨asked, member, raw, present, read, rfl⟩
  exact ⟨value, read, entry⟩

/-- A field that is not bounded is stored finite only if it is finite. -/
theorem unbounded_finite_of_stored (loaded : loadRiskConfig path (.dict data) = .ok config)
    (stored : ∀ entry ∈ config.values, entry.2.exact.isFinite = true)
    {asked : String × ConfigField} (member : asked ∈ unboundedFields) {raw : Yaml} {x : PyFloat}
    (present : fieldValue data asked = some raw) (denoted : Yaml.asFloat raw = some x) :
    x.isFinite = true := by
  have recognised := unbounded_recognised member
  obtain ⟨value, read, entry⟩ := present_read loaded recognised present
  have finite : value.exact.isFinite = true := stored _ entry
  obtain ⟨range, store, kind, stores⟩ := unbounded_number member
  obtain ⟨x', denoted', _, same⟩ := read_number kind read
  rw [denoted, Option.some.injEq] at denoted'
  rw [same, ← denoted'] at finite
  cases stores with
  | inl plain =>
    rw [plain] at finite
    exact finite
  | inr window =>
    rw [window] at finite
    exact finite_of_sixtieth finite

/-- A key that no recognised field is stored under is not in the result. -/
theorem unknown_lookup (loaded : loadRiskConfig path (.dict data) = .ok config) {key : String}
    (unknown : key ∉ recognisedFields.map fun asked => asked.2.outKey) :
    config.values.lookup key = none := by
  rw [List.lookup_eq_none_iff]
  intro entry member
  obtain ⟨asked, recognised, _, _, _, same⟩ := (loaded_entry_iff loaded entry.1 entry.2).mp member
  rw [bne_iff_ne]
  rintro rfl
  exact unknown (List.mem_map.mpr ⟨asked, recognised, same.symm⟩)

omit [FloatFormat] in
/-- An argument is finite when its default is and when what is looked up is. -/
theorem argument_finite {values : List (String × PyNum)} {key : String} {default : PyNum}
    (defaultFinite : default.isFinite = true)
    (found : ∀ value, values.lookup key = some value → value.isFinite = true) :
    ((values.lookup key).getD default).isFinite = true := by
  cases lookup : values.lookup key with
  | none => exact defaultFinite
  | some value => exact found value lookup

/-- The loss limit is an `int` that is not negative. -/
theorem limit_argument (loaded : loadRiskConfig path (.dict data) = .ok config) :
    ∃ n : ℤ, 0 ≤ n ∧ (config.values.lookup "consecutive_loss_limit").getD (.int 0) = .int n := by
  have member : ("consecutive_losses", maxConsecutiveLosses) ∈ recognisedFields := by
    rw [recognisedFields_eq]
    simp
  cases lookup : config.values.lookup "consecutive_loss_limit" with
  | none => exact ⟨0, le_refl 0, rfl⟩
  | some value =>
    obtain ⟨raw, _, read⟩ := (loaded_lookup_iff loaded member value).mp lookup
    obtain ⟨n, _, natural, stored⟩ := read_count rfl read
    exact ⟨n, natural, stored⟩

/-- The Kelly fraction of a configuration is in the unit interval. -/
theorem kelly_accepted (loaded : loadRiskConfig path (.dict data) = .ok config) {value : PyNum}
    (found : config.values.lookup "kelly_conservative_fraction" = some value) :
    ∃ fraction, value = .float fraction ∧ (0 : PyFloat).lt fraction = true ∧
      fraction.le 1 = true := by
  have member : ("kelly", conservativeFraction) ∈ recognisedFields := by
    rw [recognisedFields_eq]
    simp
  obtain ⟨_, x, _, _, passed, stored⟩ := loaded_number loaded member rfl found
  exact ⟨x, stored, (unitInterval_passed passed).2⟩

section Bounded

variable (shrinks : ∀ x : PyFloat, x.isFinite = true → (x.div 60).isFinite = true)
variable (bounded : ∀ asked ∈ unboundedFields, ∀ raw x, fieldValue data asked = some raw →
  Yaml.asFloat raw = some x → x.isFinite = true)

include bounded

/-- The loss window does not compare as negative. -/
theorem window_argument (loaded : loadRiskConfig path (.dict data) = .ok config) :
    ((config.values.lookup "consecutive_loss_window_minutes").getD (.float 15)).exact.lt 0 =
      false := by
  have unbounded : ("consecutive_losses", timeWindowSeconds) ∈ unboundedFields := by
    simp [unboundedFields]
  have member := unbounded_recognised unbounded
  cases lookup : config.values.lookup "consecutive_loss_window_minutes" with
  | none => decide +kernel
  | some value =>
    obtain ⟨raw, x, present, denoted, passed, stored⟩ := loaded_number loaded member rfl lookup
    have finite := bounded _ unbounded raw x present denoted
    rw [stored]
    exact sixtieth_nonneg (positive_passed passed finite) finite

/-- The cluster cap of a configuration caps when it is finite. -/
theorem cluster_accepted (loaded : loadRiskConfig path (.dict data) = .ok config) {value : PyNum}
    (found : config.values.lookup "max_cluster_usd" = some value) :
    ∃ cap, value = .float cap ∧ cap.isFinite = true ∧ (0 : PyFloat).lt cap = true ∧
      ∀ (cluster : String) (opened cost : PyFloat), cluster ≠ "unknown" →
        (0 : PyFloat).lt cost = true → cap.lt (opened.add cost) = true →
          ∃ decision, evaluateClusterCap ⟨cluster, opened, cost, cap⟩ = .ok decision ∧
            decision.approved = false := by
  have unbounded : ("concentration", maxClusterUsd) ∈ unboundedFields := by
    simp [unboundedFields]
  obtain ⟨raw, x, present, denoted, passed, stored⟩ :=
    loaded_number loaded (unbounded_recognised unbounded) rfl found
  have finite := bounded _ unbounded raw x present denoted
  have positive := positive_passed passed finite
  exact ⟨x, stored, finite, positive, fun _ _ _ => capped_trade_rejected positive⟩

include shrinks

/-- A number is stored finite when the fields that are not bounded are finite. -/
theorem stored_finite {asked : String × ConfigField} (member : asked ∈ recognisedFields)
    {raw : Yaml} (present : fieldValue data asked = some raw) {value : PyNum}
    (read : asked.2.read path asked.1 raw = .ok value) :
    (∃ n, value = .int n) ∨ ∃ x, value = .float x ∧ x.isFinite = true := by
  rcases recognised_cases member with count | unit | unbounded
  · obtain ⟨n, _, _, stored⟩ := read_count count read
    exact .inl ⟨n, stored⟩
  · obtain ⟨x, _, passed, stored⟩ := read_number unit read
    exact .inr ⟨x, stored, (unitInterval_passed passed).1⟩
  · obtain ⟨range, store, kind, stores⟩ := unbounded_number unbounded
    obtain ⟨x, denoted, _, stored⟩ := read_number kind read
    have finite : x.isFinite = true := bounded asked unbounded raw x present denoted
    have kept : (store x).isFinite = true := by
      cases stores with
      | inl plain => rwa [plain]
      | inr window => rw [window]; exact shrinks x finite
    exact .inr ⟨store x, stored, kept⟩

/-- A number that is looked up is a finite float when the fields that are not bounded are. -/
theorem lookup_finite (loaded : loadRiskConfig path (.dict data) = .ok config)
    {asked : String × ConfigField} (member : asked ∈ recognisedFields) {range : RangeCheck}
    {store : PyFloat → PyFloat} (kind : asked.2.kind = .number range store) {value : PyNum}
    (found : config.values.lookup asked.2.outKey = some value) : value.isFinite = true := by
  obtain ⟨raw, present, read⟩ := (loaded_lookup_iff loaded member value).mp found
  obtain ⟨x, _, _, stored⟩ := read_number kind read
  rcases stored_finite shrinks bounded member present read with ⟨n, whole⟩ | ⟨y, float, finite⟩
  · rw [stored] at whole
    contradiction
  · rw [float]
    exact finite

/-- The argument that a numeric field is routed to is finite when its default is. -/
theorem argument_of_loaded (loaded : loadRiskConfig path (.dict data) = .ok config) :
    ∀ asked ∈ recognisedFields, asked.2.kind ≠ .count → ∀ default : PyNum,
      default.isFinite = true →
        ((config.values.lookup asked.2.outKey).getD default).isFinite = true := by
  intro asked member notCount default defaultFinite
  apply argument_finite defaultFinite
  intro value found
  cases kind : asked.2.kind with
  | count => exact absurd kind notCount
  | number range store => exact lookup_finite shrinks bounded loaded member kind found

/-- The context of a configuration is constructed, and no gate objects to it. -/
theorem ofConfig_accepted (loaded : loadRiskConfig path (.dict data) = .ok config) :
    ∃ ctx, RiskContext.ofConfig config.values = .ok ctx ∧ ContextAccepted ctx := by
  have number := argument_of_loaded shrinks bounded loaded
  rw [recognisedFields_eq] at number
  simp only [List.forall_mem_cons] at number
  obtain ⟨daily, exposure, _, expected, _, window, _⟩ := number
  have budget : config.values.lookup "latency_budget_us" = none :=
    unknown_lookup loaded (by rw [recognised_outKeys]; decide)
  have weekly : config.values.lookup "max_weekly_drawdown_pct" = none :=
    unknown_lookup loaded (by rw [recognised_outKeys]; decide)
  obtain ⟨limit, natural, limitGiven⟩ := limit_argument loaded
  let given := RiskContext.default
  let ctx : RiskContext :=
    { maxDailyDrawdownPct := ⟨_, daily nofun _ given.maxDailyDrawdownPct.property⟩
      maxWeeklyDrawdownPct := given.maxWeeklyDrawdownPct
      maxCorrelatedExposure := ⟨_, exposure nofun _ given.maxCorrelatedExposure.property⟩
      minExpectedValue := ⟨_, expected nofun _ given.minExpectedValue.property⟩
      latencyBudgetUs := given.latencyBudgetUs
      consecutiveLossLimit := limit
      consecutiveLossWindowMinutes :=
        ⟨_, window nofun _ given.consecutiveLossWindowMinutes.property⟩ }
  refine ⟨ctx, ?_, contextAccepted natural (window_argument bounded loaded)⟩
  have limitRead : requireInt ((config.values.lookup "consecutive_loss_limit").getD
      (.int given.consecutiveLossLimit)) "consecutive_loss_limit" = .ok limit :=
    congrArg (requireInt · "consecutive_loss_limit") limitGiven
  rw [RiskContext.ofConfig]
  simp only [budget, weekly, Option.getD_none, limitRead, given]
  exact RiskContext.new_ok.mpr ⟨rfl, rfl, rfl, rfl, rfl, rfl, rfl⟩

end Bounded

end Values

/-- The engine takes a loaded configuration exactly when the four fields that the loader does not
bound are finite where they are present. -/
theorem loaded_config_accepted_iff
    (shrinks : ∀ x : PyFloat, x.isFinite = true → (x.div 60).isFinite = true)
    {path : String} {document : Yaml} {config : LoadedConfig}
    (returned : loadRiskConfig path document = .ok config) :
    EngineAccepts config ↔ UnboundedFinite document := by
  have loaded := loaded_topLevel returned
  constructor
  · intro accepted asked member raw x present denoted
    exact unbounded_finite_of_stored loaded accepted.finite member present denoted
  · intro bounded
    constructor
    · intro entry member
      obtain ⟨asked, recognised, raw, present, read, _⟩ := (loaded_entry_iff loaded _ _).mp member
      rcases stored_finite shrinks bounded recognised present read with
        ⟨n, whole⟩ | ⟨x, float, finite⟩
      · rw [whole]
        rfl
      · rw [float]
        exact finite
    · exact ofConfig_accepted shrinks bounded loaded
    · intro value found
      exact kelly_accepted loaded found
    · intro value found
      exact cluster_accepted bounded loaded found

end Loaded

section Example

attribute [local instance] FloatFormat.exact

/-- A configuration with a limit of NaN for the cluster. -/
def nanClusterDocument : Yaml :=
  .dict [(.str "concentration", .dict [(.str "max_cluster_usd", .float .nan)])]

/-- A cluster cap of NaN is loaded, and it is not a finite positive cap. -/
theorem nan_cluster_cap_loaded :
    ¬ ∀ config, loadRiskConfig "/risk_config.yaml" nanClusterDocument = .ok config →
      EngineAccepts config := by
  intro accepted
  have loaded : loadRiskConfig "/risk_config.yaml" nanClusterDocument =
      .ok ⟨[("max_cluster_usd", .float .nan)], []⟩ := by
    rfl
  have finite := (accepted _ loaded).finite ("max_cluster_usd", .float .nan) (by simp)
  contradiction

/-- A configuration with a cap and a window. -/
def cappedDocument : Yaml :=
  .dict [(.str "concentration", .dict [(.str "max_cluster_usd", .float 20)]),
    (.str "consecutive_losses", .dict [(.str "max_consecutive_losses", .int 5),
      (.str "time_window_seconds", .float 3600)])]

/-- It is loaded and taken. -/
theorem capped_config_accepted : ∃ config,
    loadRiskConfig "/risk_config.yaml" cappedDocument = .ok config ∧ EngineAccepts config := by
  have loaded : loadRiskConfig "/risk_config.yaml" cappedDocument =
      .ok ⟨[("max_cluster_usd", .float 20), ("consecutive_loss_limit", .int 5),
        ("consecutive_loss_window_minutes", .float (PyFloat.div 3600 60))], []⟩ := by
    rfl
  refine ⟨_, loaded, ?_⟩
  apply (loaded_config_accepted_iff (fun x finite => (exact_div finite rfl).1) loaded).mpr
  intro asked member raw x present denoted
  simp only [unboundedFields, List.mem_cons, List.not_mem_nil, or_false] at member
  rcases member with rfl | rfl | rfl | rfl
  · cases present
  · cases present
    cases denoted
    rfl
  · cases present
  · cases present
    cases denoted
    rfl

end Example

end VerdictRisk
