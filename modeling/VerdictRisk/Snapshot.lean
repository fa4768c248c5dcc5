import VerdictRisk.Python.Slots
import VerdictRisk.DeskGates
import Mathlib.Data.List.Dedup

/-!
# Risk snapshots

`RiskState.to_json` and `RiskState.from_json`. Each record names the fields it is encoded with,
their defaults and the constructor that checks what was read; both directions, and what each
keeps, follow from that. A JSON text is identified with the value it denotes.
-/

namespace VerdictRisk

open Python Python.Fields

/-- Equal floats compare alike with zero. -/
theorem floatEq_le_zero {left right : PyFloat} (equal : left.eq right = true) :
    left.le 0 = right.le 0 := by
  have finite : ∀ x : PyFloat, x.isFinite = true → x.le 0 = decide (x.value ≤ 0) := by
    intro x finite
    rw [Bool.eq_iff_iff, decide_eq_true_iff, PyFloat.le_iff finite rfl, PyFloat.value_ofNat]
    norm_num
  by_cases both : left.isFinite = true ∧ right.isFinite = true
  · obtain ⟨leftFinite, rightFinite⟩ := both
    rw [finite left leftFinite, finite right rightFinite,
      (PyFloat.eq_iff leftFinite rightFinite).mp equal]
  · cases left <;> cases right <;> simp [PyFloat.eq, PyFloat.isFinite] at equal both ⊢

/-- A number read from JSON is a finite float. -/
theorem number_read_float [FloatFormat] {codec : Msgspec} {json : Json} {x : PyNum}
    (accepted : (Slot.number : Slot codec PyNum).read json = some x) :
    ∃ y : PyFloat, x = .float y ∧ y.isFinite = true := by
  cases json with
  | int n =>
    obtain ⟨finite, accepted⟩ := Option.ite_none_right_eq_some.mp accepted
    cases accepted
    exact ⟨_, rfl, finite⟩
  | float y =>
    cases accepted
    exact ⟨_, rfl, y.property⟩
  | _ => contradiction

/-- A number field with a finite default is read as a finite number. -/
theorem number_field_finite [FloatFormat] {codec : Msgspec} {fallback : FiniteNum}
    {entry : Option Json} {x : PyNum}
    (accepted : (Slot.number : Slot codec PyNum).readOr (some fallback.val) entry = some x) :
    x.isFinite = true := by
  cases entry with
  | some json =>
    obtain ⟨y, rfl, finite⟩ := number_read_float accepted
    exact finite
  | none =>
    cases accepted
    exact fallback.property

/-- Finite limits are accepted. -/
theorem RiskContext.new_finite {daily weekly exposure expected window : PyNum}
    (dailyFinite : daily.isFinite = true) (weeklyFinite : weekly.isFinite = true)
    (exposureFinite : exposure.isFinite = true) (expectedFinite : expected.isFinite = true)
    (budget limit : ℤ) (windowFinite : window.isFinite = true) :
    ∃ ctx, new daily weekly exposure expected budget limit window = .ok ctx := by
  let ctx : RiskContext := ⟨⟨daily, dailyFinite⟩, ⟨weekly, weeklyFinite⟩,
    ⟨exposure, exposureFinite⟩, ⟨expected, expectedFinite⟩, budget, limit, ⟨window, windowFinite⟩⟩
  exact ⟨ctx, new_ok.mpr ⟨rfl, rfl, rfl, rfl, rfl, rfl, rfl⟩⟩

/-- Parts equal to those of a snapshot are accepted. -/
theorem ConsecutiveLossGateState.new_stable (state : ConsecutiveLossGateState)
    {losses window : ℤ} {history : List Bool} (sameLosses : state.maxLosses = losses)
    (sameWindow : state.windowTrades = window)
    (sameLength : state.history.length = history.length) :
    ∃ back, new losses window history = .ok back := by
  have positive := state.maxLossesPos
  have fit := state.maxLossesFit
  have fits := state.historyFits
  unfold new
  rw [dif_neg (by omega), if_neg (by omega), dif_neg (by omega), dif_neg (by omega)]
  exact ⟨_, rfl⟩

/-- Parts equal to those of a snapshot are accepted. -/
theorem TimedCircuitBreakerState.new_stable (state : TimedCircuitBreakerState)
    {threshold streak : ℤ} {cooldown : PyNum}
    (sameThreshold : state.consecutiveLossThreshold = threshold)
    (sameCooldown : state.cooldownHours.eq cooldown = true) (sameStreak : state.lossStreak = streak)
    (tripped : Bool) (trippedAt : Option DateTime) :
    ∃ back, new threshold cooldown streak tripped trippedAt = .ok back := by
  have positive := state.thresholdPos
  have accepted := state.cooldownAccepted
  rw [floatEq_le_zero sameCooldown] at accepted
  unfold new
  rw [dif_neg (by omega), dif_neg (by simp [accepted]), if_neg (by omega)]
  exact ⟨_, rfl⟩

section Records

variable (codec : Msgspec)

/-- The fields of a `KillSwitchState`. -/
def KillSwitchState.fields :
    Fields codec ["tripped", "reason", "tripped_at"] KillSwitchState :=
  (field "tripped" (some KillSwitchState.default.tripped) .bool (by decide) <|
    field "reason" (some KillSwitchState.default.reason) .str (by decide) <|
    one "tripped_at" (some KillSwitchState.default.trippedAt) Slot.timestamp.orNull).build
  (fun (tripped, reason, trippedAt) => .ok ⟨tripped, reason, trippedAt⟩)
  (fun state => (state.tripped, state.reason, state.trippedAt))
  (by
    intro value state built
    cases built
    rfl)
  (fun _ _ _ _ _ => ⟨_, rfl⟩)

/-- A `KillSwitchState` as a JSON object. -/
def KillSwitchState.slot : Slot codec KillSwitchState := (fields codec).struct (by decide)

/-- The fields of a `ConsecutiveLossGateState`; the limits have no default. -/
def ConsecutiveLossGateState.fields :
    Fields codec ["max_losses", "window_trades", "history"] ConsecutiveLossGateState :=
  (field "max_losses" none .int (by decide) <|
    field "window_trades" none .int (by decide) <|
    one "history" (some []) (.tuple .bool)).build
  (fun (maxLosses, windowTrades, history) =>
    ConsecutiveLossGateState.new maxLosses windowTrades history)
  (fun state => (↑state.maxLosses, ↑state.windowTrades, state.history))
  (by
    intro value state built
    obtain ⟨losses, window, history⟩ := new_ok built
    rw [losses, window, history])
  (by
    rintro state entries ⟨losses, window, history⟩ _ equal
    obtain ⟨sameLosses, equal⟩ := field_eq_iff.mp equal
    obtain ⟨sameWindow, sameHistory⟩ := field_eq_iff.mp equal
    have length := (Bool.and_eq_true_iff.mp sameHistory).1
    exact new_stable state (beq_iff_eq.mp sameLosses) (beq_iff_eq.mp sameWindow)
      (of_decide_eq_true length))

/-- A `ConsecutiveLossGateState` as a JSON object. -/
def ConsecutiveLossGateState.slot : Slot codec ConsecutiveLossGateState :=
  (fields codec).struct (by decide)

variable [FloatFormat]

/-- The fields of a `TimedCircuitBreakerState`. -/
def TimedCircuitBreakerState.fields :
    Fields codec ["consecutive_loss_threshold", "cooldown_hours", "loss_streak", "tripped",
      "tripped_at"] TimedCircuitBreakerState :=
  (field "consecutive_loss_threshold" (some 3) .int (by decide) <|
    field "cooldown_hours" (some (.float 24)) .number (by decide) <|
    field "loss_streak" (some 0) .int (by decide) <|
    field "tripped" (some false) .bool (by decide) <|
    one "tripped_at" (some none) Slot.timestamp.orNull).build
  (fun (threshold, cooldown, streak, tripped, trippedAt) =>
    TimedCircuitBreakerState.new threshold cooldown streak tripped trippedAt)
  (fun state => (↑state.consecutiveLossThreshold, state.cooldownHours, ↑state.lossStreak,
    state.tripped, state.trippedAt))
  (by
    intro value state built
    obtain ⟨threshold, cooldown, streak, tripped, trippedAt⟩ := new_ok built
    rw [threshold, cooldown, streak, tripped, trippedAt])
  (by
    rintro state entries ⟨threshold, cooldown, streak, tripped, trippedAt⟩ _ equal
    obtain ⟨sameThreshold, equal⟩ := field_eq_iff.mp equal
    obtain ⟨sameCooldown, equal⟩ := field_eq_iff.mp equal
    obtain ⟨sameStreak, _⟩ := field_eq_iff.mp equal
    exact new_stable state (beq_iff_eq.mp sameThreshold) sameCooldown (beq_iff_eq.mp sameStreak)
      tripped trippedAt)

/-- A `TimedCircuitBreakerState` as a JSON object. -/
def TimedCircuitBreakerState.slot : Slot codec TimedCircuitBreakerState :=
  (fields codec).struct (by decide)

/-- The fields of a `RiskContext`. -/
def RiskContext.fields :
    Fields codec ["max_daily_drawdown_pct", "max_weekly_drawdown_pct", "max_correlated_exposure",
      "min_expected_value", "latency_budget_us", "consecutive_loss_limit",
      "consecutive_loss_window_minutes"] RiskContext :=
  (field "max_daily_drawdown_pct" (some default.maxDailyDrawdownPct.val) .number (by decide) <|
    field "max_weekly_drawdown_pct" (some default.maxWeeklyDrawdownPct.val) .number (by decide) <|
    field "max_correlated_exposure" (some default.maxCorrelatedExposure.val) .number (by decide) <|
    field "min_expected_value" (some default.minExpectedValue.val) .number (by decide) <|
    field "latency_budget_us" (some default.latencyBudgetUs) .int (by decide) <|
    field "consecutive_loss_limit" (some default.consecutiveLossLimit) .int (by decide) <|
    one "consecutive_loss_window_minutes" (some default.consecutiveLossWindowMinutes.val)
      .number).build
  (fun (daily, weekly, exposure, expected, budget, limit, window) =>
    RiskContext.new daily weekly exposure expected budget limit window)
  (fun ctx => (ctx.maxDailyDrawdownPct.val, ctx.maxWeeklyDrawdownPct.val,
    ctx.maxCorrelatedExposure.val, ctx.minExpectedValue.val, ctx.latencyBudgetUs,
    ctx.consecutiveLossLimit, ctx.consecutiveLossWindowMinutes.val))
  (by
    rintro ⟨daily, weekly, exposure, expected, budget, limit, window⟩ ctx built
    obtain ⟨rfl, rfl, rfl, rfl, rfl, rfl, rfl⟩ := new_ok.mp built
    rfl)
  (by
    rintro ctx entries ⟨daily, weekly, exposure, expected, budget, limit, window⟩ accepted _
    obtain ⟨readDaily, accepted⟩ := field_read_iff.mp accepted
    obtain ⟨readWeekly, accepted⟩ := field_read_iff.mp accepted
    obtain ⟨readExposure, accepted⟩ := field_read_iff.mp accepted
    obtain ⟨readExpected, accepted⟩ := field_read_iff.mp accepted
    obtain ⟨_, accepted⟩ := field_read_iff.mp accepted
    obtain ⟨_, readWindow⟩ := field_read_iff.mp accepted
    exact new_finite (number_field_finite readDaily) (number_field_finite readWeekly)
      (number_field_finite readExposure) (number_field_finite readExpected) budget limit
      (number_field_finite readWindow))

/-- A `RiskContext` as a JSON object. -/
def RiskContext.slot : Slot codec RiskContext := (fields codec).struct (by decide)

/-- The fields of a `RiskState`. -/
def RiskState.fields :
    Fields codec ["schema_version", "context", "kill_switch", "timed_breaker",
      "consecutive_loss_gate"] RiskState :=
  (field "schema_version" (some riskStateSchemaVersion) .int (by decide) <|
    field "context" (some RiskContext.default)
      (RiskContext.slot codec) (by decide) <|
    field "kill_switch" (some none)
      (KillSwitchState.slot codec).orNull (by decide) <|
    field "timed_breaker" (some none)
      (TimedCircuitBreakerState.slot codec).orNull (by decide) <|
    one "consecutive_loss_gate" (some none)
      (ConsecutiveLossGateState.slot codec).orNull).build
  (fun (schemaVersion, context, killSwitch, timedBreaker, consecutiveLossGate) =>
    RiskState.new schemaVersion context killSwitch timedBreaker consecutiveLossGate)
  (fun state => (state.schemaVersion, state.context, state.killSwitch, state.timedBreaker,
    state.consecutiveLossGate))
  (by
    intro value state built
    obtain ⟨version, context, switch, breaker, gate⟩ := new_ok built
    rw [version, context, switch, breaker, gate])
  (by
    rintro state entries ⟨schemaVersion, others⟩ _ equal
    obtain ⟨sameVersion, _⟩ := field_eq_iff.mp equal
    have same : state.schemaVersion = schemaVersion := beq_iff_eq.mp sameVersion
    exact ⟨_, dif_pos (same.symm.trans state.versionSupported)⟩)

end Records

namespace RiskState

variable [FloatFormat]

/-- The JSON form of a `RiskState`. -/
def slot (codec : Msgspec) : Slot codec RiskState := (fields codec).struct (by decide)

/-- `left == right`, field by field -/
def eq (codec : Msgspec) (left right : RiskState) : Bool := (slot codec).eq left right

/-- Serialize the full state snapshot to JSON. -/
def toJson (codec : Msgspec) (state : RiskState) : Json := (slot codec).write state

/-- The keys a payload must have, and no other. -/
def allowedKeys : List String :=
  ["schema_version", "context", "kill_switch", "timed_breaker", "consecutive_loss_gate"]

/-- `sorted(keys)` of a set. -/
def sortedKeys (keys : List String) : List String := keys.dedup.mergeSort (· ≤ ·)

/-- The value is an `int` and the current schema version. -/
def currentVersion : Json → Bool
  | .int version => version == riskStateSchemaVersion
  | _ => false

/-- Restore a state snapshot from what the decoder answers for a payload, rejecting malformed
ones. -/
def fromJson [Unicode] (codec : Msgspec) (decoded : Except PyError Json) :
    Except PyError RiskState :=
  match decoded with
  | .error raised =>
    let exc := raised.message
    .error (.valueError s!"Invalid RiskState payload: {exc}")
  | .ok (.obj raw) =>
    let unexpected := sortedKeys ((Json.keys raw).filter (· ∉ allowedKeys))
    let missing := sortedKeys (allowedKeys.filter (· ∉ Json.keys raw))
    let version := (Json.lookup "schema_version" raw).getD .null
    if unexpected ≠ [] then
      let unexpected := reprTexts unexpected
      .error (.valueError s!"Unexpected RiskState keys: {unexpected}")
    else if missing ≠ [] then
      let missing := reprTexts missing
      .error (.valueError s!"RiskState payload missing keys: {missing}")
    else if !currentVersion version then
      let version := version.text
      let expected := riskStateSchemaVersion
      .error (.valueError
        s!"Unsupported risk state schema_version={version}; expected {expected}")
    else match (slot codec).read (.obj raw) with
      | some state => .ok state
      | none =>
        let exc := codec.fault (.obj raw)
        .error (.valueError s!"Invalid RiskState payload: {exc}")
  | .ok _ => .error (.valueError "RiskState payload must be a JSON object")

/-- A payload is accepted when it is an object with exactly the five keys, of the current
version, whose nested objects are accepted. -/
theorem fromJson_ok_iff [Unicode] {codec : Msgspec} {payload : Json} {state : RiskState} :
    fromJson codec (.ok payload) = .ok state ↔ ∃ raw, payload = .obj raw ∧
      (∀ key, key ∈ allowedKeys ↔ key ∈ Json.keys raw) ∧
      currentVersion ((Json.lookup "schema_version" raw).getD .null) = true ∧
      (fields codec).read raw = some state := by
  have sortedKeys_nil : ∀ keys, sortedKeys keys = [] ↔ ∀ key, key ∉ keys := by
    intro keys
    simp only [List.eq_nil_iff_forall_not_mem, sortedKeys, List.mem_mergeSort, List.mem_dedup]
  cases payload with
  | obj raw =>
    have extra : sortedKeys ((Json.keys raw).filter (· ∉ allowedKeys)) = [] ↔
        ∀ key ∈ Json.keys raw, key ∈ allowedKeys := by
      simp [sortedKeys_nil]
    have lacking : sortedKeys (allowedKeys.filter (· ∉ Json.keys raw)) = [] ↔
        ∀ key ∈ allowedKeys, key ∈ Json.keys raw := by
      simp [sortedKeys_nil]
    simp only [fromJson, ne_eq, extra, lacking, Json.obj.injEq, exists_eq_left']
    constructor
    · intro accepted
      split at accepted
      · contradiction
      · rename_i expected
        split at accepted
        · contradiction
        · rename_i present
          split at accepted
          · contradiction
          · rename_i current
            split at accepted
            · rename_i restored read
              cases accepted
              exact ⟨fun key => ⟨not_not.mp present key, not_not.mp expected key⟩,
                by simpa using current, read⟩
            · contradiction
    · rintro ⟨alike, current, read⟩
      have expected : ∀ key ∈ Json.keys raw, key ∈ allowedKeys := fun key => (alike key).mpr
      have present : ∀ key ∈ allowedKeys, key ∈ Json.keys raw := fun key => (alike key).mp
      have accepted : (slot codec).read (.obj raw) = some state := read
      rw [if_neg (not_not.mpr expected), if_neg (not_not.mpr present), current, accepted]
      rfl
  | _ => simp [fromJson]

end RiskState

end VerdictRisk
