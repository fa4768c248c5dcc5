import VerdictRisk.Snapshot

/-!
# Accepted payloads

The keys of a payload are checked by hand at its top level only; inside a nested object the
typed decoder ignores keys that it does not know and fills absent ones from defaults. So an
accepted payload is written back as it was exactly when its nested objects are complete.
-/

namespace VerdictRisk

open Python Python.Fields

section Payloads

variable [FloatFormat] {codec : Msgspec}

/-- A nested object has exactly the fields of its record, and an integer in one of its float
fields is that of a double. -/
def Complete (names floats : List String) (object : Json) : Prop :=
  ∀ entries, object = .obj entries → (∀ key, key ∈ names ↔ key ∈ Json.keys entries) ∧
    ∀ key ∈ floats, ∀ n, Json.lookup key entries = some (.int n) →
      (FloatFormat.round n).value = n

/-- Every nested object of a payload spells out its record. -/
structure SpelledOut (payload : Json) : Prop where
  context : ∀ object ∈ payload.member "context",
    Complete ["max_daily_drawdown_pct", "max_weekly_drawdown_pct", "max_correlated_exposure",
      "min_expected_value", "latency_budget_us", "consecutive_loss_limit",
      "consecutive_loss_window_minutes"]
      ["max_daily_drawdown_pct", "max_weekly_drawdown_pct", "max_correlated_exposure",
      "min_expected_value", "consecutive_loss_window_minutes"] object
  killSwitch : ∀ object ∈ payload.member "kill_switch",
    Complete ["tripped", "reason", "tripped_at"] [] object
  timedBreaker : ∀ object ∈ payload.member "timed_breaker",
    Complete ["consecutive_loss_threshold", "cooldown_hours", "loss_streak", "tripped",
      "tripped_at"] ["cooldown_hours"] object
  consecutiveLossGate : ∀ object ∈ payload.member "consecutive_loss_gate",
    Complete ["max_losses", "window_trades", "history"] [] object

/-- Only an object has anything to spell out. -/
theorem complete_of_not_obj {names floats : List String} {json : Json}
    (other : ∀ entries, json ≠ .obj entries) : Complete names floats json := by
  intro entries same
  exact absurd same (other entries)

omit [FloatFormat] in
/-- What holds of a field that holds an integer, said of the integer. -/
theorem forall_integer (entry : Option Json) (holds : ℤ → Prop) :
    (∀ json, entry = some json → ∀ n, json = .int n → holds n) ↔
      ∀ n, entry = some (.int n) → holds n := by
  constructor
  · intro all n given
    exact all _ given n rfl
  · intro all json given n same
    rw [same] at given
    exact all n given

/-- A context is written back as it was when it is complete. -/
theorem context_exact_iff (json : Json) : (RiskContext.slot codec).Exact json ↔
    Complete ["max_daily_drawdown_pct", "max_weekly_drawdown_pct", "max_correlated_exposure",
      "min_expected_value", "latency_budget_us", "consecutive_loss_limit",
      "consecutive_loss_window_minutes"]
      ["max_daily_drawdown_pct", "max_weekly_drawdown_pct", "max_correlated_exposure",
      "min_expected_value", "consecutive_loss_window_minutes"] json := by
  cases json with
  | obj entries => simp [RiskContext.slot, RiskContext.fields, Complete, forall_integer]
  | _ => exact iff_of_true trivial (complete_of_not_obj (by simp))

/-- A kill switch is written back as it was when it is complete. -/
theorem killSwitch_exact_iff (json : Json) : (KillSwitchState.slot codec).orNull.Exact json ↔
    Complete ["tripped", "reason", "tripped_at"] [] json := by
  cases json with
  | obj entries =>
    have times := Slot.orNull_exact_all (.timestamp : Slot codec _) Slot.timestamp_exact
    rw [Slot.orNull_exact _ (by simp), KillSwitchState.slot]
    simp [KillSwitchState.fields, Complete, times]
  | _ => exact iff_of_true trivial (complete_of_not_obj (by simp))

/-- A breaker is written back as it was when it is complete. -/
theorem timedBreaker_exact_iff (json : Json) :
    (TimedCircuitBreakerState.slot codec).orNull.Exact json ↔
      Complete ["consecutive_loss_threshold", "cooldown_hours", "loss_streak", "tripped",
        "tripped_at"] ["cooldown_hours"] json := by
  cases json with
  | obj entries =>
    have times := Slot.orNull_exact_all (.timestamp : Slot codec _) Slot.timestamp_exact
    rw [Slot.orNull_exact _ (by simp), TimedCircuitBreakerState.slot]
    simp [TimedCircuitBreakerState.fields, Complete, times, forall_integer]
  | _ => exact iff_of_true trivial (complete_of_not_obj (by simp))

/-- A loss gate is written back as it was when it is complete. -/
theorem lossGate_exact_iff (json : Json) :
    (ConsecutiveLossGateState.slot codec).orNull.Exact json ↔
      Complete ["max_losses", "window_trades", "history"] [] json := by
  cases json with
  | obj entries =>
    have flags := Slot.tuple_exact_all (.bool : Slot codec _) Slot.bool_exact
    rw [Slot.orNull_exact _ (by simp), ConsecutiveLossGateState.slot]
    simp [ConsecutiveLossGateState.fields, Complete, flags]
  | _ => exact iff_of_true trivial (complete_of_not_obj (by simp))

/-- An accepted payload is written back as it was, up to the order of keys and the spelling of
numbers and timestamps, exactly when every nested object spells out its record. -/
theorem restored_as_written_iff [Unicode] {payload : Json} {state : RiskState}
    (accepted : RiskState.fromJson codec (.ok payload) = .ok state) :
    Json.Same codec (state.toJson codec) payload ↔ SpelledOut payload := by
  obtain ⟨raw, rfl, alike, _, read⟩ := RiskState.fromJson_ok_iff.mp accepted
  have exact : (RiskState.slot codec).Exact (.obj raw) ↔ SpelledOut (.obj raw) := by
    rw [RiskState.slot, struct_exact, RiskState.fields]
    simp only [build_exact, field_exact, one_exact, Slot.int_exact, context_exact_iff,
      killSwitch_exact_iff, timedBreaker_exact_iff, lossGate_exact_iff]
    constructor
    · rintro ⟨_, _, context, switch, breaker, gate⟩
      exact ⟨context, switch, breaker, gate⟩
    · rintro ⟨context, switch, breaker, gate⟩
      exact ⟨alike, fun _ _ => trivial, context, switch, breaker, gate⟩
  rw [← exact]
  exact (RiskState.slot codec).write_read (.obj raw) state read

end Payloads

section Examples

attribute [local instance] FloatFormat.exact Unicode.allPrintable

/-- The default context, a breaker after one loss whose cooldown is written as an integer, and
the keys in another order. -/
def reorderedPayload : Json :=
  .obj [("timed_breaker", .obj [("tripped", .bool false), ("tripped_at", .null),
      ("loss_streak", .int 1), ("cooldown_hours", .int 24),
      ("consecutive_loss_threshold", .int 3)]),
    ("consecutive_loss_gate", .null), ("kill_switch", .null),
    ("context", (RiskContext.slot .counting).write .default), ("schema_version", .int 1)]

/-- The state that `reorderedPayload` restores to. -/
def reorderedState : RiskState :=
  ⟨1, .default, none, some ⟨3, .float 24, 1, false, none, by decide, by decide +kernel⟩, none, rfl⟩

/-- A complete payload is written back as it was. -/
theorem reordered_payload_kept : Json.Same .counting (reorderedState.toJson .counting)
    reorderedPayload := by
  have accepted : RiskState.fromJson .counting (.ok reorderedPayload) = .ok reorderedState := by
    refine RiskState.fromJson_ok_iff.mpr ⟨_, rfl, ?_, rfl, rfl⟩
    intro key
    simp only [RiskState.allowedKeys, Json.keys, List.map_cons, List.map_nil, List.mem_cons,
      List.not_mem_nil, or_false]
    tauto
  refine (restored_as_written_iff accepted).mpr ⟨?_, ?_, ?_, ?_⟩
  · rintro object ⟨⟩ entries ⟨⟩
    exact ⟨fun _ => Iff.rfl, fun _ _ _ _ => rfl⟩
  · rintro object ⟨⟩ entries ⟨⟩
  · rintro object ⟨⟩ entries ⟨⟩
    refine ⟨?_, ?_⟩
    · intro key
      simp only [Json.keys, List.map_cons, List.map_nil, List.mem_cons, List.not_mem_nil, or_false]
      tauto
    · exact fun _ _ _ _ => rfl
  · rintro object ⟨⟩ entries ⟨⟩

/-- A payload whose tripped switch is misspelled. -/
def misspelledSwitch : Json :=
  .obj [("schema_version", .int 1), ("context", (RiskContext.slot .counting).write .default),
    ("kill_switch", .obj [("triped", .bool true)]), ("timed_breaker", .null),
    ("consecutive_loss_gate", .null)]

/-- The misspelled switch is accepted and restored as an untripped one. -/
theorem misspelled_switch_restored : ∃ state : RiskState,
    RiskState.fromJson .counting (.ok misspelledSwitch) = .ok state ∧
      state.killSwitch = some .default ∧
      ¬ Json.Same .counting (state.toJson .counting) misspelledSwitch := by
  refine ⟨⟨1, .default, some .default, none, none, rfl⟩, ?_, rfl, ?_⟩
  · exact RiskState.fromJson_ok_iff.mpr ⟨_, rfl, fun _ => Iff.rfl, rfl, rfl⟩
  · intro same
    cases same with
    | number left _ => contradiction
    | obj _ values =>
      have switch := values "kill_switch" _ _ rfl rfl
      cases switch with
      | number left _ => contradiction
      | obj alike _ =>
        have spelled := (alike "triped").mpr (by decide)
        contradiction

end Examples

end VerdictRisk
