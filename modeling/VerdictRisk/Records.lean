import VerdictRisk.Snapshot

/-!
# Records as JSON

`to_json` and `from_json` of `RiskContext` and `RiskDecision`. A payload is decoded in one step by
the types of the fields, and what that raises is raised again as a `ValueError`.
-/

namespace VerdictRisk

open Python Python.Fields

/-- `from_json` of a record, from what the decoder answers for a payload. -/
def recordFromJson {codec : Msgspec} {α : Type} (kind : String) (slot : Slot codec α)
    (decoded : Except PyError Json) : Except PyError α :=
  match decoded with
  | .error raised =>
    let exc := raised.message
    .error (.valueError s!"Invalid {kind} payload: {exc}")
  | .ok payload =>
    match slot.read payload with
    | some record => .ok record
    | none =>
      let exc := codec.fault payload
      .error (.valueError s!"Invalid {kind} payload: {exc}")

variable (codec : Msgspec) [FloatFormat]

/-- The fields of a `RiskDecision`, none of which has a default. -/
def RiskDecision.fields : Fields codec ["approved", "reason_code", "suggested_size"] RiskDecision :=
  (field "approved" none .bool (by decide) <|
    field "reason_code" none .str (by decide) <|
    one "suggested_size" none .float).build
  (fun (approved, reasonCode, suggestedSize) =>
    RiskDecision.new approved reasonCode suggestedSize.val)
  (fun decision => (decision.approved, decision.reasonCode, decision.suggestedSize))
  (by
    rintro ⟨approved, reason, size⟩ decision built
    have kept : RiskDecision.new approved reason size.val = .ok decision := built
    rw [new_finite] at kept
    cases kept
    rfl)
  (by
    rintro decision entries ⟨approved, reason, size⟩ _ _
    exact ⟨⟨approved, reason, size⟩, new_finite approved reason size⟩)

/-- A `RiskDecision` as a JSON object. -/
def RiskDecision.slot : Slot codec RiskDecision := (fields codec).struct (by decide)

/-- Serialize the decision to JSON for crash recovery and audit. -/
def RiskDecision.toJson (decision : RiskDecision) : Json := (slot codec).write decision

/-- Reconstruct a `RiskDecision` from what the decoder answers for a payload. -/
def RiskDecision.fromJson : Except PyError Json → Except PyError RiskDecision :=
  recordFromJson "RiskDecision" (slot codec)

/-- Serialize the context to JSON for persistence and audit. -/
def RiskContext.toJson (ctx : RiskContext) : Json := (slot codec).write ctx

/-- Reconstruct a `RiskContext` from what the decoder answers for a payload. -/
def RiskContext.fromJson : Except PyError Json → Except PyError RiskContext :=
  recordFromJson "RiskContext" (slot codec)

end VerdictRisk
