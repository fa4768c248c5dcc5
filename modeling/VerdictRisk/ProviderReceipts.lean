import VerdictRisk.Python.Dumps

/-!
# Risk receipts

`provider_receipts.py`: the receipt of an evaluation carries digests of what was evaluated and
the details that an auditor reads. What SHA-256 and `isoformat` answer is left open.
-/

namespace VerdictRisk

open Python

/-- The digest and the timestamps of receipts. -/
class ReceiptFormat where
  /-- `hashlib.sha256(payload.encode()).hexdigest()` -/
  sha256 : String → String
  /-- `dt.isoformat()` -/
  isoformat : DateTime → String

/-- Digests that are the payload itself, and timestamps counted in microseconds. -/
@[reducible] def ReceiptFormat.plain : ReceiptFormat := ⟨id, fun dt => toString dt.wall⟩

/-- The entries of a mapping. -/
abbrev Entries : Type := List (PyKey × PyValue)

/-- `SCHEMA_VERSION` -/
def receiptSchemaVersion : String := "1"

/-- `_hash` -/
def hash [FloatFormat] [ReceiptFormat] (value : PyValue) : Except PyError String := do
  let payload ← dumps value
  let digest := ReceiptFormat.sha256 payload
  .ok s!"sha256:{digest}"

/-- The key names that no receipt may carry. -/
def sensitiveNames : List String := ["api_key", "authorization", "password", "secret", "token"]

section Sensitive

variable [FloatFormat]

mutual

/-- `_reject_sensitive` -/
def rejectSensitive : PyValue → Except PyError Unit
  | .dict entries => rejectSensitiveEntries entries
  | .mapping entries _ => rejectSensitiveEntries entries
  | .list items => rejectSensitiveItems items
  | .tuple items => rejectSensitiveItems items
  | _ => .ok ()

/-- The loop of `_reject_sensitive` over a mapping. -/
def rejectSensitiveEntries : List (PyKey × PyValue) → Except PyError Unit
  | [] => .ok ()
  | (key, child) :: rest => do
    let name ← key.text
    if foldedName name ∈ sensitiveNames then
      .error (.valueError s!"sensitive receipt field rejected: {name}")
    rejectSensitive child
    rejectSensitiveEntries rest

/-- The loop of `_reject_sensitive` over a list or a tuple. -/
def rejectSensitiveItems : List PyValue → Except PyError Unit
  | [] => .ok ()
  | child :: rest => do
    rejectSensitive child
    rejectSensitiveItems rest

end

end Sensitive

/-- A risk-provider receipt. -/
structure RiskReceipt where
  schemaVersion : String
  runId : String
  provider : String
  providerVersion : String
  inputsHash : String
  configHash : String
  outcome : String
  provenance : Entries
  evidenceRefs : List String
  details : Entries

/-- Return a deterministic, informational risk-provider receipt. -/
def buildRiskReceipt [FloatFormat] [ReceiptFormat] (runId : String) (inputs config : PyValue)
    (outcome : String) (evidenceRefs : List String) (provenance details : Option Entries) :
    Except PyError RiskReceipt := do
  if isBlank runId || isBlank outcome then
    .error (.valueError "run_id and outcome must be non-empty")
  rejectSensitive (.dict (provenance.getD []))
  rejectSensitive (.dict (details.getD []))
  let inputsHash ← hash inputs
  let configHash ← hash config
  .ok
    { schemaVersion := receiptSchemaVersion
      runId
      provider := "verdict-risk"
      providerVersion := "0.1.0"
      inputsHash
      configHash
      outcome
      provenance := provenance.getD []
      evidenceRefs
      details := details.getD [] }

/-- What a receipt carries of what it was built from: the digests of the inputs and of the
configuration, and the outcome and the details as they were given. -/
structure BuiltFrom [FloatFormat] [ReceiptFormat] (inputs config : PyValue) (outcome : String)
    (details : Option Entries) (receipt : RiskReceipt) : Prop where
  inputsHash : hash inputs = .ok receipt.inputsHash
  configHash : hash config = .ok receipt.configHash
  outcome : receipt.outcome = outcome
  details : receipt.details = details.getD []

/-- A receipt that was built carries it. -/
theorem buildRiskReceipt_ok [FloatFormat] [ReceiptFormat] {runId outcome : String}
    {inputs config : PyValue} {evidenceRefs : List String} {provenance details : Option Entries}
    {receipt : RiskReceipt}
    (built : buildRiskReceipt runId inputs config outcome evidenceRefs provenance details =
      .ok receipt) : BuiltFrom inputs config outcome details receipt := by
  unfold buildRiskReceipt at built
  split at built
  · contradiction
  · obtain ⟨_, _, built⟩ := ok_of_bind built
    obtain ⟨_, _, built⟩ := ok_of_bind built
    obtain ⟨inputsHash, inputsHashed, built⟩ := ok_of_bind built
    obtain ⟨configHash, configHashed, built⟩ := ok_of_bind built
    cases built
    exact ⟨inputsHashed, configHashed, rfl, rfl⟩

end VerdictRisk
