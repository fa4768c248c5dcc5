import VerdictRisk.ProviderReceipts
import VerdictRisk.Library.Fallible

/-!
# Secret names

A receipt is refused when a mapping inside it has a key with a forbidden name, at any depth that
mappings, lists and tuples lead to. `Reaches` says which keys these are; the filter passes a
value exactly when none of them is forbidden and all of them can be written, and otherwise it
raises a `ValueError`. A key that cannot be written is an `int` with too many digits.
-/

namespace VerdictRisk

open Python

/-- The entries of a mapping. -/
def entriesOf : PyValue → List (PyKey × PyValue)
  | .dict entries | .mapping entries _ => entries
  | _ => []

/-- The values one level inside a value. -/
def childrenOf : PyValue → List PyValue
  | .list items | .tuple items => items
  | value => (entriesOf value).map Prod.snd

/-- The key belongs to a mapping that can be reached from the value through mappings, lists and
tuples. -/
inductive Reaches (key : PyKey) : PyValue → Prop
  | own {value : PyValue} : key ∈ (entriesOf value).map Prod.fst → Reaches key value
  | inside {value child : PyValue} : child ∈ childrenOf value → Reaches key child →
      Reaches key value

section Filter

variable [FloatFormat]

/-- The key has a name that no receipt may carry. -/
def Forbidden (key : PyKey) : Prop :=
  ∃ name, key.text = .ok name ∧ foldedName name ∈ sensitiveNames

/-- The key can be written and its name is allowed. -/
def Harmless (key : PyKey) : Prop :=
  ∃ name, key.text = .ok name ∧ foldedName name ∉ sensitiveNames

/-- A key is harmless when it can be written and is not forbidden. -/
theorem harmless_iff (key : PyKey) :
    Harmless key ↔ (∃ name, key.text = .ok name) ∧ ¬ Forbidden key := by
  constructor
  · intro ⟨name, written, allowed⟩
    refine ⟨⟨name, written⟩, ?_⟩
    intro ⟨name', written', forbidden⟩
    rw [written, Except.ok.injEq] at written'
    subst written'
    exact allowed forbidden
  · intro ⟨⟨name, written⟩, allowed⟩
    exact ⟨name, written, fun forbidden => allowed ⟨name, written, forbidden⟩⟩

omit [FloatFormat] in
/-- What a value reaches is its own or reached from inside it. -/
theorem reaches_iff (key : PyKey) (value : PyValue) :
    Reaches key value ↔ key ∈ (entriesOf value).map Prod.fst ∨
      ∃ child ∈ childrenOf value, Reaches key child := by
  constructor
  · intro reached
    cases reached with
    | own member => exact .inl member
    | inside member reached => exact .inr ⟨_, member, reached⟩
  · rintro (member | ⟨child, member, reached⟩)
    · exact .own member
    · exact .inside member reached

omit [FloatFormat] in
/-- A value with nothing inside reaches no key. -/
theorem not_reaches_leaf (key : PyKey) {value : PyValue} (keyless : entriesOf value = [])
    (childless : childrenOf value = []) : ¬ Reaches key value := by
  rw [reaches_iff, keyless, childless]
  simp

/-- All the keys that a value reaches are harmless. -/
def Clean (value : PyValue) : Prop := ∀ key, Reaches key value → Harmless key

/-- A value is clean when its own keys are harmless and the values inside it are clean. -/
theorem clean_iff (value : PyValue) : Clean value ↔
    (∀ key ∈ (entriesOf value).map Prod.fst, Harmless key) ∧
      ∀ child ∈ childrenOf value, Clean child := by
  constructor
  · intro clean
    exact ⟨fun key member => clean key (.own member),
      fun child member key reached => clean key (.inside member reached)⟩
  · intro ⟨own, inside⟩ key reached
    rcases (reaches_iff key value).mp reached with member | ⟨child, member, reached⟩
    · exact own key member
    · exact inside child member key reached

/-- A value with nothing inside is clean. -/
theorem clean_of_leaf {value : PyValue} (keyless : entriesOf value = [])
    (childless : childrenOf value = []) : Clean value := by
  intro key reached
  exact absurd reached (not_reaches_leaf key keyless childless)

/-- A mapping is clean when each of its entries is. -/
theorem clean_dict_iff (entries : List (PyKey × PyValue)) : Clean (.dict entries) ↔
    ∀ entry ∈ entries, Harmless entry.1 ∧ Clean entry.2 := by
  rw [clean_iff]
  simp only [entriesOf, childrenOf, List.forall_mem_map]
  exact ⟨fun clean entry member => ⟨clean.1 entry member, clean.2 entry member⟩,
    fun each => ⟨fun entry member => (each entry member).1,
      fun entry member => (each entry member).2⟩⟩

/-- The first entry of a mapping passes when its key is harmless and its value passes. -/
theorem rejectSensitiveEntries_cons (key : PyKey) (child : PyValue)
    (rest : List (PyKey × PyValue)) :
    rejectSensitiveEntries ((key, child) :: rest) = .ok () ↔
      (Harmless key ∧ rejectSensitive child = .ok ()) ∧ rejectSensitiveEntries rest = .ok () := by
  rw [rejectSensitiveEntries, Fallible.bind_ok_iff]
  constructor
  · intro ⟨name, written, passed⟩
    split at passed
    · contradiction
    · rename_i allowed
      obtain ⟨_, inside, others⟩ := Fallible.bind_ok_iff.mp passed
      exact ⟨⟨⟨name, written, allowed⟩, inside⟩, others⟩
  · intro ⟨⟨⟨name, written, allowed⟩, inside⟩, others⟩
    refine ⟨name, written, ?_⟩
    rw [if_neg allowed]
    exact Fallible.bind_ok_iff.mpr ⟨(), inside, others⟩

mutual

/-- The filter passes exactly the clean values. -/
theorem rejectSensitive_ok_iff (value : PyValue) :
    rejectSensitive value = .ok () ↔ Clean value := by
  cases value with
  | dict entries => rw [rejectSensitive, rejectSensitiveEntries_ok_iff, clean_dict_iff]
  | mapping entries text =>
    rw [rejectSensitive, rejectSensitiveEntries_ok_iff, ← clean_dict_iff, clean_iff, clean_iff]
    exact Iff.rfl
  | list items =>
    rw [rejectSensitive, rejectSensitiveItems_ok_iff, clean_iff]
    simp [entriesOf, childrenOf]
  | tuple items =>
    rw [rejectSensitive, rejectSensitiveItems_ok_iff, clean_iff]
    simp [entriesOf, childrenOf]
  | none | bool | int | float | str | object =>
    exact iff_of_true rfl (clean_of_leaf rfl rfl)

/-- The filter passes a mapping whose entries are clean. -/
theorem rejectSensitiveEntries_ok_iff (entries : List (PyKey × PyValue)) :
    rejectSensitiveEntries entries = .ok () ↔
      ∀ entry ∈ entries, Harmless entry.1 ∧ Clean entry.2 := by
  cases entries with
  | nil => simp [rejectSensitiveEntries]
  | cons entry rest =>
    obtain ⟨key, child⟩ := entry
    rw [rejectSensitiveEntries_cons, rejectSensitive_ok_iff child,
      rejectSensitiveEntries_ok_iff rest, List.forall_mem_cons]

/-- The filter passes a list whose items are clean. -/
theorem rejectSensitiveItems_ok_iff (items : List PyValue) :
    rejectSensitiveItems items = .ok () ↔ ∀ item ∈ items, Clean item := by
  cases items with
  | nil => simp [rejectSensitiveItems]
  | cons item rest =>
    rw [rejectSensitiveItems, Fallible.bind_ok_iff, List.forall_mem_cons,
      ← rejectSensitive_ok_iff item, ← rejectSensitiveItems_ok_iff rest]
    constructor
    · intro ⟨_, passed, others⟩
      exact ⟨passed, others⟩
    · intro ⟨passed, others⟩
      exact ⟨(), passed, others⟩

end

omit [FloatFormat] in
/-- `str` refuses to write the key: an `int` with too many digits. -/
def Unwritable (key : PyKey) : Prop := ∃ n : ℤ, key = .int n ∧ textLimit ≤ n.natAbs

/-- Writing a key raises nothing but a `ValueError`, and only for an `int` that is too long. -/
theorem text_error {key : PyKey} {raised : PyError} (refused : key.text = .error raised) :
    Unwritable key ∧ ∃ message, raised = .valueError message := by
  cases key with
  | int n =>
    rw [PyKey.text, intText] at refused
    split at refused
    · contradiction
    · rename_i long
      cases refused
      exact ⟨⟨n, rfl, by omega⟩, _, rfl⟩
  | bool value => cases value <;> contradiction
  | none | float | str | object => contradiction

/-- A key has a text unless it is an `int` that is too long. -/
theorem text_returns_iff (key : PyKey) : (∃ name, key.text = .ok name) ↔ ¬ Unwritable key := by
  constructor
  · rintro ⟨name, written⟩ ⟨n, rfl, long⟩
    rw [PyKey.text, intText, if_neg (by omega)] at written
    contradiction
  · intro writable
    cases written : key.text with
    | ok name => exact ⟨name, rfl⟩
    | error raised => exact absurd (text_error written).1 writable

/-- A key does harm when its name is forbidden or when it cannot be written. -/
theorem not_harmless_iff (key : PyKey) : ¬ Harmless key ↔ Forbidden key ∨ Unwritable key := by
  rw [harmless_iff, text_returns_iff]
  tauto

mutual

/-- The filter raises nothing but a `ValueError`. -/
theorem rejectSensitive_error (value : PyValue) (raised : PyError)
    (refused : rejectSensitive value = .error raised) :
    ∃ message, raised = .valueError message := by
  cases value with
  | dict entries => exact rejectSensitiveEntries_error entries raised refused
  | mapping entries text => exact rejectSensitiveEntries_error entries raised refused
  | list items => exact rejectSensitiveItems_error items raised refused
  | tuple items => exact rejectSensitiveItems_error items raised refused
  | none | bool | int | float | str | object => contradiction

/-- The loop over a mapping raises nothing but a `ValueError`. -/
theorem rejectSensitiveEntries_error (entries : List (PyKey × PyValue)) (raised : PyError)
    (refused : rejectSensitiveEntries entries = .error raised) :
    ∃ message, raised = .valueError message := by
  cases entries with
  | nil => contradiction
  | cons entry rest =>
    obtain ⟨key, child⟩ := entry
    rw [rejectSensitiveEntries, Fallible.bind_error_iff] at refused
    rcases refused with unwritten | ⟨name, _, refused⟩
    · exact (text_error unwritten).2
    · split at refused
      · cases refused
        exact ⟨_, rfl⟩
      · rcases Fallible.bind_error_iff.mp refused with inside | ⟨_, _, others⟩
        · exact rejectSensitive_error child raised inside
        · exact rejectSensitiveEntries_error rest raised others

/-- The loop over a list or a tuple raises nothing but a `ValueError`. -/
theorem rejectSensitiveItems_error (items : List PyValue) (raised : PyError)
    (refused : rejectSensitiveItems items = .error raised) :
    ∃ message, raised = .valueError message := by
  cases items with
  | nil => contradiction
  | cons item rest =>
    rw [rejectSensitiveItems, Fallible.bind_error_iff] at refused
    rcases refused with inside | ⟨_, _, others⟩
    · exact rejectSensitive_error item raised inside
    · exact rejectSensitiveItems_error rest raised others

end

/-- A value is refused exactly when it reaches a key that does harm, and with a `ValueError`. -/
theorem rejectSensitive_error_iff (value : PyValue) :
    (∃ message, rejectSensitive value = .error (.valueError message)) ↔
      ∃ key, Reaches key value ∧ (Forbidden key ∨ Unwritable key) := by
  have clean := rejectSensitive_ok_iff value
  cases answer : rejectSensitive value with
  | ok passed =>
    rw [answer] at clean
    have harmless : Clean value := clean.mp rfl
    refine iff_of_false (by rintro ⟨_, refused⟩; contradiction) ?_
    intro ⟨key, reached, harm⟩
    exact (not_harmless_iff key).mpr harm (harmless key reached)
  | error raised =>
    obtain ⟨message, rfl⟩ := rejectSensitive_error value raised answer
    rw [answer] at clean
    have unclean : ¬ Clean value := fun harmless => by simpa using clean.mpr harmless
    refine iff_of_true ⟨message, rfl⟩ ?_
    unfold Clean at unclean
    push Not at unclean
    obtain ⟨key, reached, harm⟩ := unclean
    exact ⟨key, reached, (not_harmless_iff key).mp harm⟩

section Receipts

variable [ReceiptFormat]

omit [FloatFormat] [ReceiptFormat] in
/-- The key can be reached in the provenance or in the details that a receipt is built from. -/
def ReceiptReaches (key : PyKey) (provenance details : Entries) : Prop :=
  Reaches key (.dict provenance) ∨ Reaches key (.dict details)

/-- A receipt of named parties with serialisable content is refused with a `ValueError` for a key
that does harm, or it holds clean mappings as they were given. -/
theorem buildRiskReceipt_cases {runId outcome : String} {inputs config : PyValue}
    (evidenceRefs : List String) (provenance details : Option Entries)
    (runIdGiven : isBlank runId = false) (outcomeGiven : isBlank outcome = false)
    (inputsSerialisable : ∃ digest, hash inputs = .ok digest)
    (configSerialisable : ∃ digest, hash config = .ok digest) :
    let built := buildRiskReceipt runId inputs config outcome evidenceRefs provenance details
    ((∃ message, built = .error (.valueError message)) ∧
      ∃ key, ReceiptReaches key (provenance.getD []) (details.getD []) ∧
        (Forbidden key ∨ Unwritable key)) ∨
    ((∃ receipt, built = .ok receipt ∧ receipt.provenance = provenance.getD [] ∧
        receipt.details = details.getD []) ∧
      Clean (.dict (provenance.getD [])) ∧ Clean (.dict (details.getD []))) := by
  obtain ⟨inputsHash, inputsHashed⟩ := inputsSerialisable
  obtain ⟨configHash, configHashed⟩ := configSerialisable
  intro built
  have filtered : built = (do
      rejectSensitive (.dict (provenance.getD []))
      rejectSensitive (.dict (details.getD []))
      .ok ⟨receiptSchemaVersion, runId, "verdict-risk", "0.1.0", inputsHash, configHash, outcome,
        provenance.getD [], evidenceRefs, details.getD []⟩) := by
    unfold built buildRiskReceipt
    rw [runIdGiven, outcomeGiven, inputsHashed, configHashed]
    rfl
  cases first : rejectSensitive (.dict (provenance.getD [])) with
  | error raised =>
    obtain ⟨message, rfl⟩ := rejectSensitive_error _ raised first
    obtain ⟨key, reached, harm⟩ := (rejectSensitive_error_iff _).mp ⟨message, first⟩
    rw [first] at filtered
    exact .inl ⟨⟨message, filtered⟩, key, .inl reached, harm⟩
  | ok passed =>
    have provenanceClean := (rejectSensitive_ok_iff _).mp first
    cases second : rejectSensitive (.dict (details.getD [])) with
    | error raised =>
      obtain ⟨message, rfl⟩ := rejectSensitive_error _ raised second
      obtain ⟨key, reached, harm⟩ := (rejectSensitive_error_iff _).mp ⟨message, second⟩
      rw [first, second] at filtered
      exact .inl ⟨⟨message, filtered⟩, key, .inr reached, harm⟩
    | ok passed =>
      have detailsClean := (rejectSensitive_ok_iff _).mp second
      rw [first, second] at filtered
      exact .inr ⟨⟨_, filtered, rfl, rfl⟩, provenanceClean, detailsClean⟩

end Receipts

end Filter

section Example

attribute [local instance] FloatFormat.exact ReceiptFormat.plain

end Example

end VerdictRisk
