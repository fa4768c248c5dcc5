import VerdictRisk.Python.Dumps
import VerdictRisk.Library.Fallible
import Mathlib.Data.List.Chain

/-!
# Serializable values

`json.dumps` with `default=str` writes any object, but not any mapping: the keys of a dict must be
comparable with each other and be among those that JSON has, and no number may have more digits
than the interpreter converts. These are the only ways in which it raises.
-/

namespace Python

/-- The key has a text in JSON. -/
def PyKey.Written : PyKey → Prop
  | .object _ _ => False
  | .int n => n.natAbs < textLimit
  | _ => True

/-- The keys can be compared with each other: they are all strings, or all numbers, or there is
no second one. -/
def Comparable (keys : List PyKey) : Prop :=
  (∀ key ∈ keys, ∃ text, key = .str text) ∨ (∀ key ∈ keys, key.number.isSome = true) ∨
    keys.length ≤ 1

mutual

/-- The value can be written as JSON. -/
def Serializable : PyValue → Prop
  | .int n => n.natAbs < textLimit
  | .list items | .tuple items => SerializableItems items
  | .dict entries => Comparable (entries.map Prod.fst) ∧ SerializableEntries entries
  | _ => True

/-- The items of a list or a tuple can be written as JSON. -/
def SerializableItems : List PyValue → Prop
  | [] => True
  | item :: rest => Serializable item ∧ SerializableItems rest

/-- The keys and the values of a dict can be written as JSON. -/
def SerializableEntries : List (PyKey × PyValue) → Prop
  | [] => True
  | (key, value) :: rest => (key.Written ∧ Serializable value) ∧ SerializableEntries rest

end

/-- Items can be written when each of them can. -/
theorem serializableItems_iff (items : List PyValue) :
    SerializableItems items ↔ ∀ item ∈ items, Serializable item := by
  induction items with
  | nil => simp [SerializableItems]
  | cons item rest ih => rw [SerializableItems, ih, List.forall_mem_cons]

/-- A dict with string keys can be written when each of its values can. -/
theorem serializable_record_iff (entries : List (String × PyValue)) :
    Serializable (.record entries) ↔ ∀ entry ∈ entries, Serializable entry.2 := by
  have comparable : Comparable ((entries.map fun entry =>
      (PyKey.str entry.1, entry.2)).map Prod.fst) := by
    left
    intro key member
    rw [List.map_map, List.mem_map] at member
    obtain ⟨entry, _, same⟩ := member
    exact ⟨entry.1, same.symm⟩
  rw [PyValue.record_eq, Serializable, and_iff_right comparable]
  clear comparable
  induction entries with
  | nil => simp [SerializableEntries]
  | cons entry rest ih =>
    rw [List.map_cons, List.forall_mem_cons]
    refine and_congr ?_ ih
    simp [PyKey.Written]

/-- An `int` that fits a double has few enough digits. -/
theorem floatLimit_le_textLimit : PyNum.floatLimit ≤ textLimit := by
  have powers : ∀ bits slack digits : ℕ, bits ≤ digits → 2 ^ bits - slack ≤ 10 ^ digits := by
    intro bits slack digits fits
    calc 2 ^ bits - slack ≤ 2 ^ bits := Nat.sub_le _ _
      _ ≤ 10 ^ bits := Nat.pow_le_pow_left (by norm_num) bits
      _ ≤ 10 ^ digits := Nat.pow_le_pow_right (by norm_num) fits
  unfold PyNum.floatLimit textLimit
  exact powers _ _ _ (by norm_num)

/-- A finite number can be written. -/
theorem serializable_ofNum {x : PyNum} (finite : x.isFinite = true) :
    Serializable (.ofNum x) := by
  cases x with
  | float x => exact trivial
  | int n =>
    have fits : n.natAbs < PyNum.floatLimit := by simpa [PyNum.isFinite] using finite
    exact lt_of_lt_of_le fits floatLimit_le_textLimit

/-- The digits of a number can be converted up to the limit. -/
theorem intText_returns_iff (n : ℤ) : (∃ text, intText n = .ok text) ↔ n.natAbs < textLimit := by
  unfold intText
  by_cases short : n.natAbs < textLimit
  · simp [short]
  · simp [short]

/-- Two keys can be compared when both are strings or both are numbers. -/
theorem keyLess_isSome_iff (left right : PyKey) : (keyLess left right).isSome = true ↔
    ((∃ text, left = .str text) ∧ ∃ text, right = .str text) ∨
      (left.number.isSome = true ∧ right.number.isSome = true) := by
  cases left <;> cases right <;> simp [keyLess, PyKey.number]

/-- Keys of which every two neighbours can be compared are all strings or all numbers. -/
theorem comparable_of_neighbours (first : PyKey) (rest : List PyKey)
    (neighbours : (first :: rest).IsChain fun left right => (keyLess right left).isSome = true) :
    rest = [] ∨ (∀ key ∈ first :: rest, ∃ text, key = .str text) ∨
      ∀ key ∈ first :: rest, key.number.isSome = true := by
  induction rest generalizing first with
  | nil => exact .inl rfl
  | cons second rest ih =>
    rw [List.isChain_cons_cons, keyLess_isSome_iff] at neighbours
    obtain ⟨pair, others⟩ := neighbours
    right
    rcases pair with ⟨⟨text', is_text'⟩, text, is_text⟩ | ⟨number', number⟩
    · left
      rcases ih second others with last | texts | numbers
      · simp [last, is_text, is_text']
      · rw [List.forall_mem_cons]
        exact ⟨⟨text, is_text⟩, texts⟩
      · have contradictory := numbers second List.mem_cons_self
        rw [is_text'] at contradictory
        contradiction
    · right
      rcases ih second others with last | texts | numbers
      · simp [last, number, number']
      · obtain ⟨text, is_text⟩ := texts second List.mem_cons_self
        rw [is_text] at number'
        contradiction
      · rw [List.forall_mem_cons]
        exact ⟨number, numbers⟩

/-- Keys can be compared with each other exactly when every two neighbours can. -/
theorem comparable_iff (keys : List PyKey) : Comparable keys ↔
    keys.IsChain fun left right => (keyLess right left).isSome = true := by
  constructor
  · rintro (texts | numbers | short)
    · refine (List.pairwise_of_forall_mem_list ?_).isChain
      intro left member right member'
      exact (keyLess_isSome_iff _ _).mpr (.inl ⟨texts right member', texts left member⟩)
    · refine (List.pairwise_of_forall_mem_list ?_).isChain
      intro left member right member'
      exact (keyLess_isSome_iff _ _).mpr (.inr ⟨numbers right member', numbers left member⟩)
    · match keys, short with
      | [], _ => exact .nil
      | [key], _ => exact .singleton key
  · intro neighbours
    cases keys with
    | nil => exact .inr (.inr (Nat.zero_le 1))
    | cons first rest =>
      rcases comparable_of_neighbours first rest neighbours with last | texts | numbers
      · exact .inr (.inr (by simp [last]))
      · exact .inl texts
      · exact .inr (.inl numbers)

/-- A relation holds between all neighbours of a list when it holds along the list. -/
theorem neighbours_iff {α : Type} (related : α → α → Prop) (items : List α) :
    (∀ pair ∈ items.zip items.tail, related pair.1 pair.2) ↔ items.IsChain related := by
  induction items with
  | nil => simp
  | cons first rest ih =>
    cases rest with
    | nil => simp
    | cons second rest =>
      rw [List.isChain_cons_cons, ← ih, List.tail_cons, List.zip_cons_cons, List.forall_mem_cons]
      exact Iff.rfl

/-- Entries can be sorted exactly when their keys can be compared. -/
theorem sortedEntries_returns_iff {α : Type} (entries : List (PyKey × α)) :
    (∃ sorted, sortedEntries entries = .ok sorted) ↔ Comparable (entries.map Prod.fst) := by
  rw [comparable_iff, List.isChain_map, ← neighbours_iff]
  unfold sortedEntries
  dsimp only
  split
  · rename_i first second clash
    have member := List.mem_of_find?_eq_some clash
    have incomparable := List.find?_some clash
    simp only [reduceCtorEq, exists_false, false_iff]
    intro comparable
    have comparison := comparable _ member
    rw [Option.isNone_iff_eq_none] at incomparable
    rw [incomparable] at comparison
    contradiction
  · rename_i none_clashes
    rw [List.find?_eq_none] at none_clashes
    apply iff_of_true ⟨_, rfl⟩
    intro pair member
    have comparable := none_clashes pair member
    rw [Option.isNone_iff_eq_none] at comparable
    exact Option.isSome_iff_ne_none.mpr comparable

/-- Sorting keeps the entries. -/
theorem sortedEntries_perm {α : Type} {entries sorted : List (PyKey × α)}
    (returned : sortedEntries entries = .ok sorted) : sorted.Perm entries := by
  unfold sortedEntries at returned
  dsimp only at returned
  split at returned
  · contradiction
  · cases returned
    exact List.perm_insertionSort _ entries

variable [FloatFormat]

/-- The keys that have a text in JSON. -/
theorem dumpsKey_returns_iff (key : PyKey) : (∃ text, dumpsKey key = .ok text) ↔ key.Written := by
  cases key with
  | int n => exact intText_returns_iff n
  | object typeName text => simp [dumpsKey, PyKey.Written]
  | _ => exact iff_of_true ⟨_, rfl⟩ trivial

/-- A dict is written when its keys can be compared and each entry can be written. -/
theorem dumpsEntries_returns_iff (entries : List (PyKey × Except PyError String)) :
    (∃ text, dumpsEntries entries = .ok text) ↔ Comparable (entries.map Prod.fst) ∧
      ∀ entry ∈ entries, entry.1.Written ∧ ∃ text, entry.2 = .ok text := by
  have member_returns : ∀ entry : PyKey × Except PyError String, (∃ text, (do
      let name ← dumpsKey entry.1
      let text ← entry.2
      .ok (dumpsText name ++ ":" ++ text)) = .ok text) ↔
        entry.1.Written ∧ ∃ text, entry.2 = .ok text := by
    intro entry
    rw [← dumpsKey_returns_iff]
    constructor
    · rintro ⟨_, returned⟩
      obtain ⟨name, named, returned⟩ := Fallible.bind_ok_iff.mp returned
      obtain ⟨text, written, _⟩ := Fallible.bind_ok_iff.mp returned
      exact ⟨⟨name, named⟩, text, written⟩
    · rintro ⟨⟨name, named⟩, text, written⟩
      rw [named, written]
      exact ⟨_, rfl⟩
  rw [← sortedEntries_returns_iff]
  constructor
  · rintro ⟨_, returned⟩
    obtain ⟨sorted, sorts, returned⟩ := Fallible.bind_ok_iff.mp returned
    obtain ⟨members, writes, _⟩ := Fallible.bind_ok_iff.mp returned
    refine ⟨⟨sorted, sorts⟩, ?_⟩
    intro entry member
    exact (member_returns entry).mp
      (Fallible.mapM_returns_iff.mp ⟨members, writes⟩ entry
        ((sortedEntries_perm sorts).mem_iff.mpr member))
  · rintro ⟨⟨sorted, sorts⟩, each⟩
    have writes : ∃ members, sorted.mapM (fun (entry : PyKey × Except PyError String) => do
        let name ← dumpsKey entry.1
        let text ← entry.2
        .ok (dumpsText name ++ ":" ++ text)) = .ok members := by
      rw [Fallible.mapM_returns_iff]
      intro entry member
      exact (member_returns entry).mpr
        (each entry ((sortedEntries_perm sorts).mem_iff.mp member))
    obtain ⟨members, writes⟩ := writes
    exact ⟨_, Fallible.bind_ok_iff.mpr ⟨sorted, sorts,
      Fallible.bind_ok_iff.mpr ⟨members, writes, rfl⟩⟩⟩

/-- The entries of a dict whose values have been serialized have its keys. -/
theorem dumpsValues_keys (entries : List (PyKey × PyValue)) :
    (dumpsValues entries).map Prod.fst = entries.map Prod.fst := by
  induction entries with
  | nil => rfl
  | cons entry rest ih =>
    obtain ⟨key, value⟩ := entry
    rw [dumpsValues, List.map_cons, List.map_cons, ih]

mutual

/-- A value is written exactly when it is serializable. -/
theorem dumps_returns_iff (value : PyValue) :
    (∃ text, dumps value = .ok text) ↔ Serializable value := by
  cases value with
  | int n => exact intText_returns_iff n
  | list items =>
    rw [Serializable, ← dumpsItems_returns_iff items]
    simp only [dumps, Fallible.bind_ok_iff]
    constructor
    · rintro ⟨_, texts, returned, _⟩
      exact ⟨texts, returned⟩
    · rintro ⟨texts, returned⟩
      exact ⟨_, texts, returned, rfl⟩
  | tuple items =>
    rw [Serializable, ← dumpsItems_returns_iff items]
    simp only [dumps, Fallible.bind_ok_iff]
    constructor
    · rintro ⟨_, texts, returned, _⟩
      exact ⟨texts, returned⟩
    · rintro ⟨texts, returned⟩
      exact ⟨_, texts, returned, rfl⟩
  | dict entries =>
    rw [dumps, dumpsEntries_returns_iff, dumpsValues_keys, Serializable,
      dumpsValues_returns_iff entries]
  | _ => exact iff_of_true ⟨_, rfl⟩ trivial

/-- The items of a list are written exactly when each of them is serializable. -/
theorem dumpsItems_returns_iff (items : List PyValue) :
    (∃ texts, dumpsItems items = .ok texts) ↔ SerializableItems items := by
  cases items with
  | nil => exact iff_of_true ⟨_, rfl⟩ trivial
  | cons item rest =>
    rw [SerializableItems, ← dumps_returns_iff item, ← dumpsItems_returns_iff rest]
    simp only [dumpsItems, Fallible.bind_ok_iff]
    constructor
    · rintro ⟨_, text, head, texts, tail, _⟩
      exact ⟨⟨text, head⟩, texts, tail⟩
    · rintro ⟨⟨text, head⟩, texts, tail⟩
      exact ⟨_, text, head, texts, tail, rfl⟩

/-- The entries of a dict are written exactly when each of them is serializable. -/
theorem dumpsValues_returns_iff (entries : List (PyKey × PyValue)) :
    (∀ entry ∈ dumpsValues entries, entry.1.Written ∧ ∃ text, entry.2 = .ok text) ↔
      SerializableEntries entries := by
  cases entries with
  | nil => simp [dumpsValues, SerializableEntries]
  | cons entry rest =>
    obtain ⟨key, value⟩ := entry
    rw [dumpsValues, List.forall_mem_cons, SerializableEntries, dumps_returns_iff value,
      dumpsValues_returns_iff rest]

end

end Python
