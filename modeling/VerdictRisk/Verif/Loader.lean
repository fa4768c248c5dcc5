import VerdictRisk.Config
import VerdictRisk.Library.Validation
import Mathlib.Data.List.Nodup

/-!
# The loader's answers

The loader asks its questions of a document in a fixed order: the unknown keys, then each section
and the fields that are present in it. `loaderItems` lists what it looks at. Each item by itself is
taken, refused with a `TypeError` or a `ValueError`, an `int` that is too large for a double, or
missed, which means taken although it is not what the documentation asks for. Whether the loader
falls back silently is read off this list.
-/

namespace VerdictRisk

open Python Validation

/-- Something that the loader looks at. -/
inductive LoaderItem where
  /-- An unknown top-level key. -/
  | key (key : PyKey)
  /-- A known section that is present. -/
  | group (name : String) (value : Yaml)
  /-- A recognised field that is present in its section. -/
  | field (name : String) (field : ConfigField) (raw : Yaml)

/-- What an item is by itself. -/
inductive Standing where
  | taken
  /-- A `TypeError` or a `ValueError` is raised. -/
  | refused
  /-- An `int` is too large to be converted to a double. -/
  | oversized
  /-- A value that the documentation excludes is taken. -/
  | missed
deriving DecidableEq

/-- The documented range of a numeric field. -/
def RangeCheck.Holds : RangeCheck → PyFloat → Prop
  | .unitInterval, value => (0 : PyFloat).lt value = true ∧ value.le 1 = true
  | .positive, value => (0 : PyFloat).lt value = true
  | .unchecked, _ => True

/-- The top-level keys that are not known. -/
def unknownKeys (data : Section) : List PyKey :=
  (data.map Prod.fst).filter fun key => key ∉ knownTopLevelKeys.map PyKey.str

/-- The items of a section. -/
def sectionItems (data : Section) (name : String) (fields : List ConfigField) : List LoaderItem :=
  match data.lookup (.str name) with
  | none => []
  | some (.dict entries) =>
    .group name (.dict entries) :: fields.filterMap fun field =>
      (entries.lookup (.str field.key)).map (.field name field)
  | some value => [.group name value]

section Answers

variable [FloatFormat]

/-- The items of a document in the order in which the loader looks at them. -/
def loaderItems (data : Section) : List LoaderItem :=
  (unknownKeys data).map .key ++
    configSections.flatMap fun (name, fields) => sectionItems data name fields

/-- The standing of a float under a range check: NaN is not above zero, yet it is taken. -/
def RangeCheck.standing (range : RangeCheck) (value : PyFloat) : Standing :=
  if (range.violation value).isSome then .refused
  else if range = .positive ∧ value = .nan then .missed
  else .taken

/-- The standing of a value under the key of a field. -/
def FieldKind.standing : FieldKind → Yaml → Standing
  | .number range _, .int n =>
    if n.natAbs < PyNum.floatLimit then range.standing (PyNum.int n).toFloat else .oversized
  | .number range _, .float x => range.standing x
  | .count, .int n => if n < 0 then .refused else .taken
  | _, _ => .refused

/-- The standing of the value of a section: one that counts as false passes for an empty one. -/
def sectionStanding : Yaml → Standing
  | .none | .dict _ => .taken
  | value => if value.truthy then .refused else .missed

/-- The standing of an item. -/
def LoaderItem.standing : LoaderItem → Standing
  | .key (.int n) => if n.natAbs < textLimit then .taken else .refused
  | .key _ => .taken
  | .group _ value => sectionStanding value
  | .field _ asked raw => asked.kind.standing raw

/-- What the loader raises at an item. -/
def LoaderItem.raises (path : String) : LoaderItem → Option PyError
  | .key unknown => raised unknown.text
  | .group name value => raised (sectionEntries path name value)
  | .field name asked raw => raised (asked.read path name raw)

/-- The warnings raise at the first unknown key that cannot be written. -/
theorem raised_unknownKeyWarnings (path : String) (data : Section) :
    raised (unknownKeyWarnings path data) =
      ((unknownKeys data).map .key).findSome? (LoaderItem.raises path) := by
  induction data with
  | nil => rfl
  | cons entry rest ih =>
    obtain ⟨key, value⟩ := entry
    unfold unknownKeys at ih ⊢
    rw [List.map_cons, unknownKeyWarnings]
    by_cases known : key ∈ knownTopLevelKeys.map PyKey.str
    · rw [if_pos known, ih, List.filter_cons_of_neg (by simpa using known)]
    · rw [if_neg known, List.filter_cons_of_pos (by simpa using known), List.map_cons,
        List.findSome?_cons, ← ih, LoaderItem.raises]
      cases key.text with
      | error refused => rfl
      | ok name => cases unknownKeyWarnings path rest <;> rfl

omit [FloatFormat] in
/-- A mapping is read as it is. -/
theorem sectionEntries_dict (path name : String) (entries : Section) :
    sectionEntries path name (.dict entries) = .ok entries := by
  cases entries <;> rfl

omit [FloatFormat] in
/-- Anything else that counts as false is read as an empty section. -/
theorem sectionEntries_falsy (path name : String) {value : Yaml} (falsy : value.truthy = false) :
    sectionEntries path name value = .ok [] := by
  rw [sectionEntries, falsy]
  rfl

omit [FloatFormat] in
/-- Anything else that counts as true raises a `TypeError`. -/
theorem sectionEntries_truthy (path name : String) {value : Yaml} (counts : value.truthy = true)
    (other : ∀ entries, value ≠ .dict entries) :
    sectionEntries path name value =
      .error (.typeError s!"{name} must be a mapping (config: {path})") := by
  rw [sectionEntries, if_pos counts]
  cases value with
  | dict entries => exact absurd rfl (other entries)
  | none | bool | int | float | str | list | object => rfl

/-- The fields of a section raise what the items among them raise. -/
theorem raised_fields (path name : String) (entries : Section) (fields : List ConfigField) :
    raised (fields.mapM (readField path name entries)) =
      (fields.filterMap fun field => (entries.lookup (.str field.key)).map
        (.field name field)).findSome? (LoaderItem.raises path) := by
  rw [raised_mapM, findSome?_filterMap]
  congr 1
  funext field
  unfold readField
  cases entries.lookup (.str field.key) with
  | none => rfl
  | some raw => exact raised_map _ _

/-- A section that was read raises what its fields raise. -/
theorem raised_read_fields {path : String} {data entries : Section} {name : String}
    (fields : List ConfigField) (found : readSection path data name = .ok entries) :
    raised (readFields path data name fields) =
      (fields.filterMap fun field => (entries.lookup (.str field.key)).map
        (.field name field)).findSome? (LoaderItem.raises path) := by
  rw [← raised_fields, readFields, found]
  show raised (fields.mapM (readField path name entries) >>= fun values => .ok values.flatten) = _
  cases fields.mapM (readField path name entries) <;> rfl

/-- A section that was read as an empty one raises nothing. -/
theorem raised_read_empty {path : String} {data : Section} {name : String}
    (fields : List ConfigField) (found : readSection path data name = .ok []) :
    raised (readFields path data name fields) = none := by
  rw [raised_read_fields fields found]
  simp

/-- A section raises what its items raise. -/
theorem raised_readFields (path : String) (data : Section) (name : String)
    (fields : List ConfigField) :
    raised (readFields path data name fields) =
      (sectionItems data name fields).findSome? (LoaderItem.raises path) := by
  unfold sectionItems
  split
  · rename_i missing
    have read : readSection path data name = .ok [] := by
      rw [readSection, missing]
      rfl
    exact raised_read_empty fields read
  · rename_i entries found
    have read : readSection path data name = .ok entries := by
      rw [readSection, found]
      exact sectionEntries_dict path name entries
    rw [raised_read_fields fields read, List.findSome?_cons, LoaderItem.raises,
      sectionEntries_dict, raised_ok]
  · rename_i value other found
    rw [List.findSome?_singleton, LoaderItem.raises]
    cases counts : value.truthy with
    | false =>
      have empty := sectionEntries_falsy path name counts
      have read : readSection path data name = .ok [] := by
        rw [readSection, found]
        exact empty
      rw [raised_read_empty fields read, empty, raised_ok]
    | true =>
      have refused := sectionEntries_truthy path name counts other
      rw [readFields, readSection, found, Option.getD_some, refused]
      rfl

/-- The loader on a mapping. -/
theorem loadRiskConfig_dict (path : String) (data : Section) :
    loadRiskConfig path (.dict data) = unknownKeyWarnings path data >>= fun warnings =>
      (configSections.mapM fun part => readFields path data part.1 part.2) >>= fun values =>
        .ok ⟨values.flatten, warnings⟩ := rfl

/-- The loader raises the first error among the items of the document. -/
theorem raised_loadRiskConfig (path : String) (data : Section) :
    raised (loadRiskConfig path (.dict data)) =
      (loaderItems data).findSome? (LoaderItem.raises path) := by
  rw [loaderItems, List.findSome?_append, findSome?_flatMap, ← raised_unknownKeyWarnings,
    loadRiskConfig_dict]
  apply raised_bind
  intro warnings _
  have sections := raised_mapM (fun part : String × List ConfigField =>
    readFields path data part.1 part.2) configSections
  simp only [raised_readFields] at sections
  rw [← sections]
  cases configSections.mapM fun part => readFields path data part.1 part.2 <;> rfl

/-- The errors that the documentation names. -/
def Documented : PyError → Prop
  | .typeError _ | .valueError _ => True
  | .overflowError _ | .validationError _ => False

/-- What an item of a given standing raises. -/
def Standing.Raises : Standing → Option PyError → Prop
  | .refused, some error => Documented error
  | .oversized, some error => ¬ Documented error
  | .taken, none | .missed, none => True
  | _, _ => False

/-- A number that was read is refused by its range or taken. -/
theorem readNumber_raises (range : RangeCheck) (store : PyFloat → PyFloat) (path yamlKey : String)
    {raw : Yaml} {value : PyFloat} (read : requireNumber raw path yamlKey = .ok value) :
    (range.standing value).Raises (raised (readNumber range store path yamlKey raw)) := by
  rw [readNumber, read, RangeCheck.standing]
  simp only [bind, Except.bind]
  cases range.violation value with
  | some missed => trivial
  | none =>
    by_cases slip : range = .positive ∧ value = .nan
    · rw [if_neg (by simp), if_pos slip]
      trivial
    · rw [if_neg (by simp), if_neg slip]
      trivial

/-- The reading of a count refuses what is negative or no `int`. -/
theorem readCount_raises (path yamlKey : String) (raw : Yaml) :
    (FieldKind.count.standing raw).Raises (raised (readCount path yamlKey raw)) := by
  cases raw with
  | int n =>
    rw [FieldKind.standing, readCount]
    by_cases negative : n < 0
    · rw [if_pos negative, if_pos negative, intText]
      split <;> trivial
    · rw [if_neg negative, if_neg negative]
      trivial
  | none | bool | float | str | list | dict | object => trivial

/-- A value under a key raises what its standing says. -/
theorem read_raises (field : ConfigField) (path name : String) (raw : Yaml) :
    (field.kind.standing raw).Raises (raised (field.read path name raw)) := by
  unfold ConfigField.read
  cases field.kind with
  | number range store =>
    cases raw with
    | int n =>
      by_cases fits : n.natAbs < PyNum.floatLimit
      · rw [FieldKind.standing, if_pos fits]
        exact readNumber_raises range store path _ (if_pos fits)
      · rw [FieldKind.standing, if_neg fits]
        simp only [readNumber, requireNumber, if_neg fits]
        exact not_false
    | float x => exact readNumber_raises range store path _ rfl
    | none | bool | str | list | dict | object => trivial
  | count => exact readCount_raises path _ raw

omit [FloatFormat] in
/-- The value of a section raises what its standing says. -/
theorem section_raises (path name : String) (value : Yaml) :
    (sectionStanding value).Raises (raised (sectionEntries path name value)) := by
  cases value with
  | dict entries =>
    rw [sectionEntries_dict]
    trivial
  | none => trivial
  | bool | int | float | str | list | object =>
    rename_i content
    rw [sectionStanding]
    · split
      · rename_i counts
        rw [sectionEntries_truthy path name counts (fun _ => nofun)]
        trivial
      · rename_i falsy
        rw [sectionEntries_falsy path name (Bool.eq_false_iff.mpr falsy)]
        trivial
    all_goals nofun

/-- An item raises what its standing says. -/
theorem LoaderItem.standing_raises (path : String) (item : LoaderItem) :
    item.standing.Raises (item.raises path) := by
  cases item with
  | key unknown =>
    cases unknown with
    | int n =>
      rw [LoaderItem.standing, LoaderItem.raises, PyKey.text, intText]
      split <;> trivial
    | bool value => cases value <;> trivial
    | none | float | str | object => trivial
  | group name value => exact section_raises path name value
  | field name asked raw => exact read_raises asked path name raw

/-- Exactly the refused items raise a documented error. -/
theorem refused_iff (path : String) (item : LoaderItem) : item.standing = .refused ↔
    ∃ error, item.raises path = some error ∧ Documented error := by
  have answer := item.standing_raises path
  cases standing : item.standing <;> cases raised : item.raises path <;>
    simp_all [Standing.Raises]

/-- Exactly the oversized items raise another error. -/
theorem oversized_iff (path : String) (item : LoaderItem) : item.standing = .oversized ↔
    ∃ error, item.raises path = some error ∧ ¬ Documented error := by
  have answer := item.standing_raises path
  cases standing : item.standing <;> cases raised : item.raises path <;>
    simp_all [Standing.Raises]

/-- A refused number is reported under the full name of its field. -/
theorem readNumber_names {range : RangeCheck} {store : PyFloat → PyFloat} {path yamlKey : String}
    {raw : Yaml} {error : PyError}
    (refused : readNumber range store path yamlKey raw = .error error)
    (documented : Documented error) : ∃ text, error.message = yamlKey ++ text := by
  cases Fallible.bind_error_iff.mp refused with
  | inl unread =>
    cases raw with
    | int n =>
      rw [requireNumber] at unread
      split at unread
      · contradiction
      · cases unread
        exact documented.elim
    | float x => contradiction
    | none | bool | str | list | dict | object =>
      cases unread
      simp only [PyError.message, toString, String.append_assoc]
      exact ⟨_, rfl⟩
  | inr read =>
    obtain ⟨value, _, missed⟩ := read
    split at missed
    · cases missed
      simp only [PyError.message, toString, String.append_assoc]
      exact ⟨_, rfl⟩
    · contradiction

omit [FloatFormat] in
/-- A refused count is reported under the full name of its field, unless it cannot be written. -/
theorem readCount_names {path yamlKey : String} {raw : Yaml} {error : PyError}
    (refused : readCount path yamlKey raw = .error error) :
    (∃ text, error.message = yamlKey ++ text) ∨ ∃ n : ℤ, raw = .int n ∧ textLimit ≤ n.natAbs := by
  cases raw with
  | int n =>
    rw [readCount] at refused
    by_cases short : n.natAbs < textLimit
    · rw [intText, if_pos short] at refused
      split at refused
      · cases refused
        simp only [PyError.message, toString, String.append_assoc]
        exact .inl ⟨_, rfl⟩
      · contradiction
    · exact .inr ⟨n, rfl, not_lt.mp short⟩
  | none | bool | float | str | list | dict | object =>
    cases refused
    simp only [PyError.message, toString, String.append_assoc]
    exact .inl ⟨_, rfl⟩

/-- A documented error names the field that it was raised at, by its section and its key. -/
theorem read_names {field : ConfigField} {path name : String} {raw : Yaml} {error : PyError}
    (refused : field.read path name raw = .error error) (documented : Documented error) :
    (∃ text, error.message = name ++ "." ++ field.key ++ text) ∨
      ∃ n : ℤ, raw = .int n ∧ textLimit ≤ n.natAbs := by
  unfold ConfigField.read at refused
  cases kind : field.kind with
  | number range store =>
    rw [kind] at refused
    exact .inl (readNumber_names refused documented)
  | count =>
    rw [kind] at refused
    exact readCount_names refused

/-- The recognised fields, each with the name of its section. -/
def recognisedFields : List (String × ConfigField) :=
  configSections.flatMap fun (name, fields) => fields.map (name, ·)

/-- A field is recognised in its section. -/
theorem mem_recognisedFields (asked : String × ConfigField) : asked ∈ recognisedFields ↔
    ∃ part ∈ configSections, part.1 = asked.1 ∧ asked.2 ∈ part.2 := by
  unfold recognisedFields
  rw [List.mem_flatMap]
  constructor
  · intro ⟨part, member, inside⟩
    obtain ⟨field, listed, rfl⟩ := List.mem_map.mp inside
    exact ⟨part, member, rfl, listed⟩
  · intro ⟨part, member, same, listed⟩
    exact ⟨part, member, List.mem_map.mpr ⟨asked.2, listed, Prod.ext same rfl⟩⟩

/-- The keys of the result. -/
theorem recognised_outKeys : recognisedFields.map (fun asked => asked.2.outKey) =
    ["max_daily_drawdown_pct", "max_correlated_exposure", "max_cluster_usd",
      "min_expected_value", "consecutive_loss_limit", "consecutive_loss_window_minutes",
      "kelly_conservative_fraction"] := rfl

/-- No two recognised fields share a key of the result. -/
theorem recognised_outKey {asked asked' : String × ConfigField} (member : asked ∈ recognisedFields)
    (member' : asked' ∈ recognisedFields) (same : asked.2.outKey = asked'.2.outKey) :
    asked = asked' := by
  have distinct : (recognisedFields.map fun asked => asked.2.outKey).Nodup := by
    rw [recognised_outKeys]
    decide
  exact List.inj_on_of_nodup_map distinct member member' same

omit [FloatFormat] in
/-- The value under the key of a field, where its section is a mapping. -/
def fieldValue (data : Section) (asked : String × ConfigField) : Option Yaml :=
  match data.lookup (.str asked.1) with
  | some (.dict entries) => entries.lookup (.str asked.2.key)
  | _ => none

omit [FloatFormat] in
/-- The fields of a mapping. -/
theorem fieldValue_dict {data entries : Section} {name : String} (field : ConfigField)
    (found : data.lookup (.str name) = some (.dict entries)) :
    fieldValue data (name, field) = entries.lookup (.str field.key) := by
  rw [fieldValue, found]

omit [FloatFormat] in
/-- No other section has fields. -/
theorem fieldValue_other {data : Section} {name : String} (field : ConfigField)
    (other : ∀ entries, data.lookup (.str name) ≠ some (.dict entries)) :
    fieldValue data (name, field) = none := by
  unfold fieldValue
  split
  · rename_i entries found
    exact absurd found (other entries)
  · rfl

omit [FloatFormat] in
/-- A section that was read is a mapping or stands for an empty one. -/
theorem sectionEntries_ok {path name : String} {value : Yaml} {entries : Section}
    (read : sectionEntries path name value = .ok entries) :
    value = .dict entries ∨ (∀ own, value ≠ .dict own) ∧ entries = [] := by
  by_cases mapping : ∃ own, value = .dict own
  · obtain ⟨own, rfl⟩ := mapping
    rw [sectionEntries_dict] at read
    cases read
    exact .inl rfl
  · have other : ∀ own, value ≠ .dict own := fun own same => mapping ⟨own, same⟩
    cases counts : value.truthy with
    | false =>
      rw [sectionEntries_falsy path name counts] at read
      cases read
      exact .inr ⟨other, rfl⟩
    | true =>
      rw [sectionEntries_truthy path name counts other] at read
      contradiction

omit [FloatFormat] in
/-- The entries of a section that was read hold the values of its fields. -/
theorem readSection_lookup {path name : String} {data entries : Section} (field : ConfigField)
    (read : readSection path data name = .ok entries) :
    entries.lookup (.str field.key) = fieldValue data (name, field) := by
  unfold readSection at read
  rcases sectionEntries_ok read with mapping | ⟨other, rfl⟩
  · cases found : data.lookup (.str name) with
    | none =>
      rw [found] at mapping
      cases mapping
      rw [fieldValue_other field (by simp [found])]
      rfl
    | some value =>
      rw [found, Option.getD_some] at mapping
      rw [fieldValue_dict field (by rw [found, mapping])]
  · rw [fieldValue_other]
    · rfl
    · intro own found
      rw [found] at other
      exact other own rfl

/-- A section adds what is read under the key of a field. -/
theorem readField_entry_iff {path name : String} {data entries : Section} {field : ConfigField}
    (read : readSection path data name = .ok entries) (key : String) (value : PyNum) :
    (∃ part, readField path name entries field = .ok part ∧ (key, value) ∈ part) ↔
      ∃ raw, fieldValue data (name, field) = some raw ∧ field.read path name raw = .ok value ∧
        key = field.outKey := by
  rw [readField, readSection_lookup field read]
  cases fieldValue data (name, field) with
  | none => simp
  | some raw =>
    constructor
    · intro ⟨part, added, member⟩
      obtain ⟨stored, found, rfl⟩ := Fallible.map_ok_iff.mp added
      cases List.mem_singleton.mp member
      exact ⟨raw, rfl, found, rfl⟩
    · rintro ⟨_, same, found, rfl⟩
      cases same
      exact ⟨_, Fallible.map_ok_iff.mpr ⟨value, found, rfl⟩, List.mem_singleton.mpr rfl⟩

/-- A section adds what is read under the keys of its fields. -/
theorem readFields_entry_iff {path name : String} {data : Section} {fields : List ConfigField}
    {part : List (String × PyNum)} (read : readFields path data name fields = .ok part)
    (key : String) (value : PyNum) : (key, value) ∈ part ↔ ∃ field ∈ fields, ∃ raw,
      fieldValue data (name, field) = some raw ∧ field.read path name raw = .ok value ∧
        key = field.outKey := by
  obtain ⟨entries, found, read⟩ := ok_of_bind read
  obtain ⟨parts, each, read⟩ := ok_of_bind read
  cases read
  simp only [Fallible.mem_flatten_mapM_iff each, readField_entry_iff found]

/-- The result holds, under the key of each recognised field that is present, what was read
there, and nothing else. -/
theorem loaded_entry_iff {path : String} {data : Section} {config : LoadedConfig}
    (loaded : loadRiskConfig path (.dict data) = .ok config) (key : String) (value : PyNum) :
    (key, value) ∈ config.values ↔ ∃ asked ∈ recognisedFields, ∃ raw,
      fieldValue data asked = some raw ∧ asked.2.read path asked.1 raw = .ok value ∧
        key = asked.2.outKey := by
  rw [loadRiskConfig_dict] at loaded
  obtain ⟨warnings, _, loaded⟩ := ok_of_bind loaded
  obtain ⟨parts, read, loaded⟩ := ok_of_bind loaded
  cases loaded
  rw [Fallible.mem_flatten_mapM_iff read]
  constructor
  · intro ⟨part, member, added, found, inside⟩
    obtain ⟨field, listed, raw, present⟩ := (readFields_entry_iff found key value).mp inside
    exact ⟨(part.1, field), (mem_recognisedFields _).mpr ⟨part, member, rfl, listed⟩, raw, present⟩
  · intro ⟨⟨name, field⟩, recognised, raw, present⟩
    obtain ⟨part, member, rfl, listed⟩ := (mem_recognisedFields _).mp recognised
    obtain ⟨added, found⟩ := Fallible.mapM_returns_iff.mp ⟨parts, read⟩ part member
    exact ⟨part, member, added, found,
      (readFields_entry_iff found key value).mpr ⟨field, listed, raw, present⟩⟩

/-- What is found under the key of a recognised field was read there. -/
theorem read_of_loaded_lookup {path : String} {data : Section} {config : LoadedConfig}
    (loaded : loadRiskConfig path (.dict data) = .ok config) {asked : String × ConfigField}
    (member : asked ∈ recognisedFields) {value : PyNum}
    (lookup : config.values.lookup asked.2.outKey = some value) :
    ∃ raw, fieldValue data asked = some raw ∧ asked.2.read path asked.1 raw = .ok value := by
  obtain ⟨before, after, split, _⟩ := List.lookup_eq_some_iff.mp lookup
  have entry : (asked.2.outKey, value) ∈ config.values := by
    rw [split]
    simp
  obtain ⟨asked', member', raw, present, read, same⟩ := (loaded_entry_iff loaded _ _).mp entry
  have unique : asked = asked' := recognised_outKey member member' same
  rw [unique]
  exact ⟨raw, present, read⟩

/-- A recognised field is looked up as what was read. -/
theorem loaded_lookup_iff {path : String} {data : Section} {config : LoadedConfig}
    (loaded : loadRiskConfig path (.dict data) = .ok config) {asked : String × ConfigField}
    (member : asked ∈ recognisedFields) (value : PyNum) :
    config.values.lookup asked.2.outKey = some value ↔
      ∃ raw, fieldValue data asked = some raw ∧ asked.2.read path asked.1 raw = .ok value := by
  constructor
  · intro lookup
    exact read_of_loaded_lookup loaded member lookup
  · intro ⟨raw, present, read⟩
    have entry := (loaded_entry_iff loaded _ value).mpr ⟨asked, member, raw, present, read, rfl⟩
    cases lookup : config.values.lookup asked.2.outKey with
    | none => simpa using List.lookup_eq_none_iff.mp lookup _ entry
    | some found =>
      obtain ⟨raw', present', read'⟩ := read_of_loaded_lookup loaded member lookup
      rw [present, Option.some.injEq] at present'
      rw [present', read', Except.ok.injEq] at read
      rw [read]

/-- The number that a value denotes as a float. -/
def Yaml.asFloat : Yaml → Option PyFloat
  | .int n => if n.natAbs < PyNum.floatLimit then some (PyNum.int n).toFloat else none
  | .float x => some x
  | _ => none

/-- The documented reading of a value: a number in its range, stored as the field says, or an
`int` that is not negative, stored as it is. -/
def FieldKind.Admits : FieldKind → Yaml → PyNum → Prop
  | .number range store, raw, value =>
    ∃ x, Yaml.asFloat raw = some x ∧ range.Holds x ∧ value = .float (store x)
  | .count, raw, value => ∃ n : ℤ, raw = .int n ∧ 0 ≤ n ∧ value = .int n

/-- Every section that is present is null or a mapping, and every recognised field that is present
is in the result under its key, with a value in its range. -/
structure LoadedFaithfully (data : Section) (config : LoadedConfig) : Prop where
  sections : ∀ name ∈ knownTopLevelKeys, ∀ value, data.lookup (.str name) = some value →
    value = .none ∨ ∃ entries, value = .dict entries
  fields : ∀ asked ∈ recognisedFields, ∀ raw, fieldValue data asked = some raw →
    ∃ value, asked.2.kind.Admits raw value ∧ config.values.lookup asked.2.outKey = some value

/-- The loader returns what the document says or raises a documented error. -/
def NoSilentFallback (path : String) (data : Section) : Prop :=
  match loadRiskConfig path (.dict data) with
  | .ok config => LoadedFaithfully data config
  | .error error => Documented error

omit [FloatFormat] in
/-- The items of a section are its value and the fields that are present in it. -/
theorem mem_sectionItems (data : Section) (name : String) (fields : List ConfigField)
    (item : LoaderItem) : item ∈ sectionItems data name fields ↔
      (∃ value, data.lookup (.str name) = some value ∧ item = .group name value) ∨
      ∃ field ∈ fields, ∃ raw, fieldValue data (name, field) = some raw ∧
        item = .field name field raw := by
  unfold sectionItems
  split
  · rename_i missing
    simp [missing, fieldValue]
  · rename_i entries found
    rw [List.mem_cons, List.mem_filterMap]
    simp only [found, fieldValue_dict _ found, Option.map_eq_some_iff, Option.some.injEq,
      exists_eq_left', @eq_comm _ item]
  · rename_i value other found
    have none : ∀ field, fieldValue data (name, field) = none := by
      intro field
      apply fieldValue_other
      intro entries same
      rw [found, Option.some.injEq] at same
      exact other entries same
    simp [found, none]

/-- A section is looked at when it is known and present. -/
theorem group_mem_loaderItems (data : Section) (name : String) (value : Yaml) :
    .group name value ∈ loaderItems data ↔
      name ∈ knownTopLevelKeys ∧ data.lookup (.str name) = some value := by
  have names : knownTopLevelKeys = configSections.map Prod.fst := rfl
  rw [names, loaderItems, List.mem_append, List.mem_flatMap, List.mem_map, List.mem_map]
  simp only [mem_sectionItems]
  constructor
  · rintro (⟨_, _, same⟩ | ⟨part, member, ⟨value', found, same⟩ | ⟨_, _, _, _, same⟩⟩)
    · contradiction
    · cases same
      exact ⟨⟨part, member, rfl⟩, found⟩
    · contradiction
  · rintro ⟨⟨part, member, rfl⟩, found⟩
    exact .inr ⟨part, member, .inl ⟨value, found, rfl⟩⟩

/-- A field is looked at when it is recognised and present. -/
theorem field_mem_loaderItems (data : Section) (asked : String × ConfigField) (raw : Yaml) :
    .field asked.1 asked.2 raw ∈ loaderItems data ↔
      asked ∈ recognisedFields ∧ fieldValue data asked = some raw := by
  rw [mem_recognisedFields, loaderItems, List.mem_append, List.mem_flatMap, List.mem_map]
  simp only [mem_sectionItems]
  constructor
  · rintro (⟨_, _, same⟩ |
      ⟨part, member, ⟨value', found, same⟩ | ⟨field, listed, raw', found, same⟩⟩)
    · contradiction
    · contradiction
    · injection same with name kind value
      subst kind value
      rw [← name] at found
      exact ⟨⟨part, member, name.symm, listed⟩, found⟩
  · intro ⟨⟨part, member, same, listed⟩, found⟩
    refine .inr ⟨part, member, .inr ⟨asked.2, listed, raw, ?_, ?_⟩⟩
    · rw [same]
      exact found
    · rw [same]

omit [FloatFormat] in
/-- Above zero is what is not at most zero, except for NaN. -/
theorem positive_iff (value : PyFloat) :
    (0 : PyFloat).lt value = true ↔ value.le 0 = false ∧ value ≠ .nan := by
  have finite : value.isFinite = true → ((0 : PyFloat).lt value = true ↔ value.le 0 = false) := by
    intro finite
    rw [Bool.eq_false_iff, Ne, PyFloat.lt_iff rfl finite, PyFloat.le_iff finite rfl, not_le]
  cases value with
  | nan | posInf | negInf => decide +kernel
  | negZero => simpa using finite rfl
  | finite q => simpa using finite rfl

omit [FloatFormat] in
/-- A number is taken when it is in the documented range. -/
theorem taken_iff_holds (range : RangeCheck) (value : PyFloat) :
    range.standing value = .taken ↔ range.Holds value := by
  cases range with
  | unitInterval =>
    simp [RangeCheck.standing, RangeCheck.violation, RangeCheck.Holds]
  | positive =>
    rw [RangeCheck.Holds, positive_iff]
    by_cases nan : value = .nan
    · simp [RangeCheck.standing, RangeCheck.violation, nan, PyFloat.le, PyFloat.lt, PyFloat.eq]
    · simp [RangeCheck.standing, RangeCheck.violation, nan]
  | unchecked => simp [RangeCheck.standing, RangeCheck.violation, RangeCheck.Holds]

/-- A value that denotes a float is read as it. -/
theorem requireNumber_ok_iff {raw : Yaml} {path yamlKey : String} {value : PyFloat} :
    requireNumber raw path yamlKey = .ok value ↔ Yaml.asFloat raw = some value := by
  cases raw with
  | int n =>
    rw [requireNumber, Yaml.asFloat]
    split <;> simp
  | float x => simp [requireNumber, Yaml.asFloat]
  | none | bool | str | list | dict | object => simp [requireNumber, Yaml.asFloat]

/-- A value that denotes a float has the standing of that float. -/
theorem standing_asFloat {raw : Yaml} {value : PyFloat} (number : Yaml.asFloat raw = some value)
    (range : RangeCheck) (store : PyFloat → PyFloat) :
    (FieldKind.number range store).standing raw = range.standing value := by
  cases raw with
  | int n =>
    rw [Yaml.asFloat] at number
    split at number
    · rename_i fits
      cases number
      rw [FieldKind.standing, if_pos fits]
    · contradiction
  | float x =>
    cases number
    rfl
  | none | bool | str | list | dict | object => contradiction

/-- A value is taken when it has a documented reading. -/
theorem taken_of_admits {kind : FieldKind} {raw : Yaml} {value : PyNum}
    (admitted : kind.Admits raw value) : kind.standing raw = .taken := by
  cases kind with
  | number range store =>
    obtain ⟨x, number, holds, _⟩ := admitted
    rw [standing_asFloat number, taken_iff_holds]
    exact holds
  | count =>
    obtain ⟨n, rfl, natural, _⟩ := admitted
    exact if_neg (not_lt.mpr natural)

/-- A numeric field that was read denotes a float that passed the range check. -/
theorem read_number {field : ConfigField} {range : RangeCheck} {store : PyFloat → PyFloat}
    (kind : field.kind = .number range store) {path name : String} {raw : Yaml} {value : PyNum}
    (read : field.read path name raw = .ok value) :
    ∃ x, Yaml.asFloat raw = some x ∧ range.violation x = none ∧ value = .float (store x) := by
  rw [ConfigField.read, kind] at read
  obtain ⟨x, number, stored⟩ := ok_of_bind read
  refine ⟨x, requireNumber_ok_iff.mp number, ?_⟩
  cases violation : range.violation x with
  | some missed =>
    rw [violation] at stored
    contradiction
  | none =>
    rw [violation] at stored
    cases stored
    exact ⟨rfl, rfl⟩

/-- A count that was read is an `int` that is not negative. -/
theorem read_count {field : ConfigField} (kind : field.kind = .count) {path name : String}
    {raw : Yaml} {value : PyNum} (read : field.read path name raw = .ok value) :
    ∃ n : ℤ, raw = .int n ∧ 0 ≤ n ∧ value = .int n := by
  rw [ConfigField.read, kind] at read
  cases raw with
  | int n =>
    simp only [readCount] at read
    split at read
    · obtain ⟨_, _, refused⟩ := ok_of_bind read
      contradiction
    · rename_i natural
      cases read
      exact ⟨n, rfl, not_lt.mp natural, rfl⟩
  | none | bool | float | str | list | dict | object => contradiction

/-- A value that was read and is not missed has been read as documented. -/
theorem read_admitted {field : ConfigField} {path name : String} {raw : Yaml} {value : PyNum}
    (read : field.read path name raw = .ok value) (kept : field.kind.standing raw ≠ .missed) :
    field.kind.Admits raw value := by
  cases kind : field.kind with
  | number range store =>
    obtain ⟨x, denoted, passed, stored⟩ := read_number kind read
    rw [kind, standing_asFloat denoted] at kept
    have taken : range.standing x = .taken := by
      rw [RangeCheck.standing, passed] at kept ⊢
      split_ifs at kept ⊢ <;> trivial
    exact ⟨x, denoted, (taken_iff_holds range x).mp taken, stored⟩
  | count => exact read_count kind read

omit [FloatFormat] in
/-- The value of a section that is neither refused nor missed is null or a mapping. -/
theorem section_taken {value : Yaml} (accepted : sectionStanding value ≠ .refused)
    (kept : sectionStanding value ≠ .missed) :
    value = .none ∨ ∃ entries, value = .dict entries := by
  cases value with
  | none => exact .inl rfl
  | dict entries => exact .inr ⟨entries, rfl⟩
  | bool | int | float | str | list | object =>
    simp only [sectionStanding] at accepted kept
    split at accepted
    · exact absurd rfl accepted
    · rename_i falsy
      exact absurd (if_neg falsy) kept

/-- Nothing that a loaded document holds raises anything. -/
theorem loaded_raises_none {path : String} {data : Section} {config : LoadedConfig}
    (loaded : loadRiskConfig path (.dict data) = .ok config) {item : LoaderItem}
    (member : item ∈ loaderItems data) : item.raises path = none := by
  have silent : raised (loadRiskConfig path (.dict data)) = none := by
    rw [loaded, raised_ok]
  rw [raised_loadRiskConfig] at silent
  exact List.findSome?_eq_none_iff.mp silent item member

/-- A result that is faithful to a document missed nothing in it. -/
theorem not_missed_of_faithful {data : Section} {config : LoadedConfig}
    (faithful : LoadedFaithfully data config) {item : LoaderItem}
    (member : item ∈ loaderItems data) : item.standing ≠ .missed := by
  intro missed
  cases item with
  | key unknown =>
    cases unknown with
    | int n =>
      rw [LoaderItem.standing] at missed
      split at missed <;> contradiction
    | none | bool | float | str | object => contradiction
  | group name value =>
    obtain ⟨known, found⟩ := (group_mem_loaderItems data name value).mp member
    rcases faithful.sections name known value found with rfl | ⟨entries, rfl⟩ <;> contradiction
  | field name field raw =>
    obtain ⟨recognised, found⟩ := (field_mem_loaderItems data (name, field) raw).mp member
    obtain ⟨value, admitted, _⟩ := faithful.fields (name, field) recognised raw found
    have taken : field.kind.standing raw = .taken := taken_of_admits admitted
    have same : Standing.taken = .missed := taken.symm.trans missed
    contradiction

/-- A known section of a loaded document that was not missed is null or a mapping. -/
theorem loaded_section {path : String} {data : Section} {config : LoadedConfig}
    (loaded : loadRiskConfig path (.dict data) = .ok config)
    (kept : ∀ item ∈ loaderItems data, item.standing ≠ .missed) {name : String} {value : Yaml}
    (known : name ∈ knownTopLevelKeys) (found : data.lookup (.str name) = some value) :
    value = .none ∨ ∃ entries, value = .dict entries := by
  have member := (group_mem_loaderItems data name value).mpr ⟨known, found⟩
  have silent := loaded_raises_none loaded member
  have accepted : sectionStanding value ≠ .refused := by
    intro refused
    obtain ⟨error, raises, _⟩ := (refused_iff path (.group name value)).mp refused
    rw [silent] at raises
    contradiction
  exact section_taken accepted (kept _ member)

/-- A recognised field of a loaded document that was not missed is in the result with a value in
its range. -/
theorem loaded_field {path : String} {data : Section} {config : LoadedConfig}
    (loaded : loadRiskConfig path (.dict data) = .ok config)
    (kept : ∀ item ∈ loaderItems data, item.standing ≠ .missed) {asked : String × ConfigField}
    {raw : Yaml} (recognised : asked ∈ recognisedFields)
    (found : fieldValue data asked = some raw) :
    ∃ value, asked.2.kind.Admits raw value ∧
      config.values.lookup asked.2.outKey = some value := by
  have member := (field_mem_loaderItems data asked raw).mpr ⟨recognised, found⟩
  have silent := loaded_raises_none loaded member
  obtain ⟨value, read⟩ := raised_eq_none_iff.mp silent
  have admitted := read_admitted read (kept _ member)
  have stored := (loaded_lookup_iff loaded recognised value).mpr ⟨raw, found, read⟩
  exact ⟨value, admitted, stored⟩

/-- A result is faithful exactly when nothing in the document was missed. -/
theorem loadedFaithfully_iff {path : String} {data : Section} {config : LoadedConfig}
    (loaded : loadRiskConfig path (.dict data) = .ok config) :
    LoadedFaithfully data config ↔ ∀ item ∈ loaderItems data, item.standing ≠ .missed := by
  constructor
  · intro faithful item member
    exact not_missed_of_faithful faithful member
  · intro kept
    constructor
    · intro name known value found
      exact loaded_section loaded kept known found
    · intro asked recognised raw found
      exact loaded_field loaded kept recognised found

/-- The loader returns what the document says or raises a documented error exactly when an item is
refused before any `int` is too large for a double, or when no `int` is too large and nothing is
missed. -/
theorem no_silent_fallback_iff (path : String) (data : Section) :
    NoSilentFallback path data ↔
      (∃ before item after, loaderItems data = before ++ item :: after ∧
        item.standing = .refused ∧ ∀ earlier ∈ before, earlier.standing ≠ .oversized) ∨
      ∀ item ∈ loaderItems data, item.standing ≠ .oversized ∧ item.standing ≠ .missed := by
  rw [← sound_iff (loaderItems data) (refused_iff path) (oversized_iff path),
    ← raised_loadRiskConfig, NoSilentFallback]
  cases loaded : loadRiskConfig path (.dict data) with
  | error error => simp
  | ok config => simpa using loadedFaithfully_iff loaded

end Answers

section Example

attribute [local instance] FloatFormat.exact

/-- A section that is `false` is loaded as if it were empty. -/
theorem false_section_loaded :
    ¬ NoSilentFallback "/risk_config.yaml" [(.str "drawdown", .bool false)] := by
  have loaded : loadRiskConfig "/risk_config.yaml" (.dict [(.str "drawdown", .bool false)]) =
      .ok ⟨[], []⟩ := rfl
  intro faithful
  unfold NoSilentFallback at faithful
  rw [loaded] at faithful
  have mapping := faithful.sections "drawdown" (by decide) (.bool false) rfl
  simp at mapping

end Example

end VerdictRisk
