import VerdictRisk.Python.Json

/-!
# Typed decoding

A `msgspec.Struct` is decoded field by field according to its annotations: unknown keys are
ignored and absent fields take their defaults. A `Slot` is the JSON form of one type, `Fields`
that of some fields of a struct. Both carry what each direction keeps: which accepted values
are written back as they were, and which written values are read back as equal ones. Optional
values, tuples, further fields and constructor checks compose the two.
-/

namespace Python

/-- The JSON form of the values of a type. -/
structure Slot (codec : Msgspec) (α : Type) where
  /-- The value read, if it is accepted. -/
  read : Json → Option α
  /-- The value written. -/
  write : α → Json
  /-- `left == right` -/
  eq : α → α → Bool
  /-- An accepted JSON value that is written back as it was. -/
  Exact : Json → Prop
  /-- A value that is read back as an equal one. -/
  Survives : α → Prop
  /-- Reading and writing back. -/
  write_read : ∀ json value, read json = some value →
    (Json.Same codec (write value) json ↔ Exact json)
  /-- Writing and reading back. -/
  read_write : ∀ value, (∃ back, read (write value) = some back ∧ eq value back = true) ↔
    Survives value

namespace Slot

variable {codec : Msgspec}

/-- A `bool`. -/
def bool : Slot codec Bool where
  read
    | .bool value => some value
    | _ => none
  write := .bool
  eq := (· == ·)
  Exact _ := True
  Survives _ := True
  write_read := by
    intro json value accepted
    cases json <;> simp at accepted
    rw [accepted]
    exact iff_of_true (.bool value) trivial
  read_write := by
    intro value
    simp

/-- A `str`. -/
def str : Slot codec String where
  read
    | .str text => some text
    | _ => none
  write := .str
  eq := (· == ·)
  Exact _ := True
  Survives _ := True
  write_read := by
    intro json value accepted
    cases json <;> simp at accepted
    rw [accepted]
    exact iff_of_true (.str value) trivial
  read_write := by
    intro value
    simp

/-- An `int`. -/
def int : Slot codec ℤ where
  read
    | .int n => some n
    | .float x => codec.intOfFloat x.val
    | _ => none
  write := .int
  eq := (· == ·)
  Exact _ := True
  Survives _ := True
  write_read := by
    intro json value accepted
    refine iff_of_true ?_ trivial
    cases json with
    | int n =>
      cases accepted
      exact .number rfl rfl
    | float x =>
      have integral := codec.intOfFloat_value x.val value accepted
      exact .number rfl (congrArg some integral)
    | _ => contradiction
  read_write := by
    intro value
    simp

/-- A `float` slot, which an object constructed in the program may fill with an `int`: the
integer of a text becomes a float, and a float that is not finite is written as `null`. -/
def number [FloatFormat] : Slot codec PyNum where
  read
    | .int n =>
      let x := FloatFormat.round n
      if x.isFinite then some (.float x) else none
    | .float x => some (.float x.val)
    | _ => none
  write
    | .int n => .int n
    | .float x => if finite : x.isFinite = true then .float ⟨x, finite⟩ else .null
  eq := PyNum.eq
  Exact
    | .int n => (FloatFormat.round n).value = n
    | _ => True
  Survives x := x.toFloat.isFinite = true ∧ x.eq (.float x.toFloat) = true
  write_read := by
    intro json value accepted
    cases json with
    | int n =>
      obtain ⟨finite, accepted⟩ := Option.ite_none_right_eq_some.mp accepted
      cases accepted
      simp only [dif_pos finite]
      constructor
      · intro same
        cases same with
        | number left right =>
          cases right
          exact Option.some.inj left
      · intro exact
        exact .number (congrArg some exact) rfl
    | float x =>
      cases accepted
      simp only [dif_pos x.property]
      exact iff_of_true (.number rfl rfl) trivial
    | _ => contradiction
  read_write := by
    intro value
    cases value with
    | int n => simp [PyNum.toFloat]
    | float x =>
      by_cases finite : x.isFinite = true
      · have reflexive : x.eq x = true := (PyFloat.eq_iff finite finite).mpr rfl
        simp [PyNum.toFloat, finite, PyNum.eq, PyNum.exact, reflexive]
      · simp [PyNum.toFloat, finite]

/-- A `float` slot that holds a finite float. -/
def float [FloatFormat] : Slot codec { x : PyFloat // x.isFinite = true } where
  read
    | .int n =>
      if finite : (FloatFormat.round n).isFinite = true then some ⟨FloatFormat.round n, finite⟩
      else none
    | .float x => some x
    | _ => none
  write := .float
  eq left right := left.val.eq right.val
  Exact
    | .int n => (FloatFormat.round n).value = n
    | _ => True
  Survives _ := True
  write_read := by
    intro json value accepted
    cases json with
    | int n =>
      obtain ⟨finite, accepted⟩ := Option.dite_none_right_eq_some.mp accepted
      cases accepted
      constructor
      · intro same
        cases same with
        | number left right =>
          cases right
          exact Option.some.inj left
      · intro exact
        exact .number (congrArg some exact) rfl
    | float x =>
      cases accepted
      exact iff_of_true (.number rfl rfl) trivial
    | _ => contradiction
  read_write := by
    intro value
    have reflexive : value.val.eq value.val = true :=
      (PyFloat.eq_iff value.property value.property).mpr rfl
    exact iff_of_true ⟨value, rfl, reflexive⟩ trivial

/-- A `datetime`. -/
def timestamp : Slot codec DateTime where
  read
    | .str text => codec.parse text
    | _ => none
  write dt := .str (codec.format dt)
  eq := DateTime.eq
  Exact _ := True
  Survives dt := ∃ back, codec.parse (codec.format dt) = some back ∧ dt.eq back = true
  write_read := by
    intro json dt accepted
    refine iff_of_true ?_ trivial
    cases json with
    | str text =>
      obtain ⟨_, whole⟩ := codec.parse_plain text dt accepted
      obtain ⟨back, parsed, mode, instant⟩ := codec.parse_format dt whole
      exact .timestamp parsed accepted ⟨mode.symm, instant.symm⟩
    | _ => contradiction
  read_write _ := Iff.rfl

/-- What a Boolean slot accepts is written back as it was. -/
@[simp] theorem bool_exact (json : Json) : (bool : Slot codec Bool).Exact json := trivial

/-- A Boolean is read back as it was. -/
@[simp] theorem bool_survives (value : Bool) : (bool : Slot codec Bool).Survives value := trivial

/-- What a text slot accepts is written back as it was. -/
@[simp] theorem str_exact (json : Json) : (str : Slot codec String).Exact json := trivial

/-- A text is read back as it was. -/
@[simp] theorem str_survives (text : String) : (str : Slot codec String).Survives text := trivial

/-- What an integer slot accepts is written back as it was. -/
@[simp] theorem int_exact (json : Json) : (int : Slot codec ℤ).Exact json := trivial

/-- An integer is read back as it was. -/
@[simp] theorem int_survives (n : ℤ) : (int : Slot codec ℤ).Survives n := trivial

/-- What a timestamp slot accepts is written back as it was. -/
@[simp] theorem timestamp_exact (json : Json) :
    (timestamp : Slot codec DateTime).Exact json :=
  trivial

/-- A float slot is written back as it was unless it holds an integer that is no double's. -/
@[simp] theorem number_exact_iff [FloatFormat] (json : Json) :
    (number : Slot codec PyNum).Exact json ↔
      ∀ n, json = .int n → (FloatFormat.round n).value = n := by
  cases json <;> simp [number]

/-- A number survives as the finite float that it converts to, if that is equal. -/
@[simp] theorem number_survives_iff [FloatFormat] (x : PyNum) :
    (number : Slot codec PyNum).Survives x ↔
      x.toFloat.isFinite = true ∧ x.eq (.float x.toFloat) = true := Iff.rfl

/-- Of the datetimes with whole-minute offsets, those whose offset does not depend on `fold`
survive. -/
theorem timestamp_survives {dt : DateTime} (whole : dt.WholeMinute) :
    (timestamp : Slot codec DateTime).Survives dt ↔ dt.folded = false := by
  obtain ⟨back, parsed, same⟩ := codec.parse_format dt whole
  have equal := DateTime.eq_plain same (codec.parse_plain _ back parsed).1
  constructor
  · rintro ⟨other, parsed', equal'⟩
    rw [parsed] at parsed'
    cases parsed'
    rw [equal] at equal'
    simpa using equal'
  · intro unfolded
    exact ⟨back, parsed, by simp [equal, unfolded]⟩

/-- A value or `None`. -/
def orNull {α : Type} (slot : Slot codec α) : Slot codec (Option α) where
  read
    | .null => some none
    | json => (slot.read json).map some
  write
    | none => .null
    | some value => slot.write value
  eq
    | none, none => true
    | some left, some right => slot.eq left right
    | _, _ => false
  Exact
    | .null => True
    | json => slot.Exact json
  Survives value := ∀ inner, value = some inner → slot.write inner ≠ .null ∧ slot.Survives inner
  write_read := by
    intro json value accepted
    cases json with
    | null =>
      cases accepted
      exact iff_of_true .null trivial
    | _ =>
      obtain ⟨inner, read, rfl⟩ := Option.map_eq_some_iff.mp accepted
      exact slot.write_read _ inner read
  read_write := by
    intro value
    cases value with
    | none => simp
    | some inner =>
      simp only [Option.some.injEq, forall_eq', ← slot.read_write]
      cases slot.write inner <;> simp

/-- A value that is not `null` is read as without the option. -/
theorem orNull_read {α : Type} (slot : Slot codec α) {json : Json} (given : json ≠ .null) :
    slot.orNull.read json = (slot.read json).map some := by
  cases json with
  | null => contradiction
  | _ => rfl

/-- A value that is not `null` is as exact as without the option. -/
theorem orNull_exact {α : Type} (slot : Slot codec α) {json : Json} (given : json ≠ .null) :
    slot.orNull.Exact json ↔ slot.Exact json := by
  cases json with
  | null => contradiction
  | _ => exact Iff.rfl

/-- An optional value is exact where every value is. -/
theorem orNull_exact_all {α : Type} (slot : Slot codec α) (exact : ∀ json, slot.Exact json)
    (json : Json) : slot.orNull.Exact json := by
  cases json with
  | null => trivial
  | _ => exact exact _

/-- An optional value survives when the value inside is not written as `null` and survives. -/
theorem orNull_survives {α : Type} (slot : Slot codec α) (value : Option α) :
    slot.orNull.Survives value ↔
      ∀ inner, value = some inner → slot.write inner ≠ .null ∧ slot.Survives inner := Iff.rfl

/-- The missing value survives. -/
@[simp] theorem orNull_survives_none {α : Type} (slot : Slot codec α) :
    slot.orNull.Survives none := by
  rw [orNull_survives]
  intro inner given
  contradiction

/-- A given value survives when it is not written as `null` and survives in the slot. -/
@[simp] theorem orNull_survives_some {α : Type} (slot : Slot codec α) (value : α) :
    slot.orNull.Survives (some value) ↔ slot.write value ≠ .null ∧ slot.Survives value := by
  simp only [orNull_survives, Option.some.injEq, forall_eq']

/-- A `tuple` of any length. -/
def tuple {α : Type} (slot : Slot codec α) : Slot codec (List α) where
  read
    | .arr items => items.mapM slot.read
    | _ => none
  write values := .arr (values.map slot.write)
  eq left right := decide (left.length = right.length) && (left.zip right).all fun pair =>
    slot.eq pair.1 pair.2
  Exact
    | .arr items => ∀ item ∈ items, slot.Exact item
    | _ => True
  Survives values := ∀ value ∈ values, slot.Survives value
  write_read := by
    intro json values accepted
    cases json with
    | arr items =>
      simp only at accepted ⊢
      induction items generalizing values with
      | nil =>
        cases accepted
        exact iff_of_true .nil (by simp)
      | cons item rest ih =>
        simp only [List.mapM_cons, Option.bind_eq_bind, Option.bind_eq_some_iff, Option.pure_def,
          Option.some.injEq] at accepted
        obtain ⟨value, read, values, reads, rfl⟩ := accepted
        rw [List.forall_mem_cons, ← ih values reads, ← slot.write_read item value read]
        constructor
        · intro same
          cases same with
          | number left _ => contradiction
          | cons head tail => exact ⟨head, tail⟩
        · rintro ⟨head, tail⟩
          exact .cons head tail
    | _ => contradiction
  read_write := by
    intro values
    simp only
    induction values with
    | nil => simp
    | cons value rest ih =>
      rw [List.forall_mem_cons, ← ih, ← slot.read_write value]
      simp only [List.map_cons, List.mapM_cons, Option.bind_eq_bind, Option.bind_eq_some_iff,
        Option.pure_def, Option.some.injEq]
      constructor
      · rintro ⟨_, ⟨back, read, backs, reads, rfl⟩, equal⟩
        simp only [List.length_cons, Nat.add_right_cancel_iff, List.zip_cons_cons, List.all_cons,
          Bool.and_eq_true] at equal
        exact ⟨⟨back, read, equal.2.1⟩, backs, reads, by simp [equal.1, equal.2.2]⟩
      · rintro ⟨⟨back, read, equal⟩, backs, reads, equals⟩
        rw [Bool.and_eq_true] at equals
        exact ⟨_, ⟨back, read, backs, reads, rfl⟩, by simp [equal, equals]⟩

/-- A tuple is exact where every item is. -/
theorem tuple_exact_all {α : Type} (slot : Slot codec α) (exact : ∀ json, slot.Exact json)
    (json : Json) : slot.tuple.Exact json := by
  cases json with
  | arr items => exact fun item _ => exact item
  | _ => trivial

/-- A tuple survives when each of its values does. -/
@[simp] theorem tuple_survives {α : Type} (slot : Slot codec α) (values : List α) :
    slot.tuple.Survives values ↔ ∀ value ∈ values, slot.Survives value := Iff.rfl

end Slot

/-- Only a returned value is kept. -/
theorem toOption_eq_some {α : Type} {result : Except PyError α} {value : α} :
    result.toOption = some value ↔ result = .ok value := by
  cases result with
  | error raised => simp [Except.toOption]
  | ok returned => simp [Except.toOption]

/-- The value of a field that may be absent. -/
def Slot.readOr {codec : Msgspec} {α : Type} (slot : Slot codec α) (fallback : Option α) :
    Option Json → Option α
  | some json => slot.read json
  | none => fallback

/-- The JSON form of some fields of a struct, named in order. -/
structure Fields (codec : Msgspec) (names : List String) (α : Type) where
  /-- The values of the fields, if all are accepted. -/
  read : List (String × Json) → Option α
  /-- The entries written. -/
  write : α → List (String × Json)
  /-- `left == right`, field by field -/
  eq : α → α → Bool
  /-- Accepted entries that are written back as they were, those absent aside. -/
  Exact : List (String × Json) → Prop
  /-- Values that are read back as equal ones. -/
  Survives : α → Prop
  /-- Every field is written once. -/
  keys_write : ∀ value, Json.keys (write value) = names
  /-- Reading looks at no other key. -/
  read_local : ∀ left right, (∀ name ∈ names, Json.lookup name left = Json.lookup name right) →
    read left = read right
  /-- Reading and writing back. -/
  write_read : ∀ entries value, read entries = some value →
    ((∀ field ∈ write value, ∀ json, Json.lookup field.1 entries = some json →
      Json.Same codec field.2 json) ↔ Exact entries)
  /-- Writing and reading back. -/
  read_write : ∀ value, (∃ back, read (write value) = some back ∧ eq value back = true) ↔
    Survives value

namespace Fields

variable {codec : Msgspec} {names others : List String}

/-- A field of a given name, with its default if it has one. -/
def one {α : Type} (name : String) (fallback : Option α) (slot : Slot codec α) :
    Fields codec [name] α where
  read entries := slot.readOr fallback (Json.lookup name entries)
  write value := [(name, slot.write value)]
  eq := slot.eq
  Exact entries := ∀ json, Json.lookup name entries = some json → slot.Exact json
  Survives := slot.Survives
  keys_write _ := rfl
  read_local := by
    intro left right agree
    rw [agree name (List.mem_singleton_self name)]
  write_read := by
    intro entries value accepted
    rw [List.forall_mem_singleton]
    cases found : Json.lookup name entries with
    | none => simp
    | some json =>
      rw [found] at accepted
      simp only [Option.some.injEq, forall_eq']
      exact slot.write_read json value accepted
  read_write := by
    intro value
    simpa [Json.lookup, Slot.readOr] using slot.read_write value

/-- Some fields, then others. -/
def append {α β : Type} (left : Fields codec names α) (right : Fields codec others β)
    (disjoint : ∀ name ∈ names, name ∉ others) : Fields codec (names ++ others) (α × β) where
  read entries := do
    let first ← left.read entries
    let second ← right.read entries
    some (first, second)
  write value := left.write value.1 ++ right.write value.2
  eq value back := left.eq value.1 back.1 && right.eq value.2 back.2
  Exact entries := left.Exact entries ∧ right.Exact entries
  Survives value := left.Survives value.1 ∧ right.Survives value.2
  keys_write := by
    intro value
    rw [Json.keys, List.map_append]
    exact congrArg₂ _ (left.keys_write value.1) (right.keys_write value.2)
  read_local := by
    intro entries later agree
    rw [left.read_local entries later fun name member => agree name (List.mem_append_left _ member),
      right.read_local entries later fun name member =>
        agree name (List.mem_append_right _ member)]
  write_read := by
    intro entries value accepted
    simp only [Option.bind_eq_bind, Option.bind_eq_some_iff, Option.some.injEq] at accepted
    obtain ⟨first, readFirst, second, readSecond, rfl⟩ := accepted
    rw [List.forall_mem_append, left.write_read entries first readFirst,
      right.write_read entries second readSecond]
  read_write := by
    intro value
    have readFirst : left.read (left.write value.1 ++ right.write value.2) =
        left.read (left.write value.1) := by
      refine left.read_local _ _ fun name member => Json.lookup_append_left _ ?_
      rw [right.keys_write]
      exact disjoint name member
    have readSecond : right.read (left.write value.1 ++ right.write value.2) =
        right.read (right.write value.2) := by
      refine right.read_local _ _ fun name member => Json.lookup_append_right _ ?_
      rw [left.keys_write]
      exact fun shared => disjoint name shared member
    rw [← left.read_write, ← right.read_write, readFirst, readSecond]
    simp only [Option.bind_eq_bind, Option.bind_eq_some_iff, Option.some.injEq, Bool.and_eq_true]
    constructor
    · rintro ⟨_, ⟨first, one, second, two, rfl⟩, equalFirst, equalSecond⟩
      exact ⟨⟨first, one, equalFirst⟩, second, two, equalSecond⟩
    · rintro ⟨⟨first, one, equalFirst⟩, second, two, equalSecond⟩
      exact ⟨(first, second), ⟨first, one, second, two, rfl⟩, equalFirst, equalSecond⟩

/-- A field, then the others. -/
def field {α β : Type} (name : String) (fallback : Option α) (slot : Slot codec α)
    (fresh : name ∉ names) (rest : Fields codec names β) : Fields codec (name :: names) (α × β) :=
  (one name fallback slot).append rest fun _ member => List.mem_singleton.mp member ▸ fresh

/-- A field and the others are read separately. -/
theorem field_read_iff {α β : Type} {name : String} {fallback : Option α} {slot : Slot codec α}
    {fresh : name ∉ names} {rest : Fields codec names β} {entries : List (String × Json)}
    {value : α × β} :
    (field name fallback slot fresh rest).read entries = some value ↔
      slot.readOr fallback (Json.lookup name entries) = some value.1 ∧
        rest.read entries = some value.2 := by
  constructor
  · intro accepted
    obtain ⟨first, readFirst, accepted⟩ := Option.bind_eq_some_iff.mp accepted
    obtain ⟨second, readSecond, same⟩ := Option.bind_eq_some_iff.mp accepted
    cases same
    exact ⟨readFirst, readSecond⟩
  · rintro ⟨readFirst, readSecond⟩
    exact Option.bind_eq_some_iff.mpr
      ⟨_, readFirst, Option.bind_eq_some_iff.mpr ⟨_, readSecond, rfl⟩⟩

/-- Values are equal when the field's and the others' are. -/
theorem field_eq_iff {α β : Type} {name : String} {fallback : Option α} {slot : Slot codec α}
    {fresh : name ∉ names} {rest : Fields codec names β} {left right : α × β} :
    (field name fallback slot fresh rest).eq left right = true ↔
      slot.eq left.1 right.1 = true ∧ rest.eq left.2 right.2 = true := Bool.and_eq_true_iff

/-- A single field is written back as it was when its entry is. -/
@[simp] theorem one_exact {α : Type} (name : String) (fallback : Option α) (slot : Slot codec α)
    (entries : List (String × Json)) :
    (one name fallback slot).Exact entries ↔
      ∀ json, Json.lookup name entries = some json → slot.Exact json := Iff.rfl

/-- A single field survives when its value does. -/
@[simp] theorem one_survives {α : Type} (name : String) (fallback : Option α) (slot : Slot codec α)
    (value : α) : (one name fallback slot).Survives value ↔ slot.Survives value := Iff.rfl

/-- Fields are written back as they were when the entry of the first and the others are. -/
@[simp] theorem field_exact {α β : Type} (name : String) (fallback : Option α) (slot : Slot codec α)
    (fresh : name ∉ names) (rest : Fields codec names β) (entries : List (String × Json)) :
    (field name fallback slot fresh rest).Exact entries ↔
      (∀ json, Json.lookup name entries = some json → slot.Exact json) ∧ rest.Exact entries := by
  simp only [field, append, one_exact]

/-- Fields survive when the first value does and the others do. -/
@[simp] theorem field_survives {α β : Type} (name : String) (fallback : Option α)
    (slot : Slot codec α) (fresh : name ∉ names) (rest : Fields codec names β) (value : α × β) :
    (field name fallback slot fresh rest).Survives value ↔
      slot.Survives value.1 ∧ rest.Survives value.2 := Iff.rfl

/-- The fields of a record, put together by a constructor that may raise. A record has the parts
it was constructed from, and parts read that equal those of a record are accepted. -/
def build {α β : Type} (fields : Fields codec names α) (new : α → Except PyError β) (parts : β → α)
    (kept : ∀ value record, new value = .ok record → parts record = value)
    (stable : ∀ record entries value, fields.read entries = some value →
      fields.eq (parts record) value = true → ∃ back, new value = .ok back) :
    Fields codec names β where
  read entries := (fields.read entries).bind fun value => (new value).toOption
  write record := fields.write (parts record)
  eq left right := fields.eq (parts left) (parts right)
  Exact := fields.Exact
  Survives record := fields.Survives (parts record)
  keys_write record := fields.keys_write (parts record)
  read_local := by
    intro left right agree
    rw [fields.read_local left right agree]
  write_read := by
    intro entries record accepted
    obtain ⟨value, read, built⟩ := Option.bind_eq_some_iff.mp accepted
    rw [kept value record (toOption_eq_some.mp built)]
    exact fields.write_read entries value read
  read_write := by
    intro record
    rw [← fields.read_write]
    constructor
    · rintro ⟨back, accepted, equal⟩
      obtain ⟨value, read, built⟩ := Option.bind_eq_some_iff.mp accepted
      rw [kept value back (toOption_eq_some.mp built)] at equal
      exact ⟨value, read, equal⟩
    · rintro ⟨value, read, equal⟩
      obtain ⟨back, built⟩ := stable record _ value read equal
      refine ⟨back, Option.bind_eq_some_iff.mpr ⟨value, read, toOption_eq_some.mpr built⟩, ?_⟩
      rw [kept value back built]
      exact equal

/-- A record is read from the parts its constructor accepts. -/
theorem build_read_iff {α β : Type} {fields : Fields codec names α} {new : α → Except PyError β}
    {parts : β → α} {kept : ∀ value record, new value = .ok record → parts record = value}
    {stable : ∀ record entries value, fields.read entries = some value →
      fields.eq (parts record) value = true → ∃ back, new value = .ok back}
    {entries : List (String × Json)} {record : β} :
    (fields.build new parts kept stable).read entries = some record ↔
      ∃ value, fields.read entries = some value ∧ new value = .ok record := by
  simp only [build, Option.bind_eq_some_iff, toOption_eq_some]

/-- A record is written back as it was when its fields are. -/
@[simp] theorem build_exact {α β : Type} (fields : Fields codec names α)
    (new : α → Except PyError β) (parts : β → α)
    (kept : ∀ value record, new value = .ok record → parts record = value)
    (stable : ∀ record entries value, fields.read entries = some value →
      fields.eq (parts record) value = true → ∃ back, new value = .ok back)
    (entries : List (String × Json)) :
    (fields.build new parts kept stable).Exact entries ↔ fields.Exact entries := Iff.rfl

/-- A record survives when its parts do. -/
@[simp] theorem build_survives {α β : Type} (fields : Fields codec names α)
    (new : α → Except PyError β) (parts : β → α)
    (kept : ∀ value record, new value = .ok record → parts record = value)
    (stable : ∀ record entries value, fields.read entries = some value →
      fields.eq (parts record) value = true → ∃ back, new value = .ok back) (record : β) :
    (fields.build new parts kept stable).Survives record ↔ fields.Survives (parts record) := Iff.rfl

/-- A struct with these fields, as a JSON object. -/
def struct {α : Type} (fields : Fields codec names α) (distinct : names.Nodup) :
    Slot codec α where
  read
    | .obj entries => fields.read entries
    | _ => none
  write value := .obj (fields.write value)
  eq := fields.eq
  Exact
    | .obj entries => (∀ key, key ∈ names ↔ key ∈ Json.keys entries) ∧ fields.Exact entries
    | _ => True
  Survives := fields.Survives
  write_read := by
    intro json value accepted
    cases json with
    | obj entries =>
      have keys := fields.keys_write value
      rw [Json.same_obj_iff (by rwa [keys]), keys, fields.write_read entries value accepted]
    | _ => contradiction
  read_write := fields.read_write

/-- A structure is written as the object of its fields. -/
@[simp] theorem struct_write {α : Type} (fields : Fields codec names α) (distinct : names.Nodup)
    (value : α) : (fields.struct distinct).write value = .obj (fields.write value) := rfl

/-- An object is written back as it was when it has the keys of the structure and its fields are. -/
@[simp] theorem struct_exact {α : Type} (fields : Fields codec names α) (distinct : names.Nodup)
    (entries : List (String × Json)) :
    (fields.struct distinct).Exact (.obj entries) ↔
      (∀ key, key ∈ names ↔ key ∈ Json.keys entries) ∧ fields.Exact entries := Iff.rfl

/-- A structure survives when its fields do. -/
@[simp] theorem struct_survives {α : Type} (fields : Fields codec names α) (distinct : names.Nodup)
    (value : α) : (fields.struct distinct).Survives value ↔ fields.Survives value := Iff.rfl

/-- A field is read from what it was written as. -/
theorem one_written {α : Type} (name : String) (fallback : Option α) (slot : Slot codec α)
    (value : α) :
    (one name fallback slot).read ((one name fallback slot).write value) =
      slot.read (slot.write value) := by
  simp [one, Json.lookup, Slot.readOr]

/-- A field and the others are read from what each was written as. -/
theorem field_written_iff {α β : Type} {name : String} {fallback : Option α} {slot : Slot codec α}
    {fresh : name ∉ names} {rest : Fields codec names β} {value back : α × β} :
    (field name fallback slot fresh rest).read
        ((field name fallback slot fresh rest).write value) = some back ↔
      slot.read (slot.write value.1) = some back.1 ∧
        rest.read (rest.write value.2) = some back.2 := by
  have first : (one name fallback slot).read
      ((field name fallback slot fresh rest).write value) = slot.read (slot.write value.1) := by
    rw [← one_written name fallback slot value.1]
    refine (one name fallback slot).read_local _ _ fun other member => ?_
    apply Json.lookup_append_left
    rw [rest.keys_write, List.mem_singleton.mp member]
    exact fresh
  have others : rest.read ((field name fallback slot fresh rest).write value) =
      rest.read (rest.write value.2) := by
    refine rest.read_local _ _ fun other member => Json.lookup_append_right _ ?_
    rw [(one name fallback slot).keys_write, List.mem_singleton]
    exact fun same => fresh (same ▸ member)
  rw [field_read_iff, ← others]
  exact and_congr_left fun _ => first ▸ Iff.rfl

/-- A record is read from what its parts were written as. -/
theorem build_written_iff {α β : Type} {fields : Fields codec names α} {new : α → Except PyError β}
    {parts : β → α} {kept : ∀ value record, new value = .ok record → parts record = value}
    {stable : ∀ record entries value, fields.read entries = some value →
      fields.eq (parts record) value = true → ∃ back, new value = .ok back} {record back : β} :
    (fields.build new parts kept stable).read
        ((fields.build new parts kept stable).write record) = some back ↔
      ∃ value, fields.read (fields.write (parts record)) = some value ∧ new value = .ok back :=
  build_read_iff

/-- A struct is read from what its fields were written as. -/
theorem struct_written {α : Type} (fields : Fields codec names α) (distinct : names.Nodup)
    (value : α) : (fields.struct distinct).read ((fields.struct distinct).write value) =
      fields.read (fields.write value) := rfl

end Fields

namespace Slot

variable {codec : Msgspec}

/-- A number is read back as the float that it converts to. -/
theorem number_written_iff [FloatFormat] {x y : PyNum} :
    (number : Slot codec PyNum).read ((number : Slot codec PyNum).write x) = some y ↔
      x.toFloat.isFinite = true ∧ y = .float x.toFloat := by
  cases x with
  | int n =>
    have reads : (number : Slot codec PyNum).read (.int n) =
        if (FloatFormat.round n).isFinite = true then some (.float (FloatFormat.round n))
        else none := rfl
    change (number : Slot codec PyNum).read (.int n) = some y ↔ _
    rw [reads, Option.ite_none_right_eq_some, Option.some.injEq]
    exact and_congr_right fun _ => eq_comm
  | float x =>
    change (number : Slot codec PyNum).read
      (if finite : x.isFinite = true then .float ⟨x, finite⟩ else .null) = some y ↔ _
    by_cases finite : x.isFinite = true
    · rw [dif_pos finite]
      change some (PyNum.float x) = some y ↔ _
      rw [Option.some.injEq]
      exact ⟨fun same => ⟨finite, same.symm⟩, fun same => same.2.symm⟩
    · rw [dif_neg finite]
      have refused : (number : Slot codec PyNum).read .null = none := rfl
      rw [refused]
      exact iff_of_false (Option.some_ne_none y).symm fun read => finite read.1

/-- A time with a whole-minute offset is read back as the same time, with a fixed offset. -/
theorem timestamp_written {dt : DateTime} (whole : dt.WholeMinute) :
    ∃ back, (timestamp : Slot codec DateTime).read ((timestamp : Slot codec DateTime).write dt) =
      some back ∧ dt.SameTime back ∧ back.Plain ∧ back.WholeMinute := by
  obtain ⟨back, parsed, same⟩ := codec.parse_format dt whole
  exact ⟨back, parsed, same, codec.parse_plain _ _ parsed⟩

/-- A tuple is read back item by item. -/
theorem tuple_written {α : Type} (slot : Slot codec α)
    (each : ∀ value, slot.read (slot.write value) = some value) (values : List α) :
    slot.tuple.read (slot.tuple.write values) = some values := by
  change (values.map slot.write).mapM slot.read = some values
  induction values with
  | nil => rfl
  | cons value rest ih =>
    rw [List.map_cons, List.mapM_cons, each, ih]
    rfl

/-- A value that is not written as `null` is read back as without the option. -/
theorem orNull_written_some {α : Type} (slot : Slot codec α) {value : α}
    (given : slot.write value ≠ .null) :
    slot.orNull.read (slot.orNull.write (some value)) =
      (slot.read (slot.write value)).map some := slot.orNull_read given

end Slot

end Python
