import VerdictRisk.Python.Datetime
import VerdictRisk.Python.Text
import Mathlib.Data.List.Nodup
import Std.Data.String.ToInt

/-!
# JSON values

A JSON value as `msgspec.json.decode` returns it: a number has been read as an integer or as
the double it denotes, so no number is NaN or infinite. Of an object only the lookup of its
keys is used, and the last of several equal keys counts. What is needed of `msgspec` beyond
that is its documented treatment of timestamps and of floats in integer slots; it is collected
in `Msgspec`, a structure that carries its laws.
-/

namespace Python

/-- A JSON value. -/
inductive Json where
  | null
  | bool (value : Bool)
  | int (n : ℤ)
  | float (x : { x : PyFloat // x.isFinite = true })
  | str (text : String)
  | arr (items : List Json)
  | obj (fields : List (String × Json))

namespace Json

/-- The number a value denotes, if it is one. -/
def number : Json → Option ℚ
  | .int n => some n
  | .float x => some x.val.value
  | _ => none

mutual

/-- `repr(value)` -/
def repr [FloatFormat] [Unicode] : Json → String
  | .null => "None"
  | .bool true => "True"
  | .bool false => "False"
  | .int n => toString n
  | .float x => FloatFormat.repr x.val
  | .str text => reprText text
  | .arr items => "[" ++ ", ".intercalate (reprItems items) ++ "]"
  | .obj fields => "\x7b" ++ ", ".intercalate (reprFields fields) ++ "\x7d"

/-- The texts of a list's items. -/
def reprItems [FloatFormat] [Unicode] : List Json → List String
  | [] => []
  | item :: rest => item.repr :: reprItems rest

/-- The texts of a mapping's entries. -/
def reprFields [FloatFormat] [Unicode] : List (String × Json) → List String
  | [] => []
  | (key, value) :: rest => (reprText key ++ ": " ++ value.repr) :: reprFields rest

end

/-- `str(value)`, also the text of `f"{value}"` -/
def text [FloatFormat] [Unicode] : Json → String
  | .str text => text
  | value => value.repr

/-- The value of a key: of its last occurrence. -/
def lookup (key : String) : List (String × Json) → Option Json
  | [] => none
  | (name, value) :: rest =>
    match lookup key rest with
    | some later => some later
    | none => if name = key then some value else none

/-- The value under a key of an object. -/
def member (key : String) : Json → Option Json
  | .obj fields => lookup key fields
  | _ => none

/-- The keys of an object. -/
def keys (fields : List (String × Json)) : List String := fields.map Prod.fst

/-- A key is found exactly when it is one of the keys. -/
theorem lookup_isSome_iff (key : String) (fields : List (String × Json)) :
    (lookup key fields).isSome = true ↔ key ∈ keys fields := by
  induction fields with
  | nil => simp [lookup, keys]
  | cons field rest ih =>
    obtain ⟨name, value⟩ := field
    rw [keys, List.map_cons, List.mem_cons, ← keys, ← ih, lookup]
    cases found : lookup key rest with
    | some later => simp
    | none =>
      by_cases same : name = key
      · simp [same]
      · have other : ¬ key = name := fun equal => same equal.symm
        simp [same, other]

/-- Entries appended later that lack a key do not change its value. -/
theorem lookup_append_left {key : String} (left : List (String × Json))
    {right : List (String × Json)} (absent : key ∉ keys right) :
    lookup key (left ++ right) = lookup key left := by
  induction left with
  | nil =>
    have missing := mt (lookup_isSome_iff key right).mp absent
    simpa [lookup] using missing
  | cons field rest ih =>
    obtain ⟨name, value⟩ := field
    rw [List.cons_append, lookup, lookup, ih]

/-- Entries in front that lack a key do not change its value. -/
theorem lookup_append_right {key : String} {left : List (String × Json)}
    (right : List (String × Json)) (absent : key ∉ keys left) :
    lookup key (left ++ right) = lookup key right := by
  induction left with
  | nil => rfl
  | cons field rest ih =>
    obtain ⟨name, value⟩ := field
    rw [keys, List.map_cons, List.mem_cons, not_or, ← keys] at absent
    have other : ¬ name = key := fun equal => absent.1 equal.symm
    rw [List.cons_append, lookup, ih absent.2, if_neg other]
    cases lookup key right <;> rfl

/-- With distinct keys, the value of each key is the one written with it. -/
theorem lookup_of_mem {fields : List (String × Json)} (distinct : (keys fields).Nodup)
    {key : String} {value : Json} (member : (key, value) ∈ fields) :
    lookup key fields = some value := by
  induction fields with
  | nil => contradiction
  | cons field rest ih =>
    obtain ⟨name, first⟩ := field
    rw [keys, List.map_cons, List.nodup_cons, ← keys] at distinct
    rw [lookup]
    rcases List.mem_cons.mp member with same | later
    · cases same
      have absent : lookup key rest = none := by
        have missing := mt (lookup_isSome_iff key rest).mp distinct.1
        simpa using missing
      rw [absent]
      exact if_pos rfl
    · rw [ih distinct.2 later]

end Json

/-- Both are naive with one wall clock, or both are aware at one instant. -/
def DateTime.SameTime (left right : DateTime) : Prop :=
  left.utcoffset.isSome = right.utcoffset.isSome ∧ left.instant = right.instant

/-- The UTC offset, if any, is a whole number of minutes. -/
def DateTime.WholeMinute (dt : DateTime) : Prop :=
  ∀ offset, dt.utcoffset = some offset → offset % 60000000 = 0

/-- A value is naive without a zone, or carries a fixed offset. -/
def DateTime.Plain (dt : DateTime) : Prop :=
  dt.tzinfo = none ∨ ∃ offset, dt.tzinfo = some (.fixed offset)

/-- What the code relies on of `msgspec`. -/
structure Msgspec where
  /-- The text a datetime is written as. -/
  format : DateTime → String
  /-- The datetime an RFC 3339 text is read as. -/
  parse : String → Option DateTime
  /-- The integer a float is read as in an integer slot, where that is accepted. -/
  intOfFloat : PyFloat → Option ℤ
  /-- The text of the error a typed decoder raises on a value it does not accept. -/
  fault : Json → String
  /-- A datetime keeps its instant and its mode. -/
  parse_format : ∀ dt : DateTime, dt.WholeMinute →
    ∃ back, parse (format dt) = some back ∧ dt.SameTime back
  /-- What is read has a fixed offset of whole minutes, if any. -/
  parse_plain : ∀ text dt, parse text = some dt → dt.Plain ∧ dt.WholeMinute
  /-- Only the value of a float is read. -/
  intOfFloat_value : ∀ x n, intOfFloat x = some n → x.value = n

/-- A codec that writes a timestamp as its count of microseconds, behind a mark of its mode. -/
def Msgspec.counting : Msgspec where
  format dt := (if dt.utcoffset.isSome then "Z" else "L") ++ toString dt.instant
  parse text :=
    match text.toList with
    | 'Z' :: digits => (String.ofList digits).toInt?.map fun n => ⟨n, some (.fixed 0)⟩
    | 'L' :: digits => (String.ofList digits).toInt?.map fun n => ⟨n, none⟩
    | _ => none
  intOfFloat x := if x.value.den = 1 then some x.value.num else none
  fault _ := "Invalid payload"
  parse_format := by
    intro dt _
    cases offset : dt.utcoffset with
    | none =>
      refine ⟨⟨dt.instant, none⟩, by simp, ?_, (Int.sub_zero dt.instant).symm⟩
      rw [offset]
      rfl
    | some ahead =>
      refine ⟨⟨dt.instant, some (.fixed 0)⟩, by simp, ?_, (Int.sub_zero dt.instant).symm⟩
      rw [offset]
      rfl
  parse_plain := by
    intro text dt parsed
    split at parsed
    · obtain ⟨n, _, rfl⟩ := Option.map_eq_some_iff.mp parsed
      exact ⟨.inr ⟨0, rfl⟩, by rintro _ ⟨⟩; rfl⟩
    · obtain ⟨n, _, rfl⟩ := Option.map_eq_some_iff.mp parsed
      exact ⟨.inl rfl, by rintro _ ⟨⟩⟩
    · contradiction
  intOfFloat_value := by
    intro x n read
    obtain ⟨whole, same⟩ := Option.ite_none_right_eq_some.mp read
    cases same
    exact ((Rat.den_eq_one_iff _).mp whole).symm

/-- A restored value equals the one it was written from, unless that one's offset depends on
its `fold`. -/
theorem DateTime.eq_plain {dt back : DateTime} (same : dt.SameTime back) (plain : back.Plain) :
    dt.eq back = !dt.folded := by
  have unfolded : back.folded = false := by
    rcases plain with bare | ⟨offset, fixed⟩
    · simp [folded, bare]
    · simp [folded, fixed]
  obtain ⟨mode, instants⟩ := same
  unfold DateTime.eq
  by_cases zone : dt.sameZone back = true
  · have alike : dt.folded = false ∧ dt.utcoffset = back.utcoffset := by
      rcases plain with bare | ⟨offset, fixed⟩
      · have naive : dt.tzinfo = none := by simpa [sameZone, bare] using zone
        simp [folded, utcoffset, naive, bare]
      · cases given : dt.tzinfo with
        | none => simp [sameZone, given, fixed] at zone
        | some own =>
          cases own with
          | fixed ahead =>
            have equal : ahead = offset := by
              simpa [sameZone, given, fixed, Tzinfo.identity] using zone
            simp [folded, utcoffset, given, fixed, equal]
          | zone => simp [sameZone, given, fixed, Tzinfo.identity] at zone
    have walls : dt.wall = back.wall := by
      rw [instant, instant, alike.2] at instants
      omega
    rw [if_pos zone, alike.1, walls]
    exact beq_self_eq_true _
  · rw [if_neg zone, unfolded, Bool.or_false]
    cases folds : dt.folded with
    | true => rfl
    | false =>
      rw [if_neg Bool.false_ne_true]
      cases ahead : dt.utcoffset <;> cases behind : back.utcoffset
      · rw [instant, instant, ahead, behind] at instants
        simpa using instants
      · simp [ahead, behind] at mode
      · simp [ahead, behind] at mode
      · simpa using instants

namespace Json

/-- Two values are the same up to the order of keys and the spelling of numbers and
timestamps. -/
inductive Same (codec : Msgspec) : Json → Json → Prop
  | null : Same codec .null .null
  | bool (value : Bool) : Same codec (.bool value) (.bool value)
  | number {left right : Json} {q : ℚ} : left.number = some q → right.number = some q →
      Same codec left right
  | str (text : String) : Same codec (.str text) (.str text)
  | timestamp {left right : String} {dt dt' : DateTime} : codec.parse left = some dt →
      codec.parse right = some dt' → dt.SameTime dt' → Same codec (.str left) (.str right)
  | nil : Same codec (.arr []) (.arr [])
  | cons {left right : Json} {lefts rights : List Json} : Same codec left right →
      Same codec (.arr lefts) (.arr rights) →
      Same codec (.arr (left :: lefts)) (.arr (right :: rights))
  | obj {left right : List (String × Json)} :
      (∀ key, key ∈ keys left ↔ key ∈ keys right) →
      (∀ key value value', lookup key left = some value → lookup key right = some value' →
        Same codec value value') →
      Same codec (.obj left) (.obj right)

/-- An object written with distinct keys is the same as another when that one has exactly these
keys, each with the same value. -/
theorem same_obj_iff {codec : Msgspec} {fields entries : List (String × Json)}
    (distinct : (keys fields).Nodup) :
    Same codec (.obj fields) (.obj entries) ↔
      (∀ key, key ∈ keys fields ↔ key ∈ keys entries) ∧
        ∀ field ∈ fields, ∀ value, lookup field.1 entries = some value →
          Same codec field.2 value := by
  constructor
  · intro same
    cases same with
    | number numeric => simp [number] at numeric
    | obj alike values =>
      exact ⟨alike, fun field member value found =>
        values field.1 field.2 value (lookup_of_mem distinct member) found⟩
  · rintro ⟨alike, values⟩
    refine .obj alike fun key value value' written found => ?_
    have listed : key ∈ keys fields := by
      rw [← lookup_isSome_iff, written]
      rfl
    obtain ⟨field, member, rfl⟩ := List.mem_map.mp listed
    rw [lookup_of_mem distinct member, Option.some.injEq] at written
    rw [← written]
    exact values field member value' found

end Json

end Python
