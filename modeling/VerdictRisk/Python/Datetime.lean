import VerdictRisk.Python.Number

/-!
# Python datetimes

A datetime is its wall-clock fields, counted in microseconds, and an optional `tzinfo`
object. What the code can observe of a `tzinfo` object is its identity and the offset it
answers for the datetime that carries it, so a datetime records both; one object may answer
differently for two datetimes, as a zone with daylight saving does. Comparison and
subtraction follow Python: two values that carry one object use their wall clocks, otherwise
their UTC instants.
-/

namespace Python

/-- A `tzinfo` object as one datetime sees it. -/
inductive Tzinfo where
  /-- A `datetime.timezone`: its offset in microseconds is fixed, so equal offsets are as good
  as one object. -/
  | fixed (offset : ℤ)
  /-- Any other object: its identity, what `utcoffset()` answers for the datetime, and whether
  it answers differently for the other `fold`. -/
  | zone (object : ℕ) (offset : Option ℤ) (folded : Bool)
deriving DecidableEq, Repr

/-- `tzinfo.utcoffset(dt)` -/
def Tzinfo.utcoffset : Tzinfo → Option ℤ
  | .fixed offset => some offset
  | .zone _ offset _ => offset

/-- What distinguishes one object from another. -/
def Tzinfo.identity : Tzinfo → ℕ ⊕ ℤ
  | .fixed offset => .inr offset
  | .zone object _ _ => .inl object

/-- A `datetime`. -/
structure DateTime where
  /-- The wall-clock fields, as microseconds from a fixed origin. -/
  wall : ℤ
  /-- The attached zone, if any. -/
  tzinfo : Option Tzinfo
deriving DecidableEq, Repr

namespace DateTime

/-- `dt.utcoffset()` -/
def utcoffset (dt : DateTime) : Option ℤ := dt.tzinfo.bind Tzinfo.utcoffset

/-- The offset depends on `fold`: the wall clock is in a repeated or a skipped hour. -/
def folded (dt : DateTime) : Bool :=
  match dt.tzinfo with
  | some (.zone _ _ folded) => folded
  | _ => false

/-- Both values carry one `tzinfo` object, or neither carries any. -/
def sameZone (left right : DateTime) : Bool :=
  decide (left.tzinfo.map Tzinfo.identity = right.tzinfo.map Tzinfo.identity)

/-- The UTC instant of an aware value; the wall clock of a naive one. -/
def instant (dt : DateTime) : ℤ := dt.wall - dt.utcoffset.getD 0

/-- `left - right`, in microseconds. -/
def sub (left right : DateTime) : Except PyError ℤ :=
  if left.sameZone right then .ok (left.wall - right.wall)
  else match left.utcoffset, right.utcoffset with
    | none, none => .ok (left.wall - right.wall)
    | some ahead, some behind => .ok (left.wall - ahead - (right.wall - behind))
    | _, _ => .error (.typeError "can't subtract offset-naive and offset-aware datetimes")

/-- `left < right`, for values that are both naive or both aware; Python raises `TypeError` on
the others, which no caller compares. -/
def before (left right : DateTime) : Bool :=
  if left.sameZone right then left.wall < right.wall
  else match left.utcoffset, right.utcoffset with
    | some _, some _ => left.instant < right.instant
    | _, _ => left.wall < right.wall

/-- `left == right`; a value whose offset depends on `fold` equals none of another zone. -/
def eq (left right : DateTime) : Bool :=
  if left.sameZone right then left.wall == right.wall
  else if left.folded || right.folded then false
  else match left.utcoffset, right.utcoffset with
    | none, none => left.wall == right.wall
    | some _, some _ => left.instant == right.instant
    | _, _ => false

/-- Two values read one zone object at one offset: their wall clocks and their instants are
equally far apart. -/
def Consistent (left right : DateTime) : Prop :=
  left.sameZone right = true → left.utcoffset = right.utcoffset

/-- Whether two datetimes are consistent can be computed. -/
instance (left right : DateTime) : Decidable (left.Consistent right) :=
  inferInstanceAs (Decidable (_ → _))

/-- Two naive values, or two aware ones, can be subtracted. -/
theorem sub_ok {left right : DateTime}
    (mode : left.utcoffset.isSome = right.utcoffset.isSome) :
    ∃ elapsed, left.sub right = .ok elapsed := by
  unfold sub
  split
  · exact ⟨_, rfl⟩
  · cases hl : left.utcoffset <;> cases hr : right.utcoffset <;> simp_all

/-- Between consistent values of one mode the difference is that of the instants. -/
theorem sub_instants {left right : DateTime}
    (mode : left.utcoffset.isSome = right.utcoffset.isSome) (consistent : left.Consistent right) :
    left.sub right = .ok (left.instant - right.instant) := by
  unfold sub instant
  split
  · rename_i same
    rw [consistent same]
    exact congrArg _ (by ring)
  · cases hl : left.utcoffset <;> cases hr : right.utcoffset <;> simp_all

end DateTime

/-- Microseconds of an hour. -/
def hourMicroseconds : ℤ := 3600000000

/-- Microseconds of a day. -/
def dayMicroseconds : ℤ := 24 * hourMicroseconds

/-- `delta.total_seconds()` -/
def totalSeconds [FloatFormat] (microseconds : ℤ) : PyFloat :=
  FloatFormat.round (microseconds / 1000000)

/-- `x` rounded toward zero, the integer part that `math.modf` splits off. -/
def truncate (q : ℚ) : ℤ := if q < 0 then -(-q).floor else q.floor

/-- A duration within the range of `timedelta`. -/
def boundedDelta (microseconds : ℤ) : Except PyError ℤ :=
  let days := microseconds / dayMicroseconds
  if days.natAbs ≤ 999999999 then .ok microseconds
  else .error (.overflowError s!"days={days}; must have magnitude <= 999999999")

/-- `timedelta(hours=hours)`, in microseconds: whole hours count exactly, the fraction of an
hour is converted in floating point, and the sum is rounded to the nearest microsecond. -/
def timedeltaHours [FloatFormat] (hours : PyFloat) : Except PyError ℤ :=
  if hours.isNan then .error (.valueError "cannot convert float NaN to integer")
  else if hours.isInf then .error (.overflowError "cannot convert float infinity to integer")
  else
    let whole := truncate hours.value
    let fraction := PyFloat.mul (.finite hourMicroseconds) (.finite (hours.value - whole))
    boundedDelta (roundHalfEven (whole * hourMicroseconds + fraction.value))

end Python
