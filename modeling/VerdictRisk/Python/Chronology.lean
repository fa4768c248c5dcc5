import VerdictRisk.Python.Datetime
import Mathlib.Tactic.Cases

/-!
# The order of datetimes

Python compares and subtracts the wall clocks of two datetimes that share a zone object and the
instants of any others. Where zone objects keep their offsets this is the order of the instants.
Where one changes its offset, the datetimes of that object are in the order of their wall clocks,
and together with others they need not be ordered at all.
-/

namespace Python

namespace DateTime

/-- What `now - time` is, for two naive or two aware values. -/
def since (now time : DateTime) : ℤ :=
  if now.sameZone time then now.wall - time.wall else now.instant - time.instant

/-- Two values of one mode are subtracted. -/
theorem sub_since {now time : DateTime}
    (mode : now.utcoffset.isSome = time.utcoffset.isSome) :
    now.sub time = .ok (now.since time) := by
  unfold since
  by_cases same : now.sameZone time = true
  · rw [if_pos same, sub, if_pos same]
  · have consistent : now.Consistent time := fun shared => absurd shared same
    rw [if_neg same, sub_instants mode consistent]

/-- Between consistent values the time since is that between the instants. -/
theorem since_instants {now time : DateTime} (consistent : now.Consistent time) :
    now.since time = now.instant - time.instant := by
  unfold since
  by_cases same : now.sameZone time = true
  · rw [if_pos same, instant, instant, consistent same]
    omega
  · rw [if_neg same]

/-- `left < right` says that `left - right` is negative. -/
theorem before_iff_since {left right : DateTime}
    (mode : left.utcoffset.isSome = right.utcoffset.isSome) :
    left.before right = true ↔ left.since right < 0 := by
  unfold before since
  by_cases same : left.sameZone right = true
  · rw [if_pos same, if_pos same, decide_eq_true_eq]
    omega
  · rw [if_neg same, if_neg same]
    cases ahead : left.utcoffset with
    | none =>
      cases behind : right.utcoffset with
      | none =>
        simp only [instant, ahead, behind, Option.getD_none, decide_eq_true_eq]
        omega
      | some offset =>
        rw [ahead, behind] at mode
        contradiction
    | some offset =>
      cases behind : right.utcoffset with
      | none =>
        rw [ahead, behind] at mode
        contradiction
      | some offset' =>
        simp only [decide_eq_true_eq]
        omega

/-- The time since is negated when its ends are exchanged. -/
theorem since_swap (left right : DateTime) : left.since right = -right.since left := by
  have comm : left.sameZone right = right.sameZone left := decide_eq_decide.mpr eq_comm
  unfold since
  rw [comm]
  by_cases same : right.sameZone left = true
  · rw [if_pos same, if_pos same]
    omega
  · rw [if_neg same, if_neg same]
    omega

/-- Of two values of one mode, one is not before the other both ways. -/
theorem before_asymm {left right : DateTime}
    (mode : left.utcoffset.isSome = right.utcoffset.isSome)
    (ordered : left.before right = true) : right.before left = false := by
  have negative := (before_iff_since mode).mp ordered
  have swapped := since_swap right left
  rw [← Bool.not_eq_true, before_iff_since mode.symm]
  omega

/-- Whatever is before another of these datetimes is before any third, or that is before the
other: Python's `<` is a weak order of them, as `sorted` and `max` require. -/
def WeaklyOrdered (times : List DateTime) : Prop :=
  ∀ first ∈ times, ∀ second ∈ times, ∀ third ∈ times,
    first.before third = true → first.before second = true ∨ second.before third = true

/-- Seen from a current time, no more time has passed since a datetime than since those that it
is not before. -/
def Aligned (current : DateTime) (times : List DateTime) : Prop :=
  ∀ first ∈ times, ∀ second ∈ times,
    second.before first = false → current.since second ≤ current.since first

/-- Values of one mode whose shared zone objects keep their offsets are ordered by their
instants. -/
theorem weaklyOrdered_of_consistent {times : List DateTime}
    (oneMode : ∀ left ∈ times, ∀ right ∈ times,
      left.utcoffset.isSome = right.utcoffset.isSome)
    (consistent : ∀ left ∈ times, ∀ right ∈ times, left.Consistent right) :
    WeaklyOrdered times := by
  intro first held second held' third held'' ordered
  rw [before_iff_since (oneMode _ held _ held''), since_instants (consistent _ held _ held'')]
    at ordered
  rw [before_iff_since (oneMode _ held _ held'), since_instants (consistent _ held _ held'),
    before_iff_since (oneMode _ held' _ held''), since_instants (consistent _ held' _ held'')]
  omega

/-- Such values are aligned with a current time of the same kind. -/
theorem aligned_of_consistent {current : DateTime} {times : List DateTime}
    (oneMode : ∀ left ∈ times, ∀ right ∈ times,
      left.utcoffset.isSome = right.utcoffset.isSome)
    (consistent : ∀ left ∈ times, ∀ right ∈ times, left.Consistent right)
    (present : ∀ time ∈ times, current.Consistent time) : Aligned current times := by
  intro first held second held' unordered
  rw [← Bool.not_eq_true, before_iff_since (oneMode _ held' _ held),
    since_instants (consistent _ held' _ held)] at unordered
  rw [since_instants (present _ held), since_instants (present _ held')]
  omega

/-- The offset is less than a day, as Python requires of every `tzinfo`. -/
def OffsetInRange (dt : DateTime) : Prop :=
  ∀ offset, dt.utcoffset = some offset → -dayMicroseconds < offset ∧ offset < dayMicroseconds

/-- An instant and its wall clock are less than a day apart. -/
theorem OffsetInRange.wall_le {dt : DateTime} (inRange : dt.OffsetInRange) :
    dt.instant - dayMicroseconds ≤ dt.wall := by
  have day : 0 < dayMicroseconds := by decide
  unfold instant
  cases offset : dt.utcoffset with
  | none =>
    rw [Option.getD_none]
    omega
  | some offset' =>
    have bounds := inRange offset' offset
    rw [Option.getD_some]
    omega

/-- Every duration has passed since a datetime at all late enough times of its mode. -/
theorem sub_eventually (since : DateTime) (duration : ℤ) :
    ∃ late, ∀ now : DateTime, now.utcoffset.isSome = since.utcoffset.isSome →
      now.OffsetInRange → late ≤ now.instant →
      ∃ elapsed, now.sub since = .ok elapsed ∧ duration ≤ elapsed := by
  have day : 0 < dayMicroseconds := by decide
  refine ⟨max since.wall since.instant + duration + dayMicroseconds, ?_⟩
  intro now mode inRange late
  have walls := inRange.wall_le
  have wall := le_max_left since.wall since.instant
  have instant := le_max_right since.wall since.instant
  refine ⟨now.since since, sub_since mode, ?_⟩
  unfold DateTime.since
  by_cases same : now.sameZone since = true
  · rw [if_pos same]
    omega
  · rw [if_neg same]
    omega

end DateTime

end Python
