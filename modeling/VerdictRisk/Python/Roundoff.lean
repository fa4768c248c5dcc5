import VerdictRisk.Library.Roundoff
import VerdictRisk.Python.Binary64

/-!
# Rounding errors

Sums of floats that the format holds, and integers, are rounded by a bounded share of their size.
For doubles the bound is `2 ** -53`: a sum of doubles that is too small to have all its digits is
exact. Products and quotients have no such bound, since they may underflow.
-/

namespace Python

/-- A rounding whose relative error on sums of held floats, and on integers, is bounded. -/
class RelativeRounding [FloatFormat] (unit : outParam ℚ) : Prop where
  nonneg : 0 ≤ unit
  sum : ∀ {left right : PyFloat}, left.Held → right.Held → left.isFinite = true →
    right.isFinite = true → (FloatFormat.round (left.value + right.value)).isFinite = true →
    |(FloatFormat.round (left.value + right.value)).value - (left.value + right.value)| ≤
      unit * |left.value + right.value|
  int : ∀ n : ℤ, (FloatFormat.round n).isFinite = true →
    |(FloatFormat.round n).value - n| ≤ unit * |(n : ℚ)|

/-- Exact arithmetic has no error. -/
instance : @RelativeRounding FloatFormat.exact 0 :=
  @RelativeRounding.mk FloatFormat.exact 0 le_rfl
    (fun {left right} _ _ _ _ _ => by
      change |left.value + right.value - (left.value + right.value)| ≤ 0 * _
      rw [sub_self, abs_zero, zero_mul])
    (fun n _ => by
      change |(n : ℚ) - n| ≤ 0 * _
      rw [sub_self, abs_zero, zero_mul])

/-- Rounding half to even gives a nearest integer. -/
theorem halfEven_nearest : halfEven.Nearest := by
  intro q
  have floor : (q.floor : ℚ) ≤ q := Rat.floor_le q
  change |(roundHalfEven q : ℚ) - q| ≤ 1 / 2
  rw [abs_le]
  rcases roundHalfEven_cases q with ⟨down, lower⟩ | ⟨up, upper⟩
  · rw [down]
    constructor <;> linarith
  · have next := Rat.lt_floor_add_one q
    rw [Int.cast_add, Int.cast_one] at next
    rw [up, Int.cast_add, Int.cast_one]
    constructor <;> linarith

/-- The relative error of rounding to the nearest double. -/
def doubleUnit : ℚ := doubleGrid.unit ℚ

/-- The value of a finite double that a rational is rounded to. -/
theorem nearestDouble_value {q : ℚ} (finite : (nearestDouble q).isFinite = true) :
    (nearestDouble q).value = doubleGrid.signed halfEven q := by
  rcases nearestDouble_cases q with ⟨_, same⟩ | ⟨_, same⟩ | ⟨_, _, _, value⟩
  · rw [same] at finite
    contradiction
  · rw [same] at finite
    contradiction
  · exact value

/-- A whole count of the least double is rounded to a double by at most the unit of its size. -/
theorem nearestDouble_relative {q : ℚ} (whole : doubleGrid.Whole q)
    (finite : (nearestDouble q).isFinite = true) :
    |(nearestDouble q).value - q| ≤ doubleUnit * |q| := by
  rw [nearestDouble_value finite]
  exact FloatGrids.Grid.signed_relative halfEven_nearest whole

/-- A finite double is a whole count of the least one. -/
theorem held_isWhole {x : PyFloat} {repr percent : PyFloat → String}
    (held : @PyFloat.Held (.binary64 repr percent) x) (finite : x.isFinite = true) :
    doubleGrid.Whole x.value := by
  have same : (nearestDouble x.value).level = x.level :=
    @PyFloat.Held.fixed (.binary64 repr percent) x held finite
  rcases nearestDouble_cases x.value with ⟨_, top⟩ | ⟨_, bottom⟩ | ⟨_, _, known, value⟩
  · rw [top, PyFloat.level_of_finite finite] at same
    exact absurd same.symm (ne_of_lt (WithBot.coe_lt_coe.mpr (WithTop.coe_lt_top _)))
  · rw [bottom, PyFloat.level_of_finite finite] at same
    exact absurd same (ne_of_lt (WithBot.bot_lt_coe _))
  · have kept : x.value = doubleGrid.signed halfEven x.value := by
      rw [← value]
      exact le_antisymm ((PyFloat.level_le_iff finite known).mp same.ge)
        ((PyFloat.level_le_iff known finite).mp same.le)
    rw [kept]
    exact FloatGrids.Grid.signed_isWhole _

/-- Integers are whole counts of the least double. -/
theorem int_isWhole (n : ℤ) : doubleGrid.Whole (n : ℚ) := by
  refine ⟨n * 2 ^ (0 - doubleGrid.least).toNat, ?_⟩
  rw [Int.cast_mul, mul_assoc, ← FloatGrids.Grid.power_units (by decide), zpow_zero, mul_one]

/-- Doubles round with a relative error of at most `doubleUnit`. -/
instance (repr percent : PyFloat → String) :
    @RelativeRounding (.binary64 repr percent) doubleUnit :=
  @RelativeRounding.mk (.binary64 repr percent) doubleUnit FloatGrids.Grid.unit_nonneg
    (fun held held' known known' finite =>
      nearestDouble_relative ((held_isWhole held known).add (held_isWhole held' known')) finite)
    (fun n finite => nearestDouble_relative (int_isWhole n) finite)

namespace PyFloat

/-- What is on the level of a finite float has its value, if it is a number. -/
theorem value_of_level {x y : PyFloat} (number : x.isNan = false) (finite : y.isFinite = true)
    (same : x.level = y.level) : x.isFinite = true ∧ x.value = y.value := by
  have known : x.isFinite = true := by
    rw [level_of_finite finite] at same
    cases x with
    | nan => contradiction
    | posInf => exact absurd same.symm (ne_of_lt (WithBot.coe_lt_coe.mpr (WithTop.coe_lt_top _)))
    | negInf => exact absurd same (ne_of_lt (WithBot.bot_lt_coe _))
    | negZero | finite => rfl
  refine ⟨known, le_antisymm ?_ ?_⟩
  · exact (level_le_iff known finite).mp same.le
  · exact (level_le_iff finite known).mp same.ge

/-- What lies between finite floats is finite. -/
theorem finite_between {low x high : PyFloat} (number : x.isNan = false)
    (hl : low.isFinite = true) (hr : high.isFinite = true) (above : low.level ≤ x.level)
    (below : x.level ≤ high.level) : x.isFinite = true := by
  rw [level_of_finite hl] at above
  rw [level_of_finite hr] at below
  cases x with
  | nan => contradiction
  | posInf => exact absurd below (not_le.mpr (WithBot.coe_lt_coe.mpr (WithTop.coe_lt_top _)))
  | negInf => exact absurd above (not_le.mpr (WithBot.bot_lt_coe _))
  | negZero | finite => rfl

variable [FloatFormat]

/-- A finite sum has finite terms. -/
theorem finite_of_add {left right : PyFloat} (finite : (left.add right).isFinite = true) :
    left.isFinite = true ∧ right.isFinite = true := by
  cases left <;> cases right <;> first | contradiction | exact ⟨rfl, rfl⟩

end PyFloat

end Python
