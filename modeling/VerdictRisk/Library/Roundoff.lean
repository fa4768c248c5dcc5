import Mathlib.Algebra.Order.Ring.Abs
import Mathlib.Algebra.Order.Field.Basic
import Mathlib.Tactic.Linarith
import Mathlib.Tactic.Ring

/-!
# Accumulated rounding errors

A computed total has drifted from the exact one when some of its additions, or the conversions of
its terms, were rounded. The drift is bounded by the number of roundings that any one term has been
through and by the total magnitude of the terms, in whatever order they were added.
-/

namespace Roundoff

variable {K : Type*} [Field K] [LinearOrder K] [IsStrictOrderedRing K]

/-- The computed total is off by what `roundings` roundings of relative error `unit` make of terms
of magnitude `mass` together. -/
structure Drift (unit : K) (roundings : ℕ) (mass exact computed : K) : Prop where
  magnitude : |exact| ≤ mass
  error : |computed - exact| ≤ ((1 + unit) ^ roundings - 1) * mass

variable {unit : K} {roundings : ℕ} {mass exact computed : K}

/-- Powers of what grows each term grow with the count of the roundings. -/
theorem growth_mono (nonneg : 0 ≤ unit) {few many : ℕ} (fewer : few ≤ many) :
    (1 + unit) ^ few ≤ (1 + unit) ^ many :=
  pow_le_pow_right₀ (le_add_of_nonneg_right nonneg) fewer

namespace Drift

/-- What is exact has not drifted. -/
theorem none (unit exact : K) : Drift unit 0 |exact| exact exact := by
  refine ⟨le_rfl, ?_⟩
  rw [sub_self, abs_zero, pow_zero, sub_self, zero_mul]

/-- A total that is not negative has not drifted from itself. -/
theorem none_of_nonneg (unit : K) (nonneg : 0 ≤ exact) : Drift unit 0 exact exact exact := by
  have undrifted := none unit exact
  rwa [abs_of_nonneg nonneg] at undrifted

/-- The magnitude of the terms is not negative. -/
theorem mass_nonneg (drift : Drift unit roundings mass exact computed) : 0 ≤ mass :=
  (abs_nonneg exact).trans drift.magnitude

/-- The bound holds for more roundings. -/
theorem more (drift : Drift unit roundings mass exact computed) (nonneg : 0 ≤ unit) {many : ℕ}
    (fewer : roundings ≤ many) : Drift unit many mass exact computed := by
  refine ⟨drift.magnitude, drift.error.trans ?_⟩
  exact mul_le_mul_of_nonneg_right (sub_le_sub_right (growth_mono nonneg fewer) 1)
    drift.mass_nonneg

/-- The computed total is not much larger than the terms. -/
theorem reach (drift : Drift unit roundings mass exact computed) :
    |computed| ≤ (1 + unit) ^ roundings * mass := by
  have triangle := abs_add_le (computed - exact) exact
  rw [sub_add_cancel] at triangle
  linarith only [triangle, drift.magnitude, drift.error]

/-- Totals drift apart by no more than both of them have drifted. -/
theorem add {mass' exact' computed' : K} (drift : Drift unit roundings mass exact computed)
    (drift' : Drift unit roundings mass' exact' computed') :
    Drift unit roundings (mass + mass') (exact + exact') (computed + computed') := by
  constructor
  · have triangle := abs_add_le exact exact'
    linarith only [triangle, drift.magnitude, drift'.magnitude]
  · have triangle := abs_add_le (computed - exact) (computed' - exact')
    rw [sub_add_sub_comm] at triangle
    linarith only [triangle, drift.error, drift'.error]

/-- One more rounding of the computed total. -/
theorem round (drift : Drift unit roundings mass exact computed) (nonneg : 0 ≤ unit) {rounded : K}
    (error : |rounded - computed| ≤ unit * |computed|) :
    Drift unit (roundings + 1) mass exact rounded := by
  refine ⟨drift.magnitude, ?_⟩
  have reached : unit * |computed| ≤ unit * ((1 + unit) ^ roundings * mass) :=
    mul_le_mul_of_nonneg_left drift.reach nonneg
  calc |rounded - exact|
      ≤ |rounded - computed| + |computed - exact| := abs_sub_le rounded computed exact
    _ ≤ unit * ((1 + unit) ^ roundings * mass) + ((1 + unit) ^ roundings - 1) * mass :=
        add_le_add (error.trans reached) drift.error
    _ = ((1 + unit) ^ (roundings + 1) - 1) * mass := by
        rw [pow_succ]
        ring

/-- A total of terms that are not negative is computed within a factor of the exact one. -/
theorem within (drift : Drift unit roundings exact exact computed) :
    (2 - (1 + unit) ^ roundings) * exact ≤ computed ∧
      computed ≤ (1 + unit) ^ roundings * exact := by
  obtain ⟨below, above⟩ := abs_le.mp drift.error
  constructor
  · linarith only [below]
  · linarith only [above]

end Drift

end Roundoff
