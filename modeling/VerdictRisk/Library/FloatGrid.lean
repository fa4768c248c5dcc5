import Mathlib.Data.Int.Log
import Mathlib.Algebra.Order.Field.Basic
import Mathlib.Algebra.Order.Floor.Ring
import Mathlib.Tactic.Linarith
import Mathlib.Tactic.NormNum

/-!
# Floating-point grids

A grid holds the numbers with a bounded count of binary digits above a least exponent. A magnitude
is rounded by scaling its last digit to one, rounding to an integer, and scaling back; a negative
number is rounded by its magnitude. Whatever monotone rounding of integers is used, the rounding
to the grid is monotone, leaves what it has rounded alone, and keeps the integers that fit.
-/

namespace FloatGrids

/-- A monotone rounding to the integers. -/
structure IntegerRounding (K : Type*) [Field K] [LinearOrder K] where
  nearest : K → ℤ
  mono : ∀ x y : K, x ≤ y → nearest x ≤ nearest y
  fixes : ∀ n : ℤ, nearest n = n

/-- It is off by at most a half. -/
def IntegerRounding.Nearest {K : Type*} [Field K] [LinearOrder K] (rounding : IntegerRounding K) :
    Prop :=
  ∀ x, |rounding.nearest x - x| ≤ 1 / 2

/-- The count of digits after the leading one, and the exponent of the last digit of the smallest
numbers. -/
structure Grid where
  digits : ℕ
  least : ℤ

namespace Grid

variable {K : Type*} [Field K] [LinearOrder K] [IsStrictOrderedRing K] [FloorRing K]
variable (grid : Grid) (rounding : IntegerRounding K)

/-- The exponent of the last digit of a magnitude. -/
def exponent (x : K) : ℤ := max (Int.log 2 x - grid.digits) grid.least

/-- A magnitude rounded to the grid. -/
def snap (x : K) : K :=
  rounding.nearest (x / 2 ^ grid.exponent x) * 2 ^ grid.exponent x

/-- A number rounded to the grid. -/
def signed (x : K) : K := if x < 0 then -grid.snap rounding (-x) else grid.snap rounding x

variable {grid rounding}

omit [FloorRing K] in
/-- Powers of two are positive. -/
theorem power_pos (e : ℤ) : (0 : K) < 2 ^ e := zpow_pos two_pos e

/-- The power of two of its leading digit does not exceed a magnitude. -/
theorem power_log_le {x : K} (positive : 0 < x) : (2 : K) ^ Int.log 2 x ≤ x := by
  exact_mod_cast Int.zpow_log_le_self (b := 2) (by norm_num) positive

/-- A magnitude of a whole count of units is on the grid. -/
theorem snap_whole {x : K} {n : ℤ} (whole : x / 2 ^ grid.exponent x = n) :
    grid.snap rounding x = x := by
  rw [snap, whole, rounding.fixes, ← whole, div_mul_cancel₀ x (ne_of_gt (power_pos _))]

/-- Zero is rounded to zero. -/
@[simp] theorem snap_zero : grid.snap rounding (0 : K) = 0 :=
  snap_whole (n := 0) (by rw [zero_div, Int.cast_zero])

/-- A magnitude is not rounded below zero. -/
theorem snap_nonneg {x : K} (nonneg : 0 ≤ x) : 0 ≤ grid.snap rounding x := by
  have scaled : (((0 : ℤ) : K)) ≤ x / 2 ^ grid.exponent x := by
    rw [Int.cast_zero]
    exact div_nonneg nonneg (power_pos _).le
  have units := rounding.mono _ _ scaled
  rw [rounding.fixes] at units
  exact mul_nonneg (by exact_mod_cast units) (power_pos _).le

/-- What stays below a whole count of units is not rounded above it. -/
theorem snap_le_units {x : K} {n : ℤ} (below : x ≤ n * 2 ^ grid.exponent x) :
    grid.snap rounding x ≤ n * 2 ^ grid.exponent x := by
  have scaled : x / 2 ^ grid.exponent x ≤ n := (div_le_iff₀ (power_pos _)).mpr below
  have units := rounding.mono _ _ scaled
  rw [rounding.fixes] at units
  exact mul_le_mul_of_nonneg_right (by exact_mod_cast units) (power_pos _).le

/-- What reaches a whole count of units is not rounded below it. -/
theorem units_le_snap {x : K} {n : ℤ} (above : n * 2 ^ grid.exponent x ≤ x) :
    n * 2 ^ grid.exponent x ≤ grid.snap rounding x := by
  have scaled : (n : K) ≤ x / 2 ^ grid.exponent x := (le_div_iff₀ (power_pos _)).mpr above
  have units := rounding.mono _ _ scaled
  rw [rounding.fixes] at units
  exact mul_le_mul_of_nonneg_right (by exact_mod_cast units) (power_pos _).le

omit [FloorRing K] in
/-- A power of two above the unit is a whole count of units. -/
theorem power_units {high low : ℤ} (ordered : low ≤ high) :
    (2 : K) ^ high = ((2 ^ (high - low).toNat : ℤ) : K) * 2 ^ low := by
  have split : high = ((high - low).toNat : ℤ) + low := by omega
  conv_lhs => rw [split, zpow_add₀ two_ne_zero, zpow_natCast]
  push_cast
  rfl

/-- A magnitude stays below the power of two that its units are counted up to. -/
theorem lt_top_power {x : K} : x < 2 ^ (grid.exponent x + grid.digits + 1) := by
  have logarithm : x < (2 : K) ^ (Int.log 2 x + 1) := by
    exact_mod_cast Int.lt_zpow_succ_log_self (b := 2) (by norm_num) x
  refine logarithm.trans_le (zpow_le_zpow_right₀ one_le_two ?_)
  have bound : Int.log 2 x - grid.digits ≤ grid.exponent x := le_max_left _ _
  omega

/-- Rounding a magnitude does not carry past that power. -/
theorem snap_le_top_power (x : K) :
    grid.snap rounding x ≤ 2 ^ (grid.exponent x + grid.digits + 1) := by
  have whole := power_units (K := K) (show grid.exponent x ≤ grid.exponent x + grid.digits + 1 by
    omega)
  have below : x ≤ (2 : K) ^ (grid.exponent x + grid.digits + 1) := lt_top_power.le
  rw [whole] at below ⊢
  exact snap_le_units below

/-- Rounding keeps the order of two magnitudes. Between magnitudes of different exponents lies a
power of two that neither is rounded past. -/
theorem snap_mono {x y : K} (nonneg : 0 ≤ x) (ordered : x ≤ y) :
    grid.snap rounding x ≤ grid.snap rounding y := by
  rcases nonneg.eq_or_lt with rfl | positive
  · rw [snap_zero]
    exact snap_nonneg ordered
  have logs : Int.log 2 x ≤ Int.log 2 y := Int.log_mono_right positive ordered
  have exponents : grid.exponent x ≤ grid.exponent y :=
    max_le_max_right _ (sub_le_sub_right logs _)
  rcases exponents.eq_or_lt with same | apart
  · unfold snap
    rw [← same]
    have scaled : x / 2 ^ grid.exponent x ≤ y / 2 ^ grid.exponent x :=
      div_le_div_of_nonneg_right ordered (power_pos _).le
    exact mul_le_mul_of_nonneg_right (by exact_mod_cast rounding.mono _ _ scaled)
      (power_pos _).le
  · have normal : grid.exponent y = Int.log 2 y - grid.digits := by
      rcases max_choice (Int.log 2 y - grid.digits) grid.least with normal | least
      · exact normal
      · have bound : grid.least ≤ grid.exponent x := le_max_right _ _
        have reached : grid.exponent y = grid.least := least
        omega
    have lower : (2 : K) ^ Int.log 2 y ≤ y := power_log_le (positive.trans_le ordered)
    have left : grid.snap rounding x ≤ (2 : K) ^ Int.log 2 y := by
      refine (snap_le_top_power x).trans (zpow_le_zpow_right₀ one_le_two ?_)
      omega
    have right : (2 : K) ^ Int.log 2 y ≤ grid.snap rounding y := by
      have whole := power_units (K := K) (show grid.exponent y ≤ Int.log 2 y by omega)
      rw [whole] at lower ⊢
      exact units_le_snap lower
    exact left.trans right

/-- What has been rounded is not rounded again. A carry into the next power of two is the one case
in which the exponent grows. -/
theorem snap_snap {x : K} (nonneg : 0 ≤ x) :
    grid.snap rounding (grid.snap rounding x) = grid.snap rounding x := by
  have rounded_nonneg : 0 ≤ grid.snap rounding x := snap_nonneg nonneg
  rcases rounded_nonneg.eq_or_lt with zero | positive
  · rw [← zero, snap_zero]
  generalize rounded : grid.snap rounding x = y at positive ⊢
  have made : y = (rounding.nearest (x / 2 ^ grid.exponent x) : K) * 2 ^ grid.exponent x :=
    rounded.symm
  by_cases finer : grid.exponent y ≤ grid.exponent x
  · refine snap_whole (n := rounding.nearest (x / 2 ^ grid.exponent x) *
      2 ^ (grid.exponent x - grid.exponent y).toNat) ?_
    rw [div_eq_iff (ne_of_gt (power_pos _)), Int.cast_mul, mul_assoc, ← power_units finer]
    exact made
  · have coarser : grid.exponent x < grid.exponent y := not_le.mp finer
    have normal : grid.exponent y = Int.log 2 y - grid.digits := by
      rcases max_choice (Int.log 2 y - grid.digits) grid.least with normal | least
      · exact normal
      · have bound : grid.least ≤ grid.exponent x := le_max_right _ _
        have reached : grid.exponent y = grid.least := least
        omega
    have lower : (2 : K) ^ Int.log 2 y ≤ y := power_log_le positive
    have upper : y ≤ 2 ^ (grid.exponent x + grid.digits + 1) := by
      rw [← rounded]
      exact snap_le_top_power x
    have power : Int.log 2 y = grid.exponent x + grid.digits + 1 := by
      have bounded := (zpow_le_zpow_iff_right₀ (one_lt_two (α := K))).mp (lower.trans upper)
      omega
    rw [power] at lower
    have carried : y = 2 ^ (grid.exponent y + grid.digits) := by
      have same : grid.exponent y + grid.digits = grid.exponent x + grid.digits + 1 := by omega
      rw [same]
      exact le_antisymm upper lower
    refine snap_whole (n := 2 ^ grid.digits) ?_
    rw [div_eq_iff (ne_of_gt (power_pos _))]
    refine carried.trans ?_
    rw [add_comm, zpow_add₀ two_ne_zero, zpow_natCast]
    push_cast
    rfl

/-- The integers of no more digits are on the grid. -/
theorem snap_int {n : ℤ} (nonneg : 0 ≤ n) (small : n ≤ 2 ^ (grid.digits + 1))
    (fine : grid.least ≤ 0) : grid.snap rounding (n : K) = n := by
  rcases nonneg.eq_or_lt with rfl | positive
  · rw [Int.cast_zero, snap_zero]
  have lower : (2 : K) ^ Int.log 2 (n : K) ≤ n := power_log_le (by exact_mod_cast positive)
  have upper : (n : K) ≤ 2 ^ ((grid.digits : ℤ) + 1) := by
    exact_mod_cast small
  have logs : Int.log 2 (n : K) ≤ grid.digits + 1 :=
    (zpow_le_zpow_iff_right₀ (one_lt_two (α := K))).mp (lower.trans upper)
  rcases logs.eq_or_lt with top | below
  · have exact : (n : K) = 2 ^ ((grid.digits : ℤ) + 1) := by
      rw [top] at lower
      exact le_antisymm upper lower
    have exponent : grid.exponent (n : K) = 1 := by
      unfold Grid.exponent
      rw [top]
      omega
    refine snap_whole (n := 2 ^ grid.digits) ?_
    rw [exponent, exact, zpow_add₀ two_ne_zero, zpow_one, mul_div_assoc, div_self two_ne_zero,
      mul_one, zpow_natCast]
    push_cast
    rfl
  · have exponent : grid.exponent (n : K) ≤ 0 := by
      unfold Grid.exponent
      omega
    refine snap_whole (n := n * 2 ^ (0 - grid.exponent (n : K)).toNat) ?_
    rw [div_eq_iff (ne_of_gt (power_pos _)), Int.cast_mul, mul_assoc, ← power_units exponent,
      zpow_zero, mul_one]

omit [IsStrictOrderedRing K] in
/-- A number that is not negative is rounded by its magnitude. -/
theorem signed_of_nonneg {x : K} (nonneg : 0 ≤ x) :
    grid.signed rounding x = grid.snap rounding x := if_neg (not_lt.mpr nonneg)

/-- The opposite of a number is rounded to the opposite. -/
theorem signed_neg {x : K} (nonneg : 0 ≤ x) :
    grid.signed rounding (-x) = -grid.snap rounding x := by
  rcases nonneg.eq_or_lt with rfl | positive
  · rw [neg_zero, signed_of_nonneg le_rfl, snap_zero, neg_zero]
  · rw [signed, if_pos (neg_neg_of_pos positive), neg_neg]

omit [FloorRing K] in
/-- Every number is a magnitude or the negative of one. -/
theorem sign_cases (x : K) : 0 ≤ x ∨ ∃ y, 0 ≤ y ∧ x = -y := by
  rcases le_total 0 x with nonneg | nonpos
  · exact .inl nonneg
  · exact .inr ⟨-x, neg_nonneg.mpr nonpos, (neg_neg x).symm⟩

/-- Rounding keeps the order of two numbers. -/
theorem signed_mono {x y : K} (ordered : x ≤ y) :
    grid.signed rounding x ≤ grid.signed rounding y := by
  rcases sign_cases x with nonneg | ⟨x, nonneg, rfl⟩
  · rw [signed_of_nonneg nonneg, signed_of_nonneg (nonneg.trans ordered)]
    exact snap_mono nonneg ordered
  · rw [signed_neg nonneg]
    rcases sign_cases y with nonneg' | ⟨y, nonneg', rfl⟩
    · rw [signed_of_nonneg nonneg']
      exact (neg_nonpos.mpr (snap_nonneg nonneg)).trans (snap_nonneg nonneg')
    · rw [signed_neg nonneg']
      exact neg_le_neg (snap_mono nonneg' (neg_le_neg_iff.mp ordered))

/-- What has been rounded is not rounded again. -/
theorem signed_signed (x : K) :
    grid.signed rounding (grid.signed rounding x) = grid.signed rounding x := by
  rcases sign_cases x with nonneg | ⟨x, nonneg, rfl⟩
  · rw [signed_of_nonneg nonneg, signed_of_nonneg (snap_nonneg nonneg), snap_snap nonneg]
  · rw [signed_neg nonneg, signed_neg (snap_nonneg nonneg), snap_snap nonneg]

/-- The integers of no more digits are kept, with their signs. -/
theorem signed_int {n : ℤ} (small : n.natAbs ≤ 2 ^ (grid.digits + 1)) (fine : grid.least ≤ 0) :
    grid.signed rounding (n : K) = n := by
  rcases Int.natAbs_eq n with same | same
  · rw [same, signed_of_nonneg (by positivity), snap_int (by positivity) _ fine]
    exact_mod_cast small
  · rw [same, Int.cast_neg, signed_neg (by positivity), snap_int (by positivity) _ fine]
    exact_mod_cast small

/-- A whole count of the least units. -/
def Whole (grid : Grid) (x : K) : Prop := ∃ n : ℤ, x = n * 2 ^ grid.least

omit [LinearOrder K] [IsStrictOrderedRing K] [FloorRing K] in
/-- The opposite of a whole count of the least units is one. -/
theorem Whole.neg {x : K} (whole : grid.Whole x) : grid.Whole (-x) := by
  obtain ⟨n, rfl⟩ := whole
  exact ⟨-n, by rw [Int.cast_neg, neg_mul]⟩

omit [LinearOrder K] [IsStrictOrderedRing K] [FloorRing K] in
/-- The sum of whole counts of the least units is one. -/
theorem Whole.add {x y : K} (whole : grid.Whole x) (whole' : grid.Whole y) :
    grid.Whole (x + y) := by
  obtain ⟨n, rfl⟩ := whole
  obtain ⟨m, rfl⟩ := whole'
  exact ⟨n + m, by rw [Int.cast_add, add_mul]⟩

/-- A rounded magnitude is a whole count of the least units. -/
theorem snap_isWhole (x : K) : grid.Whole (grid.snap rounding x) := by
  have fine : grid.least ≤ grid.exponent x := le_max_right _ _
  refine ⟨rounding.nearest (x / 2 ^ grid.exponent x) * 2 ^ (grid.exponent x - grid.least).toNat, ?_⟩
  rw [snap, power_units fine, Int.cast_mul, mul_assoc]

/-- A rounded number is a whole count of the least units. -/
theorem signed_isWhole (x : K) : grid.Whole (grid.signed rounding x) := by
  unfold signed
  split
  · exact (snap_isWhole _).neg
  · exact snap_isWhole _

/-- The largest relative error of rounding a number that is not below the least units. -/
def unit (K : Type*) [Field K] (grid : Grid) : K := (2 ^ (grid.digits + 1))⁻¹

/-- The largest relative error is not negative. -/
theorem unit_nonneg : (0 : K) ≤ grid.unit K := inv_nonneg.mpr (pow_nonneg two_pos.le _)

/-- A magnitude is rounded by at most half of its last digit. -/
theorem snap_error (nearest : rounding.Nearest) (x : K) :
    |grid.snap rounding x - x| ≤ 2 ^ grid.exponent x / 2 := by
  have positive : (0 : K) < 2 ^ grid.exponent x := power_pos _
  have scaled : x = x / 2 ^ grid.exponent x * 2 ^ grid.exponent x :=
    (div_mul_cancel₀ x (ne_of_gt positive)).symm
  calc |grid.snap rounding x - x|
      = |(rounding.nearest (x / 2 ^ grid.exponent x) - x / 2 ^ grid.exponent x) *
          2 ^ grid.exponent x| := by rw [sub_mul, ← scaled, snap]
    _ = |rounding.nearest (x / 2 ^ grid.exponent x) - x / 2 ^ grid.exponent x| *
          2 ^ grid.exponent x := by rw [abs_mul, abs_of_pos positive]
    _ ≤ 1 / 2 * 2 ^ grid.exponent x := mul_le_mul_of_nonneg_right (nearest _) positive.le
    _ = 2 ^ grid.exponent x / 2 := by rw [one_div, inv_mul_eq_div]

/-- A whole count of the least units is rounded by at most the unit of its size: it is kept where
the least unit is its last digit. -/
theorem snap_relative (nearest : rounding.Nearest) {x : K} (nonneg : 0 ≤ x)
    (whole : grid.Whole x) : |grid.snap rounding x - x| ≤ grid.unit K * x := by
  rcases nonneg.eq_or_lt with rfl | positive
  · rw [snap_zero, sub_self, abs_zero, mul_zero]
  rcases max_choice (Int.log 2 x - grid.digits) grid.least with normal | least
  · have exponent : grid.exponent x = Int.log 2 x - grid.digits := normal
    have half : (2 : K) ^ grid.exponent x / 2 = grid.unit K * 2 ^ Int.log 2 x := by
      rw [exponent, zpow_sub₀ two_ne_zero, zpow_natCast, unit, pow_succ, mul_inv, div_div,
        div_eq_inv_mul, mul_inv]
    calc |grid.snap rounding x - x|
        ≤ grid.unit K * 2 ^ Int.log 2 x := half ▸ snap_error nearest x
      _ ≤ grid.unit K * x := mul_le_mul_of_nonneg_left (power_log_le positive) unit_nonneg
  · obtain ⟨n, counted⟩ := whole
    have exponent : grid.exponent x = grid.least := least
    have kept : grid.snap rounding x = x := by
      refine snap_whole (n := n) ?_
      rw [exponent, div_eq_iff (ne_of_gt (power_pos _))]
      exact counted
    rw [kept, sub_self, abs_zero]
    exact mul_nonneg unit_nonneg nonneg

/-- A number that is a whole count of the least units is rounded by at most the unit of its
size. -/
theorem signed_relative (nearest : rounding.Nearest) {x : K} (whole : grid.Whole x) :
    |grid.signed rounding x - x| ≤ grid.unit K * |x| := by
  rcases sign_cases x with nonneg | ⟨x, nonneg, rfl⟩
  · rw [signed_of_nonneg nonneg, abs_of_nonneg nonneg]
    exact snap_relative nearest nonneg whole
  · rw [signed_neg nonneg, abs_neg, abs_of_nonneg nonneg, neg_sub_neg, abs_sub_comm]
    have counted := whole.neg
    rw [neg_neg] at counted
    exact snap_relative nearest nonneg counted

end Grid

end FloatGrids
