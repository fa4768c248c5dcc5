import VerdictRisk.Python.Rounding
import VerdictRisk.Library.FloatGrid

/-!
# Doubles

The rounding of the interpreter's own floats: to the nearest number of 53 binary digits above the
least exponent, ties to the even digit, infinite from `2 ** 1024` on. It is a sound rounding, so
what is proved for every sound rounding holds of doubles. How they are written is left open.
-/

namespace Python

/-- The nearest integer is the floor or the one above it, and which one it is does not go back as
the rational grows above the floor. -/
theorem roundHalfEven_cases (q : ℚ) :
    (roundHalfEven q = q.floor ∧ q - q.floor ≤ 1 / 2) ∨
      (roundHalfEven q = q.floor + 1 ∧ 1 / 2 ≤ q - q.floor) := by
  unfold roundHalfEven
  dsimp only
  split_ifs with below tie
  · exact .inl ⟨rfl, below.le⟩
  · exact .inl ⟨rfl, tie.1.le⟩
  · exact .inr ⟨rfl, not_lt.mp below⟩

/-- Rounding half to even keeps the order. -/
theorem roundHalfEven_mono (p q : ℚ) (ordered : p ≤ q) : roundHalfEven p ≤ roundHalfEven q := by
  have floors : p.floor ≤ q.floor := Rat.le_floor_iff.mpr ((Rat.floor_le p).trans ordered)
  rcases floors.eq_or_lt with same | apart
  · rcases roundHalfEven_cases p with ⟨down, _⟩ | ⟨up, upper⟩
    · rcases roundHalfEven_cases q with ⟨down', _⟩ | ⟨up', _⟩ <;> omega
    · rcases roundHalfEven_cases q with ⟨down', lower⟩ | ⟨up', _⟩
      · rw [← same] at lower
        have tie : p = q := by linarith
        rw [tie]
      · omega
  · rcases roundHalfEven_cases p with ⟨down, _⟩ | ⟨up, _⟩ <;>
      rcases roundHalfEven_cases q with ⟨down', _⟩ | ⟨up', _⟩ <;> omega

/-- Integers are rounded to themselves. -/
theorem roundHalfEven_int (n : ℤ) : roundHalfEven n = n := by
  have whole : (n : ℚ).floor = n := Rat.floor_intCast n
  unfold roundHalfEven
  dsimp only
  rw [whole, sub_self, if_pos (by norm_num)]

/-- To the nearest integer, ties to the even one. -/
def halfEven : FloatGrids.IntegerRounding ℚ :=
  ⟨roundHalfEven, roundHalfEven_mono, roundHalfEven_int⟩

/-- 52 digits after the leading one, down to `2 ** -1074`. -/
def doubleGrid : FloatGrids.Grid := ⟨52, -1074⟩

/-- What is rounded to this magnitude, with no bound on the exponent, is infinite as a double. -/
@[irreducible] def doubleLimit : ℚ := 2 ^ 1024

/-- The integers of up to 53 bits are far below it. -/
theorem int_lt_doubleLimit : (2 : ℚ) ^ 53 < doubleLimit := by
  unfold doubleLimit
  exact pow_lt_pow_right₀ one_lt_two (by decide)

/-- The limit of the doubles is positive. -/
theorem doubleLimit_pos : 0 < doubleLimit := lt_trans (by norm_num) int_lt_doubleLimit

/-- The double nearest to a rational. -/
def nearestDouble (q : ℚ) : PyFloat :=
  let rounded := doubleGrid.signed halfEven q
  if doubleLimit ≤ rounded then .posInf
  else if rounded ≤ -doubleLimit then .negInf
  else if rounded = 0 ∧ q < 0 then .negZero
  else .finite rounded

/-- What the nearest double is. -/
theorem nearestDouble_cases (q : ℚ) :
    (doubleLimit ≤ doubleGrid.signed halfEven q ∧ nearestDouble q = .posInf) ∨
    (doubleGrid.signed halfEven q ≤ -doubleLimit ∧ nearestDouble q = .negInf) ∨
    (doubleGrid.signed halfEven q < doubleLimit ∧ -doubleLimit < doubleGrid.signed halfEven q ∧
      (nearestDouble q).isFinite = true ∧
      (nearestDouble q).value = doubleGrid.signed halfEven q) := by
  unfold nearestDouble
  dsimp only
  split_ifs with above below zero
  · exact .inl ⟨above, rfl⟩
  · exact .inr (.inl ⟨below, rfl⟩)
  · exact .inr (.inr ⟨not_le.mp above, not_le.mp below, rfl, zero.1.symm⟩)
  · exact .inr (.inr ⟨not_le.mp above, not_le.mp below, rfl, rfl⟩)

/-- The nearest double is a number. -/
theorem nearestDouble_known (q : ℚ) : (nearestDouble q).isNan = false := by
  rcases nearestDouble_cases q with ⟨_, same⟩ | ⟨_, same⟩ | ⟨_, _, finite, _⟩
  · rw [same]
    rfl
  · rw [same]
    rfl
  · exact PyFloat.isNan_of_finite finite

/-- The nearest doubles are in the order of the numbers. -/
theorem nearestDouble_mono (p q : ℚ) (ordered : p ≤ q) :
    (nearestDouble p).level ≤ (nearestDouble q).level := by
  have rounded : doubleGrid.signed halfEven p ≤ doubleGrid.signed halfEven q :=
    FloatGrids.Grid.signed_mono ordered
  rcases nearestDouble_cases q with ⟨_, top⟩ | ⟨low, bottom⟩ | ⟨below, above, finite, value⟩
  · rw [top]
    exact le_top
  · rcases nearestDouble_cases p with ⟨high, _⟩ | ⟨_, bottom'⟩ | ⟨_, above, _, _⟩
    · have positive := doubleLimit_pos
      linarith
    · rw [bottom']
      exact bot_le
    · linarith
  · rcases nearestDouble_cases p with ⟨high, _⟩ | ⟨_, bottom⟩ | ⟨_, _, finite', value'⟩
    · linarith
    · rw [bottom]
      exact bot_le
    · rw [PyFloat.level_le_iff finite' finite, value, value']
      exact rounded

/-- A double is the nearest one to itself. -/
theorem nearestDouble_fixed (q : ℚ) (finite : (nearestDouble q).isFinite = true) :
    (nearestDouble (nearestDouble q).value).level = (nearestDouble q).level := by
  rcases nearestDouble_cases q with ⟨_, same⟩ | ⟨_, same⟩ | ⟨below, above, _, value⟩
  · rw [same] at finite
    contradiction
  · rw [same] at finite
    contradiction
  · have again : doubleGrid.signed halfEven (nearestDouble q).value = (nearestDouble q).value := by
      rw [value, FloatGrids.Grid.signed_signed]
    rcases nearestDouble_cases (nearestDouble q).value with ⟨high, _⟩ | ⟨low, _⟩ |
      ⟨_, _, finite', value'⟩
    · rw [again, value] at high
      linarith
    · rw [again, value] at low
      linarith
    · rw [PyFloat.level_of_finite finite', PyFloat.level_of_finite finite, value', again]

/-- Integers up to `2 ^ 53` are their own nearest doubles. -/
theorem nearestDouble_int (n : ℤ) (small : n.natAbs ≤ 2 ^ 53) : nearestDouble n = .finite n := by
  have kept : doubleGrid.signed halfEven (n : ℚ) = n := FloatGrids.Grid.signed_int small (by decide)
  have scale := int_lt_doubleLimit
  have magnitude : |(n : ℚ)| ≤ 2 ^ 53 := by
    rw [← Int.cast_abs, Int.abs_eq_natAbs]
    exact_mod_cast small
  obtain ⟨lower, upper⟩ := abs_le.mp magnitude
  have high : ¬ doubleLimit ≤ n := not_le.mpr (upper.trans_lt scale)
  have low : ¬ (n : ℚ) ≤ -doubleLimit := by
    rw [not_le]
    linarith
  unfold nearestDouble
  rw [kept, if_neg high, if_neg low]
  by_cases zero : (n : ℚ) = 0
  · rw [zero, if_neg (by simp)]
  · rw [if_neg (by simp [zero])]

/-- The format of doubles, with some way of writing them. -/
@[reducible] def FloatFormat.binary64 (repr percent : PyFloat → String) : FloatFormat where
  round := nearestDouble
  round_int := nearestDouble_int
  round_mono p q ordered :=
    (PyFloat.not_lt_level (nearestDouble_known q) (nearestDouble_known p)).mpr
      (nearestDouble_mono p q ordered)
  repr := repr
  percent := percent

/-- The rounding of doubles is sound. -/
instance (repr percent : PyFloat → String) : @SoundRounding (.binary64 repr percent) :=
  @SoundRounding.mk (.binary64 repr percent) nearestDouble_known nearestDouble_fixed

/-- Doubles, written out in full where their decimal expansion is short. -/
@[reducible] def FloatFormat.doubles : FloatFormat := .binary64 positional positionalPercent

end Python
