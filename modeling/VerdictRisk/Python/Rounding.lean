import VerdictRisk.Python.Number
import Mathlib.Order.WithBot
import Mathlib.Tactic.GCongr

/-!
# Sound roundings

The laws of a `FloatFormat` leave open whether a rounded result is a number and whether it is
rounded again. A sound rounding, as that of binary64, answers both. Floats other than NaN are
ordered by their level, an extended rational, and the operations of the gates follow that order
in each operand.
-/

namespace Python

namespace PyFloat

/-- The place of a float in the order of the extended rationals; NaN has none. -/
def level : PyFloat → WithBot (WithTop ℚ)
  | .nan | .posInf => ((⊤ : WithTop ℚ) : WithBot (WithTop ℚ))
  | .negInf => ⊥
  | .negZero => (((0 : ℚ) : WithTop ℚ) : WithBot (WithTop ℚ))
  | .finite q => ((q : WithTop ℚ) : WithBot (WithTop ℚ))

/-- A finite float is on the level of its value. -/
theorem level_of_finite {x : PyFloat} (finite : x.isFinite = true) :
    x.level = ((x.value : WithTop ℚ) : WithBot (WithTop ℚ)) := by
  cases x <;> first | rfl | contradiction

/-- The levels of finite floats are ordered as their values. -/
theorem level_le_iff {left right : PyFloat} (hl : left.isFinite = true)
    (hr : right.isFinite = true) : left.level ≤ right.level ↔ left.value ≤ right.value := by
  rw [level_of_finite hl, level_of_finite hr, WithBot.coe_le_coe, WithTop.coe_le_coe]

/-- A finite float is a number. -/
theorem isNan_of_finite {x : PyFloat} (finite : x.isFinite = true) : x.isNan = false := by
  cases x <;> first | rfl | contradiction

/-- A finite float is not infinite. -/
theorem isInf_of_finite {x : PyFloat} (finite : x.isFinite = true) : x.isInf = false := by
  cases x <;> first | rfl | contradiction

/-- Between numbers, `<` is the order of the levels. -/
theorem lt_level {left right : PyFloat} (hl : left.isNan = false) (hr : right.isNan = false) :
    left.lt right = true ↔ left.level < right.level := by
  have finite : left.isFinite = true → right.isFinite = true →
      (left.lt right = true ↔ left.level < right.level) := by
    intro hl hr
    rw [lt_iff hl hr, level_of_finite hl, level_of_finite hr, WithBot.coe_lt_coe,
      WithTop.coe_lt_coe]
  have below : ∀ q : ℚ, ((q : WithTop ℚ) : WithBot (WithTop ℚ)) < ((⊤ : WithTop ℚ) : WithBot _) :=
    fun q => WithBot.coe_lt_coe.mpr (WithTop.coe_lt_top q)
  cases left <;> cases right <;> first
    | contradiction
    | exact finite rfl rfl
    | exact iff_of_true rfl (below _)
    | exact iff_of_true rfl (WithBot.bot_lt_coe _)
    | exact iff_of_false Bool.false_ne_true (not_lt.mpr bot_le)
    | exact iff_of_false Bool.false_ne_true (not_lt.mpr (below _).le)
    | exact iff_of_false Bool.false_ne_true (lt_irrefl _)

/-- Between numbers, `<` fails exactly against the order of the levels. -/
theorem not_lt_level {left right : PyFloat} (hl : left.isNan = false) (hr : right.isNan = false) :
    left.lt right = false ↔ right.level ≤ left.level := by
  rw [← Bool.not_eq_true, lt_level hl hr, not_lt]

/-- Between numbers, `<=` is the order of the levels. -/
theorem le_level {left right : PyFloat} (hl : left.isNan = false) (hr : right.isNan = false) :
    left.le right = true ↔ left.level ≤ right.level := by
  have finite : left.isFinite = true → right.isFinite = true →
      (left.le right = true ↔ left.level ≤ right.level) := by
    intro hl hr
    rw [le_iff hl hr, level_le_iff hl hr]
  have below : ∀ q : ℚ, ((q : WithTop ℚ) : WithBot (WithTop ℚ)) < ((⊤ : WithTop ℚ) : WithBot _) :=
    fun q => WithBot.coe_lt_coe.mpr (WithTop.coe_lt_top q)
  cases left <;> cases right <;> first
    | contradiction
    | exact finite rfl rfl
    | exact iff_of_true rfl le_rfl
    | exact iff_of_true rfl (below _).le
    | exact iff_of_true rfl bot_le
    | exact iff_of_false Bool.false_ne_true (not_le.mpr (WithBot.bot_lt_coe _))
    | exact iff_of_false Bool.false_ne_true (not_le.mpr (below _))

end PyFloat

/-- A rounding whose results are numbers that it does not round again. -/
class SoundRounding [FloatFormat] : Prop where
  known : ∀ q : ℚ, (FloatFormat.round q).isNan = false
  fixed : ∀ q : ℚ, (FloatFormat.round q).isFinite = true →
    (FloatFormat.round (FloatFormat.round q).value).level = (FloatFormat.round q).level

/-- Exact arithmetic rounds nothing. -/
instance : @SoundRounding FloatFormat.exact :=
  @SoundRounding.mk FloatFormat.exact (fun _ => rfl) (fun _ _ => rfl)

section Operations

variable [FloatFormat]

/-- A number that the format holds: where it is finite, it rounds to itself. -/
structure PyFloat.Held (x : PyFloat) : Prop where
  number : x.isNan = false
  fixed : x.isFinite = true → (FloatFormat.round x.value).level = x.level

namespace PyFloat

/-- The rounding of zero is on the level of zero. -/
theorem level_round_zero : (FloatFormat.round 0).level = level 0 := by
  have zero := FloatFormat.round_int 0 (by decide)
  rw [Int.cast_zero] at zero
  rw [zero, zero_eq_finite]

omit [FloatFormat] in
/-- Both zeros are on the level of zero. -/
theorem level_zero (negative : Bool) : (zero negative).level = level 0 := by
  cases negative <;> rw [zero_eq_finite] <;> rfl

/-- The sum of two finite floats is on the level of the rounded sum of their values. -/
theorem level_add {left right : PyFloat} (hl : left.isFinite = true) (hr : right.isFinite = true) :
    (left.add right).level = (FloatFormat.round (left.value + right.value)).level := by
  cases left <;> cases right <;> first
    | contradiction
    | rfl
    | skip
  rw [show negZero.value + negZero.value = 0 from add_zero 0, level_round_zero, zero_eq_finite]
  rfl

/-- The product of two finite floats is on the level of the rounded product of their values. -/
theorem level_mul {left right : PyFloat} (hl : left.isFinite = true) (hr : right.isFinite = true) :
    (left.mul right).level = (FloatFormat.round (left.value * right.value)).level := by
  rw [mul, isNan_of_finite hl, isNan_of_finite hr, isInf_of_finite hl, isInf_of_finite hr]
  by_cases vanishes : left.value * right.value = 0
  · simp only [Bool.or_self, Bool.false_eq_true, if_false, if_pos vanishes]
    rw [vanishes, level_round_zero, level_zero]
  · simp only [Bool.or_self, Bool.false_eq_true, if_false, if_neg vanishes]

/-- The quotient of two finite floats is on the level of the rounded quotient of their values. -/
theorem level_div {left right : PyFloat} (hl : left.isFinite = true) (hr : right.isFinite = true) :
    (left.div right).level = (FloatFormat.round (left.value / right.value)).level := by
  rw [div, isNan_of_finite hl, isNan_of_finite hr, isInf_of_finite hl, isInf_of_finite hr]
  have vanishes : left.eq 0 = true ↔ left.value = 0 := by
    rw [eq_iff hl (isFinite_ofNat 0), value_ofNat, Nat.cast_zero]
  by_cases none : left.value = 0
  · simp only [Bool.or_self, Bool.and_self, Bool.false_or, Bool.false_eq_true, if_false,
      vanishes.mpr none, if_true]
    rw [none, zero_div, level_round_zero, level_zero]
  · simp only [Bool.or_self, Bool.and_self, Bool.false_or, Bool.false_eq_true, if_false,
      if_neg (mt vanishes.mp none)]

variable [SoundRounding]

/-- Rounding keeps the order. -/
theorem level_round_mono {p q : ℚ} (ordered : p ≤ q) :
    (FloatFormat.round p).level ≤ (FloatFormat.round q).level :=
  (not_lt_level (SoundRounding.known q) (SoundRounding.known p)).mp
    (FloatFormat.round_mono p q ordered)

/-- A rounded result is held. -/
theorem held_round (q : ℚ) : (FloatFormat.round q).Held :=
  ⟨SoundRounding.known q, SoundRounding.fixed q⟩

omit [SoundRounding] in
/-- Every format holds zero. -/
theorem held_zero : Held 0 := by
  refine ⟨rfl, fun _ => ?_⟩
  rw [value_ofNat, Nat.cast_zero, level_round_zero]

omit [SoundRounding] in
/-- Small natural numbers are held by every format. -/
theorem held_natCast {n : ℕ} (small : n ≤ 2 ^ 53) : (finite n).Held := by
  refine ⟨rfl, fun _ => ?_⟩
  have fixed := FloatFormat.round_int n (by simpa using small)
  rw [Int.cast_natCast] at fixed
  rw [show (finite n).value = n from rfl, fixed]

/-- A sum with a finite float is held. -/
theorem held_add {left right : PyFloat} (hl : left.isNan = false) (hr : right.isFinite = true) :
    (left.add right).Held := by
  have zero : (negZero : PyFloat).Held :=
    ⟨rfl, fun _ => level_round_zero.trans (by rw [zero_eq_finite]; rfl)⟩
  cases left <;> cases right <;> first
    | contradiction
    | exact held_round _
    | exact zero
    | exact ⟨rfl, fun finite => absurd finite Bool.false_ne_true⟩

/-- Sums with finite floats follow the order of both operands. -/
theorem level_add_mono {left left' right right' : PyFloat} (hl : left.isNan = false)
    (hl' : left'.isNan = false) (hr : right.isFinite = true) (hr' : right'.isFinite = true)
    (lefts : left.level ≤ left'.level) (rights : right.level ≤ right'.level) :
    (left.add right).level ≤ (left'.add right').level := by
  have lowest : ∀ {x : PyFloat}, x.isFinite = true → (negInf.add x).level = ⊥ := by
    intro x finite
    cases x <;> first | rfl | contradiction
  have highest : ∀ {x : PyFloat}, x.isFinite = true → (posInf.add x).level = ⊤ := by
    intro x finite
    cases x with
    | nan | negInf => contradiction
    | posInf | negZero | finite => rfl
  have between : left.isFinite = true → left'.isFinite = true →
      (left.add right).level ≤ (left'.add right').level := by
    intro finite finite'
    rw [level_add finite hr, level_add finite' hr']
    exact level_round_mono
      (add_le_add ((level_le_iff finite finite').mp lefts) ((level_le_iff hr hr').mp rights))
  cases left <;> cases left' <;> first
    | contradiction
    | exact between rfl rfl
    | exact (lowest hr).trans_le bot_le
    | exact le_top.trans (highest hr').ge

/-- Adding what is not negative to a held number does not lower it. -/
theorem level_le_add {left right : PyFloat} (held : left.Held) (hr : right.isFinite = true)
    (nonneg : 0 ≤ right.value) : left.level ≤ (left.add right).level := by
  cases finite : left.isFinite with
  | true =>
    rw [← held.fixed finite, level_add finite hr]
    exact level_round_mono (le_add_of_nonneg_right nonneg)
  | false =>
    have number := held.number
    cases left <;> cases right <;> first | contradiction | exact le_rfl

/-- A product of finite floats is a number. -/
theorem mul_number {left right : PyFloat} (hl : left.isFinite = true) (hr : right.isFinite = true) :
    (left.mul right).isNan = false := by
  rw [mul, isNan_of_finite hl, isNan_of_finite hr, isInf_of_finite hl, isInf_of_finite hr]
  simp only [Bool.or_self, Bool.false_eq_true, if_false]
  split
  · exact isNan_of_finite (isFinite_zero _)
  · exact SoundRounding.known _

/-- A quotient of finite floats is a number. -/
theorem div_number {left right : PyFloat} (hl : left.isFinite = true) (hr : right.isFinite = true) :
    (left.div right).isNan = false := by
  rw [div, isNan_of_finite hl, isNan_of_finite hr, isInf_of_finite hl, isInf_of_finite hr]
  simp only [Bool.or_self, Bool.and_self, Bool.false_or, Bool.false_eq_true, if_false]
  split
  · exact isNan_of_finite (isFinite_zero _)
  · exact SoundRounding.known _

omit [FloatFormat] [SoundRounding] in
/-- A number that is not below zero is finite or infinite. -/
theorem nonneg_cases {x : PyFloat} (number : x.isNan = false) (nonneg : level 0 ≤ x.level) :
    x = .posInf ∨ x.isFinite = true ∧ 0 ≤ x.value := by
  cases x with
  | nan => contradiction
  | posInf => exact .inl rfl
  | negInf => exact absurd nonneg (by decide)
  | negZero => exact .inr ⟨rfl, le_rfl⟩
  | finite q =>
    have ordered := (level_le_iff (isFinite_ofNat 0) rfl).mp nonneg
    rw [value_ofNat, Nat.cast_zero] at ordered
    exact .inr ⟨rfl, ordered⟩

omit [FloatFormat] [SoundRounding] in
/-- A positive finite float is neither zero nor negative. -/
theorem positive_sign {x : PyFloat} (finite : x.isFinite = true) (positive : 0 < x.value) :
    x.eq 0 = false ∧ x.isNegative = false := by
  have other : x.eq 0 = false := by
    rw [← Bool.not_eq_true, eq_iff finite (isFinite_ofNat 0), value_ofNat, Nat.cast_zero]
    exact ne_of_gt positive
  refine ⟨other, ?_⟩
  cases x with
  | negZero => exact absurd positive (lt_irrefl 0)
  | finite q => exact decide_eq_false (not_lt.mpr positive.le)
  | _ => contradiction

omit [SoundRounding] in
/-- Infinity times a positive float is infinite. -/
theorem posInf_mul {x : PyFloat} (finite : x.isFinite = true) (positive : 0 < x.value) :
    posInf.mul x = .posInf := by
  obtain ⟨other, sign⟩ := positive_sign finite positive
  rw [mul, isNan_of_finite finite, sign, other]
  rfl

omit [SoundRounding] in
/-- Infinity divided by a positive float is infinite. -/
theorem posInf_div {x : PyFloat} (finite : x.isFinite = true) (positive : 0 < x.value) :
    posInf.div x = .posInf := by
  obtain ⟨_, sign⟩ := positive_sign finite positive
  rw [div, isNan_of_finite finite, sign, isInf_of_finite finite]
  rfl

/-- Products of what is not negative with what is positive follow the order of both operands. -/
theorem level_mul_mono {left left' right right' : PyFloat} (hl : left.isNan = false)
    (hl' : left'.isNan = false) (hr : right.isFinite = true) (hr' : right'.isFinite = true)
    (nonneg : level 0 ≤ left.level) (positive : 0 < right.value)
    (lefts : left.level ≤ left'.level) (rights : right.value ≤ right'.value) :
    (left.mul right).isNan = false ∧ (left'.mul right').isNan = false ∧
      level 0 ≤ (left.mul right).level ∧ (left.mul right).level ≤ (left'.mul right').level := by
  have positive' : 0 < right'.value := positive.trans_le rights
  rcases nonneg_cases hl' (nonneg.trans lefts) with rfl | ⟨finite', nonneg'⟩
  · rw [posInf_mul hr' positive']
    rcases nonneg_cases hl nonneg with rfl | ⟨finite, above⟩
    · rw [posInf_mul hr positive]
      exact ⟨rfl, rfl, le_top, le_rfl⟩
    · refine ⟨mul_number finite hr, rfl, ?_, le_top⟩
      rw [level_mul finite hr, ← level_round_zero]
      exact level_round_mono (mul_nonneg above positive.le)
  · rcases nonneg_cases hl nonneg with rfl | ⟨finite, above⟩
    · rw [level_of_finite finite'] at lefts
      exact absurd lefts (not_le.mpr (WithBot.coe_lt_coe.mpr (WithTop.coe_lt_top _)))
    · refine ⟨mul_number finite hr, mul_number finite' hr', ?_, ?_⟩
      · rw [level_mul finite hr, ← level_round_zero]
        exact level_round_mono (mul_nonneg above positive.le)
      · rw [level_mul finite hr, level_mul finite' hr']
        exact level_round_mono (mul_le_mul ((level_le_iff finite finite').mp lefts) rights
          positive.le nonneg')

/-- Quotients of what is not negative by the same positive float follow the order. -/
theorem level_div_mono {left left' right : PyFloat} (hl : left.isNan = false)
    (hl' : left'.isNan = false) (hr : right.isFinite = true) (nonneg : level 0 ≤ left.level)
    (positive : 0 < right.value) (lefts : left.level ≤ left'.level) :
    (left.div right).isNan = false ∧ (left'.div right).isNan = false ∧
      level 0 ≤ (left.div right).level ∧ (left.div right).level ≤ (left'.div right).level := by
  rcases nonneg_cases hl' (nonneg.trans lefts) with rfl | ⟨finite', nonneg'⟩
  · rw [posInf_div hr positive]
    rcases nonneg_cases hl nonneg with rfl | ⟨finite, above⟩
    · rw [posInf_div hr positive]
      exact ⟨rfl, rfl, le_top, le_rfl⟩
    · refine ⟨div_number finite hr, rfl, ?_, le_top⟩
      rw [level_div finite hr, ← level_round_zero]
      exact level_round_mono (div_nonneg above positive.le)
  · rcases nonneg_cases hl nonneg with rfl | ⟨finite, above⟩
    · rw [level_of_finite finite'] at lefts
      exact absurd lefts (not_le.mpr (WithBot.coe_lt_coe.mpr (WithTop.coe_lt_top _)))
    · refine ⟨div_number finite hr, div_number finite' hr, ?_, ?_⟩
      · rw [level_div finite hr, ← level_round_zero]
        exact level_round_mono (div_nonneg above positive.le)
      · rw [level_div finite hr, level_div finite' hr]
        exact level_round_mono (div_le_div_of_nonneg_right
          ((level_le_iff finite finite').mp lefts) positive.le)

end PyFloat

end Operations

end Python
