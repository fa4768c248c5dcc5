import Mathlib.Algebra.Order.Ring.Rat
import Mathlib.Algebra.Order.Floor.Defs
import Mathlib.Data.Rat.Floor
import Mathlib.Tactic.Linarith
import Mathlib.Tactic.NormNum

/-!
# Python numbers

A `float` is read as an extended rational: NaN, the two infinities, the negative zero or a
finite value. Comparisons are those of Python, so every comparison with NaN is false. The
arithmetic of finite operands is the exact result put through the rounding of a
`FloatFormat`; its two laws are documented facts of binary64, and exact rational arithmetic
is the format that rounds nothing. A numeric slot that accepts both an `int` and a `float`
holds a `PyNum`.
-/

namespace Python

/-- A raised exception, with its message. -/
inductive PyError where
  /-- `ValueError` -/
  | valueError (message : String)
  /-- `TypeError` -/
  | typeError (message : String)
  /-- `OverflowError` -/
  | overflowError (message : String)
  /-- A decoder's validation error. -/
  | validationError (message : String)
deriving DecidableEq, Repr

/-- The text of an exception, as an f-string prints it. -/
def PyError.message : PyError → String
  | .valueError message | .typeError message | .overflowError message
  | .validationError message => message

/-- A sequence of two steps returns what the second returns on the result of the first. -/
theorem ok_of_bind {α β : Type} {first : Except PyError α} {next : α → Except PyError β}
    {result : β} (returned : (first >>= next) = .ok result) :
    ∃ value, first = .ok value ∧ next value = .ok result := by
  cases first with
  | error raised => exact absurd returned (by simp [bind, Except.bind])
  | ok value => exact ⟨value, rfl, returned⟩

/-- A Python `float`. Both zeros denote the rational zero. -/
inductive PyFloat where
  | nan
  | posInf
  | negInf
  | negZero
  | finite (value : ℚ)
deriving DecidableEq, Repr

namespace PyFloat

/-- A literal is the finite float of its value. -/
instance : OfNat PyFloat n := ⟨.finite n⟩

/-- The rational a finite float denotes; zero elsewhere. -/
def value : PyFloat → ℚ
  | .finite value => value
  | _ => 0

/-- `math.isnan` -/
def isNan : PyFloat → Bool
  | .nan => true
  | _ => false

/-- `math.isinf` -/
def isInf : PyFloat → Bool
  | .posInf | .negInf => true
  | _ => false

/-- `math.isfinite` -/
def isFinite : PyFloat → Bool
  | .finite _ | .negZero => true
  | _ => false

/-- `left < right` -/
def lt : PyFloat → PyFloat → Bool
  | .nan, _ | _, .nan => false
  | _, .negInf | .posInf, _ => false
  | .negInf, _ | _, .posInf => true
  | left, right => decide (left.value < right.value)

/-- `left == right` -/
def eq : PyFloat → PyFloat → Bool
  | .nan, _ | _, .nan => false
  | .posInf, .posInf | .negInf, .negInf => true
  | .posInf, _ | _, .posInf | .negInf, _ | _, .negInf => false
  | left, right => decide (left.value = right.value)

/-- `left <= right` -/
def le (left right : PyFloat) : Bool := left.lt right || left.eq right

/-- `max(left, right)`: the first argument unless the second compares as greater. -/
def pyMax (left right : PyFloat) : PyFloat := if left.lt right then right else left

/-- `min(left, right)`: the first argument unless the second compares as less. -/
def pyMin (left right : PyFloat) : PyFloat := if right.lt left then right else left

/-- The sign bit. -/
def isNegative : PyFloat → Bool
  | .negInf | .negZero => true
  | .finite value => decide (value < 0)
  | _ => false

/-- The zero with a given sign bit. -/
def zero (negative : Bool) : PyFloat := if negative then .negZero else .finite 0

/-- The infinity with a given sign bit. -/
def infinity (negative : Bool) : PyFloat := if negative then .negInf else .posInf

/-- `-x` -/
def neg : PyFloat → PyFloat
  | .nan => .nan
  | .posInf => .negInf
  | .negInf => .posInf
  | .negZero => .finite 0
  | .finite value => if value = 0 then .negZero else .finite (-value)

/-- The value of a finite float is what it was made of. -/
@[simp] theorem value_finite (q : ℚ) : (finite q).value = q := rfl

/-- A finite float is finite. -/
@[simp] theorem isFinite_finite (q : ℚ) : (finite q).isFinite = true := rfl

/-- The value of a literal is its number. -/
@[simp] theorem value_ofNat (n : ℕ) : (no_index (OfNat.ofNat n : PyFloat)).value = n := rfl

/-- A literal is finite. -/
@[simp] theorem isFinite_ofNat (n : ℕ) :
    (no_index (OfNat.ofNat n : PyFloat)).isFinite = true := rfl

/-- The literal `0.0` -/
theorem zero_eq_finite : (0 : PyFloat) = .finite 0 := congrArg finite Nat.cast_zero

/-- The literal `1.0` -/
theorem one_eq_finite : (1 : PyFloat) = .finite 1 := congrArg finite Nat.cast_one

/-- Both zeros are finite. -/
@[simp] theorem isFinite_zero (negative : Bool) : (zero negative).isFinite = true := by
  cases negative <;> rfl

/-- The value of both zeros is zero. -/
@[simp] theorem value_zero (negative : Bool) : (zero negative).value = 0 := by
  cases negative <;> rfl

/-- A float is finite exactly when it is neither NaN nor infinite. -/
theorem isFinite_eq (x : PyFloat) : x.isFinite = (!x.isNan && !x.isInf) := by
  cases x <;> rfl

/-- The guard `isnan or isinf` fires exactly on the non-finite floats. -/
@[simp] theorem isNan_or_isInf (x : PyFloat) : (x.isNan || x.isInf) = !x.isFinite := by
  cases x <;> rfl

/-- Between finite floats, `<` is the order of the values. -/
theorem lt_iff {left right : PyFloat} (hl : left.isFinite = true) (hr : right.isFinite = true) :
    left.lt right = true ↔ left.value < right.value := by
  cases left <;> cases right <;> simp_all only [isFinite, Bool.false_eq_true] <;>
    simp only [lt] <;> exact decide_eq_true_iff

/-- Between finite floats, `==` is equality of the values. -/
theorem eq_iff {left right : PyFloat} (hl : left.isFinite = true) (hr : right.isFinite = true) :
    left.eq right = true ↔ left.value = right.value := by
  cases left <;> cases right <;> simp_all only [isFinite, Bool.false_eq_true] <;>
    simp only [eq] <;> exact decide_eq_true_iff

/-- Between finite floats, `<=` is the order of the values. -/
theorem le_iff {left right : PyFloat} (hl : left.isFinite = true) (hr : right.isFinite = true) :
    left.le right = true ↔ left.value ≤ right.value := by
  rw [le, Bool.or_eq_true, lt_iff hl hr, eq_iff hl hr, le_iff_lt_or_eq]

/-- Negation keeps finiteness. -/
@[simp] theorem isFinite_neg (x : PyFloat) : x.neg.isFinite = x.isFinite := by
  cases x with
  | finite q => by_cases zero : q = 0 <;> simp [neg, isFinite, zero]
  | _ => rfl

/-- Negation negates the value. -/
@[simp] theorem value_neg (x : PyFloat) : x.neg.value = -x.value := by
  cases x with
  | finite q => by_cases zero : q = 0 <;> simp [neg, value, zero]
  | _ => simp [neg, value]

end PyFloat

/-- The rounding and the rendering of floats. -/
class FloatFormat where
  /-- The float nearest to an exact result. -/
  round : ℚ → PyFloat
  /-- Integers of up to 53 bits are represented exactly. -/
  round_int : ∀ n : ℤ, n.natAbs ≤ 2 ^ 53 → round n = .finite n
  /-- Rounding never reverses an order. -/
  round_mono : ∀ p q : ℚ, p ≤ q → (round q).lt (round p) = false
  /-- `repr(x)`, also the text of `f"{x}"` -/
  repr : PyFloat → String
  /-- `f"{x:.2%}"` -/
  percent : PyFloat → String

/-- The integer nearest to a rational, ties to the even one. -/
def roundHalfEven (q : ℚ) : ℤ :=
  let floor := q.floor
  let rest := q - floor
  if rest < 1 / 2 then floor
  else if rest = 1 / 2 ∧ floor % 2 = 0 then floor
  else floor + 1

namespace PyFloat

variable [FloatFormat]

/-- `left + right` -/
def add : PyFloat → PyFloat → PyFloat
  | .nan, _ | _, .nan => .nan
  | .posInf, .negInf | .negInf, .posInf => .nan
  | .posInf, _ | _, .posInf => .posInf
  | .negInf, _ | _, .negInf => .negInf
  | .negZero, .negZero => .negZero
  | left, right => FloatFormat.round (left.value + right.value)

/-- `left - right` -/
def sub (left right : PyFloat) : PyFloat := left.add right.neg

/-- `left * right` -/
def mul (left right : PyFloat) : PyFloat :=
  let negative := left.isNegative != right.isNegative
  if left.isNan || right.isNan then .nan
  else if left.isInf || right.isInf then
    if left.eq 0 || right.eq 0 then .nan else infinity negative
  else if left.value * right.value = 0 then zero negative
  else FloatFormat.round (left.value * right.value)

/-- `left / right`. Python raises `ZeroDivisionError` on a zero divisor; no caller divides by
zero. -/
def div (left right : PyFloat) : PyFloat :=
  let negative := left.isNegative != right.isNegative
  if left.isNan || right.isNan || left.isInf && right.isInf then .nan
  else if left.isInf then infinity negative
  else if right.isInf || left.eq 0 then zero negative
  else FloatFormat.round (left.value / right.value)

omit [FloatFormat] in
/-- Another rational than zero does not compare as zero. -/
theorem finite_eq_zero {q : ℚ} (nonzero : q ≠ 0) : (finite q).eq 0 = false := by
  rw [Bool.eq_false_iff, Ne, eq_iff rfl rfl, value_ofNat, Nat.cast_zero]
  exact nonzero

/-- The difference of two rationals, rounded. -/
theorem finite_sub (left right : ℚ) (nonzero : right ≠ 0) :
    (finite left).sub (finite right) = FloatFormat.round (left - right) := by
  rw [sub, neg, if_neg nonzero, sub_eq_add_neg]
  rfl

/-- The product of two rationals, rounded. -/
theorem finite_mul (left right : ℚ) (nonzero : left * right ≠ 0) :
    (finite left).mul (finite right) = FloatFormat.round (left * right) := by
  simp [mul, isNan, isInf, nonzero]

/-- The quotient of two rationals, rounded. -/
theorem finite_div (left right : ℚ) (nonzero : left ≠ 0) :
    (finite left).div (finite right) = FloatFormat.round (left / right) := by
  simp [div, isNan, isInf, finite_eq_zero nonzero]

end PyFloat

/-- The least magnitude of an `int` that has too many digits to be converted to text: one more
than the 4300 digits that the interpreter allows. -/
@[irreducible] def textLimit : ℕ := 10 ^ 4300

/-- `str(n)` -/
def intText (n : ℤ) : Except PyError String :=
  if n.natAbs < textLimit then .ok (toString n)
  else .error (.valueError ("Exceeds the limit (4300 digits) for integer string conversion; " ++
    "use sys.set_int_max_str_digits() to increase the limit"))

/-- A natural number is written with digits. -/
theorem natDigits (m : ℕ) : ∀ c ∈ (toString m).toList, c.isDigit = true := by
  intro c member
  rw [Nat.toString_eq_repr, Nat.toList_repr] at member
  exact Nat.isDigit_of_mem_toDigits (by decide) (by decide) member

/-- Natural numbers with one text are equal. -/
theorem natText_inj {m n : ℕ} (same : toString m = toString n) : m = n := by
  have digits : Nat.toDigits 10 m = Nat.toDigits 10 n := by
    rw [← Nat.toList_repr, ← Nat.toList_repr, ← Nat.toString_eq_repr, ← Nat.toString_eq_repr, same]
  calc
    m = Nat.ofDigitChars 10 (Nat.toDigits 10 m) 0 := Nat.ofDigitChars_ten_toDigits.symm
    _ = Nat.ofDigitChars 10 (Nat.toDigits 10 n) 0 := by rw [digits]
    _ = n := Nat.ofDigitChars_ten_toDigits

/-- A natural number is not written as a negative integer is. -/
theorem natText_ne_negText (m n : ℕ) : toString m ≠ "-" ++ toString n := by
  intro same
  have sign : '-' ∈ (toString m).toList := by
    rw [same, String.toList_append]
    exact List.mem_cons_self
  have digit := natDigits m '-' sign
  contradiction

/-- Integers with one text are equal. -/
theorem intText_inj {m n : ℤ} (same : toString m = toString n) : m = n := by
  cases m with
  | ofNat m =>
    cases n with
    | ofNat n => exact congrArg Int.ofNat (natText_inj same)
    | negSucc n => exact absurd same (natText_ne_negText m (n + 1))
  | negSucc m =>
    cases n with
    | ofNat n => exact absurd same.symm (natText_ne_negText n (m + 1))
    | negSucc n =>
      have texts : "-" ++ toString (m + 1) = "-" ++ toString (n + 1) := same
      rw [String.append_right_inj] at texts
      exact congrArg Int.negSucc (Nat.succ.inj (natText_inj texts))

/-- A number in a slot that takes an `int` or a `float` and converts neither. -/
inductive PyNum where
  | int (n : ℤ)
  | float (x : PyFloat)
deriving DecidableEq, Repr

namespace PyNum

/-- The least magnitude of an `int` that no double is near enough to: converting it raises
`OverflowError`. -/
@[irreducible] def floatLimit : ℕ := 2 ^ 1024 - 2 ^ 970

/-- The number as an operand of a comparison: Python compares an `int` with a `float` by their
exact values. -/
def exact : PyNum → PyFloat
  | .int n => .finite n
  | .float x => x

/-- `math.isfinite`; where the conversion of an `int` overflows, Python raises instead. -/
def isFinite : PyNum → Bool
  | .int n => n.natAbs < floatLimit
  | .float x => x.isFinite

/-- `math.isnan` -/
def isNan : PyNum → Bool
  | .int _ => false
  | .float x => x.isNan

/-- `math.isinf` -/
def isInf : PyNum → Bool
  | .int _ => false
  | .float x => x.isInf

/-- `-x` -/
def neg : PyNum → PyNum
  | .int n => .int (-n)
  | .float x => .float x.neg

/-- The rational a finite number denotes. -/
def value (x : PyNum) : ℚ := x.exact.value

/-- `x == y` across the two numeric types -/
def eq (x y : PyNum) : Bool := x.exact.eq y.exact

variable [FloatFormat]

/-- `float(x)`, for an `int` that fits. -/
def toFloat : PyNum → PyFloat
  | .int n => FloatFormat.round n
  | .float x => x

/-- `f"{x}"` -/
def repr : PyNum → String
  | .int n => toString n
  | .float x => FloatFormat.repr x

omit [FloatFormat] in
/-- A finite number compares as a finite float. -/
theorem exact_isFinite {x : PyNum} (finite : x.isFinite = true) : x.exact.isFinite = true := by
  cases x with
  | int n => rfl
  | float x => exact finite

omit [FloatFormat] in
/-- Among constructed numbers the guard `isnan or isinf` never fires. -/
@[simp] theorem isNan_or_isInf_of_finite {x : PyNum} (finite : x.isFinite = true) :
    (x.isNan || x.isInf) = false := by
  cases x with
  | int n => rfl
  | float x =>
    have finite : x.isFinite = true := finite
    simp [isNan, isInf, finite]

omit [FloatFormat] in
/-- The guard `isnan or isinf` fires exactly on the numbers that compare as non-finite. -/
@[simp] theorem isNan_or_isInf (x : PyNum) : (x.isNan || x.isInf) = !x.exact.isFinite := by
  cases x with
  | int n => rfl
  | float x => exact PyFloat.isNan_or_isInf x

omit [FloatFormat] in
/-- The opposite of a number is finite where the number is. -/
@[simp] theorem exact_neg_isFinite (x : PyNum) : x.neg.exact.isFinite = x.exact.isFinite := by
  cases x <;> simp [neg, exact]

omit [FloatFormat] in
/-- The value of the opposite is the opposite value. -/
@[simp] theorem exact_neg_value (x : PyNum) : x.neg.exact.value = -x.exact.value := by
  cases x <;> simp [neg, exact]

end PyNum

/-- The decimal digits of a rational after the point, at most `fuel` of them, until none is
left. -/
def decimals : ℕ → ℚ → List Char
  | 0, _ => []
  | fuel + 1, rest =>
    if rest = 0 then [] else
      let digit := (rest * 10).floor
      (toString digit).toList ++ decimals fuel (rest * 10 - digit)

/-- Positional rendering of a magnitude with a short decimal expansion. -/
def decimal (q : ℚ) : String :=
  let whole := q.floor
  let digits := decimals 17 (q - whole)
  toString whole ++ "." ++ String.ofList (if digits = [] then ['0'] else digits)

/-- Renders the floats whose decimal expansion is short, in Python's positional notation. -/
def positional : PyFloat → String
  | .nan => "nan"
  | .posInf => "inf"
  | .negInf => "-inf"
  | .negZero => "-0.0"
  | .finite q => if q < 0 then "-" ++ decimal (-q) else decimal q

/-- The percentage rendering, with two digits after the point. -/
def positionalPercent : PyFloat → String
  | .finite q =>
    let hundredths := roundHalfEven (|q| * 10000)
    let cents := hundredths % 100
    (if q < 0 then "-" else "") ++ toString (hundredths / 100) ++ "."
      ++ (if cents < 10 then "0" else "") ++ toString cents ++ "%"
  | .negZero => "-0.00%"
  | x => positional x ++ "%"

namespace FloatFormat

/-- The format that rounds nothing: exact rational arithmetic. -/
@[reducible] def exact : FloatFormat where
  round := .finite
  round_int _ _ := rfl
  round_mono _ _ ordered := decide_eq_false (not_lt.mpr ordered)
  repr := positional
  percent := positionalPercent

end FloatFormat

section Exact

/-- Exact sums of finite floats are the sums of the values. -/
theorem exact_add {left right : PyFloat} (hl : left.isFinite = true) (hr : right.isFinite = true) :
    (@PyFloat.add .exact left right).isFinite = true ∧
      (@PyFloat.add .exact left right).value = left.value + right.value := by
  cases left <;> cases right <;>
    simp_all [PyFloat.isFinite, PyFloat.add, PyFloat.value, FloatFormat.round]

/-- Exact products of finite floats are the products of the values. -/
theorem exact_mul {left right : PyFloat} (hl : left.isFinite = true) (hr : right.isFinite = true) :
    (@PyFloat.mul .exact left right).isFinite = true ∧
      (@PyFloat.mul .exact left right).value = left.value * right.value := by
  have nl : left.isNan = false ∧ left.isInf = false := by
    simpa [PyFloat.isFinite_eq] using hl
  have nr : right.isNan = false ∧ right.isInf = false := by
    simpa [PyFloat.isFinite_eq] using hr
  by_cases product : left.value * right.value = 0
  · simp only [PyFloat.mul, nl, nr, Bool.or_self, Bool.false_eq_true, if_false, product, if_true]
    exact ⟨PyFloat.isFinite_zero _, PyFloat.value_zero _⟩
  · simp [PyFloat.mul, nl, nr, product, FloatFormat.round]

/-- Exact quotients of finite floats are the quotients of the values. -/
theorem exact_div {left right : PyFloat} (hl : left.isFinite = true) (hr : right.isFinite = true) :
    (@PyFloat.div .exact left right).isFinite = true ∧
      (@PyFloat.div .exact left right).value = left.value / right.value := by
  have nl : left.isNan = false ∧ left.isInf = false := by
    simpa [PyFloat.isFinite_eq] using hl
  have nr : right.isNan = false ∧ right.isInf = false := by
    simpa [PyFloat.isFinite_eq] using hr
  have zeroFinite : (0 : PyFloat).isFinite = true := rfl
  by_cases null : left.eq 0 = true
  · have valueZero : left.value = 0 := (PyFloat.eq_iff hl zeroFinite).mp null
    simp [PyFloat.div, nl, nr, null, valueZero]
  · simp [PyFloat.div, nl, nr, null, FloatFormat.round]

end Exact

end Python
