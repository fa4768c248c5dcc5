import VerdictRisk.Python.Number

/-!
# Kelly sizing

`kelly.py`: the fractional-Kelly stake for a binary-outcome market. The checks raise or answer
zero before anything is computed; every division can raise.
-/

namespace VerdictRisk

open Python

/-- What `kelly_fraction` raises. -/
inductive KellyError where
  /-- `ValueError` -/
  | valueError (message : String)
  /-- `ZeroDivisionError` -/
  | zeroDivisionError
deriving DecidableEq

/-- The default of `conservative_fraction`. -/
def defaultConservativeFraction : PyFloat := .finite (1 / 4)

variable [FloatFormat]

/-- `left / right` -/
def quotient (left right : PyFloat) : Except KellyError PyFloat :=
  if right.eq 0 then .error .zeroDivisionError else .ok (left.div right)

/-- The loop of `kelly_fraction` over its two estimates: whether it returns `0.0` at once. -/
def estimatesUnusable : List (String × PyFloat) → Except KellyError Bool
  | [] => .ok false
  | (name, value) :: rest =>
    if value.isNan || value.isInf then .ok true
    else if !((0 : PyFloat).lt value && value.lt 1) then
      let given := FloatFormat.repr value
      .error (.valueError s!"{name} must be in (0, 1), got {given}")
    else estimatesUnusable rest

/-- What `kelly_fraction` computes from checked arguments. -/
def kellyStake (pWin price conservativeFraction : PyFloat) : Except KellyError PyFloat := do
  let pLoss := (1 : PyFloat).sub pWin
  let b ← quotient ((1 : PyFloat).sub price) price
  let edge := (pWin.mul b).sub pLoss
  if edge.le 0 then .ok 0
  else do
    let fStar ← quotient edge b
    let fraction := fStar.mul conservativeFraction
    .ok (PyFloat.pyMax 0 (PyFloat.pyMin 1 fraction))

/-- Compute the fractional-Kelly stake for a binary-outcome market. -/
def kellyFraction (pWin price conservativeFraction : PyFloat) : Except KellyError PyFloat :=
  if !((0 : PyFloat).lt conservativeFraction && conservativeFraction.le 1) then
    let given := FloatFormat.repr conservativeFraction
    .error (.valueError s!"conservative_fraction must be in (0, 1], got {given}")
  else match estimatesUnusable [("p_win", pWin), ("price", price)] with
    | .error raised => .error raised
    | .ok true => .ok 0
    | .ok false => kellyStake pWin price conservativeFraction

end VerdictRisk
