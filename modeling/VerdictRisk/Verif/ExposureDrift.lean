import VerdictRisk.Verif.RoundedExposure
import VerdictRisk.Python.Roundoff
import Mathlib.Data.List.Induction

/-!
# The true exposure

The concentration gate bounds a sum that has been rounded at every step. The capital that is at
risk is the sum of the costs without any rounding. The two drift apart by a share of the exposure
that grows with the number of open positions alone, so an approval in doubles bounds the true
exposure, whatever has been opened and closed before.
-/

namespace VerdictRisk

open Python Roundoff

/-- How many of the positions are open in a family. -/
def openCount (family : String) (positions : List Position) : ℕ :=
  positions.countP fun pos => !pos.isResolved && pos.family == family

section Drift

variable [FloatFormat]

/-- The costs are numbers that the format holds. -/
def HeldCosts (positions : List Position) : Prop := ∀ pos ∈ positions, HeldNum pos.costBasis

/-- The costs are numbers that the format holds and that convert to finite floats, and none of
them is negative. -/
structure Costed (positions : List Position) : Prop where
  held : HeldCosts positions
  fits : ∀ pos ∈ positions, pos.costBasis.toFloat.isFinite = true
  nonneg : ∀ pos ∈ positions, 0 ≤ pos.costBasis.value

namespace Costed

variable {positions : List Position} {pos : Position}

/-- What holds of a book holds of its beginning and of its last position. -/
theorem snoc (costed : Costed (positions ++ [pos])) :
    Costed positions ∧ HeldNum pos.costBasis ∧ pos.costBasis.toFloat.isFinite = true ∧
      0 ≤ pos.costBasis.value := by
  have last : pos ∈ positions ++ [pos] := List.mem_append_right _ List.mem_cons_self
  refine ⟨⟨?_, ?_, ?_⟩, costed.held pos last, costed.fits pos last, costed.nonneg pos last⟩
  · exact fun other member => costed.held other (List.mem_append_left _ member)
  · exact fun other member => costed.fits other (List.mem_append_left _ member)
  · exact fun other member => costed.nonneg other (List.mem_append_left _ member)

/-- The costs are finite. -/
theorem known (costed : Costed positions) :
    ∀ pos ∈ positions, pos.costBasis.exact.isFinite = true := by
  intro pos member
  have fits := costed.fits pos member
  cases cost : pos.costBasis with
  | int n => rfl
  | float x =>
    rw [cost] at fits
    exact fits

/-- No exposure is negative. -/
theorem exposure_nonneg (costed : Costed positions) (family : String) :
    0 ≤ positionLedger.exposure family positions := by
  have nonneg := costed.nonneg
  clear costed
  induction positions with
  | nil => exact le_rfl
  | cons pos rest ih =>
    rw [List.forall_mem_cons] at nonneg
    rw [Ledgers.Ledger.exposure_cons]
    exact add_nonneg (positionLedger.weight_nonneg nonneg.1 family) (ih nonneg.2)

end Costed

omit [FloatFormat] in
/-- An open position of the family is counted. -/
theorem openCount_snoc (family : String) (positions : List Position) (pos : Position) :
    openCount family (positions ++ [pos]) =
      openCount family positions +
        if !pos.isResolved && pos.family == family then 1 else 0 := by
  rw [openCount, List.countP_append, List.countP_singleton]
  rfl

omit [FloatFormat] in
/-- The last position adds its cost to the exposure of its family while it is open. -/
theorem exposure_snoc (family : String) (positions : List Position) (pos : Position) :
    positionLedger.exposure family (positions ++ [pos]) =
      positionLedger.exposure family positions +
        if !pos.isResolved && pos.family == family then pos.costBasis.value else 0 := by
  rw [Ledgers.Ledger.exposure_append, Ledgers.Ledger.exposure_cons, Ledgers.Ledger.exposure_nil,
    add_zero]
  rfl

variable [SoundRounding] {unit : ℚ} [RelativeRounding unit]

/-- A sum drifts by one rounding more than its terms. -/
theorem add_drift {left right : PyFloat} (held : left.Held) (held' : right.Held)
    (finite : (left.add right).isFinite = true) {roundings : ℕ} {mass mass' exact exact' : ℚ}
    (drift : Drift unit roundings mass exact left.value)
    (drift' : Drift unit roundings mass' exact' right.value) :
    Drift unit (roundings + 1) (mass + mass') (exact + exact') (left.add right).value := by
  obtain ⟨known, known'⟩ := PyFloat.finite_of_add finite
  obtain ⟨rounded, value⟩ := PyFloat.value_of_level (SoundRounding.known _) finite
    (PyFloat.level_add known known').symm
  have error := RelativeRounding.sum held held' known known' rounded
  rw [value] at error
  exact (drift.add drift').round RelativeRounding.nonneg error

omit [SoundRounding] in
/-- The conversion of a number is one rounding. -/
theorem toFloat_drift {x : PyNum} (fits : x.toFloat.isFinite = true) (nonneg : 0 ≤ x.value) :
    Drift unit 1 x.value x.value x.toFloat.value := by
  refine (Drift.none_of_nonneg unit nonneg).round RelativeRounding.nonneg ?_
  cases x with
  | int n => exact RelativeRounding.int n fits
  | float x =>
    change |x.value - x.value| ≤ unit * |x.value|
    rw [sub_self, abs_zero]
    exact mul_nonneg RelativeRounding.nonneg (abs_nonneg _)

/-- What a number converts to is held. -/
theorem toFloat_held {x : PyNum} (held : HeldNum x) : x.toFloat.Held := by
  cases x with
  | int n => exact PyFloat.held_round n
  | float x => exact held x rfl

variable {family : String} {positions : List Position}

/-- The exposure that the gate sums, where it is finite, has drifted from the true one by one
rounding for each open position and one for the conversions. -/
theorem exposure_drift (costed : Costed positions)
    (finite : (positions.foldl (addCost family) 0).isFinite = true) :
    Drift unit (openCount family positions + 1) (positionLedger.exposure family positions)
      (positionLedger.exposure family positions) (positions.foldl (addCost family) 0).value := by
  induction positions using List.reverseRecOn with
  | nil => exact (Drift.none_of_nonneg unit le_rfl).more RelativeRounding.nonneg zero_le_one
  | append_singleton positions pos ih =>
    obtain ⟨earlier, held, fits, nonneg⟩ := costed.snoc
    rw [List.foldl_append, List.foldl_cons, List.foldl_nil, addCost] at finite ⊢
    rw [openCount_snoc, exposure_snoc]
    cases counted : (!pos.isResolved && pos.family == family) with
    | false =>
      rw [counted, if_neg Bool.false_ne_true] at finite
      simp only [Bool.false_eq_true, if_false, add_zero]
      exact ih earlier finite
    | true =>
      rw [counted, if_pos rfl] at finite
      simp only [if_true]
      have before := ih earlier (PyFloat.finite_of_add finite).1
      have cost := (toFloat_drift fits nonneg).more RelativeRounding.nonneg
        (Nat.le_add_left 1 (openCount family positions))
      exact add_drift (exposure_held family PyFloat.held_zero earlier.fits) (toFloat_held held)
        finite before cost

/-- A sum of floats that are not negative is finite if what they have drifted to is below a number
that is rounded to a finite float. -/
theorem add_finite {left right : PyFloat} (known : left.isFinite = true)
    (known' : right.isFinite = true) (nonneg : 0 ≤ left.value) (nonneg' : 0 ≤ right.value)
    {bound : ℚ} (top : (FloatFormat.round bound).isFinite = true)
    (room : left.value + right.value ≤ bound) : (left.add right).isFinite = true := by
  have number := (PyFloat.held_add (PyFloat.isNan_of_finite known) known').number
  refine PyFloat.finite_between number (PyFloat.isFinite_ofNat 0) top ?_ ?_
  · rw [PyFloat.level_add known known', ← PyFloat.level_round_zero]
    exact PyFloat.level_round_mono (add_nonneg nonneg nonneg')
  · rw [PyFloat.level_add known known']
    exact PyFloat.level_round_mono room

omit [RelativeRounding unit] in
/-- The summed exposure is not below zero. -/
theorem zero_le_exposure (costed : Costed positions) :
    PyFloat.level 0 ≤ (positions.foldl (addCost family) 0).level := by
  induction positions using List.reverseRecOn with
  | nil => exact le_rfl
  | append_singleton positions pos ih =>
    obtain ⟨earlier, _, fits, nonneg⟩ := costed.snoc
    rw [List.foldl_append, List.foldl_cons, List.foldl_nil]
    exact (ih earlier).trans
      (le_addCost (exposure_held family PyFloat.held_zero earlier.fits) fits nonneg)

omit [RelativeRounding unit] in
/-- Where it is finite, it is not negative. -/
theorem summed_nonneg (costed : Costed positions)
    (finite : (positions.foldl (addCost family) 0).isFinite = true) :
    0 ≤ (positions.foldl (addCost family) 0).value :=
  (PyFloat.level_le_iff (PyFloat.isFinite_ofNat 0) finite).mp (zero_le_exposure costed)

/-- The summed exposure does not overflow if the true one has room to drift. -/
theorem exposure_finite (costed : Costed positions) {bound : ℚ}
    (top : (FloatFormat.round bound).isFinite = true)
    (room : (1 + unit) ^ (openCount family positions + 1) *
      positionLedger.exposure family positions ≤ bound) :
    (positions.foldl (addCost family) 0).isFinite = true := by
  induction positions using List.reverseRecOn with
  | nil => exact PyFloat.isFinite_ofNat 0
  | append_singleton positions pos ih =>
    obtain ⟨earlier, held, fits, nonneg⟩ := costed.snoc
    have before := earlier.exposure_nonneg family
    have growth : (1 : ℚ) ≤ (1 + unit) ^ (openCount family positions + 1) :=
      one_le_pow₀ (le_add_of_nonneg_right RelativeRounding.nonneg)
    rw [openCount_snoc, exposure_snoc] at room
    rw [List.foldl_append, List.foldl_cons, List.foldl_nil, addCost]
    cases counted : (!pos.isResolved && pos.family == family) with
    | false =>
      simp only [counted, Bool.false_eq_true, if_false, add_zero] at room ⊢
      exact ih earlier room
    | true =>
      simp only [counted, if_true] at room ⊢
      have fewer : (1 + unit) ^ (openCount family positions + 1) ≤
          (1 + unit) ^ (openCount family positions + 1 + 1) :=
        growth_mono RelativeRounding.nonneg (Nat.le_succ _)
      have total : (1 + unit) ^ (openCount family positions + 1) *
          (positionLedger.exposure family positions + pos.costBasis.value) ≤ bound :=
        (mul_le_mul_of_nonneg_right fewer (add_nonneg before nonneg)).trans room
      have share : (1 + unit) ^ (openCount family positions + 1) *
          positionLedger.exposure family positions ≤ bound :=
        (mul_le_mul_of_nonneg_left (le_add_of_nonneg_right nonneg) (by linarith)).trans total
      have finite := ih earlier share
      have above := summed_nonneg earlier finite
      have cost := (toFloat_drift fits nonneg).more RelativeRounding.nonneg
        (Nat.le_add_left 1 (openCount family positions))
      have reached := ((exposure_drift earlier finite).add cost).within.2
      exact add_finite finite fits above (toFloat_nonneg fits nonneg) top (reached.trans total)

variable {ctx : RiskContext} {cost : PyFloat}

/-- What the gate compares with its limit, where it is finite, has drifted from the true exposure
with the cost added. -/
theorem compared_drift (costed : Costed positions) (held : cost.Held) (nonneg : 0 ≤ cost.value)
    (finite : ((positions.foldl (addCost family) 0).add cost).isFinite = true) :
    Drift unit (openCount family positions + 2)
      (positionLedger.exposure family positions + cost.value)
      (positionLedger.exposure family positions + cost.value)
      ((positions.foldl (addCost family) 0).add cost).value :=
  add_drift (exposure_held family PyFloat.held_zero costed.fits) held finite
    (exposure_drift costed (PyFloat.finite_of_add finite).1)
    ((Drift.none_of_nonneg unit nonneg).more RelativeRounding.nonneg (Nat.zero_le _))

omit [RelativeRounding unit] in
/-- What passes the gate was summed without overflow. -/
theorem compared_finite (costed : Costed positions) (known : cost.isFinite = true)
    (nonneg : 0 ≤ cost.value)
    (within : ((positions.foldl (addCost family) 0).add cost).level ≤
      ctx.maxCorrelatedExposure.val.exact.level) :
    ((positions.foldl (addCost family) 0).add cost).isFinite = true := by
  have held := exposure_held family PyFloat.held_zero costed.fits
  exact PyFloat.finite_between (PyFloat.held_add held.number known).number
    (PyFloat.isFinite_ofNat 0) (PyNum.exact_isFinite ctx.maxCorrelatedExposure.property)
    ((zero_le_exposure costed).trans (PyFloat.level_le_add held known nonneg)) within

/-- The exposure of a family with the cost of a trade added, without any rounding. -/
def trueExposure (family : String) (positions : List Position) (cost : PyFloat) : ℚ :=
  positionLedger.exposure family positions + cost.value

/-- How far the sum that the gate compares may be from it: what the roundings of the open
positions, of their conversions and of the last addition make of it. -/
def exposureDrift (unit : ℚ) (family : String) (positions : List Position) (cost : PyFloat) : ℚ :=
  ((1 + unit) ^ (openCount family positions + 2) - 1) * trueExposure family positions cost

/-- The gate passes what has room to drift below the limit. -/
theorem concentration_of_room (costed : Costed positions) (held : cost.Held)
    (known : cost.isFinite = true) (nonneg : 0 ≤ cost.value)
    (limit : HeldNum ctx.maxCorrelatedExposure.val)
    (top : ctx.maxCorrelatedExposure.val.toFloat.isFinite = true)
    (room : trueExposure family positions cost + exposureDrift unit family positions cost ≤
      ctx.maxCorrelatedExposure.val.value) :
    concentrationRejection ctx family cost positions = none := by
  have finiteLimit := PyNum.exact_isFinite ctx.maxCorrelatedExposure.property
  have start := costed.exposure_nonneg family
  have reached : (1 + unit) ^ (openCount family positions + 2) *
      (positionLedger.exposure family positions + cost.value) ≤
      ctx.maxCorrelatedExposure.val.value := by
    rw [exposureDrift, trueExposure] at room
    linarith only [room]
  have fewer : (1 + unit) ^ (openCount family positions + 1) *
      (positionLedger.exposure family positions + cost.value) ≤
      ctx.maxCorrelatedExposure.val.value :=
    (mul_le_mul_of_nonneg_right (growth_mono RelativeRounding.nonneg (Nat.le_succ _))
      (add_nonneg start nonneg)).trans reached
  have share : (1 + unit) ^ (openCount family positions + 1) *
      positionLedger.exposure family positions ≤ ctx.maxCorrelatedExposure.val.value :=
    (mul_le_mul_of_nonneg_left (le_add_of_nonneg_right nonneg)
      (pow_nonneg (add_nonneg zero_le_one RelativeRounding.nonneg) _)).trans fewer
  have rounded := (PyFloat.value_of_level (SoundRounding.known _) top
    (toFloat_level limit finiteLimit).symm).1
  have finite := exposure_finite costed rounded share
  have added := ((exposure_drift costed finite).add
    ((Drift.none_of_nonneg unit nonneg).more RelativeRounding.nonneg (Nat.zero_le _))).within.2
  have compared := add_finite finite known (summed_nonneg costed finite) nonneg rounded
    (added.trans fewer)
  rw [concentration_level_iff known costed.known costed.fits,
    PyFloat.level_le_iff compared finiteLimit]
  exact (compared_drift costed held nonneg compared).within.2.trans reached

/-- What the gate passes was summed without overflow, and exceeds the limit by no more than the
drift. -/
theorem room_of_concentration (costed : Costed positions) (held : cost.Held)
    (known : cost.isFinite = true) (nonneg : 0 ≤ cost.value)
    (passes : concentrationRejection ctx family cost positions = none) :
    ((positions.foldl (addCost family) 0).add cost).isFinite = true ∧
      trueExposure family positions cost ≤
        ctx.maxCorrelatedExposure.val.value + exposureDrift unit family positions cost := by
  rw [concentration_level_iff known costed.known costed.fits] at passes
  have finite := compared_finite costed known nonneg passes
  have drifted := (compared_drift costed held nonneg finite).error
  rw [PyFloat.level_le_iff finite (PyNum.exact_isFinite ctx.maxCorrelatedExposure.property)]
    at passes
  have below := (abs_le.mp drifted).1
  change _ ≤ ctx.maxCorrelatedExposure.val.value at passes
  refine ⟨finite, ?_⟩
  rw [exposureDrift, trueExposure]
  linarith only [below, passes]

/-- The cost of an order is a float of the format. -/
def PositionOp.Held : PositionOp → Prop
  | .openTrade order => order.call.proposedCost.Held
  | .closeTrade _ => True

omit [SoundRounding] [RelativeRounding unit] in
/-- Operations with held costs keep the costs of the positions held. -/
theorem positionStep_held (held : HeldCosts positions) {op : PositionOp} (heldOp : op.Held) :
    HeldCosts ((positionKeeper ctx).next positions op) := by
  cases op with
  | closeTrade index =>
    intro pos member
    rcases positionLedger.mem_modify member with same | ⟨old, same, rfl⟩
    · exact held pos same
    · exact held old same
  | openTrade order =>
    change HeldCosts (positionStep ctx positions (.openTrade order)).2
    unfold positionStep
    dsimp only
    cases evaluateTrade ctx { order.call with openPositions := positions } order.clock with
    | error raised => exact held
    | ok decision =>
      dsimp only
      cases decision.approved with
      | false => exact held
      | true =>
        intro pos member
        rcases List.mem_append.mp member with same | fresh
        · exact held pos same
        · rw [List.mem_singleton.mp fresh]
          intro float same
          cases same
          exact heldOp

/-- Along every run in which the costs are floats of the format, and in doubles in particular, the
true exposure of a family with an open position exceeds the limit by no more than the drift: what
the roundings of its `n` open positions make of it. -/
theorem true_exposure_within_drift (ctx : RiskContext) {run : List PositionOp}
    (held : ∀ op ∈ run, op.Held) (family : String)
    (occupied : ∃ pos ∈ (positionKeeper ctx).after [] run, counts family pos) :
    let positions := (positionKeeper ctx).after [] run
    let exposure := positionLedger.exposure family positions
    exposure ≤ ctx.maxCorrelatedExposure.val.value +
      ((1 + unit) ^ (openCount family positions + 1) - 1) * exposure := by
  intro positions exposure
  have sound : SoundPositions ctx positions := by
    have empty : SoundPositions ctx [] := by
      constructor <;> simp
    exact (positionKeeper ctx).after_invariant empty
      (fun _ op sound => positionStep_sound sound op) run
  have costs : HeldCosts positions := by
    have empty : HeldCosts [] := by simp [HeldCosts]
    have kept : HeldCosts positions ∨ ∃ op ∈ run, ¬ op.Held := by
      refine (positionKeeper ctx).after_or_ended empty ?_ run
      intro positions op holds
      by_cases heldOp : op.Held
      · exact .inl (positionStep_held holds heldOp)
      · exact .inr heldOp
    rcases kept with kept | ⟨op, member, ended⟩
    · exact kept
    · exact absurd (held op member) ended
  have costed : Costed positions := ⟨costs, sound.fits, sound.nonneg⟩
  have within := sound.bounded family occupied
  have limit := PyNum.exact_isFinite ctx.maxCorrelatedExposure.property
  have finite := PyFloat.finite_between (exposure_held family PyFloat.held_zero costed.fits).number
    (PyFloat.isFinite_ofNat 0) limit (zero_le_exposure costed) within
  rw [PyFloat.level_le_iff finite limit] at within
  change _ ≤ ctx.maxCorrelatedExposure.val.value at within
  have below := (abs_le.mp (exposure_drift costed finite).error).1
  linarith only [below, within]

end Drift

section Examples

attribute [local instance] FloatFormat.doubles

/-- A third is not negative. -/
theorem third_nonneg : 0 ≤ third.value := by
  norm_num [third, PyFloat.value]

/-- Doubles hold the double nearest to a third. -/
theorem third_held : third.Held := ⟨rfl, by decide +kernel⟩

/-- A third is a number that doubles hold. -/
theorem third_heldNum : HeldNum (.float third) := by
  intro float same
  cases same
  exact third_held

/-- The default limit is a number that doubles hold. -/
theorem default_limit_held : HeldNum RiskContext.default.maxCorrelatedExposure.val := by
  intro float same
  cases same
  exact PyFloat.held_natCast (n := 2500) (by norm_num)

/-- Three positions of a third each. -/
def thirdPositions : List Position :=
  .replicate 3 ⟨"ticker", "family", .float third, .float third, false⟩

/-- The three positions are costed. -/
theorem third_positions_costed : Costed thirdPositions := by
  refine ⟨?_, ?_, ?_⟩ <;> intro pos member <;> rw [List.eq_of_mem_replicate member]
  · exact third_heldNum
  · rfl
  · exact third_nonneg

/-- A trade of a third on top of them has room to drift below the default limit. -/
theorem third_room :
    trueExposure "family" thirdPositions third +
        exposureDrift doubleUnit "family" thirdPositions third <
      RiskContext.default.maxCorrelatedExposure.val.value := by
  decide +kernel

/-- The true exposure of two trades of a third each, entered after another one was closed, has
drifted from the default limit by at most three roundings. -/
theorem thirds_within_drift :
    let order : RoundedOrder :=
      ⟨"ticker", .float third, .plain third none, ⟨0, 0⟩, third_nonneg⟩
    let positions := (positionKeeper .default).after []
      [.openTrade order, .closeTrade 0, .openTrade order, .openTrade order]
    positionLedger.exposure "family" positions ≤
      RiskContext.default.maxCorrelatedExposure.val.value +
        ((1 + doubleUnit) ^ (openCount "family" positions + 1) - 1) *
          positionLedger.exposure "family" positions := by
  intro order positions
  refine true_exposure_within_drift .default ?_ "family" ⟨order.position, ?_, rfl, rfl⟩
  · simp only [List.forall_mem_cons]
    exact ⟨third_held, trivial, third_held, third_held, by simp⟩
  · decide +kernel

end Examples

end VerdictRisk
