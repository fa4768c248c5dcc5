import VerdictRisk.Kelly
import VerdictRisk.Library.Fallible
import Mathlib.Tactic.FieldSimp
import Mathlib.Tactic.Ring
import Mathlib.Tactic.Positivity
import Mathlib.Tactic.GCongr

/-!
# Kelly stakes

Where nothing is rounded, the computed stake is `c * max(0, (p - price) / (1 - price))`. The one
intermediate result that can be large is the odds, which decide whether a format that overflows
above the largest double computes the same.
-/

namespace VerdictRisk

open Python

/-- The stake as a function of the probability, the price and the conservative fraction. -/
def kellyClosedForm (pWin price fraction : ℚ) : ℚ :=
  fraction * max 0 ((pWin - price) / (1 - price))

/-- The odds of a contract at a price. -/
def odds (price : ℚ) : ℚ := (1 - price) / price

/-- The arguments that `kelly_fraction` computes a stake from. -/
structure KellyRange (pWin price fraction : ℚ) : Prop where
  pWinPos : 0 < pWin
  pWinBelow : pWin < 1
  pricePos : 0 < price
  priceBelow : price < 1
  fractionPos : 0 < fraction
  fractionAtMost : fraction ≤ 1

namespace KellyRange

variable {pWin price fraction : ℚ} (range : KellyRange pWin price fraction)

include range

/-- The odds are positive. -/
theorem odds_pos : 0 < odds price :=
  div_pos (sub_pos.mpr range.priceBelow) range.pricePos

/-- The edge is the advantage in the probability, scaled by the price. -/
theorem edge_eq : pWin * odds price - (1 - pWin) = (pWin - price) / price := by
  have nonzero : price ≠ 0 := ne_of_gt range.pricePos
  unfold odds
  field_simp
  ring

/-- The full stake is the advantage in the probability, scaled by what a contract can win. -/
theorem ratio_eq : (pWin - price) / price / odds price = (pWin - price) / (1 - price) := by
  have nonzero : price ≠ 0 := ne_of_gt range.pricePos
  have nonzero' : 1 - price ≠ 0 := ne_of_gt (sub_pos.mpr range.priceBelow)
  unfold odds
  field_simp

/-- The full stake is below one. -/
theorem ratio_lt : (pWin - price) / (1 - price) < 1 := by
  have below := range.pWinBelow
  rw [div_lt_one (sub_pos.mpr range.priceBelow)]
  linarith only [below]

/-- There is a positive edge exactly when the probability is above the price. -/
theorem edge_nonpos_iff : (pWin - price) / price ≤ 0 ↔ pWin ≤ price := by
  rw [div_le_iff₀ range.pricePos, zero_mul, sub_nonpos]

/-- There is no stake exactly without an advantage. -/
theorem closedForm_eq_zero_iff : kellyClosedForm pWin price fraction = 0 ↔ pWin ≤ price := by
  have nonzero : fraction ≠ 0 := ne_of_gt range.fractionPos
  rw [kellyClosedForm, mul_eq_zero_iff_left nonzero, max_eq_left_iff,
    div_le_iff₀ (sub_pos.mpr range.priceBelow), zero_mul, sub_nonpos]

/-- The stake is below the conservative fraction. -/
theorem closedForm_lt : kellyClosedForm pWin price fraction < fraction := by
  have below : max 0 ((pWin - price) / (1 - price)) < 1 := max_lt one_pos range.ratio_lt
  exact mul_lt_of_lt_one_right range.fractionPos below

/-- The stake grows with the probability. -/
theorem closedForm_mono_pWin {pWin' : ℚ} (more : pWin ≤ pWin') :
    kellyClosedForm pWin price fraction ≤ kellyClosedForm pWin' price fraction := by
  have wins : 0 ≤ 1 - price := le_of_lt (sub_pos.mpr range.priceBelow)
  have scale : 0 ≤ fraction := le_of_lt range.fractionPos
  unfold kellyClosedForm
  gcongr

omit range in
/-- The stake grows with the conservative fraction. -/
theorem closedForm_mono_fraction {fraction' : ℚ} (more : fraction ≤ fraction') :
    kellyClosedForm pWin price fraction ≤ kellyClosedForm pWin price fraction' :=
  mul_le_mul_of_nonneg_right more (le_max_left 0 _)

/-- The stake shrinks as the price grows, although a win pays less too. -/
theorem closedForm_anti_price {price' : ℚ} (more : price ≤ price') (below : price' < 1) :
    kellyClosedForm pWin price' fraction ≤ kellyClosedForm pWin price fraction := by
  have ratios : (pWin - price') / (1 - price') ≤ (pWin - price) / (1 - price) := by
    have gain : 0 ≤ (1 - pWin) * (price' - price) :=
      mul_nonneg (by linarith [range.pWinBelow]) (sub_nonneg.mpr more)
    rw [div_le_div_iff₀ (sub_pos.mpr below) (sub_pos.mpr range.priceBelow)]
    linarith only [gain]
  exact mul_le_mul_of_nonneg_left (max_le_max_left 0 ratios) (le_of_lt range.fractionPos)

end KellyRange

section Computation

variable [FloatFormat]

/-- A rational other than zero divides. -/
theorem quotient_finite (left : PyFloat) (right : ℚ) (nonzero : right ≠ 0) :
    quotient left (.finite right) = .ok (left.div (.finite right)) := by
  rw [quotient, if_neg (Bool.eq_false_iff.mp (PyFloat.finite_eq_zero nonzero))]

variable {pWin price fraction : ℚ}

/-- Arguments in range pass the checks. -/
theorem kellyFraction_checked (range : KellyRange pWin price fraction) :
    kellyFraction (.finite pWin) (.finite price) (.finite fraction) =
      kellyStake (.finite pWin) (.finite price) (.finite fraction) := by
  have between : ∀ q : ℚ, 0 < q → q < 1 →
      ((0 : PyFloat).lt (.finite q) && (PyFloat.finite q).lt 1) = true := by
    intro q positive below
    rw [Bool.and_eq_true, PyFloat.lt_iff rfl rfl, PyFloat.lt_iff rfl rfl]
    simpa using ⟨positive, below⟩
  have scaled : ((0 : PyFloat).lt (.finite fraction) && (PyFloat.finite fraction).le 1) = true := by
    rw [Bool.and_eq_true, PyFloat.lt_iff rfl rfl, PyFloat.le_iff rfl rfl]
    simpa using ⟨range.fractionPos, range.fractionAtMost⟩
  have usable : estimatesUnusable [("p_win", .finite pWin), ("price", .finite price)] =
      .ok false := by
    simp [estimatesUnusable, PyFloat.isNan, PyFloat.isInf,
      between pWin range.pWinPos range.pWinBelow, between price range.pricePos range.priceBelow]
  rw [kellyFraction, scaled, usable]
  rfl

omit [FloatFormat] in
/-- Whatever is clamped, NaN included, the result is between zero and one. -/
theorem clamp_unit (stake : PyFloat) :
    (0 : PyFloat).le (PyFloat.pyMax 0 (PyFloat.pyMin 1 stake)) = true ∧
      (PyFloat.pyMax 0 (PyFloat.pyMin 1 stake)).le 1 = true := by
  unfold PyFloat.pyMax PyFloat.pyMin
  by_cases less : stake.lt 1 = true
  · rw [if_pos less]
    by_cases positive : (0 : PyFloat).lt stake = true
    · rw [if_pos positive]
      rw [PyFloat.le, PyFloat.le, positive, less]
      exact ⟨rfl, rfl⟩
    · rw [if_neg positive]
      decide +kernel
  · rw [if_neg less]
    decide +kernel

omit [FloatFormat] in
/-- No stake is between zero and one. -/
theorem zero_unit : (0 : PyFloat).le 0 = true ∧ (0 : PyFloat).le 1 = true := by decide +kernel

/-- A computed stake is between zero and one. -/
theorem kellyStake_unit {pWin price fraction stake : PyFloat}
    (computed : kellyStake pWin price fraction = .ok stake) :
    (0 : PyFloat).le stake = true ∧ stake.le 1 = true := by
  obtain ⟨b, _, computed⟩ := Fallible.bind_ok_iff.mp computed
  change (if _ then _ else _) = _ at computed
  split at computed
  · cases computed
    exact zero_unit
  · obtain ⟨fStar, _, computed⟩ := Fallible.bind_ok_iff.mp computed
    cases computed
    exact clamp_unit _

/-- Whatever the arguments and the rounding, a stake that is returned is between zero and one. -/
theorem kellyFraction_unit {pWin price fraction stake : PyFloat}
    (returned : kellyFraction pWin price fraction = .ok stake) :
    (0 : PyFloat).le stake = true ∧ stake.le 1 = true := by
  unfold kellyFraction at returned
  split at returned
  · contradiction
  · split at returned
    · contradiction
    · cases returned
      exact zero_unit
    · exact kellyStake_unit returned

omit [FloatFormat] in
/-- The clamp leaves a stake between zero and one as it is. -/
theorem clamp_inert (stake : ℚ) (positive : 0 < stake) (below : stake < 1) :
    PyFloat.pyMax 0 (PyFloat.pyMin 1 (.finite stake)) = .finite stake := by
  have least : (PyFloat.finite stake).lt 1 = true := by
    rw [PyFloat.lt_iff rfl rfl]
    simpa using below
  have greatest : (0 : PyFloat).lt (.finite stake) = true := by
    rw [PyFloat.lt_iff rfl rfl]
    simpa using positive
  rw [PyFloat.pyMin, if_pos least, PyFloat.pyMax, if_pos greatest]

/-- As long as nothing up to one is rounded, a probability is subtracted from one exactly. -/
theorem one_sub_unrounded (limit : ℚ)
    (unrounded : ∀ q : ℚ, |q| ≤ limit → FloatFormat.round q = .finite q) (one : 1 ≤ limit) {q : ℚ}
    (positive : 0 < q) (below : q < 1) : (1 : PyFloat).sub (.finite q) = .finite (1 - q) := by
  rw [PyFloat.one_eq_finite, PyFloat.finite_sub 1 q (ne_of_gt positive)]
  apply unrounded
  rw [abs_of_pos (sub_pos.mpr below)]
  linarith

/-- As long as nothing up to the odds is rounded, the edge is computed exactly. -/
theorem edge_unrounded (range : KellyRange pWin price fraction) (limit : ℚ)
    (unrounded : ∀ q : ℚ, |q| ≤ limit → FloatFormat.round q = .finite q) (one : 1 ≤ limit)
    (oddsFit : odds price ≤ limit) :
    quotient ((1 : PyFloat).sub (.finite price)) (.finite price) = .ok (.finite (odds price)) ∧
    ((PyFloat.finite pWin).mul (.finite (odds price))).sub ((1 : PyFloat).sub (.finite pWin)) =
      .finite ((pWin - price) / price) := by
  have oddsPos := range.odds_pos
  have pWinPos := range.pWinPos
  have pWinBelow := range.pWinBelow
  have pricePos := range.pricePos
  have priceBelow := range.priceBelow
  have positive : 0 < pWin * odds price := mul_pos pWinPos oddsPos
  have least : pWin * odds price ≤ odds price :=
    mul_le_of_le_one_left (le_of_lt oddsPos) (le_of_lt pWinBelow)
  have product : (PyFloat.finite pWin).mul (.finite (odds price)) =
      .finite (pWin * odds price) := by
    rw [PyFloat.finite_mul pWin (odds price) (ne_of_gt positive)]
    apply unrounded
    rw [abs_of_pos positive]
    exact le_trans least oddsFit
  constructor
  · rw [quotient_finite _ price (ne_of_gt pricePos),
      one_sub_unrounded limit unrounded one pricePos priceBelow,
      PyFloat.finite_div _ price (ne_of_gt (by linarith))]
    exact congrArg Except.ok (unrounded _ (by rwa [← odds, abs_of_pos oddsPos]))
  · rw [product, one_sub_unrounded limit unrounded one pWinPos pWinBelow,
      PyFloat.finite_sub _ _ (ne_of_gt (by linarith)), ← range.edge_eq]
    apply unrounded
    rw [abs_le]
    constructor <;> linarith

/-- A computed edge decides between no stake and its clamped ratio to the odds. -/
theorem kellyStake_of_edge {b edge : PyFloat}
    (oddsComputed : quotient ((1 : PyFloat).sub (.finite price)) (.finite price) = .ok b)
    (edgeComputed : ((PyFloat.finite pWin).mul b).sub ((1 : PyFloat).sub (.finite pWin)) = edge) :
    kellyStake (.finite pWin) (.finite price) (.finite fraction) =
      if edge.le 0 then .ok 0
      else quotient edge b >>= fun fStar =>
        .ok (PyFloat.pyMax 0 (PyFloat.pyMin 1 (fStar.mul (.finite fraction)))) := by
  rw [← edgeComputed, kellyStake, oddsComputed]
  rfl

/-- As long as nothing up to one is rounded, a positive edge is staked in proportion. -/
theorem edge_staked (range : KellyRange pWin price fraction) (limit : ℚ)
    (unrounded : ∀ q : ℚ, |q| ≤ limit → FloatFormat.round q = .finite q) (one : 1 ≤ limit)
    (advantage : price < pWin) :
    (quotient (.finite ((pWin - price) / price)) (.finite (odds price)) >>= fun fStar =>
      .ok (PyFloat.pyMax 0 (PyFloat.pyMin 1 (fStar.mul (.finite fraction))))) =
      .ok (.finite (kellyClosedForm pWin price fraction)) := by
  have ratioLt := range.ratio_lt
  have edgePos : 0 < (pWin - price) / price := div_pos (sub_pos.mpr advantage) range.pricePos
  have ratioPos : 0 < (pWin - price) / (1 - price) :=
    div_pos (sub_pos.mpr advantage) (sub_pos.mpr range.priceBelow)
  have stakePos : 0 < (pWin - price) / (1 - price) * fraction :=
    mul_pos ratioPos range.fractionPos
  have stakeLt : (pWin - price) / (1 - price) * fraction < 1 :=
    mul_lt_one_of_nonneg_of_lt_one_left (le_of_lt ratioPos) ratioLt range.fractionAtMost
  have ratioComputed : quotient (.finite ((pWin - price) / price)) (.finite (odds price)) =
      .ok (.finite ((pWin - price) / (1 - price))) := by
    rw [quotient_finite _ _ (ne_of_gt range.odds_pos), PyFloat.finite_div _ _ (ne_of_gt edgePos),
      range.ratio_eq]
    exact congrArg Except.ok (unrounded _ (by rw [abs_of_pos ratioPos]; linarith))
  have stakeComputed : (PyFloat.finite ((pWin - price) / (1 - price))).mul (.finite fraction) =
      .finite ((pWin - price) / (1 - price) * fraction) := by
    rw [PyFloat.finite_mul _ _ (ne_of_gt stakePos)]
    apply unrounded
    rw [abs_of_pos stakePos]
    linarith
  rw [ratioComputed, kellyClosedForm, max_eq_right (le_of_lt ratioPos), mul_comm fraction,
    ← clamp_inert _ stakePos stakeLt, ← stakeComputed]
  rfl

/-- As long as nothing up to the odds is rounded, the stake has its closed form. -/
theorem kellyFraction_unrounded (range : KellyRange pWin price fraction) (limit : ℚ)
    (unrounded : ∀ q : ℚ, |q| ≤ limit → FloatFormat.round q = .finite q) (one : 1 ≤ limit)
    (oddsFit : odds price ≤ limit) :
    kellyFraction (.finite pWin) (.finite price) (.finite fraction) =
      .ok (.finite (kellyClosedForm pWin price fraction)) := by
  obtain ⟨oddsComputed, edgeComputed⟩ := edge_unrounded range limit unrounded one oddsFit
  have edgeSign : (PyFloat.finite ((pWin - price) / price)).le 0 = true ↔ pWin ≤ price := by
    rw [PyFloat.le_iff rfl rfl, ← range.edge_nonpos_iff]
    simp
  rw [kellyFraction_checked range, kellyStake_of_edge oddsComputed edgeComputed]
  by_cases advantage : pWin ≤ price
  · rw [if_pos (edgeSign.mpr advantage), range.closedForm_eq_zero_iff.mpr advantage,
      PyFloat.zero_eq_finite]
  · rw [if_neg (mt edgeSign.mp advantage)]
    exact edge_staked range limit unrounded one (not_le.mp advantage)

end Computation

/-- In exact arithmetic the stake is `c * max(0, (p - price) / (1 - price))`: no divisor is zero,
the stake is zero exactly without an advantage, it stays below the conservative fraction, and it
follows the probability and the fraction up and the price down. -/
theorem kelly_closed_form (pWin price fraction : ℚ) (range : KellyRange pWin price fraction) :
    @kellyFraction .exact (.finite pWin) (.finite price) (.finite fraction) =
        .ok (.finite (kellyClosedForm pWin price fraction)) ∧
      (price ≠ 0 ∧ odds price ≠ 0) ∧
      (kellyClosedForm pWin price fraction = 0 ↔ pWin ≤ price) ∧
      kellyClosedForm pWin price fraction < fraction ∧
      (∀ pWin', pWin ≤ pWin' → pWin' < 1 →
        kellyClosedForm pWin price fraction ≤ kellyClosedForm pWin' price fraction) ∧
      (∀ fraction', fraction ≤ fraction' → fraction' ≤ 1 →
        kellyClosedForm pWin price fraction ≤ kellyClosedForm pWin price fraction') ∧
      (∀ price', price ≤ price' → price' < 1 →
        kellyClosedForm pWin price' fraction ≤ kellyClosedForm pWin price fraction) := by
  refine ⟨?_, ⟨ne_of_gt range.pricePos, ne_of_gt range.odds_pos⟩, range.closedForm_eq_zero_iff,
    range.closedForm_lt, fun pWin' more _ => range.closedForm_mono_pWin more,
    fun fraction' more _ => KellyRange.closedForm_mono_fraction more,
    fun price' more below => range.closedForm_anti_price more below⟩
  exact @kellyFraction_unrounded .exact _ _ _ range (max 1 (odds price)) (fun _ _ => rfl)
    (le_max_left 1 _) (le_max_right 1 _)

section ExactExample

attribute [local instance] FloatFormat.exact

/-- A quarter of the full stake on a contract at even money that wins three times out of five. -/
theorem quarter_kelly : kellyFraction (.finite (3 / 5)) (.finite (1 / 2))
    defaultConservativeFraction = .ok (.finite (1 / 20)) := by
  have range : KellyRange (3 / 5) (1 / 2) (1 / 4) := by
    constructor <;> norm_num
  have stake := (kelly_closed_form _ _ _ range).1
  rw [defaultConservativeFraction, stake]
  decide +kernel

end ExactExample

/-- The largest finite double. -/
def largestDouble : ℚ := 2 ^ 1024 - 2 ^ 971

/-- The integers that a double holds exactly are far below the largest double. -/
theorem int_le_largestDouble : (2 : ℚ) ^ 53 ≤ largestDouble := by
  have scale : (2 : ℚ) ≤ 2 ^ 971 := le_self_pow₀ one_le_two (by decide)
  have split : largestDouble = (2 ^ 53 - 1) * 2 ^ 971 := by
    rw [largestDouble, sub_mul, ← pow_add, one_mul]
  rw [split]
  calc (2 : ℚ) ^ 53 ≤ (2 ^ 53 - 1) * 2 := by norm_num
    _ ≤ (2 ^ 53 - 1) * 2 ^ 971 := mul_le_mul_of_nonneg_left scale (by norm_num)

/-- A result that is infinite beyond the largest double. -/
def saturate (q : ℚ) : PyFloat :=
  if largestDouble < q then .posInf else if q < -largestDouble then .negInf else .finite q

/-- Up to the largest double nothing changes. -/
theorem saturate_fits (q : ℚ) (fits : |q| ≤ largestDouble) : saturate q = .finite q := by
  obtain ⟨above, below⟩ := abs_le.mp fits
  rw [saturate, if_neg (not_lt.mpr below), if_neg (not_lt.mpr above)]

/-- Saturation never reverses an order. -/
theorem saturate_mono (p q : ℚ) (ordered : p ≤ q) : (saturate q).lt (saturate p) = false := by
  have positive : 0 < largestDouble := lt_of_lt_of_le (by norm_num) int_le_largestDouble
  unfold saturate
  split_ifs <;> first
    | rfl
    | linarith
    | exact decide_eq_false (not_lt.mpr ordered)

/-- The format that rounds nothing, except that a result beyond the largest double is infinite. -/
@[reducible] def overflowing : FloatFormat where
  round := saturate
  round_int n small := by
    apply saturate_fits
    apply le_trans _ int_le_largestDouble
    rw [← Int.cast_abs, Int.abs_eq_natAbs]
    exact_mod_cast small
  round_mono := saturate_mono
  repr := positional
  percent := positionalPercent

section Overflow

attribute [local instance] overflowing

/-- The odds overflow below a price of about a reciprocal of the largest double. -/
theorem odds_fit_iff {price : ℚ} (positive : 0 < price) :
    odds price ≤ largestDouble ↔ 1 / (largestDouble + 1) ≤ price := by
  have nonneg : 0 < largestDouble := lt_of_lt_of_le (by norm_num) int_le_largestDouble
  rw [odds, div_le_iff₀ positive, div_le_iff₀ (add_pos nonneg one_pos), mul_add, mul_one,
    sub_le_iff_le_add, mul_comm price]

/-- Odds that overflow stake everything: the ratio of two infinities is NaN, and the clamp answers
one. -/
theorem kellyFraction_overflow {pWin price fraction : ℚ} (range : KellyRange pWin price fraction)
    (overflow : largestDouble < odds price) :
    kellyFraction (.finite pWin) (.finite price) (.finite fraction) = .ok 1 := by
  have one : (1 : ℚ) ≤ largestDouble := le_trans (by norm_num) int_le_largestDouble
  have oddsInfinite : quotient ((1 : PyFloat).sub (.finite price)) (.finite price) =
      .ok .posInf := by
    rw [quotient_finite _ _ (ne_of_gt range.pricePos),
      one_sub_unrounded largestDouble saturate_fits one range.pricePos range.priceBelow,
      PyFloat.finite_div _ _ (ne_of_gt (sub_pos.mpr range.priceBelow))]
    exact congrArg Except.ok (if_pos overflow)
  have productInfinite : (PyFloat.finite pWin).mul .posInf = .posInf := by
    have factor : (PyFloat.finite pWin).eq 0 = false :=
      PyFloat.finite_eq_zero (ne_of_gt range.pWinPos)
    have sign : (PyFloat.finite pWin).isNegative = false :=
      decide_eq_false (not_lt.mpr (le_of_lt range.pWinPos))
    rw [PyFloat.mul, factor, sign]
    rfl
  have edgeInfinite : ((PyFloat.finite pWin).mul .posInf).sub ((1 : PyFloat).sub (.finite pWin)) =
      .posInf := by
    have loss : 1 - pWin ≠ 0 := ne_of_gt (sub_pos.mpr range.pWinBelow)
    rw [productInfinite,
      one_sub_unrounded largestDouble saturate_fits one range.pWinPos range.pWinBelow,
      PyFloat.sub, PyFloat.neg, if_neg loss]
    rfl
  have clamped : PyFloat.pyMax 0 (PyFloat.pyMin 1 .nan) = 1 := by decide +kernel
  rw [kellyFraction_checked range, kellyStake_of_edge oddsInfinite edgeInfinite]
  exact congrArg Except.ok clamped

/-- A stake is at most the conservative fraction exactly when that fraction is one or the price is
not so low that the odds overflow. -/
theorem stake_at_most_fraction_iff (pWin price fraction : ℚ)
    (range : KellyRange pWin price fraction) :
    (∃ stake, kellyFraction (.finite pWin) (.finite price) (.finite fraction) = .ok stake ∧
      stake.le (.finite fraction) = true) ↔
    fraction = 1 ∨ 1 / (largestDouble + 1) ≤ price := by
  have one : (1 : ℚ) ≤ largestDouble := le_trans (by norm_num) int_le_largestDouble
  rw [← odds_fit_iff range.pricePos]
  by_cases fits : odds price ≤ largestDouble
  · have computed := kellyFraction_unrounded range largestDouble saturate_fits one fits
    refine iff_of_true ⟨_, computed, ?_⟩ (.inr fits)
    rw [PyFloat.le_iff rfl rfl]
    exact le_of_lt range.closedForm_lt
  · have computed := kellyFraction_overflow range (not_le.mp fits)
    rw [computed]
    constructor
    · intro ⟨stake, returned, atMost⟩
      cases returned
      rw [PyFloat.le_iff rfl rfl, PyFloat.value_ofNat, Nat.cast_one] at atMost
      exact .inl (le_antisymm range.fractionAtMost atMost)
    · rintro (whole | fits')
      · refine ⟨1, rfl, ?_⟩
        rw [PyFloat.le_iff rfl rfl, whole]
        simp
      · exact absurd fits' fits

/-- At even money the stake stays within the conservative fraction. -/
theorem even_money_stake_bounded :
    ∃ stake, kellyFraction (.finite (3 / 5)) (.finite (1 / 2)) (.finite (1 / 4)) = .ok stake ∧
      stake.le (.finite (1 / 4)) = true := by
  have range : KellyRange (3 / 5) (1 / 2) (1 / 4) := by
    constructor <;> norm_num
  have one : (1 : ℚ) ≤ largestDouble := le_trans (by norm_num) int_le_largestDouble
  apply (stake_at_most_fraction_iff _ _ _ range).mpr
  right
  rw [← odds_fit_iff range.pricePos]
  rwa [odds, show (1 - 1 / 2) / (1 / 2) = (1 : ℚ) by norm_num]

/-- The odds at the least positive double overflow. -/
theorem odds_subnormal : largestDouble < odds (1 / 2 ^ 1074) := by
  have scale : (2 : ℚ) ^ 1024 ≤ 2 ^ 1074 := pow_le_pow_right₀ one_le_two (by decide)
  have gap : (1 : ℚ) < 2 ^ 971 := one_lt_pow₀ one_lt_two (by decide)
  have value : odds (1 / 2 ^ 1074) = 2 ^ 1074 - 1 := by
    have nonzero : (2 : ℚ) ^ 1074 ≠ 0 := pow_ne_zero _ two_ne_zero
    unfold odds
    generalize (2 : ℚ) ^ 1074 = power at nonzero
    field_simp
  rw [value, largestDouble]
  calc (2 : ℚ) ^ 1024 - 2 ^ 971 < 2 ^ 1024 - 1 := sub_lt_sub_left gap _
    _ ≤ 2 ^ 1074 - 1 := sub_le_sub_right scale 1

/-- At the least positive price a quarter-Kelly stake is the whole bankroll. -/
theorem subnormal_price_stakes_all :
    ¬ ∃ stake, kellyFraction (.finite (1 / 2)) (.finite (1 / 2 ^ 1074)) (.finite (1 / 4)) =
      .ok stake ∧ stake.le (.finite (1 / 4)) = true := by
  have range : KellyRange (1 / 2) (1 / 2 ^ 1074) (1 / 4) := by
    have power : (1 : ℚ) < 2 ^ 1074 := one_lt_pow₀ one_lt_two (by decide)
    have priceBelow : 1 / (2 : ℚ) ^ 1074 < 1 :=
      (div_lt_one (lt_trans one_pos power)).mpr power
    exact ⟨by norm_num, by norm_num, one_div_pos.mpr (lt_trans one_pos power), priceBelow,
      by norm_num, by norm_num⟩
  rw [kellyFraction_overflow range odds_subnormal]
  intro ⟨stake, returned, atMost⟩
  cases returned
  rw [PyFloat.le_iff rfl rfl, PyFloat.value_ofNat, Nat.cast_one] at atMost
  norm_num at atMost

end Overflow

end VerdictRisk
