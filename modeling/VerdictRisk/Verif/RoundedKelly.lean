import VerdictRisk.Verif.Kelly
import VerdictRisk.Python.Binary64

/-!
# Kelly stakes in floating point

`kelly_fraction` rounds seven times, and its odds can vanish or be infinite. In every sound rounding
the stake still exists and does not shrink as the probability or the conservative fraction grows:
odds of zero leave no edge to be divided, and infinite odds stake everything at any probability.
-/

namespace VerdictRisk

open Python

section Kelly

variable [FloatFormat]

/-- The odds as they are computed. -/
def roundedOdds (price : ℚ) : PyFloat := ((1 : PyFloat).sub (.finite price)).div (.finite price)

/-- The edge as it is computed from the odds. -/
def roundedEdge (pWin : ℚ) (b : PyFloat) : PyFloat :=
  ((PyFloat.finite pWin).mul b).sub ((1 : PyFloat).sub (.finite pWin))

/-- `max(0.0, min(1.0, stake))` -/
def clamp (stake : PyFloat) : PyFloat := PyFloat.pyMax 0 (PyFloat.pyMin 1 stake)

omit [FloatFormat] in
/-- The clamp of a number is on the level of its nearest number between zero and one. -/
theorem level_clamp {stake : PyFloat} (number : stake.isNan = false) :
    (clamp stake).isNan = false ∧
      (clamp stake).level = max (PyFloat.level 0) (min stake.level (PyFloat.level 1)) := by
  have least : (PyFloat.pyMin 1 stake).isNan = false ∧
      (PyFloat.pyMin 1 stake).level = min stake.level (PyFloat.level 1) := by
    unfold PyFloat.pyMin
    split
    · rename_i less
      rw [PyFloat.lt_level number rfl] at less
      exact ⟨number, (min_eq_left less.le).symm⟩
    · rename_i least
      rw [PyFloat.lt_level number rfl, not_lt] at least
      exact ⟨rfl, (min_eq_right least).symm⟩
  unfold clamp PyFloat.pyMax
  rw [← least.2]
  split
  · rename_i positive
    rw [PyFloat.lt_level rfl least.1] at positive
    exact ⟨least.1, (max_eq_right positive.le).symm⟩
  · rename_i nonpos
    rw [PyFloat.lt_level rfl least.1, not_lt] at nonpos
    exact ⟨rfl, (max_eq_left nonpos).symm⟩

omit [FloatFormat] in
/-- The clamp keeps the order of two numbers. -/
theorem clamp_mono {stake stake' : PyFloat} (number : stake.isNan = false)
    (number' : stake'.isNan = false) (more : stake.level ≤ stake'.level) :
    (clamp stake).le (clamp stake') = true := by
  obtain ⟨known, level⟩ := level_clamp number
  obtain ⟨known', level'⟩ := level_clamp number'
  rw [PyFloat.le_level known known', level, level']
  exact max_le_max_left _ (min_le_min_right _ more)

variable [SoundRounding] {pWin pWin' price fraction fraction' : ℚ}

/-- What is left of one is a finite float that is not negative. -/
theorem one_sub_rounded {q : ℚ} (positive : 0 < q) (below : q < 1) :
    ((1 : PyFloat).sub (.finite q)).isFinite = true ∧
      0 ≤ ((1 : PyFloat).sub (.finite q)).value ∧
      ((1 : PyFloat).sub (.finite q)).level = (FloatFormat.round (1 - q)).level := by
  have computed : (1 : PyFloat).sub (.finite q) = FloatFormat.round (1 - q) := by
    rw [PyFloat.one_eq_finite, PyFloat.finite_sub 1 q (ne_of_gt positive)]
  have one : FloatFormat.round 1 = .finite 1 := by
    simpa using FloatFormat.round_int 1 (by decide)
  have lower := PyFloat.level_round_mono (sub_pos.mpr below).le
  have upper := PyFloat.level_round_mono (p := 1 - q) (q := 1) (by linarith)
  rw [PyFloat.level_round_zero] at lower
  rw [one] at upper
  rw [computed]
  rcases PyFloat.nonneg_cases (SoundRounding.known _) lower with infinite | ⟨finite, nonneg⟩
  · rw [infinite] at upper
    contradiction
  · exact ⟨finite, nonneg, rfl⟩

/-- The odds are infinite, or a finite float that is not negative. -/
theorem roundedOdds_cases (positive : 0 < price) (below : price < 1) :
    roundedOdds price = .posInf ∨
      (roundedOdds price).isFinite = true ∧ 0 ≤ (roundedOdds price).value := by
  obtain ⟨finite, nonneg, _⟩ := one_sub_rounded positive below
  refine PyFloat.nonneg_cases (PyFloat.div_number finite rfl) ?_
  rw [roundedOdds, PyFloat.level_div finite rfl, ← PyFloat.level_round_zero]
  exact PyFloat.level_round_mono (div_nonneg nonneg positive.le)

/-- With finite odds the edge is a number and follows the probability. -/
theorem roundedEdge_mono {b : PyFloat} (finite : b.isFinite = true) (nonneg : 0 ≤ b.value)
    (positive : 0 < pWin) (more : pWin ≤ pWin') (below : pWin' < 1) :
    (roundedEdge pWin b).isNan = false ∧ (roundedEdge pWin' b).isNan = false ∧
      (roundedEdge pWin b).level ≤ (roundedEdge pWin' b).level := by
  obtain ⟨lossFinite, _, loss⟩ := one_sub_rounded positive (more.trans_lt below)
  obtain ⟨lossFinite', _, loss'⟩ := one_sub_rounded (positive.trans_le more) below
  have lossNeg : ((1 : PyFloat).sub (.finite pWin)).neg.isFinite = true := by simpa using lossFinite
  have lossNeg' : ((1 : PyFloat).sub (.finite pWin')).neg.isFinite = true := by
    simpa using lossFinite'
  have number := PyFloat.mul_number (PyFloat.isFinite_finite pWin) finite
  have number' := PyFloat.mul_number (PyFloat.isFinite_finite pWin') finite
  refine ⟨(PyFloat.held_add number lossNeg).number, (PyFloat.held_add number' lossNeg').number, ?_⟩
  refine PyFloat.level_add_mono number number' lossNeg lossNeg' ?_ ?_
  · rw [PyFloat.level_mul rfl finite, PyFloat.level_mul rfl finite]
    exact PyFloat.level_round_mono (mul_le_mul_of_nonneg_right more nonneg)
  · rw [PyFloat.level_le_iff lossNeg lossNeg', PyFloat.value_neg, PyFloat.value_neg, neg_le_neg_iff,
      ← PyFloat.level_le_iff lossFinite' lossFinite, loss, loss']
    exact PyFloat.level_round_mono (by linarith)

/-- Without odds there is no edge. -/
theorem roundedEdge_vanishing {b : PyFloat} (finite : b.isFinite = true) (zero : b.value = 0)
    (positive : 0 < pWin) (below : pWin < 1) : (roundedEdge pWin b).le 0 = true := by
  obtain ⟨lossFinite, lossNonneg, _⟩ := one_sub_rounded positive below
  have lossNeg : ((1 : PyFloat).sub (.finite pWin)).neg.isFinite = true := by simpa using lossFinite
  have number := PyFloat.mul_number (PyFloat.isFinite_finite pWin) finite
  have product : ((PyFloat.finite pWin).mul b).level = PyFloat.level 0 := by
    rw [PyFloat.level_mul rfl finite, zero, mul_zero, PyFloat.level_round_zero]
  have none : (PyFloat.finite 0).isFinite = true := rfl
  have edge : (roundedEdge pWin b).level ≤ ((0 : PyFloat).add (.finite 0)).level := by
    refine PyFloat.level_add_mono number rfl lossNeg none product.le ?_
    rw [PyFloat.level_le_iff lossNeg none, PyFloat.value_neg]
    exact neg_nonpos.mpr lossNonneg
  rw [PyFloat.level_add rfl none, PyFloat.value_ofNat, Nat.cast_zero, PyFloat.value_finite,
    add_zero, PyFloat.level_round_zero] at edge
  exact (PyFloat.le_level (PyFloat.held_add number lossNeg).number rfl).mpr edge

/-- Infinite odds stake everything: the ratio of two infinities is NaN, and the clamp answers
one. -/
theorem stake_of_infinite_odds (range : KellyRange pWin price fraction)
    (infinite : roundedOdds price = .posInf) :
    kellyFraction (.finite pWin) (.finite price) (.finite fraction) = .ok 1 := by
  have oddsComputed : quotient ((1 : PyFloat).sub (.finite price)) (.finite price) =
      .ok .posInf := by
    rw [quotient_finite _ price (ne_of_gt range.pricePos), ← infinite, roundedOdds]
  obtain ⟨other, sign⟩ := PyFloat.positive_sign (PyFloat.isFinite_finite pWin) range.pWinPos
  have product : (PyFloat.finite pWin).mul .posInf = .posInf := by
    rw [PyFloat.mul, other, sign]
    rfl
  obtain ⟨lossFinite, _, _⟩ := one_sub_rounded range.pWinPos range.pWinBelow
  have edgeComputed : ((PyFloat.finite pWin).mul .posInf).sub ((1 : PyFloat).sub (.finite pWin)) =
      .posInf := by
    have loss : ((1 : PyFloat).sub (.finite pWin)).neg.isFinite = true := by simpa using lossFinite
    rw [product, PyFloat.sub]
    revert loss
    generalize ((1 : PyFloat).sub (.finite pWin)).neg = loss
    intro finite
    cases loss <;> first | rfl | contradiction
  have clamped : PyFloat.pyMax 0 (PyFloat.pyMin 1 .nan) = 1 := by decide +kernel
  rw [kellyFraction_checked range, kellyStake_of_edge oddsComputed edgeComputed]
  exact congrArg Except.ok clamped

/-- Finite odds stake nothing without an edge, and otherwise the clamped fraction of its ratio to
the odds, which are then positive. -/
theorem stake_of_finite_odds (range : KellyRange pWin price fraction)
    (finite : (roundedOdds price).isFinite = true) (nonneg : 0 ≤ (roundedOdds price).value) :
    ((roundedEdge pWin (roundedOdds price)).le 0 = true ∧
      kellyFraction (.finite pWin) (.finite price) (.finite fraction) = .ok 0) ∨
    ((roundedEdge pWin (roundedOdds price)).le 0 = false ∧ 0 < (roundedOdds price).value ∧
      kellyFraction (.finite pWin) (.finite price) (.finite fraction) =
        .ok (clamp (((roundedEdge pWin (roundedOdds price)).div (roundedOdds price)).mul
          (.finite fraction)))) := by
  have oddsComputed : quotient ((1 : PyFloat).sub (.finite price)) (.finite price) =
      .ok (roundedOdds price) := quotient_finite _ price (ne_of_gt range.pricePos)
  rw [kellyFraction_checked range, kellyStake_of_edge oddsComputed rfl]
  change (_ ∧ (if (roundedEdge pWin (roundedOdds price)).le 0 then _ else _) = _) ∨
    (_ ∧ _ ∧ (if (roundedEdge pWin (roundedOdds price)).le 0 then _ else _) = _)
  cases edge : (roundedEdge pWin (roundedOdds price)).le 0 with
  | true => exact .inl ⟨rfl, if_pos rfl⟩
  | false =>
    have positive : 0 < (roundedOdds price).value := by
      refine nonneg.lt_of_ne fun zero => ?_
      rw [roundedEdge_vanishing finite zero.symm range.pWinPos range.pWinBelow] at edge
      contradiction
    refine .inr ⟨rfl, positive, ?_⟩
    rw [if_neg Bool.false_ne_true, quotient, (PyFloat.positive_sign finite positive).1,
      if_neg Bool.false_ne_true]
    rfl

/-- A stake is returned for all arguments in range. -/
theorem kelly_returns (range : KellyRange pWin price fraction) :
    ∃ stake, kellyFraction (.finite pWin) (.finite price) (.finite fraction) = .ok stake := by
  rcases roundedOdds_cases range.pricePos range.priceBelow with infinite | ⟨finite, nonneg⟩
  · exact ⟨_, stake_of_infinite_odds range infinite⟩
  · rcases stake_of_finite_odds range finite nonneg with ⟨_, returned⟩ | ⟨_, _, returned⟩
    · exact ⟨_, returned⟩
    · exact ⟨_, returned⟩

/-- Strictly between zero and one. -/
def Inside (estimate : PyFloat) : Prop :=
  estimate.isFinite = true ∧ 0 < estimate.value ∧ estimate.value < 1

/-- Finite, but not strictly between zero and one. -/
def Outside (estimate : PyFloat) : Prop :=
  estimate.isFinite = true ∧ ¬ (0 < estimate.value ∧ estimate.value < 1)

/-- A conservative fraction that is accepted. -/
def Scales (fraction : PyFloat) : Prop :=
  fraction.isFinite = true ∧ 0 < fraction.value ∧ fraction.value ≤ 1

omit [FloatFormat] [SoundRounding] in
/-- A finite float with a positive value is that value. -/
theorem finite_of_positive {x : PyFloat} (finite : x.isFinite = true) (positive : 0 < x.value) :
    x = .finite x.value := by
  cases x with
  | finite q => rfl
  | negZero => exact absurd positive (lt_irrefl 0)
  | posInf | negInf | nan => contradiction

omit [FloatFormat] [SoundRounding] in
/-- The comparisons of the conservative fraction say that it scales. -/
theorem scales_iff (fraction : PyFloat) :
    ((0 : PyFloat).lt fraction && fraction.le 1) = true ↔ Scales fraction := by
  cases finite : fraction.isFinite with
  | true =>
    rw [Bool.and_eq_true, PyFloat.lt_iff rfl finite, PyFloat.le_iff finite rfl]
    simp [Scales, finite]
  | false =>
    refine iff_of_false ?_ fun scales => by simp [Scales, finite] at scales
    cases fraction <;> first | contradiction | decide +kernel

omit [SoundRounding] in
/-- What the next estimate makes of the loop. -/
theorem estimatesUnusable_cons (name : String) (value : PyFloat) (rest : List (String × PyFloat)) :
    (value.isFinite = false ∧ estimatesUnusable ((name, value) :: rest) = .ok true) ∨
    (Outside value ∧ ∃ message,
      estimatesUnusable ((name, value) :: rest) = .error (.valueError message)) ∨
    (Inside value ∧ estimatesUnusable ((name, value) :: rest) = estimatesUnusable rest) := by
  rw [estimatesUnusable, PyFloat.isNan_or_isInf]
  cases finite : value.isFinite with
  | false => exact .inl ⟨rfl, rfl⟩
  | true =>
    have between : ((0 : PyFloat).lt value && value.lt 1) = true ↔
        0 < value.value ∧ value.value < 1 := by
      rw [Bool.and_eq_true, PyFloat.lt_iff rfl finite, PyFloat.lt_iff finite rfl]
      simp
    right
    by_cases inside : 0 < value.value ∧ value.value < 1
    · refine .inr ⟨⟨finite, inside⟩, ?_⟩
      rw [between.mpr inside]
      rfl
    · refine .inl ⟨⟨finite, inside⟩, ?_⟩
      rw [Bool.eq_false_iff.mpr (mt between.mp inside)]
      exact ⟨_, rfl⟩

/-- Nothing but a `ValueError` is raised, neither division included: for a conservative fraction out
of range, and for a finite estimate out of range that no unusable estimate precedes. -/
theorem kelly_raises_iff (pWin price fraction : PyFloat) :
    (∀ raised, kellyFraction pWin price fraction = .error raised →
      ∃ message, raised = .valueError message) ∧
    ((∃ raised, kellyFraction pWin price fraction = .error raised) ↔
      ¬ Scales fraction ∨ Outside pWin ∨ Inside pWin ∧ Outside price) := by
  unfold kellyFraction
  by_cases scales : Scales fraction
  swap
  · rw [Bool.eq_false_iff.mpr (mt (scales_iff fraction).mp scales)]
    simp [scales]
  rw [(scales_iff fraction).mpr scales]
  have notBoth : ∀ {x : PyFloat}, Inside x → ¬ Outside x := fun inside outside =>
    outside.2 inside.2
  have notUnusable : ∀ {x : PyFloat}, x.isFinite = false → ¬ Inside x ∧ ¬ Outside x := by
    simp +contextual [Inside, Outside]
  rcases estimatesUnusable_cons "p_win" pWin [("price", price)] with
    ⟨unusable, first⟩ | ⟨outside, message, first⟩ | ⟨inside, first⟩
  · rw [first]
    simp [scales, notUnusable unusable]
  · rw [first]
    simp [outside]
  rcases estimatesUnusable_cons "price" price [] with
    ⟨unusable, second⟩ | ⟨outside, message, second⟩ | ⟨inside', second⟩
  · rw [first, second]
    simp [scales, notUnusable unusable, notBoth inside]
  · rw [first, second]
    simp [inside, outside]
  · obtain ⟨finite, pWinPos, pWinBelow⟩ := inside
    obtain ⟨finite', pricePos, priceBelow⟩ := inside'
    obtain ⟨finite'', fractionPos, fractionAtMost⟩ := scales
    have range : KellyRange pWin.value price.value fraction.value :=
      ⟨pWinPos, pWinBelow, pricePos, priceBelow, fractionPos, fractionAtMost⟩
    obtain ⟨stake, returned⟩ := kelly_returns range
    rw [kellyFraction_checked range, ← finite_of_positive finite pWinPos,
      ← finite_of_positive finite' pricePos, ← finite_of_positive finite'' fractionPos] at returned
    rw [first, second]
    change (∀ raised, kellyStake pWin price fraction = .error raised → _) ∧
      ((∃ raised, kellyStake pWin price fraction = .error raised) ↔ _)
    rw [returned]
    simp [notBoth ⟨finite, pWinPos, pWinBelow⟩, notBoth ⟨finite', pricePos, priceBelow⟩, Scales,
      finite'', fractionPos, fractionAtMost]

/-- In every sound rounding the stake exists and does not shrink as the probability and the
conservative fraction grow. -/
theorem rounded_kelly_mono (range : KellyRange pWin price fraction)
    (range' : KellyRange pWin' price fraction') (morePWin : pWin ≤ pWin')
    (moreFraction : fraction ≤ fraction') :
    ∃ stake stake', kellyFraction (.finite pWin) (.finite price) (.finite fraction) = .ok stake ∧
      kellyFraction (.finite pWin') (.finite price) (.finite fraction') = .ok stake' ∧
      stake.le stake' = true := by
  rcases roundedOdds_cases range.pricePos range.priceBelow with infinite | ⟨finite, nonneg⟩
  · exact ⟨1, 1, stake_of_infinite_odds range infinite, stake_of_infinite_odds range' infinite,
      by decide +kernel⟩
  obtain ⟨number, number', edges⟩ := roundedEdge_mono finite nonneg range.pWinPos morePWin
    range'.pWinBelow
  rcases stake_of_finite_odds range finite nonneg with ⟨_, returned⟩ | ⟨edge, positive, returned⟩
  · obtain ⟨stake', returned'⟩ := kelly_returns range'
    exact ⟨0, stake', returned, returned', (kellyFraction_unit returned').1⟩
  · rcases stake_of_finite_odds range' finite nonneg with ⟨edge', _⟩ | ⟨edge', _, returned'⟩
    · rw [← Bool.not_eq_true, PyFloat.le_level number rfl] at edge
      rw [PyFloat.le_level number' rfl] at edge'
      exact absurd (edges.trans edge') edge
    · refine ⟨_, _, returned, returned', ?_⟩
      have above : PyFloat.level 0 ≤ (roundedEdge pWin (roundedOdds price)).level := by
        rw [← Bool.not_eq_true, PyFloat.le_level number rfl, not_le] at edge
        exact edge.le
      obtain ⟨ratio, ratio', ratioNonneg, ratios⟩ :=
        PyFloat.level_div_mono number number' finite above positive edges
      obtain ⟨product, product', _, products⟩ := PyFloat.level_mul_mono ratio ratio'
        (PyFloat.isFinite_finite fraction) (PyFloat.isFinite_finite fraction') ratioNonneg
        range.fractionPos ratios moreFraction
      exact clamp_mono product product' products

end Kelly

section Example

attribute [local instance] FloatFormat.doubles

/-- In doubles a better chance at even money is staked with more, scaled by a larger fraction. -/
theorem better_chance_staked_in_doubles :
    ∃ stake stake',
      kellyFraction (.finite (5 / 8)) (.finite (1 / 2)) (.finite (1 / 4)) = .ok stake ∧
      kellyFraction (.finite (3 / 4)) (.finite (1 / 2)) (.finite (1 / 2)) = .ok stake' ∧
      stake.le stake' = true := by
  have range : KellyRange (5 / 8) (1 / 2) (1 / 4) := by
    constructor <;> norm_num
  have range' : KellyRange (3 / 4) (1 / 2) (1 / 2) := by
    constructor <;> norm_num
  exact rounded_kelly_mono range range' (by norm_num) (by norm_num)

/-- In doubles a probability of one is refused, and a price that is no number is not reached. -/
theorem certainty_refused_in_doubles :
    (∃ raised, kellyFraction 1 .nan (.finite (1 / 4)) = .error raised) ∧
      ¬ ∃ raised, kellyFraction (.finite (1 / 2)) .nan (.finite (1 / 4)) = .error raised := by
  constructor
  · rw [(kelly_raises_iff 1 .nan (.finite (1 / 4))).2]
    simp [Outside]
  · rw [(kelly_raises_iff (.finite (1 / 2)) .nan (.finite (1 / 4))).2]
    norm_num [Scales, Outside, PyFloat.isFinite]

end Example

end VerdictRisk
