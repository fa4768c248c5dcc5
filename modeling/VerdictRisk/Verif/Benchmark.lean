import VerdictRisk.Benchmark
import VerdictRisk.Library.Ranks
import VerdictRisk.Python.Binary64
import VerdictRisk.Python.Roundoff
import VerdictRisk.Python.Serializable
import VerdictRisk.Verif.EdgeFloats

/-!
# Percentiles

The rank of a percentile is computed in floating point. In every sound rounding it is the index of
a sample, and it does not shrink as the percentage grows.
-/

namespace VerdictRisk

open Python

/-- A finite float is rounded up to the integer above it. -/
theorem mathCeil_finite {x : PyFloat} (finite : x.isFinite = true) :
    mathCeil x = .ok ⌈x.value⌉ := by
  cases x with
  | finite q => rfl
  | negZero => exact congrArg Except.ok Int.ceil_zero.symm
  | posInf | negInf | nan => contradiction

section Rank

variable [FloatFormat]

/-- The share of the samples below a percentage, as it is computed. -/
def share (percentage : ℚ) (count : ℕ) : PyFloat :=
  ((PyFloat.finite percentage).div 100).mul (PyNum.toFloat (.int count))

/-- The rank of a percentage. -/
def rank (percentage : ℚ) (count : ℕ) : ℕ := (max 0 (⌈(share percentage count).value⌉ - 1)).toNat

/-- A percentile is the sample at its rank. -/
theorem percentile_eq {percentage : ℚ} (positive : 0 < percentage) (below : percentage < 100)
    {samples : List ℤ} (finite : (share percentage samples.length).isFinite = true) :
    percentile samples (.finite percentage) =
      sampleAt samples (rank percentage samples.length) := by
  have above : (PyFloat.finite percentage).le 0 = false := by
    rw [← Bool.not_eq_true, PyFloat.le_iff rfl rfl]
    simpa using positive
  have least : (100 : PyFloat).le (.finite percentage) = false := by
    rw [← Bool.not_eq_true, PyFloat.le_iff rfl rfl]
    simpa using below
  have ceiling := mathCeil_finite finite
  rw [percentile, above, least, if_neg Bool.false_ne_true, if_neg Bool.false_ne_true]
  rw [share] at ceiling
  simp only [ceiling]
  rfl

/-- A count of samples is converted exactly. -/
theorem toFloat_count {count : ℕ} (few : count ≤ 2 ^ 53) :
    PyNum.toFloat (.int count) = .finite count := by
  have exact := FloatFormat.round_int count (by simpa using few)
  simpa [PyNum.toFloat] using exact

variable [SoundRounding] {percentage percentage' : ℚ} {count : ℕ}

omit [FloatFormat] [SoundRounding] in
/-- A number from zero up to a finite float is finite, and its value lies between theirs. -/
theorem value_between {x upper : PyFloat} (number : x.isNan = false)
    (finite : upper.isFinite = true) (nonneg : PyFloat.level 0 ≤ x.level)
    (below : x.level ≤ upper.level) :
    x.isFinite = true ∧ 0 ≤ x.value ∧ x.value ≤ upper.value := by
  have zero : (0 : PyFloat).isFinite = true := PyFloat.isFinite_ofNat 0
  have known : x.isFinite = true := PyFloat.finite_between number zero finite nonneg below
  have above := (PyFloat.level_le_iff zero known).mp nonneg
  rw [PyFloat.value_ofNat, Nat.cast_zero] at above
  exact ⟨known, above, (PyFloat.level_le_iff known finite).mp below⟩

/-- A percentage below one hundred is at most one of one. -/
theorem fraction_between (positive : 0 < percentage) (below : percentage < 100) :
    ((PyFloat.finite percentage).div 100).isFinite = true ∧
      0 ≤ ((PyFloat.finite percentage).div 100).value ∧
      ((PyFloat.finite percentage).div 100).value ≤ 1 := by
  have one : FloatFormat.round 1 = .finite 1 := by
    simpa using FloatFormat.round_int 1 (by decide)
  have level := PyFloat.level_div (PyFloat.isFinite_finite percentage) (PyFloat.isFinite_ofNat 100)
  refine value_between (PyFloat.div_number rfl rfl) (PyFloat.isFinite_finite 1) ?_ ?_
  · rw [level, ← PyFloat.level_round_zero]
    exact PyFloat.level_round_mono (div_nonneg positive.le (by simp))
  · rw [level, ← one]
    refine PyFloat.level_round_mono ?_
    rw [PyFloat.value_finite, PyFloat.value_ofNat]
    norm_num
    linarith

/-- The share of a percentage is at most the count. -/
theorem share_between (positive : 0 < percentage) (below : percentage < 100)
    (few : count ≤ 2 ^ 53) :
    (share percentage count).isFinite = true ∧ 0 ≤ (share percentage count).value ∧
      (share percentage count).value ≤ count := by
  obtain ⟨finite, nonneg, atMost⟩ := fraction_between positive below
  have exact : FloatFormat.round (count : ℚ) = .finite count := by
    simpa [PyNum.toFloat] using toFloat_count few
  have whole : (0 : ℚ) ≤ count := Nat.cast_nonneg count
  have level := PyFloat.level_mul finite (PyFloat.isFinite_finite (count : ℚ))
  rw [share, toFloat_count few]
  refine value_between (PyFloat.mul_number finite rfl) (PyFloat.isFinite_finite (count : ℚ)) ?_ ?_
  · rw [level, ← PyFloat.level_round_zero]
    exact PyFloat.level_round_mono (mul_nonneg nonneg whole)
  · have top := PyFloat.level_round_mono (mul_le_of_le_one_left whole atMost)
    rw [exact] at top
    exact level.trans_le top

/-- The share grows with the percentage. -/
theorem share_mono (positive : 0 < percentage) (more : percentage ≤ percentage')
    (below : percentage' < 100) (few : count ≤ 2 ^ 53) :
    (share percentage count).value ≤ (share percentage' count).value := by
  have positive' := positive.trans_le more
  obtain ⟨finite, nonneg, _⟩ := fraction_between positive (more.trans_lt below)
  obtain ⟨finite', _, _⟩ := fraction_between positive' below
  obtain ⟨shared, _⟩ := share_between positive (more.trans_lt below) few
  obtain ⟨shared', _⟩ := share_between positive' below few
  have fractions : ((PyFloat.finite percentage).div 100).value ≤
      ((PyFloat.finite percentage').div 100).value := by
    rw [← PyFloat.level_le_iff finite finite', PyFloat.level_div rfl rfl, PyFloat.level_div rfl rfl]
    exact PyFloat.level_round_mono (div_le_div_of_nonneg_right more (by simp))
  rw [← PyFloat.level_le_iff shared shared', share, share, toFloat_count few,
    PyFloat.level_mul finite rfl, PyFloat.level_mul finite' rfl]
  exact PyFloat.level_round_mono (mul_le_mul_of_nonneg_right fractions (Nat.cast_nonneg count))

/-- The rank of a percentage is the index of a sample. -/
theorem rank_lt (positive : 0 < percentage) (below : percentage < 100) (some : 0 < count)
    (few : count ≤ 2 ^ 53) : rank percentage count < count := by
  obtain ⟨_, _, atMost⟩ := share_between positive below few
  have ceiling : ⌈(share percentage count).value⌉ ≤ (count : ℤ) := by
    rw [Int.ceil_le]
    exact_mod_cast atMost
  unfold rank
  omega

/-- The rank does not shrink as the percentage grows. -/
theorem rank_mono (positive : 0 < percentage) (more : percentage ≤ percentage')
    (below : percentage' < 100) (few : count ≤ 2 ^ 53) :
    rank percentage count ≤ rank percentage' count := by
  have ceilings := Int.ceil_le_ceil (share_mono positive more below few)
  unfold rank
  omega

end Rank

/-- What a report says about some samples. -/
structure Summarises (samples : List ℤ) (report : BenchmarkReport) : Prop where
  members : report.samplesNs.Perm samples
  ordered : report.samplesNs.Pairwise (· ≤ ·)
  sampled : report.p50Ns ∈ samples ∧ report.p95Ns ∈ samples ∧ report.p99Ns ∈ samples
  chain : report.p50Ns ≤ report.p95Ns ∧ report.p95Ns ≤ report.p99Ns
  least : report.minNs ∈ samples ∧ ∀ sample ∈ samples, report.minNs ≤ sample
  greatest : report.maxNs ∈ samples ∧ ∀ sample ∈ samples, sample ≤ report.maxNs

/-- There is a sample at every index. -/
theorem sampleAt_within {samples : List ℤ} {index : ℕ} (within : index < samples.length) :
    sampleAt samples index = .ok samples[index] := by
  rw [sampleAt, List.getElem?_eq_getElem within]

section Reports

variable [FloatFormat] [SoundRounding]

/-- A report is made of the sorted samples, if their mean can be computed. -/
theorem fromSamples_eq {samples : List ℤ} (some : samples ≠ []) (few : samples.length ≤ 2 ^ 53)
    (iterations warmupIterations : ℤ) :
    ∃ report : PyFloat → BenchmarkReport,
      BenchmarkReport.fromSamples samples iterations warmupIterations =
        (fmean (samples.insertionSort (· ≤ ·))).map report ∧
      ∀ mean, Summarises samples (report mean) := by
  have sorted : (samples.insertionSort (· ≤ ·)).SortedLE := List.sortedLE_insertionSort
  have perm : (samples.insertionSort (· ≤ ·)).Perm samples := List.perm_insertionSort _ samples
  unfold BenchmarkReport.fromSamples
  generalize samples.insertionSort (· ≤ ·) = ordered at sorted perm ⊢
  have length := perm.length_eq
  have positive : 0 < ordered.length := by
    rw [length]
    exact List.length_pos_iff.mpr some
  have few' : ordered.length ≤ 2 ^ 53 := length.trans_le few
  have nonempty : ordered.isEmpty = false := by
    rw [List.isEmpty_eq_false_iff]
    exact List.length_pos_iff.mp positive
  have within50 : rank 50 ordered.length < ordered.length :=
    rank_lt (by norm_num) (by norm_num) positive few'
  have within95 : rank 95 ordered.length < ordered.length :=
    rank_lt (by norm_num) (by norm_num) positive few'
  have within99 : rank 99 ordered.length < ordered.length :=
    rank_lt (by norm_num) (by norm_num) positive few'
  have member : ∀ index (within : index < ordered.length), ordered[index] ∈ samples :=
    fun index within => perm.subset (List.getElem_mem within)
  have last : ordered.length - 1 < ordered.length := by omega
  refine ⟨fun mean => ⟨iterations, warmupIterations, ordered, ordered[rank 50 ordered.length],
    ordered[rank 95 ordered.length], ordered[rank 99 ordered.length], ordered[0],
    ordered[ordered.length - 1], mean⟩, ?_, fun mean => ⟨perm, sorted.pairwise,
      ⟨member _ _, member _ _, member _ _⟩, ⟨?_, ?_⟩, ⟨member _ _, ?_⟩, ⟨member _ _, ?_⟩⟩⟩
  · have ranked : ∀ p : ℚ, 0 < p → p < 100 → ∀ within : rank p ordered.length < ordered.length,
        percentile ordered (.finite p) = .ok ordered[rank p ordered.length] := by
      intro p positive below within
      rw [percentile_eq positive below (share_between positive below few').1,
        sampleAt_within within]
    have literal : ∀ n : ℕ, ∀ _ : n.AtLeastTwo,
        (OfNat.ofNat n : PyFloat) = .finite (OfNat.ofNat n) :=
      fun n _ => congrArg PyFloat.finite Nat.cast_ofNat
    dsimp only
    rw [nonempty, if_neg Bool.false_ne_true, literal 50 inferInstance, literal 95 inferInstance,
      literal 99 inferInstance, ranked 50 (by norm_num) (by norm_num) within50,
      ranked 95 (by norm_num) (by norm_num) within95,
      ranked 99 (by norm_num) (by norm_num) within99, sampleAt_within positive,
      sampleAt_within last]
    cases fmean ordered <;> rfl
  · exact sorted.getElem_le_getElem_of_le (rank_mono (by norm_num) (by norm_num) (by norm_num) few')
  · exact sorted.getElem_le_getElem_of_le (rank_mono (by norm_num) (by norm_num) (by norm_num) few')
  · intro sample mem
    obtain ⟨index, within, rfl⟩ := List.getElem_of_mem (perm.symm.subset mem)
    exact sorted.getElem_le_getElem_of_le (Nat.zero_le index)
  · intro sample mem
    obtain ⟨index, within, rfl⟩ := List.getElem_of_mem (perm.symm.subset mem)
    exact sorted.getElem_le_getElem_of_le (by omega)

omit [SoundRounding] in
/-- Every evaluation of the benchmark returns. -/
theorem benchmarkEvaluation_returns (clock : Clock) : benchmarkEvaluation clock = .ok () := by
  have short : benchmarkContext.latencyBudgetUs.natAbs < textLimit := by
    refine lt_of_lt_of_le ?_ floatLimit_le_textLimit
    unfold PyNum.floatLimit
    decide +kernel
  have evaluable : Evaluable benchmarkContext benchmarkCall clock :=
    ⟨rfl, .inr (.inr ⟨fun cluster given => by contradiction, .inr short⟩)⟩
  obtain ⟨decision, returned, _⟩ :=
    (evaluateStateless_survives_iff benchmarkContext benchmarkCall clock).mpr evaluable
  rw [benchmarkEvaluation, evaluateTrade, returned]

/-- The latencies that are measured. -/
def latencies (iterations : ℤ) (measurements : ℕ → Measurement) : List ℤ :=
  (List.range iterations.toNat).map fun turn =>
    (measurements turn).endNs - (measurements turn).startNs

omit [SoundRounding] in
/-- With accepted arguments the benchmark reports its latencies. -/
theorem runLatencyBenchmark_eq {iterations warmupIterations : ℤ} (some : 1 ≤ iterations)
    (nonneg : 0 ≤ warmupIterations) (warmup : ℕ → Clock) (measurements : ℕ → Measurement) :
    runLatencyBenchmark iterations warmupIterations warmup measurements =
      BenchmarkReport.fromSamples (latencies iterations measurements) iterations
        warmupIterations := by
  have warmed : ((List.range warmupIterations.toNat).mapM fun turn =>
      benchmarkEvaluation (warmup turn)) =
      .ok ((List.range warmupIterations.toNat).map fun _ => ()) := by
    simp only [benchmarkEvaluation_returns]
    exact List.mapM_pure
  have measured : ((List.range iterations.toNat).mapM fun turn =>
      (benchmarkEvaluation (measurements turn).clock).map fun _ =>
        (measurements turn).endNs - (measurements turn).startNs) =
      .ok (latencies iterations measurements) := by
    simp only [benchmarkEvaluation_returns]
    exact List.mapM_pure
  unfold runLatencyBenchmark
  rw [if_neg (not_lt.mpr some), if_neg (not_lt.mpr nonneg), warmed, measured]
  rfl

/-- In every sound rounding the benchmark raises at most what the mean of its latencies raises, and
its report summarises them: there is one for each iteration, the percentiles are among them and in
order, and the order in which they were measured does not matter. -/
theorem benchmark_summarises {iterations warmupIterations : ℤ} (some : 1 ≤ iterations)
    (few : iterations ≤ 2 ^ 53) (nonneg : 0 ≤ warmupIterations) (warmup : ℕ → Clock)
    (measurements : ℕ → Measurement) :
    let measured := latencies iterations measurements
    let reported := runLatencyBenchmark iterations warmupIterations warmup measurements
    (∀ raised, reported = .error raised ↔
      fmean (measured.insertionSort (· ≤ ·)) = .error raised) ∧
    (∀ report, reported = .ok report →
      Summarises measured report ∧ (report.samplesNs.length : ℤ) = iterations) ∧
    ∀ measurements', (latencies iterations measurements').Perm measured →
      runLatencyBenchmark iterations warmupIterations warmup measurements' = reported := by
  intro measured reported
  have length : measured.length = iterations.toNat := by
    rw [show measured = latencies iterations measurements from rfl, latencies, List.length_map,
      List.length_range]
  have nonempty : measured ≠ [] := by
    rw [← List.length_pos_iff]
    omega
  obtain ⟨report, made, summarises⟩ :=
    fromSamples_eq nonempty (by omega) iterations warmupIterations
  have same : reported = (fmean (measured.insertionSort (· ≤ ·))).map report :=
    (runLatencyBenchmark_eq some nonneg warmup measurements).trans made
  refine ⟨fun raised => ?_, fun report' returned => ?_, fun measurements' perm => ?_⟩
  · rw [same]
    cases fmean (measured.insertionSort (· ≤ ·)) <;> simp [Except.map]
  · rw [same] at returned
    obtain ⟨mean, _, rfl⟩ := Fallible.map_ok_iff.mp returned
    refine ⟨summarises mean, ?_⟩
    rw [(summarises mean).members.length_eq]
    omega
  · rw [same, ← made, runLatencyBenchmark_eq some nonneg]
    unfold BenchmarkReport.fromSamples
    rw [Ranks.insertionSort_perm perm]

end Reports

section Exact

attribute [local instance] FloatFormat.exact

/-- Where nothing is rounded, the share is what it is called. -/
theorem share_exact {percentage : ℚ} {count : ℕ} (positive : 0 < percentage) (some : 0 < count) :
    share percentage count = .finite (percentage / 100 * count) := by
  have whole : (0 : ℚ) < count := Nat.cast_pos.mpr some
  have fraction : (PyFloat.finite percentage).div 100 = .finite (percentage / 100) := by
    have hundred : (100 : PyFloat) = .finite 100 := congrArg PyFloat.finite Nat.cast_ofNat
    rw [hundred, PyFloat.finite_div _ _ positive.ne']
    rfl
  have converted : PyNum.toFloat (.int count) = .finite count := rfl
  rw [share, fraction, converted, PyFloat.finite_mul _ _ (by positivity)]
  rfl

/-- Where nothing is rounded, at least the given percentage of the samples are at most the
percentile, and fewer are less. -/
theorem percentile_nearest_rank {percentage : ℚ} (positive : 0 < percentage)
    (below : percentage < 100) {samples : List ℤ} (nonempty : samples ≠ []) :
    ∃ sample ∈ samples,
      percentile (samples.insertionSort (· ≤ ·)) (.finite percentage) = .ok sample ∧
      percentage / 100 * samples.length ≤ samples.countP (· ≤ sample) ∧
      samples.countP (· < sample) < percentage / 100 * samples.length := by
  have sorted : (samples.insertionSort (· ≤ ·)).SortedLE := List.sortedLE_insertionSort
  have perm : (samples.insertionSort (· ≤ ·)).Perm samples := List.perm_insertionSort _ samples
  generalize samples.insertionSort (· ≤ ·) = ordered at sorted perm ⊢
  have some : 0 < ordered.length := by
    rw [perm.length_eq]
    exact List.length_pos_iff.mpr nonempty
  have whole : (0 : ℚ) < ordered.length := Nat.cast_pos.mpr some
  have exact := share_exact positive some
  have shared : 0 < percentage / 100 * ordered.length := by positivity
  have most : percentage / 100 * ordered.length ≤ ordered.length :=
    mul_le_of_le_one_left whole.le (by linarith)
  have ceiling : ⌈percentage / 100 * ordered.length⌉ =
      (rank percentage ordered.length : ℤ) + 1 := by
    have one : 0 < ⌈percentage / 100 * ordered.length⌉ := Int.ceil_pos.mpr shared
    rw [rank, exact, PyFloat.value_finite]
    omega
  have within : rank percentage ordered.length < ordered.length := by
    have least : ⌈percentage / 100 * ordered.length⌉ ≤ (ordered.length : ℤ) := by
      rw [Int.ceil_le]
      exact_mod_cast most
    omega
  refine ⟨ordered[rank percentage ordered.length], perm.subset (List.getElem_mem within), ?_, ?_,
    ?_⟩
  · rw [percentile_eq positive below (by rw [exact]; rfl), sampleAt_within within]
  · have atMost := Ranks.index_lt_countP_le sorted within
    rw [← perm.length_eq, ← perm.countP_eq]
    calc percentage / 100 * ordered.length ≤ (⌈percentage / 100 * ordered.length⌉ : ℚ) :=
          Int.le_ceil _
      _ = (rank percentage ordered.length + 1 : ℕ) := by
          rw [ceiling]
          norm_num
      _ ≤ _ := Nat.cast_le.mpr atMost
  · have less := Ranks.countP_lt_le_index sorted within
    rw [← perm.length_eq, ← perm.countP_eq]
    calc (ordered.countP (· < ordered[rank percentage ordered.length]) : ℚ)
        ≤ (rank percentage ordered.length : ℚ) := Nat.cast_le.mpr less
      _ = (⌈percentage / 100 * ordered.length⌉ : ℚ) - 1 := by
          rw [ceiling]
          norm_num
      _ < percentage / 100 * ordered.length := by
          have close := Int.ceil_lt_add_one (percentage / 100 * (ordered.length : ℚ))
          linarith

/-- Of three samples the median is the second. -/
theorem median_of_three :
    ∃ sample ∈ [7, 3, 5], percentile ([7, 3, 5].insertionSort (· ≤ ·)) (.finite 50) = .ok sample ∧
      (50 : ℚ) / 100 * [(7 : ℤ), 3, 5].length ≤ [7, 3, 5].countP (· ≤ sample) ∧
      [7, 3, 5].countP (· < sample) < (50 : ℚ) / 100 * [(7 : ℤ), 3, 5].length :=
  percentile_nearest_rank (by norm_num) (by norm_num) (by simp)

end Exact

section Example

attribute [local instance] FloatFormat.doubles

/-- A benchmark of twenty iterations reports its latencies in doubles. -/
theorem twenty_latencies_reported :
    let warmup : ℕ → Clock := fun _ => ⟨0, 0⟩
    let measurements : ℕ → Measurement := fun turn => ⟨0, 1000 - turn, ⟨0, 0⟩⟩
    let reported := runLatencyBenchmark 20 0 warmup measurements
    ∃ report, reported = .ok report ∧ report.p95Ns = 999 ∧
      Summarises (latencies 20 measurements) report := by
  intro warmup measurements reported
  have positive : (1 : ℤ) ≤ 20 := by decide
  have nonneg : (0 : ℤ) ≤ 0 := by decide
  have summary := benchmark_summarises positive (by decide) nonneg warmup measurements
  have returned : (reported.toOption.map fun report => report.p95Ns) = some 999 := by
    decide +kernel
  obtain ⟨report, found, p95⟩ := Option.map_eq_some_iff.mp returned
  have made : reported = .ok report := by
    cases same : reported with
    | error raised => simp [same, Except.toOption] at found
    | ok report' => simpa [same, Except.toOption] using found
  exact ⟨report, made, p95, (summary.2.1 report made).1⟩

end Example

end VerdictRisk
