import VerdictRisk.Engine
import Mathlib.Data.List.Sort
import Mathlib.Data.Rat.Floor

/-!
# Latency benchmark

`benchmark.py`: the percentiles of measured latencies. The readings of `perf_counter_ns` are an
argument; the rendering of a report and the command line are not modelled.
-/

namespace VerdictRisk

open Python

/-- What a benchmark raises. -/
inductive BenchmarkError where
  | python (raised : PyError)
  /-- `IndexError` -/
  | indexError
deriving DecidableEq

/-- `math.ceil(x)` -/
def mathCeil : PyFloat → Except BenchmarkError ℤ
  | .nan => .error (.python (.valueError "cannot convert float NaN to integer"))
  | .posInf | .negInf =>
    .error (.python (.overflowError "cannot convert float infinity to integer"))
  | .negZero => .ok 0
  | .finite q => .ok ⌈q⌉

/-- `samples[index]` -/
def sampleAt (samples : List ℤ) (index : ℕ) : Except BenchmarkError ℤ :=
  match samples[index]? with
  | some sample => .ok sample
  | none => .error .indexError

variable [FloatFormat]

/-- `math.fsum(data)`: the exact sum of the converted data, rounded once. A sum that overflows on
the way only is not told apart from one that does not. -/
def fsum (data : List ℤ) : Except BenchmarkError PyFloat :=
  if data.any fun n => PyNum.floatLimit ≤ n.natAbs then
    .error (.python (.overflowError "int too large to convert to float"))
  else
    let total := FloatFormat.round (data.map fun n => (PyNum.toFloat (.int n)).value).sum
    if total.isInf then .error (.python (.overflowError "intermediate overflow in fsum"))
    else .ok total

/-- `statistics.fmean(data)`, for data that are not empty. -/
def fmean (data : List ℤ) : Except BenchmarkError PyFloat :=
  (fsum data).map fun total => total.div (PyNum.toFloat (.int data.length))

/-- `_percentile` -/
def percentile (samplesNs : List ℤ) (percentile : PyFloat) : Except BenchmarkError ℤ :=
  if percentile.le 0 then sampleAt samplesNs 0
  else if (100 : PyFloat).le percentile then sampleAt samplesNs (samplesNs.length - 1)
  else do
    let share := (percentile.div 100).mul (PyNum.toFloat (.int samplesNs.length))
    let rank := max 0 ((← mathCeil share) - 1)
    sampleAt samplesNs rank.toNat

/-- Percentile latency summary for a single benchmark run. -/
structure BenchmarkReport where
  iterations : ℤ
  warmupIterations : ℤ
  samplesNs : List ℤ
  p50Ns : ℤ
  p95Ns : ℤ
  p99Ns : ℤ
  minNs : ℤ
  maxNs : ℤ
  meanNs : PyFloat
deriving DecidableEq

/-- `BenchmarkReport.from_samples` -/
def BenchmarkReport.fromSamples (samplesNs : List ℤ) (iterations warmupIterations : ℤ) :
    Except BenchmarkError BenchmarkReport := do
  let ordered := samplesNs.insertionSort (· ≤ ·)
  if ordered.isEmpty then
    throw (.python (.valueError "samples_ns must not be empty"))
  let p50Ns ← percentile ordered 50
  let p95Ns ← percentile ordered 95
  let p99Ns ← percentile ordered 99
  let minNs ← sampleAt ordered 0
  let maxNs ← sampleAt ordered (ordered.length - 1)
  let meanNs ← fmean ordered
  return ⟨iterations, warmupIterations, ordered, p50Ns, p95Ns, p99Ns, minNs, maxNs, meanNs⟩

/-- The context of the benchmark. -/
def benchmarkContext : RiskContext := { RiskContext.default with latencyBudgetUs := 1000000 }

/-- The call that the benchmark measures. -/
def benchmarkCall : TradeCall where
  dailyRealizedPnl := 0
  equity := 10000
  targetFamily := "BENCH"
  proposedCost := 100
  openPositions := []
  expectedValue := 1
  tradeOutcomes := none
  currentTime := none
  clusterCapCtx := none

/-- One evaluation of the benchmark, whose decision is not looked at. -/
def benchmarkEvaluation (clock : Clock) : Except BenchmarkError Unit :=
  match evaluateTrade benchmarkContext benchmarkCall clock with
  | .error raised => .error (.python raised)
  | .ok _ => .ok ()

/-- A measured evaluation: the two readings around it, and those of the evaluation itself. -/
structure Measurement where
  startNs : ℤ
  endNs : ℤ
  clock : Clock

/-- Measure the hot path latency of `RiskAuthority.evaluate_trade`. -/
def runLatencyBenchmark (iterations warmupIterations : ℤ) (warmup : ℕ → Clock)
    (measurements : ℕ → Measurement) : Except BenchmarkError BenchmarkReport := do
  if iterations < 1 then
    throw (.python (.valueError "iterations must be >= 1"))
  if warmupIterations < 0 then
    throw (.python (.valueError "warmup_iterations must be >= 0"))
  let _ ← (List.range warmupIterations.toNat).mapM fun turn => benchmarkEvaluation (warmup turn)
  let samplesNs ← (List.range iterations.toNat).mapM fun turn =>
    (benchmarkEvaluation (measurements turn).clock).map fun _ =>
      (measurements turn).endNs - (measurements turn).startNs
  BenchmarkReport.fromSamples samplesNs iterations warmupIterations

end VerdictRisk
