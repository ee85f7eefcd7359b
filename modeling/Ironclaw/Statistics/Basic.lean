import Mathlib
import Ironclaw.Json

/-!
# Descriptive statistics

`compute_statistics` keeps the numbers of the `data` array, sorts a copy, and
reads order statistics from it by indexing, which panics past the end. The
model indexes through `index`, so a panic is a result of its own. Beside the
model sits `summarize`, the same record with every index read by `List.getD`;
`computeStatistics_eq` says the model is `summarize` of the extracted sample
whenever that sample is not empty, so in particular no index ever panics.
Division by the sample size is a parameter, so that the divisors can be checked.
-/

namespace Ironclaw.Statistics

variable {α : Type} [LinearOrderedField α]

structure Percentiles (α : Type) where
  p25 : α
  p50 : α
  p75 : α
  p90 : α
  p95 : α
  p99 : α

/-- The record `compute_statistics` returns, field by field. -/
structure StatisticsResult (α : Type) where
  n : Nat
  mean : α
  median : α
  stdDev : α
  sampleStdDev : α
  sem : α
  variance : α
  sampleVariance : α
  min : α
  max : α
  range : α
  sum : α
  percentiles : Percentiles α
  iqr : α

/-- The object `compute_statistics` returns, with the keys of its `json!`. -/
def StatisticsResult.toJson (s : StatisticsResult α) : Json α :=
  .object [("n", .number s.n), ("mean", .number s.mean), ("median", .number s.median),
    ("std_dev", .number s.stdDev), ("sample_std_dev", .number s.sampleStdDev),
    ("sem", .number s.sem), ("variance", .number s.variance),
    ("sample_variance", .number s.sampleVariance), ("min", .number s.min),
    ("max", .number s.max), ("range", .number s.range), ("sum", .number s.sum),
    ("percentiles", .object [("p25", .number s.percentiles.p25),
      ("p50", .number s.percentiles.p50), ("p75", .number s.percentiles.p75),
      ("p90", .number s.percentiles.p90), ("p95", .number s.percentiles.p95),
      ("p99", .number s.percentiles.p99)]),
    ("iqr", .number s.iqr)]

/-- `params.get("data").and_then(|v| v.as_array())`. -/
def dataArray (params : Json α) : Option (List (Json α)) := (params.get "data").bind Json.asArray

/-- `data.iter().filter_map(|v| v.as_f64())`: the numbers in order, the rest dropped. -/
def extractValues (data : List (Json α)) : List α := data.filterMap Json.asF64

/-- `sort_by(|a, b| a.partial_cmp(b).unwrap_or(Equal))` as core's stable merge sort;
`partial_cmp` is total on the values a JSON array can hold. -/
def sortValues (values : List α) : List α := values.mergeSort fun a b => (compare a b).isLE

theorem isLE_compare_iff (a b : α) : (compare a b).isLE = true ↔ a ≤ b := by
  rw [← compare_le_iff_le]
  cases compare a b <;> decide

theorem sortValues_perm (values : List α) : List.Perm (sortValues values) values :=
  List.mergeSort_perm _ _

theorem sortValues_sorted (values : List α) : (sortValues values).Sorted (· ≤ ·) :=
  (@List.sorted_mergeSort _ (fun a b => (compare a b).isLE)
    (fun a b c hab hbc => (isLE_compare_iff a c).mpr
      (((isLE_compare_iff a b).mp hab).trans ((isLE_compare_iff b c).mp hbc)))
    (fun a b => by simpa [isLE_compare_iff] using le_total a b) values).imp
    (fun h => (isLE_compare_iff _ _).mp h)

theorem sortValues_length (values : List α) : (sortValues values).length = values.length :=
  (sortValues_perm values).length_eq

/-- `sorted[i]`, which panics past the end. -/
def index (sorted : List α) (i : Nat) : Except Fault α :=
  match sorted[i]? with
  | some x => .ok x
  | none => .error (.indexOutOfBounds sorted.length i)

theorem index_of_lt {sorted : List α} {i : Nat} (h : i < sorted.length) :
    index sorted i = .ok (sorted.getD i 0) := by
  simp [index, List.getElem?_eq_getElem h, List.getD_eq_getElem _ _ h]

def median (sorted : List α) : Except Fault α :=
  if sorted.length % 2 = 0 then do
    let mid := sorted.length / 2
    return ((← index sorted (mid - 1)) + (← index sorted mid)) / 2.0
  else index sorted (sorted.length / 2)

def medianValue (sorted : List α) : α :=
  if sorted.length % 2 = 0 then
    (sorted.getD (sorted.length / 2 - 1) 0 + sorted.getD (sorted.length / 2) 0) / 2.0
  else sorted.getD (sorted.length / 2) 0

theorem median_eq {sorted : List α} (h : sorted ≠ []) :
    median sorted = .ok (medianValue sorted) := by
  have hlen : 0 < sorted.length := List.length_pos.mpr h
  unfold median medianValue
  split
  · simp only [index_of_lt (show sorted.length / 2 - 1 < sorted.length by omega),
      index_of_lt (show sorted.length / 2 < sorted.length by omega), except_bind_ok]
    rfl
  · exact index_of_lt (by omega)

/-- `p / 100.0 * (sorted.len() as f64 - 1.0)`, the rank of the `percentile` closure. -/
def rank (sorted : List α) (p : α) : α := p / 100.0 * ((sorted.length : α) - 1.0)

theorem rank_eq (sorted : List α) (p : α) :
    rank sorted p = p / 100 * ((sorted.length : α) - 1) := by
  simp [rank]

/-- Every rank the closure is asked for lies between `0` and `len - 1`. -/
theorem rank_mem {sorted : List α} (h : sorted ≠ []) {p : α} (hp : 0 ≤ p) (hp' : p ≤ 100) :
    0 ≤ rank sorted p ∧ rank sorted p ≤ ((sorted.length - 1 : Nat) : α) := by
  have hlen : (1 : α) ≤ sorted.length := by exact_mod_cast List.length_pos.mpr h
  have hq : 0 ≤ p / 100 ∧ p / 100 ≤ 1 := ⟨by positivity, (div_le_one (by norm_num)).mpr hp'⟩
  rw [Nat.cast_sub (List.length_pos.mpr h), Nat.cast_one, rank_eq]
  exact ⟨mul_nonneg hq.1 (sub_nonneg.mpr hlen), mul_le_of_le_one_left (sub_nonneg.mpr hlen) hq.2⟩

variable [FloorSemiring α]

/-- The `percentile` closure: linear interpolation between the order statistics at the
floor and the ceiling of the rank. -/
def percentile (sorted : List α) (p : α) : Except Fault α := do
  let lower := ⌊rank sorted p⌋₊
  let upper := ⌈rank sorted p⌉₊
  if lower = upper then index sorted lower
  else
    return (← index sorted lower) * ((upper : α) - rank sorted p) +
      (← index sorted upper) * (rank sorted p - (lower : α))

/-- What the `percentile` closure computes at a rank once both indices are in range. -/
def interpolate (sorted : List α) (rank : α) : α :=
  if ⌊rank⌋₊ = ⌈rank⌉₊ then sorted.getD ⌊rank⌋₊ 0
  else sorted.getD ⌊rank⌋₊ 0 * ((⌈rank⌉₊ : α) - rank) + sorted.getD ⌈rank⌉₊ 0 * (rank - ⌊rank⌋₊)

theorem ceil_rank_lt {sorted : List α} (h : sorted ≠ []) {p : α} (hp : 0 ≤ p) (hp' : p ≤ 100) :
    ⌈rank sorted p⌉₊ < sorted.length := by
  have := Nat.ceil_le.mpr (rank_mem h hp hp').2
  have := List.length_pos.mpr h
  omega

theorem percentile_eq {sorted : List α} (h : sorted ≠ []) {p : α} (hp : 0 ≤ p) (hp' : p ≤ 100) :
    percentile sorted p = .ok (interpolate sorted (rank sorted p)) := by
  have hu := ceil_rank_lt h hp hp'
  have hl := (Nat.floor_le_ceil (rank sorted p)).trans_lt hu
  unfold percentile interpolate
  dsimp only
  by_cases heq : ⌊rank sorted p⌋₊ = ⌈rank sorted p⌉₊
  · rw [if_pos heq, if_pos heq, index_of_lt hl]
  · simp only [if_neg heq, index_of_lt hl, index_of_lt hu, except_bind_ok]
    rfl

/-- `compute_statistics`. Its three divisions by the sample size or a quantity derived from it
(`sum / n` and the squares over `n`, over `n - 1.0`, and `sample_std_dev / n.sqrt()`) go
through `div`, as the square root goes through `sqrt`. -/
def computeStatisticsWith (div : α → α → α) (sqrt : α → α) (params : Json α) :
    Except Fault (StatisticsResult α) := do
  let some data := dataArray params
    | throw (.toolError (.invalidParameters "'data' array required for statistics"))
  let values := extractValues data
  if values.isEmpty then
    throw (.toolError (.invalidParameters "'data' must contain at least one number"))
  let n : α := values.length
  let sum := values.sum
  let mean := div sum n
  let sorted := sortValues values
  let median ← median sorted
  let variance := div (values.map fun x => (x - mean) ^ 2).sum n
  let stdDev := sqrt variance
  let sampleVariance :=
    if values.length > 1 then div (values.map fun x => (x - mean) ^ 2).sum (n - 1.0) else 0.0
  let sampleStdDev := sqrt sampleVariance
  let min := sorted.head?.getD 0.0
  let max := sorted.getLast?.getD 0.0
  let sem := div sampleStdDev (sqrt n)
  let p25 ← percentile sorted 25.0
  let p50 ← percentile sorted 50.0
  let p75 ← percentile sorted 75.0
  let p90 ← percentile sorted 90.0
  let p95 ← percentile sorted 95.0
  let p99 ← percentile sorted 99.0
  let iqr := (← percentile sorted 75.0) - (← percentile sorted 25.0)
  return {
    n := values.length, mean := mean, median := median, stdDev := stdDev,
    sampleStdDev := sampleStdDev, sem := sem, variance := variance,
    sampleVariance := sampleVariance, min := min, max := max, range := max - min, sum := sum,
    percentiles := ⟨p25, p50, p75, p90, p95, p99⟩, iqr := iqr }

/-- The model with field division. -/
def computeStatistics (sqrt : α → α) (params : Json α) : Except Fault (StatisticsResult α) :=
  computeStatisticsWith (fun a b => a / b) sqrt params

/-- The record of a non-empty sample, read without a panic. -/
def summarizeWith (div : α → α → α) (sqrt : α → α) (values : List α) : StatisticsResult α :=
  let n : α := values.length
  let mean := div values.sum n
  let sorted := sortValues values
  let squares := (values.map fun x => (x - mean) ^ 2).sum
  let sampleVariance := if values.length > 1 then div squares (n - 1.0) else 0.0
  let pct (p : α) := interpolate sorted (rank sorted p)
  { n := values.length, mean := mean, median := medianValue sorted,
    stdDev := sqrt (div squares n), sampleStdDev := sqrt sampleVariance,
    sem := div (sqrt sampleVariance) (sqrt n), variance := div squares n,
    sampleVariance := sampleVariance, min := sorted.head?.getD 0.0,
    max := sorted.getLast?.getD 0.0,
    range := sorted.getLast?.getD 0.0 - sorted.head?.getD 0.0, sum := values.sum,
    percentiles := ⟨pct 25.0, pct 50.0, pct 75.0, pct 90.0, pct 95.0, pct 99.0⟩,
    iqr := pct 75.0 - pct 25.0 }

def summarize (sqrt : α → α) (values : List α) : StatisticsResult α :=
  summarizeWith (fun a b => a / b) sqrt values

/-- The faithful model refines `summarizeWith`: it fails only on a missing array or an
empty sample, with the source's messages, and otherwise never panics. -/
theorem computeStatisticsWith_eq (div : α → α → α) (sqrt : α → α) (params : Json α) :
    computeStatisticsWith div sqrt params =
      match dataArray params with
      | none => .error (.toolError (.invalidParameters "'data' array required for statistics"))
      | some data =>
        if extractValues data = [] then
          .error (.toolError (.invalidParameters "'data' must contain at least one number"))
        else .ok (summarizeWith div sqrt (extractValues data)) := by
  unfold computeStatisticsWith
  cases dataArray params with
  | none => rfl
  | some data =>
    dsimp only
    by_cases he : extractValues data = []
    · simp [he]
    · have hs : sortValues (extractValues data) ≠ [] := by
        rw [← List.length_pos, sortValues_length]
        exact List.length_pos.mpr he
      simp (disch := norm_num) only [List.isEmpty_iff, he, ↓reduceIte, median_eq hs,
        percentile_eq hs, except_bind_ok, except_pure]
      rfl

theorem computeStatistics_eq (sqrt : α → α) (params : Json α) :
    computeStatistics sqrt params =
      match dataArray params with
      | none => .error (.toolError (.invalidParameters "'data' array required for statistics"))
      | some data =>
        if extractValues data = [] then
          .error (.toolError (.invalidParameters "'data' must contain at least one number"))
        else .ok (summarize sqrt (extractValues data)) :=
  computeStatisticsWith_eq _ sqrt params

end Ironclaw.Statistics
