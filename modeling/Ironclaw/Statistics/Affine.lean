import Ironclaw.Statistics.Basic

/-!
# Statistics under a change of units

A proportional change of units, or any map `t ↦ a * t + b` with `a > 0`, moves the
sample without reordering it. Every location `compute_statistics` reports is then moved
by the same map, every spread is scaled by `a`, and both variances by `a ^ 2`. The
square root is a parameter of the model; all the proof asks of it is
`sqrt (a ^ 2 * x) = a * sqrt x`, which `Real.sqrt` satisfies for `a ≥ 0`.
-/

namespace Ironclaw.Statistics

variable {α : Type} [LinearOrderedField α]

def Percentiles.map (f : α → α) (p : Percentiles α) : Percentiles α :=
  ⟨f p.p25, f p.p50, f p.p75, f p.p90, f p.p95, f p.p99⟩

/-- The record the sample `a * x + b` gives when the sample `x` gives `s`: locations
moved by `t ↦ a * t + b`, spreads scaled by `a`, variances by `a ^ 2`, and the sum by
`a` plus `n` times `b`. -/
def StatisticsResult.affine (a b : α) (s : StatisticsResult α) : StatisticsResult α where
  n := s.n
  mean := a * s.mean + b
  median := a * s.median + b
  stdDev := a * s.stdDev
  sampleStdDev := a * s.sampleStdDev
  sem := a * s.sem
  variance := a ^ 2 * s.variance
  sampleVariance := a ^ 2 * s.sampleVariance
  min := a * s.min + b
  max := a * s.max + b
  range := a * s.range
  sum := a * s.sum + s.n * b
  percentiles := s.percentiles.map fun t => a * t + b
  iqr := a * s.iqr

/-- Sorting commutes with a monotone map: both sides are sorted permutations of the
mapped sample. -/
theorem sortValues_map {f : α → α} (hf : Monotone f) (values : List α) :
    sortValues (values.map f) = (sortValues values).map f :=
  List.eq_of_perm_of_sorted ((sortValues_perm _).trans ((sortValues_perm values).map f).symm)
    (sortValues_sorted _) ((sortValues_sorted values).map f fun _ _ h => hf h)

section Map

variable {f : α → α} {l : List α}

theorem getD_map_of_lt {i : Nat} (h : i < l.length) : (l.map f).getD i 0 = f (l.getD i 0) := by
  rw [List.getD_eq_getElem _ _ (by simpa using h), List.getD_eq_getElem _ _ h, List.getElem_map]

theorem head_getD_map (h : l ≠ []) : (l.map f).head?.getD 0 = f (l.head?.getD 0) := by
  cases l with
  | nil => exact absurd rfl h
  | cons x l => rfl

theorem getLast_getD_map (h : l ≠ []) : (l.map f).getLast?.getD 0 = f (l.getLast?.getD 0) := by
  rw [List.getLast?_eq_getLast _ h, List.getLast?_eq_getLast _ (by simpa using h),
    List.getLast_map]
  rfl

@[simp] theorem rank_map (p : α) : rank (l.map f) p = rank l p := by
  simp [rank]

end Map

section Affine

variable {a b : α}

theorem medianValue_affine {l : List α} (h : l ≠ []) :
    medianValue (l.map fun t => a * t + b) = a * medianValue l + b := by
  have hlen := List.length_pos.mpr h
  unfold medianValue
  simp only [List.length_map, ofScientific_two]
  split
  · rw [getD_map_of_lt (by omega), getD_map_of_lt (by omega)]
    ring
  · exact getD_map_of_lt (by omega)

/-- The interpolation weights sum to one, so interpolating commutes with an affine map. -/
theorem interpolate_affine [FloorSemiring α] {l : List α} {r : α} (h : ⌈r⌉₊ < l.length) :
    interpolate (l.map fun t => a * t + b) r = a * interpolate l r + b := by
  have hl := (Nat.floor_le_ceil r).trans_lt h
  unfold interpolate
  split
  · exact getD_map_of_lt hl
  · rename_i hne
    have hc : (⌈r⌉₊ : α) = ⌊r⌋₊ + 1 := by
      have := Nat.ceil_le_floor_add_one r
      have := Nat.floor_le_ceil r
      exact_mod_cast (show ⌈r⌉₊ = ⌊r⌋₊ + 1 by omega)
    rw [getD_map_of_lt hl, getD_map_of_lt h, hc]
    ring

theorem sum_affine (values : List α) :
    (values.map fun t => a * t + b).sum = a * values.sum + values.length * b := by
  induction values with
  | nil => simp
  | cons x values ih =>
    simp only [List.map_cons, List.sum_cons, ih, List.length_cons, Nat.cast_succ]
    ring

theorem squares_affine (values : List α) (m : α) :
    ((values.map fun t => a * t + b).map fun y => (y - (a * m + b)) ^ 2).sum =
      a ^ 2 * (values.map fun x => (x - m) ^ 2).sum := by
  rw [List.map_map, ← List.sum_map_mul_left]
  congr 1
  refine List.map_congr_left fun x _ => ?_
  simp only [Function.comp]
  ring

theorem ite_scale (c : Prop) [Decidable c] (k x : α) :
    (if c then k * x else (0 : α)) = k * (if c then x else 0) := by
  split <;> simp

/-- The record of a sample moved by `t ↦ a * t + b`, for `a > 0` and any square root
that takes out the factor `a ^ 2`. -/
theorem summarize_affine [FloorSemiring α] (sqrt : α → α) (hsqrt : ∀ x, sqrt (a ^ 2 * x) = a * sqrt x)
    (ha : 0 < a) {values : List α} (hne : values ≠ []) :
    summarize sqrt (values.map fun t => a * t + b) = (summarize sqrt values).affine a b := by
  have hmono : Monotone fun t => a * t + b := fun _ _ h =>
    add_le_add_right (mul_le_mul_of_nonneg_left h ha.le) b
  have hs : sortValues values ≠ [] := by
    rw [← List.length_pos, sortValues_length]
    exact List.length_pos.mpr hne
  have hn : (values.length : α) ≠ 0 := Nat.cast_ne_zero.mpr (List.length_pos.mpr hne).ne'
  have hpct : ∀ p : α, 0 ≤ p → p ≤ 100 →
      interpolate ((sortValues values).map fun t => a * t + b) (rank (sortValues values) p) =
        a * interpolate (sortValues values) (rank (sortValues values) p) + b :=
    fun p hp hp' => interpolate_affine (ceil_rank_lt hs hp hp')
  have hmean : (a * values.sum + values.length * b) / values.length =
      a * (values.sum / values.length) + b := by
    rw [add_div, mul_div_assoc, mul_div_cancel_left₀ b hn]
  simp (disch := norm_num) only [summarize, summarizeWith, StatisticsResult.affine, Percentiles.map,
    List.length_map, sum_affine, hmean, sortValues_map hmono, rank_map, squares_affine,
    medianValue_affine hs, ofScientific_zero, head_getD_map hs, getLast_getD_map hs, hpct,
    mul_div_assoc, ite_scale, hsqrt, add_sub_add_right_eq_sub, ← mul_sub]

end Affine

theorem real_sqrt_scale {a : ℝ} (ha : 0 ≤ a) (x : ℝ) : Real.sqrt (a ^ 2 * x) = a * Real.sqrt x := by
  rw [Real.sqrt_mul (sq_nonneg a), Real.sqrt_sq ha]

theorem computeStatistics_affine {params params' : Json ℝ} {data data' : List (Json ℝ)}
    (h : dataArray params = some data) (h' : dataArray params' = some data')
    (hne : extractValues data ≠ []) {a b : ℝ} (ha : 0 < a)
    (hmap : extractValues data' = (extractValues data).map fun t => a * t + b) :
    ∃ s, computeStatistics Real.sqrt params = .ok s ∧
      computeStatistics Real.sqrt params' = .ok (s.affine a b) := by
  rw [computeStatistics_eq, computeStatistics_eq, h, h']
  refine ⟨_, if_neg hne, ?_⟩
  dsimp only
  rw [hmap, if_neg (by simpa using hne), summarize_affine _ (real_sqrt_scale ha.le) ha hne]

theorem computeStatistics_affine_double :
    let params : Json ℝ := .object [("data", .array [.number 1, .number 2])]
    let params' : Json ℝ := .object [("data", .array [.number 3, .string "x", .number 5])]
    (dataArray params = some [.number 1, .number 2] ∧
      dataArray params' = some [.number 3, .string "x", .number 5] ∧
      extractValues [.number (1 : ℝ), .number 2] ≠ [] ∧ (0 : ℝ) < 2 ∧
      extractValues [.number 3, .string "x", .number 5] =
        (extractValues [.number (1 : ℝ), .number 2]).map fun t => 2 * t + 1) ∧
    ∃ s, computeStatistics Real.sqrt params = .ok s ∧
      computeStatistics Real.sqrt params' = .ok (s.affine 2 1) := by
  intro params params'
  have h : dataArray params = some [.number 1, .number 2] := rfl
  have h' : dataArray params' = some [.number 3, .string "x", .number 5] := rfl
  have hne : extractValues [.number (1 : ℝ), .number 2] ≠ [] := by
    simp [extractValues, Json.asF64]
  have hmap : extractValues [.number 3, .string "x", .number 5] =
      (extractValues [.number (1 : ℝ), .number 2]).map fun t => 2 * t + 1 := by
    simp only [extractValues, List.filterMap_cons, Json.asF64, List.filterMap_nil, List.map]
    norm_num
  exact ⟨⟨h, h', hne, two_pos, hmap⟩, computeStatistics_affine h h' hne two_pos hmap⟩

end Ironclaw.Statistics
