import Ironclaw.Statistics.Order

/-!
# The contract of `compute_statistics`

The call fails with a parameter error exactly when `data` is missing, is not an
array, or holds no number, and otherwise returns a record, so no index it takes
into the sorted copy is out of range. Every divisor is non-zero: a division that
differs from the field's only at zero gives the same record.
The record depends only on the multiset of the numbers, since the sorted copy of
a permutation is the same list.
-/

namespace Ironclaw.Statistics

variable {α : Type} [LinearOrderedField α] [FloorSemiring α]

theorem computeStatistics_ok_iff (sqrt : α → α) (params : Json α) :
    (∃ s, computeStatistics sqrt params = .ok s) ↔
      ∃ data, dataArray params = some data ∧ ∃ x, Json.number x ∈ data := by
  rw [computeStatistics_eq]
  cases dataArray params with
  | none => simp
  | some data =>
    by_cases he : extractValues data = []
    · simp [he, ← extractValues_ne_nil_iff]
    · simp [he, extractValues_ne_nil_iff.mp he]

theorem computeStatistics_error_iff (sqrt : α → α) (params : Json α) :
    (∃ msg, computeStatistics sqrt params = .error (.toolError (.invalidParameters msg))) ↔
      dataArray params = none ∨ ∃ data, dataArray params = some data ∧ ∀ x, Json.number x ∉ data := by
  rw [computeStatistics_eq]
  cases dataArray params with
  | none => simp
  | some data =>
    by_cases he : extractValues data = []
    · simpa [he] using fun x hx => extractValues_ne_nil_iff.mpr ⟨x, hx⟩ he
    · simpa [he] using extractValues_ne_nil_iff.mp he

/-- Every division the record makes is by a non-zero number: by `n`, by `n - 1.0` when
`n > 1`, and by `sqrt n` for a square root positive on positive numbers. So any division
that agrees with the field's off zero gives the same record. -/
theorem summarizeWith_eq_summarize {div : α → α → α} (hdiv : ∀ a b, b ≠ 0 → div a b = a / b)
    {sqrt : α → α} (hsqrt : ∀ x, 0 < x → sqrt x ≠ 0) {values : List α} (h : values ≠ []) :
    summarizeWith div sqrt values = summarize sqrt values := by
  have hpos : (0 : α) < values.length := by exact_mod_cast List.length_pos.mpr h
  have hbessel : ∀ x : α, (if values.length > 1 then div x ((values.length : α) - 1.0) else 0.0) =
      if values.length > 1 then x / ((values.length : α) - 1.0) else 0.0 := by
    intro x
    split_ifs with h1
    · have : (1 : α) < values.length := by exact_mod_cast h1
      exact hdiv _ _ (by rw [ofScientific_one]; exact sub_ne_zero.mpr this.ne')
    · rfl
  simp only [summarize, summarizeWith, hdiv _ _ hpos.ne', hdiv _ _ (hsqrt _ hpos), hbessel]

theorem computeStatisticsWith_eq_computeStatistics {div : α → α → α}
    (hdiv : ∀ a b, b ≠ 0 → div a b = a / b) {sqrt : α → α} (hsqrt : ∀ x, 0 < x → sqrt x ≠ 0)
    (params : Json α) : computeStatisticsWith div sqrt params = computeStatistics sqrt params := by
  rw [computeStatisticsWith_eq, computeStatistics_eq]
  cases dataArray params with
  | none => rfl
  | some data =>
    dsimp only
    split_ifs with he
    · rfl
    · rw [summarizeWith_eq_summarize hdiv hsqrt he]

theorem computeStatistics_safe (params : Json ℝ) :
    ((∃ msg, computeStatistics Real.sqrt params = .error (.toolError (.invalidParameters msg))) ↔
      dataArray params = none ∨ ∃ data, dataArray params = some data ∧ ∀ x, Json.number x ∉ data) ∧
    ((∃ s, computeStatistics Real.sqrt params = .ok s) ↔
      ∃ data, dataArray params = some data ∧ ∃ x, Json.number x ∈ data) ∧
    ∀ div : ℝ → ℝ → ℝ, (∀ a b, b ≠ 0 → div a b = a / b) →
      computeStatisticsWith div Real.sqrt params = computeStatistics Real.sqrt params :=
  ⟨computeStatistics_error_iff _ _, computeStatistics_ok_iff _ _, fun _ hdiv =>
    computeStatisticsWith_eq_computeStatistics hdiv (fun _ hx => (Real.sqrt_pos.mpr hx).ne') _⟩

theorem computeStatistics_safe_pair :
    (computeStatistics Real.sqrt (.object [("data", .array [.number 1, .number 3])])).map
        StatisticsResult.sampleVariance = .ok 2 ∧
      computeStatisticsWith (fun a b => if b = 0 then 1 else a / b) Real.sqrt
          (.object [("data", .array [.number 1, .number 3])]) =
        computeStatistics Real.sqrt (.object [("data", .array [.number 1, .number 3])]) := by
  refine ⟨?_, (computeStatistics_safe _).2.2 _ fun _ _ hb => if_neg hb⟩
  have hv : extractValues [Json.number (1 : ℝ), .number 3] = [1, 3] := rfl
  rw [computeStatistics_eq, show dataArray (.object [("data", .array [.number 1, .number 3])]) =
    some [Json.number (1 : ℝ), .number 3] from rfl]
  dsimp only
  rw [hv, if_neg (List.cons_ne_nil _ _)]
  norm_num [summarize, summarizeWith, Except.map]

section Permutation

omit [FloorSemiring α] in
theorem sortValues_eq_of_perm {values values' : List α} (hp : values.Perm values') :
    sortValues values = sortValues values' :=
  List.eq_of_perm_of_sorted
    ((sortValues_perm values).trans (hp.trans (sortValues_perm values').symm))
    (sortValues_sorted values) (sortValues_sorted values')

/-- Every field of the record is a function of the multiset of the sample. -/
theorem summarize_perm (sqrt : α → α) {values values' : List α} (hp : values.Perm values') :
    summarize sqrt values = summarize sqrt values' := by
  have hsq : ∀ f : α → α, (values.map f).sum = (values'.map f).sum := fun f => (hp.map f).sum_eq
  simp only [summarize, summarizeWith, hsq, hp.sum_eq, hp.length_eq, sortValues_eq_of_perm hp]

theorem computeStatistics_perm (sqrt : α → α) {params params' : Json α}
    {data data' : List (Json α)} (h : dataArray params = some data)
    (h' : dataArray params' = some data') (hp : data.Perm data') :
    computeStatistics sqrt params = computeStatistics sqrt params' := by
  have hv : (extractValues data).Perm (extractValues data') := hp.filterMap _
  have he : extractValues data = [] ↔ extractValues data' = [] := by
    rw [← List.length_eq_zero, ← List.length_eq_zero, hv.length_eq]
  rw [computeStatistics_eq, computeStatistics_eq, h, h']
  by_cases hnil : extractValues data = []
  · simp only [hnil, he.mp hnil, ↓reduceIte]
  · simp only [hnil, mt he.mpr hnil, ↓reduceIte, summarize_perm sqrt hv]

theorem computeStatistics_perm_swap :
    dataArray (.object [("data", .array [.number (1 : ℚ), .number 2])]) =
        some [.number 1, .number 2] ∧
      dataArray (.object [("data", .array [.number (2 : ℚ), .number 1])]) =
        some [.number 2, .number 1] ∧
      List.Perm [Json.number (1 : ℚ), .number 2] [.number 2, .number 1] ∧
      computeStatistics (fun x => x) (.object [("data", .array [.number (1 : ℚ), .number 2])]) =
        computeStatistics (fun x => x) (.object [("data", .array [.number (2 : ℚ), .number 1])]) :=
  ⟨rfl, rfl, List.Perm.swap _ _ _, computeStatistics_perm _ rfl rfl (List.Perm.swap _ _ _)⟩

end Permutation

end Ironclaw.Statistics
