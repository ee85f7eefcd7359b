import Ironclaw.Statistics.Basic

/-!
# Order of the statistics

On a sorted sample the interpolation of the `percentile` closure lies between the
two order statistics it reads and grows with the rank, so the percentiles come out
in order between the minimum and the maximum. At rank `(n - 1) / 2` it reads the
same one or two middle elements as the even/odd branch of the median.
-/

namespace Ironclaw.Statistics

variable {α : Type} [LinearOrderedField α]

section Sorted

variable {l : List α}

theorem getD_le_getD (hl : l.Sorted (· ≤ ·)) {i j : Nat} (hij : i ≤ j) (hj : j < l.length) :
    l.getD i 0 ≤ l.getD j 0 := by
  rw [List.getD_eq_getElem _ _ (hij.trans_lt hj), List.getD_eq_getElem _ _ hj]
  rcases hij.eq_or_lt with rfl | hlt
  · exact le_rfl
  · exact List.pairwise_iff_getElem.mp hl i j _ hj hlt

theorem head_getD (h : l ≠ []) : l.head?.getD 0 = l.getD 0 0 := by
  cases l with
  | nil => exact absurd rfl h
  | cons a t => rfl

theorem getLast_getD : l.getLast?.getD 0 = l.getD (l.length - 1) 0 := by
  rw [List.getLast?_eq_getElem?, List.getD_eq_getElem?_getD]

theorem head_getD_mem (h : l ≠ []) : l.head?.getD 0 ∈ l := by
  cases l with
  | nil => exact absurd rfl h
  | cons a t => exact List.mem_cons_self a t

theorem getLast_getD_mem (h : l ≠ []) : l.getLast?.getD 0 ∈ l := by
  rw [List.getLast?_eq_getLast l h]
  exact List.getLast_mem h

/-- Every order statistic lies between the first and the last. -/
theorem getD_mem_bounds (hl : l.Sorted (· ≤ ·)) {i : Nat} (hi : i < l.length) :
    l.head?.getD 0 ≤ l.getD i 0 ∧ l.getD i 0 ≤ l.getLast?.getD 0 := by
  have h : l ≠ [] := List.ne_nil_of_length_pos (by omega)
  rw [head_getD h, getLast_getD]
  exact ⟨getD_le_getD hl (Nat.zero_le i) hi, getD_le_getD hl (by omega) (by omega)⟩

theorem mem_bounds (hl : l.Sorted (· ≤ ·)) {x : α} (hx : x ∈ l) :
    l.head?.getD 0 ≤ x ∧ x ≤ l.getLast?.getD 0 := by
  obtain ⟨i, hi, rfl⟩ := List.getElem_of_mem hx
  have := getD_mem_bounds hl hi
  rwa [List.getD_eq_getElem _ _ hi] at this

theorem medianValue_bounds (hl : l.Sorted (· ≤ ·)) (h : l ≠ []) :
    l.head?.getD 0 ≤ medianValue l ∧ medianValue l ≤ l.getLast?.getD 0 := by
  have hlen := List.length_pos.mpr h
  unfold medianValue
  split
  · have ha := getD_mem_bounds hl (i := l.length / 2 - 1) (by omega)
    have hb := getD_mem_bounds hl (i := l.length / 2) (by omega)
    rw [ofScientific_two]
    exact ⟨(add_self_div_two _).symm.trans_le
        (div_le_div_of_nonneg_right (add_le_add ha.1 hb.1) zero_le_two),
      (div_le_div_of_nonneg_right (add_le_add ha.2 hb.2) zero_le_two).trans_eq
        (add_self_div_two _)⟩
  · exact getD_mem_bounds hl (by omega)

variable [FloorSemiring α]

/-- The interpolation lies between the two order statistics it reads. -/
theorem interpolate_bounds (hl : l.Sorted (· ≤ ·)) {r : α} (hr : 0 ≤ r)
    (hu : ⌈r⌉₊ < l.length) :
    l.getD ⌊r⌋₊ 0 ≤ interpolate l r ∧ interpolate l r ≤ l.getD ⌈r⌉₊ 0 := by
  have hab := getD_le_getD hl (Nat.floor_le_ceil r) hu
  unfold interpolate
  split
  · rename_i heq
    exact ⟨le_rfl, heq ▸ le_rfl⟩
  · rename_i hne
    have hc : ⌈r⌉₊ = ⌊r⌋₊ + 1 := by
      have := Nat.floor_le_ceil r
      have := Nat.ceil_le_floor_add_one r
      omega
    set x := l.getD ⌊r⌋₊ 0
    set y := l.getD ⌈r⌉₊ 0
    have hw1 : 0 ≤ (⌈r⌉₊ : α) - r := sub_nonneg.mpr (Nat.le_ceil r)
    have hw2 : 0 ≤ r - ⌊r⌋₊ := sub_nonneg.mpr (Nat.floor_le hr)
    have hlo : x * (⌈r⌉₊ - r) + y * (r - ⌊r⌋₊) = x + (y - x) * (r - ⌊r⌋₊) := by
      rw [hc]; push_cast; ring
    have hhi : x * (⌈r⌉₊ - r) + y * (r - ⌊r⌋₊) = y - (y - x) * (⌈r⌉₊ - r) := by
      rw [hc]; push_cast; ring
    exact ⟨hlo ▸ le_add_of_nonneg_right (mul_nonneg (sub_nonneg.mpr hab) hw2),
      hhi ▸ sub_le_self _ (mul_nonneg (sub_nonneg.mpr hab) hw1)⟩

/-- The interpolation grows with the rank. -/
theorem interpolate_mono (hl : l.Sorted (· ≤ ·)) {r r' : α} (hr : 0 ≤ r) (hrr : r ≤ r')
    (hu : ⌈r'⌉₊ < l.length) : interpolate l r ≤ interpolate l r' := by
  have hu' : ⌈r⌉₊ < l.length := (Nat.ceil_mono hrr).trans_lt hu
  have hf' : ⌊r'⌋₊ < l.length := (Nat.floor_le_ceil r').trans_lt hu
  by_cases hc : ⌈r⌉₊ ≤ ⌊r'⌋₊
  · calc interpolate l r ≤ l.getD ⌈r⌉₊ 0 := (interpolate_bounds hl hr hu').2
      _ ≤ l.getD ⌊r'⌋₊ 0 := getD_le_getD hl hc hf'
      _ ≤ interpolate l r' := (interpolate_bounds hl (hr.trans hrr) hu).1
  · have hf := Nat.floor_mono hrr
    have hcf := Nat.ceil_le_floor_add_one r
    have hcf' := Nat.ceil_le_floor_add_one r'
    have hcc := Nat.ceil_mono hrr
    have hfc := Nat.floor_le_ceil r
    have hk : ⌊r'⌋₊ = ⌊r⌋₊ := by omega
    have hcr : ⌈r⌉₊ = ⌊r⌋₊ + 1 := by omega
    have hcr' : ⌈r'⌉₊ = ⌊r⌋₊ + 1 := by omega
    have hab := getD_le_getD hl (Nat.le_succ ⌊r⌋₊) (by omega)
    unfold interpolate
    rw [if_neg (by omega), if_neg (by omega), hcr, hcr', hk]
    set x := l.getD ⌊r⌋₊ 0
    set y := l.getD (⌊r⌋₊ + 1) 0
    have hstep : x * ((⌊r⌋₊ + 1 : ℕ) - r') + y * (r' - ⌊r⌋₊) =
        x * ((⌊r⌋₊ + 1 : ℕ) - r) + y * (r - ⌊r⌋₊) + (y - x) * (r' - r) := by ring
    rw [hstep]
    exact le_add_of_nonneg_right (mul_nonneg (sub_nonneg.mpr hab) (sub_nonneg.mpr hrr))

end Sorted

theorem mean_bounds {values : List α} (h : values ≠ []) {lo hi : α}
    (hlo : ∀ x ∈ values, lo ≤ x) (hhi : ∀ x ∈ values, x ≤ hi) :
    lo ≤ values.sum / values.length ∧ values.sum / values.length ≤ hi := by
  have hn : (0 : α) < values.length := by exact_mod_cast List.length_pos.mpr h
  have h1 := List.card_nsmul_le_sum values lo hlo
  have h2 := List.sum_le_card_nsmul values hi hhi
  rw [nsmul_eq_mul] at h1 h2
  exact ⟨(le_div_iff₀ hn).mpr ((mul_comm _ _).trans_le h1),
    (div_le_iff₀ hn).mpr (h2.trans_eq (mul_comm _ _))⟩

section Extract

omit [LinearOrderedField α]
variable {data : List (Json α)}

theorem mem_extractValues {x : α} : x ∈ extractValues data ↔ Json.number x ∈ data := by
  simp only [extractValues, List.mem_filterMap, Json.asF64_eq_some_iff, exists_eq_right]

theorem extractValues_ne_nil_iff : extractValues data ≠ [] ↔ ∃ x, Json.number x ∈ data := by
  constructor
  · intro h
    obtain ⟨x, hx⟩ := List.exists_mem_of_ne_nil _ h
    exact ⟨x, mem_extractValues.mp hx⟩
  · rintro ⟨x, hx⟩
    exact List.ne_nil_of_mem (mem_extractValues.mpr hx)

end Extract

theorem rank_mono {l : List α} (h : l ≠ []) {p q : α} (hpq : p ≤ q) : rank l p ≤ rank l q := by
  have : (1 : α) ≤ l.length := by exact_mod_cast List.length_pos.mpr h
  rw [rank_eq, rank_eq]
  exact mul_le_mul_of_nonneg_right (div_le_div_of_nonneg_right hpq (by norm_num))
    (sub_nonneg.mpr this)

theorem fifty_div_hundred : (50.0 : α) / 100 = 1 / 2 := by norm_num

variable [FloorSemiring α]

section Percentiles

variable {l : List α} (hl : l.Sorted (· ≤ ·)) (h : l ≠ [])
include hl h

/-- Percentiles of a sorted sample come in the order of their levels. -/
theorem percentile_le {p q : α} (hp : 0 ≤ p) (hpq : p ≤ q) (hq : q ≤ 100) :
    interpolate l (rank l p) ≤ interpolate l (rank l q) :=
  interpolate_mono hl (rank_mem h hp (hpq.trans hq)).1 (rank_mono h hpq)
    (ceil_rank_lt h (hp.trans hpq) hq)

theorem percentile_bounds {p : α} (hp : 0 ≤ p) (hp' : p ≤ 100) :
    l.head?.getD 0 ≤ interpolate l (rank l p) ∧ interpolate l (rank l p) ≤ l.getLast?.getD 0 := by
  have hu := ceil_rank_lt h hp hp'
  have hb := interpolate_bounds hl (rank_mem h hp hp').1 hu
  exact ⟨(getD_mem_bounds hl ((Nat.floor_le_ceil _).trans_lt hu)).1.trans hb.1,
    hb.2.trans (getD_mem_bounds hl hu).2⟩

end Percentiles

/-- At rank `(n - 1) / 2` the closure reads the median's one or two middle elements. -/
theorem interpolate_rank_half {l : List α} (h : l ≠ []) :
    interpolate l (rank l 50.0) = medianValue l := by
  have hlen := List.length_pos.mpr h
  obtain ⟨k, hk | hk⟩ := Nat.even_or_odd' l.length
  · have hk1 : 1 ≤ k := by omega
    have hr : rank l 50.0 = (k : α) - 1 / 2 := by
      rw [rank_eq, hk, fifty_div_hundred]
      push_cast
      ring
    have hfl : ⌊rank l 50.0⌋₊ = k - 1 := by
      have hkα : (1 : α) ≤ k := by exact_mod_cast hk1
      rw [hr, Nat.floor_eq_iff (sub_nonneg.mpr (one_half_lt_one.le.trans hkα)), Nat.cast_sub hk1,
        Nat.cast_one, sub_add_cancel]
      exact ⟨sub_le_sub_left one_half_lt_one.le _, sub_lt_self _ one_half_pos⟩
    have hce : ⌈rank l 50.0⌉₊ = k := by
      rw [hr, Nat.ceil_eq_iff (by omega), Nat.cast_sub hk1, Nat.cast_one]
      exact ⟨sub_lt_sub_left one_half_lt_one _, sub_le_self _ one_half_pos.le⟩
    unfold interpolate medianValue
    rw [hfl, hce, if_neg (by omega), if_pos (by omega), hk, Nat.mul_div_cancel_left k two_pos,
      hr, Nat.cast_sub hk1, ofScientific_two]
    push_cast
    ring
  · have hr : rank l 50.0 = k := by
      rw [rank_eq, hk, fifty_div_hundred]
      push_cast
      ring
    unfold interpolate medianValue
    rw [hr, Nat.floor_natCast, Nat.ceil_natCast, if_pos rfl, if_neg (by omega), hk]
    congr 1
    omega

theorem percentile_half_eq_median {sorted : List α} (h : sorted ≠ []) :
    percentile sorted 50.0 = median sorted := by
  rw [percentile_eq h (by norm_num) (by norm_num), median_eq h, interpolate_rank_half h]

/-- What `compute_statistics` promises about the order of the fields it returns for the
numbers of `data`. -/
structure OrderedSummary (data : List (Json α)) (s : StatisticsResult α) : Prop where
  min_mem : Json.number s.min ∈ data
  min_le : ∀ x, Json.number x ∈ data → s.min ≤ x
  max_mem : Json.number s.max ∈ data
  le_max : ∀ x, Json.number x ∈ data → x ≤ s.max
  min_le_p25 : s.min ≤ s.percentiles.p25
  p25_le_p50 : s.percentiles.p25 ≤ s.percentiles.p50
  p50_le_p75 : s.percentiles.p50 ≤ s.percentiles.p75
  p75_le_p90 : s.percentiles.p75 ≤ s.percentiles.p90
  p90_le_p95 : s.percentiles.p90 ≤ s.percentiles.p95
  p95_le_p99 : s.percentiles.p95 ≤ s.percentiles.p99
  p99_le_max : s.percentiles.p99 ≤ s.max
  median_mem : s.min ≤ s.median ∧ s.median ≤ s.max
  mean_mem : s.min ≤ s.mean ∧ s.mean ≤ s.max
  iqr_nonneg : 0 ≤ s.iqr
  range_nonneg : 0 ≤ s.range

theorem computeStatistics_ordered (sqrt : α → α) (params : Json α) (data : List (Json α))
    (hdata : dataArray params = some data) (hnum : ∃ x, Json.number x ∈ data) :
    ∃ s, computeStatistics sqrt params = .ok s ∧ OrderedSummary data s := by
  have hv : extractValues data ≠ [] := extractValues_ne_nil_iff.mpr hnum
  have hs := sortValues_sorted (extractValues data)
  have hne : sortValues (extractValues data) ≠ [] := by
    rwa [← List.length_pos, sortValues_length, List.length_pos]
  have hmem : ∀ x, x ∈ sortValues (extractValues data) ↔ Json.number x ∈ data := fun x =>
    (sortValues_perm _).mem_iff.trans mem_extractValues
  have hlo : ∀ x, Json.number x ∈ data → (sortValues (extractValues data)).head?.getD 0 ≤ x :=
    fun x hx => (mem_bounds hs ((hmem x).mpr hx)).1
  have hhi : ∀ x, Json.number x ∈ data → x ≤ (sortValues (extractValues data)).getLast?.getD 0 :=
    fun x hx => (mem_bounds hs ((hmem x).mpr hx)).2
  have hmax := (hmem _).mp (getLast_getD_mem hne)
  have hmean := mean_bounds hv (fun x hx => hlo x (mem_extractValues.mp hx))
    (fun x hx => hhi x (mem_extractValues.mp hx))
  rw [computeStatistics_eq, hdata]
  refine ⟨_, if_neg hv, ?_⟩
  simp only [summarize, summarizeWith, ofScientific_zero]
  exact
    { min_mem := (hmem _).mp (head_getD_mem hne)
      min_le := hlo
      max_mem := hmax
      le_max := hhi
      min_le_p25 := (percentile_bounds hs hne (by norm_num) (by norm_num)).1
      p25_le_p50 := percentile_le hs hne (by norm_num) (by norm_num) (by norm_num)
      p50_le_p75 := percentile_le hs hne (by norm_num) (by norm_num) (by norm_num)
      p75_le_p90 := percentile_le hs hne (by norm_num) (by norm_num) (by norm_num)
      p90_le_p95 := percentile_le hs hne (by norm_num) (by norm_num) (by norm_num)
      p95_le_p99 := percentile_le hs hne (by norm_num) (by norm_num) (by norm_num)
      p99_le_max := (percentile_bounds hs hne (by norm_num) (by norm_num)).2
      median_mem := medianValue_bounds hs hne
      mean_mem := hmean
      iqr_nonneg := sub_nonneg.mpr (percentile_le hs hne (by norm_num) (by norm_num) (by norm_num))
      range_nonneg := sub_nonneg.mpr (hlo _ hmax) }

theorem computeStatistics_ordered_triple :
    dataArray (.object [("data", .array [.number (3 : ℚ), .number 1, .number 2])]) =
        some [.number 3, .number 1, .number 2] ∧
      (∃ x, Json.number x ∈ [Json.number (3 : ℚ), .number 1, .number 2]) ∧
      ∃ s, computeStatistics (fun x => x)
          (.object [("data", .array [.number (3 : ℚ), .number 1, .number 2])]) = .ok s ∧
        OrderedSummary [.number 3, .number 1, .number 2] s :=
  ⟨rfl, ⟨3, List.mem_cons_self _ _⟩,
    computeStatistics_ordered _ _ _ rfl ⟨3, List.mem_cons_self _ _⟩⟩

theorem computeStatistics_p50_eq_median (sqrt : α → α) (params : Json α) (data : List (Json α))
    (hdata : dataArray params = some data) (hnum : ∃ x, Json.number x ∈ data) :
    ∃ s, computeStatistics sqrt params = .ok s ∧ s.percentiles.p50 = s.median := by
  have hv : extractValues data ≠ [] := extractValues_ne_nil_iff.mpr hnum
  have hne : sortValues (extractValues data) ≠ [] := by
    rwa [← List.length_pos, sortValues_length, List.length_pos]
  rw [computeStatistics_eq, hdata]
  exact ⟨_, if_neg hv, interpolate_rank_half hne⟩

theorem computeStatistics_p50_eq_median_pair :
    dataArray (.object [("data", .array [.number (1 : ℚ), .number 2])]) =
        some [.number 1, .number 2] ∧
      (∃ x, Json.number x ∈ [Json.number (1 : ℚ), .number 2]) ∧
      ∃ s, computeStatistics (fun x => x)
          (.object [("data", .array [.number (1 : ℚ), .number 2])]) = .ok s ∧
        s.percentiles.p50 = s.median :=
  ⟨rfl, ⟨1, List.mem_cons_self _ _⟩,
    computeStatistics_p50_eq_median _ _ _ rfl ⟨1, List.mem_cons_self _ _⟩⟩

end Ironclaw.Statistics
