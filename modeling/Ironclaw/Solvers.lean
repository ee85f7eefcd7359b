import Mathlib.Algebra.Order.Field.Basic
import Ironclaw.Json

/-!
# The closed-form solvers

`compute_dilution` reads the four quantities of `C1×V1 = C2×V2`, solves for the
one that is missing, and before dividing checks that the supplied quantity it
divides by is positive. `compute_molarity` reads mass, molecular weight and
volume and checks the last two. Both build their answer with `json!`; the model
keeps its keys in the source's order, which `Value::get` does not see.
-/

namespace Ironclaw.Solvers

open Json

variable {α : Type} [LinearOrderedField α]

def dilutionResult (c1 v1 c2 v2 : α) (solvedFor : String) : Json α :=
  .object [("c1", .number c1), ("v1", .number v1), ("c2", .number c2), ("v2", .number v2),
    ("formula", .string "C1×V1 = C2×V2"), ("solved_for", .string solvedFor)]

def computeDilution (params : Json α) : Except ToolError (Json α) :=
  match params.getF64 "c1", params.getF64 "v1", params.getF64 "c2", params.getF64 "value" with
  | some c1, some v1, some c2, none =>
    if c2 ≤ 0.0 then throw (.invalidParameters "C2 must be > 0 to solve for V2")
    else return dilutionResult c1 v1 c2 (c1 * v1 / c2) "V2"
  | some c1, some v1, none, some v2 =>
    if v2 ≤ 0.0 then throw (.invalidParameters "V2 must be > 0 to solve for C2")
    else return dilutionResult c1 v1 (c1 * v1 / v2) v2 "C2"
  | some c1, none, some c2, some v2 =>
    if c1 ≤ 0.0 then throw (.invalidParameters "C1 must be > 0 to solve for V1")
    else return dilutionResult c1 (c2 * v2 / c1) c2 v2 "V1"
  | none, some v1, some c2, some v2 =>
    if v1 ≤ 0.0 then throw (.invalidParameters "V1 must be > 0 to solve for C1")
    else return dilutionResult (c2 * v2 / v1) v1 c2 v2 "C1"
  | _, _, _, _ => throw (.invalidParameters
      "provide exactly 3 of: c1, v1, c2, value (as V2). The fourth will be solved.")

section DilutionResult

omit [LinearOrderedField α]
variable (c1 v1 c2 v2 : α) (s : String)

@[simp] theorem dilutionResult_c1 : (dilutionResult c1 v1 c2 v2 s).getF64 "c1" = some c1 := rfl
@[simp] theorem dilutionResult_v1 : (dilutionResult c1 v1 c2 v2 s).getF64 "v1" = some v1 := rfl
@[simp] theorem dilutionResult_c2 : (dilutionResult c1 v1 c2 v2 s).getF64 "c2" = some c2 := rfl
@[simp] theorem dilutionResult_v2 : (dilutionResult c1 v1 c2 v2 s).getF64 "v2" = some v2 := rfl
@[simp] theorem dilutionResult_solved_for :
    (dilutionResult c1 v1 c2 v2 s).get "solved_for" = some (.string s) := rfl

end DilutionResult

/-- The four quantities of `C1×V1 = C2×V2`; V2 comes in as `value`. -/
inductive Quantity
  | c1 | v1 | c2 | v2
  deriving DecidableEq, Repr

namespace Quantity

def param : Quantity → String
  | c1 => "c1" | v1 => "v1" | c2 => "c2" | v2 => "value"

def key : Quantity → String
  | c1 => "c1" | v1 => "v1" | c2 => "c2" | v2 => "v2"

def label : Quantity → String
  | c1 => "C1" | v1 => "V1" | c2 => "C2" | v2 => "V2"

/-- The supplied quantity the solver divides by to find a missing one. -/
def divisor : Quantity → Quantity
  | c1 => v1 | v1 => c1 | c2 => v2 | v2 => c2

theorem forall_iff {P : Quantity → Prop} : (∀ q, P q) ↔ P c1 ∧ P v1 ∧ P c2 ∧ P v2 :=
  ⟨fun h => ⟨h _, h _, h _, h _⟩, fun ⟨h1, h2, h3, h4⟩ q => by cases q <;> assumption⟩

theorem exists_iff {P : Quantity → Prop} : (∃ q, P q) ↔ P c1 ∨ P v1 ∨ P c2 ∨ P v2 :=
  ⟨fun ⟨q, h⟩ => by cases q <;> simp [h], fun h => by
    rcases h with h | h | h | h <;> exact ⟨_, h⟩⟩

end Quantity

theorem Quantity.divisor_ne (q : Quantity) : q.divisor ≠ q := by
  cases q <;> decide

omit [LinearOrderedField α] in
theorem dilutionResult_key (f : Quantity → α) (s : String) (p : Quantity) :
    (dilutionResult (f .c1) (f .v1) (f .c2) (f .v2) s).getF64 p.key = some (f p) := by
  cases p <;> rfl

namespace Quantity

def solve (f : Quantity → α) : Quantity → α
  | c1 => f c2 * f v2 / f v1
  | v1 => f c2 * f v2 / f c1
  | c2 => f c1 * f v1 / f v2
  | v2 => f c1 * f v1 / f c2

def solved (q : Quantity) (f : Quantity → α) (p : Quantity) : α := if p = q then q.solve f else f p

theorem solved_eq {q : Quantity} {f : Quantity → α} (hd : f q.divisor ≠ 0) :
    q.solved f c1 * q.solved f v1 = q.solved f c2 * q.solved f v2 := by
  cases q <;> simp only [solved, solve, divisor] at hd ⊢ <;> simp [hd, mul_div_cancel₀]

end Quantity

theorem computeDilution_of_reads {params : Json α} {q : Quantity} {f : Quantity → α}
    (hf : ∀ p, params.getF64 p.param = if p = q then none else some (f p)) :
    computeDilution params = if f q.divisor ≤ 0 then
        .error (.invalidParameters (q.divisor.label ++ " must be > 0 to solve for " ++ q.label))
      else .ok (dilutionResult (q.solved f .c1) (q.solved f .v1) (q.solved f .c2)
        (q.solved f .v2) q.label) := by
  obtain ⟨h1, h2, h3, h4⟩ := Quantity.forall_iff.mp hf
  simp only [Quantity.param] at h1 h2 h3 h4
  cases q <;> simp [computeDilution, h1, h2, h3, h4, Quantity.divisor, Quantity.label,
    Quantity.solved, Quantity.solve]

theorem exists_reads_of_missing {params : Json α} {q : Quantity}
    (H : ∀ p, (params.getF64 p.param).isSome ↔ p ≠ q) :
    ∃ f : Quantity → α, ∀ p, params.getF64 p.param = if p = q then none else some (f p) := by
  refine ⟨fun p => (params.getF64 p.param).getD 0, fun p => ?_⟩
  split_ifs with hp
  · subst hp
    exact Option.not_isSome_iff_eq_none.mp fun h => (H p).mp h rfl
  · obtain ⟨x, hx⟩ := Option.isSome_iff_exists.mp ((H p).mpr hp)
    simp [hx]

omit [LinearOrderedField α] in
theorem missing_of_reads {params : Json α} {q : Quantity} {f : Quantity → α}
    (hf : ∀ p, params.getF64 p.param = if p = q then none else some (f p)) (p : Quantity) :
    (params.getF64 p.param).isSome ↔ p ≠ q := by
  rw [hf p]
  split_ifs with hp <;> simp [hp]

theorem computeDilution_of_not_missing {params : Json α}
    (hq : ¬ ∃ q : Quantity, ∀ p, (params.getF64 p.param).isSome ↔ p ≠ q) :
    computeDilution params = .error (.invalidParameters
      "provide exactly 3 of: c1, v1, c2, value (as V2). The fourth will be solved.") := by
  unfold computeDilution
  split
  all_goals first
    | rfl
    | rename_i h1 h2 h3 h4
      exact absurd (Quantity.exists_iff.mpr (by simp [Quantity.forall_iff, Quantity.param, h1, h2,
        h3, h4])) hq

theorem computeDilution_eq_ok {params j : Json α} (h : computeDilution params = .ok j) :
    ∃ (q : Quantity) (f : Quantity → α),
      (∀ p, params.getF64 p.param = if p = q then none else some (f p)) ∧ 0 < f q.divisor ∧
      j = dilutionResult (q.solved f .c1) (q.solved f .v1) (q.solved f .c2) (q.solved f .v2)
        q.label := by
  by_cases hq : ∃ q : Quantity, ∀ p, (params.getF64 p.param).isSome ↔ p ≠ q
  · obtain ⟨q, H⟩ := hq
    obtain ⟨f, hf⟩ := exists_reads_of_missing H
    rw [computeDilution_of_reads hf] at h
    split_ifs at h with hle
    exact ⟨q, f, hf, lt_of_not_le hle, (Except.ok.inj h).symm⟩
  · rw [computeDilution_of_not_missing hq] at h
    cases h

theorem computeDilution_eq_error {params : Json α} {e : ToolError}
    (h : computeDilution params = .error e) :
    (∃ q : Quantity, (∀ p, (params.getF64 p.param).isSome ↔ p ≠ q) ∧
      (∃ d, params.getF64 q.divisor.param = some d ∧ d ≤ 0) ∧
      e = .invalidParameters (q.divisor.label ++ " must be > 0 to solve for " ++ q.label)) ∨
    ((¬ ∃ q : Quantity, ∀ p, (params.getF64 p.param).isSome ↔ p ≠ q) ∧
      e = .invalidParameters
        "provide exactly 3 of: c1, v1, c2, value (as V2). The fourth will be solved.") := by
  by_cases hq : ∃ q : Quantity, ∀ p, (params.getF64 p.param).isSome ↔ p ≠ q
  · obtain ⟨q, H⟩ := hq
    obtain ⟨f, hf⟩ := exists_reads_of_missing H
    rw [computeDilution_of_reads hf] at h
    split_ifs at h with hle
    · exact .inl ⟨q, H, ⟨f q.divisor, by rw [hf, if_neg q.divisor_ne], hle⟩,
        (Except.error.inj h).symm⟩
  · rw [computeDilution_of_not_missing hq] at h
    exact .inr ⟨hq, (Except.error.inj h).symm⟩

/-- `compute_dilution` answers exactly when one quantity is missing and the one it divides
by is positive, and then solves the equation for it. -/
theorem computeDilution_contract (params : Json α) :
    ((∃ j, computeDilution params = .ok j) ↔
      ∃ q : Quantity, (∀ p, (params.getF64 p.param).isSome ↔ p ≠ q) ∧
        ∃ d, params.getF64 q.divisor.param = some d ∧ 0 < d) ∧
    ∀ j, computeDilution params = .ok j →
      ∃ q : Quantity, params.getF64 q.param = none ∧
        (∀ p, p ≠ q → j.getF64 p.key = params.getF64 p.param) ∧
        j.get "solved_for" = some (.string q.label) ∧
        ∃ c1 v1 c2 v2, j.getF64 "c1" = some c1 ∧ j.getF64 "v1" = some v1 ∧
          j.getF64 "c2" = some c2 ∧ j.getF64 "v2" = some v2 ∧ c1 * v1 = c2 * v2 := by
  refine ⟨⟨fun ⟨j, hj⟩ => ?_, fun ⟨q, H, d, hd, hpos⟩ => ?_⟩, fun j hj => ?_⟩
  · obtain ⟨q, f, hf, hpos, -⟩ := computeDilution_eq_ok hj
    exact ⟨q, missing_of_reads hf, f q.divisor, by rw [hf, if_neg q.divisor_ne], hpos⟩
  · obtain ⟨f, hf⟩ := exists_reads_of_missing H
    rw [hf, if_neg q.divisor_ne, Option.some.injEq] at hd
    rw [computeDilution_of_reads hf, if_neg (hd ▸ hpos.not_le)]
    exact ⟨_, rfl⟩
  · obtain ⟨q, f, hf, hpos, rfl⟩ := computeDilution_eq_ok hj
    refine ⟨q, by rw [hf, if_pos rfl], fun p hpq => ?_, rfl, _, _, _, _, rfl, rfl, rfl, rfl,
      Quantity.solved_eq hpos.ne'⟩
    rw [dilutionResult_key (q.solved f), hf p, if_neg hpq, Quantity.solved, if_neg hpq]

def molarityResult (mass mw vol : α) : Json α :=
  let moles := mass / mw
  let molarity := moles / vol
  .object [("mass_grams", .number mass), ("molecular_weight", .number mw),
    ("volume_liters", .number vol), ("moles", .number moles),
    ("molarity_mol_per_l", .number molarity),
    ("molarity_mmol_per_l", .number (molarity * 1000.0)),
    ("formula", .string "M = (mass / MW) / volume")]

def computeMolarity (params : Json α) : Except ToolError (Json α) := do
  let some mass := params.getF64 "mass_grams"
    | throw (.invalidParameters "'mass_grams' required for molarity")
  let some mw := params.getF64 "molecular_weight"
    | throw (.invalidParameters "'molecular_weight' required for molarity")
  let some vol := params.getF64 "volume_liters"
    | throw (.invalidParameters "'volume_liters' required for molarity")
  if mw ≤ 0.0 then throw (.invalidParameters "molecular_weight must be > 0")
  if vol ≤ 0.0 then throw (.invalidParameters "volume_liters must be > 0")
  return molarityResult mass mw vol

section MolarityResult

variable (mass mw vol : α)

@[simp] theorem molarityResult_moles :
    (molarityResult mass mw vol).getF64 "moles" = some (mass / mw) := rfl
@[simp] theorem molarityResult_mol_per_l :
    (molarityResult mass mw vol).getF64 "molarity_mol_per_l" = some (mass / mw / vol) := rfl
@[simp] theorem molarityResult_mmol_per_l :
    (molarityResult mass mw vol).getF64 "molarity_mmol_per_l" = some (mass / mw / vol * 1000.0) :=
  rfl

end MolarityResult

theorem computeMolarity_eq_ok_iff {params j : Json α} :
    computeMolarity params = .ok j ↔
      ∃ mass mw vol, params.getF64 "mass_grams" = some mass ∧
        params.getF64 "molecular_weight" = some mw ∧ params.getF64 "volume_liters" = some vol ∧
        0 < mw ∧ 0 < vol ∧ j = molarityResult mass mw vol := by
  unfold computeMolarity
  rcases params.getF64 "mass_grams" with _ | mass <;>
    rcases params.getF64 "molecular_weight" with _ | mw <;>
    rcases params.getF64 "volume_liters" with _ | vol <;> simp
  by_cases hmw : mw ≤ 0 <;> by_cases hvol : vol ≤ 0 <;> simp [hmw, hvol, eq_comm, lt_iff_not_le]

/-- Every refusal of `compute_molarity` names the field it checked. -/
theorem computeMolarity_eq_error {params : Json α} {e : ToolError}
    (h : computeMolarity params = .error e) :
    (∃ field ∈ ["mass_grams", "molecular_weight", "volume_liters"], params.getF64 field = none ∧
      e = .invalidParameters ("'" ++ field ++ "' required for molarity")) ∨
    ∃ field ∈ ["molecular_weight", "volume_liters"], ∃ x, params.getF64 field = some x ∧ x ≤ 0 ∧
      e = .invalidParameters (field ++ " must be > 0") := by
  unfold computeMolarity at h
  rcases hm : params.getF64 "mass_grams" with _ | mass
  · rw [hm] at h
    exact .inl ⟨_, List.mem_cons_self _ _, hm, (Except.error.inj h).symm⟩
  rcases hw : params.getF64 "molecular_weight" with _ | mw
  · rw [hm, hw] at h
    exact .inl ⟨_, by simp, hw, (Except.error.inj h).symm⟩
  rcases hv : params.getF64 "volume_liters" with _ | vol
  · rw [hm, hw, hv] at h
    exact .inl ⟨_, by simp, hv, (Except.error.inj h).symm⟩
  rw [hm, hw, hv] at h
  by_cases hmw : mw ≤ 0
  · simp only [ofScientific_zero, hmw, ↓reduceIte, except_throw, except_bind_error] at h
    exact .inr ⟨_, List.mem_cons_self _ _, mw, hw, hmw, (Except.error.inj h).symm⟩
  by_cases hvol : vol ≤ 0
  · simp only [ofScientific_zero, hmw, hvol, ↓reduceIte, except_throw, except_bind_error] at h
    exact .inr ⟨_, by simp, vol, hv, hvol, (Except.error.inj h).symm⟩
  simp [ofScientific_zero, hmw, hvol] at h

end Ironclaw.Solvers
