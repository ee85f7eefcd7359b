import Ironclaw.Statistics.Basic
import Ironclaw.Solvers
import Ironclaw.Units

/-!
# The `science_compute` tool

`execute` reads `operation` and hands the whole parameter object to one of five
computations; the `ToolOutput` it wraps the answer in also carries the elapsed
time, which the model leaves out. A computation's `ToolError` passes through
unchanged, and so does a panic of `compute_statistics`.
-/

namespace Ironclaw.Compute

open Statistics Solvers Units

variable {α : Type} [LinearOrderedField α]

/-- One arm of `lookup_constant`: its spellings, value, unit and description. -/
structure ConstantArm (α : Type) where
  spellings : List String
  value : α
  unit : String
  description : String

def constantArms : List (ConstantArm α) := [
  ⟨["avogadro", "na"], 6.02214076e23, "mol⁻¹", "Avogadro's number"⟩,
  ⟨["boltzmann", "kb"], 1.380649e-23, "J/K", "Boltzmann constant"⟩,
  ⟨["planck", "h"], 6.62607015e-34, "J·s", "Planck constant"⟩,
  ⟨["hbar", "reduced_planck"], 1.054571817e-34, "J·s", "Reduced Planck constant (ℏ)"⟩,
  ⟨["gas_constant", "r"], 8.314462618, "J/(mol·K)", "Universal gas constant"⟩,
  ⟨["speed_of_light", "c"], 2.99792458e8, "m/s", "Speed of light in vacuum"⟩,
  ⟨["faraday", "f"], 96485.33212, "C/mol", "Faraday constant"⟩,
  ⟨["electron_mass", "me"], 9.1093837015e-31, "kg", "Electron mass"⟩,
  ⟨["proton_mass", "mp"], 1.67262192369e-27, "kg", "Proton mass"⟩,
  ⟨["neutron_mass", "mn"], 1.67492749804e-27, "kg", "Neutron mass"⟩,
  ⟨["elementary_charge", "e"], 1.602176634e-19, "C", "Elementary charge"⟩,
  ⟨["gravitational", "g"], 6.67430e-11, "m³/(kg·s²)", "Gravitational constant"⟩,
  ⟨["standard_gravity", "g0"], 9.80665, "m/s²", "Standard acceleration of gravity"⟩,
  ⟨["vacuum_permittivity", "epsilon0"], 8.8541878128e-12, "F/m", "Vacuum permittivity (ε₀)"⟩,
  ⟨["vacuum_permeability", "mu0"], 1.25663706212e-6, "H/m", "Vacuum permeability (μ₀)"⟩,
  ⟨["stefan_boltzmann", "sigma"], 5.670374419e-8, "W/(m²·K⁴)", "Stefan–Boltzmann constant"⟩,
  ⟨["water_molar_mass"], 18.01528, "g/mol", "Molar mass of water"⟩]

def lookupConstant (toLowercase : String → String) (params : Json α) :
    Except ToolError (Json α) := do
  let name ← requireStr params "constant"
  match constantArms.find? (·.spellings.contains (toLowercase name)) with
  | some arm =>
    return .object [("name", .string arm.description), ("symbol", .string name),
      ("value", .number arm.value), ("unit", .string arm.unit)]
  | none => throw (.invalidParameters ("unknown constant: '" ++ name ++ "'. Available: " ++
      "avogadro, boltzmann, planck, hbar, gas_constant, speed_of_light, faraday, " ++
      "electron_mass, proton_mass, neutron_mass, elementary_charge, gravitational, " ++
      "standard_gravity, vacuum_permittivity, vacuum_permeability, stefan_boltzmann, " ++
      "water_molar_mass"))

variable [FloorSemiring α]

/-- `ScienceComputeTool::execute`, up to the `ToolOutput` around the answer. -/
def execute (sqrt : α → α) (toLowercase : String → String) (params : Json α) :
    Except Fault (Json α) := do
  let operation ← (requireStr params "operation").mapError .toolError
  match operation with
  | "statistics" => StatisticsResult.toJson <$> computeStatistics sqrt params
  | "unit_convert" => (computeUnitConversion toLowercase params).mapError .toolError
  | "constants" => (lookupConstant toLowercase params).mapError .toolError
  | "dilution" => (computeDilution params).mapError .toolError
  | "molarity" => (computeMolarity params).mapError .toolError
  | _ => throw (.toolError (.invalidParameters ("unknown operation: '" ++ operation ++
      "'. Use 'statistics', 'unit_convert', 'constants', 'dilution', or 'molarity'")))

theorem execute_of_operation_molarity (sqrt : α → α) (toLowercase : String → String)
    {params : Json α} (hop : params.get "operation" = some (.string "molarity")) :
    execute sqrt toLowercase params = (computeMolarity params).mapError .toolError := by
  rw [execute, requireStr_eq_ok.mpr hop]
  rfl

/-- With operation `molarity`, `execute` answers exactly when mass, weight and volume are
numbers and the weight and the volume are positive, whatever the sign of the mass; the
answer holds the moles and the molarity of the formula. -/
theorem execute_molarity_contract (sqrt : α → α) (toLowercase : String → String)
    (params : Json α) (hop : params.get "operation" = some (.string "molarity")) :
    ((∃ j, execute sqrt toLowercase params = .ok j) ↔
      ∃ mass mw vol, params.getF64 "mass_grams" = some mass ∧
        params.getF64 "molecular_weight" = some mw ∧ params.getF64 "volume_liters" = some vol ∧
        0 < mw ∧ 0 < vol) ∧
    ∀ j, execute sqrt toLowercase params = .ok j →
      ∃ mass mw vol moles molarity mmol, params.getF64 "mass_grams" = some mass ∧
        params.getF64 "molecular_weight" = some mw ∧ params.getF64 "volume_liters" = some vol ∧
        j.getF64 "moles" = some moles ∧ j.getF64 "molarity_mol_per_l" = some molarity ∧
        j.getF64 "molarity_mmol_per_l" = some mmol ∧
        moles = mass / mw ∧ molarity * vol = moles ∧ mmol = 1000 * molarity := by
  simp only [execute_of_operation_molarity sqrt toLowercase hop, except_mapError_eq_ok,
    computeMolarity_eq_ok_iff]
  refine ⟨⟨fun ⟨_, m, w, v, h1, h2, h3, hw, hv, _⟩ => ⟨m, w, v, h1, h2, h3, hw, hv⟩,
    fun ⟨m, w, v, h1, h2, h3, hw, hv⟩ => ⟨_, m, w, v, h1, h2, h3, hw, hv, rfl⟩⟩, ?_⟩
  rintro _ ⟨m, w, v, h1, h2, h3, -, hv, rfl⟩
  exact ⟨m, w, v, _, _, _, h1, h2, h3, molarityResult_moles m w v,
    molarityResult_mol_per_l m w v, molarityResult_mmol_per_l m w v, rfl,
    div_mul_cancel₀ _ hv.ne', by norm_num [mul_comm]⟩

theorem execute_molarity_contract_test :
    let params : Json ℚ := .object [("operation", .string "molarity"),
      ("mass_grams", .number 58.44), ("molecular_weight", .number 58.44),
      ("volume_liters", .number 1)]
    params.get "operation" = some (.string "molarity") ∧
      ∃ j, execute (fun x => x) (fun s => s) params = .ok j := by
  intro params
  exact ⟨rfl, (execute_molarity_contract _ _ params rfl).1.mpr
    ⟨58.44, 58.44, 1, rfl, rfl, rfl, by norm_num, one_pos⟩⟩

/-- A negative mass passes: the call succeeds with a negative amount and concentration. -/
theorem execute_molarity_negative_mass :
    let params : Json ℚ := .object [("operation", .string "molarity"),
      ("mass_grams", .number (-1)), ("molecular_weight", .number 1), ("volume_liters", .number 1)]
    ∃ j, execute (fun x => x) (fun s => s) params = .ok j ∧ j.getF64 "moles" = some (-1) ∧
      j.getF64 "molarity_mol_per_l" = some (-1) ∧
      j.getF64 "molarity_mmol_per_l" = some (-1000) := by
  intro params
  refine ⟨_, (@execute_of_operation_molarity ℚ _ _ _ _ params rfl).trans
    (except_mapError_eq_ok.mpr
      (computeMolarity_eq_ok_iff.mpr ⟨-1, 1, 1, rfl, rfl, rfl, one_pos, one_pos, rfl⟩)), ?_⟩
  norm_num [molarityResult_moles, molarityResult_mol_per_l, molarityResult_mmol_per_l]

end Ironclaw.Compute
