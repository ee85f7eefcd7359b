import Mathlib
import Ironclaw.Json

/-!
# Unit conversion

`convert_units` lowercases both spellings, sends the value to the base unit of
its category with `to_base_unit`, and from there to the target spelling with
`from_base_unit`. Both are one `match` over string alternatives. Each arm is one
row of a table here, in the source's order, and `List.find?` picks the first row
holding the spelling, as the `match` picks its first arm. Lowercasing is the
standard library's `str::to_lowercase`, taken as a parameter.
-/

namespace Ironclaw.Units

variable {α : Type} [LinearOrderedField α]

/-- One arm of `to_base_unit`: its spellings, the base unit it reports, its map. -/
structure ToBaseArm (α : Type) where
  spellings : List String
  base : String
  toBase : α → α

/-- One arm of `from_base_unit`: the base unit and spellings it matches, its map. -/
structure FromBaseArm (α : Type) where
  base : String
  targets : List String
  fromBase : α → α

def toBaseArms : List (ToBaseArm α) := [
  ⟨["m", "meter", "meters"], "m", fun value => value⟩,
  ⟨["km", "kilometer", "kilometers"], "m", fun value => value * 1000.0⟩,
  ⟨["cm", "centimeter", "centimeters"], "m", fun value => value * 0.01⟩,
  ⟨["mm", "millimeter", "millimeters"], "m", fun value => value * 0.001⟩,
  ⟨["um", "micrometer", "micrometers", "micron", "microns"], "m", fun value => value * 1e-6⟩,
  ⟨["nm", "nanometer", "nanometers"], "m", fun value => value * 1e-9⟩,
  ⟨["pm", "picometer", "picometers"], "m", fun value => value * 1e-12⟩,
  ⟨["angstrom", "angstroms", "å"], "m", fun value => value * 1e-10⟩,
  ⟨["in", "inch", "inches"], "m", fun value => value * 0.0254⟩,
  ⟨["ft", "foot", "feet"], "m", fun value => value * 0.3048⟩,
  ⟨["mi", "mile", "miles"], "m", fun value => value * 1609.344⟩,
  ⟨["kg", "kilogram", "kilograms"], "kg", fun value => value⟩,
  ⟨["g", "gram", "grams"], "kg", fun value => value * 0.001⟩,
  ⟨["mg", "milligram", "milligrams"], "kg", fun value => value * 1e-6⟩,
  ⟨["ug", "microgram", "micrograms"], "kg", fun value => value * 1e-9⟩,
  ⟨["ng", "nanogram", "nanograms"], "kg", fun value => value * 1e-12⟩,
  ⟨["lb", "pound", "pounds"], "kg", fun value => value * 0.453592⟩,
  ⟨["oz", "ounce", "ounces"], "kg", fun value => value * 0.0283495⟩,
  ⟨["dalton", "daltons", "da", "amu"], "kg", fun value => value * 1.66053906660e-27⟩,
  ⟨["l", "liter", "liters", "litre", "litres"], "l", fun value => value⟩,
  ⟨["ml", "milliliter", "milliliters"], "l", fun value => value * 0.001⟩,
  ⟨["ul", "microliter", "microliters"], "l", fun value => value * 1e-6⟩,
  ⟨["nl", "nanoliter", "nanoliters"], "l", fun value => value * 1e-9⟩,
  ⟨["gal", "gallon", "gallons"], "l", fun value => value * 3.78541⟩,
  ⟨["k", "kelvin"], "k", fun value => value⟩,
  ⟨["c", "celsius"], "k", fun value => value + 273.15⟩,
  ⟨["f", "fahrenheit"], "k", fun value => (value - 32.0) * 5.0 / 9.0 + 273.15⟩,
  ⟨["s", "sec", "second", "seconds"], "s", fun value => value⟩,
  ⟨["ms", "millisecond", "milliseconds"], "s", fun value => value * 0.001⟩,
  ⟨["us", "microsecond", "microseconds"], "s", fun value => value * 1e-6⟩,
  ⟨["ns", "nanosecond", "nanoseconds"], "s", fun value => value * 1e-9⟩,
  ⟨["min", "minute", "minutes"], "s", fun value => value * 60.0⟩,
  ⟨["h", "hr", "hour", "hours"], "s", fun value => value * 3600.0⟩,
  ⟨["day", "days"], "s", fun value => value * 86400.0⟩,
  ⟨["pa", "pascal", "pascals"], "pa", fun value => value⟩,
  ⟨["kpa", "kilopascal", "kilopascals"], "pa", fun value => value * 1000.0⟩,
  ⟨["bar"], "pa", fun value => value * 100000.0⟩,
  ⟨["atm", "atmosphere", "atmospheres"], "pa", fun value => value * 101325.0⟩,
  ⟨["mmhg", "torr"], "pa", fun value => value * 133.322⟩,
  ⟨["psi"], "pa", fun value => value * 6894.76⟩,
  ⟨["mol/l", "molar", "mol/liter"], "mol/l", fun value => value⟩,
  ⟨["mmol/l", "millimolar"], "mol/l", fun value => value * 0.001⟩,
  ⟨["umol/l", "micromolar"], "mol/l", fun value => value * 1e-6⟩,
  ⟨["nmol/l", "nanomolar"], "mol/l", fun value => value * 1e-9⟩,
  ⟨["j", "joule", "joules"], "j", fun value => value⟩,
  ⟨["kj", "kilojoule", "kilojoules"], "j", fun value => value * 1000.0⟩,
  ⟨["cal", "calorie", "calories"], "j", fun value => value * 4.184⟩,
  ⟨["kcal", "kilocalorie", "kilocalories"], "j", fun value => value * 4184.0⟩,
  ⟨["ev", "electronvolt", "electronvolts"], "j", fun value => value * 1.602176634e-19⟩]

def fromBaseArms : List (FromBaseArm α) := [
  ⟨"m", ["m", "meter", "meters"], fun value => value⟩,
  ⟨"m", ["km", "kilometer", "kilometers"], fun value => value / 1000.0⟩,
  ⟨"m", ["cm", "centimeter", "centimeters"], fun value => value / 0.01⟩,
  ⟨"m", ["mm", "millimeter", "millimeters"], fun value => value / 0.001⟩,
  ⟨"m", ["um", "micrometer", "micrometers", "micron", "microns"], fun value => value / 1e-6⟩,
  ⟨"m", ["nm", "nanometer", "nanometers"], fun value => value / 1e-9⟩,
  ⟨"m", ["pm", "picometer", "picometers"], fun value => value / 1e-12⟩,
  ⟨"m", ["angstrom", "angstroms", "å"], fun value => value / 1e-10⟩,
  ⟨"m", ["in", "inch", "inches"], fun value => value / 0.0254⟩,
  ⟨"m", ["ft", "foot", "feet"], fun value => value / 0.3048⟩,
  ⟨"m", ["mi", "mile", "miles"], fun value => value / 1609.344⟩,
  ⟨"kg", ["kg", "kilogram", "kilograms"], fun value => value⟩,
  ⟨"kg", ["g", "gram", "grams"], fun value => value / 0.001⟩,
  ⟨"kg", ["mg", "milligram", "milligrams"], fun value => value / 1e-6⟩,
  ⟨"kg", ["ug", "microgram", "micrograms"], fun value => value / 1e-9⟩,
  ⟨"kg", ["ng", "nanogram", "nanograms"], fun value => value / 1e-12⟩,
  ⟨"kg", ["lb", "pound", "pounds"], fun value => value / 0.453592⟩,
  ⟨"kg", ["oz", "ounce", "ounces"], fun value => value / 0.0283495⟩,
  ⟨"kg", ["dalton", "daltons", "da", "amu"], fun value => value / 1.66053906660e-27⟩,
  ⟨"l", ["l", "liter", "liters", "litre", "litres"], fun value => value⟩,
  ⟨"l", ["ml", "milliliter", "milliliters"], fun value => value / 0.001⟩,
  ⟨"l", ["ul", "microliter", "microliters"], fun value => value / 1e-6⟩,
  ⟨"l", ["nl", "nanoliter", "nanoliters"], fun value => value / 1e-9⟩,
  ⟨"l", ["gal", "gallon", "gallons"], fun value => value / 3.78541⟩,
  ⟨"k", ["k", "kelvin"], fun value => value⟩,
  ⟨"k", ["c", "celsius"], fun value => value - 273.15⟩,
  ⟨"k", ["f", "fahrenheit"], fun value => (value - 273.15) * 9.0 / 5.0 + 32.0⟩,
  ⟨"s", ["s", "sec", "second", "seconds"], fun value => value⟩,
  ⟨"s", ["ms", "millisecond", "milliseconds"], fun value => value / 0.001⟩,
  ⟨"s", ["us", "microsecond", "microseconds"], fun value => value / 1e-6⟩,
  ⟨"s", ["ns", "nanosecond", "nanoseconds"], fun value => value / 1e-9⟩,
  ⟨"s", ["min", "minute", "minutes"], fun value => value / 60.0⟩,
  ⟨"s", ["h", "hr", "hour", "hours"], fun value => value / 3600.0⟩,
  ⟨"s", ["day", "days"], fun value => value / 86400.0⟩,
  ⟨"pa", ["pa", "pascal", "pascals"], fun value => value⟩,
  ⟨"pa", ["kpa", "kilopascal", "kilopascals"], fun value => value / 1000.0⟩,
  ⟨"pa", ["bar"], fun value => value / 100000.0⟩,
  ⟨"pa", ["atm", "atmosphere", "atmospheres"], fun value => value / 101325.0⟩,
  ⟨"pa", ["mmhg", "torr"], fun value => value / 133.322⟩,
  ⟨"pa", ["psi"], fun value => value / 6894.76⟩,
  ⟨"mol/l", ["mol/l", "molar", "mol/liter"], fun value => value⟩,
  ⟨"mol/l", ["mmol/l", "millimolar"], fun value => value / 0.001⟩,
  ⟨"mol/l", ["umol/l", "micromolar"], fun value => value / 1e-6⟩,
  ⟨"mol/l", ["nmol/l", "nanomolar"], fun value => value / 1e-9⟩,
  ⟨"j", ["j", "joule", "joules"], fun value => value⟩,
  ⟨"j", ["kj", "kilojoule", "kilojoules"], fun value => value / 1000.0⟩,
  ⟨"j", ["cal", "calorie", "calories"], fun value => value / 4.184⟩,
  ⟨"j", ["kcal", "kilocalorie", "kilocalories"], fun value => value / 4184.0⟩,
  ⟨"j", ["ev", "electronvolt", "electronvolts"], fun value => value / 1.602176634e-19⟩]

def supportedUnits : String :=
  "length (m, km, cm, mm, um, nm, pm, angstrom, in, ft, mi), " ++
  "mass (kg, g, mg, ug, ng, lb, oz, dalton), " ++
  "volume (l, ml, ul, nl, gal), " ++
  "temperature (k, c, f), " ++
  "time (s, ms, us, ns, min, h, day), " ++
  "pressure (pa, kpa, bar, atm, mmhg, psi), " ++
  "concentration (mol/l, mmol/l, umol/l, nmol/l), " ++
  "energy (j, kj, cal, kcal, ev)"

def unknownUnit (unit : String) : ToolError :=
  .invalidParameters ("unknown unit: '" ++ unit ++ "'. Supported: " ++ supportedUnits)

def cannotConvert (base target : String) : ToolError :=
  .invalidParameters ("cannot convert from '" ++ base ++ "' base to '" ++ target ++
    "'. Units must be in the same category.")

def toBaseUnit (value : α) (unit : String) : Except ToolError (α × String) :=
  match toBaseArms.find? (·.spellings.contains unit) with
  | some arm => .ok (arm.toBase value, arm.base)
  | none => .error (unknownUnit unit)

def fromBaseUnit (value : α) (base target : String) : Except ToolError α :=
  match fromBaseArms.find? (fun arm => arm.base == base && arm.targets.contains target) with
  | some arm => .ok (arm.fromBase value)
  | none => .error (cannotConvert base target)

def convertUnits (toLowercase : String → String) (value : α) (fromUnit toUnit : String) :
    Except ToolError α := do
  let (baseValue, baseUnit) ← toBaseUnit value (toLowercase fromUnit)
  fromBaseUnit baseValue baseUnit (toLowercase toUnit)

def computeUnitConversion (toLowercase : String → String) (params : Json α) :
    Except ToolError (Json α) := do
  let some value := params.getF64 "value"
    | throw (.invalidParameters "'value' number required for unit_convert")
  let fromUnit ← requireStr params "from_unit"
  let toUnit ← requireStr params "to_unit"
  let result ← convertUnits toLowercase value fromUnit toUnit
  return .object [("input", .number value), ("from_unit", .string fromUnit),
    ("to_unit", .string toUnit), ("result", .number result)]

/-- Arms side by side match the same spellings of the same base unit, through
`v ↦ scale * v + offset` and back, with a positive scale and an offset only for
kelvin. -/
def AffinePair (a : ToBaseArm α) (b : FromBaseArm α) : Prop :=
  a.base = b.base ∧ a.spellings = b.targets ∧
    ∃ scale offset : α, 0 < scale ∧ (a.base ≠ "k" → offset = 0) ∧
      (∀ v, a.toBase v = scale * v + offset) ∧ ∀ x, b.fromBase x = (x - offset) / scale

theorem affinePair_identity (spellings : List String) (base : String) :
    AffinePair ⟨spellings, base, fun value : α => value⟩ ⟨base, spellings, fun value => value⟩ :=
  ⟨rfl, rfl, 1, 0, one_pos, fun _ => rfl, fun v => by ring, fun x => by ring⟩

theorem affinePair_scale (spellings : List String) (base : String) {k : α} (hk : 0 < k) :
    AffinePair ⟨spellings, base, fun value => value * k⟩ ⟨base, spellings, fun value => value / k⟩ :=
  ⟨rfl, rfl, k, 0, hk, fun _ => rfl, fun v => by ring, fun x => by ring⟩

theorem affinePair_celsius :
    AffinePair (α := α) ⟨["c", "celsius"], "k", fun value => value + 273.15⟩
      ⟨"k", ["c", "celsius"], fun value => value - 273.15⟩ :=
  ⟨rfl, rfl, 1, 273.15, one_pos, fun h => absurd rfl h, fun v => by ring, fun x => by ring⟩

theorem affinePair_fahrenheit :
    AffinePair (α := α) ⟨["f", "fahrenheit"], "k", fun value => (value - 32.0) * 5.0 / 9.0 + 273.15⟩
      ⟨"k", ["f", "fahrenheit"], fun value => (value - 273.15) * 9.0 / 5.0 + 32.0⟩ :=
  ⟨rfl, rfl, 5 / 9, 273.15 - 32 * 5 / 9, by norm_num, fun h => absurd rfl h,
    fun v => by ring, fun x => by ring⟩

/-- Every scale of the tables is a decimal literal with a positive mantissa. -/
theorem ofScientific_pos {m : ℕ} (hm : 0 < m) (s : Bool) (e : ℕ) :
    (0 : α) < OfScientific.ofScientific m s e := by
  rw [← Rat.cast_ofScientific, Rat.cast_pos]
  change 0 < Rat.ofScientific m s e
  cases s
  · rw [Rat.ofScientific_false_def]
    exact_mod_cast Nat.mul_pos hm (Nat.pos_pow_of_pos e (by norm_num))
  · rw [Rat.ofScientific_true_def, Rat.mkRat_eq_div]
    exact div_pos (by exact_mod_cast hm) (by positivity)

/-- The two tables agree arm by arm: every arm is the identity, a scaling, or one of
the two temperature arms, with the inverse map beside it. -/
theorem arms_affinePair : List.Forall₂ AffinePair (toBaseArms (α := α)) fromBaseArms := by
  unfold toBaseArms fromBaseArms
  repeat' refine List.Forall₂.cons ?_ ?_
  all_goals first
    | exact List.Forall₂.nil
    | exact affinePair_identity _ _
    | exact affinePair_scale _ _ (ofScientific_pos (by decide) _ _)
    | exact affinePair_celsius
    | exact affinePair_fahrenheit

/-- A spelling as a number, so that the kernel compares numbers rather than string
literals; equal spellings have equal keys, which is all `Nodup.of_map` asks. -/
def spellingKey (s : String) : Nat := s.data.foldl (fun n c => n * 1114112 + c.toNat) 0

def keysDistinct : List Nat → Bool
  | [] => true
  | k :: ks => ks.all (fun k' => !Nat.beq k k') && keysDistinct ks

theorem nodup_of_keysDistinct : ∀ {ks : List Nat}, keysDistinct ks = true → ks.Nodup
  | [], _ => List.nodup_nil
  | k :: ks, h => by
    simp only [keysDistinct, Bool.and_eq_true, List.all_eq_true, Bool.not_eq_true'] at h
    exact List.nodup_cons.mpr
      ⟨fun hk => Bool.false_ne_true ((h.1 k hk).symm.trans (Nat.beq_refl k)),
        nodup_of_keysDistinct h.2⟩

/-- No spelling sits in two arms of `to_base_unit`. -/
theorem spellings_nodup : ((toBaseArms (α := α)).flatMap ToBaseArm.spellings).Nodup := by
  rw [show (toBaseArms (α := α)).flatMap ToBaseArm.spellings =
    (toBaseArms (α := ℚ)).flatMap ToBaseArm.spellings from rfl]
  exact List.Nodup.of_map spellingKey (nodup_of_keysDistinct (by decide))

/-- Both lookups of a spelling, over paired arm tables without a repeated spelling:
rejected by both, or found in one arm of each, the second one only for its own base. -/
theorem find_affinePair {as : List (ToBaseArm α)} {bs : List (FromBaseArm α)}
    (h : List.Forall₂ AffinePair as bs) (hnodup : (as.flatMap ToBaseArm.spellings).Nodup)
    (u : String) :
    (as.find? (·.spellings.contains u) = none ∧
      ∀ b, bs.find? (fun arm => arm.base == b && arm.targets.contains u) = none) ∨
    ∃ a f, u ∈ a.spellings ∧ as.find? (·.spellings.contains u) = some a ∧ AffinePair a f ∧
      ∀ b, bs.find? (fun arm => arm.base == b && arm.targets.contains u) =
        if a.base = b then some f else none := by
  induction h with
  | nil => exact .inl ⟨rfl, fun _ => rfl⟩
  | @cons a f as bs hab _ ih =>
    rw [List.flatMap_cons, List.nodup_append] at hnodup
    have hbase : a.base = f.base := hab.1
    have hsp : a.spellings = f.targets := hab.2.1
    rcases ih hnodup.2.1 with ⟨hto, hfrom⟩ | ⟨a', f', hu', hto', hab', hfrom'⟩
    · by_cases hu : u ∈ a.spellings
      · have hc : f.targets.contains u = true := hsp ▸ List.elem_eq_true_of_mem hu
        refine .inr ⟨a, f, hu, by simp [hu], hab, fun b => ?_⟩
        rw [List.find?_cons, hc, hfrom b, hbase]
        by_cases hb : f.base = b
        · rw [hb, beq_self_eq_true, if_pos rfl]; rfl
        · rw [beq_false_of_ne hb, if_neg hb]; rfl
      · have hc : f.targets.contains u = false := by simpa [← hsp] using hu
        refine .inl ⟨by simpa [hu] using hto, fun b => ?_⟩
        rw [List.find?_cons, hc, Bool.and_false, hfrom b]
    · have hu : u ∉ a.spellings := fun hu =>
        hnodup.2.2 hu (List.mem_flatMap.mpr ⟨a', List.mem_of_find?_eq_some hto', hu'⟩)
      have hc : f.targets.contains u = false := by simpa [← hsp] using hu
      refine .inr ⟨a', f', hu', by simpa [hu] using hto', hab', fun b => ?_⟩
      rw [List.find?_cons, hc, Bool.and_false, hfrom' b]

/-- What the unit tables do with one spelling: reject it both ways, or send it to one
base unit through an affine map and back through its inverse. -/
theorem unit_cases (u : String) :
    ((∀ v : α, toBaseUnit v u = .error (unknownUnit u)) ∧
      ∀ (x : α) b, fromBaseUnit x b u = .error (cannotConvert b u)) ∨
    ∃ base, ∃ scale offset : α, 0 < scale ∧ (base ≠ "k" → offset = 0) ∧
      (∀ v, toBaseUnit v u = .ok (scale * v + offset, base)) ∧
      ∀ x b, fromBaseUnit x b u =
        if base = b then .ok ((x - offset) / scale) else .error (cannotConvert b u) := by
  rcases find_affinePair (arms_affinePair (α := α)) spellings_nodup u with
    ⟨hto, hfrom⟩ | ⟨a, f, -, hto, ⟨hbase, -, scale, offset, hpos, hk, hta, hfb⟩, hfrom⟩
  · exact .inl ⟨fun v => by rw [toBaseUnit, hto], fun x b => by rw [fromBaseUnit, hfrom]⟩
  · refine .inr ⟨a.base, scale, offset, hpos, hk, fun v => by rw [toBaseUnit, hto]; simp only [hta],
      fun x b => ?_⟩
    rw [fromBaseUnit, hfrom]
    by_cases hb : a.base = b
    · rw [if_pos hb, if_pos hb]; simp only [hfb]
    · rw [if_neg hb, if_neg hb]

/-- A spelling that `to_base_unit` sends to `base`, in the affine form of `unit_cases`. -/
theorem affine_of_base {u base : String} {v : α} (h : Prod.snd <$> toBaseUnit v u = .ok base) :
    ∃ scale offset : α, 0 < scale ∧ (∀ v, toBaseUnit v u = .ok (scale * v + offset, base)) ∧
      ∀ x b, fromBaseUnit x b u =
        if base = b then .ok ((x - offset) / scale) else .error (cannotConvert b u) := by
  rcases unit_cases (α := α) u with ⟨hto, -⟩ | ⟨base', scale, offset, hpos, -, hto, hfrom⟩
  · rw [hto] at h
    cases h
  · rw [hto] at h
    cases h
    exact ⟨scale, offset, hpos, hto, hfrom⟩

theorem convertUnits_eq_bind (toLowercase : String → String) (v : α) (A B : String) :
    convertUnits toLowercase v A B =
      toBaseUnit v (toLowercase A) >>= fun p => fromBaseUnit p.1 p.2 (toLowercase B) := rfl

theorem convertUnits_ok_iff (toLowercase : String → String) (v : α) (A B : String) :
    (∃ r, convertUnits toLowercase v A B = .ok r) ↔
      ∃ b, Prod.snd <$> toBaseUnit v (toLowercase A) = .ok b ∧
        Prod.snd <$> toBaseUnit v (toLowercase B) = .ok b := by
  rw [convertUnits_eq_bind]
  rcases unit_cases (α := α) (toLowercase A) with ⟨hA, -⟩ | ⟨bA, sA, oA, -, -, hA, -⟩
  · simp [hA]
  rcases unit_cases (α := α) (toLowercase B) with ⟨hB, hB'⟩ | ⟨bB, sB, oB, -, -, hB, hB'⟩
  · simp [hA, hB, hB']
  · by_cases hb : bB = bA <;> simp [hA, hB, hB', hb, eq_comm]

theorem fromBaseUnit_ok_iff (x : α) (b u : String) :
    (∃ r, fromBaseUnit x b u = .ok r) ↔ Prod.snd <$> toBaseUnit x u = .ok b := by
  rcases unit_cases (α := α) u with ⟨hto, hfrom⟩ | ⟨base, scale, offset, -, -, hto, hfrom⟩
  · simp [hto, hfrom]
  · by_cases hb : base = b <;> simp [hto, hfrom, hb]

theorem convertUnits_self (toLowercase : String → String) (v : α) (A : String) {b : String}
    (hA : Prod.snd <$> toBaseUnit v (toLowercase A) = .ok b) :
    convertUnits toLowercase v A A = .ok v := by
  obtain ⟨s, o, hs, hto, hfrom⟩ := affine_of_base hA
  simp only [convertUnits_eq_bind, hto, except_bind_ok, hfrom, if_pos]
  rw [add_sub_cancel_right, mul_div_cancel_left₀ v hs.ne']

/-- Converting on from an intermediate spelling of the same category is converting
directly: the intermediate affine map cancels. -/
theorem convertUnits_trans (toLowercase : String → String) (v : α) {A B C b : String}
    (hA : Prod.snd <$> toBaseUnit v (toLowercase A) = .ok b)
    (hB : Prod.snd <$> toBaseUnit v (toLowercase B) = .ok b)
    (hC : Prod.snd <$> toBaseUnit v (toLowercase C) = .ok b) :
    (convertUnits toLowercase v A B >>= fun w => convertUnits toLowercase w B C) =
      convertUnits toLowercase v A C := by
  obtain ⟨sA, oA, -, htoA, -⟩ := affine_of_base hA
  obtain ⟨sB, oB, hsB, htoB, hfromB⟩ := affine_of_base hB
  obtain ⟨sC, oC, -, -, hfromC⟩ := affine_of_base hC
  simp only [convertUnits_eq_bind, htoA, htoB, except_bind_ok, hfromB, hfromC, if_pos]
  rw [mul_div_cancel₀ _ hsB.ne', sub_add_cancel]

theorem convertUnits_exact_laws (toLowercase : String → String) (v : α) (A B C : String) :
    ((∃ r, convertUnits toLowercase v A B = .ok r) ↔
      ∃ b, Prod.snd <$> toBaseUnit v (toLowercase A) = .ok b ∧
        Prod.snd <$> toBaseUnit v (toLowercase B) = .ok b) ∧
    (∀ b u, (∃ r, fromBaseUnit v b u = .ok r) ↔ Prod.snd <$> toBaseUnit v u = .ok b) ∧
    ∀ b, Prod.snd <$> toBaseUnit v (toLowercase A) = .ok b →
      Prod.snd <$> toBaseUnit v (toLowercase B) = .ok b →
      Prod.snd <$> toBaseUnit v (toLowercase C) = .ok b →
      convertUnits toLowercase v A A = .ok v ∧
      (convertUnits toLowercase v A B >>= fun w => convertUnits toLowercase w B C) =
        convertUnits toLowercase v A C ∧
      (convertUnits toLowercase v A B >>= fun w => convertUnits toLowercase w B A) = .ok v :=
  ⟨convertUnits_ok_iff toLowercase v A B, fun b u => fromBaseUnit_ok_iff v b u,
    fun _ hA hB hC => ⟨convertUnits_self toLowercase v A hA,
      convertUnits_trans toLowercase v hA hB hC,
      (convertUnits_trans toLowercase v hA hB hA).trans (convertUnits_self toLowercase v A hA)⟩⟩

/-- A conversion within one category is one affine map, `v ↦ k * v + c` with `k > 0`,
the same for every value; only the temperature base `"k"` carries an offset. -/
theorem convertUnits_eq_affine (toLowercase : String → String) {A B base : String} (v₀ : α)
    (hA : Prod.snd <$> toBaseUnit v₀ (toLowercase A) = .ok base)
    (hB : Prod.snd <$> toBaseUnit v₀ (toLowercase B) = .ok base) :
    ∃ k c : α, 0 < k ∧ (base ≠ "k" → c = 0) ∧
      ∀ v, convertUnits toLowercase v A B = .ok (k * v + c) := by
  rcases unit_cases (α := α) (toLowercase A) with ⟨hto, -⟩ | ⟨bA, sA, oA, hsA, hkA, htoA, -⟩
  · rw [hto] at hA
    cases hA
  rcases unit_cases (α := α) (toLowercase B) with ⟨hto, -⟩ | ⟨bB, sB, oB, hsB, hkB, htoB, hfromB⟩
  · rw [hto] at hB
    cases hB
  rw [htoA] at hA
  rw [htoB] at hB
  cases hA
  cases hB
  refine ⟨sA / sB, (oA - oB) / sB, div_pos hsA hsB,
    fun hk => by rw [hkA hk, hkB hk, sub_zero, zero_div], fun v => ?_⟩
  simp only [convertUnits_eq_bind, htoA, except_bind_ok, hfromB, if_pos]
  congr 1
  ring

theorem convertUnits_same_category (toLowercase : String → String) {A B base : String} (v₀ : α)
    (hA : Prod.snd <$> toBaseUnit v₀ (toLowercase A) = .ok base)
    (hB : Prod.snd <$> toBaseUnit v₀ (toLowercase B) = .ok base) :
    (∃ k c : α, 0 < k ∧ (base ≠ "k" → c = 0) ∧
      ∀ v, convertUnits toLowercase v A B = .ok (k * v + c)) ∧
    (∀ v w r s : α, v < w → convertUnits toLowercase v A B = .ok r →
      convertUnits toLowercase w A B = .ok s → r < s) ∧
    (base ≠ "k" → convertUnits toLowercase (0 : α) A B = .ok 0 ∧
      ∀ x v w r s : α, convertUnits toLowercase v A B = .ok r →
        convertUnits toLowercase w A B = .ok s →
        convertUnits toLowercase (x * v + w) A B = .ok (x * r + s)) := by
  obtain ⟨k, c, hk, hc, hconv⟩ := convertUnits_eq_affine toLowercase v₀ hA hB
  refine ⟨⟨k, c, hk, hc, hconv⟩, fun v w r s hvw hr hs => ?_, fun hb => ?_⟩
  · rw [hconv] at hr hs
    cases hr
    cases hs
    exact add_lt_add_right (mul_lt_mul_of_pos_left hvw hk) c
  · simp only [hc hb, add_zero] at hconv
    refine ⟨by rw [hconv, mul_zero], fun x v w r s hr hs => ?_⟩
    rw [hconv] at hr hs ⊢
    cases hr
    cases hs
    rw [mul_add, mul_left_comm]

theorem convertUnits_same_category_km_mi :
    let lower := fun s : String => (⟨s.data.map Char.toLower⟩ : String)
    (Prod.snd <$> toBaseUnit (0 : ℚ) (lower "KM") = .ok "m" ∧
      Prod.snd <$> toBaseUnit (0 : ℚ) (lower "Mile") = .ok "m") ∧
    (∃ k c : ℚ, 0 < k ∧ ("m" ≠ "k" → c = 0) ∧
      ∀ v, convertUnits lower v "KM" "Mile" = .ok (k * v + c)) ∧
    (∀ v w r s : ℚ, v < w → convertUnits lower v "KM" "Mile" = .ok r →
      convertUnits lower w "KM" "Mile" = .ok s → r < s) ∧
    ("m" ≠ "k" → convertUnits lower (0 : ℚ) "KM" "Mile" = .ok 0 ∧
      ∀ x v w r s : ℚ, convertUnits lower v "KM" "Mile" = .ok r →
        convertUnits lower w "KM" "Mile" = .ok s →
        convertUnits lower (x * v + w) "KM" "Mile" = .ok (x * r + s)) :=
  ⟨⟨rfl, rfl⟩, convertUnits_same_category _ 0 rfl rfl⟩

end Ironclaw.Units
