import Mathlib.Data.List.Basic

/-!
# Requirements gating for skills

`check_requirements_sync` runs seven loops of one shape: for each entry of a
requirement list it asks the machine whether the entry is present and, if not,
pushes a message naming it, onto `failures` for the four required lists and
onto `warnings` for the three optional ones. The machine is an `Environment`
whose answers are fixed for the call. Only the failures decide `passed`.
-/

namespace Ironclaw.Gating

/-- The fields of `GatingRequirements` (declared in `skills/mod.rs`) that the checks read. -/
structure GatingRequirements where
  bins : List String := []
  env : List String := []
  config : List String := []
  pythonPackages : List String := []
  optionalBins : List String := []
  optionalEnv : List String := []
  optionalConfig : List String := []

structure GatingResult where
  passed : Bool
  failures : List String
  warnings : List String

/-- The machine's answers: `which`, `std::env::var`, `Path::exists`, and the lines of
`pip list --format=freeze` (`none` when it cannot run). -/
structure Environment where
  binaryExists : String → Bool
  envVarSet : String → Bool
  pathExists : String → Bool
  pipFreeze : String → Option (List String)

def pythonPackageExists (toLowercase : String → String) (env : Environment)
    (packageName : String) : Bool :=
  let pythonCmd :=
    if env.binaryExists "python3" then some "python3"
    else if env.binaryExists "python" then some "python" else none
  match pythonCmd.bind env.pipFreeze with
  | none => false
  | some lines =>
    let searchName := toLowercase packageName
    lines.any fun line =>
      let lineLower := toLowercase line
      lineLower.startsWith searchName &&
        (lineLower.length == searchName.length ||
          (lineLower.drop searchName.length).startsWith "==")

/-- One check loop: `for item in items { if !present(item) { out.push(message + item) } }`. -/
def checkEach (present : String → Bool) (message : String) (items : List String)
    (out : List String) : List String :=
  items.foldl (fun out item => if present item then out else out ++ [message ++ item]) out

def checkRequirementsSync (toLowercase : String → String) (env : Environment)
    (requirements : GatingRequirements) : GatingResult :=
  let failures := checkEach env.binaryExists "required binary not found: " requirements.bins []
  let failures := checkEach env.envVarSet "required env var not set: " requirements.env failures
  let failures :=
    checkEach env.pathExists "required config not found: " requirements.config failures
  let failures := checkEach (pythonPackageExists toLowercase env)
    "required Python package not installed: " requirements.pythonPackages failures
  let warnings :=
    checkEach env.binaryExists "optional binary not found: " requirements.optionalBins []
  let warnings :=
    checkEach env.envVarSet "optional env var not set: " requirements.optionalEnv warnings
  let warnings :=
    checkEach env.pathExists "optional config not found: " requirements.optionalConfig warnings
  { passed := failures.isEmpty, failures := failures, warnings := warnings }

inductive JoinFailure
  | panicked (text : String)
  | cancelled (text : String)
  | failed (text : String)

def checkRequirements (toLowercase : String → String) (env : Environment)
    (requirements : GatingRequirements) (join : Option JoinFailure) : GatingResult :=
  match join with
  | none => checkRequirementsSync toLowercase env requirements
  | some failure =>
    let message := match failure with
      | .panicked text => "gating check panicked: " ++ text
      | .cancelled text => "gating check task was cancelled: " ++ text
      | .failed text => "gating check failed to join: " ++ text
    { passed := false, failures := [message], warnings := [] }

theorem checkEach_eq (present : String → Bool) (message : String) (items out : List String) :
    checkEach present message items out =
      out ++ (items.filter fun item => !present item).map (message ++ ·) := by
  induction items generalizing out with
  | nil => simp [checkEach]
  | cons item items ih =>
    unfold checkEach at ih ⊢
    by_cases h : present item <;> simp [h, ih]

theorem missing_eq_nil_iff {present : String → Bool} {message : String} {items : List String} :
    (items.filter fun item => !present item).map (message ++ ·) = [] ↔
      ∀ item ∈ items, present item := by
  simp [List.filter_eq_nil_iff]

def RequirementsMet (toLowercase : String → String) (env : Environment)
    (r : GatingRequirements) : Prop :=
  (∀ bin ∈ r.bins, env.binaryExists bin) ∧ (∀ var ∈ r.env, env.envVarSet var) ∧
    (∀ path ∈ r.config, env.pathExists path) ∧
    ∀ package ∈ r.pythonPackages, pythonPackageExists toLowercase env package

theorem checkRequirementsSync_passed_iff (toLowercase : String → String) (env : Environment)
    (r : GatingRequirements) :
    (checkRequirementsSync toLowercase env r).passed = true ↔ RequirementsMet toLowercase env r := by
  simp only [checkRequirementsSync, checkEach_eq, List.nil_append, List.append_assoc,
    List.isEmpty_iff, List.append_eq_nil, missing_eq_nil_iff, RequirementsMet]

/-- `passed` holds exactly when every required entry is present, and each missing entry
has one message, in the order of the loops. -/
theorem checkRequirementsSync_spec (toLowercase : String → String) (env : Environment)
    (r : GatingRequirements) :
    ((checkRequirementsSync toLowercase env r).passed = true ↔
      RequirementsMet toLowercase env r) ∧
    (checkRequirementsSync toLowercase env r).failures =
      (r.bins.filter (!env.binaryExists ·)).map ("required binary not found: " ++ ·) ++
      (r.env.filter (!env.envVarSet ·)).map ("required env var not set: " ++ ·) ++
      (r.config.filter (!env.pathExists ·)).map ("required config not found: " ++ ·) ++
      (r.pythonPackages.filter (!pythonPackageExists toLowercase env ·)).map
        ("required Python package not installed: " ++ ·) ∧
    (checkRequirementsSync toLowercase env r).warnings =
      (r.optionalBins.filter (!env.binaryExists ·)).map ("optional binary not found: " ++ ·) ++
      (r.optionalEnv.filter (!env.envVarSet ·)).map ("optional env var not set: " ++ ·) ++
      (r.optionalConfig.filter (!env.pathExists ·)).map ("optional config not found: " ++ ·) ∧
    ∀ bins vars paths,
      let r' := { r with optionalBins := bins, optionalEnv := vars, optionalConfig := paths }
      (checkRequirementsSync toLowercase env r').passed =
          (checkRequirementsSync toLowercase env r).passed ∧
        (checkRequirementsSync toLowercase env r').failures =
          (checkRequirementsSync toLowercase env r).failures := by
  refine ⟨checkRequirementsSync_passed_iff toLowercase env r, ?_⟩
  simp only [checkRequirementsSync, checkEach_eq, List.nil_append, List.append_assoc, and_self,
    implies_true]

end Ironclaw.Gating
