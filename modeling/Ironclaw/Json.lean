import Mathlib.Data.List.Basic
import Mathlib.Tactic.NormNum
import Mathlib.Algebra.EuclideanDomain.Field

/-!
# Tool parameters and tool errors

Parameters reach a tool as one `serde_json::Value`. Numbers are kept
abstract in `α`: every theorem about arithmetic instantiates it with an
exact field (ℚ or ℝ) in place of `f64`. A call ends in a value, in a
returned `ToolError`, or in a panic of the Rust code; the last one only
arises from slice indexing in this file, so it carries the length and the
index as the Rust panic message does.
-/

namespace Ironclaw

/-- `serde_json::Value`, with numbers in `α`. -/
inductive Json (α : Type) where
  | null
  | bool (b : Bool)
  | number (x : α)
  | string (s : String)
  | array (items : List (Json α))
  | object (fields : List (String × Json α))

namespace Json

variable {α : Type}

/-- `Value::get(key)`: a field of an object, `None` for every other value. -/
def get : Json α → String → Option (Json α)
  | .object fields, key => fields.lookup key
  | _, _ => none

def asF64 : Json α → Option α
  | .number x => some x
  | _ => none

def asStr : Json α → Option String
  | .string s => some s
  | _ => none

def asArray : Json α → Option (List (Json α))
  | .array items => some items
  | _ => none

@[simp] theorem asF64_number (x : α) : (number x).asF64 = some x := rfl
@[simp] theorem asStr_string (s : String) : (string s : Json α).asStr = some s := rfl
@[simp] theorem asArray_array (items : List (Json α)) : (array items).asArray = some items := rfl

theorem asF64_eq_some_iff {j : Json α} {x : α} : j.asF64 = some x ↔ j = number x := by
  cases j <;> simp [asF64]

/-- `params.get(key).and_then(|v| v.as_f64())`, the way every solver reads a number. -/
def getF64 (params : Json α) (key : String) : Option α := (params.get key).bind asF64

end Json

section ExceptLemmas

variable {ε α β : Type}

@[simp] theorem except_throw (e : ε) : (throw e : Except ε α) = .error e := rfl

@[simp] theorem except_pure (a : α) : (pure a : Except ε α) = .ok a := rfl

@[simp] theorem except_bind_ok (a : α) (f : α → Except ε β) : (Except.ok a >>= f) = f a := rfl

@[simp] theorem except_bind_error (e : ε) (f : α → Except ε β) :
    (Except.error e >>= f) = .error e := rfl

@[simp] theorem except_map_ok (f : α → β) (a : α) : (f <$> Except.ok a : Except ε β) = .ok (f a) :=
  rfl

@[simp] theorem except_map_error (f : α → β) (e : ε) :
    (f <$> Except.error e : Except ε β) = .error e := rfl

@[simp] theorem except_mapError_eq_ok {ε' : Type} {x : Except ε α} {f : ε → ε'} {a : α} :
    x.mapError f = .ok a ↔ x = .ok a := by
  cases x <;> simp [Except.mapError]

theorem except_bind_eq_ok {x : Except ε α} {f : α → Except ε β} {b : β} :
    x >>= f = .ok b ↔ ∃ a, x = .ok a ∧ f a = .ok b := by
  cases x <;> simp

end ExceptLemmas

section Literals

variable {β : Type} [DivisionRing β]

@[simp] theorem ofScientific_zero : (0.0 : β) = 0 := by norm_num
@[simp] theorem ofScientific_one : (1.0 : β) = 1 := by norm_num
@[simp] theorem ofScientific_two : (2.0 : β) = 2 := by norm_num
@[simp] theorem ofScientific_hundred : (100.0 : β) = 100 := by norm_num

end Literals

/-- The variants of `ToolError` that the science tools raise. -/
inductive ToolError where
  | invalidParameters (msg : String)
  | executionFailed (msg : String)
  | externalService (msg : String)
  deriving DecidableEq, Repr

/-- How a call ends without a value: the `Err` it returns, or an index panic. -/
inductive Fault where
  | toolError (e : ToolError)
  | indexOutOfBounds (len index : Nat)
  deriving DecidableEq, Repr

/-- Modelled from the spec: `require_str` lives in the tool interface, outside
this repository's sources; it reads a string parameter and otherwise fails with
`InvalidParameters` naming the parameter. -/
def requireStr {α : Type} (params : Json α) (name : String) : Except ToolError String :=
  match (params.get name).bind Json.asStr with
  | some s => .ok s
  | none => .error (.invalidParameters ("missing '" ++ name ++ "' parameter"))

theorem requireStr_eq_ok {α : Type} {params : Json α} {name s : String} :
    requireStr params name = .ok s ↔ params.get name = some (.string s) := by
  unfold requireStr
  cases h : params.get name with
  | none => simp
  | some j => cases j <;> simp [Json.asStr]

end Ironclaw
