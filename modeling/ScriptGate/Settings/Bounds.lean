import ScriptGate.Json.Basic
import ScriptGate.Number.Binary
import ScriptGate.Number.Literal

/-! # Numbers within bounds

A numeric setting may be given as a value of any kind. One that is a whole number, or can be read as
one, is moved into the bounds of the setting; any other value stands for the fallback. The one value
that is refused is an infinity. -/

namespace ScriptGate.Settings

/-- The bounds of a number, and the number to use when none is given. -/
structure Bounds where
  /-- The number to use when none is given. -/
  fallback : Int
  least : Int
  most : Int
deriving DecidableEq, Repr

/-- Why a value gives no number. -/
inductive NumberError where
  | infinite
deriving DecidableEq, Repr

def NumberError.message : NumberError → String
  | .infinite => "cannot convert float infinity to integer"

/-- The whole number that a value can be read as, if any. A fraction is cut off, and a truth value
counts as one or zero. -/
def readWhole? : Json → Except NumberError (Option Int)
  | .bool value => .ok (some (if value then 1 else 0))
  | .int value => .ok (some value)
  | .float value =>
    match Number.Binary.ofFloat? value with
    | some number => .ok (some number.truncate)
    | none => if value.isNaN then .ok none else .error .infinite
  | .str text => .ok (Number.readWhole? text.toList)
  | .null | .arr _ | .obj _ => .ok none

namespace Bounds

/-- The number within the bounds that is nearest to a given one. Where the bounds cross, the least
number is taken. -/
def fit (bounds : Bounds) (value : Int) : Int := max bounds.least (min bounds.most value)

def clamp (bounds : Bounds) (value : Json) : Except NumberError Int :=
  (readWhole? value).map fun number => (number.map bounds.fit).getD bounds.fallback

/-- The fallback lies within the bounds. -/
def Ordered (bounds : Bounds) : Prop :=
  bounds.least ≤ bounds.fallback ∧ bounds.fallback ≤ bounds.most

instance (bounds : Bounds) : Decidable bounds.Ordered :=
  inferInstanceAs (Decidable (bounds.least ≤ bounds.fallback ∧ bounds.fallback ≤ bounds.most))

/-- A number lies within the bounds. -/
def Contains (bounds : Bounds) (value : Int) : Prop :=
  bounds.least ≤ value ∧ value ≤ bounds.most

instance (bounds : Bounds) (value : Int) : Decidable (bounds.Contains value) :=
  inferInstanceAs (Decidable (bounds.least ≤ value ∧ value ≤ bounds.most))

/-- Ordered bounds contain every fitted number. -/
theorem contains_fit {bounds : Bounds} (ordered : bounds.Ordered) (value : Int) :
    bounds.Contains (bounds.fit value) := by
  obtain ⟨low, high⟩ := ordered
  unfold Contains fit
  omega

/-- Ordered bounds contain every number that a value stands for. -/
theorem contains_clamp {bounds : Bounds} (ordered : bounds.Ordered) {value : Json} {number : Int}
    (clamped : bounds.clamp value = .ok number) : bounds.Contains number := by
  unfold clamp at clamped
  cases read : readWhole? value with
  | error error => simp [read, Except.map] at clamped
  | ok found =>
    cases found with
    | none =>
      simp only [read, Except.map, Option.map_none, Option.getD_none, Except.ok.injEq] at clamped
      exact clamped ▸ ordered
    | some found =>
      simp only [read, Except.map, Option.map_some, Option.getD_some, Except.ok.injEq] at clamped
      exact clamped ▸ contains_fit ordered found

/-- A number within the bounds. -/
abbrev Member (bounds : Bounds) := { value : Int // bounds.Contains value }

/-- The number within the bounds that a value stands for; without a value, the fallback. -/
def read (bounds : Bounds) (ordered : bounds.Ordered) :
    Option Json → Except NumberError bounds.Member
  | none => .ok ⟨bounds.fallback, ordered⟩
  | some value =>
    match clamped : bounds.clamp value with
    | .ok number => .ok ⟨number, contains_clamp ordered clamped⟩
    | .error error => .error error

end Bounds

end ScriptGate.Settings
