import Intertemporal.Datum
import Intertemporal.Program.Basic
import Intertemporal.Table

/-!
# Calibrations

A calibration gives parameters their values: numbers, vectors, or nothing yet. Every change is
stamped with a revision that no calibration has had before. Compiled equations keep copies of the
values that they use and look at the revision to know whether the copies are current.
-/

namespace Intertemporal

/-- Parameter values with the stamp of their last change. -/
structure Calibration (α : Type) where
  values : Table String (Option (ParameterValue α)) := {}
  revision : Nat

/-- A parameter that an equation needs has no value. -/
structure MissingValue where
  parameter : String
deriving DecidableEq, Repr

/-- The wording of the error. -/
def MissingValue.message (missing : MissingValue) : String :=
  "Parameter '" ++ missing.parameter ++ "' has no value"

/-- A parameter that a calibration does not know. -/
structure NotCalibrated where
  parameter : String
deriving DecidableEq, Repr

/-- The wording of the error, also in reports on a whole calibration. -/
def NotCalibrated.message (unknown : NotCalibrated) : String :=
  "Parameter '" ++ unknown.parameter ++ "' not calibrated"

/-- Why an element of a vector parameter cannot be replaced. -/
inductive ElementError
  | missingParameter
  | notAVector
  | missingElement
  | conversion (reason : ConversionError)
deriving DecidableEq, Repr

namespace Calibration

variable {α : Type}

section Conversion

variable [Scalar α]

/-- The value of a parameter that a datum stands for: a number, or a vector if it is a list. -/
def coerce (parameter : String) (datum : Datum α) :
    Except ConversionError (Option (ParameterValue α)) :=
  match datum with
  | .missing => .ok none
  | .sequence items => do
    let array ← (Datum.sequence items).toArray
    if array.shape.length = 1 then .ok (some (.vector array.entries))
    else .error (.notAVector parameter)
  | other => do
    let scalar ← other.toScalar
    .ok (some (.scalar scalar))

/-- Store values one after another, up to the first that cannot be converted. -/
def store (values : Table String (Option (ParameterValue α))) :
    List (String × Datum α) →
      Table String (Option (ParameterValue α)) × Except ConversionError Unit
  | [] => (values, .ok ())
  | (parameter, datum) :: rest =>
    match coerce parameter datum with
    | .ok value => store (values.insert parameter value) rest
    | .error reason => (values, .error reason)

/-- The calibration with the given values. -/
def ofPairs (pairs : List (String × Datum α)) (revision : Nat) :
    Except ConversionError (Calibration α) :=
  match store {} pairs with
  | (values, .ok ()) => .ok { values, revision }
  | (_, .error reason) => .error reason

/-- Set several parameters with one change of the revision. When a value cannot be converted, the
ones before it are set and the revision stays. -/
def set (calibration : Calibration α) (pairs : List (String × Datum α)) (revision : Nat) :
    Calibration α × Except ConversionError Unit :=
  match store calibration.values pairs with
  | (values, .ok ()) => ({ values, revision }, .ok ())
  | (values, .error reason) => ({ calibration with values }, .error reason)

end Conversion

/-- The same values under a new revision. -/
def copy (calibration : Calibration α) (revision : Nat) : Calibration α :=
  { calibration with revision }

/-- The value of a parameter, which may be missing although the parameter is known. -/
def value (calibration : Calibration α) (parameter : String) :
    Except NotCalibrated (Option (ParameterValue α)) :=
  match calibration.values.get? parameter with
  | some value => .ok value
  | none => .error ⟨parameter⟩

/-- The value in the form that equations are evaluated with. -/
def evaluationValue (calibration : Calibration α) (parameter : String) :
    Except MissingValue (ParameterValue α) :=
  match calibration.values.get? parameter with
  | some (some value) => .ok value
  | _ => .error ⟨parameter⟩

/-- Replace one element of a vector parameter without a change of the revision. -/
def setElement [Scalar α] (calibration : Calibration α) (parameter : String) (index : Int)
    (datum : Datum α) : Except ElementError (Calibration α) :=
  match calibration.values.get? parameter with
  | some (some (.vector values)) =>
    match position? values.length index with
    | some position => do
      let value ← datum.toElement.mapError .conversion
      let changed := some (.vector (values.set position value))
      .ok { calibration with values := calibration.values.insert parameter changed }
    | none => .error .missingElement
  | some _ => .error .notAVector
  | none => .error .missingParameter

/-- The parameters among the given ones that have no value. -/
def missing (calibration : Calibration α) (parameters : List String) : List NotCalibrated :=
  (parameters.filter fun parameter =>
    match calibration.values.get? parameter with
    | some (some _) => false
    | _ => true).map NotCalibrated.mk

/-- A parameter value as summaries show it. -/
def valueText [Numeral α] : Option (ParameterValue α) → String
  | none => "None"
  | some (.scalar value) => Numeral.exact value
  | some (.vector values) => "[" ++ " ".intercalate (values.map Numeral.exact) ++ "]"

/-- All values, sorted by parameter. -/
def text [Numeral α] (calibration : Calibration α) : String :=
  let sorted := calibration.values.entries.mergeSort fun left right => !decide (right.1 < left.1)
  "\n".intercalate
    ("Calibration:" :: sorted.map fun entry => "  " ++ entry.1 ++ " = " ++ valueText entry.2)

end Calibration

end Intertemporal
