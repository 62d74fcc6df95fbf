import Intertemporal.Calibration
import Intertemporal.Expression.Reading
import Intertemporal.Options.Basic
import Intertemporal.Program.Gradient
import Intertemporal.SteadyState

/-!
# Errors

Every way in which an operation on a model can fail, as a cause with its data. The wording is in
`Error.message` and the messages of the causes it is made of.
-/

namespace Intertemporal

/-- Why an operation on a model failed. -/
inductive Error (α : Type)
  | equation (reason : EquationError α)
  | duplicateSymbol (duplicate : DuplicateSymbol)
  | duplicateEquation (name : String)
  | unknownEquation (name : String)
  | conversion (reason : ConversionError)
  | options (reason : OptionsError α)
  /-- A name that no value can have. -/
  | reservedName (name : String)
  /-- An expression refers to something that is not listed. -/
  | unlisted
  | gradient (reason : GradientError)
  | computation (reason : ComputationError)
  | missingValue (missing : MissingValue)
  /-- An evaluator with parameters is used before it has their values. -/
  | unbound (evaluator : String)
  | unknownTrend (unknown : UnknownTrend)
  | trend (reason : TrendError)
  | pointShape (expected given : List Int)
  /-- A trajectory is no table with the given number of columns. -/
  | trajectoryShape (columns : Nat) (given : List Int)
  | missingColumns (names : List String)
  | rowsOutOfRange (rows : Nat)
  /-- A series of an equation is no column of an evaluation point. -/
  | foreignSeries (name equation : String)
  | outsideWindow (reference : TimedVariable) (equation : String) (lags leads : Int)
  /-- An evaluation point would have a negative size. -/
  | negativeSize
  /-- A result does not fit into the buffer for it. -/
  | shortBuffer
  | steadyStateUnsolved
  | steadyStateSloped
  | tooFewStates (model : String) (rows equations links states : Nat)
  /-- A coefficient belongs to no state. -/
  | missingState (name : String) (offset : Int)
  /-- Evaluation data of a kind that cannot be copied. -/
  | notCopyable
  /-- A pair of a level and a slope has another length. -/
  | trendLength

variable {α : Type} [Numeral α]

/-- Refuse values that are given by a name that no value can have. -/
def Error.checkNames {α β : Type} (values : List (String × β)) : Except (Error α) Unit :=
  if values.any (·.1 == receiverName) then .error (.reservedName receiverName) else .ok ()

/-- Why a model has no linear form. -/
def linearizationMessage (reason : String) : String := "Unable to linearize model: " ++ reason

/-- The wording of an error. Causes that come from a part of the library keep its wording. -/
def Error.message : Error α → String
  | .equation reason => reason.message
  | .duplicateSymbol duplicate => duplicate.message
  | .duplicateEquation name => "Duplicate equation name '" ++ name ++ "'"
  | .unknownEquation name => "No equation named '" ++ name ++ "'"
  | .conversion reason => reason.message
  | .options reason => reason.message
  | .reservedName name => "The name '" ++ name ++ "' is reserved"
  | .unlisted => "An expression refers to something that is not listed"
  | .gradient reason => reason.message
  | .computation _ => "An equation has no value"
  | .missingValue missing => missing.message
  | .unbound evaluator => "Parameters of evaluator '" ++ evaluator ++ "' have not been bound"
  | .unknownTrend unknown => unknown.message
  | .trend (.unknown unknown) => unknown.message
  | .trend (.conversion reason) => reason.message
  | .pointShape expected given =>
    "Evaluation point must have shape " ++ NumberArray.shapeText expected ++ ", got " ++
      NumberArray.shapeText given
  | .trajectoryShape columns given =>
    s!"Trajectory must have shape (T, {columns}), got " ++ NumberArray.shapeText given
  | .missingColumns names => "Trajectory has no column(s) for " ++ Text.quotedList names
  | .rowsOutOfRange rows =>
    "The range specified is out of bounds: rows must lie in 0.." ++ toString ((rows : Int) - 1)
  | .foreignSeries name user =>
    "Variable '" ++ name ++ "' of equation '" ++ user ++ "' is not in the model"
  | .outsideWindow reference user lags leads =>
    "Reference " ++ reference.text ++ " of equation '" ++ user ++
      s!"' is outside the window t-{lags}..t+{leads}"
  | .negativeSize => "An evaluation point would have a negative size"
  | .shortBuffer => "The buffer for the residuals is too short"
  | .steadyStateUnsolved => linearizationMessage "steady state solution is not available"
  | .steadyStateSloped => linearizationMessage "steady state solution has non-zero slope"
  | .tooFewStates model rows equations links states =>
    "First-order form of '" ++ model ++
      s!"' needs {rows} rows ({equations} equations, {links} links) but has only {states} states"
  | .missingState name offset => s!"There is no state for {name} at {offset}"
  | .notCopyable => "Only plain evaluation data can be copied"
  | .trendLength => "A steady state is a level or a level and a slope"

end Intertemporal
