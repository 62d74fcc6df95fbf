import Intertemporal.Datum
import Intertemporal.Table

/-!
# Steady states

The steady state of a series is a linear trend: a level at the reference date and a slope per
period. Values are supplied from outside and marked as solved; shocks are solved at zero from the
start.
-/

namespace Intertemporal

/-- The trend of one series, and whether it is known. -/
structure Trend (α : Type) where
  level : α
  slope : α
  solved : Bool

/-- The value of a trend at a number of periods from the reference date. -/
def Trend.valueAt {α : Type} [Scalar α] (trend : Trend α) (offset : α) : α :=
  trend.level + trend.slope * offset

/-- The trends of the series of a model. -/
abbrev SteadyState (α : Type) := Table String (Trend α)

/-- A series without a trend. -/
structure UnknownTrend where
  name : String
deriving DecidableEq, Repr

/-- The wording of the error. -/
def UnknownTrend.message (unknown : UnknownTrend) : String :=
  "No steady state entry for '" ++ unknown.name ++ "'"

/-- Why the trend of a series cannot be set. -/
inductive TrendError
  | unknown (reason : UnknownTrend)
  | conversion (reason : ConversionError)
deriving DecidableEq, Repr

namespace SteadyState

variable {α : Type} [Scalar α]

/-- Add the trend of a new series at zero. A series that is there already keeps its trend. -/
def register (trends : SteadyState α) (name : String) (solved : Bool) : SteadyState α :=
  trends.insertNew name ⟨Scalar.zero, Scalar.zero, solved⟩

/-- Set the trend of a series. If the slope cannot be converted, the level is set nevertheless. -/
def set (trends : SteadyState α) (name : String) (level slope : Datum α) (solved : Bool) :
    SteadyState α × Except TrendError Unit :=
  match trends.get? name with
  | none => (trends, .error (.unknown ⟨name⟩))
  | some before =>
    match level.toScalar, slope.toScalar with
    | .error reason, _ => (trends, .error (.conversion reason))
    | .ok level, .error reason =>
      (trends.insert name { before with level }, .error (.conversion reason))
    | .ok level, .ok slope => (trends.insert name ⟨level, slope, solved⟩, .ok ())

/-- The trend of a series. -/
def trend (trends : SteadyState α) (name : String) : Except UnknownTrend (Trend α) :=
  match trends.get? name with
  | some trend => .ok trend
  | none => .error ⟨name⟩

/-- Whether every trend is known. -/
def isSolved (trends : SteadyState α) : Bool := trends.values.all (·.solved)

/-- The series whose trends are not known. -/
def unsolved (trends : SteadyState α) : List String :=
  (trends.entries.filter fun entry => !entry.2.solved).map (·.1)

/-- The largest of several scalars, the first of them unless a later one is above it; of none, it is
zero. -/
def largest : List α → α
  | [] => Scalar.zero
  | first :: rest =>
    rest.foldl (fun most value => if Scalar.lt most value then value else most) first

/-- The largest absolute slope of the given series. -/
def largestSlope (trends : SteadyState α) (names : List String) : Except UnknownTrend α := do
  let found ← names.mapM trends.trend
  .ok (largest (found.map fun trend => Scalar.abs trend.slope))

/-- The values of one series at several offsets. -/
def window (trends : SteadyState α) (name : String) (offsets : List α) :
    Except UnknownTrend (List α) := do
  let trend ← trends.trend name
  .ok (offsets.map trend.valueAt)

/-- The offsets from a number of lags to a number of leads. -/
def offsetsBetween (lags leads : Int) : List Int :=
  (List.range (lags + leads + 1).toNat).map fun (index : Nat) => (index : Int) - lags

/-- The trends of several series over a window, with a row for every offset. A window with more
dates than an array has positions is refused. -/
def point (trends : SteadyState α) (names : List String) (lags leads : Int) :
    Except TrendError (NumberArray α) := do
  if !NumberArray.isPosition (lags + leads + 1) then
    throw (.conversion (if names.isEmpty then .overflow else .ragged))
  let found ← (names.mapM trends.trend).mapError .unknown
  let rows := (offsetsBetween lags leads).map fun offset =>
    found.map (·.valueAt (Scalar.ofInt offset))
  .ok (.ofRows names.length rows)

/-- All trends, as `level + slope*t`. -/
def text [Numeral α] (trends : SteadyState α) : String :=
  "\n".intercalate ("Steady State:" :: trends.entries.map fun entry =>
    "  " ++ entry.1 ++ " = " ++ Numeral.rounded entry.2.level ++ " + " ++
      Numeral.rounded entry.2.slope ++ "*t" ++ (if entry.2.solved then "" else " (unsolved)"))

end SteadyState

end Intertemporal
