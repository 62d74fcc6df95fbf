import Intertemporal.Model.Session

/-!
# Evaluation along a trajectory

A trajectory gives the series of a model over many dates, as an array with a row for every date or
as a table with named columns. An equation is evaluated at any of its dates at which the window of
the model fits into the trajectory; elsewhere its residual is undefined.
-/

namespace Intertemporal

/-- The values of series over several dates. -/
inductive Trajectory (α : Type)
  /-- Rows with an entry for every series of the model. -/
  | array (rows : Datum α)
  /-- Labelled rows with an entry for every named column, in which missing entries are undefined. -/
  | table (columns labels : List String) (rows : List (List (Datum α)))

namespace Trajectory

variable {α : Type}

/-- A label as a number of the same kind as other labels that are no integers. -/
def label? [Scalar α] : Datum α → Option α
  | .integer value => Scalar.ofInt? value
  | .number value => some value
  | .missing => some Scalar.undefined
  | _ => none

/-- The texts of labels. Integers are shown as they are if there are no other numbers among the
labels, and like those otherwise. -/
def labelTexts [Scalar α] [Numeral α] (labels : List (Datum α)) : List String :=
  let isWhole (label : Datum α) : Bool := label matches .integer _
  let isKnown (label : Datum α) : Bool := label matches .integer _ | .number _
  match labels.mapM label? with
  | some numbers =>
    if labels.any isKnown && !labels.all isWhole then numbers.map Numeral.exact
    else labels.map Datum.display
  | none => labels.map Datum.display

/-- The labels of rows that have none: their numbers, from zero on. -/
def rowNumbers (count : Nat) : List (Datum α) :=
  (List.range count).map fun (row : Nat) => .integer row

/-- The trajectory in a table. Rows may end early, but the longest of them ends with the columns,
and every row has a label. -/
def ofTable [Scalar α] [Numeral α] (columns : List String) (labels : List (Datum α))
    (rows : List (List (Datum α))) : Except ConversionError (Trajectory α) :=
  let longest := (rows.map List.length).max?.getD columns.length
  if longest = columns.length ∧ labels.length = rows.length then
    .ok (.table columns (labelTexts labels) rows)
  else .error .ragged

/-- The labels at some dates, at all of them if none are given. -/
def labelsAt (trajectory : Trajectory α) (dates : Option (List Int)) : List String :=
  match trajectory, dates with
  | .array _, _ => []
  | .table _ labels _, none => labels
  | .table _ labels _, some dates => dates.map fun date => labels.getD date.toNat ""

variable [Scalar α]

/-- The places in which a list has an item. -/
def placesOf (items : List String) (item : String) : List Nat :=
  (List.range items.length).filter fun place => items[place]? == some item

/-- The cells of a row in the given places. -/
def rowCells (places : List Nat) (row : List (Datum α)) : Except ConversionError (List α) :=
  places.mapM fun place => (row.getD place .missing).toElement

/-- The values of the named series, with a row for every date. -/
def toArray (names : List String) : Trajectory α → Except (Error α) (NumberArray α)
  | .array datum => do
    let array ← datum.toArray.mapError .conversion
    if array.shape.length = 2 ∧ array.columns = names.length then .ok array
    else .error (.trajectoryShape names.length array.sizes)
  | .table columns _ rows => do
    let missing := names.filter fun name => !columns.contains name
    if !missing.isEmpty then .error (.missingColumns missing)
    let places := names.flatMap (placesOf columns)
    let found ← (rows.mapM (rowCells places)).mapError .conversion
    .ok (.ofRows places.length found)

end Trajectory

namespace Session

variable {α : Type} [Scalar α]

/-- The rows of a trajectory that form the window about a date, if it fits. An end below zero counts
from the end of the trajectory. -/
def window (horizon : Horizon) (rows : Nat) (date : Int) : Option (List Nat) :=
  let first := date - horizon.lags
  let stop := date + horizon.leads + 1
  if 0 ≤ first ∧ stop ≤ rows then
    let stop := if stop < 0 then stop + rows else stop
    some ((List.range rows).filter fun (row : Nat) => first ≤ row ∧ (row : Int) < stop)
  else none

/-- The entries of a window that references name. -/
def windowInputs (data : NumberArray α) (horizon : Horizon) (rows : List Nat)
    (references : List (TimedVariable × Nat)) : Except ComputationError (List α) :=
  references.mapM fun (reference, column) =>
    match (position? rows.length (horizon.lags + reference.offset)).bind (rows[·]?) with
    | none => .error .missingInput
    | some row =>
      match data.get? row column with
      | some value => .ok value
      | none => .error .missingInput

/-- The residual of an equation at a date of a trajectory. -/
def residualAt (form : EquationForm α) (data : NumberArray α) (horizon : Horizon)
    (references : List (TimedVariable × Nat)) (date : Int) : SessionAction α α := do
  match window horizon (data.shape.headD 0) date with
  | none => pure Scalar.undefined
  | some rows =>
    let inputs ← ofExcept .computation (windowInputs data horizon rows references)
    act (form.residual inputs)

/-- The column of every reference of an equation. Each of them names a row of the window, which has
to be a position in an array. -/
def referenceColumns (names : List String) (horizon : Horizon) (equation : Equation α) :
    Except (Error α) (List (TimedVariable × Nat)) := do
  let references := equation.references.series
  if !references.all fun reference => NumberArray.isPosition (horizon.lags + reference.offset) then
    throw (.conversion .overflow)
  references.mapM fun reference =>
    match names.idxOf? reference.name with
    | some column => .ok (reference, column)
    | none => .error .unlisted

/-- The residuals of an equation at dates of a trajectory, at all of them if none are given. -/
def residualsAlong (name : String) (trajectory : Trajectory α) (dates : Option (List Int)) :
    SessionAction α (List α) := do
  let model ← theModel
  let equation ← ofExcept (fun reason => reason) (model.equation name)
  let data ← ofExcept (fun reason => reason) (trajectory.toArray model.columns)
  let rows := data.shape.headD 0
  let dates := dates.getD ((List.range rows).map Int.ofNat)
  if dates.any fun date => date < 0 || (rows : Int) ≤ date then throw (.rowsOutOfRange rows)
  let references ← ofExcept (fun reason => reason)
    (referenceColumns model.columns model.horizon equation)
  let form ← act (EquationForm.ofEquation model.steadyState model.options.tolerance equation)
  act (form.bind model.calibration)
  dates.mapM (residualAt form data model.horizon references)

end Session

end Intertemporal
