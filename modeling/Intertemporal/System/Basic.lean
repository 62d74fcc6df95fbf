import Intertemporal.Model.Basic
import Intertemporal.System.EquationForm
import Intertemporal.System.Sparse

/-!
# Systems

A system is what the equations of a model form over a fixed window of dates. An evaluation point has
a row for every date from the largest lag to the largest lead and a column for every series. Each
equation reads the places of the point that its references name; the residuals of all equations are
a vector, and their gradients are the rows of a sparse Jacobian.

The Jacobian has one column for every series and date, those of one series together. Its pattern is
fixed by the system; its values are kept in the memory and change only after every equation has been
evaluated.
-/

namespace Intertemporal

/-- A place in an evaluation point. -/
structure Place where
  row : Nat
  column : Nat
deriving DecidableEq, Repr

/-- The equations of a model over a window. -/
structure System (α : Type) where
  /-- The number under which the memory keeps the values of the Jacobian. -/
  id : Nat
  equations : List (Equation α)
  columns : List String
  lags : Int
  leads : Int
  /-- For every equation, the places that its references name. -/
  places : List (List Place)
  forms : List (EquationForm α)

namespace System

variable {α : Type}

/-- The number of rows of an evaluation point. -/
def periods (system : System α) : Int := system.lags + system.leads + 1

/-- The shape of an evaluation point. -/
def shape (system : System α) : List Int := [system.periods, system.columns.length]

/-- The column of the Jacobian that belongs to a place. -/
def columnOf (periods : Nat) (place : Place) : Nat := place.column * periods + place.row

/-- The sparsity pattern of the Jacobian. -/
def pattern (system : System α) : Pattern :=
  ⟨system.places.map fun places => places.map (columnOf system.periods.toNat)⟩

/-- The number of columns of the Jacobian. -/
def width (system : System α) : Nat := system.columns.length * system.periods.toNat

/-- The series and the offset of every column of the Jacobian. -/
def labels (system : System α) : List TimedVariable :=
  system.columns.flatMap fun name =>
    (SteadyState.offsetsBetween system.lags system.leads).map fun offset => { name, offset }

/-- The place that a reference names. -/
def locate (model : Model α) (equation : Equation α) (reference : TimedVariable) :
    Except (Error α) Place :=
  match model.columns.idxOf? reference.name with
  | none => .error (.foreignSeries reference.name equation.name)
  | some column =>
    let lags := model.horizon.lags
    let leads := model.horizon.leads
    if -lags ≤ reference.offset ∧ reference.offset ≤ leads then
      .ok { row := (lags + reference.offset).toNat, column }
    else .error (.outsideWindow reference equation.name lags leads)

/-- The places that the references of an equation name. -/
def locateAll (model : Model α) (equation : Equation α) : Except (Error α) (List Place) := do
  let places ← equation.references.series.mapM (locate model equation)
  if places.all fun place => NumberArray.isPosition place.row then .ok places
  else .error (.conversion .overflow)

variable [Scalar α]

/-- The system of a model. Steady-state levels are looked up now; parameter values are not. -/
def ofModel (model : Model α) : Action α (System α) := do
  let places ← Action.ofExcept (fun reason => reason) (model.equations.mapM (locateAll model))
  let lags := model.horizon.lags
  let leads := model.horizon.leads
  let width := (model.columns.length : Int) * (lags + leads + 1)
  if width < 0 then throw .negativeSize
  if !NumberArray.isPosition width then throw (.conversion .overflow)
  if !model.steadyState.isSolved && model.usesSteadyState then Action.record .unsolvedReferences
  let forms ← model.equations.mapM
    (EquationForm.ofEquation model.steadyState model.options.tolerance)
  let number ← Action.freshId
  let system : System α :=
    { id := number, equations := model.equations, columns := model.columns, lags, leads, places,
      forms }
  Action.record (.built model.name model.equations.length system.pattern.size model.registry.size
    model.registry.hits)
  pure system

/-- The present values of the Jacobian in storage order; zeros before the first evaluation. -/
def values (system : System α) (memory : Memory α) : List α :=
  memory.jacobians.getD system.id (List.replicate system.pattern.size Scalar.zero)

/-- The Jacobian with its present values. -/
def jacobian (system : System α) (memory : Memory α) : SparseMatrix α :=
  ⟨system.pattern, system.width, system.values memory⟩

/-- The inputs of an equation: the entries of a point at its places. -/
def inputs (point : NumberArray α) (places : List Place) : List α :=
  places.filterMap fun place => point.get? place.row place.column

/-- Refuse a point of another shape. -/
def checkPoint (system : System α) (point : NumberArray α) : Action α Unit :=
  if point.sizes = system.shape then pure ()
  else throw (.pointShape system.shape point.sizes)

/-- Write the residuals of equations in the given forms over the beginning of a buffer. -/
def fill (point : NumberArray α) :
    List (EquationForm α × List Place) → List α → Action α (List α)
  | [], buffer => pure buffer
  | (form, places) :: rest, buffer => do
    let residual ← form.residual (inputs point places)
    match buffer with
    | [] => throw .shortBuffer
    | _ :: tail => do
      let others ← fill point rest tail
      pure (residual :: others)

/-- The residuals at a point, with equations in the given forms, in a buffer for them. -/
def residualsInto (system : System α) (calibration : Calibration α) (forms : List (EquationForm α))
    (point : NumberArray α) (buffer : List α) : Action α (List α) := do
  system.checkPoint point
  forms.forM (EquationForm.bind calibration)
  fill point (forms.zip system.places) buffer

/-- The residuals at a point, with equations in the given forms. -/
def residuals (system : System α) (calibration : Calibration α) (forms : List (EquationForm α))
    (point : NumberArray α) : Action α (List α) :=
  system.residualsInto calibration forms point (List.replicate forms.length Scalar.zero)

/-- The residuals at a point and the Jacobian, with equations in the given forms. -/
def residualsAndJacobian (system : System α) (calibration : Calibration α)
    (forms : List (EquationForm α)) (point : NumberArray α) :
    Action α (List α × SparseMatrix α) := do
  system.checkPoint point
  forms.forM (EquationForm.bind calibration)
  let found ← (forms.zip system.places).mapM fun (form, places) =>
    form.residualAndGradient (inputs point places)
  let values := system.pattern.arrange (found.map (·.2))
  modify fun memory => { memory with jacobians := memory.jacobians.insert system.id values }
  pure (found.map (·.1), system.jacobian (← get))

/-- A system of the same equations with its own Jacobian, which begins with the present values. -/
def copy (system : System α) : Action α (System α) := do
  let values := system.values (← get)
  let number ← Action.freshId
  modify fun memory => { memory with jacobians := memory.jacobians.insert number values }
  pure { system with id := number }

end System

end Intertemporal
