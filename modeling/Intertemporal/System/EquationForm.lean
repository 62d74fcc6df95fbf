import Intertemporal.Memory

/-!
# Forms of an equation

Within a system an equation is evaluated as it is, with steady-state levels that were looked up when
the system was built, or through its first-order expansion about a point. In every form the inputs
are the values of the series that the equation refers to, and the gradient is taken with respect to
them.
-/

namespace Intertemporal

/-- How an equation is evaluated. -/
inductive EquationForm (α : Type)
  | dynamic (equation : Equation α)
  /-- With the steady-state levels that follow the inputs. -/
  | anchored (equation : Equation α) (levels : List α)
  /-- With the residual and the gradient at a point in place of the equation. -/
  | expanded (equation : Equation α) (residual : α) (gradient point : List α)

namespace EquationForm

variable {α : Type} [Scalar α]

/-- Report a reference to the steady state of a series that is not constant there. -/
def checkFlat (trends : SteadyState α) (tolerance : α) (equation : Equation α) (name : String) :
    Action α Unit := do
  let trend ← Action.ofExcept .unknownTrend (trends.trend name)
  if Scalar.lt tolerance (Scalar.abs trend.slope) then
    Action.record (.slopedReference name equation.name)

/-- The form of an equation as it is stated. -/
def ofEquation (trends : SteadyState α) (tolerance : α) (equation : Equation α) :
    Action α (EquationForm α) := do
  let names := equation.references.steadyStates
  if names.isEmpty then pure (.dynamic equation)
  else
    names.forM (checkFlat trends tolerance equation)
    let found ← Action.ofExcept .unknownTrend (names.mapM trends.trend)
    pure (.anchored equation (found.map (·.level)))

/-- Take parameter values from a calibration. Expansions keep those that they were made with. -/
def bind (calibration : Calibration α) : EquationForm α → Action α Unit
  | .dynamic equation => discard (equation.evaluator.bind calibration)
  | .anchored equation _ => discard (equation.evaluator.bind calibration)
  | .expanded .. => pure ()

/-- The sum of products of two lists. -/
def dot (left right : List α) : α :=
  (List.zipWith (· * ·) left right).foldl (· + ·) Scalar.zero

/-- The value of an expansion. -/
def expansion (residual : α) (gradient point inputs : List α) : α :=
  residual + dot gradient (List.zipWith (· - ·) inputs point)

/-- The residual at the given values of the series. -/
def residual (inputs : List α) : EquationForm α → Action α α
  | .dynamic equation => equation.evaluator.residual inputs
  | .anchored equation levels => equation.evaluator.residual (inputs ++ levels)
  | .expanded _ residual gradient point => pure (expansion residual gradient point inputs)

/-- The residual at the given values of the series, and its gradient with respect to them. -/
def residualAndGradient (inputs : List α) : EquationForm α → Action α (α × List α)
  | .dynamic equation => equation.evaluator.residualAndGradient (.ofList inputs)
  | .anchored equation levels => do
    let (residual, gradient) ← equation.evaluator.residualAndGradient (.ofList (inputs ++ levels))
    pure (residual, gradient.take equation.references.series.length)
  | .expanded _ residual gradient point =>
    pure (expansion residual gradient point inputs, gradient)

end EquationForm

end Intertemporal
