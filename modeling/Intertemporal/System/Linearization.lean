import Intertemporal.System.Basic

/-!
# Linearization about the steady state

A linearized system replaces some of its equations, or all of them, by their first-order expansions
about the steady state. The expansions are made once, when the system is built; the other equations
are evaluated as they are. The steady state has to be known and constant.
-/

namespace Intertemporal

/-- A system with some equations in expanded form. -/
structure Linearization (α : Type) where
  system : System α
  /-- Whether every equation is expanded, and not only the flagged ones. -/
  whole : Bool
  /-- The point of expansion. -/
  point : NumberArray α
  forms : List (EquationForm α)
  /-- The names of the expanded equations. -/
  expanded : List String

namespace Linearization

variable {α : Type} [Scalar α]

/-- Refuse a steady state that is not known or not constant. -/
def checkSteadyState (model : Model α) : Action α Unit := do
  if !model.steadyState.isSolved then throw .steadyStateUnsolved
  let steepest ← Action.ofExcept .unknownTrend
    (model.steadyState.largestSlope model.steadyState.keys)
  if Scalar.lt model.options.tolerance steepest then throw .steadyStateSloped

/-- The expansion of an equation about a point. A residual that is not zero there is reported. -/
def expand (tolerance : α) (point : NumberArray α) (equation : Equation α) (form : EquationForm α)
    (places : List Place) : Action α (EquationForm α) := do
  let inputs := System.inputs point places
  let (residual, gradient) ← form.residualAndGradient inputs
  if Scalar.lt tolerance (Scalar.abs residual) then
    Action.record (.nonzeroResidual equation.name residual)
  pure (.expanded equation residual gradient inputs)

/-- Whether an equation is to be expanded. -/
def selects (whole : Bool) (equation : Equation α) : Bool := whole || equation.linear

/-- The linearization of a model, of all equations or of the flagged ones. -/
def ofModel (model : Model α) (whole : Bool) : Action α (Linearization α) := do
  checkSteadyState model
  let system ← System.ofModel model
  let point ← Action.ofExcept .trend model.steadyStatePoint
  system.forms.forM (EquationForm.bind model.calibration)
  let forms ← (system.equations.zip (system.forms.zip system.places)).mapM
    fun (equation, form, places) =>
      if selects whole equation then expand model.options.tolerance point equation form places
      else pure form
  let expanded := (system.equations.filter (selects whole)).map (·.name)
  if expanded.isEmpty then Action.record .nothingLinearized
  Action.record (.linearized expanded.length system.equations.length model.name)
  pure { system, whole, point, forms, expanded }

end Linearization

end Intertemporal
