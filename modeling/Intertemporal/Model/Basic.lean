import Intertemporal.Horizon
import Intertemporal.Program.Registry

/-!
# Models

A model holds declared symbols, equations with their compiled evaluators, parameter values, steady
states and options. Its horizon follows from the equations and is kept up to date as they are added.
-/

namespace Intertemporal

/-- A model: what has been declared, stated and set. -/
structure Model (α : Type) where
  name : String
  symbols : SymbolTable := {}
  equations : List (Equation α) := []
  calibration : Calibration α
  steadyState : SteadyState α := {}
  options : Options α
  horizon : Horizon := {}
  registry : Registry α

namespace Model

variable {α : Type}

/-- A model in which nothing is declared. -/
def blank (name : String) (options : Options α) : Model α :=
  { name, options
    calibration := { revision := 0 }
    registry := { chunkLimit := options.chunkLimit } }

/-- The columns of an evaluation point: variables, then shocks. -/
def columns (model : Model α) : List String := model.symbols.seriesNames

/-- The first equation of a name. -/
def equation (model : Model α) (name : String) : Except (Error α) (Equation α) :=
  match model.equations.find? (·.name == name) with
  | some found => .ok found
  | none => .error (.unknownEquation name)

/-- Whether some equation refers to a steady-state level. -/
def usesSteadyState (model : Model α) : Bool :=
  model.equations.any fun equation => !equation.references.steadyStates.isEmpty

/-- The equations that use the same evaluator as the given one. -/
def sharing (model : Model α) (equation : Equation α) : List String :=
  (model.equations.filter fun other => other.evaluator.id == equation.evaluator.id).map (·.name)

/-- The steady state over the window of the model. -/
def steadyStatePoint [Scalar α] (model : Model α) : Except TrendError (NumberArray α) :=
  model.steadyState.point model.columns model.horizon.lags model.horizon.leads

/-- A summary of a model. -/
def text (model : Model α) : String :=
  let flagged := (model.equations.filter (·.linear)).length
  "\n".intercalate
    ["Model: " ++ model.name,
     s!"  Variables: {model.symbols.allVariables.length}",
     s!"  Shocks: {model.symbols.shocks.length}",
     s!"  Parameters: {model.symbols.parameters.length}",
     s!"  Equations: {model.equations.length} ({flagged} flagged linear)",
     s!"  Max lag: {model.horizon.lags}",
     s!"  Max lead: {model.horizon.leads}",
     s!"  Compiled evaluators: {model.registry.size}"]

end Model

end Intertemporal
