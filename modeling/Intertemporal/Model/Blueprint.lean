import Intertemporal.Model.Session

/-!
# Blueprints

A blueprint collects what a model is to contain before anything is checked. Building it declares
variables, shocks and parameters, then adds the equations and then sets the steady states, and stops
at the first of them that fails.
-/

namespace Intertemporal

/-- An equation of a blueprint. -/
structure StatedEquation where
  text : String
  name : String := ""
  linear : Bool := false
deriving DecidableEq, Repr

/-- What a model is to contain. -/
structure Blueprint (α : Type) where
  name : String
  allVariables : List Variable := []
  shocks : List Shock := []
  parameters : List Parameter := []
  values : Table String (Datum α) := {}
  equations : List StatedEquation := []
  trends : Table String (α × α) := {}
  settings : Settings α := {}

namespace Blueprint

variable {α : Type}

/-- Add variables. -/
def addVariables (blueprint : Blueprint α) (added : List Variable) : Blueprint α :=
  { blueprint with allVariables := blueprint.allVariables ++ added }

/-- Add shocks. -/
def addShocks (blueprint : Blueprint α) (added : List Shock) : Blueprint α :=
  { blueprint with shocks := blueprint.shocks ++ added }

/-- Keep values of parameters. -/
def keepValues (blueprint : Blueprint α) (values : List (String × Datum α)) : Blueprint α :=
  { blueprint with values := blueprint.values.insertAll values }

/-- Give parameters values, whether or not they are among the parameters yet. -/
def calibrate (blueprint : Blueprint α) (values : List (String × Datum α)) :
    Except (Error α) (Blueprint α) := do
  Error.checkNames values
  .ok (blueprint.keepValues values)

/-- Add a parameter. A missing value leaves the parameter as it is. -/
def addParameter (blueprint : Blueprint α) (added : Parameter) (value : Datum α) : Blueprint α :=
  let grown := { blueprint with parameters := blueprint.parameters ++ [added] }
  match value with
  | .missing => grown
  | value => grown.keepValues [(added.name, value)]

/-- Add parameters with their values, missing ones included. -/
def addParameters (blueprint : Blueprint α) (values : List (String × Datum α)) :
    Except (Error α) (Blueprint α) := do
  Error.checkNames values
  let added := values.map fun given => ({ name := given.1 } : Parameter)
  .ok ({ blueprint with parameters := blueprint.parameters ++ added }.keepValues values)

/-- Add an equation. -/
def addEquation (blueprint : Blueprint α) (added : StatedEquation) : Blueprint α :=
  { blueprint with equations := blueprint.equations ++ [added] }

/-- Change settings. -/
def configure (blueprint : Blueprint α) (settings : Settings α) :
    Except (Error α) (Blueprint α) := do
  Error.checkNames settings.entries
  .ok { blueprint with settings := blueprint.settings.insertAll settings.entries }

section Building

variable [Scalar α]

/-- A level, or a pair of a level and a slope. -/
def trendOf : Datum α → Except (Error α) (α × α)
  | .sequence [level, slope] => do
    let level ← level.toScalar.mapError .conversion
    let slope ← slope.toScalar.mapError .conversion
    .ok (level, slope)
  | .sequence _ => .error .trendLength
  | level => do
    let level ← level.toScalar.mapError .conversion
    .ok (level, Scalar.zero)

/-- Set steady states. -/
def setTrends (blueprint : Blueprint α) (values : List (String × Datum α)) :
    Except (Error α) (Blueprint α) := do
  Error.checkNames values
  values.foldlM (fun grown (name, datum) => do
    let trend ← trendOf datum
    .ok { grown with trends := grown.trends.insert name trend }) blueprint

/-- The parameters with values that are not declared, in ascending order. -/
def undeclared (blueprint : Blueprint α) (symbols : SymbolTable) : List String :=
  (blueprint.values.keys.filter fun name => !symbols.isParameter name).mergeSort
    fun left right => !decide (right < left)

/-- Declare, state and set everything in a blueprint. -/
def fill (blueprint : Blueprint α) : SessionAction α Unit := do
  blueprint.allVariables.forM Session.addVariable
  blueprint.shocks.forM Session.addShock
  blueprint.parameters.forM fun added =>
    Session.addParameter added (blueprint.values.getD added.name .missing)
  match blueprint.undeclared (← Session.theModel).symbols with
  | name :: _ => throw (.equation (.undeclared name "calibration"))
  | [] => pure ()
  blueprint.equations.forM fun stated =>
    discard (Session.addEquation stated.text stated.name stated.linear)
  blueprint.trends.entries.forM fun (name, level, slope) =>
    Session.setSteadyState name (.number level) (.number slope)

/-- A session with the model of a blueprint in which nothing is declared yet. -/
def start [Numeral α] (blueprint : Blueprint α) : Except (Error α) (Session α) :=
  ((Options.ofSettings blueprint.settings).mapError .options).map (Session.start blueprint.name)

end Building

end Blueprint

end Intertemporal
