import Intertemporal.System.ModelForm
import Intertemporal.Text.Character

/-!
# Sessions

A session is a model in use: the model itself, the form in which it is evaluated, which is built
when it is first needed, and the memory behind both. Every operation on a session either succeeds or
fails with an error; what a failed operation leaves behind is the session at the moment of failure.

Whatever changes the structure of a model puts the active form away. Parameter values and steady
states may change while a form is active: a plain form takes up new parameter values by itself,
everything else is kept until the form is built again.
-/

namespace Intertemporal

/-- A model in use. -/
structure Session (α : Type) where
  model : Model α
  active : Option (ModelForm α) := none
  memory : Memory α := {}

/-- Operations on a session. -/
abbrev SessionAction (α : Type) := ExceptT (Error α) (StateM (Session α))

namespace Session

variable {α β : Type}

/-- A session with a model in which nothing is declared. -/
def start (name : String) (options : Options α) : Session α := { model := .blank name options }

/-- The model of the session. -/
def theModel : SessionAction α (Model α) := do return (← get).model

/-- Run a computation on the memory of the session. -/
def act (action : Action α β) : SessionAction α β := fun session =>
  let (result, memory) := action.run.run session.memory
  (result, { session with memory })

/-- A result that was computed without the session. -/
def ofExcept {ε : Type} (cause : ε → Error α) (result : Except ε β) : SessionAction α β :=
  act (Action.ofExcept cause result)

/-- Put a changed model in place. -/
def setModel (model : Model α) : SessionAction α Unit :=
  modify fun session => { session with model }

/-- Put a model in place whose structure has changed, and put the active form away. -/
def restructure (model : Model α) : SessionAction α Unit :=
  modify fun session => { session with model, active := none }

section Declarations

variable [Scalar α]

/-- Declare a variable. Its steady state is not known yet. -/
def addVariable (added : Variable) : SessionAction α Unit := do
  let model ← theModel
  let symbols ← ofExcept .duplicateSymbol (model.symbols.addVariable added)
  restructure
    { model with symbols, steadyState := model.steadyState.register added.name false }

/-- Declare a shock. Its steady state is zero. -/
def addShock (added : Shock) : SessionAction α Unit := do
  let model ← theModel
  let symbols ← ofExcept .duplicateSymbol (model.symbols.addShock added)
  restructure { model with symbols, steadyState := model.steadyState.register added.name true }

/-- Give parameters values under a new revision. -/
def assign (values : List (String × Datum α)) : SessionAction α Unit := do
  let session ← get
  let revision := session.memory.nextRevision
  let (calibration, outcome) := session.model.calibration.set values revision
  setModel { session.model with calibration }
  ofExcept .conversion outcome
  modify fun session =>
    { session with memory := { session.memory with nextRevision := revision + 1 } }

/-- Declare a parameter and give it a value. -/
def addParameter (added : Parameter) (value : Datum α) : SessionAction α Unit := do
  let model ← theModel
  let symbols ← ofExcept .duplicateSymbol (model.symbols.addParameter added)
  setModel { model with symbols }
  assign [(added.name, value)]

/-- Refuse names that are not declared as they should be. -/
def checkDeclared (isDeclared : String → Bool) (place : String) (names : List String) :
    SessionAction α Unit :=
  match names.find? fun name => !isDeclared name with
  | some name => throw (.equation (.undeclared name place))
  | none => pure ()

/-- Give declared parameters new values. -/
def setParameters (values : List (String × Datum α)) : SessionAction α Unit := do
  ofExcept id (Error.checkNames values)
  let model ← theModel
  checkDeclared model.symbols.isParameter "parameter assignment" (values.map (·.1))
  assign values

/-- Set the steady state of a declared variable. -/
def setSteadyState (name : String) (level slope : Datum α) : SessionAction α Unit := do
  let model ← theModel
  checkDeclared model.symbols.isVariable "steady state assignment" [name]
  let (steadyState, outcome) := model.steadyState.set name level slope true
  setModel { model with steadyState }
  ofExcept .trend outcome

end Declarations

section Equations

variable [Scalar α]

/-- The name of an equation: the given one, or one made from the number of equations. -/
def nameFor (model : Model α) (name : String) : String :=
  if name.isEmpty then s!"eq_{model.equations.length + 1}" else name

/-- Refuse a name that an equation has already. -/
def checkNewEquation (model : Model α) (name : String) : SessionAction α Unit :=
  if model.equations.any (·.name == name) then throw (.duplicateEquation name) else pure ()

/-- Compile an expression and append it as an equation. -/
def append (name : String) (expression : Expression α) (linear : Bool) (source : String) :
    SessionAction α (Equation α) := do
  let model ← theModel
  let references := expression.references
  let (evaluator, registry) ← act (model.registry.compile name ⟨expression, references⟩)
  let equation : Equation α := { name, expression, references, evaluator, linear, source }
  restructure { model with registry, equations := model.equations ++ [equation] }
  pure equation

/-- Append an equation and take its references into the horizon. -/
def appendToHorizon (name : String) (expression : Expression α) (linear : Bool)
    (source : String) : SessionAction α (Equation α) := do
  let equation ← append name expression linear source
  let model ← theModel
  setModel { model with horizon := equation.references.series.foldl Horizon.add model.horizon }
  act (Action.record (.added equation))
  pure equation

/-- Add the equation that a text states. -/
def addEquation (text name : String) (linear : Bool) : SessionAction α (Equation α) := do
  let model ← theModel
  let name := nameFor model name
  checkNewEquation model name
  let expression ← ofExcept .equation (Expression.ofText model.symbols name text)
  appendToHorizon name expression linear (String.ofList (Text.trim text.toList))

/-- Add an equation that says that an expression is zero. -/
def addExpression (expression : Expression α) (name : String) (linear : Bool) :
    SessionAction α (Equation α) := do
  let model ← theModel
  let name := nameFor model name
  checkNewEquation model name
  ofExcept .equation (expression.checkReferences model.symbols ("equation '" ++ name ++ "'"))
  appendToHorizon name expression linear ""

/-- Fix the bounds of the horizon, whatever the equations refer to. -/
def setWindow (lags leads : Int) : SessionAction α Unit := do
  let model ← theModel
  setModel { model with horizon := { model.horizon with lags, leads } }

end Equations

section Forms

variable [Scalar α]

/-- Compile an equation anew in the registry of the model. -/
def recompileEquation (equation : Equation α) : SessionAction α (Equation α) := do
  let model ← theModel
  let (evaluator, registry) ← act
    (model.registry.compile equation.name ⟨equation.expression, equation.references⟩)
  setModel { model with registry }
  pure { equation with evaluator }

/-- Compile all equations anew, in an empty registry. -/
def recompile : SessionAction α Unit := do
  let model ← theModel
  setModel { model with registry := { chunkLimit := model.options.chunkLimit } }
  let equations ← model.equations.mapM recompileEquation
  let model ← theModel
  setModel { model with equations }
  act (Action.record (.recompiled equations.length model.name model.options.chunkLimit))

/-- The name by which a change of options knows the settings that it starts from. -/
def settingsName : String := "options"

/-- Change options, where `overrides` win over `settings`. Equations are compiled anew if the chunk
limit changes. -/
def update [Numeral α] (settings overrides : Settings α) : SessionAction α Unit := do
  let model ← theModel
  ofExcept .options (Options.checkName overrides settingsName)
  let settings := settings.insertAll overrides.entries
  let options ← ofExcept .options (model.options.override settings)
  setModel { model with options }
  if options.chunkLimit ≠ model.options.chunkLimit then recompile
  restructure (← theModel)

/-- The form of the model that a variant asks for; the active one stays. -/
def build (variant : Variant) : SessionAction α (ModelForm α) := do
  act (ModelForm.ofModel (← theModel) variant)

/-- Build the form that the options choose, and make it the active one. -/
def refresh : SessionAction α (ModelForm α) := do
  let form ← build (← theModel).options.variant
  modify fun session => { session with active := some form }
  pure form

/-- The active form. It is built if there is none. -/
def form : SessionAction α (ModelForm α) := do
  match (← get).active with
  | some form => pure form
  | none => refresh

/-- Build the form of a variant, make it the active one, and let the options choose it. -/
def install (variant : Variant) : SessionAction α (ModelForm α) := do
  let form ← build variant
  modify fun session =>
    { session with
      model := { session.model with options := { session.model.options with variant } }
      active := some form }
  pure form

/-- The residuals of a form at a point. -/
def residuals (form : ModelForm α) (point : NumberArray α) : SessionAction α (List α) := do
  act (form.residuals (← theModel).calibration point)

/-- The residuals of a form at a point, written over the beginning of a buffer. -/
def residualsInto (form : ModelForm α) (point : NumberArray α) (buffer : List α) :
    SessionAction α (List α) := do
  act (form.residualsInto (← theModel).calibration point buffer)

/-- The residuals and the Jacobian of a form at a point. -/
def residualsAndJacobian (form : ModelForm α) (point : NumberArray α) :
    SessionAction α (List α × SparseMatrix α) := do
  act (form.residualsAndJacobian (← theModel).calibration point)

end Forms

end Session

end Intertemporal
