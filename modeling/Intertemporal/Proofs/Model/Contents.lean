import Intertemporal.Proofs.Model.Attained
import Intertemporal.Proofs.Model.Steps
import Intertemporal.Proofs.Tables

/-!
# Contents of models

What a model has been given are its symbols, parameter values, trends, options and equations; its
horizon, its registry and the evaluators of its equations follow from them. A request to declare,
state or set something succeeds if the names in it are new or declared as they have to be, and then
adds to the contents what it says.
-/

namespace Intertemporal

variable {α : Type}

/-- An equation as it was stated. -/
structure StatedExpression (α : Type) where
  name : String
  expression : Expression α
  linear : Bool

/-- What a model has been given, in order. The keys of the steady state are the series in the order
in which variables and shocks were declared. -/
structure Contents (α : Type) where
  name : String
  symbols : SymbolTable := {}
  values : Table String (Option (ParameterValue α)) := {}
  steadyState : SteadyState α := {}
  options : Options α
  equations : List (StatedExpression α) := []

/-- What an equation states. -/
def Equation.stated (equation : Equation α) : StatedExpression α :=
  ⟨equation.name, equation.expression, equation.linear⟩

/-- The contents of a model. -/
def Model.contents (model : Model α) : Contents α where
  name := model.name
  symbols := model.symbols
  values := model.calibration.values
  steadyState := model.steadyState
  options := model.options
  equations := model.equations.map (·.stated)

namespace Session

variable [Scalar α] {session : Session α}

omit [Scalar α] in
theorem outcome_checkDeclared_of_declared {isDeclared : String → Bool} {place name : String}
    (declared : isDeclared name = true) :
    outcome (checkDeclared isDeclared place [name]) session = (.ok (), session) := by
  unfold checkDeclared
  rw [List.find?_cons_of_neg (by simp [declared])]
  rfl

omit [Scalar α] in
theorem outcome_checkNewEquation_of_new {model : Model α} {name : String}
    (fresh : ∀ equation ∈ model.equations, equation.name ≠ name) :
    outcome (checkNewEquation model name) session = (.ok (), session) := by
  unfold checkNewEquation
  rw [if_neg (by simpa using fresh)]
  rfl

theorem exists_addVariable_of_new {added : Variable}
    (fresh : added.name ∉ session.model.symbols.names) :
    ∃ after, outcome (addVariable added) session = (.ok (), after) ∧
      after.model.contents = { session.model.contents with
        symbols := { session.model.symbols with
          allVariables := session.model.symbols.allVariables ++ [added] }
        steadyState := session.model.steadyState.register added.name false } := by
  simp only [addVariable, outcome_bind, outcome_theModel, outcome_ofExcept,
    SymbolTable.addVariable, SymbolTable.checkNew_of_notMem fresh]
  exact ⟨_, rfl, rfl⟩

theorem exists_addShock_of_new {added : Shock}
    (fresh : added.name ∉ session.model.symbols.names) :
    ∃ after, outcome (addShock added) session = (.ok (), after) ∧
      after.model.contents = { session.model.contents with
        symbols := { session.model.symbols with
          shocks := session.model.symbols.shocks ++ [added] }
        steadyState := session.model.steadyState.register added.name true } := by
  simp only [addShock, outcome_bind, outcome_theModel, outcome_ofExcept, SymbolTable.addShock,
    SymbolTable.checkNew_of_notMem fresh]
  exact ⟨_, rfl, rfl⟩

/-- A parameter that is new is given its value. -/
theorem exists_addParameter_of_new {added : Parameter} {datum : Datum α}
    {value : Option (ParameterValue α)} (fresh : added.name ∉ session.model.symbols.names)
    (converted : Calibration.coerce added.name datum = .ok value) :
    ∃ after, outcome (addParameter added datum) session = (.ok (), after) ∧
      after.model.contents = { session.model.contents with
        symbols := { session.model.symbols with
          parameters := session.model.symbols.parameters ++ [added] }
        values := session.model.calibration.values.insert added.name value } := by
  simp only [addParameter, outcome_bind, outcome_theModel, outcome_ofExcept,
    SymbolTable.addParameter, SymbolTable.checkNew_of_notMem fresh]
  obtain ⟨memory, _, assigned⟩ := outcome_assign [(added.name, datum)]
    { session with model := { session.model with
      symbols := { session.model.symbols with
        parameters := session.model.symbols.parameters ++ [added] } } }
  have stored : session.model.calibration.set [(added.name, datum)] session.memory.nextRevision =
      (⟨session.model.calibration.values.insert added.name value, session.memory.nextRevision⟩,
        .ok ()) := by
    simp only [Calibration.set, Calibration.store, converted]
  dsimp only at assigned
  rw [stored] at assigned
  exact ⟨_, assigned, rfl⟩

theorem exists_setSteadyState_of_declared {name : String} {level slope : α}
    (declared : name ∈ session.model.symbols.variableNames)
    (stored : name ∈ session.model.steadyState.keys) :
    ∃ after, outcome (setSteadyState name (.number level) (.number slope)) session =
        (.ok (), after) ∧
      after.model.contents = { session.model.contents with
        steadyState := session.model.steadyState.insert name ⟨level, slope, true⟩ } := by
  obtain ⟨before, found⟩ := Table.mem_keys_iff.mp stored
  have known : session.model.symbols.isVariable name = true := List.contains_iff_mem.mpr declared
  simp only [setSteadyState, outcome_bind, outcome_theModel,
    outcome_checkDeclared_of_declared known, outcome_setModel, outcome_ofExcept, SteadyState.set,
    found]
  exact ⟨_, rfl, rfl⟩

section Equations

variable {name : String} {expression : Expression α} {linear : Bool}
  (roomy : 0 < expression.references.inputCount → 1 ≤ session.model.registry.chunkLimit)

include roomy

/-- Whatever refers to what it refers to is compiled, if there is room for an input. -/
theorem exists_appendToHorizon (source : String) :
    ∃ equation after,
      outcome (appendToHorizon name expression linear source) session = (.ok equation, after) ∧
      after.model.contents = { session.model.contents with
        equations := session.model.contents.equations ++ [⟨name, expression, linear⟩] } := by
  let key : EvaluatorKey α := ⟨expression, expression.references⟩
  have covers : key.references.Covers key.expression := expression.covers_references
  have roomyKey : 0 < key.references.inputCount → 1 ≤ session.model.registry.chunkLimit := roomy
  obtain ⟨evaluator, registry, memory, compiled⟩ :=
    Registry.exists_compile roomyKey covers name session.memory
  simp only [appendToHorizon, append, outcome_bind, outcome_theModel, outcome_act]
  rw [compiled]
  refine ⟨_, _, rfl, ?_⟩
  simp [Model.contents, Equation.stated]

/-- An equation with a new name that refers to declared names only is stated. -/
theorem exists_addExpression_of_new (named : name ≠ "")
    (fresh : ∀ equation ∈ session.model.equations, equation.name ≠ name)
    (declares : session.model.symbols.Declares expression.references) :
    ∃ equation after,
      outcome (addExpression expression name linear) session = (.ok equation, after) ∧
      after.model.contents = { session.model.contents with
        equations := session.model.contents.equations ++ [⟨name, expression, linear⟩] } := by
  have kept : nameFor session.model name = name := if_neg (by simpa using named)
  obtain ⟨equation, after, ran, given⟩ := exists_appendToHorizon roomy ""
  refine ⟨equation, after, ?_, given⟩
  simp only [addExpression, outcome_bind, outcome_theModel, outcome_ofExcept, kept,
    outcome_checkNewEquation_of_new fresh, Expression.checkReferences_of_declares declares]
  exact ran

end Equations

end Session

section Runs

variable [Scalar α] [Numeral α]

/-- A request succeeds, and the model has given contents then. -/
def Request.Gives (request : Request α) (bench : Bench α) (contents : Contents α) : Prop :=
  request.succeeds bench ∧ (request.perform bench).session.model.contents = contents

namespace Request

variable {bench : Bench α} {contents : Contents α}

/-- What is done for a request decides what it gives. -/
theorem gives_of_outcome {request : Request α} {β : Type} {action : SessionAction α β} {value : β}
    {after : Session α} (without : request.action bench.held = do let _ ← action; pure [])
    (ran : outcome action bench.session = (.ok value, after))
    (given : after.model.contents = contents) : request.Gives bench contents := by
  refine ⟨?_, ?_⟩
  · rw [succeeds, without, Session.outcome_then_pure, ran]
    rfl
  · rw [session_perform, without, Session.outcome_then_pure, ran]
    exact given

section Declarations

variable (before : bench.session.model.contents = contents)

include before

theorem gives_addVariable {added : Variable} (fresh : added.name ∉ contents.symbols.names) :
    (Request.addVariable added).Gives bench
      { contents with
        symbols := { contents.symbols with
          allVariables := contents.symbols.allVariables ++ [added] }
        steadyState := contents.steadyState.register added.name false } := by
  subst before
  obtain ⟨after, ran, given⟩ := Session.exists_addVariable_of_new fresh
  exact gives_of_outcome rfl ran given

theorem gives_addShock {added : Shock} (fresh : added.name ∉ contents.symbols.names) :
    (Request.addShock added).Gives bench
      { contents with
        symbols := { contents.symbols with shocks := contents.symbols.shocks ++ [added] }
        steadyState := contents.steadyState.register added.name true } := by
  subst before
  obtain ⟨after, ran, given⟩ := Session.exists_addShock_of_new fresh
  exact gives_of_outcome rfl ran given

theorem gives_addParameter {added : Parameter} {datum : Datum α}
    {value : Option (ParameterValue α)} (fresh : added.name ∉ contents.symbols.names)
    (converted : Calibration.coerce added.name datum = .ok value) :
    (Request.addParameter added datum).Gives bench
      { contents with
        symbols := { contents.symbols with parameters := contents.symbols.parameters ++ [added] }
        values := contents.values.insert added.name value } := by
  subst before
  obtain ⟨after, ran, given⟩ := Session.exists_addParameter_of_new fresh converted
  exact gives_of_outcome rfl ran given

theorem gives_setSteadyState {name : String} {level slope : α}
    (declared : name ∈ contents.symbols.variableNames)
    (stored : name ∈ contents.steadyState.keys) :
    (Request.setSteadyState name (.number level) (.number slope)).Gives bench
      { contents with steadyState := contents.steadyState.insert name ⟨level, slope, true⟩ } := by
  subst before
  obtain ⟨after, ran, given⟩ := Session.exists_setSteadyState_of_declared declared stored
  exact gives_of_outcome rfl ran given

theorem gives_addExpression {name : String} {expression : Expression α} {linear : Bool}
    (named : name ≠ "") (fresh : ∀ stated ∈ contents.equations, stated.name ≠ name)
    (declares : contents.symbols.Declares expression.references)
    (roomy : 0 < expression.references.inputCount → 1 ≤ bench.session.model.registry.chunkLimit) :
    (Request.addExpression expression name linear).Gives bench
      { contents with equations := contents.equations ++ [⟨name, expression, linear⟩] } := by
  subst before
  have unused : ∀ equation ∈ bench.session.model.equations, equation.name ≠ name :=
    fun equation member => fresh equation.stated (List.mem_map_of_mem member)
  obtain ⟨equation, after, ran, given⟩ :=
    Session.exists_addExpression_of_new roomy named unused declares
  exact gives_of_outcome rfl ran given

end Declarations

end Request

namespace Bench

theorem run_append (bench : Bench α) (first second : List (Request α)) :
    bench.run (first ++ second) = (bench.run first).run second := List.foldl_append

theorem allSucceed_append (bench : Bench α) (first second : List (Request α)) :
    bench.allSucceed (first ++ second) =
      (bench.allSucceed first && (bench.run first).allSucceed second) := by
  induction first generalizing bench with
  | nil => rfl
  | cons request rest ih =>
      rw [List.cons_append, allSucceed, allSucceed, ih, Bool.and_assoc]
      rfl

/-- Requests for the items of a list succeed if each does where those before it have led. -/
theorem run_induction {ι : Type} {items : List ι} {request : ι → Request α}
    {invariant : List ι → Bench α → Prop}
    (step : ∀ done item later bench, done ++ item :: later = items → invariant done bench →
      (request item).succeeds bench ∧ invariant (done ++ [item]) ((request item).perform bench))
    {bench : Bench α} (start : invariant [] bench) :
    bench.allSucceed (items.map request) ∧ invariant items (bench.run (items.map request)) := by
  suffices rest : ∀ later done bench, done ++ later = items → invariant done bench →
      bench.allSucceed (later.map request) ∧ invariant items (bench.run (later.map request)) from
    rest items [] bench rfl start
  intro later
  induction later with
  | nil =>
      rintro done bench whole holds
      rw [List.append_nil] at whole
      exact ⟨rfl, whole ▸ holds⟩
  | cons item later ih =>
      intro done bench whole holds
      obtain ⟨succeeded, holdsAfter⟩ := step done item later bench whole holds
      obtain ⟨others, atEnd⟩ := ih (done ++ [item]) _ (by simpa using whole) holdsAfter
      exact ⟨Bool.and_eq_true_iff.mpr ⟨succeeded, others⟩, atEnd⟩

end Bench

end Runs

end Intertemporal
