import Mathlib.Logic.Relation
import Intertemporal.Proofs.Expression.Occurrences
import Intertemporal.Proofs.Model.Histories
import Intertemporal.Proofs.Model.Renewal

/-!
# Steps of a run

Whatever a request does to a model, it does in steps of a few kinds: a name is declared, values or a
steady state are stored, options are chosen, an equation is stated, or all equations are compiled
anew. A request that fails has taken some of its steps or none. An invariant of all reachable models
is therefore one that each of these steps keeps (`Reachable.steps`).

Values that are given are stored up to the first that cannot be converted. If `whole` holds, all of
them were stored.
-/

namespace Intertemporal

open Relation (ReflTransGen)

variable {α : Type} [Scalar α]

/-- Changes of a model that leave its equations and their evaluators alone. -/
inductive Model.Changes (whole : Prop) (model : Model α) : Model α → Prop
  | nothing : Changes whole model model
  | declareVariable {added : Variable} {symbols : SymbolTable}
      (declared : model.symbols.addVariable added = .ok symbols) :
      Changes whole model
        { model with symbols, steadyState := model.steadyState.register added.name false }
  | declareShock {added : Shock} {symbols : SymbolTable}
      (declared : model.symbols.addShock added = .ok symbols) :
      Changes whole model
        { model with symbols, steadyState := model.steadyState.register added.name true }
  | declareParameter {added : Parameter} {value : Datum α} {symbols : SymbolTable} {revision : Nat}
      (declared : model.symbols.addParameter added = .ok symbols)
      (stored : whole → (model.calibration.set [(added.name, value)] revision).2 = .ok ()) :
      Changes whole model
        { model with
          symbols, calibration := (model.calibration.set [(added.name, value)] revision).1 }
  | assign {values : List (String × Datum α)} {revision : Nat}
      (declared : ∀ value ∈ values, value.1 ∈ model.symbols.parameterNames)
      (stored : whole → (model.calibration.set values revision).2 = .ok ()) :
      Changes whole model
        { model with calibration := (model.calibration.set values revision).1 }
  | solve {name : String} {level slope : Datum α}
      (declared : name ∈ model.symbols.variableNames)
      (stored : whole → (model.steadyState.set name level slope true).2 = .ok ()) :
      Changes whole model
        { model with steadyState := (model.steadyState.set name level slope true).1 }
  | choose {options : Options α} (limited : options.chunkLimit = model.options.chunkLimit) :
      Changes whole model { model with options }

/-- An equation that has been compiled anew. -/
def Equation.Renews (equation renewed : Equation α) : Prop :=
  renewed = { equation with evaluator := renewed.evaluator }

namespace Session

/-- A step of a session, as far as its model and the numbers go that its memory has handed out. -/
inductive Step (whole : Prop) (before after : Session α) : Prop
  | change (changed : before.model.Changes whole after.model)
      (grown : before.memory.nextId ≤ after.memory.nextId)
  | state {equation : Equation α} {registry : Registry α} (named : equation.name ≠ "")
      (fresh : ∀ other ∈ before.model.equations, other.name ≠ equation.name)
      (collected : equation.references = equation.expression.references)
      (declares : before.model.symbols.Declares equation.references)
      (taken : before.model.registry.Takes equation before.memory.nextId after.memory.nextId
        registry)
      (stated : after.model = { before.model with
        registry
        equations := before.model.equations ++ [equation]
        horizon := equation.references.series.foldl Horizon.add before.model.horizon })
  | recompile {options : Options α} {equations : List (Equation α)} {registry : Registry α}
      (renewed : List.Forall₂ Equation.Renews before.model.equations equations)
      (compiles : Registry.Compiles options.chunkLimit registry equations after.memory.nextId)
      (grown : before.memory.nextId ≤ after.memory.nextId)
      (restated : after.model = { before.model with options, equations, registry })

variable {whole : Prop} {origin session after : Session α}

theorem Step.keep (same : after.model = session.model)
    (grown : session.memory.nextId ≤ after.memory.nextId) : Step whole session after :=
  .change (same ▸ .nothing) grown

theorem Step.refl : Step whole session session := .keep rfl (Nat.le_refl _)

section Outcomes

omit [Scalar α]

theorem outcome_theModel (session : Session α) :
    outcome theModel session = (.ok session.model, session) := rfl

theorem outcome_setModel (model : Model α) (session : Session α) :
    outcome (setModel model) session = (.ok (), { session with model }) := rfl

theorem outcome_ofExcept {ε β : Type} (cause : ε → Error α) (result : Except ε β)
    (session : Session α) :
    outcome (ofExcept cause result) session = (result.mapError cause, session) := by
  cases result <;> rfl

/-- What succeeds under another name for its failures succeeds. -/
theorem eq_ok_of_toBool {ε δ : Type} {cause : ε → δ} {result : Except ε Unit}
    (ended : (result.mapError cause).toBool) : result = .ok () := by
  rcases result with _ | _
  · cases ended
  · rfl

/-- Names are refused unless all of them are declared; the session stays as it is. -/
theorem outcome_checkDeclared (isDeclared : String → Bool) (place : String) (names : List String)
    (session : Session α) :
    (outcome (checkDeclared isDeclared place names) session = (.ok (), session) ∧
        ∀ name ∈ names, isDeclared name = true) ∨
      ∃ reason, outcome (checkDeclared isDeclared place names) session =
        (.error reason, session) := by
  unfold checkDeclared
  split
  · exact .inr ⟨_, rfl⟩
  · rename_i none
    exact .inl ⟨rfl, by simpa using none⟩

/-- A name is refused if an equation has it; the session stays as it is. -/
theorem outcome_checkNewEquation (model : Model α) (name : String) (session : Session α) :
    (outcome (checkNewEquation model name) session = (.ok (), session) ∧
        ∀ other ∈ model.equations, other.name ≠ name) ∨
      ∃ reason, outcome (checkNewEquation model name) session = (.error reason, session) := by
  unfold checkNewEquation
  split
  · exact .inr ⟨_, rfl⟩
  · rename_i none
    exact .inl ⟨rfl, by simpa using none⟩

/-- What is returned in the end does not matter to the session. -/
theorem outcome_then_pure {β γ : Type} (action : SessionAction α β) (value : γ)
    (session : Session α) :
    outcome (do let _ ← action; pure value) session =
      ((outcome action session).1.map fun _ => value, (outcome action session).2) := by
  rw [outcome_bind]
  rcases outcome action session with ⟨_ | _, _⟩ <;> rfl

end Outcomes

section Declarations

theorem step_addVariable (added : Variable) (session : Session α) :
    Step whole session (outcome (addVariable added) session).2 := by
  simp only [addVariable, outcome_bind, outcome_theModel, outcome_ofExcept]
  rcases declared : session.model.symbols.addVariable added with _ | symbols
  · exact .refl
  · exact .change (.declareVariable declared) (Nat.le_refl _)

theorem step_addShock (added : Shock) (session : Session α) :
    Step whole session (outcome (addShock added) session).2 := by
  simp only [addShock, outcome_bind, outcome_theModel, outcome_ofExcept]
  rcases declared : session.model.symbols.addShock added with _ | symbols
  · exact .refl
  · exact .change (.declareShock declared) (Nat.le_refl _)

/-- Values are stored in order, and the first that cannot be converted is the failure. -/
theorem outcome_assign (values : List (String × Datum α)) (session : Session α) :
    ∃ memory : Memory α, memory.nextId = session.memory.nextId ∧
      outcome (assign values) session =
        ((session.model.calibration.set values session.memory.nextRevision).2.mapError .conversion,
          { session with
            model := { session.model with
              calibration :=
                (session.model.calibration.set values session.memory.nextRevision).1 }
            memory }) := by
  simp only [assign, outcome_bind, outcome_get, outcome_setModel, outcome_ofExcept]
  rcases (session.model.calibration.set values session.memory.nextRevision).2 with _ | _
  · exact ⟨session.memory, rfl, rfl⟩
  · exact ⟨{ session.memory with nextRevision := session.memory.nextRevision + 1 }, rfl, rfl⟩

theorem step_assign {values : List (String × Datum α)}
    (declared : ∀ value ∈ values, value.1 ∈ session.model.symbols.parameterNames)
    (ended : whole → (outcome (assign values) session).1.toBool) :
    Step whole session (outcome (assign values) session).2 := by
  obtain ⟨memory, same, assigned⟩ := outcome_assign values session
  rw [assigned] at ended ⊢
  exact .change (.assign declared fun holds => eq_ok_of_toBool (ended holds))
    (Nat.le_of_eq same.symm)

/-- A parameter that is declared stays declared even if it cannot be given its value. -/
theorem step_addParameter {added : Parameter} {value : Datum α}
    (ended : whole → (outcome (addParameter added value) session).1.toBool) :
    Step whole session (outcome (addParameter added value) session).2 := by
  simp only [addParameter, outcome_bind, outcome_theModel, outcome_ofExcept] at ended ⊢
  rcases declared : session.model.symbols.addParameter added with _ | symbols
  · exact .refl
  · rw [declared] at ended
    simp only [Except.mapError, outcome_setModel] at ended ⊢
    obtain ⟨memory, same, assigned⟩ := outcome_assign [(added.name, value)]
      { session with model := { session.model with symbols } }
    rw [assigned] at ended ⊢
    exact .change (.declareParameter declared fun holds => eq_ok_of_toBool (ended holds))
      (Nat.le_of_eq same.symm)

theorem step_setParameters {values : List (String × Datum α)}
    (ended : whole → (outcome (setParameters values) session).1.toBool) :
    Step whole session (outcome (setParameters values) session).2 := by
  simp only [setParameters, outcome_bind, outcome_theModel, outcome_ofExcept] at ended ⊢
  generalize Error.checkNames values = named at ended ⊢
  rcases named with _ | _
  · exact .refl
  · dsimp only [Except.mapError] at ended ⊢
    rcases outcome_checkDeclared session.model.symbols.isParameter "parameter assignment"
      (values.map (·.1)) session with ⟨checked, declared⟩ | ⟨reason, checked⟩
    · rw [checked] at ended ⊢
      refine step_assign (fun value member => ?_) ended
      exact List.contains_iff_mem.mp (declared value.1 (List.mem_map_of_mem member))
    · rw [checked]
      exact .refl

theorem step_setSteadyState {name : String} {level slope : Datum α}
    (ended : whole → (outcome (setSteadyState name level slope) session).1.toBool) :
    Step whole session (outcome (setSteadyState name level slope) session).2 := by
  simp only [setSteadyState, outcome_bind, outcome_theModel, outcome_setModel,
    outcome_ofExcept] at ended ⊢
  rcases outcome_checkDeclared session.model.symbols.isVariable "steady state assignment" [name]
    session with ⟨checked, declared⟩ | ⟨reason, checked⟩
  · rw [checked] at ended ⊢
    refine .change (.solve ?_ fun holds => eq_ok_of_toBool (ended holds)) (Nat.le_refl _)
    exact List.contains_iff_mem.mp (declared name (List.mem_singleton_self name))
  · rw [checked]
    exact .refl

end Declarations

section Equations

omit [Scalar α] in
theorem nameFor_ne_empty (model : Model α) (name : String) : nameFor model name ≠ "" := by
  unfold nameFor
  split
  · intro empty
    have := congrArg String.length empty
    simp at this
  · rename_i given
    simpa using given

/-- An equation that is compiled is stated, and nothing changes if it cannot be compiled. -/
theorem step_appendToHorizon {name source : String} {expression : Expression α} {linear : Bool}
    (named : name ≠ "") (fresh : ∀ other ∈ session.model.equations, other.name ≠ name)
    (declares : session.model.symbols.Declares expression.references) :
    Step whole session (outcome (appendToHorizon name expression linear source) session).2 := by
  have grown := (session.model.registry.keeps_compile_nextId name
    ⟨expression, expression.references⟩ session.memory.nextId session.memory (Nat.le_refl _)).1
  simp only [appendToHorizon, append, outcome_bind, outcome_theModel, outcome_act]
  rcases compiled : outcome (session.model.registry.compile name
    ⟨expression, expression.references⟩) session.memory with ⟨_ | ⟨evaluator, registry⟩, memory⟩
  · rw [compiled] at grown
    exact .keep rfl grown
  · let equation : Equation α :=
      ⟨name, expression, expression.references, evaluator, linear, source⟩
    have taken : session.model.registry.Takes equation session.memory.nextId memory.nextId
        registry := Registry.takes_of_compile compiled
    exact .state named fresh rfl declares taken rfl

theorem step_addEquation (text name : String) (linear : Bool) (session : Session α) :
    Step whole session (outcome (addEquation text name linear) session).2 := by
  simp only [addEquation, outcome_bind, outcome_theModel, outcome_ofExcept]
  rcases outcome_checkNewEquation session.model (nameFor session.model name) session with
    ⟨checked, fresh⟩ | ⟨reason, checked⟩
  · rw [checked]
    dsimp only
    rcases read : Expression.ofText session.model.symbols (nameFor session.model name) text with
      _ | expression
    · exact .refl
    · exact step_appendToHorizon (nameFor_ne_empty _ _) fresh
        (Expression.isDeclared_ofText read).declares
  · rw [checked]
    exact .refl

theorem step_addExpression (expression : Expression α) (name : String) (linear : Bool)
    (session : Session α) :
    Step whole session (outcome (addExpression expression name linear) session).2 := by
  simp only [addExpression, outcome_bind, outcome_theModel, outcome_ofExcept]
  rcases outcome_checkNewEquation session.model (nameFor session.model name) session with
    ⟨checked, fresh⟩ | ⟨reason, checked⟩
  · rw [checked]
    dsimp only
    rcases declared : expression.checkReferences session.model.symbols
      ("equation '" ++ nameFor session.model name ++ "'") with _ | _
    · exact .refl
    · exact step_appendToHorizon (nameFor_ne_empty _ _) fresh
        (Expression.isDeclared_of_checkReferences declared).declares
  · rw [checked]
    exact .refl

end Equations

section Options

theorem outcome_recompileEquation {equation : Equation α} {evaluator : Evaluator α}
    {registry : Registry α} {memory : Memory α}
    (made : outcome (session.model.registry.compile equation.name equation.key) session.memory =
      (.ok (evaluator, registry), memory)) :
    outcome (recompileEquation equation) session =
      (.ok { equation with evaluator },
        { session with model := { session.model with registry }, memory }) :=
  outcome_bind_eq_ok.mpr ⟨_, _, outcome_theModel session,
    outcome_bind_eq_ok.mpr ⟨_, _, outcome_act_eq_ok.mpr ⟨memory, made, rfl⟩, rfl⟩⟩

/-- Equations that are compiled one after another join those that the registry has taken up, and
none of them is refused if there is room for an input. -/
theorem exists_recompileEach (session : Session α) {limit : Int}
    {compiled stated : List (Equation α)} (positive : 1 ≤ limit)
    (compiles : Registry.Compiles limit session.model.registry compiled session.memory.nextId)
    (covers : ∀ equation ∈ stated, equation.references.Covers equation.expression) :
    ∃ again registry memory,
      outcome (stated.mapM recompileEquation) session =
        (.ok again, { session with model := { session.model with registry }, memory }) ∧
      List.Forall₂ Equation.Renews stated again ∧
      Registry.Compiles limit registry (compiled ++ again) memory.nextId ∧
      session.memory.nextId ≤ memory.nextId := by
  induction stated generalizing session compiled with
  | nil =>
      exact ⟨[], _, _, rfl, .nil, (List.append_nil compiled).symm ▸ compiles, Nat.le_refl _⟩
  | cons first rest ih =>
      obtain ⟨coversFirst, coversRest⟩ := List.forall_mem_cons.mp covers
      have roomy : 0 < first.key.references.inputCount → 1 ≤ session.model.registry.chunkLimit :=
        fun _ => compiles.chunkLimit_eq.symm ▸ positive
      have coversKey : first.key.references.Covers first.key.expression := coversFirst
      obtain ⟨evaluator, registry, memory, made⟩ :=
        Registry.exists_compile roomy coversKey first.name session.memory
      have taken : session.model.registry.Takes { first with evaluator } session.memory.nextId
          memory.nextId registry := Registry.takes_of_compile made
      obtain ⟨again, later, after, ran, renewed, compilesAll, grown⟩ := ih
        { session with model := { session.model with registry }, memory }
        (compiles.further taken) coversRest
      refine ⟨{ first with evaluator } :: again, later, after, ?_, .cons rfl renewed, ?_,
        taken.le.trans grown⟩
      · rw [List.mapM_cons]
        exact outcome_bind_eq_ok.mpr ⟨_, _, outcome_recompileEquation made,
          outcome_bind_eq_ok.mpr ⟨_, _, ran, rfl⟩⟩
      · rwa [List.append_cons]

/-- Compiling all equations of a sound model anew does not fail. -/
theorem exists_recompile (session : Session α) (sound : session.model.IsSound)
    (positive : 1 ≤ session.model.options.chunkLimit) :
    ∃ equations registry memory,
      outcome recompile session =
        (.ok (), { session with model := { session.model with equations, registry }, memory }) ∧
      List.Forall₂ Equation.Renews session.model.equations equations ∧
      Registry.Compiles session.model.options.chunkLimit registry equations memory.nextId ∧
      session.memory.nextId ≤ memory.nextId := by
  have covers : ∀ equation ∈ session.model.equations,
      equation.references.Covers equation.expression := by
    intro equation member
    rw [(sound.equations equation member).references_eq]
    exact equation.expression.covers_references
  obtain ⟨equations, registry, memory, ran, renewed, compiles, grown⟩ := exists_recompileEach
    { session with model := { session.model with
      registry := { chunkLimit := session.model.options.chunkLimit } } }
    positive (.nothing session.memory.nextId) covers
  refine ⟨equations, registry,
    { memory with log := memory.log ++ [.recompiled equations.length session.model.name
      session.model.options.chunkLimit] }, ?_, renewed, compiles, grown⟩
  simp only [recompile, outcome_bind, outcome_theModel, outcome_setModel, ran, outcome_act,
    outcome_record]

/-- Options have room for an input. -/
theorem one_le_of_override [Numeral α] {options chosen : Options α} {settings : Settings α}
    (accepted : options.override settings = .ok chosen) : 1 ≤ chosen.chunkLimit := by
  obtain ⟨_, _, read⟩ := bind_eq_ok.mp accepted
  simp only [Options.ofSettings, bind_eq_ok] at read
  obtain ⟨_, _, _, _, limit, _, rest⟩ := read
  split at rest
  · cases rest
  · obtain ⟨_, _, rest⟩ := bind_eq_ok.mp rest
    split at rest
    · cases rest
    · rename_i admitted
      cases rest
      exact Int.not_lt.mp admitted

/-- Options are chosen, and all equations are compiled anew if the limit has changed. -/
theorem step_update [Numeral α] (sound : session.model.IsSound) (settings overrides : Settings α) :
    Step whole session (outcome (update settings overrides) session).2 := by
  simp only [update, outcome_bind, outcome_theModel, outcome_ofExcept]
  rcases Options.checkName overrides settingsName with _ | _
  · exact .refl
  · dsimp only [Except.mapError]
    rcases accepted : session.model.options.override (settings.insertAll overrides.entries) with
      _ | options
    · exact .refl
    · by_cases limited : options.chunkLimit = session.model.options.chunkLimit
      · simp only [outcome_setModel, limited, ne_eq, not_true_eq_false, if_false]
        exact .change (.choose limited) (Nat.le_refl _)
      · obtain ⟨equations, registry, memory, ran, renewed, compiles, grown⟩ := exists_recompile
          { session with model := { session.model with options } }
          ⟨sound.symbols, sound.equations, sound.registry⟩ (one_le_of_override accepted)
        simp only [outcome_setModel, ne_eq, limited, not_false_eq_true, if_true, outcome_bind, ran,
          outcome_theModel]
        exact .recompile renewed compiles grown rfl

end Options

section Forms

variable {model : Model α}

omit [Scalar α] in
theorem keeps_model_act {β : Type} (action : Action α β) :
    Keeps (fun session => session.model = model) (act action) fun _ => True :=
  fun _ same => ⟨same, fun _ _ => trivial⟩

omit [Scalar α] in
theorem keeps_model_theModel :
    Keeps (fun session => session.model = model) (theModel (α := α)) fun _ => True :=
  fun _ same => ⟨same, fun _ _ => trivial⟩

theorem keeps_model_build (variant : Variant) :
    Keeps (fun session => session.model = model) (build (α := α) variant) fun _ => True :=
  keeps_model_theModel.bind fun _ _ => keeps_model_act _

theorem keeps_model_refresh :
    Keeps (fun session => session.model = model) (refresh (α := α)) fun _ => True := by
  refine keeps_model_theModel.bind fun _ _ => ?_
  refine (keeps_model_build _).bind fun form _ => ?_
  exact (Keeps.modify fun _ same => same).bind fun _ _ => .pure trivial

theorem keeps_model_form :
    Keeps (fun session => session.model = model) (form (α := α)) fun _ => True := by
  refine Keeps.get.bind fun session _ => ?_
  rcases session.active with _ | found
  · exact keeps_model_refresh
  · exact .pure trivial

theorem keeps_model_residualsAlong (name : String) (trajectory : Trajectory α)
    (dates : Option (List Int)) :
    Keeps (fun session => session.model = model) (residualsAlong name trajectory dates)
      fun _ => True := by
  have each : ∀ (form : EquationForm α) data horizon references date,
      Keeps (fun session => session.model = model) (residualAt form data horizon references date)
        fun _ => True := by
    intro form data horizon references date
    unfold residualAt
    split
    · exact .pure trivial
    · exact (keeps_model_act _).bind fun _ _ => keeps_model_act _
  refine keeps_model_theModel.bind fun model _ => ?_
  refine (keeps_model_act _).bind fun equation _ => ?_
  refine (keeps_model_act _).bind fun data _ => ?_
  refine .guard fun _ => ?_
  refine (keeps_model_act _).bind fun references _ => ?_
  refine (keeps_model_act _).bind fun form _ => ?_
  refine (keeps_model_act _).bind fun _ _ => ?_
  exact (Keeps.mapM fun date _ => each form data model.horizon references date).weaken
    fun _ _ => trivial

/-- A form that is installed is chosen by the options from then on. -/
theorem step_install (variant : Variant)
    (grown : session.memory.nextId ≤ (outcome (install variant) session).2.memory.nextId) :
    Step whole session (outcome (install variant) session).2 := by
  simp only [install, outcome_bind, outcome_build] at grown ⊢
  generalize (outcome (ModelForm.ofModel session.model variant) session.memory).1 = built
    at grown ⊢
  rcases built with _ | form
  · exact .keep rfl grown
  · exact .change (.choose rfl) grown

end Forms

section Numbers

/-- Evaluations use no numbers up. -/
theorem isStable_nextId (known : Evaluator α → Prop) (calibration : Calibration α) (number : Nat) :
    IsStable known calibration fun memory => number ≤ memory.nextId where
  record _ := .modify fun _ grown => grown
  bind evaluator _ memory grown := by
    refine ⟨?_, fun _ _ => trivial⟩
    rw [Evaluator.outcome_bind_eq]
    split
    · exact grown
    · split <;> exact grown
  residualAndGradient evaluator _ array memory grown := by
    refine ⟨?_, fun _ _ => trivial⟩
    rw [Evaluator.outcome_residualAndGradient]
    split <;> exact grown
  freshId memory grown := ⟨Nat.le_succ_of_le grown, fun _ _ => trivial⟩
  storeJacobian _ _ := .modify fun _ grown => grown

/-- Numbers that have been handed out stay handed out. -/
theorem isLasting_nextId (number : Nat) :
    IsLasting (fun _ => True) (fun session : Session α => number ≤ session.memory.nextId)
      (fun _ => True) (fun memory => number ≤ memory.nextId) fun _ => True where
  parts _ := ⟨fun grown => ⟨trivial, grown, fun _ _ => trivial⟩, fun parts => parts.2.1⟩
  declare _ _ _ _ _ := trivial
  choose _ _ _ := trivial
  calm model _ := (isStable_nextId _ model.calibration number).toIsCalm
  stable model _ := isStable_nextId _ model.calibration number
  equations _ _ _ _ := trivial
  forms _ _ _ _ := trivial
  built model _ variant :=
    ((isStable_nextId (fun _ => True) model.calibration number).keeps_modelForm
      (fun _ _ => trivial) variant).weaken fun _ _ => trivial
  copied form _ := by
    cases form with
    | plain system =>
        have kept := (isStable_nextId (fun _ => True) { revision := 0 } number).keeps_copy system
        exact kept.map fun _ _ => trivial
    | linearized linearization => exact .throw _
    | firstOrder space => exact .throw _

end Numbers

end Session

namespace Request

open Session

/-- Whether a request only builds, copies or evaluates. -/
def isReading : Request α → Bool
  | .refresh | .hold | .build .. | .copy .. | .residuals .. | .residualsInto ..
  | .residualsAndJacobian .. | .residualsAlong .. | .equationResidual .. | .equationGradient .. =>
    true
  | _ => false

variable {whole : Prop} {held : List (ModelForm α)} {session : Session α} [Numeral α]

/-- A request that only reads leaves the model as it is. -/
theorem keeps_model_of_isReading {model : Model α} {request : Request α}
    (reading : request.isReading) :
    Keeps (fun session => session.model = model) (request.action held) fun forms =>
      ∀ form ∈ forms, True := by
  have chosenStays : ∀ place,
      Keeps (fun session => session.model = model) (chosen held place) fun _ => True :=
    keeps_chosen (fun _ _ => trivial) keeps_model_form
  cases request with
  | refresh => exact keeps_without keeps_model_refresh
  | hold => exact keeps_holding keeps_model_form
  | build variant => exact keeps_holding (keeps_model_build variant)
  | copy place => exact (chosenStays place).bind fun _ _ => keeps_holding (keeps_model_act _)
  | residuals place point =>
      exact (chosenStays place).bind fun _ _ => keeps_without
        (keeps_model_theModel.bind fun _ _ => keeps_model_act _)
  | residualsInto place point buffer =>
      exact (chosenStays place).bind fun _ _ => keeps_without
        (keeps_model_theModel.bind fun _ _ => keeps_model_act _)
  | residualsAndJacobian place point =>
      exact (chosenStays place).bind fun _ _ => keeps_without
        (keeps_model_theModel.bind fun _ _ => keeps_model_act _)
  | residualsAlong name trajectory dates =>
      exact keeps_without (keeps_model_residualsAlong name trajectory dates)
  | equationResidual name inputs =>
      refine keeps_model_theModel.bind fun model _ => ?_
      exact (keeps_model_act _).bind fun equation _ => keeps_without (keeps_model_act _)
  | equationGradient name inputs =>
      refine keeps_model_theModel.bind fun model _ => ?_
      exact (keeps_model_act _).bind fun equation _ => keeps_without (keeps_model_act _)
  | _ => cases reading

theorem nextId_le_of_isQuiet {request : Request α} (quiet : request.isQuiet) :
    session.memory.nextId ≤ (outcome (request.action held) session).2.memory.nextId :=
  (keeps_quiet (isLasting_nextId session.memory.nextId) (fun _ _ => trivial) quiet session
    (Nat.le_refl _)).1

/-- Whatever a request does to a sound session, it does in steps. If it succeeds, values are stored
up to the last. -/
theorem steps_action (sound : session.IsSound) (request : Request α)
    (ended : whole → (outcome (request.action held) session).1.toBool) :
    ReflTransGen (Step whole) session (outcome (request.action held) session).2 := by
  have reads : request.isReading → request.isQuiet →
      ReflTransGen (Step whole) session (outcome (request.action held) session).2 := by
    intro reading quiet
    have same : (outcome (request.action held) session).2.model = session.model :=
      (keeps_model_of_isReading reading session rfl).1
    exact .single (.keep same (nextId_le_of_isQuiet quiet))
  have without : ∀ {β : Type} {action : SessionAction α β} {kept : List (ModelForm α)},
      (outcome (do let _ ← action; pure kept) session).2 = (outcome action session).2 ∧
      (outcome (do let _ ← action; pure kept) session).1.toBool =
        (outcome action session).1.toBool := by
    intro β action kept
    rw [outcome_then_pure]
    refine ⟨rfl, ?_⟩
    cases (outcome action session).1 <;> rfl
  cases request with
  | addVariable added =>
      rw [action, without.1]
      exact .single (step_addVariable added session)
  | addShock added =>
      rw [action, without.1]
      exact .single (step_addShock added session)
  | addParameter added value =>
      rw [action, without.2] at ended
      rw [action, without.1]
      exact .single (step_addParameter ended)
  | setParameters values =>
      rw [action, without.2] at ended
      rw [action, without.1]
      exact .single (step_setParameters ended)
  | setSteadyState name level slope =>
      rw [action, without.2] at ended
      rw [action, without.1]
      exact .single (step_setSteadyState ended)
  | addEquation text name linear =>
      rw [action, without.1]
      exact .single (step_addEquation text name linear session)
  | addExpression expression name linear =>
      rw [action, without.1]
      exact .single (step_addExpression expression name linear session)
  | update settings overrides =>
      rw [action, without.1]
      exact .single (step_update sound.model settings overrides)
  | install variant =>
      have grown : session.memory.nextId ≤
          (outcome ((Request.install variant).action held) session).2.memory.nextId :=
        nextId_le_of_isQuiet rfl
      rw [action, without.1] at grown ⊢
      exact .single (step_install variant grown)
  | _ => exact reads rfl rfl

theorem session_perform (request : Request α) (bench : Bench α) :
    (request.perform bench).session = (outcome (request.action bench.held) bench.session).2 := by
  rw [perform]
  rcases outcome (request.action bench.held) bench.session with ⟨_ | _, _⟩ <;> rfl

end Request

/-- Every model is reached from a new one in steps, whether requests succeed or fail. -/
theorem Reachable.steps [Numeral α] {bench : Bench α} (reachable : Reachable bench) :
    ∃ name options, ReflTransGen (Session.Step False) (.start name options) bench.session := by
  induction reachable with
  | start name options => exact ⟨name, options, .refl⟩
  | @step bench reachable request ih =>
      obtain ⟨name, options, steps⟩ := ih
      rw [request.session_perform]
      exact ⟨name, options, steps.trans
        (request.steps_action reachable.isSound.session fun impossible => impossible.elim)⟩

end Intertemporal
