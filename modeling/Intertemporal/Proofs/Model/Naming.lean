import Intertemporal.Proofs.Model.Wordings

/-!
# Names of equations

An equation that is stated with a name keeps it. One that is stated without a name gets one from the
number of equations that there are, whether or not it is free. Names that are made in this way are
all different, so the next one to be made is taken only if a request has given it before
(`Numbered.made_mem_iff`). An equation without a name is added unless this is so.
-/

namespace Intertemporal

variable {α : Type}

namespace Model

/-- The name that is made for an equation if some number of equations is there. -/
def madeName (count : Nat) : String := s!"eq_{count + 1}"

theorem madeName_injective : Function.Injective madeName := by
  intro first second same
  simpa [madeName] using same

/-- The names of the equations of a model, in order. -/
def equationNames (model : Model α) : List String := model.equations.map (·.name)

theorem length_equationNames (model : Model α) :
    model.equationNames.length = model.equations.length := List.length_map _

theorem mem_equationNames {model : Model α} {name : String} :
    name ∈ model.equationNames ↔ ∃ equation ∈ model.equations, equation.name = name := List.mem_map

end Model

/-- Names of equations in order, of which some were given and the others made. -/
inductive Numbered : List String → List String → Prop
  | nothing : Numbered [] []
  | made {names given : List String} (numbered : Numbered names given) :
      Numbered (names ++ [Model.madeName names.length]) given
  | given {names given : List String} (name : String) (numbered : Numbered names given) :
      Numbered (names ++ [name]) (given ++ [name])

/-- A name that is not made yet is taken if and only if it was given. -/
theorem Numbered.made_mem_iff {names given : List String} (numbered : Numbered names given)
    {count : Nat} (later : names.length ≤ count) :
    Model.madeName count ∈ names ↔ Model.madeName count ∈ given := by
  induction numbered with
  | nothing => rfl
  | @made names given numbered ih =>
      rw [List.length_append, List.length_singleton] at later
      have other : Model.madeName count ≠ Model.madeName names.length := by
        intro same
        have := Model.madeName_injective same
        omega
      rw [List.mem_append, List.mem_singleton, ih (by omega)]
      simp [other]
  | given name numbered ih =>
      rw [List.length_append] at later
      rw [List.mem_append, List.mem_append, ih (by omega)]

namespace Session

theorem nameFor_empty (model : Model α) :
    nameFor model "" = Model.madeName model.equations.length := rfl

theorem nameFor_of_ne_empty (model : Model α) {name : String} (given : name ≠ "") :
    nameFor model name = name := if_neg (by simpa using given)

/-- What happens to the names of the equations and to the room for an input, where `added` are the
names of new equations. -/
structure Names (session after : Session α) (added : List String) : Prop where
  names_eq : after.model.equationNames = session.model.equationNames ++ added
  room : 1 ≤ session.model.options.chunkLimit → 1 ≤ after.model.options.chunkLimit

theorem Names.of_eq {session after : Session α}
    (equations : after.model.equations = session.model.equations)
    (options : after.model.options = session.model.options) : session.Names after [] where
  names_eq := by rw [List.append_nil, Model.equationNames, equations, Model.equationNames]
  room room := options ▸ room

variable [Scalar α] {session : Session α}

section Statements

variable {name : String} {expression : Expression α} {linear : Bool}

theorem names_appendToHorizon (source : String) :
    let ended := outcome (appendToHorizon name expression linear source) session
    session.Names ended.2 (if ended.1.toBool then [name] else []) := by
  rcases compiled : outcome (session.model.registry.compile name
    ⟨expression, expression.references⟩) session.memory with ⟨_ | ⟨evaluator, registry⟩, memory⟩
  · simp only [appendToHorizon, append, outcome_bind, outcome_theModel, outcome_act, compiled]
    exact .of_eq rfl rfl
  · obtain ⟨after, ran, stated⟩ := outcome_appendToHorizon_of_compile compiled linear source
    rw [ran]
    refine ⟨?_, fun room => ?_⟩
    · rw [Model.equationNames, stated, Model.stating, List.map_append]
      rfl
    · rw [stated]
      exact room

/-- An equation is stated if its name is new and what it says can be checked. -/
theorem names_stating {ε β : Type} (refused : ε → Error α) (checked : Except ε β)
    (stated : β → Expression α) (source : String) :
    let made := nameFor session.model name
    let ended := outcome (do
      checkNewEquation session.model made
      let result ← ofExcept refused checked
      appendToHorizon made (stated result) linear source) session
    session.Names ended.2 (if ended.1.toBool then [made] else []) := by
  simp only [outcome_bind, outcome_ofExcept]
  rcases outcome_checkNewEquation session.model (nameFor session.model name) session with
    ⟨fresh, -⟩ | ⟨reason, taken⟩
  · rw [fresh]
    rcases checked with _ | result
    · exact .of_eq rfl rfl
    · exact names_appendToHorizon source
  · rw [taken]
    exact .of_eq rfl rfl

theorem names_addEquation (text : String) :
    let ended := outcome (addEquation text name linear) session
    session.Names ended.2 (if ended.1.toBool then [nameFor session.model name] else []) := by
  rw [addEquation, outcome_bind, outcome_theModel]
  exact names_stating .equation (Expression.ofText session.model.symbols _ text) id _

theorem names_addExpression :
    let ended := outcome (addExpression expression name linear) session
    session.Names ended.2 (if ended.1.toBool then [nameFor session.model name] else []) := by
  rw [addExpression, outcome_bind, outcome_theModel]
  exact names_stating .equation (expression.checkReferences session.model.symbols _)
    (fun _ => expression) ""

/-- What is read and has a new name is added, if there is room for an input. -/
theorem exists_addEquation_of_new {text place : String}
    (room : 1 ≤ session.model.registry.chunkLimit)
    (read : Expression.ofText session.model.symbols place text = .ok expression)
    (fresh : ∀ other ∈ session.model.equations, other.name ≠ nameFor session.model name) :
    ∃ equation after, outcome (addEquation text name linear) session = (.ok equation, after) := by
  have readHere :=
    Expression.ofText_of_name session.model.symbols read (nameFor session.model name)
  have roomy : 0 < expression.references.inputCount → 1 ≤ session.model.registry.chunkLimit :=
    fun _ => room
  obtain ⟨equation, after, ran, -⟩ := exists_appendToHorizon roomy
    (String.ofList (Text.trim text.toList))
  refine ⟨equation, after, ?_⟩
  simp only [addEquation, outcome_bind, outcome_theModel, outcome_ofExcept,
    outcome_checkNewEquation_of_new fresh, readHere]
  exact ran

/-- A name that an equation has is refused, whatever the text. -/
theorem outcome_addEquation_of_taken (text : String)
    (taken : nameFor session.model name ∈ session.model.equationNames) :
    outcome (addEquation text name linear) session =
      (.error (.duplicateEquation (nameFor session.model name)), session) := by
  obtain ⟨equation, member, same⟩ := Model.mem_equationNames.mp taken
  have there : (session.model.equations.any (·.name == nameFor session.model name)) = true :=
    List.any_eq_true.mpr ⟨equation, member, by simpa using same⟩
  simp only [addEquation, outcome_bind, outcome_theModel, checkNewEquation, there, if_true,
    outcome_throw]

end Statements

section Declarations

theorem names_addVariable (added : Variable) :
    session.Names (outcome (addVariable added) session).2 [] := by
  simp only [addVariable, outcome_bind, outcome_theModel, outcome_ofExcept]
  rcases session.model.symbols.addVariable added with _ | symbols
  · exact .of_eq rfl rfl
  · exact .of_eq rfl rfl

theorem names_addShock (added : Shock) :
    session.Names (outcome (addShock added) session).2 [] := by
  simp only [addShock, outcome_bind, outcome_theModel, outcome_ofExcept]
  rcases session.model.symbols.addShock added with _ | symbols
  · exact .of_eq rfl rfl
  · exact .of_eq rfl rfl

theorem names_assign (values : List (String × Datum α)) :
    session.Names (outcome (assign values) session).2 [] := by
  obtain ⟨memory, -, assigned⟩ := outcome_assign values session
  rw [assigned]
  exact .of_eq rfl rfl

theorem names_addParameter (added : Parameter) (value : Datum α) :
    session.Names (outcome (addParameter added value) session).2 [] := by
  simp only [addParameter, outcome_bind, outcome_theModel, outcome_ofExcept]
  rcases session.model.symbols.addParameter added with _ | symbols
  · exact .of_eq rfl rfl
  · let declared : Session α := { session with model := { session.model with symbols } }
    have assigned : declared.Names (outcome (assign [(added.name, value)]) declared).2 [] :=
      names_assign _
    exact ⟨assigned.names_eq, assigned.room⟩

theorem names_setParameters (values : List (String × Datum α)) :
    session.Names (outcome (setParameters values) session).2 [] := by
  simp only [setParameters, outcome_bind, outcome_theModel, outcome_ofExcept]
  rcases Error.checkNames values with _ | _
  · exact .of_eq rfl rfl
  · dsimp only [Except.mapError]
    rcases outcome_checkDeclared session.model.symbols.isParameter "parameter assignment"
      (values.map (·.1)) session with ⟨checked, -⟩ | ⟨reason, checked⟩
    · rw [checked]
      exact names_assign values
    · rw [checked]
      exact .of_eq rfl rfl

theorem names_setSteadyState (name : String) (level slope : Datum α) :
    session.Names (outcome (setSteadyState name level slope) session).2 [] := by
  simp only [setSteadyState, outcome_bind, outcome_theModel, outcome_setModel, outcome_ofExcept]
  rcases outcome_checkDeclared session.model.symbols.isVariable "steady state assignment" [name]
    session with ⟨checked, -⟩ | ⟨reason, checked⟩
  · rw [checked]
    exact .of_eq rfl rfl
  · rw [checked]
    exact .of_eq rfl rfl

theorem names_install (variant : Variant) :
    session.Names (outcome (install variant) session).2 [] := by
  simp only [install, outcome_bind, outcome_build]
  rcases (outcome (ModelForm.ofModel session.model variant) session.memory).1 with _ | form
  · exact .of_eq rfl rfl
  · exact ⟨(List.append_nil _).symm, id⟩

theorem names_update [Numeral α] (sound : session.model.IsSound) (settings overrides : Settings α) :
    session.Names (outcome (update settings overrides) session).2 [] := by
  simp only [update, outcome_bind, outcome_theModel, outcome_ofExcept]
  rcases Options.checkName overrides settingsName with _ | _
  · exact .of_eq rfl rfl
  · dsimp only [Except.mapError]
    rcases accepted : session.model.options.override (settings.insertAll overrides.entries) with
      _ | options
    · exact .of_eq rfl rfl
    · have room := one_le_of_override accepted
      by_cases limited : options.chunkLimit = session.model.options.chunkLimit
      · simp only [outcome_setModel, limited, ne_eq, not_true_eq_false, if_false]
        exact ⟨(List.append_nil _).symm, fun _ => room⟩
      · obtain ⟨equations, registry, memory, ran, renewed, -⟩ := exists_recompile
          { session with model := { session.model with options } }
          ⟨sound.symbols, sound.equations, sound.registry⟩ room
        simp only [outcome_setModel, ne_eq, limited, not_false_eq_true, if_true, outcome_bind, ran,
          outcome_theModel]
        refine ⟨?_, fun _ => room⟩
        rw [List.append_nil]
        exact map_eq_map_of_forall₂ renewed fun equation _ again renews => by rw [renews]

end Declarations

end Session

namespace Request

/-- The name that a request asks for an equation to be stated, empty if it asks for none. -/
def requestedName? : Request α → Option String
  | .addEquation _ name _ => some name
  | .addExpression _ name _ => some name
  | _ => none

variable [Scalar α] [Numeral α] {bench : Bench α}

/-- The name that was requested for the equation that a request adds, if it adds one. -/
def addedName? (request : Request α) (bench : Bench α) : Option String :=
  if request.succeeds bench then request.requestedName? else none

theorem names_of_action {β : Type} {request : Request α} {action : SessionAction α β}
    {added : List String} (without : request.action bench.held = do let _ ← action; pure [])
    (names : bench.session.Names (outcome action bench.session).2 added) :
    bench.session.Names (request.perform bench).session added := by
  rw [session_perform, without, Session.outcome_then_pure]
  exact names

theorem names_perform_of_none {request : Request α} (sound : bench.session.IsSound)
    (none : request.requestedName? = none) :
    bench.session.Names (request.perform bench).session [] := by
  have reads : request.isReading → bench.session.Names (request.perform bench).session [] := by
    intro reading
    have same : (outcome (request.action bench.held) bench.session).2.model =
        bench.session.model := (keeps_model_of_isReading reading bench.session rfl).1
    rw [session_perform]
    exact .of_eq (congrArg (·.equations) same) (congrArg (·.options) same)
  cases request with
  | addVariable added => exact names_of_action rfl (Session.names_addVariable added)
  | addShock added => exact names_of_action rfl (Session.names_addShock added)
  | addParameter added value => exact names_of_action rfl (Session.names_addParameter added value)
  | setParameters values => exact names_of_action rfl (Session.names_setParameters values)
  | setSteadyState name level slope =>
      exact names_of_action rfl (Session.names_setSteadyState name level slope)
  | update settings overrides =>
      exact names_of_action rfl (Session.names_update sound.model settings overrides)
  | install variant => exact names_of_action rfl (Session.names_install variant)
  | addEquation | addExpression => cases none
  | _ => exact reads rfl

/-- What a request does to the names of the equations. -/
theorem names_perform (request : Request α) (sound : bench.session.IsSound) :
    bench.session.Names (request.perform bench).session
      ((request.addedName? bench).map (Session.nameFor bench.session.model)).toList := by
  have stating : ∀ {name : String} {action : SessionAction α (Equation α)},
      request.requestedName? = some name →
      request.action bench.held = (do let _ ← action; pure []) →
      bench.session.Names (outcome action bench.session).2
        (if (outcome action bench.session).1.toBool then
          [Session.nameFor bench.session.model name] else []) →
      bench.session.Names (request.perform bench).session
        ((request.addedName? bench).map (Session.nameFor bench.session.model)).toList := by
    intro name action asked without names
    have ended : request.succeeds bench = (outcome action bench.session).1.toBool := by
      rw [succeeds, without, Session.outcome_then_pure]
      cases (outcome action bench.session).1 <;> rfl
    rw [addedName?, ended, asked]
    refine names_of_action without ?_
    split at names
    · rename_i added
      rw [if_pos added]
      exact names
    · rename_i refused
      rw [if_neg refused]
      exact names
  cases asked : request.requestedName? with
  | none =>
      rw [addedName?, asked, ite_self]
      exact names_perform_of_none sound asked
  | some name =>
      cases request with
      | addEquation text name linear => exact stating rfl rfl (Session.names_addEquation text)
      | addExpression expression name linear => exact stating rfl rfl Session.names_addExpression
      | _ => cases asked

end Request

namespace Bench

variable [Scalar α] [Numeral α]

/-- The names that requests in order give the equations that they add. -/
def givenNames (bench : Bench α) : List (Request α) → List String
  | [] => []
  | request :: rest =>
    ((request.addedName? bench).filter (· ≠ "")).toList ++ (request.perform bench).givenNames rest

/-- What requests in order do to the names of the equations and to the room for an input. -/
theorem numbered_run {bench : Bench α} (reachable : Reachable bench)
    (room : 1 ≤ bench.session.model.options.chunkLimit) {given : List String}
    (numbered : Numbered bench.session.model.equationNames given) (requests : List (Request α)) :
    1 ≤ (bench.run requests).session.model.options.chunkLimit ∧
      Numbered (bench.run requests).session.model.equationNames
        (given ++ bench.givenNames requests) := by
  induction requests generalizing bench given with
  | nil => exact ⟨room, (List.append_nil given).symm ▸ numbered⟩
  | cons request rest ih =>
      have names := request.names_perform reachable.isSound.session
      rw [givenNames, ← List.append_assoc]
      refine ih (reachable.step request) (names.room room) ?_
      rw [names.names_eq]
      cases request.addedName? bench with
      | none => simpa using numbered
      | some name =>
          by_cases empty : name = ""
          · subst empty
            simpa [Session.nameFor_empty, ← Model.length_equationNames, Option.filter]
              using numbered.made
          · simpa [Session.nameFor_of_ne_empty _ empty, empty, Option.filter]
              using numbered.given name

end Bench

/-- An equation without a name is added unless an equation that was added before was given the name
that is made for it. -/
theorem Reachable.outcome_addEquation_unnamed [Scalar α] [Numeral α] (name : String)
    {options : Options α} (room : 1 ≤ options.chunkLimit) (requests : List (Request α)) :
    let origin : Bench α := { session := .start name options }
    let session := (origin.run requests).session
    let made := Model.madeName session.model.equations.length
    ∀ {text place : String} {expression : Expression α},
      Expression.ofText session.model.symbols place text = .ok expression → ∀ linear : Bool,
        (made ∉ origin.givenNames requests → ∃ equation after,
          outcome (Session.addEquation text "" linear) session = (.ok equation, after) ∧
            equation.name = made ∧ equation.expression = expression ∧
            (∀ other ∈ session.model.equations, other.name ≠ equation.name) ∧
            after.model.equations = session.model.equations ++ [equation]) ∧
        (made ∈ origin.givenNames requests →
          outcome (Session.addEquation text "" linear) session =
            (.error (.duplicateEquation made), session)) := by
  intro origin session made text place expression read linear
  have start : Reachable origin := .start name options
  have reachable : Reachable (origin.run requests) := start.run requests
  obtain ⟨positive, numbered⟩ := Bench.numbered_run start room .nothing requests
  have taken : made ∈ session.model.equationNames ↔ made ∈ origin.givenNames requests :=
    numbered.made_mem_iff (Nat.le_of_eq session.model.length_equationNames)
  refine ⟨fun new => ?_, fun given => ?_⟩
  · have fresh : ∀ other ∈ session.model.equations, other.name ≠ made :=
      fun other member same => new (taken.mp (Model.mem_equationNames.mpr ⟨other, member, same⟩))
    have limit : 1 ≤ session.model.registry.chunkLimit :=
      positive.trans_eq reachable.isFiled.chunkLimit_eq.symm
    obtain ⟨equation, after, ran⟩ : ∃ equation after,
        outcome (Session.addEquation text "" linear) session = (.ok equation, after) :=
      Session.exists_addEquation_of_new limit read fresh
    obtain ⟨named, states, -, equations⟩ := Session.of_addEquation_eq_ok read ran
    have named : equation.name = made := named
    exact ⟨equation, after, ran, named, states, named ▸ fresh, equations⟩
  · exact Session.outcome_addEquation_of_taken text (taken.mpr given)

/-- A model of two series in which nothing is stated. -/
noncomputable def unstated : Bench ℝ :=
  { session := .start "unstated" { tolerance := 0, variant := .plain, chunkLimit := 4 } }

/-- Requests to declare two series and to state that a number is zero, under a given name. -/
noncomputable def statedAs (name : String) : List (Request ℝ) :=
  [.addVariable { name := "x" }, .addVariable { name := "y" },
    .addExpression (.constant 1) name false]

/-- After an equation of another name, an equation without a name is the second one. -/
theorem Reachable.outcome_addEquation_second :
    ∃ equation after,
      outcome (Session.addEquation "lag(x) - y[t+1]" "" false)
        (unstated.run (statedAs "first")).session = (.ok equation, after) ∧
      equation.name = "eq_2" := by
  have read : Expression.ofText (unstated.run (statedAs "first")).session.model.symbols ""
      "lag(x) - y[t+1]" = .ok (.binary .sub (.series ⟨"x", -1⟩) (.series ⟨"y", 1⟩)) :=
    Expression.ofText_lag_sub
  have new : Model.madeName 1 ∉ unstated.givenNames (statedAs "first") := by decide +kernel
  obtain ⟨equation, after, ran, named, -⟩ :=
    (Reachable.outcome_addEquation_unnamed "unstated" (by decide) (statedAs "first") read
      false).1 new
  exact ⟨equation, after, ran, named⟩

/-- After an equation with the name of the second one, no equation can be added without a name. -/
theorem Reachable.outcome_addEquation_clash :
    ¬∀ (requests : List (Request ℝ)) (text place : String) (expression : Expression ℝ),
      Expression.ofText (unstated.run requests).session.model.symbols place text =
          .ok expression →
        ∃ equation after, outcome (Session.addEquation text "" false)
          (unstated.run requests).session = (.ok equation, after) := by
  intro added
  have read : Expression.ofText (unstated.run (statedAs "eq_2")).session.model.symbols ""
      "lag(x) - y[t+1]" = .ok (.binary .sub (.series ⟨"x", -1⟩) (.series ⟨"y", 1⟩)) :=
    Expression.ofText_lag_sub
  obtain ⟨equation, after, ran⟩ := added _ _ _ _ read
  have taken : Session.nameFor (unstated.run (statedAs "eq_2")).session.model "" ∈
      (unstated.run (statedAs "eq_2")).session.model.equationNames := by
    decide +kernel
  rw [Session.outcome_addEquation_of_taken _ taken] at ran
  cases ran

end Intertemporal
