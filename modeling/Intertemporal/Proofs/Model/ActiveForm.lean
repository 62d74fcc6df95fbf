import Intertemporal.Proofs.Model.FirstOrder
import Intertemporal.Proofs.Model.Steps

/-!
# The active form is current

The active form is kept from one evaluation to the next. It is put away by hand where the structure
of the model changes, replaced together with the options where a form is installed, and left alone
elsewhere, also where a request fails halfway. In every state of a run it is nevertheless of the
kind that the options choose, and its system has the equations, the columns and the window that the
model has at the time (`Reachable.suits_active`).

An operation that leaves the active form alone leaves alone what forms are built from, which is the
frame of the model.
-/

namespace Intertemporal

variable {α : Type}

/-- The forms that a variant asks for. A first-order form rests on a linearization of all equations,
but only the variant `full` asks for one as such. -/
def Variant.Builds : Variant → ModelForm α → Prop
  | .plain, .plain _ => True
  | .selective, .linearized linearization => linearization.whole = false
  | .full, .linearized linearization => linearization.whole = true
  | .firstOrder, .firstOrder space => space.linearization.whole = true
  | _, _ => False

/-- Two models alike in what the structure of their forms depends on. -/
structure Model.SharesFrame (first second : Model α) : Prop where
  variant_eq : first.options.variant = second.options.variant
  equations_eq : first.equations = second.equations
  columns_eq : first.columns = second.columns
  horizon_eq : first.horizon = second.horizon

/-- A form of the kind that the options of a model choose, with the structure of the model. -/
structure ModelForm.Suits (form : ModelForm α) (model : Model α) : Prop where
  builds : model.options.variant.Builds form
  isOf : form.system.IsOf model

theorem ModelForm.Suits.of_sharesFrame {form : ModelForm α} {first second : Model α}
    (suits : form.Suits first) (shares : first.SharesFrame second) : form.Suits second := by
  rcases suits with ⟨builds, equations, columns, lags, leads⟩
  rcases shares with ⟨variant, sameEquations, sameColumns, sameHorizon⟩
  refine ⟨variant ▸ builds, equations.trans sameEquations, columns.trans sameColumns, ?_, ?_⟩
  · rw [lags, sameHorizon]
  · rw [leads, sameHorizon]

section Kinds

variable {form : ModelForm α} {model : Model α}

theorem ModelForm.Suits.isLinearized_iff (suits : form.Suits model) :
    form.isLinearized ↔ model.options.variant = .full := by
  have builds := suits.builds
  rcases chosen : model.options.variant with _ | _ | _ | _ <;> rw [chosen] at builds <;>
    cases form <;> simp_all [Variant.Builds, ModelForm.isLinearized]

theorem ModelForm.Suits.isFirstOrder_iff (suits : form.Suits model) :
    form.isFirstOrder ↔ model.options.variant = .firstOrder := by
  have builds := suits.builds
  rcases chosen : model.options.variant with _ | _ | _ | _ <;> rw [chosen] at builds <;>
    cases form <;> simp_all [Variant.Builds, ModelForm.isFirstOrder]

end Kinds

theorem ModelForm.IsSound.sound_system {form : ModelForm α} (sound : form.IsSound) :
    form.system.IsSound := by
  cases form with
  | plain system => exact sound
  | linearized linearization => exact sound.system
  | firstOrder space => exact sound.system

section Building

variable [Scalar α]

theorem Keeps.any {σ ε β : Type} {action : ExceptT ε (StateM σ) β} :
    Keeps (fun _ => True) action fun _ => True :=
  fun _ _ => ⟨trivial, fun _ _ => trivial⟩

theorem isStable_any (calibration : Calibration α) :
    IsStable (fun _ => True) calibration fun _ => True where
  record _ := .any
  bind _ _ := .any
  residualAndGradient _ _ _ := .any
  freshId := .any
  storeJacobian _ _ := .any

variable {model : Model α}

theorem System.keeps_isOf :
    Keeps (fun _ => True) (System.ofModel model) fun system => system.IsOf model :=
  ((isStable_any model.calibration).keeps_ofModel model).weaken fun _ built => built.1

theorem Linearization.keeps_isOf (whole : Bool) :
    Keeps (fun _ => True) (Linearization.ofModel model whole) fun linearization =>
      linearization.whole = whole ∧ linearization.system.IsOf model := by
  refine Keeps.any.bind fun _ _ => ?_
  refine System.keeps_isOf.bind fun system isOf => ?_
  refine Keeps.any.bind fun point _ => ?_
  refine Keeps.any.bind fun _ _ => ?_
  refine Keeps.any.bind fun forms _ => ?_
  exact .optional .any (Keeps.any.bind fun _ _ => .pure ⟨rfl, isOf⟩)

theorem StateSpace.keeps_isOf :
    Keeps (fun _ => True) (StateSpace.ofModel model) fun space =>
      space.linearization.whole = true ∧ space.linearization.system.IsOf model := by
  refine (Linearization.keeps_isOf true).bind fun linearization made => ?_
  refine .guard fun _ => ?_
  refine Keeps.any.bind fun found _ => ?_
  refine Keeps.any.bind fun entries _ => ?_
  exact Keeps.any.bind fun _ _ => .pure made

/-- A form that is built for a variant is of its kind and has the structure of the model. -/
theorem ModelForm.keeps_builds (variant : Variant) :
    Keeps (fun _ => True) (ModelForm.ofModel model variant) fun form =>
      variant.Builds form ∧ form.system.IsOf model := by
  cases variant with
  | plain => exact System.keeps_isOf.map fun _ isOf => ⟨trivial, isOf⟩
  | selective => exact (Linearization.keeps_isOf false).map fun _ made => made
  | full => exact (Linearization.keeps_isOf true).map fun _ made => made
  | firstOrder => exact StateSpace.keeps_isOf.map fun _ made => made

end Building

namespace Session

variable {session : Session α} {model : Model α}

/-- A session whose active form, if there is one, suits its model. -/
def IsCurrent (session : Session α) : Prop := ∀ form ∈ session.active, form.Suits session.model

theorem isCurrent_of_active_eq_none (away : session.active = none) : session.IsCurrent := by
  intro form active
  rw [away] at active
  cases active

/-- The active form may stay where the frame of the model does. -/
theorem IsCurrent.of_sharesFrame {after : Session α} (current : session.IsCurrent)
    (stays : after.active = session.active) (shares : session.model.SharesFrame after.model) :
    after.IsCurrent := by
  intro form active
  rw [stays] at active
  exact (current form active).of_sharesFrame shares

variable [Scalar α]

section Changes

theorem IsCurrent.addVariable (current : session.IsCurrent) (added : Variable) :
    (outcome (Session.addVariable added) session).2.IsCurrent := by
  simp only [Session.addVariable, outcome_bind, outcome_theModel, outcome_ofExcept]
  rcases session.model.symbols.addVariable added with _ | symbols
  · exact current
  · exact isCurrent_of_active_eq_none rfl

theorem IsCurrent.addShock (current : session.IsCurrent) (added : Shock) :
    (outcome (Session.addShock added) session).2.IsCurrent := by
  simp only [Session.addShock, outcome_bind, outcome_theModel, outcome_ofExcept]
  rcases session.model.symbols.addShock added with _ | symbols
  · exact current
  · exact isCurrent_of_active_eq_none rfl

/-- No form depends on parameter values that are given later, nor on how many are stored. -/
theorem IsCurrent.assign (current : session.IsCurrent) (values : List (String × Datum α)) :
    (outcome (Session.assign values) session).2.IsCurrent := by
  rcases outcome_assign values session with ⟨memory, _, assigned⟩
  rw [assigned]
  exact current.of_sharesFrame rfl ⟨rfl, rfl, rfl, rfl⟩

theorem IsCurrent.addParameter (current : session.IsCurrent) (added : Parameter)
    (value : Datum α) : (outcome (Session.addParameter added value) session).2.IsCurrent := by
  simp only [Session.addParameter, outcome_bind, outcome_theModel, outcome_ofExcept]
  rcases accepted : session.model.symbols.addParameter added with _ | symbols
  · exact current
  · have declared : Session.IsCurrent
        { session with model := { session.model with symbols } } := by
      -- a parameter is no column
      rcases SymbolTable.of_addParameter accepted with ⟨_, rfl⟩
      exact current.of_sharesFrame rfl ⟨rfl, rfl, rfl, rfl⟩
    exact declared.assign _

theorem IsCurrent.setParameters (current : session.IsCurrent)
    (values : List (String × Datum α)) :
    (outcome (Session.setParameters values) session).2.IsCurrent := by
  simp only [Session.setParameters, outcome_bind, outcome_theModel, outcome_ofExcept]
  rcases Error.checkNames values with _ | _
  · exact current
  · dsimp only [Except.mapError]
    rcases outcome_checkDeclared session.model.symbols.isParameter "parameter assignment"
      (values.map (·.1)) session with ⟨checked, _⟩ | ⟨reason, checked⟩
    · rw [checked]
      exact current.assign values
    · rw [checked]
      exact current

theorem IsCurrent.setSteadyState (current : session.IsCurrent) (name : String)
    (level slope : Datum α) :
    (outcome (Session.setSteadyState name level slope) session).2.IsCurrent := by
  simp only [Session.setSteadyState, outcome_bind, outcome_theModel, outcome_setModel,
    outcome_ofExcept]
  rcases outcome_checkDeclared session.model.symbols.isVariable "steady state assignment" [name]
    session with ⟨checked, _⟩ | ⟨reason, checked⟩
  · rw [checked]
    exact current.of_sharesFrame rfl ⟨rfl, rfl, rfl, rfl⟩
  · rw [checked]
    exact current

/-- The form is put away before the horizon grows. -/
theorem IsCurrent.appendToHorizon (current : session.IsCurrent) (name : String)
    (expression : Expression α) (linear : Bool) (source : String) :
    (outcome (Session.appendToHorizon name expression linear source) session).2.IsCurrent := by
  simp only [Session.appendToHorizon, append, outcome_bind, outcome_theModel, outcome_act]
  rcases outcome (session.model.registry.compile name ⟨expression, expression.references⟩)
    session.memory with ⟨_ | ⟨evaluator, registry⟩, memory⟩
  · exact current
  · exact isCurrent_of_active_eq_none rfl

theorem IsCurrent.addEquation (current : session.IsCurrent) (text name : String)
    (linear : Bool) : (outcome (Session.addEquation text name linear) session).2.IsCurrent := by
  simp only [Session.addEquation, outcome_bind, outcome_theModel, outcome_ofExcept]
  rcases outcome_checkNewEquation session.model (nameFor session.model name) session with
    ⟨checked, _⟩ | ⟨reason, checked⟩
  · rw [checked]
    dsimp only
    rcases Expression.ofText session.model.symbols (nameFor session.model name) text with
      _ | expression
    · exact current
    · exact current.appendToHorizon _ _ _ _
  · rw [checked]
    exact current

theorem IsCurrent.addExpression (current : session.IsCurrent) (expression : Expression α)
    (name : String) (linear : Bool) :
    (outcome (Session.addExpression expression name linear) session).2.IsCurrent := by
  simp only [Session.addExpression, outcome_bind, outcome_theModel, outcome_ofExcept]
  rcases outcome_checkNewEquation session.model (nameFor session.model name) session with
    ⟨checked, _⟩ | ⟨reason, checked⟩
  · rw [checked]
    dsimp only
    rcases expression.checkReferences session.model.symbols
      ("equation '" ++ nameFor session.model name ++ "'") with _ | _
    · exact current
    · exact current.appendToHorizon _ _ _ _
  · rw [checked]
    exact current

/-- Between the change of options and the end of an update the form does not suit the model. Nothing
can fail there, because the equations of a sound model can be compiled anew. -/
theorem IsCurrent.update [Numeral α] (current : session.IsCurrent)
    (sound : session.model.IsSound) (settings overrides : Settings α) :
    (outcome (Session.update settings overrides) session).2.IsCurrent := by
  simp only [Session.update, outcome_bind, outcome_theModel, outcome_ofExcept]
  rcases Options.checkName overrides settingsName with _ | _
  · exact current
  · dsimp only [Except.mapError]
    rcases accepted : session.model.options.override (settings.insertAll overrides.entries) with
      _ | options
    · exact current
    · by_cases limited : options.chunkLimit = session.model.options.chunkLimit
      · simp only [outcome_setModel, limited, ne_eq, not_true_eq_false, if_false]
        exact isCurrent_of_active_eq_none rfl
      · rcases exists_recompile { session with model := { session.model with options } }
          ⟨sound.symbols, sound.equations, sound.registry⟩ (one_le_of_override accepted) with
          ⟨equations, registry, memory, ran, _⟩
        simp only [outcome_setModel, ne_eq, limited, not_false_eq_true, if_true, outcome_bind, ran,
          outcome_theModel]
        exact isCurrent_of_active_eq_none rfl

/-- A form is installed together with the choice of it. -/
theorem IsCurrent.install (current : session.IsCurrent) (variant : Variant) :
    (outcome (Session.install variant) session).2.IsCurrent := by
  have made : Keeps (fun _ => True) (ModelForm.ofModel session.model variant) fun form =>
      variant.Builds form ∧ form.system.IsOf session.model := ModelForm.keeps_builds variant
  have builds := (made session.memory trivial).2
  simp only [Session.install, outcome_bind, outcome_build]
  rcases built : (outcome (ModelForm.ofModel session.model variant) session.memory).1 with
    reason | form
  · exact current
  · rcases builds form built with ⟨kind, isOf⟩
    rintro _ ⟨⟩
    exact ⟨kind, isOf.equations_eq, isOf.columns_eq, isOf.lags_eq, isOf.leads_eq⟩

end Changes

section Readings

/-- A session with the given model, whose active form suits it. -/
def IsCurrentFor (model : Model α) (session : Session α) : Prop :=
  session.model = model ∧ session.IsCurrent

omit [Scalar α] in
theorem keeps_currentFor_act {β : Type} (action : Action α β) :
    Keeps (IsCurrentFor model) (act action) fun _ => True :=
  fun _ current => ⟨current, fun _ _ => trivial⟩

omit [Scalar α] in
theorem keeps_currentFor_theModel :
    Keeps (IsCurrentFor model) (theModel (α := α)) fun read => read = model := by
  refine Keeps.get.bind fun session current => ?_
  exact .pure current.1

theorem keeps_currentFor_build (variant : Variant) :
    Keeps (IsCurrentFor model) (build (α := α) variant) fun form =>
      variant.Builds form ∧ form.system.IsOf model := by
  refine keeps_currentFor_theModel.bind fun read same => ?_
  subst same
  intro session current
  refine ⟨current, ?_⟩
  exact (ModelForm.keeps_builds variant session.memory trivial).2

theorem keeps_currentFor_refresh :
    Keeps (IsCurrentFor model) (refresh (α := α)) fun _ => True := by
  refine keeps_currentFor_theModel.bind fun read same => ?_
  subst same
  refine (keeps_currentFor_build _).bind fun form made => ?_
  refine (Keeps.modify ?_).bind fun _ _ => .pure trivial
  rintro session ⟨rfl, _⟩
  refine ⟨rfl, ?_⟩
  rintro _ ⟨⟩
  exact ⟨made.1, made.2⟩

theorem keeps_currentFor_form : Keeps (IsCurrentFor model) (form (α := α)) fun _ => True := by
  refine Keeps.get.bind fun session _ => ?_
  rcases session.active with _ | found
  · exact keeps_currentFor_refresh
  · exact .pure trivial

theorem keeps_currentFor_residualsAlong (name : String) (trajectory : Trajectory α)
    (dates : Option (List Int)) :
    Keeps (IsCurrentFor model) (residualsAlong name trajectory dates) fun _ => True := by
  have each : ∀ (form : EquationForm α) data horizon references date,
      Keeps (IsCurrentFor model) (residualAt form data horizon references date) fun _ => True := by
    intro form data horizon references date
    unfold residualAt
    split
    · exact .pure trivial
    · exact (keeps_currentFor_act _).bind fun _ _ => keeps_currentFor_act _
  refine keeps_currentFor_theModel.bind fun read _ => ?_
  refine (keeps_currentFor_act _).bind fun equation _ => ?_
  refine (keeps_currentFor_act _).bind fun data _ => ?_
  refine .guard fun _ => ?_
  refine (keeps_currentFor_act _).bind fun references _ => ?_
  refine (keeps_currentFor_act _).bind fun form _ => ?_
  refine (keeps_currentFor_act _).bind fun _ _ => ?_
  exact (Keeps.mapM fun date _ => each form data read.horizon references date).weaken
    fun _ _ => trivial

end Readings

end Session

namespace Request

open Session

variable [Scalar α] [Numeral α] {held : List (ModelForm α)} {model : Model α}

/-- A request that only reads may build the active form, but from the present model. -/
theorem keeps_currentFor_of_isReading {request : Request α} (reading : request.isReading) :
    Keeps (IsCurrentFor model) (request.action held) fun forms => ∀ form ∈ forms, True := by
  have chosenStays : ∀ place, Keeps (IsCurrentFor model) (chosen held place) fun _ => True :=
    keeps_chosen (fun _ _ => trivial) keeps_currentFor_form
  cases request with
  | refresh => exact keeps_without keeps_currentFor_refresh
  | hold => exact keeps_holding keeps_currentFor_form
  | build variant =>
      exact keeps_holding ((keeps_currentFor_build variant).weaken fun _ _ => trivial)
  | copy place =>
      exact (chosenStays place).bind fun _ _ => keeps_holding (keeps_currentFor_act _)
  | residuals place point =>
      exact (chosenStays place).bind fun _ _ => keeps_without
        (keeps_currentFor_theModel.bind fun _ _ => keeps_currentFor_act _)
  | residualsInto place point buffer =>
      exact (chosenStays place).bind fun _ _ => keeps_without
        (keeps_currentFor_theModel.bind fun _ _ => keeps_currentFor_act _)
  | residualsAndJacobian place point =>
      exact (chosenStays place).bind fun _ _ => keeps_without
        (keeps_currentFor_theModel.bind fun _ _ => keeps_currentFor_act _)
  | residualsAlong name trajectory dates =>
      exact keeps_without (keeps_currentFor_residualsAlong name trajectory dates)
  | equationResidual name inputs =>
      refine keeps_currentFor_theModel.bind fun model _ => ?_
      exact (keeps_currentFor_act _).bind fun _ _ => keeps_without (keeps_currentFor_act _)
  | equationGradient name inputs =>
      refine keeps_currentFor_theModel.bind fun model _ => ?_
      exact (keeps_currentFor_act _).bind fun _ _ => keeps_without (keeps_currentFor_act _)
  | _ => cases reading

/-- No request leaves an active form behind that does not suit the model, whether it succeeds or
fails. -/
theorem isCurrent_action {session : Session α} (current : session.IsCurrent)
    (sound : session.model.IsSound) (request : Request α) :
    (outcome (request.action held) session).2.IsCurrent := by
  have without : ∀ {β : Type} {action : SessionAction α β} {kept : List (ModelForm α)},
      (outcome action session).2.IsCurrent →
        (outcome (do let _ ← action; pure kept) session).2.IsCurrent := by
    intro β action kept after
    rw [outcome_then_pure]
    exact after
  cases request with
  | addVariable added => exact without (current.addVariable added)
  | addShock added => exact without (current.addShock added)
  | addParameter added value => exact without (current.addParameter added value)
  | setParameters values => exact without (current.setParameters values)
  | setSteadyState name level slope => exact without (current.setSteadyState name level slope)
  | addEquation text name linear => exact without (current.addEquation text name linear)
  | addExpression expression name linear =>
      exact without (current.addExpression expression name linear)
  | update settings overrides => exact without (current.update sound settings overrides)
  | install variant => exact without (current.install variant)
  | _ => exact (keeps_currentFor_of_isReading rfl session ⟨rfl, current⟩).1.2

end Request

namespace Reachable

variable [Scalar α] [Numeral α] {bench : Bench α}

theorem isCurrent (reachable : Reachable bench) : bench.session.IsCurrent := by
  induction reachable with
  | start name options => exact Session.isCurrent_of_active_eq_none rfl
  | step reachable request ih =>
      rw [request.session_perform]
      exact request.isCurrent_action ih reachable.isSound.session.model

/-- Whatever a run does, also in vain: if a form is active, it is of the kind that the options
choose, and its system has the present equations, columns and window of the model. The places that
its equations read, and in which their gradients are stored, are therefore those of the present
window. -/
theorem suits_active (reachable : Reachable bench) :
    ∀ form ∈ bench.session.active,
      form.Suits bench.session.model ∧
      (form.isLinearized ↔ bench.session.model.options.variant = .full) ∧
      (form.isFirstOrder ↔ bench.session.model.options.variant = .firstOrder) ∧
      List.Forall₂ (fun (equation : Equation α) places =>
        List.Forall₂ (System.Locates bench.session.model.columns bench.session.model.horizon.lags
          bench.session.model.horizon.leads) equation.references.series places)
        bench.session.model.equations form.system.places := by
  intro form active
  have suits := reachable.isCurrent form active
  refine ⟨suits, suits.isLinearized_iff, suits.isFirstOrder_iff, ?_⟩
  have sound := (reachable.isSound.session.active form active).sound_system
  rw [← suits.isOf.equations_eq, ← suits.isOf.columns_eq, ← suits.isOf.lags_eq,
    ← suits.isOf.leads_eq]
  exact sound.places

/-- The first-order form is installed, a shock is declared in vain, and the steady state moves. -/
noncomputable def crossingInstalled : Bench ℝ :=
  crossing.run [.install .firstOrder, .addShock { name := "x" },
    .setSteadyState "x" (.number 1) (.number 0)]

/-- The form that was installed is still active, and it suits the model. -/
theorem suits_active_crossing :
    ∃ space, crossingInstalled.session.active = some (.firstOrder space) ∧
      crossingInstalled.session.model.options.variant = .firstOrder ∧
      crossingInstalled.session.model.symbols.names = ["x"] ∧
      (ModelForm.firstOrder space).Suits crossingInstalled.session.model := by
  have reachable : Reachable crossingInstalled := ((Reachable.start _ _).run _).run _
  rcases exists_build_crossing with ⟨space, after, built⟩
  have performed : (Request.install .firstOrder).perform crossing =
      { session := { after with
          model := { after.model with options := { after.model.options with variant := .firstOrder } }
          active := some (.firstOrder space) } } := by
    simp only [Request.perform, Request.action, Session.install, outcome_bind, built]
    rfl
  have run : crossingInstalled = ((Request.install .firstOrder).perform crossing).run
      [.addShock { name := "x" }, .setSteadyState "x" (.number 1) (.number 0)] := rfl
  rw [Session.outcome_build] at built
  rcases Prod.mk.inj built with ⟨_, rfl⟩
  have active : crossingInstalled.session.active = some (.firstOrder space) := by
    rw [run, performed]
    rfl
  refine ⟨space, active, ?_, ?_, (suits_active reachable _ active).1⟩
  · rw [run, performed]
    rfl
  · rw [run, performed]
    rfl

end Reachable

end Intertemporal
