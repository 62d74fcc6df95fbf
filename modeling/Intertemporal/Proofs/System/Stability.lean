import Intertemporal.Proofs.Lists
import Intertemporal.Proofs.Program.Soundness
import Intertemporal.System.ModelForm

/-!
# Invariants that evaluations keep

Building a form of a model and evaluating it change a memory in few ways: they record events, hand
out numbers, store Jacobian values, bind evaluators to a calibration and compute gradients with
them. An invariant is stable if each of these keeps it, for some known evaluators and one
calibration. Everything that is done with forms whose equations have known evaluators then keeps it,
also when it fails.
-/

namespace Intertemporal

variable {α : Type} [Scalar α]

/-- An invariant of memories that is kept whenever known evaluators are used with one calibration,
and when something is recorded. -/
structure IsCalm (known : Evaluator α → Prop) (calibration : Calibration α)
    (invariant : Memory α → Prop) : Prop where
  record : ∀ event, Keeps invariant (Action.record event) fun _ => True
  bind : ∀ evaluator, known evaluator →
    Keeps invariant (evaluator.bind calibration) fun _ => True
  residualAndGradient : ∀ evaluator, known evaluator → ∀ array,
    Keeps invariant (evaluator.residualAndGradient array) fun _ => True

/-- An invariant of memories that is also kept when numbers are handed out and Jacobian values are
stored. -/
structure IsStable (known : Evaluator α → Prop) (calibration : Calibration α)
    (invariant : Memory α → Prop) : Prop extends IsCalm known calibration invariant where
  freshId : Keeps invariant (Action.freshId (α := α)) fun _ => True
  storeJacobian : ∀ id values, Keeps invariant
    (modify fun memory => { memory with jacobians := memory.jacobians.insert id values } :
      Action α PUnit) fun _ => True

variable {known : Evaluator α → Prop} {calibration : Calibration α} {invariant : Memory α → Prop}

namespace EquationForm

/-- The equation that a form evaluates. -/
def equation : EquationForm α → Equation α
  | .dynamic equation => equation
  | .anchored equation _ => equation
  | .expanded equation _ _ _ => equation

/-- A form in which an equation is evaluated as it is stated, with the levels that its references to
steady states have in given trends. -/
inductive IsFormOf (trends : SteadyState α) (equation : Equation α) : EquationForm α → Prop
  | dynamic (none : equation.references.steadyStates = []) :
      IsFormOf trends equation (.dynamic equation)
  | anchored {found : List (Trend α)}
      (levels : equation.references.steadyStates.mapM trends.trend = .ok found) :
      IsFormOf trends equation (.anchored equation (found.map (·.level)))

omit [Scalar α] in
theorem IsFormOf.equation_eq {trends : SteadyState α} {equation : Equation α}
    {form : EquationForm α} (formed : form.IsFormOf trends equation) :
    form.equation = equation := by
  cases formed <;> rfl

theorem keeps_residual (form : EquationForm α) (inputs : List α) :
    Keeps invariant (form.residual inputs) fun _ => True := by
  have unchanged : ∀ (evaluator : Evaluator α) (values : List α),
      Keeps invariant (evaluator.residual values) fun _ => True := by
    intro evaluator values memory holds
    rw [Evaluator.outcome_residual]
    exact ⟨holds, fun _ _ => trivial⟩
  cases form with
  | dynamic equation => exact unchanged equation.evaluator _
  | anchored equation levels => exact unchanged equation.evaluator _
  | expanded equation residual gradient point => exact .pure trivial

end EquationForm

/-- The system of a model as it is. -/
structure System.IsOf (system : System α) (model : Model α) : Prop where
  equations_eq : system.equations = model.equations
  columns_eq : system.columns = model.columns
  lags_eq : system.lags = model.horizon.lags
  leads_eq : system.leads = model.horizon.leads

namespace IsStable

omit [Scalar α] in
theorem mem_of_formed {trends : SteadyState α} {equations : List (Equation α)}
    {forms : List (EquationForm α)}
    (formed : List.Forall₂ (EquationForm.IsFormOf trends) equations forms) {form : EquationForm α}
    (member : form ∈ forms) : form.equation ∈ equations := by
  obtain ⟨equation, among, isForm⟩ := exists_of_mem_right formed member
  rwa [isForm.equation_eq]

omit [Scalar α] in
theorem keeps_checkPoint (system : System α) (point : NumberArray α) :
    Keeps invariant (system.checkPoint point) fun _ => point.sizes = system.shape :=
  .ite (fun shaped => .pure shaped) fun _ => .throw _

theorem keeps_fill (point : NumberArray α)
    (evaluated : List (EquationForm α × List Place)) (buffer : List α) :
    Keeps invariant (System.fill point evaluated buffer) fun _ => True := by
  induction evaluated generalizing buffer with
  | nil => exact .pure trivial
  | cons first rest ih =>
      refine (EquationForm.keeps_residual first.1 _).bind fun residual _ => ?_
      cases buffer with
      | nil => exact .throw _
      | cons _ tail => exact (ih tail).bind fun _ _ => .pure trivial

theorem keeps_checkSteadyState (model : Model α) :
    Keeps invariant (Linearization.checkSteadyState model) fun _ => True := by
  refine .guard fun _ => ?_
  refine keeps_ofExcept.bind fun steepest _ => ?_
  exact .ite (fun _ => .throw _) fun _ => .pure trivial

end IsStable

namespace IsCalm

variable {form : EquationForm α} {forms : List (EquationForm α)} {model : Model α}

theorem keeps_ofEquation (calm : IsCalm known calibration invariant)
    (trends : SteadyState α) (tolerance : α) (equation : Equation α) :
    Keeps invariant (EquationForm.ofEquation trends tolerance equation)
      (EquationForm.IsFormOf trends equation) := by
  unfold EquationForm.ofEquation
  refine .ite (fun none => .pure (.dynamic (List.isEmpty_iff.mp none))) fun _ => ?_
  have checked : Keeps invariant
      (equation.references.steadyStates.forM (EquationForm.checkFlat trends tolerance equation))
      fun _ => ∀ name ∈ equation.references.steadyStates, True := by
    refine .forM fun name _ => ?_
    refine keeps_ofExcept.bind fun trend _ => ?_
    exact .ite (fun _ => calm.record _) fun _ => .pure trivial
  refine checked.bind fun _ _ => ?_
  exact keeps_ofExcept.bind fun found collected => .pure (.anchored collected)

theorem keeps_ofEquations (calm : IsCalm known calibration invariant) (model : Model α) :
    Keeps invariant (model.equations.mapM
      (EquationForm.ofEquation model.steadyState model.options.tolerance))
      fun forms => List.Forall₂ (EquationForm.IsFormOf model.steadyState) model.equations forms :=
  .mapM fun equation _ => calm.keeps_ofEquation _ _ equation

theorem keeps_bindForm (calm : IsCalm known calibration invariant)
    (here : known form.equation.evaluator) :
    Keeps invariant (form.bind calibration) fun _ => True := by
  cases form with
  | dynamic equation => exact (calm.bind _ here).bind fun _ _ => .pure trivial
  | anchored equation levels => exact (calm.bind _ here).bind fun _ _ => .pure trivial
  | expanded equation residual gradient point => exact .pure trivial

theorem keeps_formGradient (calm : IsCalm known calibration invariant)
    (here : known form.equation.evaluator) (inputs : List α) :
    Keeps invariant (form.residualAndGradient inputs) fun _ => True := by
  cases form with
  | dynamic equation => exact calm.residualAndGradient _ here _
  | anchored equation levels =>
      exact (calm.residualAndGradient _ here _).bind fun _ _ => .pure trivial
  | expanded equation residual gradient point => exact .pure trivial

theorem keeps_bindAll (calm : IsCalm known calibration invariant)
    (here : ∀ form ∈ forms, known form.equation.evaluator) :
    Keeps invariant (forms.forM (EquationForm.bind calibration)) fun _ => True := by
  have each : Keeps invariant (forms.forM (EquationForm.bind calibration))
      fun _ => ∀ form ∈ forms, True :=
    .forM fun form member => calm.keeps_bindForm (here form member)
  exact each.weaken fun _ _ => trivial

theorem keeps_residualsInto (calm : IsCalm known calibration invariant) (system : System α)
    (here : ∀ form ∈ forms, known form.equation.evaluator) (point : NumberArray α)
    (buffer : List α) :
    Keeps invariant (system.residualsInto calibration forms point buffer) fun _ => True := by
  refine (IsStable.keeps_checkPoint system point).bind fun _ _ => ?_
  refine (calm.keeps_bindAll here).bind fun _ _ => ?_
  exact IsStable.keeps_fill point _ buffer

theorem keeps_gradients (calm : IsCalm known calibration invariant) (system : System α)
    (here : ∀ form ∈ forms, known form.equation.evaluator) (point : NumberArray α) :
    Keeps invariant ((forms.zip system.places).mapM fun item =>
      item.1.residualAndGradient (System.inputs point item.2)) fun _ => True := by
  have each : Keeps invariant ((forms.zip system.places).mapM fun item =>
      item.1.residualAndGradient (System.inputs point item.2))
      fun found => List.Forall₂ (fun _ _ => True) (forms.zip system.places) found := by
    refine .mapM fun item member => ?_
    exact calm.keeps_formGradient (here _ (List.of_mem_zip member).1) _
  exact each.weaken fun _ _ => trivial

theorem keeps_expand (calm : IsCalm known calibration invariant) (tolerance : α)
    (point : NumberArray α) (equation : Equation α) {form : EquationForm α}
    (here : known form.equation.evaluator) (places : List Place) :
    Keeps invariant (Linearization.expand tolerance point equation form places) fun expanded =>
      expanded.equation = equation := by
  refine (calm.keeps_formGradient here _).bind fun found _ => ?_
  exact .optional (calm.record _) (.pure rfl)

theorem keeps_residualsAndJacobian (calm : IsCalm known calibration invariant)
    (store : ∀ id values, Keeps invariant
      (modify fun memory => { memory with jacobians := memory.jacobians.insert id values } :
        Action α PUnit) fun _ => True) (system : System α)
    (here : ∀ form ∈ forms, known form.equation.evaluator) (point : NumberArray α) :
    Keeps invariant (system.residualsAndJacobian calibration forms point) fun _ => True := by
  refine (IsStable.keeps_checkPoint system point).bind fun _ _ => ?_
  refine (calm.keeps_bindAll here).bind fun _ _ => ?_
  refine (calm.keeps_gradients system here point).bind fun found _ => ?_
  refine (store _ _).bind fun _ _ => ?_
  exact Keeps.get.bind fun _ _ => .pure trivial

theorem keeps_expandEach (calm : IsCalm known calibration invariant) {system : System α}
    (here : ∀ form ∈ system.forms, known form.equation.evaluator) (whole : Bool) (tolerance : α)
    (point : NumberArray α) :
    Keeps invariant
      ((system.equations.zip (system.forms.zip system.places)).mapM fun item =>
        if Linearization.selects whole item.1 then
          Linearization.expand tolerance point item.1 item.2.1 item.2.2
        else pure item.2.1) fun _ => True := by
  have each : Keeps invariant
      ((system.equations.zip (system.forms.zip system.places)).mapM fun item =>
        if Linearization.selects whole item.1 then
          Linearization.expand tolerance point item.1 item.2.1 item.2.2
        else pure item.2.1)
      fun forms => List.Forall₂ (fun _ _ => True)
        (system.equations.zip (system.forms.zip system.places)) forms := by
    refine .mapM fun item member => .ite (fun _ => ?_) fun _ => .pure trivial
    have among := (List.of_mem_zip (mem_zip_zip member).1).2
    exact (calm.keeps_expand _ _ _ (here _ among) _).weaken fun _ _ => trivial
  exact each.weaken fun _ _ => trivial

/-- The forms of a linearization are those of equations of the model. -/
theorem keeps_expansions (calm : IsCalm known calibration invariant)
    (here : ∀ equation ∈ model.equations, known equation.evaluator) {system : System α}
    (isOf : system.IsOf model)
    (formed : List.Forall₂ (EquationForm.IsFormOf model.steadyState) model.equations system.forms)
    (whole : Bool) (point : NumberArray α) :
    Keeps invariant
      ((system.equations.zip (system.forms.zip system.places)).mapM fun item =>
        if Linearization.selects whole item.1 then
          Linearization.expand model.options.tolerance point item.1 item.2.1 item.2.2
        else pure item.2.1)
      fun forms => List.Forall₂ (fun _ form => form.equation ∈ model.equations)
        (system.equations.zip (system.forms.zip system.places)) forms := by
  refine .mapM fun item member => ?_
  obtain ⟨equation, form, places⟩ := item
  obtain ⟨memberForm, _⟩ := mem_zip_zip member
  obtain ⟨among, amongForms⟩ := List.of_mem_zip memberForm
  have amongEquations := IsStable.mem_of_formed formed amongForms
  refine .ite (fun _ => ?_) fun _ => .pure amongEquations
  refine (calm.keeps_expand _ _ equation (here _ amongEquations) _).weaken ?_
  intro changed same
  rw [same, ← isOf.equations_eq]
  exact among

end IsCalm

namespace IsStable

/-- A stable invariant and others that need no known evaluators are stable together. -/
theorem alongside {ι : Type} {each : ι → Memory α → Prop}
    (stable : IsStable known calibration invariant)
    (others : ∀ index, IsStable (fun _ => True) calibration (each index)) :
    IsStable known calibration fun memory => invariant memory ∧ ∀ index, each index memory := by
  have both : ∀ {β : Type} {action : Action α β}, Keeps invariant action (fun _ => True) →
      (∀ index, Keeps (each index) action fun _ => True) →
        Keeps (fun memory => invariant memory ∧ ∀ index, each index memory) action
          fun _ => True := by
    intro β action first rest memory holds
    rcases holds with ⟨here, there⟩
    exact ⟨⟨(first memory here).1, fun index => (rest index memory (there index)).1⟩,
      fun _ _ => trivial⟩
  exact {
    record := fun event => both (stable.record event) fun index => (others index).record event
    freshId := both stable.freshId fun index => (others index).freshId
    storeJacobian := fun id values =>
      both (stable.storeJacobian id values) fun index => (others index).storeJacobian id values
    bind := fun evaluator here =>
      both (stable.bind evaluator here) fun index => (others index).bind evaluator trivial
    residualAndGradient := fun evaluator here array =>
      both (stable.residualAndGradient evaluator here array)
        fun index => (others index).residualAndGradient evaluator trivial array }

section Systems

variable {forms : List (EquationForm α)}

theorem keeps_residualsAndJacobian (stable : IsStable known calibration invariant)
    (system : System α) (here : ∀ form ∈ forms, known form.equation.evaluator)
    (point : NumberArray α) :
    Keeps invariant (system.residualsAndJacobian calibration forms point) fun _ => True :=
  stable.toIsCalm.keeps_residualsAndJacobian stable.storeJacobian system here point

theorem keeps_copy (stable : IsStable known calibration invariant) (system : System α) :
    Keeps invariant system.copy fun copied => ∃ number, copied = { system with id := number } := by
  refine Keeps.get.bind fun memory _ => ?_
  refine stable.freshId.bind fun number _ => ?_
  exact (stable.storeJacobian _ _).bind fun _ _ => .pure ⟨number, rfl⟩

variable {model : Model α}

/-- The system of a model has its equations, in the forms that its steady state gives them, and the
places that are found for their references. -/
theorem keeps_ofModel (stable : IsStable known calibration invariant) (model : Model α) :
    Keeps invariant (System.ofModel model) fun system =>
      system.IsOf model ∧
        List.Forall₂ (EquationForm.IsFormOf model.steadyState) model.equations system.forms ∧
        model.equations.mapM (System.locateAll model) = .ok system.places := by
  refine keeps_ofExcept.bind fun places located => ?_
  refine .guard fun _ => .guard fun _ => .optional (stable.record _) ?_
  refine (stable.keeps_ofEquations model).bind fun forms formed => ?_
  refine stable.freshId.bind fun number _ => ?_
  exact (stable.record _).bind fun _ _ => .pure ⟨⟨rfl, rfl, rfl, rfl⟩, formed, located⟩

end Systems

end IsStable

namespace ModelForm

/-- A form of a model with the given equations. -/
structure IsOver (equations : List (Equation α)) (form : ModelForm α) : Prop where
  equations_eq : form.system.equations = equations
  stated : ∀ evaluated ∈ form.forms, evaluated.equation ∈ equations

end ModelForm

namespace IsStable

variable {model : Model α}

theorem keeps_linearization (stable : IsStable known model.calibration invariant)
    (here : ∀ equation ∈ model.equations, known equation.evaluator) (whole : Bool) :
    Keeps invariant (Linearization.ofModel model whole) fun linearization =>
      (ModelForm.linearized linearization).IsOver model.equations := by
  refine (keeps_checkSteadyState model).bind fun _ _ => ?_
  refine (stable.keeps_ofModel model).bind fun system built => ?_
  obtain ⟨isOf, formed, _⟩ := built
  refine keeps_ofExcept.bind fun point _ => ?_
  have knownForms : ∀ form ∈ system.forms, known form.equation.evaluator := fun form member =>
    here _ (mem_of_formed formed member)
  refine (stable.keeps_bindAll knownForms).bind fun _ _ => ?_
  refine (stable.keeps_expansions here isOf formed whole point).bind fun forms stated => ?_
  refine .optional (stable.record _) ?_
  refine (stable.record _).bind fun _ _ => .pure ⟨isOf.equations_eq, ?_⟩
  intro form member
  obtain ⟨_, _, among⟩ := exists_of_mem_right stated member
  exact among

theorem keeps_stateSpace (stable : IsStable known model.calibration invariant)
    (here : ∀ equation ∈ model.equations, known equation.evaluator) :
    Keeps invariant (StateSpace.ofModel model) fun space =>
      (ModelForm.firstOrder space).IsOver model.equations := by
  refine (stable.keeps_linearization here true).bind fun linearization resting => ?_
  refine .guard fun _ => ?_
  have knownForms : ∀ form ∈ linearization.forms, known form.equation.evaluator :=
    fun form member => here _ (resting.stated form member)
  refine (stable.keeps_residualsAndJacobian _ knownForms _).bind fun found _ => ?_
  refine keeps_ofExcept.bind fun entries _ => ?_
  exact (stable.record _).bind fun _ _ => .pure ⟨resting.equations_eq, resting.stated⟩

/-- A form of a model is over its equations. -/
theorem keeps_modelForm (stable : IsStable known model.calibration invariant)
    (here : ∀ equation ∈ model.equations, known equation.evaluator) (variant : Variant) :
    Keeps invariant (ModelForm.ofModel model variant) (ModelForm.IsOver model.equations) := by
  cases variant with
  | plain =>
      refine (stable.keeps_ofModel model).map fun system built => ?_
      exact ⟨built.1.equations_eq, fun form member => mem_of_formed built.2.1 member⟩
  | selective => exact (stable.keeps_linearization here false).map fun _ resting => resting
  | full => exact (stable.keeps_linearization here true).map fun _ resting => resting
  | firstOrder => exact (stable.keeps_stateSpace here).map fun _ resting => resting

theorem keeps_copyForm (stable : IsStable known calibration invariant)
    {equations : List (Equation α)} {form : ModelForm α} (resting : form.IsOver equations) :
    Keeps invariant form.copy (ModelForm.IsOver equations) := by
  cases form with
  | plain system =>
      refine (stable.keeps_copy system).map fun copied same => ?_
      obtain ⟨number, rfl⟩ := same
      exact ⟨resting.equations_eq, resting.stated⟩
  | linearized linearization => exact .throw _
  | firstOrder space => exact .throw _

end IsStable

end Intertemporal
