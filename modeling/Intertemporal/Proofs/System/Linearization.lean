import Intertemporal.Proofs.System.Evaluations
import Intertemporal.System.Linearization

/-!
# What a linearization is made of

A linearization has the equations and the places of the system that the model has at the time. The
form of an equation that is expanded holds what the equation returned at the steady state; the other
forms are those of the system. The expansions are made one after another with evaluators that the
equations may share, so they are those of the equations on their own.
-/

namespace Intertemporal

variable {α : Type} [Scalar α]

namespace Linearization

/-- The form that takes the place of another in a linearization about a point. -/
inductive Replaces (whole : Bool) (point : NumberArray α) (calibration : Calibration α)
    (equation : Equation α) (form : EquationForm α) (places : List Place) : EquationForm α → Prop
  | expanded {residual : α} {gradient : List α} (selected : selects whole equation = true)
      (computed : form.gradientAlone calibration (System.inputs point places) =
        .ok (residual, gradient)) :
      Replaces whole point calibration equation form places
        (.expanded equation residual gradient (System.inputs point places))
  | kept (unselected : selects whole equation = false) :
      Replaces whole point calibration equation form places form

/-- A linearization of a model, made under its calibration at its steady state. -/
structure IsMadeOf (linearization : Linearization α) (model : Model α) : Prop where
  isOf : linearization.system.IsOf model
  point : model.steadyStatePoint = .ok linearization.point
  forms : List.Forall₂ (fun (item : Equation α × EquationForm α × List Place) form =>
    Replaces linearization.whole linearization.point model.calibration item.1 item.2.1 item.2.2
      form)
    (linearization.system.equations.zip
      (linearization.system.forms.zip linearization.system.places)) linearization.forms

variable {known : Evaluator α → Prop} {model : Model α} {memory after : Memory α}
  {linearization : Linearization α}

/-- The forms that an equation has in the system and in its linearization. -/
theorem IsMadeOf.exists_row (made : linearization.IsMadeOf model) (sound : linearization.IsSound)
    {row : Nat} {equation : Equation α}
    (stated : linearization.system.equations[row]? = some equation) :
    ∃ form places taken, linearization.system.forms[row]? = some form ∧
      linearization.system.places[row]? = some places ∧
      linearization.forms[row]? = some taken ∧
      List.Forall₂ (System.Locates linearization.system.columns linearization.system.lags
        linearization.system.leads) equation.references.series places ∧
      Replaces linearization.whole linearization.point model.calibration equation form places
        taken := by
  rcases exists_getElem?_of_forall₂ sound.system.forms stated with ⟨form, formAt, _⟩
  rcases exists_getElem?_of_forall₂ sound.system.places stated with ⟨places, placesAt, located⟩
  have atRow : (linearization.system.equations.zip
      (linearization.system.forms.zip linearization.system.places))[row]? =
        some (equation, form, places) :=
    List.getElem?_zip_eq_some.mpr ⟨stated, List.getElem?_zip_eq_some.mpr ⟨formAt, placesAt⟩⟩
  rcases exists_getElem?_of_forall₂ made.forms atRow with ⟨taken, takenAt, replaces⟩
  exact ⟨form, places, taken, formAt, placesAt, takenAt, located, replaces⟩

/-- The point of expansion has an entry for every date and series. -/
theorem IsMadeOf.reads_inputs (made : linearization.IsMadeOf model)
    {references : List TimedVariable} {places : List Place}
    (located : List.Forall₂ (System.Locates linearization.system.columns linearization.system.lags
      linearization.system.leads) references places) :
    List.Forall₂ (System.Reads linearization.system.columns linearization.system.lags
      linearization.point) references (System.inputs linearization.point places) := by
  rcases SteadyState.point_shape made.point with ⟨full, shaped⟩
  apply System.reads_inputs full _ located
  rw [made.isOf.lags_eq, made.isOf.leads_eq, made.isOf.columns_eq]
  exact shaped

theorem memory_of_checkSteadyState {done : Unit}
    (checked : outcome (checkSteadyState model) memory = (.ok done, after)) : after = memory := by
  have kept : Keeps (· = memory) (checkSteadyState model) fun _ => True :=
    IsStable.keeps_checkSteadyState model
  have same := (kept memory rfl).1
  rwa [checked] at same

/-- The form that an equation has in a linearization, if it is evaluated on its own. -/
def replacement (whole : Bool) (point : NumberArray α) (calibration : Calibration α)
    (item : Equation α × EquationForm α × List Place) : Except (Error α) (EquationForm α) :=
  if selects whole item.1 then do
    let found ← item.2.1.gradientAlone calibration (System.inputs point item.2.2)
    pure (.expanded item.1 found.1 found.2 (System.inputs point item.2.2))
  else pure item.2.1

theorem replaces_of_replacement {whole : Bool} {point : NumberArray α}
    {calibration : Calibration α} {item : Equation α × EquationForm α × List Place}
    {form : EquationForm α} (found : replacement whole point calibration item = .ok form) :
    Replaces whole point calibration item.1 item.2.1 item.2.2 form := by
  unfold replacement at found
  split at found
  · rename_i selected
    rcases bind_eq_ok.mp found with ⟨⟨residual, gradient⟩, computed, same⟩
    cases same
    exact .expanded selected computed
  · rename_i unselected
    cases found
    exact .kept (Bool.not_eq_true _ ▸ unselected)

theorem returns_expand {calibration : Calibration α} {forms : List (EquationForm α)}
    {form : EquationForm α} (here : known form.equation.evaluator) (sound : form.IsSound)
    (among : form ∈ forms) (tolerance : α) (point : NumberArray α) (equation : Equation α)
    (places : List Place) :
    Returns (Memory.Carries known calibration forms) (expand tolerance point equation form places)
      (do
        let found ← form.gradientAlone calibration (System.inputs point places)
        pure (.expanded equation found.1 found.2 (System.inputs point places))) := by
  have stable := Memory.Carries.isStable known calibration forms
  have returned : Returns (Memory.Carries known calibration forms)
      (form.residualAndGradient (System.inputs point places))
      (form.gradientAlone calibration (System.inputs point places)) := by
    intro memory carries
    exact ⟨(stable.keeps_formGradient here _ memory carries).1,
      EquationForm.gradient_eq_alone sound carries.1 here (carries.isBound among) _⟩
  apply returned.bind
  intro found memory carries
  dsimp only
  split
  · exact ⟨(stable.record _ memory carries).1, rfl⟩
  · exact ⟨carries, rfl⟩

/-- Where all forms have been bound, expansions are those of the equations on their own. -/
theorem returns_expansions {calibration : Calibration α} {system : System α}
    (here : ∀ form ∈ system.forms, known form.equation.evaluator)
    (sound : ∀ form ∈ system.forms, form.IsSound) (whole : Bool) (tolerance : α)
    (point : NumberArray α) :
    Returns (Memory.Carries known calibration system.forms)
      ((system.equations.zip (system.forms.zip system.places)).mapM fun item =>
        if selects whole item.1 then expand tolerance point item.1 item.2.1 item.2.2
        else pure item.2.1)
      ((system.equations.zip (system.forms.zip system.places)).mapM
        (replacement whole point calibration)) := by
  apply Returns.mapM
  rintro ⟨equation, form, places⟩ member
  have among := (List.of_mem_zip (mem_zip_zip member).1).2
  unfold replacement
  split
  · exact returns_expand (here form among) (sound form among) among _ _ _ _
  · exact fun memory carries => ⟨carries, rfl⟩

/-- A linearization rests on the system that the model has at the time. -/
theorem isMadeOf_of_ofModel (serves : memory.Serves known model.calibration)
    (here : ∀ equation ∈ model.equations, known equation.evaluator) (sound : model.IsSound)
    {whole : Bool} (made : outcome (ofModel model whole) memory = (.ok linearization, after)) :
    linearization.whole = whole ∧ linearization.IsMadeOf model ∧
      ∃ between, outcome (System.ofModel model) memory = (.ok linearization.system, between) := by
  rcases outcome_bind_eq_ok.mp made with ⟨_, _, checked, building⟩
  rw [memory_of_checkSteadyState checked] at building
  rcases outcome_bind_eq_ok.mp building with ⟨system, between, built, reading⟩
  rcases outcome_bind_eq_ok.mp reading with ⟨point, _, read, binding⟩
  rcases outcome_ofExcept_eq_ok.mp read with ⟨found, rfl⟩
  rcases outcome_bind_eq_ok.mp binding with ⟨_, bound, ran, expanding⟩
  rcases outcome_bind_eq_ok.mp expanding with ⟨forms, _, expanded, recording⟩
  -- the forms of the system are those of the equations, so their evaluators are known and sound
  have stable := Memory.Serves.isStable known model.calibration
  rcases stable.keeps_ofModel model memory serves with ⟨servesBetween, returned⟩
  rw [built] at servesBetween returned
  rcases returned system rfl with ⟨isOf, formed, _⟩
  have knownForms : ∀ form ∈ system.forms, known form.equation.evaluator := fun form member =>
    here _ (IsStable.mem_of_formed formed member)
  have soundForms : ∀ form ∈ system.forms, form.IsSound := by
    intro form member
    rcases exists_of_mem_right formed member with ⟨equation, among, isForm⟩
    exact (isForm.isSound (sound.equations equation among)).1
  have carries := Memory.Carries.of_bindAll servesBetween knownForms ran
  have determined := (returns_expansions knownForms soundForms whole model.options.tolerance
    point).keeps bound carries
  have replaced := (mapM_eq_ok.mp (determined.2 forms (congrArg Prod.fst expanded))).imp
    fun _ _ => replaces_of_replacement
  -- a linearization in which nothing is expanded is reported, and otherwise made alike
  dsimp only at recording
  split at recording
  · cases recording
    exact ⟨rfl, ⟨isOf, found, replaced⟩, _, built⟩
  · cases recording
    exact ⟨rfl, ⟨isOf, found, replaced⟩, _, built⟩

end Linearization

end Intertemporal
