import Intertemporal.Proofs.Model.Attained
import Intertemporal.Proofs.System.Jacobian

/-!
# Evaluations in a session

Whatever has been evaluated in a session before, an evaluation returns what the equations return on
their own under the present calibration, or fails like them. So the result for one equation can be
spoken of without the others: it is the one that every successful evaluation of the whole returns.
-/

namespace Intertemporal

variable {α : Type} [Scalar α]

/-- A form of sound equations whose evaluators serve the calibration of a session. -/
def ModelForm.IsReady (form : ModelForm α) (session : Session α) : Prop :=
  ∃ known : Evaluator α → Prop, session.memory.Serves known session.model.calibration ∧
    ∀ evaluated ∈ form.forms, known evaluated.equation.evaluator ∧ evaluated.IsSound

namespace ModelForm.IsReady

variable {form : ModelForm α} {session : Session α} (ready : form.IsReady session)
  (point : NumberArray α)

include ready

theorem residualsInto_eq (buffer : List α) :
    (outcome (Session.residualsInto form point buffer) session).1 =
      form.system.residualsAlone session.model.calibration form.forms point buffer := by
  rcases ready with ⟨known, serves, each⟩
  have here := fun evaluated member => (each evaluated member).1
  exact (System.returns_residualsInto form.system here point buffer _ serves).2

theorem residuals_eq :
    (outcome (Session.residuals form point) session).1 =
      form.system.residualsAlone session.model.calibration form.forms point
        (List.replicate form.forms.length Scalar.zero) :=
  ready.residualsInto_eq point _

theorem residualsAndJacobian_eq :
    (outcome (Session.residualsAndJacobian form point) session).1 =
      form.system.jacobianAlone session.model.calibration form.forms point := by
  rcases ready with ⟨known, serves, each⟩
  have here := fun evaluated member => (each evaluated member).1
  have sound := fun evaluated member => (each evaluated member).2
  exact (System.returns_residualsAndJacobian form.system here sound point _ serves).2

end ModelForm.IsReady

theorem Attained.isReady [Numeral α] {bench : Bench α} (attained : Attained bench)
    {form : ModelForm α} (used : bench.Uses form) : form.IsReady bench.session := by
  rcases attained.exists_serves with ⟨known, serves⟩
  refine ⟨known, serves.session.memory, fun evaluated member => ⟨?_, ?_⟩⟩
  · exact (serves.of_uses used).known_of_mem evaluated member
  · exact (attained.reachable.isSound.of_uses used).sound_of_mem member

namespace System

variable {system : System α} {session : Session α} {point : NumberArray α} {row : Nat}

/-- The residual of the equation in a row: what it returns on its own, and what every evaluation of
the whole system returns for it. -/
structure IsResidualAt (system : System α) (session : Session α) (point : NumberArray α)
    (row : Nat) (residual : α) : Prop where
  alone : ∃ form places, system.forms[row]? = some form ∧ system.places[row]? = some places ∧
    form.residualAlone session.model.calibration (inputs point places) = .ok residual
  whole : ∀ residuals after,
    outcome (Session.residuals (.plain system) point) session = (.ok residuals, after) →
      residuals[row]? = some residual

/-- The residual and the gradient of the equation in a row, in the same sense. -/
structure IsGradientAt (system : System α) (session : Session α) (point : NumberArray α)
    (row : Nat) (equation : Equation α) (residual : α) (gradient : List α) : Prop where
  alone : ∃ form places, system.forms[row]? = some form ∧ system.places[row]? = some places ∧
    form.gradientAlone session.model.calibration (inputs point places) = .ok (residual, gradient)
  whole : ∀ residuals matrix after,
    outcome (Session.residualsAndJacobian (.plain system) point) session =
        (.ok (residuals, matrix), after) →
      residuals[row]? = some residual ∧ system.IsJacobianRow equation gradient matrix row

theorem IsResidualAt.unique {residual other : α}
    (first : system.IsResidualAt session point row residual)
    (second : system.IsResidualAt session point row other) : residual = other := by
  rcases first.alone with ⟨form, places, formAt, placesAt, returned⟩
  rcases second.alone with ⟨formOther, placesOther, formAtOther, placesAtOther, returnedOther⟩
  rcases Option.some.inj (formAt.symm.trans formAtOther) with rfl
  rcases Option.some.inj (placesAt.symm.trans placesAtOther) with rfl
  exact Except.ok.inj (returned.symm.trans returnedOther)

theorem IsSound.isResidualAt (sound : system.IsSound)
    (ready : (ModelForm.plain system).IsReady session) {form : EquationForm α}
    {places : List Place} (formAt : system.forms[row]? = some form)
    (placesAt : system.places[row]? = some places) {residual : α}
    (returned : form.residualAlone session.model.calibration (inputs point places) =
      .ok residual) : system.IsResidualAt session point row residual := by
  refine ⟨⟨form, places, formAt, placesAt, returned⟩, ?_⟩
  intro residuals after evaluated
  have sized : system.forms.length = system.places.length := by
    rw [← sound.forms.length_eq, sound.places.length_eq]
  have found := (ready.residuals_eq point).symm.trans (congrArg Prod.fst evaluated)
  rcases (residualsAlone_eq_ok sized).mp found with ⟨_, each⟩
  have atRow : (system.forms.zip system.places)[row]? = some (form, places) :=
    List.getElem?_zip_eq_some.mpr ⟨formAt, placesAt⟩
  rcases exists_getElem?_of_forall₂ each atRow with ⟨other, ofRow, same⟩
  rw [ofRow, ← Except.ok.inj (returned.symm.trans same)]

theorem IsSound.isGradientAt (sound : system.IsSound)
    (ready : (ModelForm.plain system).IsReady session) (full : point.IsFull)
    {equation : Equation α} (stated : system.equations[row]? = some equation)
    {form : EquationForm α} {places : List Place} (formAt : system.forms[row]? = some form)
    (placesAt : system.places[row]? = some places) {residual : α} {gradient : List α}
    (returned : form.gradientAlone session.model.calibration (inputs point places) =
      .ok (residual, gradient)) :
    system.IsGradientAt session point row equation residual gradient := by
  refine ⟨⟨form, places, formAt, placesAt, returned⟩, ?_⟩
  intro residuals matrix after evaluated
  have found := (ready.residualsAndJacobian_eq point).symm.trans (congrArg Prod.fst evaluated)
  have formed : List.Forall₂ (fun equation form => form.equation = equation ∧ form.IsSound)
      system.equations system.forms := sound.forms.imp fun _ _ each => ⟨each.1, each.2.1⟩
  rcases sound.of_jacobianAlone formed full found stated formAt placesAt with
    ⟨_, _, same, ofRow, isRow⟩
  rcases Except.ok.inj (returned.symm.trans same) with ⟨rfl, rfl⟩
  exact ⟨ofRow, isRow⟩

end System

end Intertemporal
