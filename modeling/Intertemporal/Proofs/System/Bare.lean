import Intertemporal.Proofs.Matching
import Intertemporal.Proofs.System.Linearization

/-!
# Systems without their numbers

Evaluators and systems have numbers under which a memory keeps what changes about them, evaluators
have the name of the equation that they were first compiled for, and calibrations have the revision
of their last change. What an evaluation returns shows none of these. The bare form of an object is
what is left without them, and equations on their own return the same in bare form.
-/

namespace Intertemporal

variable {α : Type}

/-- The same parameter values without a revision. -/
def Calibration.bare (calibration : Calibration α) : Calibration α := calibration.copy 0

/-- What an evaluator computes, without its number and the name that messages use. -/
def Evaluator.bare (evaluator : Evaluator α) : Evaluator α := { evaluator with id := 0, name := "" }

/-- An equation with a bare evaluator, however it was stated. -/
def Equation.bare (equation : Equation α) : Equation α :=
  { equation with evaluator := equation.evaluator.bare, source := "" }

/-- The same form of a bare equation. -/
def EquationForm.bare : EquationForm α → EquationForm α
  | .dynamic equation => .dynamic equation.bare
  | .anchored equation levels => .anchored equation.bare levels
  | .expanded equation residual gradient point => .expanded equation.bare residual gradient point

/-- A system of bare equations without a number. -/
def System.bare (system : System α) : System α :=
  { system with
    id := 0, equations := system.equations.map .bare, forms := system.forms.map .bare }

/-- A linearization of a bare system. -/
def Linearization.bare (linearization : Linearization α) : Linearization α :=
  { linearization with
    system := linearization.system.bare, forms := linearization.forms.map .bare }

/-- A first-order form of a bare system. -/
def StateSpace.bare (space : StateSpace α) : StateSpace α :=
  { space with linearization := space.linearization.bare }

/-- The same form of a model with bare equations. -/
def ModelForm.bare : ModelForm α → ModelForm α
  | .plain system => .plain system.bare
  | .linearized linearization => .linearized linearization.bare
  | .firstOrder space => .firstOrder space.bare

/-- A model of bare equations, whatever its registry holds. -/
def Model.bare (model : Model α) : Model α :=
  { model with
    equations := model.equations.map .bare
    calibration := model.calibration.bare
    registry := { chunkLimit := 0 } }

@[simp]
theorem ModelForm.system_bare (form : ModelForm α) : form.bare.system = form.system.bare := by
  cases form <;> rfl

@[simp]
theorem ModelForm.forms_bare (form : ModelForm α) :
    form.bare.forms = form.forms.map .bare := by
  cases form <;> rfl

section Alone

variable [Scalar α] {calibration calibrationRight : Calibration α}

namespace Evaluator

theorem alone_bind (evaluator : Evaluator α) :
    Action.alone (discard (evaluator.bind calibration)) =
      (evaluator.valuesIn calibration).map fun _ => () := by
  rw [Action.alone, outcome_bind_empty]
  cases evaluator.valuesIn calibration <;> rfl

end Evaluator

namespace EquationForm

theorem bindAlone_bare (form : EquationForm α) :
    form.bare.bindAlone calibration.bare = form.bindAlone calibration := by
  cases form with
  | dynamic equation | anchored equation levels =>
      rw [bare, bindAlone, bindAlone, bind, bind, Evaluator.alone_bind, Evaluator.alone_bind]
      rfl
  | expanded equation residual gradient point => rfl

theorem residualAlone_bare (form : EquationForm α) (inputs : List α) :
    form.bare.residualAlone calibration.bare inputs = form.residualAlone calibration inputs := by
  cases form with
  | dynamic equation | anchored equation levels =>
      simp only [bare, residualAlone, bind, residual, Evaluator.alone_residual]
      rfl
  | expanded equation residual gradient point => rfl

theorem gradientAlone_bare (form : EquationForm α) (inputs : List α) :
    form.bare.gradientAlone calibration.bare inputs = form.gradientAlone calibration inputs := by
  cases form with
  | dynamic equation =>
      simp only [bare, gradientAlone, bind, residualAndGradient, Evaluator.alone_gradient]
      rfl
  | anchored equation levels =>
      rw [bare, gradientAlone_anchored, gradientAlone_anchored, Evaluator.alone_gradient,
        Evaluator.alone_gradient]
      rfl
  | expanded equation residual gradient point => rfl

end EquationForm

namespace System

variable {system systemRight : System α} {forms formsRight : List (EquationForm α)}

theorem bindAll_bare :
    (forms.map EquationForm.bare).forM (EquationForm.bindAlone calibration.bare) =
      forms.forM (EquationForm.bindAlone calibration) := by
  simp only [List.forM_eq_forM, List.forM_map, EquationForm.bindAlone_bare]

omit [Scalar α] in
theorem zip_bare (forms : List (EquationForm α)) (places : List (List Place)) :
    (forms.map EquationForm.bare).zip places =
      (forms.zip places).map fun item => (item.1.bare, item.2) := by
  rw [List.zip_map_left]
  rfl

theorem residualsAlone_bare (point : NumberArray α) (buffer : List α) :
    system.bare.residualsAlone calibration.bare (forms.map .bare) point buffer =
      system.residualsAlone calibration forms point buffer := by
  have each : (((forms.map EquationForm.bare).zip system.places).map fun item =>
      item.1.residualAlone calibration.bare (inputs point item.2)) =
        (forms.zip system.places).map fun item =>
          item.1.residualAlone calibration (inputs point item.2) := by
    simp only [zip_bare, List.map_map, Function.comp_def, EquationForm.residualAlone_bare]
  rw [residualsAlone, bindAll_bare]
  exact congrArg (fun results => _ >>= fun _ => _ >>= fun _ => filled results buffer) each

theorem jacobianAlone_bare (point : NumberArray α) :
    system.bare.jacobianAlone calibration.bare (forms.map .bare) point =
      system.jacobianAlone calibration forms point := by
  have each : (((forms.map EquationForm.bare).zip system.places).mapM fun item =>
      item.1.gradientAlone calibration.bare (inputs point item.2)) =
        (forms.zip system.places).mapM fun item =>
          item.1.gradientAlone calibration (inputs point item.2) := by
    simp only [zip_bare, List.mapM_map, Function.comp_def, EquationForm.gradientAlone_bare]
  rw [jacobianAlone, bindAll_bare]
  exact congrArg (fun results => _ >>= fun _ => _ >>= fun _ => results >>= _) each

section Congruence

variable (calibrations : calibration.bare = calibrationRight.bare)
  (systems : system.bare = systemRight.bare)
  (same : forms.map EquationForm.bare = formsRight.map EquationForm.bare) (point : NumberArray α)

include calibrations systems same

/-- What a system returns depends on its bare form only. -/
theorem residualsAlone_congr (buffer : List α) :
    system.residualsAlone calibration forms point buffer =
      systemRight.residualsAlone calibrationRight formsRight point buffer :=
  calc system.residualsAlone calibration forms point buffer
    _ = system.bare.residualsAlone calibration.bare (forms.map .bare) point buffer :=
      (residualsAlone_bare point buffer).symm
    _ = systemRight.bare.residualsAlone calibrationRight.bare (formsRight.map .bare) point
        buffer := by rw [calibrations, systems, same]
    _ = systemRight.residualsAlone calibrationRight formsRight point buffer :=
      residualsAlone_bare point buffer

theorem jacobianAlone_congr :
    system.jacobianAlone calibration forms point =
      systemRight.jacobianAlone calibrationRight formsRight point :=
  calc system.jacobianAlone calibration forms point
    _ = system.bare.jacobianAlone calibration.bare (forms.map .bare) point :=
      (jacobianAlone_bare point).symm
    _ = systemRight.bare.jacobianAlone calibrationRight.bare (formsRight.map .bare) point := by
      rw [calibrations, systems, same]
    _ = systemRight.jacobianAlone calibrationRight formsRight point := jacobianAlone_bare point

end Congruence

end System

namespace Linearization

theorem replacement_bare (whole : Bool) (point : NumberArray α)
    (item : Equation α × EquationForm α × List Place) :
    replacement whole point calibration.bare (item.1.bare, item.2.1.bare, item.2.2) =
      (replacement whole point calibration item).map .bare := by
  have same : selects whole item.1.bare = selects whole item.1 := rfl
  unfold replacement
  rw [same]
  split
  · rw [EquationForm.gradientAlone_bare, map_bind_result]
    rfl
  · rfl

/-- The forms of equations in a linearization, if every equation is evaluated on its own. -/
def formsAlone (whole : Bool) (point : NumberArray α) (calibration : Calibration α)
    (system : System α) : Except (Error α) (List (EquationForm α)) := do
  system.forms.forM (EquationForm.bindAlone calibration)
  (system.equations.zip (system.forms.zip system.places)).mapM
    (replacement whole point calibration)

theorem formsAlone_bare (whole : Bool) (point : NumberArray α) (system : System α) :
    formsAlone whole point calibration.bare system.bare =
      (formsAlone whole point calibration system).map (List.map .bare) := by
  have paired : system.bare.equations.zip (system.bare.forms.zip system.places) =
      (system.equations.zip (system.forms.zip system.places)).map fun item =>
        (item.1.bare, item.2.1.bare, item.2.2) := by
    rw [System.bare, System.zip_bare, List.zip_map]
    rfl
  have each : (system.bare.equations.zip (system.bare.forms.zip system.places)).mapM
        (replacement whole point calibration.bare) =
      ((system.equations.zip (system.forms.zip system.places)).mapM
        (replacement whole point calibration)).map (List.map .bare) := by
    rw [paired, List.mapM_map, ← mapM_map_result]
    exact mapM_congr_of_mem fun item _ => replacement_bare whole point item
  rw [formsAlone, formsAlone, map_bind_result, System.bare, System.bindAll_bare]
  exact congrArg (fun results => _ >>= fun _ => results) each

theorem formsAlone_congr {system systemRight : System α}
    (calibrations : calibration.bare = calibrationRight.bare)
    (systems : system.bare = systemRight.bare) (whole : Bool) (point : NumberArray α) :
    (formsAlone whole point calibration system).map (List.map EquationForm.bare) =
      (formsAlone whole point calibrationRight systemRight).map (List.map EquationForm.bare) := by
  rw [← formsAlone_bare, ← formsAlone_bare, calibrations, systems]

end Linearization

end Alone

end Intertemporal
