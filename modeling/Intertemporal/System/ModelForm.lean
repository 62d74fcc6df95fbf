import Intertemporal.System.StateSpace

/-!
# Forms of a model

A model is evaluated in the form that its options choose: as it is, linearized, or in first-order
form. Every form rests on a system and evaluates the same way; what differs is the form of the
equations in it.
-/

namespace Intertemporal

/-- A model in the form in which it is evaluated. -/
inductive ModelForm (α : Type)
  | plain (system : System α)
  | linearized (linearization : Linearization α)
  | firstOrder (space : StateSpace α)

namespace ModelForm

variable {α : Type}

/-- The linearization that a form rests on, if it does. -/
def linearization? : ModelForm α → Option (Linearization α)
  | .plain _ => none
  | .linearized linearization => some linearization
  | .firstOrder space => some space.linearization

/-- The system that a form rests on. -/
def system : ModelForm α → System α
  | .plain system => system
  | .linearized linearization => linearization.system
  | .firstOrder space => space.linearization.system

/-- The forms in which the equations are evaluated. -/
def forms (form : ModelForm α) : List (EquationForm α) :=
  match form.linearization? with
  | none => form.system.forms
  | some linearization => linearization.forms

/-- Whether a form is the linearization of all equations. -/
def isLinearized : ModelForm α → Bool
  | .linearized linearization => linearization.whole
  | _ => false

/-- Whether a form is a first-order form. -/
def isFirstOrder : ModelForm α → Bool
  | .firstOrder _ => true
  | _ => false

variable [Scalar α]

/-- The form of a model that a variant asks for. -/
def ofModel (model : Model α) : Variant → Action α (ModelForm α)
  | .plain => .plain <$> System.ofModel model
  | .selective => .linearized <$> Linearization.ofModel model false
  | .full => .linearized <$> Linearization.ofModel model true
  | .firstOrder => .firstOrder <$> StateSpace.ofModel model

/-- The residuals at a point. -/
def residuals (form : ModelForm α) (calibration : Calibration α) (point : NumberArray α) :
    Action α (List α) :=
  form.system.residuals calibration form.forms point

/-- The residuals at a point, written over the beginning of a buffer. -/
def residualsInto (form : ModelForm α) (calibration : Calibration α) (point : NumberArray α)
    (buffer : List α) : Action α (List α) :=
  form.system.residualsInto calibration form.forms point buffer

/-- The residuals at a point and the Jacobian. -/
def residualsAndJacobian (form : ModelForm α) (calibration : Calibration α)
    (point : NumberArray α) : Action α (List α × SparseMatrix α) :=
  form.system.residualsAndJacobian calibration form.forms point

/-- A copy of a plain form with a Jacobian of its own. -/
def copy : ModelForm α → Action α (ModelForm α)
  | .plain system => .plain <$> system.copy
  | _ => throw .notCopyable

end ModelForm

end Intertemporal
