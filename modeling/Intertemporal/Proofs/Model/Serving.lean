import Intertemporal.Proofs.Model.Founders
import Intertemporal.Proofs.Model.Runs
import Intertemporal.Proofs.System.Evaluations

/-!
# Sessions that serve their calibration

In a session the present values of parameters reach every evaluator that is in use, and the
evaluators of equations have their founders among the equations. Two kinds of operations keep this.
Most of them know no evaluator that was not known before and leave the calibration alone; they keep
it even if they fail (`Session.HasServed`). The others compile equations or give parameters new
values. A failed assignment of values may leave new values under an old revision, so for these the
statements are about operations that succeed.
-/

namespace Intertemporal

variable {α : Type} [Scalar α]

/-- A system that was built in a session, or a copy of one. -/
inductive System.IsBuiltIn (origin : Session α) : System α → Prop
  | built {system : System α} {after : Session α}
      (made : outcome (Session.build .plain) origin = (.ok (.plain system), after)) :
      IsBuiltIn origin system
  | copied {system copy : System α} {memory after : Memory α} (original : IsBuiltIn origin system)
      (made : outcome system.copy memory = (.ok copy, after)) : IsBuiltIn origin copy

/-- A form whose equations have known evaluators, founded among them. -/
structure ModelForm.RestsOn (known : Evaluator α → Prop) (form : ModelForm α) : Prop where
  founded : IsFounded form.system.equations
  known : ∀ equation ∈ form.system.equations, known equation.evaluator
  stated : ∀ evaluated ∈ form.forms, evaluated.equation ∈ form.system.equations
  built : ∀ system, form = .plain system → ∃ origin, system.IsBuiltIn origin

theorem ModelForm.RestsOn.mono {known more : Evaluator α → Prop} {form : ModelForm α}
    (rests : form.RestsOn known) (implies : ∀ evaluator, known evaluator → more evaluator) :
    form.RestsOn more :=
  ⟨rests.founded, fun equation member => implies _ (rests.known equation member), rests.stated,
    rests.built⟩

theorem ModelForm.RestsOn.known_of_mem {known : Evaluator α → Prop} {form : ModelForm α}
    (rests : form.RestsOn known) :
    ∀ evaluated ∈ form.forms, known evaluated.equation.evaluator :=
  fun _ member => rests.known _ (rests.stated _ member)

namespace Session

/-- A session in which known evaluators serve the calibration, among them those of the given
equations, which are compiled in the registry. -/
structure Supports (known : Evaluator α → Prop) (compiled : List (Equation α))
    (session : Session α) : Prop where
  memory : session.memory.Serves known session.model.calibration
  backs : session.model.registry.Backs compiled
  equations : ∀ equation ∈ compiled, known equation.evaluator

/-- A session in which known evaluators serve the calibration and are those of the equations. -/
structure Serves (known : Evaluator α → Prop) (session : Session α) : Prop
    extends Supports known session.model.equations session where
  active : ∀ form ∈ session.active, form.RestsOn known

theorem serves_start (name : String) (options : Options α) :
    (start name options).Serves fun _ => False := by
  refine ⟨⟨.empty _ (fun _ none => none) rfl, Registry.backs_nil rfl, ?_⟩, ?_⟩
  · intro equation member
    cases member
  · rintro form ⟨⟩

theorem isBuiltIn_of_ofModel {model : Model α} {memory : Memory α} {variant : Variant}
    {system : System α}
    (made : (outcome (ModelForm.ofModel model variant) memory).1 = .ok (.plain system)) :
    system.IsBuiltIn { model, memory } := by
  cases variant with
  | plain => exact .built (Prod.ext made rfl)
  | selective | full | firstOrder =>
      obtain ⟨_, _, different⟩ := outcome_map_eq_ok.mp (Prod.ext made rfl)
      cases different

section Quiet

variable {known : Evaluator α → Prop} {calibration : Calibration α}

/-- What operations keep that compile no equation and assign no value. -/
structure HasServed (known : Evaluator α → Prop) (calibration : Calibration α)
    (session : Session α) : Prop where
  calibration_eq : session.model.calibration = calibration
  serves : session.Serves known

/-- What a model has in a session that has served. -/
structure IsServed (known : Evaluator α → Prop) (calibration : Calibration α) (model : Model α) :
    Prop where
  calibration_eq : model.calibration = calibration
  backs : model.registry.Backs model.equations
  equations : ∀ equation ∈ model.equations, known equation.evaluator

/-- A form that is built for a model rests on its equations. -/
theorem keeps_ofModel_serves {model : Model α} (served : IsServed known calibration model)
    (variant : Variant) :
    Keeps (Memory.Serves known calibration) (ModelForm.ofModel model variant)
      (ModelForm.RestsOn known) := by
  intro memory serves
  obtain ⟨rfl, backs, equations⟩ := served
  have stable := Memory.Serves.isStable known model.calibration
  obtain ⟨kept, returned⟩ := stable.keeps_modelForm equations variant memory serves
  refine ⟨kept, fun form made => ?_⟩
  have isOver := returned form made
  refine ⟨?_, ?_, ?_, ?_⟩
  · rw [isOver.equations_eq]
    exact backs.isFounded
  · rw [isOver.equations_eq]
    exact equations
  · rw [isOver.equations_eq]
    exact isOver.stated
  · rintro system rfl
    exact ⟨{ model, memory }, isBuiltIn_of_ofModel made⟩

/-- A copy of a form rests on what the form rests on. -/
theorem keeps_copy_serves {form : ModelForm α} (rests : form.RestsOn known) :
    Keeps (Memory.Serves known calibration) form.copy (ModelForm.RestsOn known) := by
  intro memory serves
  have stable := Memory.Serves.isStable known calibration
  obtain ⟨kept, returned⟩ := stable.keeps_copyForm ⟨rfl, rests.stated⟩ memory serves
  refine ⟨kept, fun copy made => ?_⟩
  have isOver := returned copy made
  refine ⟨?_, ?_, ?_, ?_⟩
  · rw [isOver.equations_eq]
    exact rests.founded
  · rw [isOver.equations_eq]
    exact rests.known
  · rw [isOver.equations_eq]
    exact isOver.stated
  · rintro system rfl
    cases form with
    | plain original =>
        obtain ⟨origin, built⟩ := rests.built original rfl
        obtain ⟨copied, ran, same⟩ := outcome_map_eq_ok.mp (Prod.ext made rfl)
        cases same
        exact ⟨origin, .copied built ran⟩
    | linearized linearization => cases made
    | firstOrder space => cases made

/-- What a session has served lasts. -/
theorem isLasting_hasServed : IsLasting known (HasServed known calibration)
    (IsServed known calibration) (Memory.Serves known calibration) (ModelForm.RestsOn known) where
  parts session := by
    constructor
    · rintro ⟨rfl, serves⟩
      exact ⟨⟨rfl, serves.backs, serves.equations⟩, serves.memory, serves.active⟩
    · rintro ⟨⟨rfl, backs, equations⟩, memory, active⟩
      exact ⟨rfl, ⟨memory, backs, equations⟩, active⟩
  declare _ _ _ served _ := ⟨served.calibration_eq, served.backs, served.equations⟩
  choose _ _ served := ⟨served.calibration_eq, served.backs, served.equations⟩
  calm model served := served.calibration_eq ▸ (Memory.Serves.isStable known _).toIsCalm
  stable model served := served.calibration_eq ▸ Memory.Serves.isStable known _
  equations _ served := served.equations
  forms _ rests := rests.known_of_mem
  built _ served := keeps_ofModel_serves served
  copied _ := keeps_copy_serves

end Quiet

end Session

end Intertemporal
