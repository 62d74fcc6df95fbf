import Intertemporal.Proofs.System.Evaluations

/-!
# Systems under other numbers

The numbers of evaluators and systems only say where a memory keeps what changes about them. An
object may have other numbers in another run, and is the same otherwise; the form of a model, its
registry and the model itself are renumbered part by part. Nothing that a model is asked about its
equations, and nothing that a form is asked about its shape, depends on the numbers.
-/

namespace Intertemporal

variable {α : Type} (change : Nat → Nat)

/-- The same evaluator under another number. -/
def Evaluator.renumber (evaluator : Evaluator α) : Evaluator α :=
  { evaluator with id := change evaluator.id }

def Equation.renumber (equation : Equation α) : Equation α :=
  { equation with evaluator := equation.evaluator.renumber change }

def EquationForm.renumber : EquationForm α → EquationForm α
  | .dynamic equation => .dynamic (equation.renumber change)
  | .anchored equation levels => .anchored (equation.renumber change) levels
  | .expanded equation residual gradient point =>
    .expanded (equation.renumber change) residual gradient point

/-- The same system under another number, with evaluators under other numbers. -/
def System.renumber (system : System α) : System α :=
  { system with
    id := change system.id
    equations := system.equations.map (.renumber change)
    forms := system.forms.map (.renumber change) }

def Linearization.renumber (linearization : Linearization α) : Linearization α :=
  { linearization with
    system := linearization.system.renumber change
    forms := linearization.forms.map (.renumber change) }

def StateSpace.renumber (space : StateSpace α) : StateSpace α :=
  { space with linearization := space.linearization.renumber change }

def ModelForm.renumber : ModelForm α → ModelForm α
  | .plain system => .plain (system.renumber change)
  | .linearized linearization => .linearized (linearization.renumber change)
  | .firstOrder space => .firstOrder (space.renumber change)

def RegistryEntry.renumber (entry : RegistryEntry α) : RegistryEntry α :=
  { entry with evaluator := entry.evaluator.renumber change }

def Registry.renumber (registry : Registry α) : Registry α :=
  { registry with entries := registry.entries.map (.renumber change) }

/-- The same model, with evaluators under other numbers. -/
def Model.renumber (model : Model α) : Model α :=
  { model with
    equations := model.equations.map (.renumber change)
    registry := model.registry.renumber change }

section Fixed

variable {change}

/-- What has only numbers that do not change stays as it is. -/
theorem Evaluator.renumber_eq {evaluator : Evaluator α}
    (same : change evaluator.id = evaluator.id) : evaluator.renumber change = evaluator := by
  rw [renumber, same]

theorem Equation.renumber_eq {equation : Equation α}
    (same : change equation.evaluator.id = equation.evaluator.id) :
    equation.renumber change = equation := by
  rw [renumber, Evaluator.renumber_eq same]

theorem EquationForm.renumber_eq {form : EquationForm α}
    (same : change form.equation.evaluator.id = form.equation.evaluator.id) :
    form.renumber change = form := by
  cases form with
  | dynamic equation => exact congrArg dynamic (Equation.renumber_eq same)
  | anchored equation levels => exact congrArg (anchored · levels) (Equation.renumber_eq same)
  | expanded equation residual gradient point =>
      exact congrArg (expanded · residual gradient point) (Equation.renumber_eq same)

theorem Equation.map_renumber_eq {equations : List (Equation α)}
    (same : ∀ equation ∈ equations, change equation.evaluator.id = equation.evaluator.id) :
    equations.map (.renumber change) = equations :=
  (List.map_congr_left fun equation member => renumber_eq (same equation member)).trans
    (List.map_id equations)

theorem EquationForm.map_renumber_eq {forms : List (EquationForm α)}
    (same : ∀ form ∈ forms, change form.equation.evaluator.id = form.equation.evaluator.id) :
    forms.map (.renumber change) = forms :=
  (List.map_congr_left fun form member => renumber_eq (same form member)).trans
    (List.map_id forms)

/-- Equations and forms of them have the same evaluators. -/
theorem EquationForm.unchanged_iff {relation : Equation α → EquationForm α → Prop}
    {equations : List (Equation α)} {forms : List (EquationForm α)}
    (paired : List.Forall₂ relation equations forms)
    (stated : ∀ equation form, relation equation form → form.equation = equation) :
    (∀ equation ∈ equations, change equation.evaluator.id = equation.evaluator.id) ↔
      ∀ form ∈ forms, change form.equation.evaluator.id = form.equation.evaluator.id := by
  constructor
  · intro same form member
    rcases exists_of_mem_right paired member with ⟨equation, among, here⟩
    rw [stated _ _ here]
    exact same equation among
  · intro same equation among
    rcases exists_of_mem_left paired among with ⟨form, member, here⟩
    rw [← stated _ _ here]
    exact same form member

theorem System.renumber_eq {system : System α} (sound : system.IsSound)
    (number : change system.id = system.id)
    (same : ∀ equation ∈ system.equations, change equation.evaluator.id = equation.evaluator.id) :
    system.renumber change = system := by
  have forms := (EquationForm.unchanged_iff sound.forms fun _ _ here => here.1).mp same
  rw [renumber, number, Equation.map_renumber_eq same, EquationForm.map_renumber_eq forms]

theorem Linearization.renumber_eq {linearization : Linearization α} (sound : linearization.IsSound)
    (number : change linearization.system.id = linearization.system.id)
    (same : ∀ form ∈ linearization.forms,
      change form.equation.evaluator.id = form.equation.evaluator.id) :
    linearization.renumber change = linearization := by
  have equations := (EquationForm.unchanged_iff sound.forms fun _ _ here => here.1).mpr same
  rw [renumber, System.renumber_eq sound.system number equations,
    EquationForm.map_renumber_eq same]

theorem ModelForm.renumber_eq {form : ModelForm α} (sound : form.IsSound)
    (number : change form.system.id = form.system.id)
    (same : ∀ evaluated ∈ form.forms,
      change evaluated.equation.evaluator.id = evaluated.equation.evaluator.id) :
    form.renumber change = form := by
  cases form with
  | plain system =>
      have equations := (EquationForm.unchanged_iff sound.forms fun _ _ here => here.1).mpr same
      exact congrArg plain (System.renumber_eq sound number equations)
  | linearized linearization =>
      exact congrArg linearized (Linearization.renumber_eq sound number same)
  | firstOrder space =>
      rw [renumber, StateSpace.renumber, Linearization.renumber_eq sound number same]

theorem Model.renumber_eq {model : Model α}
    (equations : ∀ equation ∈ model.equations,
      change equation.evaluator.id = equation.evaluator.id)
    (entries : ∀ entry ∈ model.registry.entries,
      change entry.evaluator.id = entry.evaluator.id) : model.renumber change = model := by
  have registry : model.registry.entries.map (.renumber change) = model.registry.entries := by
    apply (List.map_congr_left fun entry member => ?_).trans (List.map_id _)
    rw [RegistryEntry.renumber, Evaluator.renumber_eq (entries entry member)]
    rfl
  rw [renumber, Registry.renumber, Equation.map_renumber_eq equations, registry]

end Fixed

section Reading

variable {change}

@[simp]
theorem ModelForm.system_renumber (form : ModelForm α) :
    (form.renumber change).system = form.system.renumber change := by
  cases form <;> rfl

@[simp]
theorem ModelForm.forms_renumber (form : ModelForm α) :
    (form.renumber change).forms = form.forms.map (.renumber change) := by
  cases form <;> rfl

theorem Model.equation_renumber (model : Model α) (name : String) :
    (model.renumber change).equation name =
      (model.equation name).map (Equation.renumber change) := by
  unfold Model.equation
  rw [renumber, List.find?_map]
  have named : (fun equation : Equation α => equation.name == name) ∘ Equation.renumber change =
      fun equation => equation.name == name := rfl
  rw [named]
  cases model.equations.find? fun equation => equation.name == name <;> rfl

theorem Model.usesSteadyState_renumber (model : Model α) :
    (model.renumber change).usesSteadyState = model.usesSteadyState := List.any_map

theorem Model.locateAll_renumber (model : Model α) :
    (model.renumber change).equations.mapM (System.locateAll (model.renumber change)) =
      model.equations.mapM (System.locateAll model) := by
  rw [Model.renumber, List.mapM_map]
  rfl

theorem System.selected_renumber (system : System α) (selects : Equation α → Bool)
    (same : ∀ equation, selects (equation.renumber change) = selects equation) :
    ((system.renumber change).equations.filter selects).map (·.name) =
      (system.equations.filter selects).map (·.name) := by
  have unchanged : selects ∘ Equation.renumber change = selects := funext same
  rw [renumber, List.filter_map, unchanged, List.map_map]
  rfl

variable [Scalar α]

theorem Registry.find?_renumber (registry : Registry α) (key : EvaluatorKey α) :
    (registry.renumber change).find? key =
      (registry.find? key).map (Evaluator.renumber change) := by
  unfold find?
  dsimp only
  rw [renumber, List.find?_map, Option.map_map, Option.map_map]
  rfl

end Reading

end Intertemporal
