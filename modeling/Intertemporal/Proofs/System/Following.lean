import Intertemporal.Proofs.System.Resemblance

/-!
# Forms that are followed

What is done in one of two memories that resemble each other is followed in the other: the same
model under moved numbers is built alike, and what is built is evaluated, copied and compiled alike.
Results are the same up to the numbers, and so are failures. Before a form is evaluated its
equations are bound, from when on they hold the same values on both sides.
-/

namespace Intertemporal

variable {α : Type} [Scalar α] {comparison : Comparison α} {early : Prop}
  {calibration : Calibration α} {bound : List (EquationForm α)}

namespace Memory

theorem Resembles.forget {forms : List (EquationForm α)} {left right : Memory α}
    (resembles : left.Resembles comparison early calibration (forms ++ bound) right) :
    left.Resembles comparison early calibration bound right := by
  rcases resembles.ready with ⟨stamped, current⟩
  have ready : left.IsReadyFor calibration bound := by
    refine ⟨stamped, ?_⟩
    rintro ⟨form, member, stated⟩
    exact current ⟨form, List.mem_append_right forms member, stated⟩
  exact { resembles with ready }

theorem Resembles.bind {forms : List (EquationForm α)} {left right : Memory α}
    (resembles : left.Resembles comparison early calibration bound right)
    (each : ∀ form ∈ forms, form.IsBound calibration left) :
    left.Resembles comparison early calibration (forms ++ bound) right := by
  have ready : left.IsReadyFor calibration (forms ++ bound) := by
    refine ⟨resembles.ready.1, ?_⟩
    rintro ⟨form, member, stated⟩
    rcases List.mem_append.mp member with new | old
    · exact each form new stated
    · exact resembles.ready.2 ⟨form, old, stated⟩
  exact { resembles with ready }

section Evaluators

variable {evaluator : Evaluator α} (here : comparison.known evaluator)
  (carried : ∀ memory : Memory α, memory.IsReadyFor calibration bound →
    evaluator.IsCurrent calibration memory)

include here carried

theorem follows_residual (inputs : List α) :
    Matches (Resembles comparison early calibration bound) (evaluator.residual inputs)
      ((evaluator.renumber comparison.move).residual inputs) Eq := by
  intro left right resembles
  have same := resembles.residual_eq here (carried left resembles.ready) inputs
  refine ⟨?_, .of_eq same.symm⟩
  rw [Evaluator.outcome_residual, Evaluator.outcome_residual]
  exact resembles

theorem follows_residualAndGradient (array : NumberArray α) :
    Matches (Resembles comparison early calibration bound) (evaluator.residualAndGradient array)
      ((evaluator.renumber comparison.move).residualAndGradient array) Eq := by
  intro left right resembles
  have same := resembles.gradient_eq here (carried left resembles.ready) array
  exact ⟨resembles.call here array, .of_eq same.symm⟩

end Evaluators

end Memory

open Memory

namespace EquationForm

variable {form : EquationForm α}

theorem follows_ofEquation (trends : SteadyState α) (tolerance : α) (equation : Equation α) :
    Matches (Resembles comparison early calibration bound) (ofEquation trends tolerance equation)
      (ofEquation trends tolerance (equation.renumber comparison.move))
      fun form other => other = form.renumber comparison.move := by
  unfold ofEquation
  apply Matches.ite Iff.rfl
  · exact fun _ => .pure rfl
  · intro _
    have checked : Matches (Resembles comparison early calibration bound)
        (equation.references.steadyStates.forM (checkFlat trends tolerance equation))
        (equation.references.steadyStates.forM
          (checkFlat trends tolerance (equation.renumber comparison.move)))
        fun _ _ => True := by
      apply Matches.forM (List.forall₂_same.mpr fun name _ => rfl)
      rintro name _ rfl
      apply (matches_ofExcept rfl).bind
      rintro trend _ ⟨rfl, _⟩
      exact .ite Iff.rfl (fun _ => follows_record _ _) fun _ => .pure trivial
    apply checked.bind
    intro _ _ _
    apply (matches_ofExcept rfl).bind
    rintro found _ ⟨rfl, _⟩
    exact .pure rfl

theorem follows_ofEquation_known (trends : SteadyState α) (tolerance : α) {equation : Equation α}
    (here : comparison.known equation.evaluator) :
    Matches (Resembles comparison early calibration bound) (ofEquation trends tolerance equation)
      (ofEquation trends tolerance (equation.renumber comparison.move)) fun form other =>
        other = form.renumber comparison.move ∧ comparison.known form.equation.evaluator := by
  have kept :=
    (isStable_isStamped calibration).toIsCalm.keeps_ofEquation trends tolerance equation
  apply ((follows_ofEquation trends tolerance equation).observe_left
    (fun _ _ resembles => resembles.ready.1) kept).weaken
  rintro form other ⟨same, formed⟩
  exact ⟨same, formed.equation_eq ▸ here⟩

theorem isBound_of_bind {memory after : Memory α} {done : Unit}
    (binding : outcome (form.bind calibration) memory = (.ok done, after)) :
    form.IsBound calibration after := by
  intro stated
  rcases Option.isSome_iff_exists.mp stated with ⟨levels, asStated⟩
  rcases exists_bind_of_levels asStated binding with ⟨taken, taking⟩
  exact Evaluator.isCurrent_of_bind taking

theorem follows_bind (here : comparison.known form.equation.evaluator) :
    Matches (Resembles comparison early calibration bound) (form.bind calibration)
      ((form.renumber comparison.move).bind calibration) fun _ _ => True := by
  cases form with
  | dynamic equation => exact (Memory.follows_bind here).map fun _ _ _ => trivial
  | anchored equation levels => exact (Memory.follows_bind here).map fun _ _ _ => trivial
  | expanded equation residual gradient point => exact .pure trivial

theorem carried_of_mem (member : form ∈ bound) (stated : form.levels?.isSome) (memory : Memory α)
    (ready : memory.IsReadyFor calibration bound) :
    form.equation.evaluator.IsCurrent calibration memory := ready.2 ⟨form, member, stated⟩

theorem follows_residual (here : comparison.known form.equation.evaluator)
    (member : form ∈ bound) (inputs : List α) :
    Matches (Resembles comparison early calibration bound) (form.residual inputs)
      ((form.renumber comparison.move).residual inputs) Eq := by
  cases form with
  | dynamic equation => exact Memory.follows_residual here (carried_of_mem member rfl) inputs
  | anchored equation levels =>
      exact Memory.follows_residual here (carried_of_mem member rfl) (inputs ++ levels)
  | expanded equation residual gradient point => exact .pure rfl

theorem follows_residualAndGradient (here : comparison.known form.equation.evaluator)
    (member : form ∈ bound) (inputs : List α) :
    Matches (Resembles comparison early calibration bound) (form.residualAndGradient inputs)
      ((form.renumber comparison.move).residualAndGradient inputs) Eq := by
  cases form with
  | dynamic equation =>
      exact Memory.follows_residualAndGradient here (carried_of_mem member rfl) (.ofList inputs)
  | anchored equation levels =>
      apply (Memory.follows_residualAndGradient here (carried_of_mem member rfl)
        (.ofList (inputs ++ levels))).bind
      rintro found _ rfl
      exact .pure rfl
  | expanded equation residual gradient point => exact .pure rfl

variable {forms : List (EquationForm α)}

theorem follows_bindAll (here : ∀ form ∈ forms, comparison.known form.equation.evaluator) :
    Matches (Resembles comparison early calibration bound)
      (forms.forM (EquationForm.bind calibration))
      ((forms.map (.renumber comparison.move)).forM (EquationForm.bind calibration))
      fun _ _ => True := by
  apply Matches.forM (forall₂_map_right forms)
  rintro form _ ⟨member, rfl⟩
  exact follows_bind (here form member)

/-- What follows the binding of forms may use that they are bound. -/
theorem follows_bound {β γ : Type} {next : Action α β} {nextRight : Action α γ}
    {alike : β → γ → Prop} (here : ∀ form ∈ forms, comparison.known form.equation.evaluator)
    (rest : Matches (Resembles comparison early calibration (forms ++ bound)) next nextRight
      alike) :
    Matches (Resembles comparison early calibration bound)
      (do forms.forM (EquationForm.bind calibration); next)
      (do (forms.map (.renumber comparison.move)).forM (EquationForm.bind calibration); nextRight)
      alike := by
  apply (follows_bindAll here).bind_within _ (fun _ _ => Resembles.forget) fun _ _ _ => rest
  exact fun _ _ _ _ binding resembles => resembles.bind (isBound_of_bindAll binding)

end EquationForm

namespace System

variable {system : System α} {forms : List (EquationForm α)}

theorem follows_ofModel (model : Model α) :
    Matches (Resembles comparison early calibration bound) (ofModel model)
      (ofModel (model.renumber comparison.move))
      fun system other => other = system.renumber comparison.move := by
  unfold ofModel
  simp only [Model.locateAll_renumber, Model.usesSteadyState_renumber]
  apply (matches_ofExcept rfl).bind
  rintro places _ ⟨rfl, _⟩
  apply Matches.guard Iff.rfl
  intro _
  apply Matches.guard Iff.rfl
  intro _
  apply Matches.optional Iff.rfl (follows_record _ _)
  apply (Matches.mapM (forall₂_map_right model.equations) ?_).bind
  · intro forms others paired
    rcases eq_map_of_forall₂ paired with rfl
    apply follows_freshId.bind
    rintro number _ ⟨rfl, _⟩
    apply (follows_record _ _).bind
    intro _ _ _
    exact .pure rfl
  · rintro equation _ ⟨_, rfl⟩
    exact EquationForm.follows_ofEquation _ _ equation

omit [Scalar α] in
theorem zip_renumber {change : Nat → Nat} (places : List (List Place)) :
    (forms.map (EquationForm.renumber change)).zip places =
      (forms.zip places).map fun item => (item.1.renumber change, item.2) := by
  rw [List.zip_map_left]
  rfl

theorem follows_fill (point : NumberArray α) {items : List (EquationForm α × List Place)}
    (here : ∀ item ∈ items, comparison.known item.1.equation.evaluator ∧ item.1 ∈ bound)
    (buffer : List α) :
    Matches (Resembles comparison early calibration bound) (fill point items buffer)
      (fill point (items.map fun item => (item.1.renumber comparison.move, item.2)) buffer)
      Eq := by
  induction items generalizing buffer with
  | nil => exact .pure rfl
  | cons item rest ih =>
      rcases List.forall_mem_cons.mp here with ⟨⟨known, member⟩, others⟩
      apply (EquationForm.follows_residual known member _).bind
      rintro residual _ rfl
      cases buffer with
      | nil => exact .throw _
      | cons _ tail =>
          apply (ih others tail).bind
          rintro residuals _ rfl
          exact .pure rfl

section Evaluations

variable (here : ∀ form ∈ forms, comparison.known form.equation.evaluator)

include here

omit [Scalar α] in
theorem usable_of_zip {places : List (List Place)} :
    ∀ item ∈ forms.zip places,
      comparison.known item.1.equation.evaluator ∧ item.1 ∈ forms ++ bound :=
  fun _ member => ⟨here _ (List.of_mem_zip member).1,
    List.mem_append_left bound (List.of_mem_zip member).1⟩

theorem follows_residualsInto (system : System α) (point : NumberArray α) (buffer : List α) :
    Matches (Resembles comparison early calibration bound)
      (system.residualsInto calibration forms point buffer)
      ((system.renumber comparison.move).residualsInto calibration
        (forms.map (.renumber comparison.move)) point buffer) Eq := by
  have checked : Matches (Resembles comparison early calibration bound) (system.checkPoint point)
      ((system.renumber comparison.move).checkPoint point) fun _ _ => True :=
    .ite Iff.rfl (fun _ => .pure trivial) fun _ => .throw _
  apply checked.bind
  intro _ _ _
  apply EquationForm.follows_bound here
  rw [zip_renumber]
  exact follows_fill point (usable_of_zip here) buffer

theorem follows_residualsAndJacobian (system : System α) (point : NumberArray α) :
    Matches (Resembles comparison early calibration bound)
      (system.residualsAndJacobian calibration forms point)
      ((system.renumber comparison.move).residualsAndJacobian calibration
        (forms.map (.renumber comparison.move)) point) Eq := by
  have checked : Matches (Resembles comparison early calibration bound) (system.checkPoint point)
      ((system.renumber comparison.move).checkPoint point) fun _ _ => True :=
    .ite Iff.rfl (fun _ => .pure trivial) fun _ => .throw _
  have shown : ∀ residuals : List α,
      Matches (Resembles comparison early calibration (forms ++ bound))
        (do pure (residuals, system.jacobian (← get)) : Action α (List α × SparseMatrix α))
        (do pure (residuals, (system.renumber comparison.move).jacobian (← get)) :
          Action α (List α × SparseMatrix α)) Eq := by
    intro residuals left right resembles
    refine ⟨resembles, .of_eq ?_⟩
    simp only [outcome_bind, outcome_get, outcome_pure, jacobian, resembles.jacobians system]
    rfl
  apply checked.bind
  intro _ _ _
  apply EquationForm.follows_bound here
  rw [zip_renumber]
  apply (Matches.mapM (forall₂_map_right (forms.zip system.places)) ?_).bind
  · intro found others paired
    rcases List.forall₂_eq_eq_eq ▸ paired with rfl
    exact (follows_storeJacobian _ _).bind fun _ _ _ => shown _
  · rintro item _ ⟨member, rfl⟩
    rcases usable_of_zip here item member with ⟨known, among⟩
    exact EquationForm.follows_residualAndGradient known among _

end Evaluations

theorem follows_copy (system : System α) :
    Matches (Resembles comparison early calibration bound) system.copy
      (system.renumber comparison.move).copy
      fun copy other => other = copy.renumber comparison.move := by
  have stored : ∀ values : List α, Matches (Resembles comparison early calibration bound)
      (do
        let number ← Action.freshId
        modify fun memory => { memory with jacobians := memory.jacobians.insert number values }
        pure { system with id := number })
      (do
        let number ← Action.freshId
        modify fun memory => { memory with jacobians := memory.jacobians.insert number values }
        pure { system.renumber comparison.move with id := number })
      fun copy other => other = copy.renumber comparison.move := by
    intro values
    apply follows_freshId.bind
    rintro number _ ⟨rfl, _⟩
    exact (follows_storeJacobian _ _).bind fun _ _ _ => .pure rfl
  intro left right resembles
  have copied := stored (system.values left) left right resembles
  rw [copy, copy, outcome_bind, outcome_bind, outcome_get, outcome_get]
  dsimp only
  rw [resembles.jacobians system]
  exact copied

end System

namespace Linearization

theorem follows_checkSteadyState (model : Model α) :
    Matches (Resembles comparison early calibration bound) (checkSteadyState model)
      (checkSteadyState (model.renumber comparison.move)) fun _ _ => True := by
  apply Matches.guard Iff.rfl
  intro _
  apply (matches_ofExcept rfl).bind
  rintro steepest _ ⟨rfl, _⟩
  exact .ite Iff.rfl (fun _ => .throw _) fun _ => .pure trivial

theorem follows_expand {form : EquationForm α}
    (here : comparison.known form.equation.evaluator) (member : form ∈ bound) (tolerance : α)
    (point : NumberArray α) (equation : Equation α) (places : List Place) :
    Matches (Resembles comparison early calibration bound)
      (expand tolerance point equation form places)
      (expand tolerance point (equation.renumber comparison.move)
        (form.renumber comparison.move) places)
      fun form other => other = form.renumber comparison.move := by
  apply (EquationForm.follows_residualAndGradient here member _).bind
  rintro ⟨residual, gradient⟩ _ rfl
  exact .optional Iff.rfl (follows_record _ _) (.pure rfl)

theorem follows_expandEach {system : System α}
    (here : ∀ form ∈ system.forms, comparison.known form.equation.evaluator) (whole : Bool)
    (tolerance : α) (point : NumberArray α) :
    Matches (Resembles comparison early calibration (system.forms ++ bound))
      ((system.equations.zip (system.forms.zip system.places)).mapM fun item =>
        if selects whole item.1 then expand tolerance point item.1 item.2.1 item.2.2
        else pure item.2.1)
      (((system.renumber comparison.move).equations.zip
        ((system.renumber comparison.move).forms.zip system.places)).mapM fun item =>
          if selects whole item.1 then expand tolerance point item.1 item.2.1 item.2.2
          else pure item.2.1)
      fun forms others => others = forms.map (.renumber comparison.move) := by
  have paired : (system.renumber comparison.move).equations.zip
      ((system.renumber comparison.move).forms.zip system.places) =
        (system.equations.zip (system.forms.zip system.places)).map fun item =>
          (item.1.renumber comparison.move, item.2.1.renumber comparison.move, item.2.2) := by
    rw [System.renumber, System.zip_renumber, List.zip_map]
    rfl
  rw [paired]
  refine (Matches.mapM (forall₂_map_right _) ?_).weaken fun _ _ => eq_map_of_forall₂
  rintro ⟨equation, form, places⟩ _ ⟨member, rfl⟩
  have among := (List.of_mem_zip (mem_zip_zip member).1).2
  apply Matches.ite Iff.rfl
  · intro _
    exact follows_expand (here form among) (List.mem_append_left bound among) _ _ _ _
  · exact fun _ => .pure rfl

end Linearization

section Models

variable {model : Model α}
  (here : ∀ equation ∈ model.equations, comparison.known equation.evaluator)

include here

theorem System.follows_ofModel_known :
    Matches (Resembles comparison early model.calibration bound) (ofModel model)
      (ofModel (model.renumber comparison.move)) fun system other =>
        other = system.renumber comparison.move ∧
          ∀ form ∈ system.forms, comparison.known form.equation.evaluator := by
  have kept := (isStable_isStamped model.calibration).keeps_ofModel model
  apply ((follows_ofModel model).observe_left (fun _ _ resembles => resembles.ready.1) kept).weaken
  rintro system other ⟨same, _, formed, _⟩
  exact ⟨same, fun form member => here _ (IsStable.mem_of_formed formed member)⟩

theorem Linearization.follows_ofModel (whole : Bool) :
    Matches (Resembles comparison early model.calibration bound) (ofModel model whole)
      (ofModel (model.renumber comparison.move) whole)
      fun linearization other => other = linearization.renumber comparison.move := by
  apply (follows_checkSteadyState model).bind
  intro _ _ _
  apply (System.follows_ofModel_known here).bind
  rintro system _ ⟨rfl, known⟩
  apply (matches_ofExcept rfl).bind
  rintro point _ ⟨rfl, _⟩
  apply EquationForm.follows_bound known
  apply (follows_expandEach known whole _ point).bind
  rintro forms _ rfl
  simp only [System.selected_renumber system (selects whole) fun _ => rfl]
  apply Matches.optional Iff.rfl (follows_record _ _)
  apply (follows_record _ _).bind
  intro _ _ _
  exact .pure rfl

theorem StateSpace.follows_ofModel :
    Matches (Resembles comparison early model.calibration bound) (ofModel model)
      (ofModel (model.renumber comparison.move))
      fun space other => other = space.renumber comparison.move := by
  have sound : ∀ equation ∈ model.equations, ∃ references, equation.evaluator.IsSound references :=
    fun equation member => comparison.sound _ (here equation member)
  have kept := (isStable_isStamped model.calibration).keeps_linearization sound true
  have stated : (model.renumber comparison.move).equations.length = model.equations.length :=
    List.length_map _
  have names : (model.renumber comparison.move).equations.map (·.name) =
      model.equations.map (·.name) := List.map_map
  unfold ofModel
  simp only [stated, names]
  apply ((Linearization.follows_ofModel here true).observe_left
    (fun _ _ resembles => resembles.ready.1) kept).bind
  rintro linearization _ ⟨rfl, isOver⟩
  apply Matches.guard Iff.rfl
  intro _
  apply (System.follows_residualsAndJacobian
    (fun form member => here _ (isOver.stated form member)) linearization.system _).bind
  rintro found _ rfl
  apply (matches_ofExcept rfl).bind
  rintro entries _ ⟨rfl, _⟩
  apply (follows_record _ _).bind
  intro _ _ _
  exact .pure rfl

/-- A model is built alike for every variant, and the evaluators of what is built are its own. -/
theorem ModelForm.follows_ofModel (variant : Variant) :
    Matches (Resembles comparison early model.calibration bound) (ofModel model variant)
      (ofModel (model.renumber comparison.move) variant) fun form other =>
        other = form.renumber comparison.move ∧
          ∀ evaluated ∈ form.forms, comparison.known evaluated.equation.evaluator := by
  have sound : ∀ equation ∈ model.equations, ∃ references, equation.evaluator.IsSound references :=
    fun equation member => comparison.sound _ (here equation member)
  have kept := (isStable_isStamped model.calibration).keeps_modelForm sound variant
  have built : Matches (Resembles comparison early model.calibration bound) (ofModel model variant)
      (ofModel (model.renumber comparison.move) variant)
      fun form other => other = form.renumber comparison.move := by
    cases variant with
    | plain => exact (System.follows_ofModel model).map fun _ _ => congrArg ModelForm.plain
    | selective =>
        exact (Linearization.follows_ofModel here false).map fun _ _ =>
          congrArg ModelForm.linearized
    | full =>
        exact (Linearization.follows_ofModel here true).map fun _ _ =>
          congrArg ModelForm.linearized
    | firstOrder =>
        exact (StateSpace.follows_ofModel here).map fun _ _ => congrArg ModelForm.firstOrder
  apply (built.observe_left (fun _ _ resembles => resembles.ready.1) kept).weaken
  rintro form other ⟨same, isOver⟩
  exact ⟨same, fun evaluated member => here _ (isOver.stated evaluated member)⟩

end Models

namespace ModelForm

variable {form : ModelForm α}

theorem follows_residualsInto
    (here : ∀ evaluated ∈ form.forms, comparison.known evaluated.equation.evaluator)
    (point : NumberArray α) (buffer : List α) :
    Matches (Resembles comparison early calibration bound)
      (form.residualsInto calibration point buffer)
      ((form.renumber comparison.move).residualsInto calibration point buffer) Eq := by
  rw [residualsInto, residualsInto, system_renumber, forms_renumber]
  exact System.follows_residualsInto here form.system point buffer

theorem follows_residuals
    (here : ∀ evaluated ∈ form.forms, comparison.known evaluated.equation.evaluator)
    (point : NumberArray α) :
    Matches (Resembles comparison early calibration bound) (form.residuals calibration point)
      ((form.renumber comparison.move).residuals calibration point) Eq := by
  rw [residuals, residuals, system_renumber, forms_renumber, System.residuals, System.residuals,
    List.length_map]
  exact System.follows_residualsInto here form.system point _

theorem follows_residualsAndJacobian
    (here : ∀ evaluated ∈ form.forms, comparison.known evaluated.equation.evaluator)
    (point : NumberArray α) :
    Matches (Resembles comparison early calibration bound)
      (form.residualsAndJacobian calibration point)
      ((form.renumber comparison.move).residualsAndJacobian calibration point) Eq := by
  rw [residualsAndJacobian, residualsAndJacobian, system_renumber, forms_renumber]
  exact System.follows_residualsAndJacobian here form.system point

theorem follows_copy
    (here : ∀ evaluated ∈ form.forms, comparison.known evaluated.equation.evaluator) :
    Matches (Resembles comparison early calibration bound) form.copy
      (form.renumber comparison.move).copy fun copy other =>
        other = copy.renumber comparison.move ∧
          ∀ evaluated ∈ copy.forms, comparison.known evaluated.equation.evaluator := by
  cases form with
  | plain system =>
      have kept := (isStable_isStamped calibration).keeps_copy system
      apply ((System.follows_copy system).observe_left
        (fun _ _ resembles => resembles.ready.1) kept).map
      rintro copy _ ⟨rfl, number, rfl⟩
      exact ⟨rfl, here⟩
  | linearized linearization => exact .throw _
  | firstOrder space => exact .throw _

end ModelForm

namespace Registry

variable {registry : Registry α}

theorem follows_build (name : String) (key : EvaluatorKey α) :
    Matches (Resembles comparison early calibration bound) (registry.build name key)
      ((registry.renumber comparison.move).build name key) fun evaluator other =>
        other = evaluator.renumber comparison.move ∧ comparison.known evaluator := by
  have built : Matches (Resembles comparison early calibration bound) (registry.build name key)
      ((registry.renumber comparison.move).build name key) fun evaluator other =>
        other = evaluator.renumber comparison.move ∧ comparison.first ≤ evaluator.id := by
    apply (matches_ofExcept rfl).bind
    rintro program _ ⟨rfl, _⟩
    apply (matches_ofExcept rfl).bind
    rintro _ _ _
    apply follows_freshId.bind
    rintro number _ ⟨rfl, new⟩
    exact .pure ⟨rfl, new⟩
  apply (built.observe_left (fun _ _ resembles => resembles.ready.1.sound)
    (keeps_build registry name key)).weaken
  rintro evaluator other ⟨⟨same, new⟩, compiled⟩
  exact ⟨same, comparison.isNew evaluator _ compiled.isSound new⟩

/-- A key is found on both sides or on neither, and what is compiled anew is known. -/
theorem follows_compile (here : ∀ entry ∈ registry.entries, comparison.known entry.evaluator)
    (name : String) (key : EvaluatorKey α) :
    Matches (Resembles comparison early calibration bound) (registry.compile name key)
      ((registry.renumber comparison.move).compile name key) fun found other =>
        other = (found.1.renumber comparison.move, found.2.renumber comparison.move) ∧
          comparison.known found.1 ∧
          ∀ entry ∈ found.2.entries, comparison.known entry.evaluator := by
  unfold compile
  rw [find?_renumber]
  rcases found : registry.find? key with _ | evaluator
  · apply (follows_build name key).bind
    rintro evaluator _ ⟨rfl, known⟩
    refine .pure ⟨?_, known, ?_⟩
    · simp only [renumber, List.map_append, List.map_cons, List.map_nil]
      rfl
    · exact List.forall_mem_append.mpr ⟨here, List.forall_mem_singleton.mpr known⟩
  · rcases exists_entry_of_find? found with ⟨entry, member, rfl, _⟩
    apply (follows_record _ _).bind
    intro _ _ _
    exact .pure ⟨rfl, here entry member, here⟩

end Registry

end Intertemporal
