import Intertemporal.Proofs.System.Bare
import Intertemporal.Proofs.System.Twins

/-!
# Systems that are built twice

Two models may have been compiled at different times, and have the same bare form. In any two sound
memories that serve their calibrations, building them for a variant fails with the same reason, or
gives forms with the same bare form. Unlike twins, the memories need not hand out the same numbers,
and the evaluators on both sides need not be the same.
-/

namespace Intertemporal

variable {α : Type} [Scalar α]

namespace Memory

/-- A sound memory that serves a calibration. -/
def Hosts (known : Evaluator α → Prop) (calibration : Calibration α) (memory : Memory α) : Prop :=
  memory.Serves known calibration ∧ memory.IsSound

/-- Two memories that host calibrations, each its own. -/
def HostBoth (known knownRight : Evaluator α → Prop) (calibration calibrationRight : Calibration α)
    (memory memoryRight : Memory α) : Prop :=
  memory.Hosts known calibration ∧ memoryRight.Hosts knownRight calibrationRight

variable {known knownRight : Evaluator α → Prop} {calibration calibrationRight : Calibration α}
  {memory : Memory α}

theorem Hosts.record (hosts : memory.Hosts known calibration) (event : Event α) :
    (outcome (Action.record event) memory).2.Hosts known calibration :=
  ⟨((Serves.isStable known calibration).record event memory hosts.1).1,
    (keeps_record event memory hosts.2).1⟩

theorem matches_record (event eventRight : Event α) :
    Matches (HostBoth known knownRight calibration calibrationRight) (Action.record event)
      (Action.record eventRight) fun _ _ => True := by
  rintro memory memoryRight ⟨hosts, hostsRight⟩
  exact ⟨⟨hosts.record event, hostsRight.record eventRight⟩, .returned trivial⟩

/-- New numbers differ, and nothing that is compared shows them. -/
theorem matches_freshId :
    Matches (HostBoth known knownRight calibration calibrationRight) (Action.freshId (α := α))
      (Action.freshId (α := α)) fun _ _ => True := by
  have counted : ∀ {known : Evaluator α → Prop} {calibration : Calibration α} {memory : Memory α},
      memory.Hosts known calibration →
        { memory with nextId := memory.nextId + 1 }.Hosts known calibration :=
    fun hosts => ⟨hosts.1.of_evaluators_eq rfl (Nat.le_succ _) (Nat.le_refl _), hosts.2⟩
  rintro memory memoryRight ⟨hosts, hostsRight⟩
  exact ⟨⟨counted hosts, counted hostsRight⟩, .returned trivial⟩

omit [Scalar α] in
theorem matches_ofExcept {relation : Memory α → Memory α → Prop} {ε β : Type} {cause : ε → Error α}
    {result resultRight : Except ε β} (same : result = resultRight) :
    Matches relation (Action.ofExcept cause result) (Action.ofExcept cause resultRight)
      fun value other => value = other ∧ result = .ok value := by
  subst same
  cases result with
  | error reason => exact .throw _
  | ok value => exact .pure ⟨rfl, rfl⟩

end Memory

open Memory

variable {known knownRight : Evaluator α → Prop}

theorem EquationForm.matches_ofEquation {calibration calibrationRight : Calibration α}
    (trends : SteadyState α) (tolerance : α) {equation other : Equation α}
    (same : equation.bare = other.bare) :
    Matches (HostBoth known knownRight calibration calibrationRight)
      (ofEquation trends tolerance equation) (ofEquation trends tolerance other)
      fun form formRight => form.bare = formRight.bare := by
  have references : equation.references = other.references := (congrArg Equation.references same :)
  unfold ofEquation
  rw [references]
  apply Matches.ite Iff.rfl
  · exact fun _ => .pure (congrArg EquationForm.dynamic same)
  · intro _
    have checked : Matches (HostBoth known knownRight calibration calibrationRight)
        (other.references.steadyStates.forM (checkFlat trends tolerance equation))
        (other.references.steadyStates.forM (checkFlat trends tolerance other))
        fun _ _ => True := by
      apply Matches.forM (List.forall₂_same.mpr fun name _ => rfl)
      rintro name _ rfl
      apply (matches_ofExcept rfl).bind
      rintro trend _ ⟨rfl, _⟩
      exact .ite Iff.rfl (fun _ => matches_record _ _) fun _ => .pure trivial
    apply checked.bind
    intro _ _ _
    apply (matches_ofExcept rfl).bind
    rintro found _ ⟨rfl, _⟩
    exact .pure (congrArg (EquationForm.anchored · _) same)

section Models

variable {model other : Model α}

theorem System.matches_ofModel (same : model.bare = other.bare) :
    Matches (HostBoth known knownRight model.calibration other.calibration) (ofModel model)
      (ofModel other) fun system systemRight => system.bare = systemRight.bare := by
  have located :
      model.equations.mapM (locateAll model) = other.equations.mapM (locateAll other) := by
    have bare : ∀ model : Model α, model.bare.equations.mapM (locateAll model.bare) =
        model.equations.mapM (locateAll model) := by
      intro model
      rw [Model.bare, List.mapM_map]
      rfl
    rw [← bare model, same, bare]
  have uses : model.usesSteadyState = other.usesSteadyState := by
    have bare : ∀ model : Model α, model.bare.usesSteadyState = model.usesSteadyState :=
      fun model => List.any_map
    rw [← bare model, same, bare]
  have columns : model.columns = other.columns :=
    (congrArg Model.columns same :)
  have horizon : model.horizon = other.horizon :=
    (congrArg Model.horizon same :)
  have trends : model.steadyState = other.steadyState :=
    (congrArg Model.steadyState same :)
  have options : model.options = other.options :=
    (congrArg Model.options same :)
  have equations : model.equations.map Equation.bare = other.equations.map Equation.bare :=
    (congrArg Model.equations same :)
  unfold ofModel
  simp only [located, uses, columns, horizon, trends, options]
  apply (matches_ofExcept rfl).bind
  rintro places _ ⟨rfl, _⟩
  apply Matches.guard Iff.rfl
  intro _
  apply Matches.guard Iff.rfl
  intro _
  apply Matches.optional Iff.rfl (matches_record _ _)
  apply (Matches.mapM (map_eq_map_iff.mp equations) fun equation equationRight alike =>
    EquationForm.matches_ofEquation other.steadyState other.options.tolerance alike).bind
  intro forms formsRight alike
  apply matches_freshId.bind
  intro number numberRight _
  apply (matches_record _ _).bind
  intro _ _ _
  apply Matches.pure
  simp only [bare, equations, map_eq_map_iff.mpr alike]

section Evaluations

variable {calibration calibrationRight : Calibration α} {system systemRight : System α}
  {forms formsRight : List (EquationForm α)}

section Hosts

variable (here : ∀ form ∈ forms, known form.equation.evaluator ∧ form.IsSound)

include here

/-- A sound memory that serves a calibration stays one, whatever is evaluated in it. -/
theorem System.returns_residualsInto_hosts (system : System α) (point : NumberArray α)
    (buffer : List α) :
    Returns (Hosts known calibration) (system.residualsInto calibration forms point buffer)
      (system.residualsAlone calibration forms point buffer) :=
  (returns_residualsInto system (fun form member => (here form member).1) point buffer).alongside
    ((isStable_isSound calibration).toIsCalm.keeps_residualsInto system
      (fun form member => (here form member).2.exists_isSound) point buffer)

theorem System.returns_residualsAndJacobian_hosts (system : System α) (point : NumberArray α) :
    Returns (Hosts known calibration) (system.residualsAndJacobian calibration forms point)
      (system.jacobianAlone calibration forms point) :=
  (returns_residualsAndJacobian system (fun form member => (here form member).1)
    (fun form member => (here form member).2) point).alongside
      ((isStable_isSound calibration).keeps_residualsAndJacobian system
        (fun form member => (here form member).2.exists_isSound) point)

end Hosts

theorem Linearization.returns_expansions_hosts
    (here : ∀ form ∈ system.forms, known form.equation.evaluator ∧ form.IsSound) (whole : Bool)
    (tolerance : α) (point : NumberArray α) :
    Returns (Hosts known calibration)
      (do
        system.forms.forM (EquationForm.bind calibration)
        (system.equations.zip (system.forms.zip system.places)).mapM fun item =>
          if selects whole item.1 then expand tolerance point item.1 item.2.1 item.2.2
          else pure item.2.1)
      (formsAlone whole point calibration system) := by
  have knownForms := fun form member => (here form member).1
  have soundForms := fun form member => (here form member).2
  have usable := fun form member => (soundForms form member).exists_isSound
  have calm := (isStable_isSound calibration).toIsCalm
  exact (System.returns_bound knownForms
    (returns_expansions knownForms soundForms whole tolerance point)).alongside
      ((calm.keeps_bindAll usable).bind fun _ _ =>
        calm.keeps_expandEach usable whole tolerance point)

end Evaluations

section Sound

variable (here : ∀ equation ∈ model.equations, known equation.evaluator) (sound : model.IsSound)
  (hereRight : ∀ equation ∈ other.equations, knownRight equation.evaluator)
  (soundRight : other.IsSound) (same : model.bare = other.bare)

include here sound hereRight soundRight same

theorem Linearization.matches_ofModel (whole : Bool) :
    Matches (HostBoth known knownRight model.calibration other.calibration) (ofModel model whole)
      (ofModel other whole) fun linearization linearizationRight =>
        linearization.bare = linearizationRight.bare := by
  have trends : model.steadyState = other.steadyState :=
    (congrArg Model.steadyState same :)
  have options : model.options = other.options := (congrArg Model.options same :)
  have points : model.steadyStatePoint = other.steadyStatePoint :=
    (congrArg Model.steadyStatePoint same :)
  have calibrations : model.calibration.bare = other.calibration.bare :=
    (congrArg Model.calibration same :)
  have checked : Matches (HostBoth known knownRight model.calibration other.calibration)
      (checkSteadyState model) (checkSteadyState other) fun _ _ => True := by
    unfold checkSteadyState
    rw [trends, options]
    apply Matches.guard Iff.rfl
    intro _
    apply (matches_ofExcept rfl).bind
    rintro steepest _ ⟨rfl, _⟩
    exact .ite Iff.rfl (fun _ => .throw _) fun _ => .pure trivial
  apply checked.bind
  intro _ _ _
  apply ((System.matches_ofModel same).observe (fun _ _ both => ⟨both.1.2, both.2.2⟩)
    (System.keeps_ofModel sound) (System.keeps_ofModel soundRight)).bind
  rintro system systemRight ⟨systems, ⟨soundSystem, isOf⟩, soundSystemRight, isOfRight⟩
  apply (matches_ofExcept points).bind
  rintro point _ ⟨rfl, _⟩
  rw [← bind_assoc, ← bind_assoc, options]
  apply (Matches.of_returns
    (returns_expansions_hosts (usable_of_forms soundSystem.forms isOf here) whole _ point)
    (returns_expansions_hosts (usable_of_forms soundSystemRight.forms isOfRight hereRight) whole _
      point) (.of_map_eq (formsAlone_congr calibrations systems whole point))).bind
  intro forms formsRight alike
  have expanded : (system.equations.filter (selects whole)).map (·.name) =
      (systemRight.equations.filter (selects whole)).map (·.name) := by
    have bare : ∀ system : System α, (system.bare.equations.filter (selects whole)).map (·.name) =
        (system.equations.filter (selects whole)).map (·.name) := by
      intro system
      rw [System.bare, List.filter_map, List.map_map]
      rfl
    rw [← bare system, systems, bare]
  simp only [expanded]
  apply Matches.optional Iff.rfl (matches_record _ _)
  apply (matches_record _ _).bind
  intro _ _ _
  apply Matches.pure
  simp only [bare, systems, alike]

theorem StateSpace.matches_ofModel :
    Matches (HostBoth known knownRight model.calibration other.calibration) (ofModel model)
      (ofModel other) fun space spaceRight => space.bare = spaceRight.bare := by
  have keys : StateKeys.ofModel model = StateKeys.ofModel other :=
    (congrArg StateKeys.ofModel same :)
  have name : model.name = other.name := (congrArg Model.name same :)
  have calibrations : model.calibration.bare = other.calibration.bare :=
    (congrArg Model.calibration same :)
  have equations : model.equations.map Equation.bare = other.equations.map Equation.bare :=
    (congrArg Model.equations same :)
  have stated : model.equations.length = other.equations.length := by
    simpa using congrArg List.length equations
  have names : model.equations.map (·.name) = other.equations.map (·.name) := by
    have mapped := congrArg (List.map (·.name)) equations
    rw [List.map_map, List.map_map] at mapped
    exact mapped
  unfold ofModel
  simp only [keys, name, stated, names]
  apply ((Linearization.matches_ofModel here sound hereRight soundRight same true).observe
    (fun _ _ both => ⟨both.1.2, both.2.2⟩) (Linearization.keeps_ofModel sound true)
    (Linearization.keeps_ofModel soundRight true)).bind
  rintro linearization linearizationRight
    ⟨alike, ⟨soundHere, isOf, _⟩, soundHereRight, isOfRight, _⟩
  have systems : linearization.system.bare = linearizationRight.system.bare :=
    (congrArg Linearization.system alike :)
  have forms : linearization.forms.map EquationForm.bare =
      linearizationRight.forms.map EquationForm.bare :=
    (congrArg Linearization.forms alike :)
  have labels : linearization.system.labels = linearizationRight.system.labels :=
    (congrArg System.labels systems :)
  have points : linearization.point = linearizationRight.point :=
    (congrArg Linearization.point alike :)
  apply Matches.guard Iff.rfl
  intro _
  rw [points, labels]
  apply (Matches.of_returns
    (System.returns_residualsAndJacobian_hosts (usable_of_forms soundHere.forms isOf here) _ _)
    (System.returns_residualsAndJacobian_hosts
      (usable_of_forms soundHereRight.forms isOfRight hereRight) _ _)
    (.of_eq (System.jacobianAlone_congr calibrations systems forms _))).bind
  rintro found _ rfl
  apply (matches_ofExcept rfl).bind
  rintro entries _ ⟨rfl, _⟩
  apply (matches_record _ _).bind
  intro _ _ _
  apply Matches.pure
  simp only [bare, alike]

/-- Models with the same bare form are built alike for every variant. -/
theorem ModelForm.matches_ofModel (variant : Variant) :
    Matches (HostBoth known knownRight model.calibration other.calibration) (ofModel model variant)
      (ofModel other variant) fun form formRight => form.bare = formRight.bare := by
  have linearized := Linearization.matches_ofModel here sound hereRight soundRight same
  cases variant with
  | plain => exact (System.matches_ofModel same).map fun _ _ => congrArg ModelForm.plain
  | selective => exact (linearized false).map fun _ _ => congrArg ModelForm.linearized
  | full => exact (linearized true).map fun _ _ => congrArg ModelForm.linearized
  | firstOrder =>
      exact (StateSpace.matches_ofModel here sound hereRight soundRight same).map fun _ _ =>
        congrArg ModelForm.firstOrder

/-- What is built alike is alike in its parts, and its evaluators are known on both sides. -/
theorem ModelForm.matches_parts (variant : Variant) :
    Matches (HostBoth known knownRight model.calibration other.calibration) (ofModel model variant)
      (ofModel other variant) fun form formRight =>
        (form.system.bare = formRight.system.bare ∧
          form.forms.map EquationForm.bare = formRight.forms.map EquationForm.bare) ∧
        (∀ evaluated ∈ form.forms, known evaluated.equation.evaluator ∧ evaluated.IsSound) ∧
        ∀ evaluated ∈ formRight.forms,
          knownRight evaluated.equation.evaluator ∧ evaluated.IsSound := by
  have rests := (Serves.isStable known model.calibration).keeps_modelForm here variant
  have restsRight :=
    (Serves.isStable knownRight other.calibration).keeps_modelForm hereRight variant
  apply (((matches_ofModel here sound hereRight soundRight same variant).observe
    (fun _ _ both => ⟨both.1.1, both.2.1⟩) rests restsRight).observe
    (fun _ _ both => ⟨both.1.2, both.2.2⟩) (keeps_ofModel sound variant)
    (keeps_ofModel soundRight variant)).weaken
  rintro form formRight ⟨⟨alike, isOver, isOverRight⟩, soundForm, soundFormRight⟩
  refine ⟨⟨?_, ?_⟩, ?_, ?_⟩
  · rw [← system_bare, alike, system_bare]
  · rw [← forms_bare, alike, forms_bare]
  · exact fun evaluated member =>
      ⟨here _ (isOver.stated evaluated member), soundForm.sound_of_mem member⟩
  · exact fun evaluated member =>
      ⟨hereRight _ (isOverRight.stated evaluated member), soundFormRight.sound_of_mem member⟩

/-- Models with the same bare form return the same residuals, or fail with the same reason. -/
theorem ModelForm.matches_residuals (variant : Variant) (point : NumberArray α) :
    Matches (HostBoth known knownRight model.calibration other.calibration)
      (do let form ← ofModel model variant; form.residuals model.calibration point)
      (do let form ← ofModel other variant; form.residuals other.calibration point) Eq := by
  have calibrations : model.calibration.bare = other.calibration.bare :=
    (congrArg Model.calibration same :)
  apply (matches_parts here sound hereRight soundRight same variant).bind
  rintro form formRight ⟨⟨systems, forms⟩, usable, usableRight⟩
  have sized : form.forms.length = formRight.forms.length := by
    simpa using congrArg List.length forms
  apply Matches.of_returns (System.returns_residualsInto_hosts usable _ point _)
    (System.returns_residualsInto_hosts usableRight _ point _)
  rw [sized]
  exact .of_eq (System.residualsAlone_congr calibrations systems forms point _)

theorem ModelForm.matches_residualsAndJacobian (variant : Variant) (point : NumberArray α) :
    Matches (HostBoth known knownRight model.calibration other.calibration)
      (do let form ← ofModel model variant; form.residualsAndJacobian model.calibration point)
      (do let form ← ofModel other variant; form.residualsAndJacobian other.calibration point)
      Eq := by
  have calibrations : model.calibration.bare = other.calibration.bare :=
    (congrArg Model.calibration same :)
  apply (matches_parts here sound hereRight soundRight same variant).bind
  rintro form formRight ⟨⟨systems, forms⟩, usable, usableRight⟩
  exact Matches.of_returns (System.returns_residualsAndJacobian_hosts usable _ point)
    (System.returns_residualsAndJacobian_hosts usableRight _ point)
    (.of_eq (System.jacobianAlone_congr calibrations systems forms point))

end Sound

end Models

end Intertemporal
