import Intertemporal.Proofs.Matching
import Intertemporal.Proofs.System.Linearization

/-!
# Systems that are built alike

Two memories may have been used differently and still be alike in what matters for a new system:
both serve the calibration, and both hand out the same numbers next. Building a form of a model then
gives the same form in both, or fails alike, and leaves them alike.
-/

namespace Intertemporal

variable {α : Type} [Scalar α]

namespace Memory

/-- A sound memory that serves a calibration and hands out a given number and a given revision
next. -/
structure Awaits (known : Evaluator α → Prop) (calibration : Calibration α)
    (number revision : Nat) (memory : Memory α) : Prop where
  serves : memory.Serves known calibration
  sound : memory.IsSound
  nextId_eq : memory.nextId = number
  nextRevision_eq : memory.nextRevision = revision

variable {known : Evaluator α → Prop} {calibration : Calibration α} {number revision : Nat}

theorem isCalm_awaits (known : Evaluator α → Prop) (calibration : Calibration α)
    (number revision : Nat) :
    IsCalm (fun evaluator => known evaluator ∧ ∃ references, evaluator.IsSound references)
      calibration (Awaits known calibration number revision) where
  record _ := .modify fun _ awaits =>
    ⟨awaits.serves.of_evaluators_eq rfl (Nat.le_refl _) (Nat.le_refl _), awaits.sound,
      awaits.nextId_eq, awaits.nextRevision_eq⟩
  bind evaluator here := by
    intro memory awaits
    have serves := (Serves.keeps_bind here.1 memory awaits.serves).1
    have sound := ((isStable_isSound calibration).bind evaluator here.2 memory awaits.sound).1
    refine ⟨⟨serves, sound, ?_, ?_⟩, fun _ _ => trivial⟩
    · rw [← awaits.nextId_eq, Evaluator.outcome_bind_eq]
      split
      · rfl
      · split <;> rfl
    · rw [← awaits.nextRevision_eq, Evaluator.outcome_bind_eq]
      split
      · rfl
      · split <;> rfl
  residualAndGradient evaluator here array := by
    intro memory awaits
    have serves := (Serves.keeps_residualAndGradient here.1 array memory awaits.serves).1
    have sound := ((isStable_isSound calibration).residualAndGradient evaluator here.2 array memory
      awaits.sound).1
    refine ⟨⟨serves, sound, ?_, ?_⟩, fun _ _ => trivial⟩
    · rw [← awaits.nextId_eq, Evaluator.outcome_residualAndGradient]
      split <;> rfl
    · rw [← awaits.nextRevision_eq, Evaluator.outcome_residualAndGradient]
      split <;> rfl

theorem keeps_storeJacobian_awaits (id : Nat) (values : List α) :
    Keeps (Awaits known calibration number revision)
      (modify fun memory => { memory with jacobians := memory.jacobians.insert id values } :
        Action α PUnit) fun _ => True :=
  .modify fun _ awaits => ⟨awaits.serves.of_evaluators_eq rfl (Nat.le_refl _) (Nat.le_refl _),
    awaits.sound, awaits.nextId_eq, awaits.nextRevision_eq⟩

theorem Awaits.freshId {memory : Memory α}
    (awaits : memory.Awaits known calibration number revision) :
    { memory with nextId := memory.nextId + 1 }.Awaits known calibration (number + 1) revision :=
  ⟨awaits.serves.of_evaluators_eq rfl (Nat.le_succ _) (Nat.le_refl _), awaits.sound,
    congrArg (· + 1) awaits.nextId_eq, awaits.nextRevision_eq⟩

theorem Awaits.recalibrate {memory : Memory α}
    (awaits : memory.Awaits known calibration number revision) {changed : Calibration α}
    (stamped : changed.revision = revision) :
    { memory with nextRevision := memory.nextRevision + 1 }.Awaits known changed number
      (revision + 1) :=
  ⟨awaits.serves.recalibrate (stamped.trans awaits.nextRevision_eq.symm), awaits.sound,
    awaits.nextId_eq, congrArg (· + 1) awaits.nextRevision_eq⟩

/-- Two memories of this kind that hand out the same numbers next. -/
def Twins (known : Evaluator α → Prop) (calibration : Calibration α) (left right : Memory α) :
    Prop :=
  ∃ number revision, left.Awaits known calibration number revision ∧
    right.Awaits known calibration number revision

/-- What returns a result that is determined and hands out no numbers is done alike. -/
theorem Twins.respects {β : Type} {action : Action α β} {result : Except (Error α) β}
    {property : β → Prop} (returns : Returns (Serves known calibration) action result)
    (kept : ∀ number revision,
      Keeps (Awaits known calibration number revision) action property) :
    Respects (Twins known calibration) action property := by
  rintro left right ⟨number, revision, awaitsLeft, awaitsRight⟩
  rcases kept number revision left awaitsLeft with ⟨afterLeft, found⟩
  have afterRight := (kept number revision right awaitsRight).1
  have resultLeft := (returns left awaitsLeft.serves).2
  have resultRight := (returns right awaitsRight.serves).2
  exact ⟨⟨number, revision, afterLeft, afterRight⟩, resultLeft.trans resultRight.symm, found⟩

/-- What is known of values because the memory is sound may be added. -/
theorem Twins.observe {β : Type} {action : Action α β} {property other : β → Prop}
    (respects : Respects (Twins known calibration) action property)
    (sound : Keeps IsSound action other) :
    Respects (Twins known calibration) action fun value => property value ∧ other value := by
  intro left right twins
  rcases respects left right twins with ⟨after, same, found⟩
  rcases twins with ⟨_, _, awaits, _⟩
  exact ⟨after, same, fun value returned =>
    ⟨found value returned, (sound left awaits.sound).2 value returned⟩⟩

theorem respects_record (event : Event α) :
    Respects (Twins known calibration) (Action.record event) fun _ => True := by
  have kept : ∀ number revision,
      Keeps (Awaits known calibration number revision) (Action.record event) fun _ => True :=
    fun number revision => (isCalm_awaits known calibration number revision).record event
  rintro left right ⟨number, revision, awaitsLeft, awaitsRight⟩
  exact ⟨⟨number, revision, (kept _ _ left awaitsLeft).1, (kept _ _ right awaitsRight).1⟩, rfl,
    fun _ _ => trivial⟩

theorem respects_freshId :
    Respects (Twins known calibration) (Action.freshId (α := α)) fun _ => True := by
  rintro left right ⟨number, revision, awaitsLeft, awaitsRight⟩
  rw [outcome_freshId, outcome_freshId]
  refine ⟨⟨_, revision, awaitsLeft.freshId, awaitsRight.freshId⟩, ?_, fun _ _ => trivial⟩
  rw [awaitsLeft.nextId_eq, awaitsRight.nextId_eq]

omit [Scalar α] in
theorem respects_ofExcept {relation : Memory α → Memory α → Prop} {ε β : Type}
    {cause : ε → Error α} {result : Except ε β} :
    Respects relation (Action.ofExcept cause result) fun value => result = .ok value := by
  cases result with
  | error reason => exact .throw _
  | ok value => exact .pure rfl

end Memory

open Memory

variable {known : Evaluator α → Prop} {calibration : Calibration α} {model : Model α}

theorem EquationForm.respects_ofEquation (trends : SteadyState α) (tolerance : α)
    (equation : Equation α) :
    Respects (Twins known calibration) (ofEquation trends tolerance equation) fun _ => True := by
  unfold ofEquation
  apply Respects.ite
  · exact fun _ => .pure trivial
  · intro _
    have checked : Respects (Twins known calibration)
        (equation.references.steadyStates.forM (checkFlat trends tolerance equation))
        fun _ => ∀ name ∈ equation.references.steadyStates, True := by
      apply Respects.forM
      intro name _
      apply respects_ofExcept.bind
      intro trend _
      exact .ite (fun _ => respects_record _) fun _ => .pure trivial
    apply checked.bind
    intro _ _
    exact respects_ofExcept.bind fun found _ => .pure trivial

theorem System.respects_ofModel (model : Model α) :
    Respects (Twins known calibration) (ofModel model) fun _ => True := by
  apply respects_ofExcept.bind
  intro places _
  apply Respects.guard
  intro _
  apply Respects.guard
  intro _
  apply Respects.optional (respects_record _)
  have formed : Respects (Twins known calibration) (model.equations.mapM
      (EquationForm.ofEquation model.steadyState model.options.tolerance))
      fun forms => List.Forall₂ (fun _ _ => True) model.equations forms :=
    .mapM fun equation _ => EquationForm.respects_ofEquation _ _ equation
  apply formed.bind
  intro forms _
  apply respects_freshId.bind
  intro number _
  exact (respects_record _).bind fun _ _ => .pure trivial

/-- A copy is a copy of the same system under the same number, whatever values it begins with. -/
theorem System.respects_copy (system : System α) :
    Respects (Twins known calibration) system.copy fun _ => True := by
  rintro left right ⟨number, revision, awaitsLeft, awaitsRight⟩
  have stored : ∀ memory : Memory α, memory.Awaits known calibration number revision →
      (outcome system.copy memory).1 = .ok { system with id := number } ∧
        (outcome system.copy memory).2.Awaits known calibration (number + 1) revision := by
    intro memory awaits
    refine ⟨?_, (keeps_storeJacobian_awaits _ _ _ awaits.freshId).1⟩
    rw [← awaits.nextId_eq]
    rfl
  rcases stored left awaitsLeft with ⟨copyLeft, afterLeft⟩
  rcases stored right awaitsRight with ⟨copyRight, afterRight⟩
  exact ⟨⟨_, revision, afterLeft, afterRight⟩, copyLeft.trans copyRight.symm,
    fun _ _ => trivial⟩

section Evaluations

variable {forms : List (EquationForm α)}
  (here : ∀ form ∈ forms, known form.equation.evaluator ∧ form.IsSound)

include here

/-- Evaluations hand out no numbers. -/
theorem System.keeps_residualsInto_awaits (system : System α) (point : NumberArray α)
    (buffer : List α) (number revision : Nat) :
    Keeps (Awaits known calibration number revision)
      (system.residualsInto calibration forms point buffer) fun _ => True :=
  (isCalm_awaits known calibration number revision).keeps_residualsInto system
    (fun form member => ⟨(here form member).1, (here form member).2.exists_isSound⟩) point buffer

theorem System.keeps_residualsAndJacobian_awaits (system : System α) (point : NumberArray α)
    (number revision : Nat) :
    Keeps (Awaits known calibration number revision)
      (system.residualsAndJacobian calibration forms point) fun _ => True :=
  (isCalm_awaits known calibration number revision).keeps_residualsAndJacobian
    keeps_storeJacobian_awaits system
    (fun form member => ⟨(here form member).1, (here form member).2.exists_isSound⟩) point

theorem System.respects_residualsAndJacobian (system : System α) (point : NumberArray α) :
    Respects (Twins known calibration) (system.residualsAndJacobian calibration forms point)
      fun _ => True :=
  Twins.respects (returns_residualsAndJacobian system (fun form member => (here form member).1)
    (fun form member => (here form member).2) point)
    (keeps_residualsAndJacobian_awaits here system point)

end Evaluations

theorem Linearization.respects_checkSteadyState (model : Model α) :
    Respects (Twins known calibration) (checkSteadyState model) fun _ => True := by
  apply Respects.guard
  intro _
  apply respects_ofExcept.bind
  intro steepest _
  exact .ite (fun _ => .throw _) fun _ => .pure trivial

/-- Expansions are made alike, because each of them is that of its equation on its own. -/
theorem Linearization.respects_expansions {system : System α}
    (here : ∀ form ∈ system.forms, known form.equation.evaluator ∧ form.IsSound) (whole : Bool)
    (tolerance : α) (point : NumberArray α) :
    Respects (Twins known calibration)
      (do
        system.forms.forM (EquationForm.bind calibration)
        (system.equations.zip (system.forms.zip system.places)).mapM fun item =>
          if selects whole item.1 then expand tolerance point item.1 item.2.1 item.2.2
          else pure item.2.1) fun _ => True := by
  have knownForms := fun form member => (here form member).1
  have soundForms := fun form member => (here form member).2
  apply Twins.respects (System.returns_bound knownForms
    (returns_expansions knownForms soundForms whole tolerance point))
  intro number revision
  have calm := isCalm_awaits known calibration number revision
  have usable := fun form member =>
    And.intro (knownForms form member) (soundForms form member).exists_isSound
  apply (calm.keeps_bindAll usable).bind
  intro _ _
  exact calm.keeps_expandEach usable whole tolerance point

omit [Scalar α] in
/-- Sound forms of the equations of a model have its evaluators. -/
theorem usable_of_forms {property : EquationForm α → Prop} {system : System α}
    {forms : List (EquationForm α)}
    (formed : List.Forall₂ (fun equation form => form.equation = equation ∧ form.IsSound ∧
      property form) system.equations forms) (isOf : system.IsOf model)
    (here : ∀ equation ∈ model.equations, known equation.evaluator) :
    ∀ form ∈ forms, known form.equation.evaluator ∧ form.IsSound := by
  intro form member
  rcases exists_of_mem_right formed member with ⟨equation, among, rfl, sound, _⟩
  exact ⟨here _ (isOf.equations_eq ▸ among), sound⟩

theorem Linearization.respects_ofModel
    (here : ∀ equation ∈ model.equations, known equation.evaluator) (sound : model.IsSound)
    (whole : Bool) :
    Respects (Twins known model.calibration) (ofModel model whole) fun linearization =>
      linearization.IsSound ∧ linearization.system.IsOf model := by
  have made : Respects (Twins known model.calibration) (ofModel model whole) fun _ => True := by
    apply (respects_checkSteadyState model).bind
    intro _ _
    apply (Twins.observe (System.respects_ofModel model) (System.keeps_ofModel sound)).bind
    rintro system ⟨_, soundSystem, isOf⟩
    apply respects_ofExcept.bind
    intro point _
    rw [← bind_assoc]
    apply (respects_expansions (usable_of_forms soundSystem.forms isOf here) whole
      model.options.tolerance point).bind
    intro forms _
    apply Respects.optional (respects_record _)
    exact (respects_record _).bind fun _ _ => .pure trivial
  apply (Twins.observe made (keeps_ofModel sound whole)).weaken
  rintro linearization ⟨_, built⟩
  exact ⟨built.1, built.2.1⟩

theorem StateSpace.respects_ofModel
    (here : ∀ equation ∈ model.equations, known equation.evaluator) (sound : model.IsSound) :
    Respects (Twins known model.calibration) (ofModel model) fun _ => True := by
  apply (Linearization.respects_ofModel here sound true).bind
  rintro linearization ⟨soundHere, isOf⟩
  apply Respects.guard
  intro _
  apply (System.respects_residualsAndJacobian (usable_of_forms soundHere.forms isOf here)
    linearization.system linearization.point).bind
  intro found _
  apply respects_ofExcept.bind
  intro entries _
  exact (respects_record _).bind fun _ _ => .pure trivial

theorem ModelForm.respects_ofModel
    (here : ∀ equation ∈ model.equations, known equation.evaluator) (sound : model.IsSound)
    (variant : Variant) :
    Respects (Twins known model.calibration) (ofModel model variant) fun _ => True := by
  cases variant with
  | plain => exact (System.respects_ofModel model).map fun _ _ => trivial
  | selective => exact (Linearization.respects_ofModel here sound false).map fun _ _ => trivial
  | full => exact (Linearization.respects_ofModel here sound true).map fun _ _ => trivial
  | firstOrder => exact (StateSpace.respects_ofModel here sound).map fun _ _ => trivial

theorem ModelForm.respects_copy (form : ModelForm α) :
    Respects (Twins known calibration) form.copy fun _ => True := by
  cases form with
  | plain system => exact system.respects_copy.map fun _ _ => trivial
  | linearized linearization => exact .throw _
  | firstOrder space => exact .throw _

end Intertemporal
