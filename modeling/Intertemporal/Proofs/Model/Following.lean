import Intertemporal.Proofs.Model.Accounts
import Intertemporal.Proofs.System.Following

/-!
# Sessions that are followed

Two sessions resemble each other if their models and active forms are the same up to the numbers of
evaluators and systems, and their memories resemble each other. Whatever is requested of both then
does the same, and fails for the same reason, as long as assignments that fail change no value while
values may be bound early on one side. A new revision settles this: nothing is bound to it on either
side.
-/

namespace Intertemporal

variable {α : Type}

variable [Scalar α]

/-- Sessions that resemble each other under a calibration, where some forms are bound to it on the
first side. -/
structure Session.Resembles (comparison : Comparison α) (early : Prop)
    (calibration : Calibration α) (bound : List (EquationForm α)) (left right : Session α) :
    Prop where
  model_eq : right.model = left.model.renumber comparison.move
  active_eq : right.active = left.active.map (.renumber comparison.move)
  calibration_eq : left.model.calibration = calibration
  model : left.model.IsKnown comparison.known
  active : ∀ form ∈ left.active, form.IsKnown comparison.known
  memory : left.memory.Resembles comparison early calibration bound right.memory

namespace Session

variable {comparison : Comparison α} {early : Prop} {calibration : Calibration α}
  {bound : List (EquationForm α)}

section Rules

theorem follows_act {β γ : Type} {action : Action α β} {actionRight : Action α γ}
    {alike : β → γ → Prop}
    (follows : Matches (Memory.Resembles comparison early calibration bound) action actionRight
      alike) :
    Matches (Resembles comparison early calibration bound) (act action) (act actionRight)
      alike := by
  intro left right resembles
  rcases follows left.memory right.memory resembles.memory with ⟨memory, results⟩
  exact ⟨{ resembles with memory }, results⟩

theorem follows_ofExcept {ε β : Type} {cause : ε → Error α} {result resultRight : Except ε β}
    (same : result = resultRight) :
    Matches (Resembles comparison early calibration bound) (ofExcept cause result)
      (ofExcept cause resultRight) fun value other => value = other ∧ result = .ok value :=
  follows_act (Memory.matches_ofExcept same)

theorem follows_ofExcept_map {ε β γ : Type} {cause : ε → Error α} {result : Except ε β}
    {change : β → γ} :
    Matches (Resembles comparison early calibration bound) (ofExcept cause result)
      (ofExcept cause (result.map change))
      fun value other => other = change value ∧ result = .ok value := by
  cases result with
  | error reason => exact .throw _
  | ok value => exact .pure ⟨rfl, rfl⟩

/-- What follows the binding of a form may use that it is bound. -/
theorem follows_bound {β γ : Type} {form : EquationForm α} {next : SessionAction α β}
    {nextRight : SessionAction α γ} {alike : β → γ → Prop}
    (here : comparison.known form.equation.evaluator)
    (rest : Matches (Resembles comparison early calibration ([form] ++ bound)) next nextRight
      alike) :
    Matches (Resembles comparison early calibration bound)
      (do act (form.bind calibration); next)
      (do act ((form.renumber comparison.move).bind calibration); nextRight) alike := by
  apply (follows_act (EquationForm.follows_bind here)).bind_within _ _ fun _ _ _ => rest
  · intro session _ between after binding resembles
    rcases outcome_act_eq_ok.mp binding with ⟨memory, bindingForm, rfl⟩
    have memory := resembles.memory.bind
      (List.forall_mem_singleton.mpr (EquationForm.isBound_of_bind bindingForm))
    exact { resembles with memory }
  · exact fun _ _ resembles => { resembles with memory := resembles.memory.forget }

theorem follows_theModel :
    Matches (Resembles comparison early calibration bound) (theModel (α := α)) theModel
      fun model other => other = model.renumber comparison.move ∧
        model.calibration = calibration ∧ model.IsKnown comparison.known :=
  fun _ _ resembles => ⟨resembles, .returned
    ⟨resembles.model_eq, resembles.calibration_eq, resembles.model⟩⟩

variable {model : Model α} (same : model.calibration = calibration)
  (known : model.IsKnown comparison.known)

include same known

theorem follows_setModel :
    Matches (Resembles comparison early calibration bound) (setModel model)
      (setModel (model.renumber comparison.move)) fun _ _ => True :=
  fun _ _ resembles =>
    ⟨{ resembles with model_eq := rfl, calibration_eq := same, model := known },
      .returned trivial⟩

theorem follows_restructure :
    Matches (Resembles comparison early calibration bound) (restructure model)
      (restructure (model.renumber comparison.move)) fun _ _ => True := by
  intro left right resembles
  refine ⟨{ resembles with
    model_eq := rfl, active_eq := rfl, calibration_eq := same, model := known, active := ?_ },
    .returned trivial⟩
  rintro form ⟨⟩

end Rules

section Declarations

theorem follows_addVariable (added : Variable) :
    Matches (Resembles comparison early calibration bound) (addVariable added)
      (addVariable added) fun _ _ => True := by
  apply follows_theModel.bind
  rintro model _ ⟨rfl, same, known⟩
  apply (follows_ofExcept rfl).bind
  rintro symbols _ ⟨rfl, _⟩
  exact follows_restructure same ⟨known.equations, known.entries⟩

theorem follows_addShock (added : Shock) :
    Matches (Resembles comparison early calibration bound) (addShock added)
      (addShock added) fun _ _ => True := by
  apply follows_theModel.bind
  rintro model _ ⟨rfl, same, known⟩
  apply (follows_ofExcept rfl).bind
  rintro symbols _ ⟨rfl, _⟩
  exact follows_restructure same ⟨known.equations, known.entries⟩

theorem follows_checkDeclared (isDeclared : String → Bool) (place : String)
    (names : List String) :
    Matches (Resembles comparison early calibration bound)
      (checkDeclared (α := α) isDeclared place names) (checkDeclared isDeclared place names)
      fun _ _ => True := by
  unfold checkDeclared
  split
  · exact .throw _
  · exact .pure trivial

theorem follows_setSteadyState (name : String) (level slope : Datum α) :
    Matches (Resembles comparison early calibration bound) (setSteadyState name level slope)
      (setSteadyState name level slope) fun _ _ => True := by
  apply follows_theModel.bind
  rintro model _ ⟨rfl, same, known⟩
  apply (follows_checkDeclared _ _ _).bind
  intro _ _ _
  have stored : Matches (Resembles comparison early calibration bound)
      (setModel { model with steadyState := (model.steadyState.set name level slope true).1 })
      (setModel (Model.renumber comparison.move
        { model with steadyState := (model.steadyState.set name level slope true).1 }))
      fun _ _ => True := follows_setModel same ⟨known.equations, known.entries⟩
  exact stored.bind fun _ _ _ => (follows_ofExcept rfl).weaken fun _ _ _ => trivial

end Declarations

section Equations

theorem follows_checkNewEquation (model : Model α) (name : String) :
    Matches (Resembles comparison early calibration bound) (checkNewEquation model name)
      (checkNewEquation (model.renumber comparison.move) name) fun _ _ => True := by
  have same : (model.renumber comparison.move).equations.any (·.name == name) =
      model.equations.any (·.name == name) := List.any_map
  unfold checkNewEquation
  rw [same]
  exact .ite Iff.rfl (fun _ => .throw _) fun _ => .pure trivial

omit [Scalar α] in
theorem nameFor_renumber (model : Model α) (name : String) :
    nameFor (model.renumber comparison.move) name = nameFor model name := by
  unfold nameFor
  rw [Model.renumber, List.length_map]

theorem follows_append (name : String) (expression : Expression α) (linear : Bool)
    (source : String) :
    Matches (Resembles comparison early calibration bound) (append name expression linear source)
      (append name expression linear source)
      fun equation other => other = equation.renumber comparison.move := by
  apply follows_theModel.bind
  rintro model _ ⟨rfl, same, known⟩
  apply (follows_act (Registry.follows_compile known.entries _ _)).bind
  rintro ⟨evaluator, registry⟩ _ ⟨rfl, here, entries⟩
  have extended : Matches (Resembles comparison early calibration bound)
      (restructure { model with
        registry, equations := model.equations ++
          [⟨name, expression, expression.references, evaluator, linear, source⟩] })
      (restructure (Model.renumber comparison.move { model with
        registry, equations := model.equations ++
          [⟨name, expression, expression.references, evaluator, linear, source⟩] }))
      fun _ _ => True :=
    follows_restructure same
      ⟨List.forall_mem_append.mpr ⟨known.equations, List.forall_mem_singleton.mpr here⟩, entries⟩
  simp only [Model.renumber, List.map_append, List.map_cons, List.map_nil] at extended ⊢
  apply extended.bind
  intro _ _ _
  exact .pure rfl

theorem follows_appendToHorizon (name : String) (expression : Expression α) (linear : Bool)
    (source : String) :
    Matches (Resembles comparison early calibration bound)
      (appendToHorizon name expression linear source)
      (appendToHorizon name expression linear source) fun _ _ => True := by
  apply (follows_append name expression linear source).bind
  rintro equation _ rfl
  apply follows_theModel.bind
  rintro model _ ⟨rfl, same, known⟩
  have taken : Matches (Resembles comparison early calibration bound)
      (setModel { model with
        horizon := equation.references.series.foldl Horizon.add model.horizon })
      (setModel (Model.renumber comparison.move { model with
        horizon := equation.references.series.foldl Horizon.add model.horizon }))
      fun _ _ => True := follows_setModel same ⟨known.equations, known.entries⟩
  exact taken.bind fun _ _ _ =>
    (follows_act (Memory.follows_record _ _)).bind fun _ _ _ => .pure trivial

theorem follows_addEquation (text name : String) (linear : Bool) :
    Matches (Resembles comparison early calibration bound) (addEquation text name linear)
      (addEquation text name linear) fun _ _ => True := by
  apply follows_theModel.bind
  rintro model _ ⟨rfl, _, _⟩
  dsimp only
  rw [nameFor_renumber]
  apply (follows_checkNewEquation model _).bind
  intro _ _ _
  apply (follows_ofExcept rfl).bind
  rintro expression _ ⟨rfl, _⟩
  exact follows_appendToHorizon _ _ _ _

theorem follows_addExpression (expression : Expression α) (name : String) (linear : Bool) :
    Matches (Resembles comparison early calibration bound) (addExpression expression name linear)
      (addExpression expression name linear) fun _ _ => True := by
  apply follows_theModel.bind
  rintro model _ ⟨rfl, _, _⟩
  dsimp only
  rw [nameFor_renumber]
  apply (follows_checkNewEquation model _).bind
  intro _ _ _
  apply (follows_ofExcept rfl).bind
  rintro _ _ _
  exact follows_appendToHorizon _ _ _ _

theorem follows_recompileEquation {equation : Equation α} :
    Matches (Resembles comparison early calibration bound) (recompileEquation equation)
      (recompileEquation (equation.renumber comparison.move)) fun again other =>
        other = again.renumber comparison.move ∧ comparison.known again.evaluator := by
  apply follows_theModel.bind
  rintro model _ ⟨rfl, same, known⟩
  apply (follows_act (Registry.follows_compile known.entries _ _)).bind
  rintro ⟨evaluator, registry⟩ _ ⟨rfl, here, entries⟩
  have stored : Matches (Resembles comparison early calibration bound)
      (setModel { model with registry })
      (setModel (Model.renumber comparison.move { model with registry })) fun _ _ => True :=
    follows_setModel same ⟨known.equations, entries⟩
  exact stored.bind fun _ _ _ => .pure ⟨rfl, here⟩

theorem follows_recompile :
    Matches (Resembles comparison early calibration bound) (recompile (α := α)) recompile
      fun _ _ => True := by
  apply follows_theModel.bind
  rintro model _ ⟨rfl, same, known⟩
  have emptied : Matches (Resembles comparison early calibration bound)
      (setModel { model with registry := { chunkLimit := model.options.chunkLimit } })
      (setModel (Model.renumber comparison.move
        { model with registry := { chunkLimit := model.options.chunkLimit } }))
      fun _ _ => True := by
    refine follows_setModel same ⟨known.equations, ?_⟩
    intro entry member
    cases member
  have compiled : Matches (Resembles comparison early calibration bound)
      (model.equations.mapM recompileEquation)
      ((model.equations.map (.renumber comparison.move)).mapM recompileEquation)
      (List.Forall₂ fun again other =>
        other = again.renumber comparison.move ∧ comparison.known again.evaluator) := by
    apply Matches.mapM (forall₂_map_right model.equations)
    rintro equation _ ⟨_, rfl⟩
    exact follows_recompileEquation
  refine emptied.bind fun _ _ _ => compiled.bind ?_
  intro equations others paired
  have here : ∀ equation ∈ equations, comparison.known equation.evaluator := by
    intro equation member
    rcases exists_of_mem_left paired member with ⟨_, _, _, known⟩
    exact known
  rcases eq_map_of_forall₂ (paired.imp fun _ _ both => both.1) with rfl
  apply follows_theModel.bind
  rintro later _ ⟨rfl, sameLater, knownLater⟩
  have restated : Matches (Resembles comparison early calibration bound)
      (setModel { later with equations })
      (setModel (Model.renumber comparison.move { later with equations })) fun _ _ => True :=
    follows_setModel sameLater ⟨here, knownLater.entries⟩
  exact restated.bind fun _ _ _ => follows_act (Memory.follows_record _ _)

theorem follows_update [Numeral α] (settings overrides : Settings α) :
    Matches (Resembles comparison early calibration bound) (update settings overrides)
      (update settings overrides) fun _ _ => True := by
  apply follows_theModel.bind
  rintro model _ ⟨rfl, same, known⟩
  apply (follows_ofExcept rfl).bind
  rintro _ _ _
  apply (follows_ofExcept rfl).bind
  rintro options _ ⟨rfl, _⟩
  have chosen : Matches (Resembles comparison early calibration bound)
      (setModel { model with options })
      (setModel (Model.renumber comparison.move { model with options })) fun _ _ => True :=
    follows_setModel same ⟨known.equations, known.entries⟩
  refine chosen.bind fun _ _ _ => ?_
  apply Matches.optional Iff.rfl follows_recompile
  apply follows_theModel.bind
  rintro later _ ⟨rfl, sameLater, knownLater⟩
  exact follows_restructure sameLater knownLater

end Equations

section Forms

theorem follows_build (variant : Variant) :
    Matches (Resembles comparison early calibration bound) (build (α := α) variant)
      (build variant) fun form other =>
        other = form.renumber comparison.move ∧ form.IsKnown comparison.known := by
  apply follows_theModel.bind
  rintro model _ ⟨rfl, rfl, known⟩
  exact follows_act (ModelForm.follows_ofModel known.equations variant)

theorem follows_activate {form : ModelForm α} (known : form.IsKnown comparison.known) :
    Matches (Resembles comparison early calibration bound)
      (do modify fun session => { session with active := some form }; pure form :
        SessionAction α (ModelForm α))
      (do
        modify fun session => { session with active := some (form.renumber comparison.move) }
        pure (form.renumber comparison.move) : SessionAction α (ModelForm α)) fun form other =>
          other = form.renumber comparison.move ∧ form.IsKnown comparison.known := by
  intro left right resembles
  refine ⟨{ resembles with active_eq := rfl, active := ?_ }, .returned ⟨rfl, known⟩⟩
  rintro _ ⟨⟩
  exact known

theorem follows_refresh :
    Matches (Resembles comparison early calibration bound) (refresh (α := α)) refresh
      fun form other => other = form.renumber comparison.move ∧
        form.IsKnown comparison.known := by
  apply follows_theModel.bind
  rintro model _ ⟨rfl, _⟩
  apply (follows_build model.options.variant).bind
  rintro form _ ⟨rfl, known⟩
  exact follows_activate known

theorem follows_form :
    Matches (Resembles comparison early calibration bound) (form (α := α)) form
      fun form other => other = form.renumber comparison.move ∧
        form.IsKnown comparison.known := by
  intro left right resembles
  have refreshed := follows_refresh left right resembles
  rw [form, outcome_bind, outcome_bind, outcome_get, outcome_get]
  dsimp only
  rw [resembles.active_eq]
  rcases active : left.active with _ | found
  · exact refreshed
  · exact ⟨resembles, .returned ⟨rfl, resembles.active found active⟩⟩

theorem follows_install (variant : Variant) :
    Matches (Resembles comparison early calibration bound) (install (α := α) variant)
      (install variant) fun form other =>
        other = form.renumber comparison.move ∧ form.IsKnown comparison.known := by
  apply (follows_build variant).bind
  rintro form _ ⟨rfl, known⟩
  intro left right resembles
  have model_eq := resembles.model_eq
  refine ⟨{ resembles with
    model_eq := ?_, active_eq := rfl, model := ?_, active := ?_ }, .returned ⟨rfl, known⟩⟩
  · simp only [outcome_bind, outcome_modify, outcome_pure, model_eq]
    rfl
  · exact ⟨resembles.model.equations, resembles.model.entries⟩
  · rintro _ ⟨⟩
    exact known

section Evaluations

variable {form : ModelForm α} (known : form.IsKnown comparison.known)

include known

theorem follows_residuals (point : NumberArray α) :
    Matches (Resembles comparison early calibration bound) (residuals form point)
      (residuals (form.renumber comparison.move) point) Eq := by
  apply follows_theModel.bind
  rintro model _ ⟨rfl, rfl, _⟩
  exact follows_act (ModelForm.follows_residuals known point)

theorem follows_residualsInto (point : NumberArray α) (buffer : List α) :
    Matches (Resembles comparison early calibration bound) (residualsInto form point buffer)
      (residualsInto (form.renumber comparison.move) point buffer) Eq := by
  apply follows_theModel.bind
  rintro model _ ⟨rfl, rfl, _⟩
  exact follows_act (ModelForm.follows_residualsInto known point buffer)

theorem follows_residualsAndJacobian (point : NumberArray α) :
    Matches (Resembles comparison early calibration bound) (residualsAndJacobian form point)
      (residualsAndJacobian (form.renumber comparison.move) point) Eq := by
  apply follows_theModel.bind
  rintro model _ ⟨rfl, rfl, _⟩
  exact follows_act (ModelForm.follows_residualsAndJacobian known point)

end Evaluations

theorem follows_residualAt {form : EquationForm α}
    (known : comparison.known form.equation.evaluator) (member : form ∈ bound)
    (data : NumberArray α) (horizon : Horizon) (references : List (TimedVariable × Nat))
    (date : Int) :
    Matches (Resembles comparison early calibration bound)
      (residualAt form data horizon references date)
      (residualAt (form.renumber comparison.move) data horizon references date) Eq := by
  unfold residualAt
  split
  · exact .pure rfl
  · apply (follows_ofExcept rfl).bind
    rintro inputs _ ⟨rfl, _⟩
    exact follows_act (EquationForm.follows_residual known member inputs)

theorem follows_residualsAlong (name : String) (trajectory : Trajectory α)
    (dates : Option (List Int)) :
    Matches (Resembles comparison early calibration bound) (residualsAlong name trajectory dates)
      (residualsAlong name trajectory dates) Eq := by
  apply follows_theModel.bind
  rintro model _ ⟨rfl, rfl, known⟩
  rw [Model.equation_renumber]
  apply follows_ofExcept_map.bind
  rintro equation _ ⟨rfl, found⟩
  apply (follows_ofExcept rfl).bind
  rintro data _ ⟨rfl, _⟩
  apply Matches.guard Iff.rfl
  intro _
  apply (follows_ofExcept rfl).bind
  rintro references _ ⟨rfl, _⟩
  have here := known.equations equation (Model.mem_of_equation found)
  apply (follows_act (EquationForm.follows_ofEquation_known _ _ here)).bind
  rintro form _ ⟨rfl, hereForm⟩
  apply follows_bound hereForm
  refine (Matches.mapM (List.forall₂_same.mpr fun date _ => rfl) ?_).weaken fun _ _ paired =>
    List.forall₂_eq_eq_eq ▸ paired
  rintro date _ rfl
  exact follows_residualAt hereForm List.mem_cons_self data _ references date

end Forms

end Session

end Intertemporal
