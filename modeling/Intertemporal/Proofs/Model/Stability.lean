import Intertemporal.Model.Trajectory
import Intertemporal.Proofs.Symbols
import Intertemporal.Proofs.System.Stability

/-!
# Invariants that last

Operations on a session change the model, the memory and the active form in few ways. Most of them
neither compile an equation nor give a parameter a value: they change the model only by declaring
names, by steady states and by options, build and copy forms of it, and evaluate forms in use. An
invariant that says something of the model, of the memory and of the forms apart lasts through all
of them, whether they succeed or fail, if these few changes keep it. The same is true of the
operations that compile equations and give parameters values.
-/

namespace Intertemporal

variable {α : Type}

theorem Model.mem_of_equation {model : Model α} {name : String} {equation : Equation α}
    (found : model.equation name = .ok equation) : equation ∈ model.equations := by
  unfold Model.equation at found
  split at found
  · rename_i first among
    cases found
    exact List.mem_of_find?_eq_some among
  · cases found

namespace Session

theorem outcome_act {β : Type} (action : Action α β) (session : Session α) :
    outcome (act action) session =
      ((outcome action session.memory).1,
        { session with memory := (outcome action session.memory).2 }) := rfl

theorem outcome_act_eq_ok {β : Type} {action : Action α β} {session after : Session α}
    {value : β} :
    outcome (act action) session = (.ok value, after) ↔
      ∃ memory, outcome action session.memory = (.ok value, memory) ∧
        after = { session with memory } := by
  rw [outcome_act]
  constructor
  · intro returned
    obtain ⟨result, rfl⟩ := Prod.mk.inj returned
    exact ⟨_, Prod.ext result rfl, rfl⟩
  · rintro ⟨memory, returned, rfl⟩
    rw [returned]

/-- What is done with the model of a session is done with it at the time. -/
theorem outcome_theModel_bind {β : Type} (next : Model α → SessionAction α β)
    (session : Session α) :
    outcome (do next (← theModel)) session = outcome (next session.model) session := rfl

variable [Scalar α]

theorem outcome_build (variant : Variant) (session : Session α) :
    outcome (build variant) session =
      ((outcome (ModelForm.ofModel session.model variant) session.memory).1,
        { session with
          memory := (outcome (ModelForm.ofModel session.model variant) session.memory).2 }) := rfl

/-- An invariant of sessions that says something of the model, of the memory and of forms, where
known evaluators are those of equations and forms. It lasts as long as no form is built, copied or
evaluated with its Jacobian. -/
structure IsPersistent (known : Evaluator α → Prop) (invariant : Session α → Prop)
    (ofModel : Model α → Prop) (ofMemory : Memory α → Prop) (ofForm : ModelForm α → Prop) :
    Prop where
  parts : ∀ session, invariant session ↔
    ofModel session.model ∧ ofMemory session.memory ∧ ∀ form ∈ session.active, ofForm form
  declare : ∀ model symbols steadyState, ofModel model →
    (model.symbols.IsDistinct → symbols.IsDistinct) →
      ofModel { model with symbols, steadyState }
  choose : ∀ model options, ofModel model → ofModel { model with options }
  calm : ∀ model, ofModel model → IsCalm known model.calibration ofMemory
  equations : ∀ model, ofModel model → ∀ equation ∈ model.equations, known equation.evaluator
  forms : ∀ form, ofForm form → ∀ evaluated ∈ form.forms, known evaluated.equation.evaluator

/-- An invariant that lasts also then. -/
structure IsLasting (known : Evaluator α → Prop) (invariant : Session α → Prop)
    (ofModel : Model α → Prop) (ofMemory : Memory α → Prop) (ofForm : ModelForm α → Prop) : Prop
    extends IsPersistent known invariant ofModel ofMemory ofForm where
  stable : ∀ model, ofModel model → IsStable known model.calibration ofMemory
  built : ∀ model, ofModel model → ∀ variant,
    Keeps ofMemory (ModelForm.ofModel model variant) ofForm
  copied : ∀ form, ofForm form → Keeps ofMemory form.copy ofForm

/-- An invariant that lasts also while equations are compiled and parameters are given values. It
may say something of equations, and of evaluators that are compiled for a key. -/
structure IsGrowing (known : Evaluator α → Prop) (invariant : Session α → Prop)
    (ofModel : Model α → Prop) (ofMemory : Memory α → Prop) (ofForm : ModelForm α → Prop)
    (stated : Equation α → Prop) (compiled : EvaluatorKey α → Evaluator α → Prop) : Prop
    extends IsPersistent known invariant ofModel ofMemory ofForm where
  calibrate : ∀ model calibration, ofModel model → ofModel { model with calibration }
  revise : ∀ memory revision, ofMemory memory → ofMemory { memory with nextRevision := revision }
  extend : ∀ model horizon, ofModel model → ofModel { model with horizon }
  clear : ∀ model, ofModel model →
    ofModel { model with registry := { chunkLimit := model.options.chunkLimit } }
  compile : ∀ model, ofModel model → ∀ name key,
    Keeps ofMemory (model.registry.compile name key) fun found =>
      compiled key found.1 ∧ ofModel { model with registry := found.2 }
  states : ∀ model, ofModel model → ∀ equation ∈ model.equations, stated equation
  restate : ∀ model equations, ofModel model → (∀ equation ∈ equations, stated equation) →
    ofModel { model with equations }
  isNew : ∀ equation, equation.references = equation.expression.references →
    compiled ⟨equation.expression, equation.references⟩ equation.evaluator → stated equation
  renew : ∀ equation evaluator, stated equation →
    compiled ⟨equation.expression, equation.references⟩ evaluator →
      stated { equation with evaluator }

section Checks

variable {invariant : Session α → Prop}

omit [Scalar α] in
theorem keeps_checkDeclared (isDeclared : String → Bool) (place : String) (names : List String) :
    Keeps invariant (checkDeclared (α := α) isDeclared place names) fun _ => True := by
  unfold checkDeclared
  split
  · exact .throw _
  · exact .pure trivial

omit [Scalar α] in
theorem keeps_checkNewEquation (model : Model α) (name : String) :
    Keeps invariant (checkNewEquation model name) fun _ => True :=
  .ite (fun _ => .throw _) fun _ => .pure trivial

end Checks

namespace IsPersistent

variable {known : Evaluator α → Prop} {invariant : Session α → Prop} {ofModel : Model α → Prop}
  {ofMemory : Memory α → Prop} {ofForm : ModelForm α → Prop}
  (persistent : IsPersistent known invariant ofModel ofMemory ofForm)

include persistent

theorem keeps_theModel : Keeps invariant (theModel (α := α)) ofModel :=
  Keeps.get.bind fun session holds => .pure ((persistent.parts session).mp holds).1

theorem keeps_act {β : Type} {action : Action α β} {property : β → Prop}
    (kept : Keeps ofMemory action property) : Keeps invariant (act action) property := by
  intro session holds
  obtain ⟨model, memory, active⟩ := (persistent.parts session).mp holds
  obtain ⟨memoryAfter, returned⟩ := kept session.memory memory
  rw [outcome_act]
  exact ⟨(persistent.parts _).mpr ⟨model, memoryAfter, active⟩, returned⟩

theorem keeps_ofExcept {ε β : Type} {cause : ε → Error α} {result : Except ε β} :
    Keeps invariant (ofExcept cause result) fun value => result = .ok value :=
  persistent.keeps_act Intertemporal.keeps_ofExcept

theorem keeps_setModel {model : Model α} (holds : ofModel model) :
    Keeps invariant (setModel model) fun _ => True := by
  refine .modify fun session kept => ?_
  exact (persistent.parts _).mpr ⟨holds, ((persistent.parts session).mp kept).2⟩

theorem keeps_restructure {model : Model α} (holds : ofModel model) :
    Keeps invariant (restructure model) fun _ => True := by
  refine .modify fun session kept => ?_
  refine (persistent.parts _).mpr ⟨holds, ((persistent.parts session).mp kept).2.1, ?_⟩
  rintro form ⟨⟩

theorem keeps_addVariable (added : Variable) :
    Keeps invariant (addVariable (α := α) added) fun _ => True := by
  refine persistent.keeps_theModel.bind fun model holds => ?_
  refine persistent.keeps_ofExcept.bind fun symbols declared => ?_
  refine persistent.keeps_restructure (persistent.declare model symbols _ holds ?_)
  exact fun distinct => SymbolTable.isDistinct_addVariable distinct declared

theorem keeps_addShock (added : Shock) :
    Keeps invariant (addShock (α := α) added) fun _ => True := by
  refine persistent.keeps_theModel.bind fun model holds => ?_
  refine persistent.keeps_ofExcept.bind fun symbols declared => ?_
  refine persistent.keeps_restructure (persistent.declare model symbols _ holds ?_)
  exact fun distinct => SymbolTable.isDistinct_addShock distinct declared

theorem keeps_setSteadyState (name : String) (level slope : Datum α) :
    Keeps invariant (setSteadyState name level slope) fun _ => True := by
  refine persistent.keeps_theModel.bind fun model holds => ?_
  refine (keeps_checkDeclared _ _ _).bind fun _ _ => ?_
  dsimp only
  have changed := persistent.declare model model.symbols
    (model.steadyState.set name level slope true).1 holds id
  refine (persistent.keeps_setModel changed).bind fun _ _ => ?_
  exact persistent.keeps_ofExcept.weaken fun _ _ => trivial

section Evaluations

variable {form : ModelForm α}

theorem keeps_residualsInto (holds : ofForm form) (point : NumberArray α) (buffer : List α) :
    Keeps invariant (residualsInto form point buffer) fun _ => True :=
  persistent.keeps_theModel.bind fun model ofModel => persistent.keeps_act
    ((persistent.calm model ofModel).keeps_residualsInto _ (persistent.forms form holds) point
      buffer)

theorem keeps_residuals (holds : ofForm form) (point : NumberArray α) :
    Keeps invariant (residuals form point) fun _ => True :=
  persistent.keeps_theModel.bind fun model ofModel => persistent.keeps_act
    ((persistent.calm model ofModel).keeps_residualsInto _ (persistent.forms form holds) point _)

theorem keeps_residualAt (form : EquationForm α) (data : NumberArray α) (horizon : Horizon)
    (references : List (TimedVariable × Nat)) (date : Int) :
    Keeps invariant (residualAt form data horizon references date) fun _ => True := by
  unfold residualAt
  split
  · exact .pure trivial
  · exact persistent.keeps_ofExcept.bind fun _ _ => persistent.keeps_act (form.keeps_residual _)

theorem keeps_residualsAlong (name : String) (trajectory : Trajectory α)
    (dates : Option (List Int)) :
    Keeps invariant (residualsAlong name trajectory dates) fun _ => True := by
  refine persistent.keeps_theModel.bind fun model holds => ?_
  have calm := persistent.calm model holds
  refine persistent.keeps_ofExcept.bind fun equation found => ?_
  refine persistent.keeps_ofExcept.bind fun data _ => ?_
  refine .guard fun _ => ?_
  refine persistent.keeps_ofExcept.bind fun references _ => ?_
  refine (persistent.keeps_act (calm.keeps_ofEquation _ _ equation)).bind fun form formed => ?_
  have here : known form.equation.evaluator := by
    rw [formed.equation_eq]
    exact persistent.equations model holds equation (Model.mem_of_equation found)
  refine (persistent.keeps_act (calm.keeps_bindForm here)).bind fun _ _ => ?_
  have each : Keeps invariant
      ((dates.getD ((List.range (data.shape.headD 0)).map Int.ofNat)).mapM
        (residualAt form data model.horizon references))
      fun results => List.Forall₂ (fun _ _ => True) _ results :=
    .mapM fun date _ => persistent.keeps_residualAt form data model.horizon references date
  exact each.weaken fun _ _ => trivial

end Evaluations

end IsPersistent

namespace IsLasting

variable {known : Evaluator α → Prop} {invariant : Session α → Prop} {ofModel : Model α → Prop}
  {ofMemory : Memory α → Prop} {ofForm : ModelForm α → Prop}
  (lasting : IsLasting known invariant ofModel ofMemory ofForm)

include lasting

theorem keeps_build (variant : Variant) : Keeps invariant (build (α := α) variant) ofForm :=
  lasting.keeps_theModel.bind fun model holds =>
    lasting.keeps_act (lasting.built model holds variant)

theorem keeps_refresh : Keeps invariant (refresh (α := α)) ofForm := by
  refine lasting.keeps_theModel.bind fun model _ => ?_
  refine (lasting.keeps_build _).bind fun form holds => ?_
  refine (Keeps.modify ?_).bind fun _ _ => .pure holds
  intro session kept
  obtain ⟨model, memory, _⟩ := (lasting.parts session).mp kept
  refine (lasting.parts _).mpr ⟨model, memory, ?_⟩
  rintro _ ⟨⟩
  exact holds

theorem keeps_form : Keeps invariant (form (α := α)) ofForm := by
  refine Keeps.get.bind fun session kept => ?_
  rcases active : session.active with _ | found
  · exact lasting.keeps_refresh
  · exact .pure (((lasting.parts session).mp kept).2.2 found active)

theorem keeps_install (variant : Variant) : Keeps invariant (install (α := α) variant) ofForm := by
  refine (lasting.keeps_build variant).bind fun form holds => ?_
  refine (Keeps.modify ?_).bind fun _ _ => .pure holds
  intro session kept
  obtain ⟨model, memory, _⟩ := (lasting.parts session).mp kept
  refine (lasting.parts _).mpr ⟨lasting.choose _ _ model, memory, ?_⟩
  rintro _ ⟨⟩
  exact holds

variable {form : ModelForm α}

theorem keeps_copy (holds : ofForm form) : Keeps invariant (act form.copy) ofForm :=
  lasting.keeps_act (lasting.copied form holds)

theorem keeps_residualsAndJacobian (holds : ofForm form) (point : NumberArray α) :
    Keeps invariant (residualsAndJacobian form point) fun _ => True :=
  lasting.keeps_theModel.bind fun model ofModel => lasting.keeps_act
    ((lasting.stable model ofModel).keeps_residualsAndJacobian _ (lasting.forms form holds) point)

end IsLasting

namespace IsGrowing

variable {known : Evaluator α → Prop} {invariant : Session α → Prop} {ofModel : Model α → Prop}
  {ofMemory : Memory α → Prop} {ofForm : ModelForm α → Prop} {stated : Equation α → Prop}
  {compiled : EvaluatorKey α → Evaluator α → Prop}
  (growing : IsGrowing known invariant ofModel ofMemory ofForm stated compiled)

include growing

section Values

theorem keeps_assign (values : List (String × Datum α)) :
    Keeps invariant (assign values) fun _ => True := by
  refine Keeps.get.bind fun session holds => ?_
  dsimp only
  have changed := growing.calibrate session.model
    (session.model.calibration.set values session.memory.nextRevision).1
    ((growing.parts session).mp holds).1
  refine (growing.keeps_setModel changed).bind fun _ _ => ?_
  refine growing.keeps_ofExcept.bind fun _ _ => ?_
  refine .modify fun later kept => ?_
  obtain ⟨model, memory, active⟩ := (growing.parts later).mp kept
  exact (growing.parts _).mpr ⟨model, growing.revise _ _ memory, active⟩

theorem keeps_addParameter (added : Parameter) (value : Datum α) :
    Keeps invariant (addParameter added value) fun _ => True := by
  refine growing.keeps_theModel.bind fun model holds => ?_
  refine growing.keeps_ofExcept.bind fun symbols declared => ?_
  have changed := growing.declare model symbols model.steadyState holds fun distinct =>
    SymbolTable.isDistinct_addParameter distinct declared
  exact (growing.keeps_setModel changed).bind fun _ _ => growing.keeps_assign _

theorem keeps_setParameters (values : List (String × Datum α)) :
    Keeps invariant (setParameters values) fun _ => True := by
  refine growing.keeps_ofExcept.bind fun _ _ => ?_
  refine growing.keeps_theModel.bind fun model _ => ?_
  exact (keeps_checkDeclared _ _ _).bind fun _ _ => growing.keeps_assign values

end Values

section Equations

theorem keeps_append (name : String) (expression : Expression α) (linear : Bool)
    (source : String) : Keeps invariant (append name expression linear source) fun _ => True := by
  refine growing.keeps_theModel.bind fun model holds => ?_
  refine (growing.keeps_act (growing.compile model holds name _)).bind fun found made => ?_
  obtain ⟨evaluator, registry⟩ := found
  refine (growing.keeps_restructure ?_).bind fun _ _ => .pure trivial
  refine growing.restate _ _ made.2 fun equation member => ?_
  rcases List.mem_append.mp member with old | new
  · exact growing.states model holds equation old
  · obtain rfl := List.mem_singleton.mp new
    exact growing.isNew _ rfl made.1

theorem keeps_appendToHorizon (name : String) (expression : Expression α) (linear : Bool)
    (source : String) :
    Keeps invariant (appendToHorizon name expression linear source) fun _ => True := by
  refine (growing.keeps_append name expression linear source).bind fun equation _ => ?_
  refine growing.keeps_theModel.bind fun model holds => ?_
  refine (growing.keeps_setModel (growing.extend _ _ holds)).bind fun _ _ => ?_
  exact (growing.keeps_act ((growing.calm model holds).record _)).bind fun _ _ => .pure trivial

theorem keeps_addEquation (text name : String) (linear : Bool) :
    Keeps invariant (addEquation (α := α) text name linear) fun _ => True := by
  refine growing.keeps_theModel.bind fun model _ => ?_
  refine (keeps_checkNewEquation _ _).bind fun _ _ => ?_
  exact growing.keeps_ofExcept.bind fun expression _ => growing.keeps_appendToHorizon _ _ _ _

theorem keeps_addExpression (expression : Expression α) (name : String) (linear : Bool) :
    Keeps invariant (addExpression expression name linear) fun _ => True := by
  refine growing.keeps_theModel.bind fun model _ => ?_
  refine (keeps_checkNewEquation _ _).bind fun _ _ => ?_
  exact growing.keeps_ofExcept.bind fun _ _ => growing.keeps_appendToHorizon _ _ _ _

theorem keeps_recompileEquation {equation : Equation α} (here : stated equation) :
    Keeps invariant (recompileEquation equation) stated := by
  refine growing.keeps_theModel.bind fun model holds => ?_
  refine (growing.keeps_act (growing.compile model holds _ _)).bind fun found made => ?_
  obtain ⟨evaluator, registry⟩ := found
  exact (growing.keeps_setModel made.2).bind fun _ _ => .pure (growing.renew _ _ here made.1)

theorem keeps_recompile : Keeps invariant (recompile (α := α)) fun _ => True := by
  refine growing.keeps_theModel.bind fun model holds => ?_
  refine (growing.keeps_setModel (growing.clear model holds)).bind fun _ _ => ?_
  have again : Keeps invariant (model.equations.mapM recompileEquation)
      fun equations => List.Forall₂ (fun _ equation => stated equation) model.equations equations :=
    .mapM fun equation member =>
      growing.keeps_recompileEquation (growing.states model holds equation member)
  refine again.bind fun equations each => ?_
  refine growing.keeps_theModel.bind fun later holdsLater => ?_
  have changed := growing.restate later equations holdsLater fun equation member => by
    obtain ⟨_, _, here⟩ := exists_of_mem_right each member
    exact here
  refine (growing.keeps_setModel changed).bind fun _ _ => ?_
  exact growing.keeps_act ((growing.calm later holdsLater).record _)

theorem keeps_update [Numeral α] (settings overrides : Settings α) :
    Keeps invariant (update settings overrides) fun _ => True := by
  refine growing.keeps_theModel.bind fun model holds => ?_
  refine growing.keeps_ofExcept.bind fun _ _ => ?_
  refine growing.keeps_ofExcept.bind fun options _ => ?_
  refine (growing.keeps_setModel (growing.choose model options holds)).bind fun _ _ => ?_
  refine .optional growing.keeps_recompile ?_
  exact growing.keeps_theModel.bind fun _ holdsLater => growing.keeps_restructure holdsLater

end Equations

end IsGrowing

end Session

end Intertemporal
