import Intertemporal.Proofs.Model.Following
import Intertemporal.Proofs.Model.Interference

/-!
# Benches that resemble each other

Requests that are made of two benches that resemble each other leave them so. While evaluators may
be bound early on the second side, the values of parameters may only change together with their
revision; then nothing is bound early any more, and any request may succeed or fail. Evaluations of
what both benches hold return the same, or fail alike.

An evaluator that is called by itself computes with the values that it has taken last, so what it
returns is compared only if these are the present ones.
-/

namespace Intertemporal

variable {α : Type} [Scalar α]

open Session

/-- Forms that are the same up to numbers, whose evaluators are known. -/
structure Comparison.Keeps (comparison : Comparison α) (held heldRight : List (ModelForm α)) :
    Prop where
  held_eq : heldRight = held.map (.renumber comparison.move)
  known : ∀ form ∈ held, form.IsKnown comparison.known

/-- Benches whose sessions and forms are the same up to numbers, where values may be bound early. -/
structure Bench.Resembles (comparison : Comparison α) (early : Prop) (left right : Bench α) :
    Prop where
  session : left.session.Resembles comparison early left.session.model.calibration [] right.session
  held : comparison.Keeps left.held right.held

namespace Request

section Kinds

omit [Scalar α]

/-- Whether a request gives parameters values. -/
def assigns : Request α → Bool
  | .addParameter .. | .setParameters .. => true
  | _ => false

/-- Whether a request calls the evaluator of an equation by itself. -/
def isDirect : Request α → Bool
  | .equationResidual .. | .equationGradient .. => true
  | _ => false

end Kinds

variable {comparison : Comparison α} {early : Prop} {calibration : Calibration α}
  {held heldRight : List (ModelForm α)}

theorem follows_without {β : Type} {action actionRight : SessionAction α β}
    {alike : β → β → Prop}
    (follows : Matches (Session.Resembles comparison early calibration []) action actionRight
      alike) :
    Matches (Session.Resembles comparison early calibration [])
      (do let _ ← action; pure [] : SessionAction α (List (ModelForm α)))
      (do let _ ← actionRight; pure []) comparison.Keeps :=
  follows.bind fun _ _ _ => .pure ⟨rfl, fun _ member => absurd member List.not_mem_nil⟩

theorem follows_holding {action actionRight : SessionAction α (ModelForm α)}
    (follows : Matches (Session.Resembles comparison early calibration []) action actionRight
      fun form other => other = form.renumber comparison.move ∧ form.IsKnown comparison.known) :
    Matches (Session.Resembles comparison early calibration []) (do return [← action])
      (do return [← actionRight]) comparison.Keeps := by
  apply follows.bind
  rintro form _ ⟨rfl, here⟩
  exact .pure ⟨rfl, List.forall_mem_singleton.mpr here⟩

variable (keeps : comparison.Keeps held heldRight)

include keeps

theorem follows_chosen (place : Option Nat) :
    Matches (Session.Resembles comparison early calibration []) (chosen held place)
      (chosen heldRight place) fun form other =>
        other = form.renumber comparison.move ∧ form.IsKnown comparison.known := by
  rcases keeps with ⟨rfl, known⟩
  have moved : (place.bind fun place => (held.map (ModelForm.renumber comparison.move))[place]?) =
      (place.bind fun place => held[place]?).map (ModelForm.renumber comparison.move) := by
    cases place with
    | none => rfl
    | some place => exact List.getElem?_map
  unfold chosen
  rw [moved]
  rcases placed : place.bind fun place => held[place]? with _ | form
  · exact follows_form
  · rcases Option.bind_eq_some_iff.mp placed with ⟨position, _, atPosition⟩
    exact .pure ⟨rfl, known form (List.mem_of_getElem? atPosition)⟩

/-- Any other request does the same on both sides. -/
theorem follows_action [Numeral α] {request : Request α} (ordinary : request.assigns = false)
    (indirect : request.isDirect = false) :
    Matches (Session.Resembles comparison early calibration []) (request.action held)
      (request.action heldRight) comparison.Keeps := by
  cases request with
  | addParameter | setParameters => cases ordinary
  | equationResidual | equationGradient => cases indirect
  | addVariable added => exact follows_without (follows_addVariable added)
  | addShock added => exact follows_without (follows_addShock added)
  | setSteadyState name level slope =>
      exact follows_without (follows_setSteadyState name level slope)
  | addEquation text name linear => exact follows_without (follows_addEquation text name linear)
  | addExpression expression name linear =>
      exact follows_without (follows_addExpression expression name linear)
  | update settings overrides => exact follows_without (follows_update settings overrides)
  | refresh => exact follows_without follows_refresh
  | install variant => exact follows_without (follows_install variant)
  | hold => exact follows_holding follows_form
  | build variant => exact follows_holding (follows_build variant)
  | copy place =>
      apply (follows_chosen keeps place).bind
      rintro form _ ⟨rfl, here⟩
      exact follows_holding (follows_act (ModelForm.follows_copy here))
  | residuals place point =>
      apply (follows_chosen keeps place).bind
      rintro form _ ⟨rfl, here⟩
      exact follows_without (follows_residuals here point)
  | residualsInto place point buffer =>
      apply (follows_chosen keeps place).bind
      rintro form _ ⟨rfl, here⟩
      exact follows_without (follows_residualsInto here point buffer)
  | residualsAndJacobian place point =>
      apply (follows_chosen keeps place).bind
      rintro form _ ⟨rfl, here⟩
      exact follows_without (follows_residualsAndJacobian here point)
  | residualsAlong name trajectory dates =>
      exact follows_without (follows_residualsAlong name trajectory dates)

end Request

omit [Scalar α] in
theorem Session.checkDeclared_cases (isDeclared : String → Bool) (place : String)
    (names : List String) :
    (checkDeclared isDeclared place names : SessionAction α Unit) = pure () ∨
      ∃ reason, (checkDeclared isDeclared place names : SessionAction α Unit) = throw reason := by
  unfold checkDeclared
  split
  · exact .inr ⟨_, rfl⟩
  · exact .inl rfl

namespace Session.Resembles

variable {comparison : Comparison α} {early : Prop} {calibration : Calibration α}
  {left right : Session α}

/-- Sessions resemble each other after a request, and values may still be bound early if they were
before and the revision is the same. -/
def Remains (comparison : Comparison α) (early : Prop) (calibration : Calibration α)
    (left right : Session α) : Prop :=
  left.Resembles comparison (early ∧ left.model.calibration.revision = calibration.revision)
    left.model.calibration [] right

/-- If values may be bound early, the calibration has changed with its revision or not at all. -/
def IsSettled (early : Prop) (calibration : Calibration α) (session : Session α) : Prop :=
  early → session.model.calibration.revision ≠ calibration.revision ∨
    session.model.calibration = calibration

theorem remains (resembles : left.Resembles comparison early calibration [] right) :
    Remains comparison early calibration left right := by
  rcases resembles.calibration_eq with rfl
  exact { resembles with memory := resembles.memory.mono fun holds => ⟨holds, rfl⟩ }

theorem restate (resembles : left.Resembles comparison early calibration [] right)
    {model : Model α} (same : model.calibration = calibration)
    (known : model.IsKnown comparison.known) :
    { left with model }.Resembles comparison early calibration []
      { right with model := model.renumber comparison.move } :=
  { resembles with model_eq := rfl, calibration_eq := same, model := known }

/-- New values are the same on both sides. -/
theorem assign (resembles : left.Resembles comparison early calibration [] right)
    (values : List (String × Datum α))
    (settled : IsSettled early calibration (outcome (assign values) left).2) :
    Remains comparison early calibration (outcome (Session.assign values) left).2
      (outcome (Session.assign values) right).2 := by
  have model_eq := resembles.model_eq
  have sameValues : right.model.calibration.values = left.model.calibration.values := by
    rw [model_eq]
    rfl
  have known : ∀ calibration : Calibration α,
      { left.model with calibration }.IsKnown comparison.known :=
    fun _ => ⟨resembles.model.equations, resembles.model.entries⟩
  rcases Calibration.store_cases left.model.calibration.values values with ⟨stored, whole⟩ |
    ⟨_, _, _, _, stored, cause, _, _, _, broken⟩
  · have wholeRight : Calibration.store right.model.calibration.values values = (stored, .ok ()) :=
      sameValues ▸ whole
    rw [outcome_assign_of_stored whole, outcome_assign_of_stored wholeRight]
    refine { resembles with
      model_eq := ?_, calibration_eq := rfl, model := known _
      memory := resembles.memory.recalibrate rfl }
    rw [model_eq, resembles.memory.nextRevision_eq]
    rfl
  · have brokenRight :
        Calibration.store right.model.calibration.values values = (stored, .error cause) :=
      sameValues ▸ broken
    rw [outcome_assign_of_broken broken] at settled ⊢
    rw [outcome_assign_of_broken brokenRight]
    rcases resembles.calibration_eq with rfl
    by_cases holds : early
    · -- the revision stays, so no value has changed either
      have kept : ({ left.model.calibration with values := stored } : Calibration α) =
          left.model.calibration := (settled holds).resolve_left fun changed => changed rfl
      have unchangedLeft : left.withValues stored = left := by
        rw [withValues, kept]
      have unchangedRight : right.withValues stored = right := by
        have keptRight : ({ right.model.calibration with values := stored } : Calibration α) =
            right.model.calibration := by
          rw [model_eq]
          exact kept
        rw [withValues, keptRight]
      rw [unchangedLeft, unchangedRight]
      exact resembles.remains
    · refine { resembles with
        model_eq := ?_, calibration_eq := rfl, model := known _
        memory := resembles.memory.revalue holds rfl }
      rw [withValues, model_eq]
      rfl

theorem addParameter (resembles : left.Resembles comparison early calibration [] right)
    (added : Parameter) (value : Datum α)
    (settled : IsSettled early calibration (outcome (addParameter added value) left).2) :
    Remains comparison early calibration (outcome (Session.addParameter added value) left).2
      (outcome (Session.addParameter added value) right).2 := by
  have symbols : right.model.symbols = left.model.symbols := by
    rw [resembles.model_eq]
    rfl
  simp only [Session.addParameter, outcome_bind, outcome_theModel, outcome_ofExcept, symbols]
    at settled ⊢
  rcases found : left.model.symbols.addParameter added with reason | extended
  · exact resembles.remains
  · rw [found] at settled
    have declared : { left with model := { left.model with symbols := extended } }.Resembles
        comparison early calibration []
        { right with model := { right.model with symbols := extended } } := by
      rw [resembles.model_eq]
      exact resembles.restate resembles.calibration_eq
        ⟨resembles.model.equations, resembles.model.entries⟩
    exact declared.assign _ settled

theorem setParameters (resembles : left.Resembles comparison early calibration [] right)
    (values : List (String × Datum α))
    (settled : IsSettled early calibration (outcome (setParameters values) left).2) :
    Remains comparison early calibration (outcome (Session.setParameters values) left).2
      (outcome (Session.setParameters values) right).2 := by
  have symbols : right.model.symbols = left.model.symbols := by
    rw [resembles.model_eq]
    rfl
  simp only [Session.setParameters, outcome_bind, outcome_theModel, outcome_ofExcept] at settled ⊢
  rcases named : (Error.checkNames values : Except (Error α) Unit) with reason | _
  · exact resembles.remains
  · rw [named] at settled
    dsimp only [Except.mapError] at settled ⊢
    rw [symbols]
    rcases checkDeclared_cases (α := α) left.model.symbols.isParameter "parameter assignment"
      (values.map (·.1)) with checked | ⟨reason, checked⟩
    · rw [checked] at settled ⊢
      exact resembles.assign values settled
    · rw [checked]
      exact resembles.remains

end Session.Resembles

namespace Request

variable [Numeral α] {request : Request α}

/-- A call of an evaluator changes nothing but the memory. -/
theorem perform_of_call {β : Type} {bench : Bench α} {name : String}
    {call : Evaluator α → Action α β}
    (same : request.action bench.held = do
      let equation ← ofExcept (fun reason => reason) ((← theModel).equation name)
      let _ ← act (call equation.evaluator)
      pure []) :
    request.perform bench =
      match bench.session.model.equation name with
      | .error _ => bench
      | .ok equation =>
        bench.withMemory (outcome (call equation.evaluator) bench.session.memory).2 := by
  rw [perform, same]
  simp only [outcome_bind, outcome_theModel, Session.outcome_ofExcept]
  rcases bench.session.model.equation name with reason | equation
  · rfl
  · simp only [Except.mapError, outcome_act]
    rcases (outcome (call equation.evaluator) bench.session.memory).1 with _ | _
    · rfl
    · simp [Bench.withMemory]

end Request

omit [Scalar α] in
theorem Comparison.Keeps.append {comparison : Comparison α} {held heldRight kept others :
    List (ModelForm α)} (keeps : comparison.Keeps held heldRight)
    (more : comparison.Keeps kept others) :
    comparison.Keeps (held ++ kept) (heldRight ++ others) where
  held_eq := by rw [keeps.held_eq, more.held_eq, List.map_append]
  known := List.forall_mem_append.mpr ⟨keeps.known, more.known⟩

namespace Bench

variable [Numeral α] {comparison : Comparison α} {early : Prop} {left right : Bench α}
  {request : Request α}

/-- The calibration of the model of a bench. -/
def calibration (bench : Bench α) : Calibration α := bench.session.model.calibration

theorem Resembles.perform_assigning (resembles : left.Resembles comparison early right)
    (assigns : request.assigns)
    (settled : Session.Resembles.IsSettled early left.calibration (request.perform left).session) :
    (request.perform left).Resembles comparison
      (early ∧ (request.perform left).calibration.revision = left.calibration.revision)
      (request.perform right) := by
  cases request with
  | addParameter added value =>
      rw [Request.perform_without rfl] at settled ⊢
      rw [Request.perform_without rfl]
      exact ⟨resembles.session.addParameter added value settled, resembles.held⟩
  | setParameters values =>
      rw [Request.perform_without rfl] at settled ⊢
      rw [Request.perform_without rfl]
      exact ⟨resembles.session.setParameters values settled, resembles.held⟩
  | _ => cases assigns

theorem Resembles.perform_calling (resembles : left.Resembles comparison early right) {β : Type}
    (name : String) (call : Evaluator α → Action α β)
    (same : ∀ held, request.action held = do
      let equation ← ofExcept (fun reason => reason) ((← theModel).equation name)
      let _ ← act (call equation.evaluator)
      pure [])
    (called : ∀ evaluator, comparison.known evaluator →
      (outcome (call evaluator) left.session.memory).2.Resembles comparison early left.calibration
        [] (outcome (call (evaluator.renumber comparison.move)) right.session.memory).2) :
    (request.perform left).Resembles comparison
      (early ∧ (request.perform left).calibration.revision = left.calibration.revision)
      (request.perform right) := by
  rw [Request.perform_of_call (same _), Request.perform_of_call (same _),
    resembles.session.model_eq, Model.equation_renumber]
  rcases found : left.session.model.equation name with reason | equation
  · exact ⟨resembles.session.remains, resembles.held⟩
  · have here := resembles.session.model.equations equation (Model.mem_of_equation found)
    have session : (left.withMemory (outcome (call equation.evaluator)
        left.session.memory).2).session.Resembles comparison early left.calibration []
          (right.withMemory (outcome (call (equation.evaluator.renumber comparison.move))
            right.session.memory).2).session :=
      { resembles.session with memory := called equation.evaluator here }
    exact ⟨session.remains, resembles.held⟩

theorem Resembles.perform_ordinary (resembles : left.Resembles comparison early right)
    (ordinary : request.assigns = false) (indirect : request.isDirect = false) :
    (request.perform left).Resembles comparison
      (early ∧ (request.perform left).calibration.revision = left.calibration.revision)
      (request.perform right) := by
  rcases Request.follows_action resembles.held ordinary indirect left.session right.session
    resembles.session with ⟨session, results⟩
  rw [Request.perform, Request.perform]
  rcases ran : outcome (request.action left.held) left.session with ⟨result, after⟩
  rcases ranRight : outcome (request.action right.held) right.session with
    ⟨resultRight, afterRight⟩
  rw [ran, ranRight] at session results
  cases results with
  | failed reason => exact ⟨session.remains, resembles.held⟩
  | returned kept => exact ⟨session.remains, resembles.held.append kept⟩

/-- What a request does on one bench it does on the other. -/
theorem Resembles.perform (resembles : left.Resembles comparison early right)
    (request : Request α)
    (settled : Session.Resembles.IsSettled early left.calibration (request.perform left).session) :
    (request.perform left).Resembles comparison
      (early ∧ (request.perform left).calibration.revision = left.calibration.revision)
      (request.perform right) := by
  rcases assigns : request.assigns with _ | _
  · cases request with
    | equationResidual name inputs =>
        apply resembles.perform_calling name (Evaluator.residual · inputs) fun _ => rfl
        intro evaluator here
        rw [Evaluator.outcome_residual, Evaluator.outcome_residual]
        exact resembles.session.memory
    | equationGradient name inputs =>
        exact resembles.perform_calling name (Evaluator.residualAndGradient · inputs) (fun _ => rfl)
          fun evaluator here => resembles.session.memory.call here inputs
    | _ => exact resembles.perform_ordinary assigns rfl
  · exact resembles.perform_assigning assigns settled

/-- Whether parameter values change with their revision only, until they first do so. From then on
they may be assigned in any way. -/
def KeepsValues (bench : Bench α) : List (Request α) → Prop
  | [] => True
  | request :: rest =>
    (request.perform bench).calibration.revision ≠ bench.calibration.revision ∨
      (request.perform bench).calibration = bench.calibration ∧
        (request.perform bench).KeepsValues rest

theorem Resembles.run (resembles : left.Resembles comparison early right)
    {requests : List (Request α)} (keeps : early → left.KeepsValues requests) :
    ∃ later, (left.run requests).Resembles comparison later (right.run requests) := by
  -- values that are bound early stop being so with the first new revision
  induction requests generalizing early left right with
  | nil => exact ⟨early, resembles⟩
  | cons request rest ih =>
      have settled : Session.Resembles.IsSettled early left.calibration
          (request.perform left).session :=
        fun holds => (keeps holds).imp id And.left
      apply ih (resembles.perform request settled)
      rintro ⟨holds, same⟩
      rcases keeps holds with changed | ⟨_, others⟩
      · exact absurd same changed
      · exact others

omit [Numeral α] in
/-- The Jacobians that the active form and the held ones show. -/
def jacobians (bench : Bench α) : List (SparseMatrix α) :=
  (bench.session.active.toList ++ bench.held).map (·.system.jacobian bench.session.memory)

omit [Numeral α] in
/-- Call the evaluator of an equation by itself. -/
def calling {β : Type} (call : Evaluator α → Action α β) (name : String) : SessionAction α β := do
  let equation ← ofExcept (fun reason => reason) ((← theModel).equation name)
  act (call equation.evaluator)

omit [Numeral α] in
/-- Whether the evaluator of an equation has taken the present values of its parameters last. -/
def HasTaken (bench : Bench α) (name : String) : Prop :=
  ∀ equation, bench.session.model.equation name = .ok equation →
    equation.evaluator.IsCurrent bench.calibration bench.session.memory

omit [Numeral α] in
/-- Benches on which the forms in use show the same Jacobians, and all evaluations return the same
or fail alike. Equations that are called by themselves do so if they have taken present values. -/
structure EvaluatesAlike (left right : Bench α) : Prop where
  jacobians : right.jacobians = left.jacobians
  residuals : ∀ place point,
    (outcome (do Session.residuals (← Request.chosen right.held place) point) right.session).1 =
      (outcome (do Session.residuals (← Request.chosen left.held place) point) left.session).1
  residualsInto : ∀ place point buffer,
    (outcome (do Session.residualsInto (← Request.chosen right.held place) point buffer)
      right.session).1 =
      (outcome (do Session.residualsInto (← Request.chosen left.held place) point buffer)
        left.session).1
  residualsAndJacobian : ∀ place point,
    (outcome (do Session.residualsAndJacobian (← Request.chosen right.held place) point)
      right.session).1 =
      (outcome (do Session.residualsAndJacobian (← Request.chosen left.held place) point)
        left.session).1
  residualsAlong : ∀ name trajectory dates,
    (outcome (Session.residualsAlong name trajectory dates) right.session).1 =
      (outcome (Session.residualsAlong name trajectory dates) left.session).1
  equationResidual : ∀ name inputs, left.HasTaken name →
    (outcome (calling (Evaluator.residual · inputs) name) right.session).1 =
      (outcome (calling (Evaluator.residual · inputs) name) left.session).1
  equationGradient : ∀ name inputs, left.HasTaken name →
    (outcome (calling (Evaluator.residualAndGradient · inputs) name) right.session).1 =
      (outcome (calling (Evaluator.residualAndGradient · inputs) name) left.session).1

omit [Numeral α] in
theorem Resembles.calling_eq (resembles : left.Resembles comparison early right) {β : Type}
    {call : Evaluator α → Action α β} {name : String} (taken : left.HasTaken name)
    (same : ∀ evaluator, comparison.known evaluator →
      evaluator.IsCurrent left.calibration left.session.memory →
        (outcome (call (evaluator.renumber comparison.move)) right.session.memory).1 =
          (outcome (call evaluator) left.session.memory).1) :
    (outcome (calling call name) right.session).1 =
      (outcome (calling call name) left.session).1 := by
  simp only [calling, outcome_bind, outcome_theModel, Session.outcome_ofExcept,
    resembles.session.model_eq, Model.equation_renumber]
  rcases found : left.session.model.equation name with reason | equation
  · rfl
  · have here := resembles.session.model.equations equation (Model.mem_of_equation found)
    simp only [Except.map, Except.mapError, outcome_act]
    exact same equation.evaluator here (taken equation found)

omit [Numeral α] in
theorem Resembles.evaluatesAlike (resembles : left.Resembles comparison early right) :
    left.EvaluatesAlike right := by
  have alike : ∀ {β : Type} {evaluate evaluateRight : ModelForm α → SessionAction α β},
      (∀ form : ModelForm α, form.IsKnown comparison.known →
        Matches (Session.Resembles comparison early left.session.model.calibration [])
          (evaluate form) (evaluateRight (form.renumber comparison.move)) Eq) → ∀ place,
      (outcome (do evaluateRight (← Request.chosen right.held place)) right.session).1 =
        (outcome (do evaluate (← Request.chosen left.held place)) left.session).1 := by
    intro β evaluate evaluateRight follows place
    have matched : Matches (Session.Resembles comparison early left.session.model.calibration [])
        (do evaluate (← Request.chosen left.held place))
        (do evaluateRight (← Request.chosen right.held place)) Eq := by
      apply (Request.follows_chosen resembles.held place).bind
      rintro form _ ⟨rfl, known⟩
      exact follows form known
    exact (matched left.session right.session resembles.session).2.eq.symm
  refine ⟨?_, ?_, ?_, ?_, ?_, ?_, ?_⟩
  · rw [Bench.jacobians, Bench.jacobians, resembles.session.active_eq, resembles.held.held_eq]
    have active : (left.session.active.map (ModelForm.renumber comparison.move)).toList =
        left.session.active.toList.map (.renumber comparison.move) := by
      cases left.session.active <;> rfl
    rw [active, ← List.map_append, List.map_map]
    apply List.map_congr_left
    intro form _
    have shown := resembles.session.memory.jacobians form.system
    simp only [Function.comp_apply, ModelForm.system_renumber, System.jacobian, shown]
    rfl
  · exact fun place point => alike (fun _ known => follows_residuals known point) place
  · exact fun place point buffer =>
      alike (fun _ known => follows_residualsInto known point buffer) place
  · exact fun place point => alike (fun _ known => follows_residualsAndJacobian known point) place
  · intro name trajectory dates
    have matched := follows_residualsAlong name trajectory dates left.session right.session
      resembles.session
    exact matched.2.eq.symm
  · exact fun name inputs taken => resembles.calling_eq taken fun _ here current =>
      resembles.session.memory.residual_eq here current inputs
  · exact fun name inputs taken => resembles.calling_eq taken fun _ here current =>
      resembles.session.memory.gradient_eq here current inputs

end Bench

end Intertemporal
