import Intertemporal.Proofs.Agreement
import Intertemporal.Proofs.System.Jacobian
import Intertemporal.Proofs.System.Residuals

/-!
# Equations evaluated on their own

An evaluation of a system uses evaluators that other equations and other systems use as well. What
it returns is nevertheless what its equations return one by one, each on its own: in a memory in
which nothing has happened but that its evaluator has been bound to the calibration. This holds in
every memory that serves the calibration, also if the evaluation fails.
-/

namespace Intertemporal

variable {α : Type}

/-- What a computation returns in a memory in which nothing has happened. -/
def Action.alone {β : Type} (action : Action α β) : Except (Error α) β := (outcome action {}).1

theorem outcome_discard {β : Type} (action : Action α β) (memory : Memory α) :
    outcome (discard action) memory =
      ((outcome action memory).1.map fun _ => (), (outcome action memory).2) :=
  outcome_map (fun _ => ()) action memory

variable [Scalar α]

namespace Evaluator

variable {known : Evaluator α → Prop} {calibration : Calibration α} {memory : Memory α}
  {evaluator : Evaluator α}

/-- The values of the parameters in a calibration, or the failure to find them. -/
def valuesIn (evaluator : Evaluator α) (calibration : Calibration α) :
    Except (Error α) (List (ParameterValue α)) :=
  (evaluator.parameters.mapM calibration.evaluationValue).mapError .missingValue

theorem valuesIn_of_isCurrent (serves : memory.Serves known calibration) (here : known evaluator)
    (current : evaluator.IsCurrent calibration memory) :
    evaluator.valuesIn calibration = .ok (evaluator.stateIn memory).values := by
  rw [valuesIn, serves.mapM_of_isCurrent here current]
  rfl

/-- Binding fails if and only if a value is missing, whether or not values are bound already. -/
theorem outcome_bind_fst (serves : memory.Serves known calibration) (here : known evaluator) :
    (outcome (discard (evaluator.bind calibration)) memory).1 =
      (evaluator.valuesIn calibration).map fun _ => () := by
  rw [outcome_discard, outcome_bind_eq]
  split
  · rename_i current
    rw [valuesIn_of_isCurrent serves here current]
    rfl
  · rw [valuesIn]
    cases evaluator.parameters.mapM calibration.evaluationValue <;> rfl

/-- After binding in an empty memory there is nothing but the values. -/
theorem outcome_bind_empty :
    outcome (discard (evaluator.bind calibration)) {} =
      match evaluator.valuesIn calibration with
      | .error reason => (.error reason, {})
      | .ok values => (.ok (), evaluator.storedIn
          { evaluator.initialState with
            bound := some { revision := calibration.revision, values } } {}) := by
  have unbound : ¬evaluator.IsCurrent calibration {} := by rintro ⟨⟩
  rw [outcome_discard, outcome_bind_eq, if_neg unbound, valuesIn]
  cases evaluator.parameters.mapM calibration.evaluationValue <;> rfl

omit [Scalar α] in
theorem isUnbound_of_isSome {state : EvaluatorState α} (bound : state.bound.isSome) :
    evaluator.IsUnbound state = false := by
  rw [Option.isSome_iff_exists] at bound
  rcases bound with ⟨values, held⟩
  simp [IsUnbound, held]

theorem IsCurrent.not_isUnbound (current : evaluator.IsCurrent calibration memory) :
    evaluator.IsUnbound (evaluator.stateIn memory) = false := by
  rcases Option.map_eq_some_iff.mp current with ⟨bound, held, _⟩
  exact isUnbound_of_isSome (Option.isSome_of_mem held)

/-- On its own an evaluator computes with the values of the calibration. -/
theorem alone_residual (inputs : List α) :
    Action.alone (do discard (evaluator.bind calibration); evaluator.residual inputs) =
      evaluator.valuesIn calibration >>= fun values =>
        (evaluator.program.run inputs values).mapError .computation := by
  rw [Action.alone, outcome_bind, outcome_bind_empty]
  rcases evaluator.valuesIn calibration with reason | values
  · rfl
  · dsimp only
    rw [outcome_residual, stateIn_storedIn, isUnbound_of_isSome rfl]
    rfl

theorem alone_gradient (array : NumberArray α) :
    Action.alone (do discard (evaluator.bind calibration); evaluator.residualAndGradient array) =
      evaluator.valuesIn calibration >>= fun values =>
        ((Gradient.fresh evaluator.inputs evaluator.chunk.toNat).call evaluator.program values
          array).1.mapError .gradient := by
  rw [Action.alone, outcome_bind, outcome_bind_empty]
  rcases evaluator.valuesIn calibration with reason | values
  · rfl
  · dsimp only
    rw [outcome_residualAndGradient, stateIn_storedIn, isUnbound_of_isSome rfl]
    rfl

/-- A current evaluator computes the same whatever it was used for before. -/
theorem residual_eq_alone (serves : memory.Serves known calibration) (here : known evaluator)
    (current : evaluator.IsCurrent calibration memory) (inputs : List α) :
    (outcome (evaluator.residual inputs) memory).1 =
      Action.alone (do discard (evaluator.bind calibration); evaluator.residual inputs) := by
  rw [alone_residual, valuesIn_of_isCurrent serves here current, outcome_residual,
    current.not_isUnbound]
  rfl

theorem gradient_eq_alone {references : References} (admissible : evaluator.IsSound references)
    (serves : memory.Serves known calibration) (here : known evaluator)
    (current : evaluator.IsCurrent calibration memory) (array : NumberArray α) :
    (outcome (evaluator.residualAndGradient array) memory).1 =
      Action.alone (do
        discard (evaluator.bind calibration)
        evaluator.residualAndGradient array) := by
  rw [alone_gradient, valuesIn_of_isCurrent serves here current, outcome_residualAndGradient,
    current.not_isUnbound]
  simp only [Bool.false_eq_true, if_false]
  rw [Gradient.call_fst_eq_fresh (serves.fits evaluator here) admissible.chunk_positive]
  rfl

theorem bound_of_id_eq {other : Evaluator α} (same : other.id = evaluator.id) :
    (other.stateIn memory).bound = (evaluator.stateIn memory).bound := by
  unfold stateIn Table.getD
  rw [same]
  cases memory.evaluators.get? evaluator.id <;> rfl

/-- Evaluations leave all evaluators as current as they were. -/
theorem isStable_isCurrent (evaluator : Evaluator α) (calibration : Calibration α) :
    IsStable (fun _ => True) calibration (evaluator.IsCurrent calibration) where
  record _ := .modify fun _ current => current
  freshId := fun _ current => ⟨current, fun _ _ => trivial⟩
  storeJacobian _ _ := .modify fun _ current => current
  bind other _ := by
    intro memory current
    refine ⟨?_, fun _ _ => trivial⟩
    rcases bound : outcome (other.bind calibration) memory with ⟨reason | taken, after⟩
    · rw [outcome_bind_eq] at bound
      split at bound
      · cases bound
      · split at bound
        · cases bound
          exact current
        · cases bound
    · exact current.of_bind bound
  residualAndGradient other _ array := by
    intro memory current
    refine ⟨?_, fun _ _ => trivial⟩
    rw [outcome_residualAndGradient]
    split
    · exact current
    · by_cases same : evaluator.id = other.id
      · rw [IsCurrent, bound_of_id_eq same, stateIn_storedIn, ← bound_of_id_eq same]
        exact current
      · rw [IsCurrent, stateIn_storedIn_of_ne _ _ same]
        exact current

end Evaluator

theorem Memory.Serves.isStable (known : Evaluator α → Prop) (calibration : Calibration α) :
    IsStable known calibration (Memory.Serves known calibration) where
  record _ := .modify fun _ serves => serves.of_evaluators_eq rfl (Nat.le_refl _) (Nat.le_refl _)
  freshId := fun _ serves =>
    ⟨serves.of_evaluators_eq rfl (Nat.le_succ _) (Nat.le_refl _), fun _ _ => trivial⟩
  storeJacobian _ _ := .modify fun _ serves =>
    serves.of_evaluators_eq rfl (Nat.le_refl _) (Nat.le_refl _)
  bind _ here := Memory.Serves.keeps_bind here
  residualAndGradient _ here array := Memory.Serves.keeps_residualAndGradient here array

namespace EquationForm

variable {known : Evaluator α → Prop} {calibration : Calibration α} {memory after : Memory α}
  {form : EquationForm α} {inputs : List α}

/-- Whether the values that a form needs can be bound to its evaluator. -/
def bindAlone (calibration : Calibration α) (form : EquationForm α) : Except (Error α) Unit :=
  Action.alone (form.bind calibration)

/-- The residual of an equation that is evaluated on its own. -/
def residualAlone (calibration : Calibration α) (inputs : List α) (form : EquationForm α) :
    Except (Error α) α :=
  Action.alone (do form.bind calibration; form.residual inputs)

/-- The residual and the gradient of an equation that is evaluated on its own. -/
def gradientAlone (calibration : Calibration α) (inputs : List α) (form : EquationForm α) :
    Except (Error α) (α × List α) :=
  Action.alone (do form.bind calibration; form.residualAndGradient inputs)

/-- What does not bind cannot be evaluated. -/
theorem bindAlone_of_alone {β : Type} {next : Action α β} {result : β}
    (returned : Action.alone (do form.bind calibration; next) = .ok result) :
    form.bindAlone calibration = .ok () := by
  rw [Action.alone, outcome_bind] at returned
  rw [bindAlone, Action.alone]
  rcases ran : outcome (form.bind calibration) {} with ⟨reason | _, between⟩
  · rw [ran] at returned
    cases returned
  · rfl

theorem bind_eq_alone (serves : memory.Serves known calibration)
    (here : known form.equation.evaluator) :
    (outcome (form.bind calibration) memory).1 = form.bindAlone calibration := by
  cases form with
  | dynamic equation | anchored equation levels =>
      apply (Evaluator.outcome_bind_fst serves here).trans
      simp only [bindAlone, Action.alone, bind, Evaluator.outcome_bind_empty]
      simp only [EquationForm.equation]
      cases equation.evaluator.valuesIn calibration <;> rfl
  | expanded equation residual gradient point => rfl

/-- A form whose evaluator holds the values of a calibration, if it needs them. -/
def IsBound (form : EquationForm α) (calibration : Calibration α) (memory : Memory α) : Prop :=
  form.levels?.isSome → form.equation.evaluator.IsCurrent calibration memory

/-- Forms that have been bound one after another are all bound in the end. -/
theorem isBound_of_bindAll {forms : List (EquationForm α)} {done : Unit}
    (bound : outcome (forms.forM (EquationForm.bind calibration)) memory = (.ok done, after)) :
    ∀ form ∈ forms, form.IsBound calibration after := by
  intro form member stated
  induction forms generalizing memory with
  | nil => cases member
  | cons first rest ih =>
      rw [List.forM_eq_forM, List.forM_cons] at bound
      rcases outcome_bind_eq_ok.mp bound with ⟨_, between, boundFirst, boundRest⟩
      rcases List.mem_cons.mp member with rfl | later
      · -- the evaluator of the first form stays current while the others are bound
        rcases Option.isSome_iff_exists.mp stated with ⟨levels, levelsEq⟩
        rcases exists_bind_of_levels levelsEq boundFirst with ⟨taken, binding⟩
        have kept : Keeps (form.equation.evaluator.IsCurrent calibration)
            (rest.forM (EquationForm.bind calibration)) fun _ => True :=
          (Evaluator.isStable_isCurrent _ _).keeps_bindAll fun _ _ => trivial
        have current := (kept between (Evaluator.isCurrent_of_bind binding)).1
        rwa [List.forM_eq_forM, boundRest] at current
      · exact ih boundRest later

theorem residual_eq_alone (serves : memory.Serves known calibration)
    (here : known form.equation.evaluator) (bound : form.IsBound calibration memory)
    (inputs : List α) :
    (outcome (form.residual inputs) memory).1 = form.residualAlone calibration inputs := by
  cases form with
  | dynamic equation => exact Evaluator.residual_eq_alone serves here (bound rfl) inputs
  | anchored equation levels =>
      exact Evaluator.residual_eq_alone serves here (bound rfl) (inputs ++ levels)
  | expanded equation residual gradient point => rfl

theorem gradientAlone_anchored (equation : Equation α) (levels inputs : List α) :
    (anchored equation levels).gradientAlone calibration inputs =
      (Action.alone (do
        discard (equation.evaluator.bind calibration)
        equation.evaluator.residualAndGradient (.ofList (inputs ++ levels)))).map fun found =>
          (found.1, found.2.take equation.references.series.length) := by
  simp only [gradientAlone, Action.alone, bind, outcome_bind]
  rcases outcome (discard (equation.evaluator.bind calibration)) {} with ⟨_ | _, between⟩
  · rfl
  · simp only [outcome_anchored]

theorem gradient_eq_alone (sound : form.IsSound) (serves : memory.Serves known calibration)
    (here : known form.equation.evaluator) (bound : form.IsBound calibration memory)
    (inputs : List α) :
    (outcome (form.residualAndGradient inputs) memory).1 =
      form.gradientAlone calibration inputs := by
  cases form with
  | dynamic equation =>
      exact Evaluator.gradient_eq_alone sound.equation.evaluator serves here (bound rfl) _
  | anchored equation levels =>
      have whole := Evaluator.gradient_eq_alone sound.equation.evaluator serves here (bound rfl)
        (.ofList (inputs ++ levels))
      rw [outcome_anchored, gradientAlone_anchored]
      exact congrArg (Except.map _) whole
  | expanded equation residual gradient point => rfl

theorem length_of_gradientAlone (sound : form.IsSound)
    (sized : inputs.length = form.equation.references.series.length) {residual : α}
    {gradient : List α}
    (returned : form.gradientAlone calibration inputs = .ok (residual, gradient)) :
    gradient.length = form.equation.references.series.length := by
  have kept := ((isStable_isSound calibration).keeps_bindForm sound.exists_isSound).bind
    fun _ _ => sound.keeps_residualAndGradient inputs
  exact (kept {} Memory.isSound_empty).2 _ returned sized

end EquationForm

/-- A memory that serves a calibration, where all evaluators that forms need hold its values. -/
def Memory.Carries (known : Evaluator α → Prop) (calibration : Calibration α)
    (forms : List (EquationForm α)) (memory : Memory α) : Prop :=
  memory.Serves known calibration ∧
    ∀ stated : { form // form ∈ forms ∧ form.levels?.isSome },
      stated.val.equation.evaluator.IsCurrent calibration memory

namespace Memory.Carries

variable {known : Evaluator α → Prop} {calibration : Calibration α} {memory after : Memory α}
  {forms : List (EquationForm α)}

theorem isStable (known : Evaluator α → Prop) (calibration : Calibration α)
    (forms : List (EquationForm α)) :
    IsStable known calibration (Memory.Carries known calibration forms) :=
  (Memory.Serves.isStable known calibration).alongside fun stated =>
    stated.val.equation.evaluator.isStable_isCurrent calibration

theorem isBound (carries : memory.Carries known calibration forms) {form : EquationForm α}
    (member : form ∈ forms) : form.IsBound calibration memory :=
  fun stated => carries.2 ⟨form, member, stated⟩

/-- Binding all forms makes a memory that serves a calibration carry them. -/
theorem of_bindAll (serves : memory.Serves known calibration)
    (here : ∀ form ∈ forms, known form.equation.evaluator) {done : Unit}
    (bound : outcome (forms.forM (EquationForm.bind calibration)) memory = (.ok done, after)) :
    after.Carries known calibration forms := by
  constructor
  · have kept := (Memory.Serves.isStable known calibration).keeps_bindAll here memory serves
    rw [bound] at kept
    exact kept.1
  · rintro ⟨form, member, stated⟩
    exact EquationForm.isBound_of_bindAll bound form member stated

end Memory.Carries

namespace System

variable {known : Evaluator α → Prop} {calibration : Calibration α}
  {forms : List (EquationForm α)}

/-- Results written over the beginning of a buffer. The first that is missing, or does not fit,
makes the whole fail. -/
def filled : List (Except (Error α) α) → List α → Except (Error α) (List α)
  | [], buffer => .ok buffer
  | found :: rest, buffer => do
    let residual ← found
    match buffer with
    | [] => throw .shortBuffer
    | _ :: tail => do
      let others ← filled rest tail
      pure (residual :: others)

/-- The residuals at a point, if every equation is evaluated on its own. -/
def residualsAlone (system : System α) (calibration : Calibration α)
    (forms : List (EquationForm α)) (point : NumberArray α) (buffer : List α) :
    Except (Error α) (List α) := do
  Action.alone (system.checkPoint point)
  forms.forM (EquationForm.bindAlone calibration)
  filled ((forms.zip system.places).map fun item =>
    item.1.residualAlone calibration (inputs point item.2)) buffer

/-- The residuals and the Jacobian at a point, if every equation is evaluated on its own. -/
def jacobianAlone (system : System α) (calibration : Calibration α) (forms : List (EquationForm α))
    (point : NumberArray α) : Except (Error α) (List α × SparseMatrix α) := do
  Action.alone (system.checkPoint point)
  forms.forM (EquationForm.bindAlone calibration)
  let found ← (forms.zip system.places).mapM fun item =>
    item.1.gradientAlone calibration (inputs point item.2)
  pure (found.map (·.1), ⟨system.pattern, system.width, system.pattern.arrange (found.map (·.2))⟩)

omit [Scalar α] in
theorem alone_checkPoint_eq_ok {system : System α} {point : NumberArray α} {done : Unit} :
    Action.alone (system.checkPoint point) = .ok done ↔ point.sizes = system.shape := by
  unfold Action.alone checkPoint
  split
  · rename_i shaped
    simp [shaped]
  · rename_i shaped
    simp [shaped]

omit [Scalar α] in
/-- A buffer that is long enough holds the results if none is missing. -/
theorem filled_eq_ok {results : List (Except (Error α) α)} {buffer residuals : List α}
    (enough : buffer.length = results.length) :
    filled results buffer = .ok residuals ↔
      List.Forall₂ (fun result residual => result = .ok residual) results residuals := by
  induction results generalizing buffer residuals with
  | nil =>
      rw [List.length_eq_zero_iff.mp enough, List.forall₂_nil_left_iff, filled]
      exact ⟨fun same => (Except.ok.inj same).symm, fun same => congrArg _ same.symm⟩
  | cons result rest ih =>
      rcases buffer with _ | ⟨_, tail⟩
      · cases enough
      · simp only [filled, bind_eq_ok, List.forall₂_cons_left_iff]
        constructor
        · rintro ⟨first, found, others, remaining, collected⟩
          exact ⟨first, others, found, (ih (Nat.succ.inj enough)).mp remaining,
            (Except.ok.inj collected).symm⟩
        · rintro ⟨first, others, found, remaining, rfl⟩
          exact ⟨first, found, others, (ih (Nat.succ.inj enough)).mpr remaining, rfl⟩

variable {system : System α} {point : NumberArray α} {residuals : List α}

/-- Residuals are returned if the point has the right shape and every equation returns one, where
what can be evaluated can also be bound. -/
theorem evaluated_eq_ok (sized : forms.length = system.places.length)
    (bound : EquationForm α → Except (Error α) Unit)
    (goal : List α → EquationForm α → Except (Error α) α)
    (binds : ∀ inputs form residual, goal inputs form = .ok residual → bound form = .ok ()) :
    (do Action.alone (system.checkPoint point)
        forms.forM bound
        filled ((forms.zip system.places).map fun (item : EquationForm α × List Place) =>
          goal (inputs point item.2) item.1) (List.replicate forms.length Scalar.zero)) =
            .ok residuals ↔
      point.sizes = system.shape ∧ List.Forall₂ (fun item residual =>
        goal (inputs point item.2) item.1 = .ok residual) (forms.zip system.places) residuals := by
  have enough : (List.replicate forms.length (Scalar.zero : α)).length =
      ((forms.zip system.places).map fun item =>
        goal (inputs point item.2) item.1).length := by
    simp [← sized]
  simp only [bind_eq_ok, alone_checkPoint_eq_ok, filled_eq_ok enough, List.forall₂_map_left_iff]
  constructor
  · rintro ⟨_, shaped, _, _, each⟩
    exact ⟨shaped, each⟩
  · rintro ⟨shaped, each⟩
    refine ⟨(), shaped, (), forM_eq_ok ?_, each⟩
    intro form member
    rcases exists_of_mem_zip sized member with ⟨places, among⟩
    rcases exists_of_mem_left each among with ⟨residual, _, returned⟩
    exact binds _ form residual returned

theorem residualsAlone_eq_ok (sized : forms.length = system.places.length) :
    system.residualsAlone calibration forms point (List.replicate forms.length Scalar.zero) =
        .ok residuals ↔
      point.sizes = system.shape ∧ List.Forall₂ (fun item residual =>
        item.1.residualAlone calibration (inputs point item.2) = .ok residual)
        (forms.zip system.places) residuals :=
  evaluated_eq_ok sized _ (fun inputs form => form.residualAlone calibration inputs)
    fun _ _ _ => EquationForm.bindAlone_of_alone

theorem jacobianAlone_eq_ok {matrix : SparseMatrix α}
    (sized : forms.length = system.places.length) :
    system.jacobianAlone calibration forms point = .ok (residuals, matrix) ↔
      point.sizes = system.shape ∧ ∃ found, List.Forall₂ (fun item result =>
        item.1.gradientAlone calibration (inputs point item.2) = .ok result)
        (forms.zip system.places) found ∧ residuals = found.map (·.1) ∧
        matrix = ⟨system.pattern, system.width, system.pattern.arrange (found.map (·.2))⟩ := by
  simp only [jacobianAlone, bind_eq_ok, alone_checkPoint_eq_ok, mapM_eq_ok]
  constructor
  · rintro ⟨_, shaped, _, _, found, each, collected⟩
    cases collected
    exact ⟨shaped, found, each, rfl, rfl⟩
  · rintro ⟨shaped, found, each, rfl, rfl⟩
    refine ⟨(), shaped, (), forM_eq_ok ?_, found, each, rfl⟩
    intro form member
    rcases exists_of_mem_zip sized member with ⟨places, among⟩
    rcases exists_of_mem_left each among with ⟨result, _, returned⟩
    exact EquationForm.bindAlone_of_alone returned

/-- The rows of a Jacobian are the gradients that the equations return on their own. -/
theorem IsSound.of_jacobianAlone (sound : system.IsSound)
    (formed : List.Forall₂ (fun equation form => form.equation = equation ∧ form.IsSound)
      system.equations forms) (full : point.IsFull) {matrix : SparseMatrix α}
    (returned : system.jacobianAlone calibration forms point = .ok (residuals, matrix)) {row : Nat}
    {equation : Equation α} (stated : system.equations[row]? = some equation)
    {form : EquationForm α} (formAt : forms[row]? = some form) {places : List Place}
    (placesAt : system.places[row]? = some places) :
    ∃ residual gradient, form.gradientAlone calibration (inputs point places) =
        .ok (residual, gradient) ∧ residuals[row]? = some residual ∧
      system.IsJacobianRow equation gradient matrix row := by
  have sized : forms.length = system.places.length := by
    rw [← formed.length_eq, sound.places.length_eq]
  rcases (jacobianAlone_eq_ok sized).mp returned with ⟨shaped, found, each, rfl, rfl⟩
  have lengths : List.Forall₂ (fun equation gradient =>
      gradient.length = equation.references.series.length) system.equations
      (found.map (·.2)) := by
    rw [sound.equations_eq formed, List.forall₂_map_left_iff, List.forall₂_map_right_iff]
    apply ((List.forall₂_and_left _ _).mpr ⟨sound.located formed, each⟩).imp
    rintro item ⟨residual, gradient⟩ ⟨⟨formSound, located⟩, computed⟩
    have reads := reads_inputs full (shape_of_sizes shaped) located
    exact EquationForm.length_of_gradientAlone formSound reads.length_eq.symm computed
  have atRow : (forms.zip system.places)[row]? = some (form, places) :=
    List.getElem?_zip_eq_some.mpr ⟨formAt, placesAt⟩
  rcases exists_getElem?_of_forall₂ each atRow with ⟨⟨residual, gradient⟩, ofRow, computed⟩
  refine ⟨residual, gradient, computed, ?_, ?_⟩
  · rw [List.getElem?_map, ofRow]
    rfl
  · apply sound.isJacobianRow sound.equations lengths stated
    rw [List.getElem?_map, ofRow]
    rfl

omit [Scalar α] in
theorem returns_checkPoint {invariant : Memory α → Prop} (system : System α)
    (point : NumberArray α) :
    Returns invariant (system.checkPoint point) (Action.alone (system.checkPoint point)) := by
  intro memory holds
  unfold Action.alone checkPoint
  split <;> exact ⟨holds, rfl⟩

theorem returns_bindAll (here : ∀ form ∈ forms, known form.equation.evaluator) :
    Returns (Memory.Serves known calibration) (forms.forM (EquationForm.bind calibration))
      (forms.forM (EquationForm.bindAlone calibration)) := by
  apply Returns.forM
  intro form member memory serves
  have kept := (Memory.Serves.isStable known calibration).keeps_bindForm (here form member)
  exact ⟨(kept memory serves).1, EquationForm.bind_eq_alone serves (here form member)⟩

/-- What is done after all forms have been bound may rely on it. -/
theorem returns_bound {β : Type} (here : ∀ form ∈ forms, known form.equation.evaluator)
    {next : Action α β} {goal : Except (Error α) β}
    (rest : Returns (Memory.Carries known calibration forms) next goal) :
    Returns (Memory.Serves known calibration)
      (do forms.forM (EquationForm.bind calibration); next)
      (do forms.forM (EquationForm.bindAlone calibration); goal) := by
  apply (returns_bindAll here).enter _ (fun _ carries => carries.1) fun _ => rest
  intro memory done after serves bound
  exact .of_bindAll serves here bound

theorem returns_filled {invariant : Memory α → Prop} {point : NumberArray α}
    (goal : List α → EquationForm α → Except (Error α) α)
    {items : List (EquationForm α × List Place)}
    (each : ∀ item ∈ items, Returns invariant (item.1.residual (inputs point item.2))
      (goal (inputs point item.2) item.1)) (buffer : List α) :
    Returns invariant (fill point items buffer)
      (filled (items.map fun item => goal (inputs point item.2) item.1) buffer) := by
  induction items generalizing buffer with
  | nil => exact fun memory holds => ⟨holds, rfl⟩
  | cons item rest ih =>
      rcases List.forall_mem_cons.mp each with ⟨first, others⟩
      apply first.bind
      intro residual
      cases buffer with
      | nil => exact fun memory holds => ⟨holds, rfl⟩
      | cons head tail =>
          apply (ih others tail).bind
          exact fun found memory holds => ⟨holds, rfl⟩

/-- In every memory that serves the calibration, residuals are those of the equations on their
own. -/
theorem returns_residualsInto (system : System α)
    (here : ∀ form ∈ forms, known form.equation.evaluator) (point : NumberArray α)
    (buffer : List α) :
    Returns (Memory.Serves known calibration) (system.residualsInto calibration forms point buffer)
      (system.residualsAlone calibration forms point buffer) := by
  apply (returns_checkPoint system point).bind
  intro _
  apply returns_bound here
  apply returns_filled fun inputs form => form.residualAlone calibration inputs
  intro item member memory carries
  have among := (List.of_mem_zip member).1
  exact ⟨(EquationForm.keeps_residual item.1 _ memory carries).1,
    EquationForm.residual_eq_alone carries.1 (here _ among) (carries.isBound among) _⟩

/-- The same is true of residuals and the Jacobian. -/
theorem returns_residualsAndJacobian (system : System α)
    (here : ∀ form ∈ forms, known form.equation.evaluator)
    (sound : ∀ form ∈ forms, form.IsSound) (point : NumberArray α) :
    Returns (Memory.Serves known calibration)
      (system.residualsAndJacobian calibration forms point)
      (system.jacobianAlone calibration forms point) := by
  apply (returns_checkPoint system point).bind
  intro _
  apply returns_bound here
  have stable := Memory.Carries.isStable known calibration forms
  apply Returns.bind
  · apply Returns.mapM
    intro item member memory carries
    have among := (List.of_mem_zip member).1
    exact ⟨(stable.keeps_formGradient (here _ among) _ memory carries).1,
      EquationForm.gradient_eq_alone (sound _ among) carries.1 (here _ among)
        (carries.isBound among) _⟩
  · intro found memory carries
    refine ⟨(stable.storeJacobian system.id _ memory carries).1, ?_⟩
    simp [outcome_bind, outcome_map, map_ok_result, jacobian, values, Table.getD,
      Table.get?_insert]
    rfl

end System

end Intertemporal
