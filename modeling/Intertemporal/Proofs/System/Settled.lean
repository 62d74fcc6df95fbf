import Intertemporal.Proofs.Model.Accounts
import Intertemporal.Proofs.System.Resemblance

/-!
# Evaluations from a memory

A request that breaks off while it gives parameters values may leave evaluators with values that the
calibration does not have any more, under its present revision. What an equation is evaluated with
is then not told by the calibration alone: its evaluator keeps the values that are current and takes
those of the calibration otherwise. It settles on the same values whatever else is bound before, so
an evaluation of a system still returns what its equations return one by one, each bound and
evaluated in the memory at the start (`System.returns_residuals`).
-/

namespace Intertemporal

variable {α : Type} [Scalar α]

namespace Evaluator

variable {evaluator other : Evaluator α} {calibration : Calibration α} {memory : Memory α}

/-- The values that an evaluator has once it is bound: those that it holds, if they are current, and
those of the calibration otherwise. -/
def settled (evaluator : Evaluator α) (calibration : Calibration α) (memory : Memory α) :
    Except (Error α) (List (ParameterValue α)) :=
  if evaluator.IsCurrent calibration memory then .ok (evaluator.stateIn memory).values
  else evaluator.valuesIn calibration

theorem settled_of_isCurrent (current : evaluator.IsCurrent calibration memory) :
    evaluator.settled calibration memory = .ok (evaluator.stateIn memory).values := if_pos current

/-- Only what is bound to an evaluator matters for the values that it settles on. -/
theorem settled_of_bound_eq {after : Memory α}
    (same : (evaluator.stateIn after).bound = (evaluator.stateIn memory).bound) :
    evaluator.settled calibration after = evaluator.settled calibration memory := by
  simp only [settled, IsCurrent, EvaluatorState.values, same]
  rfl

/-- Binding fails if there is nothing to settle on. -/
theorem outcome_bind_fst_eq_settled :
    (outcome (discard (evaluator.bind calibration)) memory).1 =
      (evaluator.settled calibration memory).map fun _ => () := by
  rw [outcome_discard, outcome_bind_eq, settled]
  split
  · rfl
  · rw [valuesIn]
    cases evaluator.parameters.mapM calibration.evaluationValue <;> rfl

/-- Binding changes nothing about the values that an evaluator settles on. -/
theorem settled_bind :
    evaluator.settled calibration (outcome (evaluator.bind calibration) memory).2 =
      evaluator.settled calibration memory := by
  rw [outcome_bind_eq]
  split
  · rfl
  · rename_i stale
    rcases taken : evaluator.parameters.mapM calibration.evaluationValue with missing | values
    · rfl
    · have current : evaluator.IsCurrent calibration (evaluator.storedIn
          { evaluator.stateIn memory with
            bound := some { revision := calibration.revision, values } } memory) := by
        simp [IsCurrent]
      refine (settled_of_isCurrent current).trans ?_
      rw [stateIn_storedIn, settled, if_neg stale, valuesIn, taken]
      rfl

/-- A current evaluator computes with the values that it has settled on. -/
theorem outcome_residual_fst (current : evaluator.IsCurrent calibration memory)
    (inputs : List α) :
    (outcome (evaluator.residual inputs) memory).1 =
      evaluator.settled calibration memory >>= fun values =>
        (evaluator.program.run inputs values).mapError .computation := by
  rw [outcome_residual, current.not_isUnbound, settled_of_isCurrent current]
  rfl

/-- An evaluator that has just been bound computes with the values that it settles on. -/
theorem outcome_bind_residual_fst (inputs : List α) :
    (outcome (do discard (evaluator.bind calibration); evaluator.residual inputs) memory).1 =
      evaluator.settled calibration memory >>= fun values =>
        (evaluator.program.run inputs values).mapError .computation := by
  have binding : (outcome (discard (evaluator.bind calibration)) memory).1 =
      (evaluator.settled calibration memory).map fun _ => () := outcome_bind_fst_eq_settled
  have kept : evaluator.settled calibration (outcome (evaluator.bind calibration) memory).2 =
      evaluator.settled calibration memory := settled_bind
  rw [outcome_discard] at binding
  rw [outcome_bind, outcome_discard]
  rcases ran : outcome (evaluator.bind calibration) memory with ⟨reason | taken, after⟩
  · rcases found : evaluator.settled calibration memory with _ | values
    · rw [ran, found] at binding
      cases binding
      rfl
    · rw [ran, found] at binding
      cases binding
  · rw [ran] at kept
    rw [← kept]
    exact outcome_residual_fst (isCurrent_of_bind ran) inputs

end Evaluator

/-- A memory in which known evaluators settle on the same values as in the memory at the start. -/
structure Memory.Settles (known : Evaluator α → Prop) (calibration : Calibration α)
    (origin memory : Memory α) : Prop extends memory.IsOrderlyFor known calibration where
  settled_eq : ∀ evaluator, known evaluator →
    evaluator.settled calibration memory = evaluator.settled calibration origin

namespace Memory

variable {known : Evaluator α → Prop} {calibration : Calibration α}
  {origin memory after : Memory α} {evaluator : Evaluator α}

/-- Known evaluators settle on what they settled on, if only one of them has changed and settles on
the same values. -/
theorem Settles.restate (settles : Settles known calibration origin memory)
    (orderly : after.IsOrderlyFor known calibration) (here : known evaluator)
    (restates : Restates evaluator memory after)
    (same : evaluator.settled calibration after = evaluator.settled calibration memory) :
    Settles known calibration origin after where
  toIsOrderlyFor := orderly
  settled_eq other hereOther := by
    rw [← settles.settled_eq other hereOther]
    by_cases sameId : other.id = evaluator.id
    · rw [settles.identified other evaluator hereOther here sameId, same]
    · apply Evaluator.settled_of_bound_eq
      rw [restates.elsewhere other sameId]

theorem restates_bind (evaluator : Evaluator α) (calibration : Calibration α)
    (memory : Memory α) :
    Restates evaluator memory (outcome (evaluator.bind calibration) memory).2 := by
  rw [Evaluator.outcome_bind_eq]
  split
  · exact .refl _ _
  · split
    · exact .refl _ _
    · exact restates_storedIn _ _ _

theorem bound_residualAndGradient (evaluator : Evaluator α) (array : NumberArray α)
    (memory : Memory α) :
    (evaluator.stateIn (outcome (evaluator.residualAndGradient array) memory).2).bound =
      (evaluator.stateIn memory).bound := by
  rw [Evaluator.outcome_residualAndGradient]
  split
  · rfl
  · simp

/-- Evaluations do not change the values that evaluators settle on. -/
theorem isStable_settles (known : Evaluator α → Prop) (calibration : Calibration α)
    (origin : Memory α) : IsStable known calibration (Settles known calibration origin) := by
  have stable := IsOrderlyFor.isStable known calibration
  refine ⟨⟨?_, ?_, ?_⟩, ?_, ?_⟩
  · intro event memory settles
    exact ⟨⟨(stable.record event memory settles.toIsOrderlyFor).1, settles.settled_eq⟩,
      fun _ _ => trivial⟩
  · intro evaluator here memory settles
    refine ⟨settles.restate (stable.bind evaluator here memory settles.toIsOrderlyFor).1 here
      (restates_bind _ _ _) Evaluator.settled_bind, fun _ _ => trivial⟩
  · intro evaluator here array memory settles
    refine ⟨settles.restate
      (stable.residualAndGradient evaluator here array memory settles.toIsOrderlyFor).1 here
      (restates_call _ _ _) ?_, fun _ _ => trivial⟩
    exact Evaluator.settled_of_bound_eq (bound_residualAndGradient evaluator array memory)
  · intro memory settles
    exact ⟨⟨(stable.freshId memory settles.toIsOrderlyFor).1, settles.settled_eq⟩,
      fun _ _ => trivial⟩
  · intro id values memory settles
    exact ⟨⟨(stable.storeJacobian id values memory settles.toIsOrderlyFor).1,
      settles.settled_eq⟩, fun _ _ => trivial⟩

end Memory

namespace EquationForm

variable {known : Evaluator α → Prop} {calibration : Calibration α} {origin memory : Memory α}
  {form : EquationForm α}

/-- Whether the values that a form needs can be bound to its evaluator in a memory. -/
def bindFrom (calibration : Calibration α) (origin : Memory α) (form : EquationForm α) :
    Except (Error α) Unit := (outcome (form.bind calibration) origin).1

/-- The residual of an equation that alone is bound and evaluated in a memory. -/
def residualFrom (calibration : Calibration α) (origin : Memory α) (inputs : List α)
    (form : EquationForm α) : Except (Error α) α :=
  (outcome (do form.bind calibration; form.residual inputs) origin).1

theorem bindFrom_eq (asStated : form.levels?.isSome) :
    form.bindFrom calibration origin =
      (form.equation.evaluator.settled calibration origin).map fun _ => () := by
  cases form with
  | dynamic equation | anchored equation levels => exact Evaluator.outcome_bind_fst_eq_settled
  | expanded equation residual gradient point => cases asStated

/-- The residual depends on the memory only through the values that the evaluator settles on. -/
theorem residualFrom_eq {levels : List α} (asStated : form.levels? = some levels)
    (inputs : List α) :
    form.residualFrom calibration origin inputs =
      form.equation.evaluator.settled calibration origin >>= fun values =>
        (form.equation.evaluator.program.run (inputs ++ levels) values).mapError .computation := by
  cases form with
  | dynamic equation =>
      cases asStated
      rw [List.append_nil]
      exact Evaluator.outcome_bind_residual_fst inputs
  | anchored equation levels =>
      cases asStated
      exact Evaluator.outcome_bind_residual_fst (inputs ++ levels)
  | expanded equation residual gradient point => cases asStated

theorem bind_eq_from (settles : Memory.Settles known calibration origin memory)
    (here : known form.equation.evaluator) :
    (outcome (form.bind calibration) memory).1 = form.bindFrom calibration origin := by
  cases form with
  | dynamic equation | anchored equation levels =>
      apply Evaluator.outcome_bind_fst_eq_settled.trans
      rw [settles.settled_eq equation.evaluator here]
      exact Evaluator.outcome_bind_fst_eq_settled.symm
  | expanded equation residual gradient point => rfl

theorem residual_eq_from (settles : Memory.Settles known calibration origin memory)
    (here : known form.equation.evaluator) (bound : form.IsBound calibration memory)
    (inputs : List α) :
    (outcome (form.residual inputs) memory).1 = form.residualFrom calibration origin inputs := by
  have same := settles.settled_eq form.equation.evaluator here
  cases form with
  | dynamic equation =>
      rw [residualFrom_eq rfl, List.append_nil, ← same]
      exact Evaluator.outcome_residual_fst (bound rfl) inputs
  | anchored equation levels =>
      rw [residualFrom_eq rfl, ← same]
      exact Evaluator.outcome_residual_fst (bound rfl) (inputs ++ levels)
  | expanded equation residual gradient point => rfl

/-- What does not bind cannot be evaluated. -/
theorem bindFrom_of_residualFrom {inputs : List α} {residual : α}
    (returned : form.residualFrom calibration origin inputs = .ok residual) :
    form.bindFrom calibration origin = .ok () := by
  rcases outcome_bind_eq_ok.mp (Prod.ext returned rfl) with ⟨_, between, bound, _⟩
  rw [bindFrom, bound]

end EquationForm

/-- A memory in which known evaluators settle on what they did, and where those that forms need hold
it. -/
def Memory.IsSettledFor (known : Evaluator α → Prop) (calibration : Calibration α)
    (origin : Memory α) (forms : List (EquationForm α)) (memory : Memory α) : Prop :=
  Settles known calibration origin memory ∧
    ∀ stated : { form // form ∈ forms ∧ form.levels?.isSome },
      stated.val.equation.evaluator.IsCurrent calibration memory

section Forms

variable {known : Evaluator α → Prop} {calibration : Calibration α} {origin : Memory α}
  {forms : List (EquationForm α)}

theorem EquationForm.returns_bind {form : EquationForm α} (here : known form.equation.evaluator) :
    Returns (Memory.Settles known calibration origin) (form.bind calibration)
      (form.bindFrom calibration origin) := by
  intro memory settles
  have kept := (Memory.isStable_settles known calibration origin).keeps_bindForm here
  exact ⟨(kept memory settles).1, bind_eq_from settles here⟩

/-- Binding a form makes its evaluator hold what it settles on. -/
theorem EquationForm.isSettledFor_of_bind {form : EquationForm α} {memory after : Memory α}
    {done : Unit} (here : known form.equation.evaluator)
    (settles : Memory.Settles known calibration origin memory)
    (bound : outcome (form.bind calibration) memory = (.ok done, after)) :
    Memory.IsSettledFor known calibration origin [form] after := by
  constructor
  · have kept := (returns_bind here memory settles).1
    rwa [bound] at kept
  · rintro ⟨only, member, stated⟩
    cases List.mem_singleton.mp member
    rcases Option.isSome_iff_exists.mp stated with ⟨levels, levelsEq⟩
    rcases exists_bind_of_levels levelsEq bound with ⟨taken, binding⟩
    exact Evaluator.isCurrent_of_bind binding

theorem EquationForm.returns_bindAll (here : ∀ form ∈ forms, known form.equation.evaluator) :
    Returns (Memory.Settles known calibration origin) (forms.forM (EquationForm.bind calibration))
      (forms.forM (EquationForm.bindFrom calibration origin)) := by
  apply Returns.forM
  exact fun form member => returns_bind (here form member)

/-- What is done after all forms have been bound may rely on it. -/
theorem EquationForm.returns_bound {β : Type}
    (here : ∀ form ∈ forms, known form.equation.evaluator) {next : Action α β}
    {goal : Except (Error α) β}
    (rest : Returns (Memory.IsSettledFor known calibration origin forms) next goal) :
    Returns (Memory.Settles known calibration origin)
      (do forms.forM (EquationForm.bind calibration); next)
      (do forms.forM (EquationForm.bindFrom calibration origin); goal) := by
  apply (returns_bindAll here).enter _ (fun _ settled => settled.1) fun _ => rest
  intro memory done after settles bound
  constructor
  · have kept := (returns_bindAll here memory settles).1
    rwa [bound] at kept
  · rintro ⟨form, member, stated⟩
    exact isBound_of_bindAll bound form member stated

theorem EquationForm.returns_residualFrom {form : EquationForm α} (member : form ∈ forms)
    (here : known form.equation.evaluator) (inputs : List α) :
    Returns (Memory.IsSettledFor known calibration origin forms) (form.residual inputs)
      (form.residualFrom calibration origin inputs) := by
  rintro memory ⟨settles, current⟩
  refine ⟨(keeps_residual form inputs memory ⟨settles, current⟩).1, ?_⟩
  exact residual_eq_from settles here (fun stated => current ⟨form, member, stated⟩) inputs

/-- An evaluation of a system returns what its equations return one by one, each bound and evaluated
in the memory at the start. -/
theorem System.residuals_eq_ok {system : System α}
    (here : ∀ form ∈ forms, known form.equation.evaluator)
    (sized : forms.length = system.places.length) {point : NumberArray α} {memory : Memory α}
    (settles : Memory.Settles known calibration origin memory) {residuals : List α} :
    (outcome (system.residuals calibration forms point) memory).1 = .ok residuals ↔
      point.sizes = system.shape ∧ List.Forall₂ (fun item residual =>
        item.1.residualFrom calibration origin (inputs point item.2) = .ok residual)
        (forms.zip system.places) residuals := by
  have returns : Returns (Memory.Settles known calibration origin)
      (system.residuals calibration forms point) (do
        Action.alone (system.checkPoint point)
        forms.forM (EquationForm.bindFrom calibration origin)
        filled ((forms.zip system.places).map fun (item : EquationForm α × List Place) =>
          item.1.residualFrom calibration origin (inputs point item.2))
            (List.replicate forms.length Scalar.zero)) := by
    apply (returns_checkPoint system point).bind
    intro _
    apply EquationForm.returns_bound here
    apply returns_filled fun inputs form => form.residualFrom calibration origin inputs
    intro item member
    have among := (List.of_mem_zip member).1
    exact EquationForm.returns_residualFrom among (here _ among) _
  rw [(returns memory settles).2]
  exact evaluated_eq_ok sized (EquationForm.bindFrom calibration origin)
    (fun inputs form => form.residualFrom calibration origin inputs)
    fun _ _ _ => EquationForm.bindFrom_of_residualFrom

end Forms

end Intertemporal
