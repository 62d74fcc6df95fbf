import Intertemporal.Proofs.Model.Jacobian
import Intertemporal.Proofs.System.FirstOrder

/-!
# First-order forms in a run

Whenever the first-order form of a model can be built, it is equivalent to the linearized model: for
every path of deviations from the steady state, its rows for equations are the rows of the
linearized Jacobian times the deviations in the window, and all its other rows are zero.
-/

namespace Intertemporal

theorem Session.outcome_build_firstOrder {α : Type} [Scalar α] (session : Session α) :
    outcome (build .firstOrder) session =
      ((outcome (StateSpace.ofModel session.model) session.memory).1.map ModelForm.firstOrder,
        { session with
          memory := (outcome (StateSpace.ofModel session.model) session.memory).2 }) := by
  have read : outcome theModel session = (.ok session.model, session) := rfl
  rw [build, outcome_bind, read]
  dsimp only
  rw [outcome_act, ModelForm.ofModel, outcome_map]

/-- A residual that is not zero at the point of expansion changes nothing but the log. -/
theorem Linearization.expand_eq {α : Type} [Scalar α] (tolerance : α) (point : NumberArray α)
    (equation : Equation α) (form : EquationForm α) (places : List Place) :
    expand tolerance point equation form places = (do
      let inputs := System.inputs point places
      let (residual, gradient) ← form.residualAndGradient inputs
      modify fun memory => { memory with
        log := if Scalar.lt tolerance (Scalar.abs residual) then
          memory.log ++ [.nonzeroResidual equation.name residual] else memory.log }
      pure (.expanded equation residual gradient inputs)) := by
  unfold expand
  refine congrArg (EquationForm.residualAndGradient (System.inputs point places) form >>= ·) ?_
  funext found
  by_cases large : Scalar.lt tolerance (Scalar.abs found.1)
  · simp only [large, if_true]
    rfl
  · simp only [large]
    rfl

/-- A steady state that is known and steep nowhere is accepted. -/
theorem Linearization.checkSteadyState_eq_pure {model : Model ℝ} {slope : ℝ}
    (solved : model.steadyState.isSolved = true)
    (steepest : model.steadyState.largestSlope model.steadyState.keys = .ok slope)
    (flat : slope ≤ model.options.tolerance) : checkSteadyState model = pure () := by
  rw [checkSteadyState, solved, steepest]
  simp [Action.ofExcept, flat]

namespace Reachable

theorem isBuilt_of_build [Numeral ℝ] {bench : Bench ℝ} (reachable : Reachable bench)
    {space : StateSpace ℝ} {after : Session ℝ}
    (built : outcome (Session.build .firstOrder) bench.session =
      (.ok (.firstOrder space), after)) : space.IsBuilt bench.session.model := by
  have sound := reachable.isSound.session
  rw [Session.outcome_build_firstOrder] at built
  have value := (Prod.mk.inj built).1
  rcases ran : (outcome (StateSpace.ofModel bench.session.model) bench.session.memory).1 with
    reason | found
  · rw [ran] at value
    cases value
  · rw [ran] at value
    cases value
    exact StateSpace.isBuilt_of_ofModel sound.model sound.memory (Prod.ext ran rfl)

/-- The first-order form that is built in any state of a run is equivalent to the linearized
model, whose Jacobian is the same at every point. -/
theorem residualAt_of_build [Numeral ℝ] {bench : Bench ℝ} (reachable : Reachable bench)
    {space : StateSpace ℝ} {after : Session ℝ}
    (built : outcome (Session.build .firstOrder) bench.session =
      (.ok (.firstOrder space), after)) :
    let equations := bench.session.model.equations.length
    let links := space.keys.links.length
    equations + links ≤ space.keys.size ∧
    (∃ residuals jacobian later,
      outcome (Session.residualsAndJacobian (.linearized space.linearization)
        space.linearization.point) after = (.ok (residuals, jacobian), later)) ∧
    (∀ point session residuals jacobian later,
      outcome (Session.residualsAndJacobian (.linearized space.linearization) point) session =
        (.ok (residuals, jacobian), later) →
      ∀ path date row, row < equations →
        space.residualAt path date row =
          jacobian.product row (space.linearization.system.windowAt path date)) ∧
    (∀ path date row, equations ≤ row → row < equations + links →
      space.residualAt path date row = 0) ∧
    ∀ row, equations + links ≤ row → ∀ block column, space.coefficient block row column = 0 := by
  intro equations links
  have ofModel := reachable.isBuilt_of_build built
  rw [Session.outcome_build_firstOrder] at built
  obtain ⟨_, rfl⟩ := Prod.mk.inj built
  refine ⟨ofModel.rows_le, ?_, ?_, ?_, ?_⟩
  · obtain ⟨residuals, later, evaluated⟩ := ofModel.linearization.exists_residuals ofModel.whole
      bench.session.model.calibration
      (outcome (StateSpace.ofModel bench.session.model) bench.session.memory).2 ofModel.shaped
    exact ⟨residuals, _, { bench.session with memory := later },
      congrArg (fun found => (found.1, { bench.session with memory := found.2 })) evaluated⟩
  · intro point session residuals jacobian later returned path date row stated
    have evaluated := Session.outcome_residualsAndJacobian returned
    rw [ofModel.linearization.matrix_eq ofModel.whole evaluated]
    exact ofModel.residualAt_eq_product path date stated
  · intro path date row beyond before
    have rows := ofModel.rows_le
    exact ofModel.residualAt_eq_zero path date beyond (by omega)
  · intro row beyond block column
    exact ofModel.coefficient_eq_zero beyond block column

/-- A model that says that a series is the same a period ahead and a period behind. -/
noncomputable def crossing : Bench ℝ :=
  Bench.run { session := .start "crossing" { tolerance := 0, variant := .plain, chunkLimit := 1 } }
    [.addVariable { name := "x" },
      .addExpression (.binary .sub (.series ⟨"x", 1⟩) (.series ⟨"x", -1⟩)) "crossing" false,
      .setSteadyState "x" (.number 0) (.number 0)]

theorem exists_build_crossing :
    ∃ space after,
      outcome (Session.build .firstOrder) crossing.session = (.ok (.firstOrder space), after) := by
  have flat : Linearization.checkSteadyState crossing.session.model = pure () :=
    Linearization.checkSteadyState_eq_pure rfl rfl (le_of_eq (abs_zero (α := ℝ)))
  have ready : (outcome (StateSpace.ofModel crossing.session.model)
      crossing.session.memory).1.toBool = true := by
    unfold StateSpace.ofModel Linearization.ofModel
    rw [flat]
    simp only [Linearization.expand_eq]
    decide +kernel
  rw [Session.outcome_build_firstOrder]
  rcases ran : (outcome (StateSpace.ofModel crossing.session.model) crossing.session.memory).1 with
    reason | space
  · rw [ran] at ready
    cases ready
  · exact ⟨space, _, rfl⟩

/-- The series has a backward and a forward state, which a link ties together. -/
theorem residualAt_crossing :
    ∃ space after,
      outcome (Session.build .firstOrder) crossing.session = (.ok (.firstOrder space), after) ∧
      (∃ jacobian : SparseMatrix ℝ, ∀ path date, space.residualAt path date 0 =
        jacobian.product 0 (space.linearization.system.windowAt path date)) ∧
      ∀ path date row, 1 ≤ row → row < 1 + space.keys.links.length →
        space.residualAt path date row = 0 := by
  have reachable : Reachable crossing := (Reachable.start _ _).run _
  obtain ⟨space, after, built⟩ := exists_build_crossing
  obtain ⟨_, ⟨residuals, jacobian, later, evaluated⟩, rows, links, _⟩ :=
    reachable.residualAt_of_build built
  refine ⟨space, _, built, ⟨jacobian, fun path date => ?_⟩, fun path date row => ?_⟩
  · exact rows _ _ residuals jacobian later evaluated path date 0 Nat.one_pos
  · exact links path date row

end Reachable

end Intertemporal
