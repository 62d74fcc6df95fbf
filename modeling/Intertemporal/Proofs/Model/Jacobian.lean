import Intertemporal.Proofs.Model.Runs
import Intertemporal.Proofs.System.Jacobian

/-!
# Jacobians in a run

Whatever has happened to a model, its Jacobian has the derivatives of every equation where the
columns of their series are, and no other entries.
-/

namespace Intertemporal

theorem Session.outcome_residualsAndJacobian {α : Type} [Scalar α] {form : ModelForm α}
    {point : NumberArray α} {session after : Session α} {found : List α × SparseMatrix α}
    (returned : outcome (residualsAndJacobian form point) session = (.ok found, after)) :
    outcome (form.system.residualsAndJacobian session.model.calibration form.forms point)
      session.memory = (.ok found, after.memory) := by
  obtain ⟨model, between, read, evaluated⟩ := outcome_bind_eq_ok.mp returned
  cases read
  rw [outcome_act] at evaluated
  obtain ⟨value, rfl⟩ := Prod.mk.inj evaluated
  exact Prod.ext value rfl

namespace Reachable

variable {α : Type} [Scalar α] [Numeral α] {bench : Bench α}

/-- In every state of a run, an evaluation of a system that succeeds returns a well-formed matrix.
Its row for an equation holds the gradient that the evaluator of the equation returns for the
entries of the point that the equation refers to. -/
theorem isJacobianRow_of_residualsAndJacobian (reachable : Reachable bench) {system : System α}
    (used : bench.Uses (.plain system)) {point : NumberArray α} (full : point.IsFull)
    {residuals : List α} {matrix : SparseMatrix α} {after : Session α}
    (returned : outcome (Session.residualsAndJacobian (.plain system) point) bench.session =
      (.ok (residuals, matrix), after)) :
    matrix.IsWellFormed ∧ matrix.pattern.rows.length = system.equations.length ∧
    matrix.width = system.columns.length * system.periods.toNat ∧
    residuals.length = system.equations.length ∧
    ∀ row equation, system.equations[row]? = some equation →
      ∃ inputs levels residual components,
        List.Forall₂ (System.Reads system.columns system.lags point) equation.references.series
          inputs ∧
        system.forms[row]?.bind EquationForm.levels? = some levels ∧
        (outcome (equation.evaluator.residualAndGradient (.ofList (inputs ++ levels)))
          after.memory).1 = .ok (residual, components) ∧
        residuals[row]? = some residual ∧
        system.IsJacobianRow equation (components.take equation.references.series.length) matrix
          row := by
  have soundBench := reachable.isSound
  have sound : system.IsSound := soundBench.of_uses used
  have formed : List.Forall₂ (fun equation form => form.equation = equation ∧ form.IsSound)
      system.equations system.forms := sound.forms.imp fun _ _ each => ⟨each.1, each.2.1⟩
  have equations : ∀ equation ∈ system.equations, equation.IsSound := by
    intro equation member
    obtain ⟨place, found⟩ := List.mem_iff_getElem?.mp member
    obtain ⟨form, _, rfl, formSound⟩ := exists_getElem?_of_forall₂ formed found
    exact formSound.equation
  have ran := Session.outcome_residualsAndJacobian returned
  obtain ⟨found, paired, rfl, rfl⟩ := sound.exists_found formed soundBench.session.memory full ran
  have lengths := sound.lengths_of_found formed paired
  have lengthFound : found.length = system.equations.length := by
    rw [lengths.length_eq, List.length_map]
  refine ⟨?_, ?_, ?_, ?_, ?_⟩
  · exact Pattern.isWellFormed (sound.isSimple equations) sound.lt_width (sound.sized lengths)
  · exact sound.isColumnOf.length_eq.symm
  · rw [System.width]
  · rw [List.length_map, lengthFound]
  · intro row equation stated
    have ofItems := stated
    rw [sound.equations_eq formed, List.getElem?_map] at ofItems
    obtain ⟨⟨form, places⟩, atRow, rfl⟩ := Option.map_eq_some_iff.mp ofItems
    obtain ⟨⟨residual, gradient⟩, ofRow, here⟩ := exists_getElem?_of_forall₂ paired atRow
    have formAtRow := (List.getElem?_zip_eq_some.mp atRow).1
    obtain ⟨_, _, asStated⟩ := List.forall₂_zip sound.forms
      (List.mem_of_getElem? (List.getElem?_zip_eq_some.mpr ⟨stated, formAtRow⟩))
    obtain ⟨levels, asStated⟩ := Option.isSome_iff_exists.mp asStated
    obtain ⟨components, computed, gradientEq⟩ :=
      EquationForm.exists_components asStated here.length here.again
    refine ⟨System.inputs point places, levels, residual, components, here.reads, ?_, computed, ?_,
      ?_⟩
    · rw [formAtRow, Option.bind_some, asStated]
    · rw [List.getElem?_map, ofRow, Option.map_some]
    · rw [← gradientEq]
      exact sound.isJacobianRow equations lengths stated (by rw [List.getElem?_map, ofRow]; rfl)

/-- A model that says how far a series moves within two periods, built and held. -/
def movement : Bench Float :=
  Bench.run { session := .start "movement" { tolerance := 0, variant := .plain, chunkLimit := 1 } }
    [.addVariable { name := "x" },
      .addExpression (.binary .sub (.series ⟨"x", 1⟩) (.series ⟨"x", -1⟩)) "movement" false,
      .build .plain]

/-- The only row of the Jacobian of the movement of a series. -/
theorem isJacobianRow_movement :
    ∃ system residuals matrix after,
      movement.Uses (.plain system) ∧
      outcome (Session.residualsAndJacobian (.plain system) ⟨[3, 1], [1.0, 2.0, 4.0]⟩)
        movement.session = (.ok (residuals, matrix), after) ∧
      matrix.IsWellFormed ∧ residuals.length = 1 ∧
      ∃ equation gradient, system.equations[0]? = some equation ∧
        system.IsJacobianRow equation gradient matrix 0 := by
  have reachable : Reachable movement := (Reachable.start _ _).run _
  have full : NumberArray.IsFull (α := Float) ⟨[3, 1], [1.0, 2.0, 4.0]⟩ := rfl
  obtain ⟨system, held, single, ready⟩ : ∃ system : System Float,
      movement.held = [.plain system] ∧ system.equations.length = 1 ∧
        (outcome (Session.residualsAndJacobian (.plain system) ⟨[3, 1], [1.0, 2.0, 4.0]⟩)
          movement.session).1.toBool = true := ⟨_, rfl, rfl, rfl⟩
  have used : movement.Uses (.plain system) := Or.inl (held ▸ List.mem_singleton_self _)
  rcases ran : outcome (Session.residualsAndJacobian (.plain system)
    ⟨[3, 1], [1.0, 2.0, 4.0]⟩) movement.session with ⟨_ | ⟨residuals, matrix⟩, after⟩
  · rw [ran] at ready
    cases ready
  · obtain ⟨wellFormed, _, _, length, each⟩ :=
      reachable.isJacobianRow_of_residualsAndJacobian used full ran
    have stated := List.getElem?_eq_getElem (l := system.equations) (i := 0) (by omega)
    obtain ⟨_, _, _, _, _, _, _, _, ofRow⟩ := each 0 _ stated
    exact ⟨system, residuals, matrix, after, used, ran, wellFormed, length.trans single, _, _,
      stated, ofRow⟩

end Reachable

end Intertemporal
