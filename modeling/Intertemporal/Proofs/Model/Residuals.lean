import Intertemporal.Proofs.Exact
import Intertemporal.Proofs.Model.Attained
import Intertemporal.Proofs.System.Residuals

/-!
# Residuals in a run

The residual of an equation passes through four layers of indices: the references that are
collected from its expression, the slots that these were compiled to, the places of an evaluation
point that they name, and the slots of its parameters, whose values are taken anew when the
calibration changes. All of them follow one order, so the residual is the value of the expression.
-/

namespace Intertemporal

variable {α : Type} [Scalar α]

namespace System

theorem isStable_true (known : Evaluator α → Prop) (calibration : Calibration α) :
    IsStable known calibration fun _ => True := by
  have all : ∀ {β : Type} (action : Action α β), Keeps (fun _ => True) action fun _ => True :=
    fun action memory _ => ⟨trivial, fun _ _ => trivial⟩
  exact ⟨⟨fun _ => all _, fun _ _ => all _, fun _ _ _ => all _⟩, all _, fun _ _ => all _⟩

/-- A system has the steady-state levels of the session that it was built in. -/
theorem IsBuiltIn.formed {origin : Session α} {system : System α}
    (built : system.IsBuiltIn origin) :
    List.Forall₂ (EquationForm.IsFormOf origin.model.steadyState) system.equations
      system.forms := by
  induction built with
  | @built system after made =>
      obtain ⟨model, between, read, acted⟩ := outcome_bind_eq_ok.mp made
      cases read
      obtain ⟨memory, forming, _⟩ := Session.outcome_act_eq_ok.mp acted
      obtain ⟨found, ran, same⟩ := outcome_map_eq_ok.mp forming
      cases same
      have stable := isStable_true (fun _ => True) origin.model.calibration
      obtain ⟨_, returned⟩ := stable.keeps_ofModel origin.model origin.memory trivial
      rw [ran] at returned
      obtain ⟨isOf, formed, _⟩ := returned system rfl
      rw [isOf.equations_eq]
      exact formed
  | copied original made ih =>
      cases made
      exact ih

end System

namespace Attained

variable [Numeral α] {bench : Bench α}

/-- In every state of a run of successful requests, an evaluation of a system that succeeds returns
for every equation the value of its expression: a series at an offset is the entry of the point in
the row of the date and the column of the series, a steady state has the level that it had when the
system was built, and a parameter has its present value. Equations may share evaluators, if those
that do have the same expression. -/
theorem valueIn_of_residuals (attained : Attained bench) {system : System α}
    (used : bench.Uses (.plain system)) {origin : Session α} (built : system.IsBuiltIn origin)
    (alike : ShareAlike system.equations)
    {point : NumberArray α} (full : point.IsFull) {residuals : List α} {after : Session α}
    (returned : outcome (Session.residuals (.plain system) point) bench.session =
      (.ok residuals, after)) :
    point.sizes = [system.lags + system.leads + 1, system.columns.length] ∧
    residuals.length = system.equations.length ∧
    ∀ (row : Nat) (equation : Equation α), system.equations[row]? = some equation →
      system.Provides point origin.model.steadyState bench.session.model.calibration
        equation.references ∧
      ∃ residual, residuals[row]? = some residual ∧
        equation.expression.valueIn (system.valuationAt point origin.model.steadyState
          bench.session.model.calibration) = .ok residual := by
  have sound : system.IsSound := attained.reachable.isSound.of_uses used
  obtain ⟨known, serves⟩ := attained.exists_serves
  have rests := serves.of_uses used
  obtain ⟨model, between, read, evaluated⟩ := outcome_bind_eq_ok.mp returned
  cases read
  obtain ⟨memory, evaluation, rfl⟩ := Session.outcome_act_eq_ok.mp evaluated
  have asStated : ∀ form ∈ system.forms, form.levels?.isSome := by
    intro form member
    obtain ⟨_, _, _, _, asStated⟩ := exists_of_mem_right sound.forms member
    exact asStated
  have sized : system.forms.length = system.places.length := by
    rw [← sound.forms.length_eq, ← sound.places.length_eq]
  obtain ⟨shaped, current, each⟩ := System.of_residuals asStated sized evaluation
  -- all evaluators are bound before the first residual, so the memory after tells their values
  have servesAfter : memory.Serves known bench.session.model.calibration := by
    have kept : Keeps (Memory.Serves known bench.session.model.calibration)
        ((ModelForm.plain system).residuals bench.session.model.calibration point) fun _ => True :=
      (Memory.Serves.isStable known _).keeps_residualsInto _ rests.known_of_mem point _
    have servesAfter := (kept _ serves.session.memory).1
    rwa [evaluation] at servesAfter
  refine ⟨shaped, ?_, fun row equation stated => ?_⟩
  · rw [← each.length_eq, List.length_zip, ← sized, Nat.min_self, sound.forms.length_eq]
  · have member := List.mem_of_getElem? stated
    obtain ⟨form, formAtRow, formed⟩ := exists_getElem?_of_forall₂ built.formed stated
    obtain ⟨places, placesAtRow, located⟩ := exists_getElem?_of_forall₂ sound.places stated
    have atRow : (system.forms.zip system.places)[row]? = some (form, places) :=
      List.getElem?_zip_eq_some.mpr ⟨formAtRow, placesAtRow⟩
    obtain ⟨residual, ofRow, ran⟩ := exists_getElem?_of_forall₂ each atRow
    have reads := System.reads_inputs full (System.shape_of_sizes shaped) located
    have compiled := rests.founded.isCompiled alike member
    have bound := servesAfter.mapM_of_isCurrent (rests.known equation member)
      (formed.equation_eq ▸ current form (List.mem_of_getElem? formAtRow))
    refine ⟨?_, residual, ofRow, ?_⟩
    · exact System.provides_of_reads sound.columns formed reads
        (compiled.parameters_eq ▸ bound : equation.references.parameters.mapM _ = _)
    · have collected := (sound.equations equation member).references_eq
      exact System.valueIn_of_residual sound.columns collected formed compiled bound reads ran

/-- A multiple of the value of a series, less its value a period before. -/
def gain : Expression ℝ :=
  .binary .sub (.binary .mul (.parameter "p" none) (.series ⟨"x", 0⟩)) (.series ⟨"x", -1⟩)

/-- Two equations that share an evaluator, built and held before their parameter changes. -/
noncomputable def revised : Bench ℝ :=
  Bench.run { session := .start "revised" { tolerance := 0, variant := .plain, chunkLimit := 1 } }
    [.addVariable { name := "x" }, .addParameter { name := "p" } (.number 1),
      .addExpression gain "first" false, .addExpression gain "second" false, .build .plain,
      .setParameters [("p", .number 2)]]

/-- Both equations have the value that they have with the new value of the parameter. -/
theorem valueIn_of_residuals_revised :
    ∃ system residuals after, revised.Uses (.plain system) ∧
      outcome (Session.residuals (.plain system) ⟨[2, 1], [1, 4]⟩) revised.session =
        (.ok residuals, after) ∧
      residuals = List.replicate 2 (2 * 4 - 1) := by
  have attained : Attained revised := by
    refine (Attained.start _ _).run ?_
    decide +kernel
  obtain ⟨system, held, expressions, columns, lags, ready⟩ : ∃ system : System ℝ,
      revised.held = [.plain system] ∧ system.equations.map (·.expression) = [gain, gain] ∧
        system.columns = ["x"] ∧ system.lags = 1 ∧
        (outcome (Session.residuals (.plain system) ⟨[2, 1], [1, 4]⟩) revised.session).1.toBool =
          true := ⟨_, rfl, rfl, rfl, rfl, rfl⟩
  have used : revised.Uses (.plain system) := Or.inl (held ▸ List.mem_singleton_self _)
  obtain ⟨origin, built⟩ := attained.exists_isBuiltIn used
  have same : ∀ equation ∈ system.equations, equation.expression = gain := by
    intro equation member
    have listed := List.mem_map_of_mem (f := (·.expression)) member
    rw [expressions] at listed
    simpa using listed
  have alike : ShareAlike system.equations := by
    intro first memberFirst second memberSecond _
    rw [same first memberFirst, same second memberSecond]
  have full : NumberArray.IsFull (α := ℝ) ⟨[2, 1], [1, 4]⟩ := rfl
  have value : gain.valueIn (system.valuationAt ⟨[2, 1], [1, 4]⟩ origin.model.steadyState
      revised.session.model.calibration) = .ok (2 * 4 - 1) := by
    have bound : revised.session.model.calibration.values.get? "p" = some (some (.scalar 2)) := rfl
    simp only [gain, Expression.valueIn, Valuation.parameterOf, System.valuationAt, bound, columns,
      lags]
    rfl
  rcases ran : outcome (Session.residuals (.plain system) ⟨[2, 1], [1, 4]⟩) revised.session with
    ⟨_ | residuals, after⟩
  · rw [ran] at ready
    cases ready
  · obtain ⟨_, length, rows⟩ := attained.valueIn_of_residuals used built alike full ran
    refine ⟨system, residuals, after, used, ran, List.eq_replicate_iff.mpr ⟨?_, ?_⟩⟩
    · rw [length, ← List.length_map, expressions]
      rfl
    · intro residual member
      obtain ⟨row, ofRow⟩ := List.mem_iff_getElem?.mp member
      have inRange : row < system.equations.length :=
        length ▸ (List.getElem?_eq_some_iff.mp ofRow).1
      have stated := List.getElem?_eq_getElem inRange
      obtain ⟨_, found, here, valued⟩ := rows row _ stated
      rw [same _ (List.getElem_mem inRange), value] at valued
      rw [← Except.ok.inj valued] at here
      exact Option.some.inj (ofRow.symm.trans here)

end Attained

end Intertemporal
