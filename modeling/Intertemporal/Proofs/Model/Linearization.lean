import Intertemporal.Proofs.Exact
import Intertemporal.Proofs.Model.Evaluations
import Intertemporal.Proofs.Model.FirstOrder
import Intertemporal.Proofs.Model.Residuals
import Intertemporal.Proofs.System.Linearization

/-!
# Linearizations in a run

A linearization mixes equations that were expanded when it was made with others that are evaluated
as they are. Both may use one evaluator, which takes up new parameter values for the others. An
expansion keeps the residual and the gradient that the equation had at the steady state, with the
parameters and the steady state of that time; the other equations take up the present parameters.
-/

namespace Intertemporal

namespace Linearization

variable (linearization : Linearization ℝ) (origin session : Session ℝ) (point : NumberArray ℝ)
  (row : Nat) (equation : Equation ℝ)

/-- The entries of a point that an equation refers to. -/
def IsInput (array : NumberArray ℝ) (inputs : List ℝ) : Prop :=
  List.Forall₂ (System.Reads linearization.system.columns linearization.system.lags array)
    equation.references.series inputs

/-- The value at a point, and the gradient, of the first-order expansion of an equation about the
steady state, with what its system returned there in the session `origin`. -/
def IsExpansionAt (value : ℝ) (gradient : List ℝ) : Prop :=
  ∃ residual steady inputs,
    linearization.system.IsGradientAt origin linearization.point row equation residual gradient ∧
    linearization.IsInput equation linearization.point steady ∧
    linearization.IsInput equation point inputs ∧
    value = residual + (List.zipWith (· * ·) gradient (List.zipWith (· - ·) inputs steady)).sum

/-- The residual that a linearization made in the session `origin` has for an equation later. -/
inductive IsResidualAt : ℝ → Prop
  | expanded {residual : ℝ} {gradient : List ℝ}
      (selected : selects linearization.whole equation = true)
      (frozen : linearization.IsExpansionAt origin point row equation residual gradient) :
      IsResidualAt residual
  | kept {residual : ℝ} (unselected : selects linearization.whole equation = false)
      (live : linearization.system.IsResidualAt session point row residual) :
      IsResidualAt residual

/-- The residual and the gradient that it has for an equation later. -/
inductive IsGradientAt : ℝ → List ℝ → Prop
  | expanded {residual : ℝ} {gradient : List ℝ}
      (selected : selects linearization.whole equation = true)
      (frozen : linearization.IsExpansionAt origin point row equation residual gradient) :
      IsGradientAt residual gradient
  | kept {residual : ℝ} {gradient : List ℝ}
      (unselected : selects linearization.whole equation = false)
      (live : linearization.system.IsGradientAt session point row equation residual gradient) :
      IsGradientAt residual gradient

variable {linearization origin session point row equation}

/-- A linearization that was made in a session, with the system that a plain form would have had
there, and that is evaluated in another session. -/
structure IsMadeIn (linearization : Linearization ℝ) (origin session : Session ℝ) : Prop where
  made : linearization.IsMadeOf origin.model
  sound : linearization.IsSound
  plain : (ModelForm.plain linearization.system).IsReady origin
  ready : (ModelForm.linearized linearization).IsReady session
  live : (ModelForm.plain linearization.system).IsReady session

namespace IsMadeIn

variable (madeIn : linearization.IsMadeIn origin session) (full : point.IsFull)
  (shaped : point.sizes = linearization.system.shape)
  (stated : linearization.system.equations[row]? = some equation)

include madeIn

theorem sized : linearization.forms.length = linearization.system.places.length := by
  rw [← madeIn.sound.forms.length_eq, madeIn.sound.system.places.length_eq]

/-- Every form is in the row of some equation. -/
theorem exists_row_of_mem {taken : EquationForm ℝ} {places : List Place}
    (member : (taken, places) ∈ linearization.forms.zip linearization.system.places) :
    ∃ (row : Nat) (equation : Equation ℝ) (form : EquationForm ℝ),
      linearization.system.equations[row]? = some equation ∧
      linearization.system.forms[row]? = some form ∧
      linearization.system.places[row]? = some places ∧
      Replaces linearization.whole linearization.point origin.model.calibration equation form
        places taken := by
  rcases List.mem_iff_getElem?.mp member with ⟨row, atRow⟩
  rcases List.getElem?_zip_eq_some.mp atRow with ⟨takenAt, placesAt⟩
  rcases exists_getElem?_of_forall₂ madeIn.sound.forms.flip takenAt with ⟨equation, stated, _⟩
  rcases madeIn.made.exists_row madeIn.sound stated with
    ⟨form, others, other, formAt, othersAt, otherAt, _, replaces⟩
  rcases Option.some.inj (takenAt.symm.trans otherAt) with rfl
  rcases Option.some.inj (placesAt.symm.trans othersAt) with rfl
  exact ⟨row, equation, form, stated, formAt, placesAt, replaces⟩

include full shaped stated

/-- An equation that was selected is expanded about the steady state. -/
theorem isExpansionAt {form : EquationForm ℝ} {places : List Place} {residual : ℝ}
    {gradient : List ℝ} (formAt : linearization.system.forms[row]? = some form)
    (placesAt : linearization.system.places[row]? = some places)
    (located : List.Forall₂ (System.Locates linearization.system.columns
      linearization.system.lags linearization.system.leads) equation.references.series places)
    (computed : form.gradientAlone origin.model.calibration
      (System.inputs linearization.point places) = .ok (residual, gradient)) :
    linearization.IsExpansionAt origin point row equation
      (EquationForm.expansion residual gradient (System.inputs linearization.point places)
        (System.inputs point places)) gradient := by
  refine ⟨residual, System.inputs linearization.point places, System.inputs point places, ?_, ?_,
    ?_, ?_⟩
  · exact madeIn.sound.system.isGradientAt madeIn.plain
      (SteadyState.point_shape madeIn.made.point).1 stated formAt placesAt computed
  · exact madeIn.made.reads_inputs located
  · exact System.reads_inputs full (System.shape_of_sizes shaped) located
  · rw [EquationForm.expansion, EquationForm.dot_real]

/-- What an evaluation finds for an equation is its expansion, or what the equation has at
present. -/
theorem isResidualAt {taken : EquationForm ℝ} {places : List Place}
    (takenAt : linearization.forms[row]? = some taken)
    (placesAt : linearization.system.places[row]? = some places) {residual : ℝ}
    (returned : taken.residualAlone session.model.calibration (System.inputs point places) =
      .ok residual) :
    linearization.IsResidualAt origin session point row equation residual := by
  rcases madeIn.made.exists_row madeIn.sound stated with
    ⟨form, others, other, formAt, othersAt, otherAt, located, replaces⟩
  rcases Option.some.inj (takenAt.symm.trans otherAt) with rfl
  rcases Option.some.inj (placesAt.symm.trans othersAt) with rfl
  cases replaces with
  | expanded selected computed =>
      cases returned
      exact .expanded selected
        (madeIn.isExpansionAt full shaped stated formAt placesAt located computed)
  | kept unselected =>
      exact .kept unselected (madeIn.sound.system.isResidualAt madeIn.live formAt placesAt returned)

theorem isGradientAt {taken : EquationForm ℝ} {places : List Place}
    (takenAt : linearization.forms[row]? = some taken)
    (placesAt : linearization.system.places[row]? = some places) {residual : ℝ}
    {gradient : List ℝ}
    (returned : taken.gradientAlone session.model.calibration (System.inputs point places) =
      .ok (residual, gradient)) :
    linearization.IsGradientAt origin session point row equation residual gradient := by
  rcases madeIn.made.exists_row madeIn.sound stated with
    ⟨form, others, other, formAt, othersAt, otherAt, located, replaces⟩
  rcases Option.some.inj (takenAt.symm.trans otherAt) with rfl
  rcases Option.some.inj (placesAt.symm.trans othersAt) with rfl
  cases replaces with
  | expanded selected computed =>
      cases returned
      exact .expanded selected
        (madeIn.isExpansionAt full shaped stated formAt placesAt located computed)
  | kept unselected =>
      exact .kept unselected
        (madeIn.sound.system.isGradientAt madeIn.live full stated formAt placesAt returned)

omit stated

/-- Residuals that are returned are those of expansions and of equations at present. -/
theorem of_residuals {residuals : List ℝ} {after : Session ℝ}
    (returned : outcome (Session.residuals (.linearized linearization) point) session =
      (.ok residuals, after)) :
    residuals.length = linearization.system.equations.length ∧
    ∀ row equation, linearization.system.equations[row]? = some equation →
      ∃ residual, residuals[row]? = some residual ∧
        linearization.IsResidualAt origin session point row equation residual := by
  have found := (madeIn.ready.residuals_eq point).symm.trans (congrArg Prod.fst returned)
  rcases (System.residualsAlone_eq_ok madeIn.sized).mp found with ⟨_, each⟩
  constructor
  · rw [← each.length_eq, List.length_zip, ← madeIn.sized, Nat.min_self,
      madeIn.sound.forms.length_eq]
  · intro row equation stated
    rcases exists_getElem?_of_forall₂ madeIn.sound.forms stated with ⟨taken, takenAt, _⟩
    rcases exists_getElem?_of_forall₂ madeIn.sound.system.places stated with
      ⟨places, placesAt, _⟩
    have atRow : (linearization.forms.zip linearization.system.places)[row]? =
        some (taken, places) := List.getElem?_zip_eq_some.mpr ⟨takenAt, placesAt⟩
    rcases exists_getElem?_of_forall₂ each atRow with ⟨residual, ofRow, computed⟩
    exact ⟨residual, ofRow,
      madeIn.isResidualAt full shaped stated takenAt placesAt computed⟩

theorem of_residualsAndJacobian {residuals : List ℝ} {matrix : SparseMatrix ℝ} {after : Session ℝ}
    (returned : outcome (Session.residualsAndJacobian (.linearized linearization) point) session =
      (.ok (residuals, matrix), after)) :
    ∀ row equation, linearization.system.equations[row]? = some equation →
      ∃ residual gradient, residuals[row]? = some residual ∧
        linearization.system.IsJacobianRow equation gradient matrix row ∧
        linearization.IsGradientAt origin session point row equation residual gradient := by
  intro row equation stated
  have found := (madeIn.ready.residualsAndJacobian_eq point).symm.trans
    (congrArg Prod.fst returned)
  have formed : List.Forall₂ (fun equation form => form.equation = equation ∧ form.IsSound)
      linearization.system.equations linearization.forms :=
    madeIn.sound.forms.imp fun _ _ each => ⟨each.1, each.2.1⟩
  rcases exists_getElem?_of_forall₂ madeIn.sound.forms stated with ⟨taken, takenAt, _⟩
  rcases exists_getElem?_of_forall₂ madeIn.sound.system.places stated with ⟨places, placesAt, _⟩
  rcases madeIn.sound.system.of_jacobianAlone formed full found stated takenAt placesAt with
    ⟨residual, gradient, computed, ofRow, isRow⟩
  exact ⟨residual, gradient, ofRow, isRow,
    madeIn.isGradientAt full shaped stated takenAt placesAt computed⟩

omit full

/-- Residuals are returned if all equations that are not expanded have one at present. -/
theorem exists_residuals
    (live : ∀ row equation, linearization.system.equations[row]? = some equation →
      selects linearization.whole equation = false →
        ∃ residual, linearization.system.IsResidualAt session point row residual) :
    ∃ residuals after, outcome (Session.residuals (.linearized linearization) point) session =
      (.ok residuals, after) := by
  have each : ∀ item ∈ linearization.forms.zip linearization.system.places, ∃ residual,
      item.1.residualAlone session.model.calibration (System.inputs point item.2) =
        .ok residual := by
    rintro ⟨taken, places⟩ member
    rcases madeIn.exists_row_of_mem member with ⟨row, equation, form, stated, formAt, placesAt,
      replaces⟩
    cases replaces with
    | expanded selected computed => exact ⟨_, rfl⟩
    | kept unselected =>
        rcases live row equation stated unselected with
          ⟨residual, ⟨other, others, otherAt, othersAt, computed⟩, _⟩
        rcases Option.some.inj (formAt.symm.trans otherAt) with rfl
        rcases Option.some.inj (placesAt.symm.trans othersAt) with rfl
        exact ⟨residual, computed⟩
  rcases exists_mapM_eq_ok each with ⟨residuals, collected⟩
  have found := (System.residualsAlone_eq_ok madeIn.sized).mpr ⟨shaped, mapM_eq_ok.mp collected⟩
  exact ⟨residuals, _, Prod.ext ((madeIn.ready.residuals_eq point).trans found) rfl⟩

theorem exists_residualsAndJacobian
    (live : ∀ row equation, linearization.system.equations[row]? = some equation →
      selects linearization.whole equation = false → ∃ residual gradient,
        linearization.system.IsGradientAt session point row equation residual gradient) :
    ∃ found after, outcome (Session.residualsAndJacobian (.linearized linearization) point)
      session = (.ok found, after) := by
  have each : ∀ item ∈ linearization.forms.zip linearization.system.places, ∃ result,
      item.1.gradientAlone session.model.calibration (System.inputs point item.2) =
        .ok result := by
    rintro ⟨taken, places⟩ member
    rcases madeIn.exists_row_of_mem member with ⟨row, equation, form, stated, formAt, placesAt,
      replaces⟩
    cases replaces with
    | expanded selected computed => exact ⟨_, rfl⟩
    | kept unselected =>
        rcases live row equation stated unselected with ⟨residual, gradient, ⟨other, others,
          otherAt, othersAt, computed⟩, _⟩
        rcases Option.some.inj (formAt.symm.trans otherAt) with rfl
        rcases Option.some.inj (placesAt.symm.trans othersAt) with rfl
        exact ⟨_, computed⟩
  rcases exists_mapM_eq_ok each with ⟨results, collected⟩
  have found := (System.jacobianAlone_eq_ok madeIn.sized).mpr
    ⟨shaped, results, mapM_eq_ok.mp collected, rfl, rfl⟩
  exact ⟨_, _, Prod.ext ((madeIn.ready.residualsAndJacobian_eq point).trans found) rfl⟩

end IsMadeIn

end Linearization

namespace Attained

section Rows

variable [Numeral ℝ] {start bench : Bench ℝ} {variant : Variant} {linearization : Linearization ℝ}
  {after : Session ℝ}

/-- A linearization that is built rests on what a plain form that is built instead is. -/
theorem isMadeOf_of_build (attained : Attained start)
    (built : outcome (Session.build variant) start.session =
      (.ok (.linearized linearization), after)) :
    (∃ later, outcome (Session.build .plain) start.session =
      (.ok (.plain linearization.system), later)) ∧
    (linearization.whole = true ↔ variant = .full) ∧
    linearization.IsMadeOf start.session.model := by
  rcases attained.exists_serves with ⟨known, serves⟩
  have sound := attained.reachable.isSound.session.model
  rw [Session.outcome_build] at built
  have value := congrArg Prod.fst built
  have ofModel : ∀ whole,
      (outcome (Linearization.ofModel start.session.model whole) start.session.memory).1 =
        .ok linearization → linearization.whole = whole ∧
          linearization.IsMadeOf start.session.model ∧
          ∃ later, outcome (Session.build .plain) start.session =
            (.ok (.plain linearization.system), later) := by
    intro whole made
    rcases Linearization.isMadeOf_of_ofModel serves.session.memory serves.session.equations sound
      (Prod.ext made rfl) with ⟨wholeEq, isMadeOf, between, system⟩
    refine ⟨wholeEq, isMadeOf, { start.session with memory := between }, ?_⟩
    rw [Session.outcome_build, ModelForm.ofModel, outcome_map, system]
    rfl
  cases variant with
  | plain =>
      rcases outcome_map_eq_ok.mp (Prod.ext value rfl) with ⟨_, _, different⟩
      cases different
  | selective =>
      rcases outcome_map_eq_ok.mp (Prod.ext value rfl) with ⟨_, ran, same⟩
      cases same
      rcases ofModel false (congrArg Prod.fst ran) with ⟨whole, made, plain⟩
      exact ⟨plain, by simp [whole], made⟩
  | full =>
      rcases outcome_map_eq_ok.mp (Prod.ext value rfl) with ⟨_, ran, same⟩
      cases same
      rcases ofModel true (congrArg Prod.fst ran) with ⟨whole, made, plain⟩
      exact ⟨plain, by simp [whole], made⟩
  | firstOrder =>
      rcases outcome_map_eq_ok.mp (Prod.ext value rfl) with ⟨_, _, different⟩
      cases different

theorem isMadeIn (attained : Attained start)
    (built : outcome (Session.build variant) start.session =
      (.ok (.linearized linearization), after))
    (attainedLater : Attained bench) (used : bench.Uses (.linearized linearization)) :
    linearization.IsMadeIn start.session bench.session := by
  rcases attained.isMadeOf_of_build built with ⟨_, _, made⟩
  have sound : linearization.IsSound := attainedLater.reachable.isSound.of_uses used
  have among : ∀ evaluated ∈ linearization.system.forms,
      evaluated.equation ∈ linearization.system.equations ∧ evaluated.IsSound := by
    intro evaluated member
    rcases exists_of_mem_right sound.system.forms member with ⟨_, here, rfl, formSound, _⟩
    exact ⟨here, formSound⟩
  refine ⟨made, sound, ?_, attainedLater.isReady used, ?_⟩
  · rcases attained.exists_serves with ⟨known, serves⟩
    refine ⟨known, serves.session.memory, fun evaluated member => ⟨?_, (among _ member).2⟩⟩
    apply serves.session.equations
    rw [← made.isOf.equations_eq]
    exact (among evaluated member).1
  · rcases attainedLater.exists_serves with ⟨known, serves⟩
    refine ⟨known, serves.session.memory, fun evaluated member => ⟨?_, (among _ member).2⟩⟩
    exact (serves.of_uses used).known _ (among evaluated member).1

/-- The linearization of a model, selective or of all equations, is the first-order expansion that
its system has at the steady state when it is made: at every point of the right shape, in every
state of a run that still uses it, an evaluation that succeeds returns the value and the gradient of
that expansion for the equations that are expanded, and for the others the residual and the gradient
that the system has under the present calibration. It succeeds unless one of the others fails. -/
theorem rows_of_linearized (attained : Attained start)
    (built : outcome (Session.build variant) start.session =
      (.ok (.linearized linearization), after)) :
    (∃ later, outcome (Session.build .plain) start.session =
      (.ok (.plain linearization.system), later)) ∧
    linearization.system.equations = start.session.model.equations ∧
    (linearization.whole = true ↔ variant = .full) ∧
    start.session.model.steadyStatePoint = .ok linearization.point ∧
    ∀ {bench : Bench ℝ}, Attained bench → bench.Uses (.linearized linearization) →
      ∀ {point : NumberArray ℝ}, point.IsFull → point.sizes = linearization.system.shape →
        (∀ residuals session,
          outcome (Session.residuals (.linearized linearization) point) bench.session =
            (.ok residuals, session) →
          residuals.length = linearization.system.equations.length ∧
          ∀ row equation, linearization.system.equations[row]? = some equation →
            ∃ residual, residuals[row]? = some residual ∧
              linearization.IsResidualAt start.session bench.session point row equation
                residual) ∧
        (∀ residuals matrix session,
          outcome (Session.residualsAndJacobian (.linearized linearization) point) bench.session =
            (.ok (residuals, matrix), session) →
          ∀ row equation, linearization.system.equations[row]? = some equation →
            ∃ residual gradient, residuals[row]? = some residual ∧
              linearization.system.IsJacobianRow equation gradient matrix row ∧
              linearization.IsGradientAt start.session bench.session point row equation residual
                gradient) ∧
        ((∀ row equation, linearization.system.equations[row]? = some equation →
            Linearization.selects linearization.whole equation = false →
              ∃ residual, linearization.system.IsResidualAt bench.session point row residual) →
          ∃ residuals session,
            outcome (Session.residuals (.linearized linearization) point) bench.session =
              (.ok residuals, session)) ∧
        ((∀ row equation, linearization.system.equations[row]? = some equation →
            Linearization.selects linearization.whole equation = false →
              ∃ residual gradient, linearization.system.IsGradientAt bench.session point row
                equation residual gradient) →
          ∃ found session,
            outcome (Session.residualsAndJacobian (.linearized linearization) point)
              bench.session = (.ok found, session)) := by
  rcases attained.isMadeOf_of_build built with ⟨plain, whole, made⟩
  refine ⟨plain, made.isOf.equations_eq, whole, made.point, ?_⟩
  intro bench attainedLater used point full shaped
  have madeIn := attained.isMadeIn built attainedLater used
  refine ⟨?_, ?_, ?_, ?_⟩
  · intro residuals session returned
    exact madeIn.of_residuals full shaped returned
  · intro residuals matrix session returned
    exact madeIn.of_residualsAndJacobian full shaped returned
  · exact madeIn.exists_residuals shaped
  · exact madeIn.exists_residualsAndJacobian shaped

end Rows

/-- Two equations that share an evaluator, one of them flagged as linear. -/
noncomputable def mixed : Bench ℝ :=
  Bench.run { session := .start "mixed" { tolerance := 0, variant := .plain, chunkLimit := 1 } }
    [.addVariable { name := "x" }, .addParameter { name := "p" } (.number 1),
      .addExpression gain "first" true, .addExpression gain "second" false,
      .setSteadyState "x" (.number 0) (.number 0)]

/-- The same after the flagged equation has been expanded and the parameter has changed. -/
noncomputable def mixedLater : Bench ℝ :=
  Bench.run mixed [.build .selective, .setParameters [("p", .number 0)]]

theorem attained_mixed : Attained mixed := (Attained.start _ _).run (by decide +kernel)

theorem exists_build_mixed :
    ∃ linearization after, outcome (Session.build .selective) mixed.session =
      (.ok (.linearized linearization), after) := by
  have flat : Linearization.checkSteadyState mixed.session.model = pure () :=
    Linearization.checkSteadyState_eq_pure rfl rfl (le_of_eq (abs_zero (α := ℝ)))
  have ready : (outcome (Linearization.ofModel mixed.session.model false)
      mixed.session.memory).1.toBool = true := by
    unfold Linearization.ofModel
    rw [flat]
    simp only [Linearization.expand_eq]
    decide +kernel
  rw [Session.outcome_build, ModelForm.ofModel, outcome_map]
  rcases ran : (outcome (Linearization.ofModel mixed.session.model false)
    mixed.session.memory).1 with reason | linearization
  · rw [ran] at ready
    cases ready
  · exact ⟨linearization, _, rfl⟩

theorem attained_mixedLater {linearization : Linearization ℝ} {after : Session ℝ}
    (built : outcome (Session.build .selective) mixed.session =
      (.ok (.linearized linearization), after)) :
    Attained mixedLater ∧ mixedLater.Uses (.linearized linearization) ∧
      mixedLater.session.model.calibration.values.get? "p" = some (some (.scalar 0)) := by
  have performed : (Request.build .selective).perform mixed =
      { session := after, held := mixed.held ++ [.linearized linearization] } := by
    simp only [Request.perform, Request.action, outcome_bind, built]
    rfl
  have attained := attained_mixed.step (.build .selective) rfl
  have run : mixedLater = (Request.setParameters [("p", .number 0)]).perform
      ((Request.build .selective).perform mixed) := rfl
  rw [run]
  rw [performed] at attained ⊢
  rw [Session.outcome_build] at built
  rcases Prod.mk.inj built with ⟨_, rfl⟩
  exact ⟨attained.step _ rfl, Or.inl (List.mem_singleton_self _), rfl⟩

/-- The system of these equations, whose second evaluator computes with the present parameter. -/
theorem exists_plain_mixed :
    ∃ (system : System ℝ) (first second : Equation ℝ) (places : List Place),
      (outcome (Session.build .plain) mixed.session).1 = .ok (.plain system) ∧
      system.equations = [first, second] ∧ system.forms[1]? = some (.dynamic second) ∧
      system.places[1]? = some places ∧ first.linear = true ∧ second.linear = false ∧
      NumberArray.sizes (α := ℝ) ⟨[2, 1], [1, 4]⟩ = system.shape ∧
      System.inputs (α := ℝ) ⟨[2, 1], [1, 4]⟩ places = [4, 1] ∧
      second.evaluator.parameters = ["p"] ∧
      second.evaluator.program.run ([4, 1] : List ℝ) [.scalar (0 : ℝ)] = .ok (0 * 4 - 1) :=
  ⟨_, _, _, _, rfl, rfl, rfl, rfl, rfl, rfl, rfl, rfl, rfl, rfl⟩

/-- The flagged equation has the value of its expansion, the other one that of the new parameter. -/
theorem rows_of_linearized_mixed :
    ∃ linearization after residuals session equation value gradient,
      outcome (Session.build .selective) mixed.session =
        (.ok (.linearized linearization), after) ∧
      outcome (Session.residuals (.linearized linearization) ⟨[2, 1], [1, 4]⟩)
        mixedLater.session = (.ok residuals, session) ∧
      linearization.IsExpansionAt mixed.session ⟨[2, 1], [1, 4]⟩ 0 equation value gradient ∧
      residuals = [value, 0 * 4 - 1] := by
  rcases exists_build_mixed with ⟨linearization, after, built⟩
  rcases attained_mixedLater built with ⟨attainedLater, used, given⟩
  rcases attained_mixed.rows_of_linearized built with ⟨⟨_, plain⟩, _, whole, _, rows⟩
  rcases exists_plain_mixed with ⟨system, first, second, places, made, equations, forms, placesAt,
    flagged, unflagged, shaped, inputs, parameters, computed⟩
  have same : system = linearization.system := by
    rw [plain] at made
    cases made
    rfl
  subst same
  have selective : linearization.whole = false := by simpa using whole.not
  have madeIn := attained_mixed.isMadeIn built attainedLater used
  have present : linearization.system.IsResidualAt mixedLater.session ⟨[2, 1], [1, 4]⟩ 1
      (0 * 4 - 1) := by
    apply madeIn.sound.system.isResidualAt madeIn.live forms placesAt
    have bound : second.evaluator.valuesIn mixedLater.session.model.calibration =
        .ok [.scalar 0] := by
      rw [Evaluator.valuesIn, parameters]
      simp [Calibration.evaluationValue, given, Except.mapError]
    apply (Evaluator.alone_residual _).trans
    rw [bound, inputs]
    exact congrArg (Except.mapError _) computed
  have full : NumberArray.IsFull (α := ℝ) ⟨[2, 1], [1, 4]⟩ := rfl
  rcases rows attainedLater used full shaped with ⟨values, _, returns, _⟩
  have live : ∀ row equation, linearization.system.equations[row]? = some equation →
      Linearization.selects linearization.whole equation = false →
        ∃ residual, linearization.system.IsResidualAt mixedLater.session ⟨[2, 1], [1, 4]⟩ row
          residual := by
    intro row equation stated unselected
    rw [equations] at stated
    rcases row with _ | _ | row
    · cases stated
      simp [Linearization.selects, flagged] at unselected
    · exact ⟨_, present⟩
    · simp at stated
  rcases returns live with ⟨residuals, session, returned⟩
  rcases values residuals session returned with ⟨length, each⟩
  rcases each 0 first (by rw [equations]; rfl) with ⟨frozen, atFirst, ofFirst⟩
  rcases each 1 second (by rw [equations]; rfl) with ⟨value, atSecond, ofSecond⟩
  have two : residuals = [frozen, value] := by
    rw [equations] at length
    rcases List.length_eq_two.mp length with ⟨_, _, rfl⟩
    cases atFirst
    cases atSecond
    rfl
  cases ofSecond with
  | expanded selected => simp [Linearization.selects, unflagged, selective] at selected
  | kept _ liveSecond =>
      cases ofFirst with
      | kept unselected => simp [Linearization.selects, flagged] at unselected
      | @expanded gradient _ expansion =>
          refine ⟨linearization, after, residuals, session, first, frozen, gradient, built,
            returned, expansion, ?_⟩
          rw [two, present.unique liveSecond]

end Attained

end Intertemporal
