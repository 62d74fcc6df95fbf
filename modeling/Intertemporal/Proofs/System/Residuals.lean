import Intertemporal.Proofs.Model.Founders
import Intertemporal.Proofs.Program.Bindings
import Intertemporal.Proofs.Program.Readings
import Intertemporal.Proofs.System.Soundness

/-!
# Residuals of systems

An evaluation of a system first binds the evaluators of all equations to a calibration and then
calls one after another with the entries of the point that its places name. Equations may share
evaluators, so each evaluator has to stay bound while others are; then the residual of an equation
is the value of its expression, for the entries of the point, the steady-state levels in its form
and the values of the calibration (`System.valueIn_of_residual`).
-/

namespace Intertemporal

variable {α : Type}

namespace EquationForm

variable [Scalar α] {form : EquationForm α} {evaluator : Evaluator α} {calibration : Calibration α}
  {memory after : Memory α} {done : Unit}

theorem exists_bind_of_levels {levels : List α} (asStated : form.levels? = some levels)
    (bound : outcome (form.bind calibration) memory = (.ok done, after)) :
    ∃ taken, outcome (form.equation.evaluator.bind calibration) memory = (.ok taken, after) := by
  cases form with
  | dynamic equation | anchored equation levels =>
      obtain ⟨taken, between, binding, gave⟩ := outcome_bind_eq_ok.mp bound
      cases gave
      exact ⟨taken, binding⟩
  | expanded equation residual gradient point => cases asStated

theorem isCurrent_after_bind (current : evaluator.IsCurrent calibration memory)
    (asStated : form.levels?.isSome)
    (bound : outcome (form.bind calibration) memory = (.ok done, after)) :
    evaluator.IsCurrent calibration after := by
  obtain ⟨levels, levelsEq⟩ := Option.isSome_iff_exists.mp asStated
  obtain ⟨taken, binding⟩ := exists_bind_of_levels levelsEq bound
  exact current.of_bind binding

variable {forms : List (EquationForm α)}

theorem isCurrent_after_bindAll (current : evaluator.IsCurrent calibration memory)
    (asStated : ∀ form ∈ forms, form.levels?.isSome)
    (bound : outcome (forms.forM (EquationForm.bind calibration)) memory = (.ok done, after)) :
    evaluator.IsCurrent calibration after := by
  induction forms generalizing memory with
  | nil =>
      cases bound
      exact current
  | cons first rest ih =>
      rw [List.forM_eq_forM, List.forM_cons] at bound
      obtain ⟨_, between, boundFirst, boundRest⟩ := outcome_bind_eq_ok.mp bound
      obtain ⟨stated, statedRest⟩ := List.forall_mem_cons.mp asStated
      exact ih (isCurrent_after_bind current stated boundFirst) statedRest boundRest

/-- After all forms have been bound, the evaluators of all of them are current. -/
theorem isCurrent_of_bindAll (asStated : ∀ form ∈ forms, form.levels?.isSome)
    (bound : outcome (forms.forM (EquationForm.bind calibration)) memory = (.ok done, after)) :
    ∀ form ∈ forms, form.equation.evaluator.IsCurrent calibration after := by
  induction forms generalizing memory with
  | nil =>
      intro form member
      cases member
  | cons first rest ih =>
      rw [List.forM_eq_forM, List.forM_cons] at bound
      obtain ⟨_, between, boundFirst, boundRest⟩ := outcome_bind_eq_ok.mp bound
      obtain ⟨stated, statedRest⟩ := List.forall_mem_cons.mp asStated
      obtain ⟨levels, levelsEq⟩ := Option.isSome_iff_exists.mp stated
      obtain ⟨taken, binding⟩ := exists_bind_of_levels levelsEq boundFirst
      -- the evaluator of the first form stays current while the others are bound
      have current := Evaluator.isCurrent_of_bind binding
      exact List.forall_mem_cons.mpr
        ⟨isCurrent_after_bindAll current statedRest boundRest, ih statedRest boundRest⟩

theorem memory_of_residual {inputs : List α} {residual : α}
    (returned : outcome (form.residual inputs) memory = (.ok residual, after)) :
    after = memory := by
  have kept : Keeps (· = memory) (form.residual inputs) fun _ => True :=
    keeps_residual form inputs
  have same := (kept memory rfl).1
  rwa [returned] at same

/-- The residual of an equation as it is stated is what its program computes with the values bound
to its evaluator. -/
theorem run_of_residual {levels inputs : List α} (asStated : form.levels? = some levels)
    {residual : α} (returned : outcome (form.residual inputs) memory = (.ok residual, after)) :
    form.equation.evaluator.program.run (inputs ++ levels)
      (form.equation.evaluator.stateIn memory).values = .ok residual := by
  cases form with
  | dynamic equation =>
      cases asStated
      rw [List.append_nil]
      exact (Evaluator.outcome_residual_eq_ok.mp returned).2.1
  | anchored equation levels =>
      cases asStated
      exact (Evaluator.outcome_residual_eq_ok.mp returned).2.1
  | expanded equation residual gradient point => cases asStated

end EquationForm

namespace System

section Evaluation

variable [Scalar α] {system : System α} {calibration : Calibration α} {point : NumberArray α}
  {memory after : Memory α} {residuals : List α}

/-- Filling a buffer computes the residuals one after another and leaves the rest as it was. -/
theorem of_fill {items : List (EquationForm α × List Place)} {buffer : List α}
    (returned : outcome (fill point items buffer) memory = (.ok residuals, after)) :
    after = memory ∧ ∃ computed, residuals = computed ++ buffer.drop items.length ∧
      List.Forall₂ (fun item residual =>
        outcome (item.1.residual (inputs point item.2)) memory = (.ok residual, memory))
        items computed := by
  induction items generalizing buffer residuals with
  | nil =>
      cases returned
      exact ⟨rfl, [], rfl, .nil⟩
  | cons item rest ih =>
      obtain ⟨residual, between, ran, remaining⟩ := outcome_bind_eq_ok.mp returned
      obtain rfl := EquationForm.memory_of_residual ran
      cases buffer with
      | nil => cases remaining
      | cons first tail =>
          obtain ⟨others, _, filled, gave⟩ := outcome_bind_eq_ok.mp remaining
          cases gave
          obtain ⟨rfl, computed, rfl, each⟩ := ih filled
          exact ⟨rfl, residual :: computed, rfl, .cons ran each⟩

/-- An evaluation that succeeds was given a point of the right shape. It leaves all evaluators
current and returns a residual for each form. -/
theorem of_residuals {forms : List (EquationForm α)}
    (asStated : ∀ form ∈ forms, form.levels?.isSome)
    (sized : forms.length = system.places.length)
    (returned : outcome (system.residuals calibration forms point) memory =
      (.ok residuals, after)) :
    point.sizes = system.shape ∧
    (∀ form ∈ forms, form.equation.evaluator.IsCurrent calibration after) ∧
    List.Forall₂ (fun item residual =>
      outcome (item.1.residual (inputs point item.2)) after = (.ok residual, after))
      (forms.zip system.places) residuals := by
  obtain ⟨_, between, checked, rest⟩ := outcome_bind_eq_ok.mp returned
  obtain ⟨_, bound, binding, filled⟩ := outcome_bind_eq_ok.mp rest
  obtain ⟨rfl, computed, rfl, each⟩ := of_fill filled
  refine ⟨?_, EquationForm.isCurrent_of_bindAll asStated binding, ?_⟩
  · unfold checkPoint at checked
    split at checked
    · assumption
    · cases checked
  · have whole : (List.replicate forms.length (Scalar.zero : α)).drop
        (forms.zip system.places).length = [] := by
      simp [← sized]
    rwa [whole, List.append_nil]

end Evaluation

section Values

variable {system : System α} {calibration : Calibration α} {point : NumberArray α}
  {trends : SteadyState α}

/-- Everything that is referred to is there to be read: the entries of a point, the steady states
and the values of a calibration. -/
structure Provides (system : System α) (point : NumberArray α) (trends : SteadyState α)
    (calibration : Calibration α) (references : References) : Prop where
  series : ∀ reference ∈ references.series, ∃ column entry,
    system.columns.idxOf? reference.name = some column ∧
      point.get? (system.lags + reference.offset).toNat column = some entry
  steadyState : ∀ name ∈ references.steadyStates, ∃ trend, trends.get? name = some trend
  parameter : ∀ name ∈ references.parameters, ∃ value,
    calibration.values.get? name = some (some value)

theorem provides_of_reads (distinct : system.columns.Nodup) {equation : Equation α}
    {form : EquationForm α} (formed : form.IsFormOf trends equation) {inputs : List α}
    (reads : List.Forall₂ (Reads system.columns system.lags point) equation.references.series
      inputs) {values : List (ParameterValue α)}
    (bound : equation.references.parameters.mapM calibration.evaluationValue = .ok values) :
    system.Provides point trends calibration equation.references where
  series reference member := by
    obtain ⟨input, _, column, ofName, entry⟩ := exists_of_mem_left reads member
    exact ⟨column, input, (idxOf?_eq_some_iff_of_nodup distinct).mpr ofName, entry⟩
  steadyState name member := by
    cases formed with
    | dynamic none =>
        rw [none] at member
        cases member
    | anchored levels =>
        obtain ⟨trend, _, level⟩ := exists_of_mem_left (mapM_eq_ok.mp levels) member
        unfold SteadyState.trend at level
        split at level
        · exact ⟨_, by assumption⟩
        · cases level
  parameter name member := by
    obtain ⟨value, _, given⟩ := exists_of_mem_left (mapM_eq_ok.mp bound) member
    unfold Calibration.evaluationValue at given
    split at given
    · exact ⟨_, by assumption⟩
    · cases given

variable [Scalar α]

/-- What references stand for in an evaluation: the entries of a point in the row of the date and
the column of the series, the levels of steady states, and the values of a calibration. -/
def valuationAt (system : System α) (point : NumberArray α) (trends : SteadyState α)
    (calibration : Calibration α) : Valuation α α where
  series reference :=
    ((system.columns.idxOf? reference.name).bind
      (point.get? (system.lags + reference.offset).toNat)).getD Scalar.zero
  steadyState name := ((trends.get? name).map (·.level)).getD Scalar.zero
  parameter name := (calibration.values.get? name).join

/-- What is read at a place of a point is what the reference stands for. -/
theorem series_valuationAt (distinct : system.columns.Nodup) {reference : TimedVariable}
    {input : α} (reads : Reads system.columns system.lags point reference input) :
    (system.valuationAt point trends calibration).series reference = input := by
  obtain ⟨column, ofName, entry⟩ := reads
  simp [valuationAt, (idxOf?_eq_some_iff_of_nodup distinct).mpr ofName, entry]

theorem steadyState_valuationAt {name : String} {trend : Trend α}
    (found : trends.trend name = .ok trend) :
    (system.valuationAt point trends calibration).steadyState name = trend.level := by
  unfold SteadyState.trend at found
  split at found
  · rename_i entry
    cases found
    simp [valuationAt, entry]
  · cases found

theorem parameter_valuationAt {name : String} {value : ParameterValue α}
    (found : calibration.evaluationValue name = .ok value) :
    (system.valuationAt point trends calibration).parameter name = some value := by
  unfold Calibration.evaluationValue at found
  split at found
  · rename_i entry
    cases found
    simp [valuationAt, entry]
  · cases found

/-- The inputs of a form are the entries of the point and the levels that it was formed with. -/
theorem inputsOf_valuationAt (calibration : Calibration α) (distinct : system.columns.Nodup)
    {equation : Equation α} {form : EquationForm α} (formed : form.IsFormOf trends equation)
    {inputs : List α}
    (reads : List.Forall₂ (Reads system.columns system.lags point) equation.references.series
      inputs) :
    ∃ levels, form.levels? = some levels ∧
      inputs ++ levels =
        equation.references.inputsOf (system.valuationAt point trends calibration) := by
  have series : inputs =
      equation.references.series.map (system.valuationAt point trends calibration).series := by
    rw [← List.map_id inputs]
    exact map_eq_map_of_forall₂ reads fun reference _ input here =>
      (series_valuationAt distinct here).symm
  cases formed with
  | dynamic none =>
      refine ⟨[], rfl, ?_⟩
      rw [References.inputsOf, none, List.map_nil, ← series]
  | @anchored found levels =>
      refine ⟨found.map (·.level), rfl, ?_⟩
      have anchored : found.map (·.level) = equation.references.steadyStates.map
          (system.valuationAt point trends calibration).steadyState :=
        map_eq_map_of_forall₂ (mapM_eq_ok.mp levels) fun name _ trend here =>
          (steadyState_valuationAt here).symm
      rw [References.inputsOf, ← series, ← anchored]

/-- The residual of an equation is the value of its expression, if its evaluator holds the values
of the calibration and was compiled for that expression, maybe on behalf of another equation. -/
theorem valueIn_of_residual (distinct : system.columns.Nodup) {equation : Equation α}
    (stated : equation.references = equation.expression.references) {form : EquationForm α}
    (formed : form.IsFormOf trends equation) (compiled : equation.key.IsCompiled equation.evaluator)
    {memory : Memory α}
    (current : equation.evaluator.parameters.mapM calibration.evaluationValue =
      .ok (equation.evaluator.stateIn memory).values) {inputs : List α}
    (reads : List.Forall₂ (Reads system.columns system.lags point) equation.references.series
      inputs) {residual : α}
    (returned : outcome (form.residual inputs) memory = (.ok residual, memory)) :
    equation.expression.valueIn (system.valuationAt point trends calibration) = .ok residual := by
  obtain ⟨levels, asStated, inputsEq⟩ := inputsOf_valuationAt calibration distinct formed reads
  have ran := EquationForm.run_of_residual asStated returned
  rw [formed.equation_eq, inputsEq] at ran
  have bound : List.Forall₂ (fun name value =>
      (system.valuationAt point trends calibration).parameter name = some value)
      equation.references.parameters (equation.evaluator.stateIn memory).values := by
    have parameters : equation.evaluator.parameters = equation.references.parameters :=
      compiled.parameters_eq
    rw [← parameters]
    exact (mapM_eq_ok.mp current).imp fun _ _ => parameter_valuationAt
  have covers : equation.references.Covers equation.expression := by
    rw [stated]
    exact equation.expression.covers_references
  have different : equation.references.IsDistinct := by
    rw [stated]
    exact equation.expression.isDistinct_references
  rw [← ran]
  exact (Expression.run_eq_valueIn compiled.program_eq covers different bound Scalar.zero).symm

end Values

end System

end Intertemporal
