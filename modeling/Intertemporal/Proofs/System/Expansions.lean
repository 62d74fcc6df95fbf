import Mathlib.LinearAlgebra.Pi
import Intertemporal.Proofs.Model.Founders
import Intertemporal.Proofs.Program.Affine
import Intertemporal.Proofs.Program.Bindings
import Intertemporal.Proofs.System.Coefficients
import Intertemporal.Proofs.System.Soundness

/-!
# Expansions of affine equations

The expansion of an equation about a point is its residual there plus its gradient there times the
distance from the point. In exact arithmetic it is the equation itself if the equation is affine in
its series: the gradient is the same at every point, in whatever chunks it is computed, and the
distance is all that the residual changes by (`EquationForm.yields_expanded`).
-/

namespace Intertemporal

open Intertemporal.Gradient (derivativeAt)

/-- Values for listed items that differ are the values of a function. -/
theorem exists_map_eq {β γ : Type} [DecidableEq β] [Inhabited γ] {items : List β}
    (different : items.Nodup) {values : List γ} (sized : values.length = items.length) :
    ∃ function : β → γ, items.map function = values := by
  refine ⟨fun item => values.getD (items.idxOf item) default, ?_⟩
  apply List.ext_getElem
  · simpa using sized.symm
  · intro index inItems inValues
    simp [different.idxOf_getElem, inValues]

section Forms

variable {α : Type} [Scalar α]

/-- A memory in which an evaluator has the given parameter values. -/
structure Evaluator.Holds (evaluator : Evaluator α) (values : List (ParameterValue α))
    (memory : Memory α) : Prop where
  bound : ¬evaluator.IsUnbound (evaluator.stateIn memory)
  values_eq : (evaluator.stateIn memory).values = values
  fits : (evaluator.stateIn memory).gradient.Fits evaluator.inputs evaluator.chunk.toNat

/-- Whatever values an evaluator is to have, it can be given them. -/
theorem Evaluator.holds_storedIn (evaluator : Evaluator α) (revision : Nat)
    (values : List (ParameterValue α)) (memory : Memory α) :
    evaluator.Holds values (evaluator.storedIn
      ⟨some ⟨revision, values⟩, .fresh evaluator.inputs evaluator.chunk.toNat⟩ memory) := by
  refine ⟨?_, ?_, ?_⟩
  · simp [stateIn_storedIn, IsUnbound]
  · rw [stateIn_storedIn]
    rfl
  · rw [stateIn_storedIn]
    exact Gradient.fresh_fits _ _

/-- What a form returns for the given inputs, as long as its evaluator has the given parameter
values. -/
structure EquationForm.Yields (form : EquationForm α) (values : List (ParameterValue α))
    (inputs : List α) (residual : α) (gradient : List α) : Prop where
  outcome_residual : ∀ memory, form.equation.evaluator.Holds values memory →
    outcome (form.residual inputs) memory = (.ok residual, memory)
  outcome_gradient : ∀ memory, form.equation.evaluator.Holds values memory → ∃ after,
    outcome (form.residualAndGradient inputs) memory = (.ok (residual, gradient), after) ∧
      form.equation.evaluator.Holds values after

variable {evaluator : Evaluator ℝ} {values : List (ParameterValue ℝ)}

/-- A compiled equation with a value returns it with one derivative for each input, and keeps its
parameter values. -/
theorem Evaluator.Holds.exists_residualAndGradient {memory : Memory ℝ}
    (holds : evaluator.Holds values memory) {key : EvaluatorKey ℝ}
    (compiled : key.IsCompiled evaluator) {inputs : List ℝ}
    (sized : inputs.length = evaluator.inputs) {residual : ℝ}
    (computed : evaluator.program.run inputs values = .ok residual) :
    ∃ derivatives after,
      outcome (evaluator.residualAndGradient (.ofList inputs)) memory =
        (.ok (residual, derivatives), after) ∧
      evaluator.Holds values after ∧
      List.Forall₂ (fun index slope =>
        derivativeAt evaluator.program values inputs index = .ok slope)
        (List.range evaluator.inputs) derivatives := by
  have positive : 0 < evaluator.inputs → 0 < evaluator.chunk.toNat := by
    intro nonempty
    have := compiled.chunk_bounds nonempty
    omega
  obtain ⟨derivatives, called, each⟩ :=
    Gradient.exists_call_eq_ok holds.fits positive sized computed
  refine ⟨derivatives, _, Prod.ext ?_ rfl, ?_, each⟩
  · rw [outcome_residualAndGradient, if_neg holds.bound]
    simp only [holds.values_eq, called, Except.mapError]
  · rw [outcome_residualAndGradient, if_neg holds.bound]
    refine ⟨?_, ?_, ?_⟩
    · rw [stateIn_storedIn]
      exact holds.bound
    · rw [stateIn_storedIn]
      exact holds.values_eq
    · rw [stateIn_storedIn]
      exact Gradient.call_fits holds.fits _ _ _

/-- A compiled equation whose parameters have the values that a valuation gives them. -/
structure Equation.IsValued (equation : Equation α) (valuation : Valuation α α)
    (values : List (ParameterValue α)) : Prop where
  references_eq : equation.references = equation.expression.references
  compiled : equation.key.IsCompiled equation.evaluator
  bound : List.Forall₂ (fun name value => valuation.parameter name = some value)
    equation.references.parameters values

variable {equation : Equation ℝ} {form : EquationForm ℝ} {valuation : Valuation ℝ ℝ} {base : ℝ}
  {slope : (TimedVariable → ℝ) →ₗ[ℝ] ℝ}

namespace Equation.IsValued

theorem covers (valued : equation.IsValued valuation values) :
    equation.references.Covers equation.expression :=
  valued.references_eq ▸ equation.expression.covers_references

theorem different (valued : equation.IsValued valuation values) :
    equation.references.IsDistinct :=
  valued.references_eq ▸ equation.expression.isDistinct_references

theorem run_inputsOf (valued : equation.IsValued valuation values)
    (linear : equation.expression.IsLinear valuation base slope) (series : TimedVariable → ℝ) :
    equation.evaluator.program.run (equation.references.inputsOf { valuation with series }) values =
      .ok (base + slope series) := by
  rw [← linear.valueIn_eq]
  exact Expression.run_eq_valueIn valued.compiled.program_eq valued.covers valued.different
    valued.bound 0

theorem outcome_residual (valued : equation.IsValued valuation values)
    (linear : equation.expression.IsLinear valuation base slope) {memory : Memory ℝ}
    (holds : equation.evaluator.Holds values memory) (series : TimedVariable → ℝ) :
    outcome (equation.evaluator.residual
      (equation.references.inputsOf { valuation with series })) memory =
        (.ok (base + slope series), memory) := by
  refine Evaluator.outcome_residual_eq_ok.mpr ⟨holds.bound, ?_, rfl⟩
  rw [holds.values_eq, valued.run_inputsOf linear]

theorem exists_residualAndGradient (valued : equation.IsValued valuation values)
    (linear : equation.expression.IsLinear valuation base slope) {memory : Memory ℝ}
    (holds : equation.evaluator.Holds values memory) (series : TimedVariable → ℝ) :
    ∃ derivatives after,
      outcome (equation.evaluator.residualAndGradient
        (.ofList (equation.references.inputsOf { valuation with series }))) memory =
          (.ok (base + slope series, derivatives), after) ∧
      equation.evaluator.Holds values after ∧
      derivatives.length = equation.references.inputCount ∧
      derivatives.take equation.references.series.length =
        equation.references.series.map fun reference => slope (Pi.single reference 1) := by
  have sized : (equation.references.inputsOf { valuation with series }).length =
      equation.evaluator.inputs := by
    rw [valued.compiled.inputs_eq]
    simp [References.inputsOf, References.inputCount, Equation.key]
  obtain ⟨derivatives, after, returned, kept, each⟩ :=
    holds.exists_residualAndGradient valued.compiled sized (valued.run_inputsOf linear series)
  rw [valued.compiled.inputs_eq] at each
  refine ⟨derivatives, after, returned, kept, ?_, ?_⟩
  · rw [← each.length_eq, List.length_range]
    rfl
  · exact linear.take_derivatives valued.compiled.program_eq valued.covers valued.different
      valued.bound series each

end Equation.IsValued

namespace EquationForm

/-- A form of a linear equation returns its value, and the same gradient at every point. -/
theorem yields_of_isLinear (same : form.equation = equation)
    (valued : equation.IsValued valuation values)
    (levels : form.levels? = some (equation.references.steadyStates.map valuation.steadyState))
    (linear : equation.expression.IsLinear valuation base slope) (series : TimedVariable → ℝ) :
    form.Yields values (equation.references.series.map series) (base + slope series)
      (equation.references.series.map fun reference => slope (Pi.single reference 1)) := by
  cases form with
  | dynamic other =>
      obtain rfl : other = equation := same
      have none : other.references.steadyStates = [] :=
        List.map_eq_nil_iff.mp (Option.some.inj levels).symm
      have inputsEq : other.references.series.map series =
          other.references.inputsOf { valuation with series } := by
        rw [References.inputsOf, none, List.map_nil, List.append_nil]
      rw [inputsEq]
      refine ⟨?_, ?_⟩
      · intro memory holds
        exact valued.outcome_residual linear holds series
      · intro memory holds
        obtain ⟨derivatives, after, returned, kept, lengths, leading⟩ :=
          valued.exists_residualAndGradient linear holds series
        rw [References.inputCount, none, List.length_nil, Nat.add_zero] at lengths
        rw [List.take_of_length_le lengths.le] at leading
        subst leading
        exact ⟨after, returned, kept⟩
  | anchored other known =>
      obtain rfl : other = equation := same
      obtain rfl := Option.some.inj levels
      refine ⟨?_, ?_⟩
      · intro memory holds
        exact valued.outcome_residual linear holds series
      · intro memory holds
        obtain ⟨derivatives, after, returned, kept, lengths, leading⟩ :=
          valued.exists_residualAndGradient linear holds series
        refine ⟨after, ?_, kept⟩
        rw [← leading]
        exact outcome_bind_eq_ok.mpr ⟨_, after, returned, rfl⟩
  | expanded other residual gradient point => cases levels

/-- The expansion of a linear function about a point is the function. -/
theorem expansion_of_isLinear (valued : equation.IsValued valuation values)
    (linear : equation.expression.IsLinear valuation base slope)
    (series center : TimedVariable → ℝ) :
    expansion (base + slope center)
      (equation.references.series.map fun reference => slope (Pi.single reference 1))
      (equation.references.series.map center) (equation.references.series.map series) =
        base + slope series := by
  have products : List.zipWith (· * ·)
      (equation.references.series.map fun reference => slope (Pi.single reference 1))
      (List.zipWith (· - ·) (equation.references.series.map series)
        (equation.references.series.map center)) =
      equation.references.series.map fun reference =>
        (series - center) reference * slope (Pi.single reference 1) := by
    simp [List.zipWith_map_left, List.zipWith_map_right, mul_comm]
  rw [expansion, dot_real, products,
    ← linear.slope_eq_sum valued.covers valued.different, map_sub]
  ring

/-- The expansion of an affine equation about any point is the equation: at all inputs it has the
same residual, and the gradient that both have there is the one at the point. -/
theorem yields_expanded (valued : form.equation.IsValued valuation values)
    (levels : form.levels? =
      some (form.equation.references.steadyStates.map valuation.steadyState))
    (affine : form.equation.expression.IsAffine valuation) {point : List ℝ}
    (sized : point.length = form.equation.references.series.length) :
    ∃ residual gradient, form.Yields values point residual gradient ∧
      ∀ inputs : List ℝ, inputs.length = form.equation.references.series.length →
        ∃ value, form.Yields values inputs value gradient ∧
          ∀ other, (expanded form.equation residual gradient point).Yields other inputs value
            gradient := by
  obtain ⟨base, slope, linear⟩ := affine.exists_isLinear
  obtain ⟨center, rfl⟩ := exists_map_eq valued.different.series sized
  refine ⟨_, _, yields_of_isLinear rfl valued levels linear center, ?_⟩
  intro inputs sizedInputs
  obtain ⟨series, rfl⟩ := exists_map_eq valued.different.series sizedInputs
  refine ⟨_, yields_of_isLinear rfl valued levels linear series, fun other => ⟨?_, ?_⟩⟩
  · intro memory _
    rw [← expansion_of_isLinear valued linear series center]
    rfl
  · intro memory holds
    refine ⟨memory, ?_, holds⟩
    rw [← expansion_of_isLinear valued linear series center]
    rfl

/-- A multiple of a series, less its past value over its steady state. -/
def discounted : Equation ℝ where
  name := "discounted"
  expression := .binary .sub (.binary .mul (.parameter "p" none) (.series ⟨"x", 0⟩))
    (.binary .div (.series ⟨"x", -1⟩) (.steadyState "x"))
  references := { series := [⟨"x", 0⟩, ⟨"x", -1⟩], steadyStates := ["x"], parameters := ["p"] }
  evaluator :=
    { id := 0, name := "discounted", inputs := 3, parameters := ["p"], chunk := 2
      program := .arithmetic .sub (.arithmetic .mul (.parameter 0) (.input 0))
        (.arithmetic .div (.input 1) (.input 2)) }
  linear := false
  source := ""

/-- An expansion about one point, evaluated at another. -/
theorem yields_expanded_discounted :
    let form := anchored discounted [4]
    ∃ residual gradient memory, discounted.evaluator.Holds [.scalar 3] memory ∧
      form.Yields [.scalar 3] [1, 2] residual gradient ∧
      outcome (EquationForm.residual [5, -6] (expanded discounted residual gradient [1, 2]))
        memory = (.ok (3 * 5 - -6 / 4), memory) := by
  intro form
  let valuation : Valuation ℝ ℝ :=
    { series := fun _ => 0, steadyState := fun _ => 4, parameter := fun _ => some (.scalar 3) }
  have valued : form.equation.IsValued valuation [.scalar 3] := by
    refine ⟨rfl, ⟨rfl, rfl, rfl, fun _ => by decide⟩, .cons rfl .nil⟩
  have affine : form.equation.expression.IsAffine valuation := by
    refine .sub (.mul (.fixed ?_ rfl) (.series _) (Or.inl ?_)) (.div (.series _) (.fixed ?_ rfl) ?_)
    all_goals
      intro reference
      simp [Expression.nodes]
  have sized : ([1, 2] : List ℝ).length = form.equation.references.series.length := rfl
  obtain ⟨residual, gradient, yields, everywhere⟩ := yields_expanded valued rfl affine sized
  obtain ⟨value, there, expansion⟩ := everywhere [5, -6] rfl
  have holds := discounted.evaluator.holds_storedIn 0 [.scalar 3] {}
  refine ⟨residual, gradient, _, holds, yields, ?_⟩
  have ran : outcome (form.residual [5, -6]) _ = (.ok (3 * 5 - -6 / 4), _) :=
    Evaluator.outcome_residual_eq_ok.mpr ⟨holds.bound, by rw [holds.values_eq]; rfl, rfl⟩
  exact ((expansion _).outcome_residual _ holds).trans
    ((there.outcome_residual _ holds).symm.trans ran)

end EquationForm

end Forms

end Intertemporal
