import Intertemporal.Proofs.Program.Derivative
import Intertemporal.Proofs.Program.Evaluators

/-!
# Partial derivatives of compiled equations

The gradient of a compiled equation holds its partial derivatives. Moving one input along the reals
is a curve of valuations, and the seeded inputs of the pass over its chunk are tangent to that curve
at the place of the input. The passes do the rest: each derivative in the gradient comes from the
pass over its chunk.
-/

namespace Intertemporal

open Intertemporal.Gradient (seededInputs pass starts)

section Seeds

variable {chunk start : Nat} {values : List ℝ} {index : Nat}

/-- A seeded input is tangent to the value that it has while one input moves. -/
theorem isTangent_seededInputs (place : Fin chunk) (moving : start + place = index)
    (inRange : index < values.length) {slot : Nat} (slotInRange : slot < values.length) :
    (((seededInputs chunk values start)[slot]?).getD (.plain 0)).IsTangent place
      (fun value => ((values.set index value)[slot]?).getD 0) values[index] := by
  have small := place.isLt
  simp only [seededInputs, List.getElem?_mapIdx, List.getElem?_eq_getElem slotInRange,
    Option.map_some, Option.getD_some]
  by_cases same : slot = index
  · subst same
    refine ⟨?_, ?_⟩
    · simp [Jet.value, slotInRange]
    · have inChunk : start ≤ slot ∧ slot < start + chunk := by omega
      have offset : slot - start = place.val := by omega
      have slope : (Jet.dual ⟨values[slot], Gradient.seed chunk (slot - start)⟩ :
          Jet ℝ chunk).partials[place.val] = 1 := by
        simp [Jet.partials, Gradient.seed, offset]
      rw [if_pos inChunk, slope]
      simpa [slotInRange] using hasDerivAt_id' values[slot]
  · have still : ∀ value, ((values.set index value)[slot]?).getD 0 = values[slot] := by
      intro value
      rw [List.getElem?_set_ne (Ne.symm same), List.getElem?_eq_getElem slotInRange,
        Option.getD_some]
    have slope : (Jet.dual ⟨values[slot],
        if start ≤ slot ∧ slot < start + chunk then Gradient.seed chunk (slot - start)
        else Gradient.unseeded chunk⟩ : Jet ℝ chunk).partials[place.val] = 0 := by
      split
      · have other : place.val ≠ slot - start := by omega
        simp [Jet.partials, Gradient.seed, other]
      · simp [Jet.partials, Gradient.unseeded]
    refine ⟨(still _).symm, ?_⟩
    simp only [still, slope]
    exact hasDerivAt_const _ _

/-- The valuation that the seeded inputs give is tangent to the one that moves one input. -/
theorem isTangent_valuation (references : References) (parameters : List (ParameterValue ℝ))
    (enough : references.inputCount ≤ values.length) (place : Fin chunk)
    (moving : start + place = index) (inRange : index < values.length) :
    (references.valuation (seededInputs chunk values start) (.plain 0) parameters).IsTangent place
      (fun value => references.valuation (values.set index value) 0 parameters)
      values[index] := by
  refine ⟨?_, ?_, fun _ => rfl⟩
  · intro reference
    simp only [References.valuation]
    rcases found : references.seriesSlot? reference with _ | slot
    · exact .of_constant 0 _ place
    · exact isTangent_seededInputs place moving inRange
        (Nat.lt_of_lt_of_le (References.seriesSlot?_lt found) enough)
  · intro name
    simp only [References.valuation]
    rcases found : references.steadyStateSlot? name with _ | slot
    · exact .of_constant 0 _ place
    · exact isTangent_seededInputs place moving inRange
        (Nat.lt_of_lt_of_le (References.steadyStateSlot?_lt found) enough)

/-- In exact arithmetic, the pass over the chunk of an input computes the partial derivative. -/
theorem exists_hasDerivAt {expression : Expression ℝ} {references : References}
    {program : Program ℝ} (compiled : expression.compile references = .ok program)
    {parameters : List (ParameterValue ℝ)} (enough : references.inputCount ≤ values.length)
    (regular : expression.IsRegular (references.valuation values 0 parameters)) {residual : ℝ}
    (computed : program.run values parameters = .ok residual) (place : Fin chunk)
    (moving : start + place = index) (inRange : index < values.length) :
    ∃ output, pass program parameters chunk values start = .ok output ∧
      output.value = residual ∧
      ∃ along : ℝ → ℝ,
        (∀ value, program.run (values.set index value) parameters = .ok (along value)) ∧
        HasDerivAt along output.partials[place.val] values[index] := by
  have tangent := isTangent_valuation references parameters enough place moving inRange
  have unmoved : values.set index values[index] = values := List.set_getElem_self inRange
  have valued : expression.valueIn
      (references.valuation (values.set index values[index]) 0 parameters) = .ok residual := by
    rw [unmoved, ← Expression.run_of_compile compiled enough, computed]
  obtain ⟨along, output, hasTangent⟩ := Expression.exists_hasTangent tangent
    (by rwa [unmoved]) valued
  have sameResidual := Except.ok.inj ((hasTangent.valueIn_curve values[index]).symm.trans valued)
  refine ⟨output, ?_, hasTangent.isTangent.value_eq.trans sameResidual, along, ?_,
    hasTangent.isTangent.hasDerivAt⟩
  · rw [Gradient.pass, Expression.run_of_compile compiled (by simpa [seededInputs] using enough)
      (.plain 0), hasTangent.valueIn_jets]
  · intro value
    rw [Expression.run_of_compile compiled (by simpa using enough) 0, hasTangent.valueIn_curve]

end Seeds

namespace Gradient

/-- In exact arithmetic, a call at a regular point returns the residual and, for each input, its
partial derivative, whatever calls came before. -/
theorem exists_call_hasDerivAt {key : EvaluatorKey ℝ} {evaluator : Evaluator ℝ}
    (compiled : key.IsCompiled evaluator) {gradient : Gradient ℝ}
    (fits : gradient.Fits evaluator.inputs evaluator.chunk.toNat)
    {parameters : List (ParameterValue ℝ)} {inputs : List ℝ}
    (sized : inputs.length = key.references.inputCount)
    (regular : key.expression.IsRegular (key.references.valuation inputs 0 parameters))
    {residual : ℝ} (computed : evaluator.program.run inputs parameters = .ok residual) :
    ∃ result,
      (gradient.call evaluator.program parameters (.ofList inputs)).1 = .ok (residual, result) ∧
      result.length = inputs.length ∧
      ∀ index (inRange : index < inputs.length), ∃ along slope,
        result[index]? = some slope ∧
        (∀ value,
          evaluator.program.run (inputs.set index value) parameters = .ok (along value)) ∧
        HasDerivAt along slope inputs[index] := by
  have inputsEq : evaluator.inputs = inputs.length := compiled.inputs_eq.trans sized.symm
  rcases Nat.eq_zero_or_pos evaluator.inputs with empty | nonempty
  · obtain rfl : inputs = [] := List.eq_nil_of_length_eq_zero (inputsEq.symm.trans empty)
    refine ⟨gradient.result, ?_, ?_, ?_⟩
    · simp [call, NumberArray.ofList, fits.inputs_eq, empty, computed]
    · simp [fits.length_result, empty]
    · intro index inRange
      cases inRange
  · have bounds := compiled.chunk_bounds nonempty
    have positive : 0 < evaluator.chunk.toNat := by omega
    have passed : ∀ start ∈ starts evaluator.inputs evaluator.chunk.toNat, ∃ output,
        pass evaluator.program parameters evaluator.chunk.toNat inputs start = .ok output ∧
          output.value = residual := by
      intro start member
      obtain ⟨inRange, _⟩ := lt_of_mem_starts positive member
      obtain ⟨output, ran, valued, _⟩ := exists_hasDerivAt compiled.program_eq
        (Nat.le_of_eq sized.symm) regular computed ⟨0, positive⟩ (Nat.add_zero start)
        (inputsEq ▸ inRange)
      exact ⟨output, ran, valued⟩
    have : Inhabited (Jet ℝ evaluator.chunk.toNat) := ⟨.plain 0⟩
    choose! outputs ran valued using passed
    obtain ⟨start, member, result, returned, lengthResult, each⟩ :=
      call_of_passes fits positive nonempty inputsEq.symm ran
    refine ⟨result, ?_, lengthResult.trans inputsEq, ?_⟩
    · rw [returned, valued start member]
    · intro index inRange
      have small := Nat.mod_lt index positive
      obtain ⟨output, ran', _, along, moved, slope⟩ :=
        exists_hasDerivAt compiled.program_eq (Nat.le_of_eq sized.symm) regular computed
          ⟨index % evaluator.chunk.toNat, small⟩ (Nat.div_add_mod' index _) inRange
      have same := (ran _ (mem_starts positive (inputsEq ▸ inRange))).symm.trans ran'
      refine ⟨along, _, ?_, moved, slope⟩
      rw [each index (inputsEq ▸ inRange), Except.ok.inj same]
      simp [small]

end Gradient

namespace Evaluator

/-- In exact arithmetic, the gradient that an evaluator returns at a regular point holds the partial
derivatives of its residual, for every admissible chunk and after any calls. -/
theorem residualAndGradient_hasDerivAt {registry : Registry ℝ} {name : String}
    {key : EvaluatorKey ℝ} {before built memory : Memory ℝ} {evaluator : Evaluator ℝ}
    (made : outcome (registry.build name key) before = (.ok evaluator, built))
    (used : (evaluator.stateIn memory).gradient.Used evaluator.inputs evaluator.chunk.toNat)
    {inputs : List ℝ} (sized : inputs.length = key.references.inputCount) {residual : ℝ}
    (computed : outcome (evaluator.residual inputs) memory = (.ok residual, memory))
    (regular : key.expression.IsRegular
      (key.references.valuation inputs 0 (evaluator.stateIn memory).values)) :
    ∃ gradient after,
      outcome (evaluator.residualAndGradient (.ofList inputs)) memory =
        (.ok (residual, gradient), after) ∧
      gradient.length = inputs.length ∧
      ∀ index (inRange : index < inputs.length), ∃ along slope,
        gradient[index]? = some slope ∧
        (∀ value, outcome (evaluator.residual (inputs.set index value)) memory =
          (.ok (along value), memory)) ∧
        HasDerivAt along slope inputs[index] := by
  obtain ⟨compiled, _, _⟩ := Registry.of_build made
  obtain ⟨bound, ran, _⟩ := outcome_residual_eq_ok.mp computed
  obtain ⟨gradient, returned, lengthGradient, each⟩ :=
    Gradient.exists_call_hasDerivAt compiled used.fits sized regular ran
  refine ⟨gradient, (outcome (evaluator.residualAndGradient (.ofList inputs)) memory).2,
    Prod.ext ?_ rfl, lengthGradient, ?_⟩
  · rw [outcome_residualAndGradient, if_neg bound]
    simp only [returned, Except.mapError]
  · intro index inRange
    obtain ⟨along, slope, found, moved, derivative⟩ := each index inRange
    refine ⟨along, slope, found, ?_, derivative⟩
    intro value
    exact outcome_residual_eq_ok.mpr ⟨bound, moved value, rfl⟩

/-- The quotient of a series by its past value, as a compiled equation of two inputs. -/
def growth : EvaluatorKey ℝ where
  expression := .binary .div (.series ⟨"x", 0⟩) (.series ⟨"x", -1⟩)
  references := { series := [⟨"x", 0⟩, ⟨"x", -1⟩] }

/-- A growth factor at the point where the series has risen from two to three. -/
theorem growth_hasDerivAt :
    let evaluator : Evaluator ℝ := ⟨0, "growth", .arithmetic .div (.input 0) (.input 1), 2, [], 1⟩
    ∃ gradient after,
      outcome (evaluator.residualAndGradient (.ofList [3, 2])) {} =
        (.ok (3 / 2, gradient), after) ∧
      gradient.length = 2 ∧
      ∀ index (inRange : index < [(3 : ℝ), 2].length), ∃ along slope,
        gradient[index]? = some slope ∧
        (∀ value, outcome (evaluator.residual ([3, 2].set index value)) {} =
          (.ok (along value), {})) ∧
        HasDerivAt along slope [(3 : ℝ), 2][index] := by
  intro evaluator
  have made : outcome (Registry.build { chunkLimit := 1 } "growth" growth) {} =
      (.ok evaluator, { nextId := 1 }) := rfl
  refine residualAndGradient_hasDerivAt made .fresh rfl ?_ ?_
  · exact outcome_residual_eq_ok.mpr ⟨by decide, rfl, rfl⟩
  · intro node member
    have cases : node = growth.expression ∨ node = .series ⟨"x", 0⟩ ∨ node = .series ⟨"x", -1⟩ := by
      simpa [growth, Expression.nodes] using member
    rcases cases with rfl | rfl | rfl
    · intro value valued
      obtain rfl : 2 = value := Except.ok.inj valued
      norm_num
    · trivial
    · trivial

end Evaluator

end Intertemporal
