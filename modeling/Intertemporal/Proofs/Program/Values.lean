import Intertemporal.Proofs.Exact
import Intertemporal.Proofs.Program.Chunks
import Intertemporal.Proofs.Program.Slots
import Intertemporal.Proofs.Program.Soundness

/-!
# Values of jets

The gradient of a compiled equation comes with a value. It is the value that the equation has on
plain scalars, whatever mixture of plain and dual operands it was computed from, because taking the
value of a jet respects every operation (`Jet.isMorphism_value`). The rules for mixed operands turn
sums and products around and give a power to the exponent zero without computing it, so three laws
of the scalars are needed for this. Doubles have them as well as exact numbers, outside the domain
of a function too.
-/

namespace Intertemporal

variable {α : Type}

/-- Scalars with the laws that the rules for mixed operands rely on. -/
class LawfulScalar (α : Type) [Scalar α] : Prop where
  add_comm : ∀ left right : α, left + right = right + left
  mul_comm : ∀ left right : α, left * right = right * left
  power_of_isZero : ∀ base exponent : α, Scalar.isZero exponent →
    Scalar.power base exponent = Scalar.one

instance : LawfulScalar ℝ where
  add_comm left right := add_comm left right
  mul_comm left right := mul_comm left right
  power_of_isZero base exponent none := by
    have same : exponent = 0 := by simpa using none
    simp [same]

namespace Jet

variable [Scalar α] {size : Nat}

@[simp]
theorem value_elementary (function : Elementary) (argument : Jet α size) :
    (elementary function argument).value = Scalar.elementary function argument.value := by
  cases argument <;> rfl

@[simp]
theorem value_smaller (left right : Jet α size) :
    (smaller left right).value = Scalar.smaller left.value right.value :=
  apply_ite value _ left right

@[simp]
theorem value_larger (left right : Jet α size) :
    (larger left right).value = Scalar.larger left.value right.value :=
  apply_ite value _ left right

variable [LawfulScalar α]

@[simp]
theorem value_arithmetic (operation : Arithmetic) (left right : Jet α size) :
    (arithmetic operation left right).value =
      Scalar.arithmetic operation left.value right.value := by
  cases left with
  | plain leftValue =>
      cases right with
      | plain rightValue => rfl
      | dual rightDual =>
          cases operation with
          -- the rule for a plain left operand turns sums and products around
          | add => exact LawfulScalar.add_comm _ _
          | sub => rfl
          | mul => exact LawfulScalar.mul_comm _ _
          | div => rfl
          | power =>
              simp only [arithmetic, Dual.plainArithmetic, Dual.plainPower, value]
              split <;> rfl
  | dual leftDual =>
      cases right with
      | plain rightValue =>
          cases operation with
          | add => rfl
          | sub => rfl
          | mul => rfl
          | div => rfl
          | power =>
              simp only [arithmetic, Dual.arithmeticPlain, Dual.powerPlain, value]
              split
              · rename_i none
                exact (LawfulScalar.power_of_isZero _ _ none).symm
              · rfl
      | dual rightDual =>
          cases operation with
          | add => rfl
          | sub => rfl
          | mul => rfl
          | div => rfl
          | power =>
              simp only [arithmetic, Dual.arithmetic, Dual.power, value]
              split <;> rfl

/-- Taking the value of a jet respects every operation. -/
theorem isMorphism_value : NumberSystem.IsMorphism (value : Jet α size → α) where
  constant _ := rfl
  negate operand := by cases operand <;> rfl
  arithmetic := value_arithmetic
  elementary := value_elementary
  smaller := value_smaller
  larger := value_larger

end Jet

namespace Gradient

variable [Scalar α] [LawfulScalar α] {inputs chunk : Nat} {gradient : Gradient α}

/-- A pass computes the value of its program, whichever chunk is seeded. -/
theorem pass_value (program : Program α) (parameters : List (ParameterValue α)) (chunk : Nat)
    (values : List α) (start : Nat) :
    (pass program parameters chunk values start).map Jet.value =
      program.run values parameters := by
  have unseeded : (seededInputs chunk values start).map Jet.value = values := by
    apply List.ext_getElem
    · simp [seededInputs]
    · intro index _ _
      simp [seededInputs, Jet.value]
  rw [pass, ← program.run_map Jet.isMorphism_value, unseeded]

omit [LawfulScalar α] in
/-- Where a program has a value, it has a derivative with respect to every input. -/
theorem exists_mapM_derivativeAt {program : Program α} {parameters : List (ParameterValue α)}
    {values : List α} {output : Jet α 0} (bare : pass program parameters 0 values 0 = .ok output)
    (inputs : Nat) :
    ∃ slopes, (List.range inputs).mapM (derivativeAt program parameters values) = .ok slopes := by
  apply exists_mapM_eq_ok
  intro index _
  obtain ⟨found, alone, _⟩ := exists_pass_eq_ok bare 1 index
  exact ⟨_, congrArg (Except.map _) alone⟩

/-- A program with a value has a gradient too, and each derivative is that of one input alone. -/
theorem exists_call_eq_ok (fits : gradient.Fits inputs chunk)
    (positive : 0 < inputs → 0 < chunk) {program : Program α}
    {parameters : List (ParameterValue α)} {values : List α} (sized : values.length = inputs)
    {value : α}
    (computed : program.run values parameters = .ok value) :
    ∃ derivatives,
      (gradient.call program parameters (.ofList values)).1 = .ok (value, derivatives) ∧
      List.Forall₂ (fun index slope => derivativeAt program parameters values index = .ok slope)
        (List.range inputs) derivatives := by
  have shaped : (NumberArray.ofList values).shape = [inputs] := by simp [NumberArray.ofList, sized]
  rcases Nat.eq_zero_or_pos inputs with rfl | nonempty
  · obtain rfl := List.eq_nil_of_length_eq_zero sized
    refine ⟨[], ?_, .nil⟩
    simp [call, shaped, fits.inputs_eq, computed, List.eq_nil_of_length_eq_zero fits.length_result]
  · have valued := pass_value program parameters 0 values 0
    rcases bare : pass program parameters 0 values 0 with reason | output
    · rw [bare, computed] at valued
      cases valued
    · obtain ⟨derivatives, derived⟩ := exists_mapM_derivativeAt bare inputs
      refine ⟨derivatives, ?_, mapM_eq_ok.mp derived⟩
      rw [bare, computed] at valued
      rw [call_fst_eq_derivatives fits (positive nonempty) nonempty program parameters shaped]
      simp only [show (NumberArray.ofList values).entries = values from rfl, bare, derived]
      rw [← Except.ok.inj valued]
      rfl

end Gradient

section Building

variable [Scalar α]

end Building

namespace Evaluator

variable [Scalar α] [LawfulScalar α]

end Evaluator

end Intertemporal
