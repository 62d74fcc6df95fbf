import Mathlib.Analysis.Calculus.Deriv.Abs
import Mathlib.Analysis.SpecialFunctions.Pow.Deriv
import Mathlib.Analysis.SpecialFunctions.Sqrt
import Mathlib.Analysis.SpecialFunctions.Trigonometric.ArctanDeriv
import Intertemporal.Proofs.Exact
import Intertemporal.Proofs.Program.Values

/-!
# Tangent jets

In exact arithmetic, a jet is tangent to a curve if it holds the value of the curve at a time and
its derivative there. Every operation of the number system of jets takes tangent jets to jets that
are tangent to the composed curve, as long as the arguments are inside the domain of the operation.

The rules for plain and dual operands differ, but they compute the same partial derivatives. The
lemmas on `partials` say so; the rules of calculus are needed once for each operation only.
-/

namespace Intertemporal

namespace Jet

variable {size : Nat}

section Partials

variable (left right : Jet ℝ size) (place : Fin size)

@[simp]
theorem partials_plain (value : ℝ) : (plain value : Jet ℝ size).partials[place.val] = 0 := by
  simp [partials]

theorem partials_negate : left.negate.partials[place.val] = -left.partials[place.val] := by
  cases left with
  | plain value => simp [negate]
  | dual operand => simp [negate, partials, Dual.negate, Dual.negated]

theorem partials_add :
    (arithmetic .add left right).partials[place.val] =
      left.partials[place.val] + right.partials[place.val] := by
  cases left <;> cases right <;>
    simp [arithmetic, partials, Dual.arithmetic, Dual.arithmeticPlain, Dual.plainArithmetic,
      Dual.add, Dual.addPlain, Dual.added]

theorem partials_sub :
    (arithmetic .sub left right).partials[place.val] =
      left.partials[place.val] - right.partials[place.val] := by
  cases left <;> cases right <;>
    simp [arithmetic, partials, Dual.arithmetic, Dual.arithmeticPlain, Dual.plainArithmetic,
      Dual.sub, Dual.subPlain, Dual.plainSub, Dual.subtracted, Dual.negated]

theorem partials_mul :
    (arithmetic .mul left right).partials[place.val] =
      left.partials[place.val] * right.value + right.partials[place.val] * left.value := by
  cases left <;> cases right <;>
    simp [arithmetic, partials, value, Dual.arithmetic, Dual.arithmeticPlain,
      Dual.plainArithmetic, Dual.mul, Dual.mulPlain, Dual.added, Dual.scaled]

theorem partials_div :
    (arithmetic .div left right).partials[place.val] =
      (left.partials[place.val] - right.partials[place.val] * (left.value / right.value)) /
        right.value := by
  cases left with
  | plain leftValue =>
      cases right with
      | plain rightValue => simp [arithmetic]
      | dual rightDual =>
          simp [arithmetic, partials, value, Dual.plainArithmetic, Dual.plainDiv, Dual.scaled,
            Dual.negated]
          ring
  | dual leftDual =>
      cases right with
      | plain rightValue =>
          simp [arithmetic, partials, value, Dual.arithmeticPlain, Dual.divPlain]
      | dual rightDual =>
          simp [arithmetic, partials, value, Dual.arithmetic, Dual.div, Dual.scaled,
            Dual.subtracted]

/-- With a positive base, the exponent has a share in the derivative of a power. -/
theorem partials_power (positive : 0 < left.value) :
    (arithmetic .power left right).partials[place.val] =
      left.partials[place.val] * (right.value * left.value ^ (right.value - 1)) +
        right.partials[place.val] * (left.value ^ right.value * Real.log left.value) := by
  cases left with
  | plain leftValue =>
      have nonzero : leftValue ≠ 0 := positive.ne'
      cases right with
      | plain rightValue => simp [arithmetic]
      | dual rightDual =>
          simp [arithmetic, partials, value, Dual.plainArithmetic, Dual.plainPower, Dual.scaled,
            nonzero]
  | dual leftDual =>
      cases right with
      | plain rightValue =>
          by_cases none : rightValue = 0
          · simp [arithmetic, partials, value, Dual.arithmeticPlain, Dual.powerPlain,
              Dual.scaled, none]
          · simp [arithmetic, partials, value, Dual.arithmeticPlain, Dual.powerPlain,
              Dual.scaled, none]
      | dual rightDual =>
          have positiveValue : 0 < leftDual.value := positive
          simp [arithmetic, partials, value, Dual.arithmetic, Dual.power, Dual.scaled,
            Dual.added, positiveValue]

/-- A plain exponent has no share in the derivative of a power, whatever the base. -/
theorem partials_power_plain (exponent : ℝ) :
    (arithmetic .power left (plain exponent)).partials[place.val] =
      left.partials[place.val] * (exponent * left.value ^ (exponent - 1)) := by
  cases left with
  | plain leftValue => simp [arithmetic]
  | dual leftDual =>
      by_cases none : exponent = 0
      · simp [arithmetic, partials, value, Dual.arithmeticPlain, Dual.powerPlain, Dual.scaled,
          none]
      · simp [arithmetic, partials, value, Dual.arithmeticPlain, Dual.powerPlain, Dual.scaled,
          none]

theorem partials_elementary (function : Elementary) :
    (elementary function left).partials[place.val] =
      left.partials[place.val] *
        Scalar.derivative function left.value (Scalar.elementary function left.value) := by
  cases left with
  | plain leftValue => simp [elementary]
  | dual leftDual => simp [elementary, partials, value, Dual.elementary, Dual.scaled]

end Partials

/-- A jet that holds the value of a curve at a time and, at one place, its derivative there. -/
structure IsTangent (jet : Jet ℝ size) (place : Fin size) (curve : ℝ → ℝ) (time : ℝ) : Prop where
  value_eq : jet.value = curve time
  hasDerivAt : HasDerivAt curve jet.partials[place.val] time

namespace IsTangent

variable {left right : Jet ℝ size} {place : Fin size} {first second : ℝ → ℝ} {time : ℝ}

theorem of_constant (value time : ℝ) (place : Fin size) :
    (plain value).IsTangent place (fun _ => value) time := by
  refine ⟨rfl, ?_⟩
  rw [partials_plain]
  exact hasDerivAt_const time value

theorem negate (tangent : left.IsTangent place first time) :
    left.negate.IsTangent place (fun time => -first time) time := by
  refine ⟨?_, ?_⟩
  · rw [← tangent.value_eq]
    cases left <;> rfl
  · rw [partials_negate]
    exact tangent.hasDerivAt.neg

theorem add (tangentLeft : left.IsTangent place first time)
    (tangentRight : right.IsTangent place second time) :
    (arithmetic .add left right).IsTangent place (fun time => first time + second time) time := by
  refine ⟨?_, ?_⟩
  · rw [value_arithmetic, tangentLeft.value_eq, tangentRight.value_eq]
    rfl
  · rw [partials_add]
    exact tangentLeft.hasDerivAt.add tangentRight.hasDerivAt

theorem sub (tangentLeft : left.IsTangent place first time)
    (tangentRight : right.IsTangent place second time) :
    (arithmetic .sub left right).IsTangent place (fun time => first time - second time) time := by
  refine ⟨?_, ?_⟩
  · rw [value_arithmetic, tangentLeft.value_eq, tangentRight.value_eq]
    rfl
  · rw [partials_sub]
    exact tangentLeft.hasDerivAt.sub tangentRight.hasDerivAt

theorem mul (tangentLeft : left.IsTangent place first time)
    (tangentRight : right.IsTangent place second time) :
    (arithmetic .mul left right).IsTangent place (fun time => first time * second time) time := by
  refine ⟨?_, ?_⟩
  · rw [value_arithmetic, tangentLeft.value_eq, tangentRight.value_eq]
    rfl
  · rw [partials_mul, tangentLeft.value_eq, tangentRight.value_eq]
    apply (tangentLeft.hasDerivAt.mul tangentRight.hasDerivAt).congr_deriv
    ring

theorem div (tangentLeft : left.IsTangent place first time)
    (tangentRight : right.IsTangent place second time) (nonzero : second time ≠ 0) :
    (arithmetic .div left right).IsTangent place (fun time => first time / second time) time := by
  refine ⟨?_, ?_⟩
  · rw [value_arithmetic, tangentLeft.value_eq, tangentRight.value_eq]
    rfl
  · rw [partials_div, tangentLeft.value_eq, tangentRight.value_eq]
    apply (tangentLeft.hasDerivAt.div tangentRight.hasDerivAt nonzero).congr_deriv
    field_simp

theorem power (tangentLeft : left.IsTangent place first time)
    (tangentRight : right.IsTangent place second time) (positive : 0 < first time) :
    (arithmetic .power left right).IsTangent place (fun time => first time ^ second time) time := by
  refine ⟨?_, ?_⟩
  · rw [value_arithmetic, tangentLeft.value_eq, tangentRight.value_eq]
    exact Scalar.power_real _ _
  · rw [partials_power left right place (tangentLeft.value_eq ▸ positive), tangentLeft.value_eq,
      tangentRight.value_eq]
    apply (tangentLeft.hasDerivAt.rpow tangentRight.hasDerivAt positive).congr_deriv
    ring

theorem power_plain (tangentLeft : left.IsTangent place first time) (nonzero : first time ≠ 0)
    (exponent : ℝ) :
    (arithmetic .power left (plain exponent)).IsTangent place (fun time => first time ^ exponent)
      time := by
  refine ⟨?_, ?_⟩
  · rw [value_arithmetic, tangentLeft.value_eq]
    exact Scalar.power_real _ _
  · rw [partials_power_plain, tangentLeft.value_eq]
    apply (tangentLeft.hasDerivAt.rpow_const (Or.inl nonzero)).congr_deriv
    ring

end IsTangent

end Jet

/-- The arguments at which an elementary function is defined and has a derivative. -/
def Elementary.IsSmoothAt : Elementary → ℝ → Prop
  | .log, argument => 0 < argument
  | .exp, _ => True
  | .sqrt, argument => 0 < argument
  | .abs, argument => argument ≠ 0
  | .sin, _ => True
  | .cos, _ => True
  | .tan, argument => Real.cos argument ≠ 0

/-- The derivative of an elementary function is the one that is computed for it. -/
theorem Elementary.IsSmoothAt.hasDerivAt {function : Elementary} {argument : ℝ}
    (smooth : function.IsSmoothAt argument) :
    HasDerivAt (Scalar.elementary function)
      (Scalar.derivative function argument (Scalar.elementary function argument)) argument := by
  cases function with
  | log =>
      have positive : 0 < argument := smooth
      apply (Real.hasDerivAt_log positive.ne').congr_deriv
      simp [Scalar.derivative]
  | exp => exact Real.hasDerivAt_exp argument
  | sqrt =>
      have positive : 0 < argument := smooth
      apply (Real.hasDerivAt_sqrt positive.ne').congr_deriv
      simp only [Scalar.derivative, Scalar.half_real, one_div, mul_inv]
      rfl
  | abs =>
      have nonzero : argument ≠ 0 := smooth
      rcases nonzero.lt_or_gt with negative | positive
      · apply (hasDerivAt_abs_neg negative).congr_deriv
        simp [Scalar.derivative, negative, negative.le]
      · apply (hasDerivAt_abs_pos positive).congr_deriv
        simp [Scalar.derivative, positive]
  | sin => exact Real.hasDerivAt_sin argument
  | cos => exact Real.hasDerivAt_cos argument
  | tan =>
      have nonzero : Real.cos argument ≠ 0 := smooth
      apply (Real.hasDerivAt_tan nonzero).congr_deriv
      have unit := Real.sin_sq_add_cos_sq argument
      simp only [Scalar.derivative, Scalar.elementary, Scalar.one_real]
      change 1 / Real.cos argument ^ 2 = 1 + Real.tan argument * Real.tan argument
      rw [Real.tan_eq_sin_div_cos]
      field_simp
      linarith

namespace Jet.IsTangent

variable {size : Nat} {left right : Jet ℝ size} {place : Fin size} {first second : ℝ → ℝ}
  {time : ℝ}

theorem elementary (tangent : left.IsTangent place first time) {function : Elementary}
    (smooth : function.IsSmoothAt (first time)) :
    (Jet.elementary function left).IsTangent place
      (fun time => Scalar.elementary function (first time)) time := by
  refine ⟨?_, ?_⟩
  · rw [value_elementary, tangent.value_eq]
  · rw [partials_elementary, tangent.value_eq, mul_comm]
    exact smooth.hasDerivAt.comp time tangent.hasDerivAt

theorem smaller (tangentLeft : left.IsTangent place first time)
    (tangentRight : right.IsTangent place second time) (distinct : first time ≠ second time) :
    (Jet.smaller left right).IsTangent place
      (fun time => Scalar.smaller (first time) (second time)) time := by
  have continuousLeft := tangentLeft.hasDerivAt.continuousAt
  have continuousRight := tangentRight.hasDerivAt.continuousAt
  simp only [Jet.smaller, Scalar.le_real, tangentLeft.value_eq, tangentRight.value_eq,
    decide_eq_true_eq, Scalar.smaller_real]
  -- near the time the same one of the two curves stays the smaller one
  rcases distinct.lt_or_gt with below | above
  · rw [if_pos below.le]
    refine ⟨tangentLeft.value_eq.trans (min_eq_left below.le).symm, ?_⟩
    apply tangentLeft.hasDerivAt.congr_of_eventuallyEq
    filter_upwards [continuousLeft.eventually_lt continuousRight below] with later stillBelow
    exact min_eq_left stillBelow.le
  · rw [if_neg above.not_ge]
    refine ⟨tangentRight.value_eq.trans (min_eq_right above.le).symm, ?_⟩
    apply tangentRight.hasDerivAt.congr_of_eventuallyEq
    filter_upwards [continuousRight.eventually_lt continuousLeft above] with later stillAbove
    exact min_eq_right stillAbove.le

theorem larger (tangentLeft : left.IsTangent place first time)
    (tangentRight : right.IsTangent place second time) (distinct : first time ≠ second time) :
    (Jet.larger left right).IsTangent place
      (fun time => Scalar.larger (first time) (second time)) time := by
  have continuousLeft := tangentLeft.hasDerivAt.continuousAt
  have continuousRight := tangentRight.hasDerivAt.continuousAt
  simp only [Jet.larger, Scalar.le_real, tangentLeft.value_eq, tangentRight.value_eq,
    decide_eq_true_eq, Scalar.larger_real]
  rcases distinct.lt_or_gt with below | above
  · rw [if_neg below.not_ge]
    refine ⟨tangentRight.value_eq.trans (max_eq_right below.le).symm, ?_⟩
    apply tangentRight.hasDerivAt.congr_of_eventuallyEq
    filter_upwards [continuousLeft.eventually_lt continuousRight below] with later stillBelow
    exact max_eq_right stillBelow.le
  · rw [if_pos above.le]
    refine ⟨tangentLeft.value_eq.trans (max_eq_left above.le).symm, ?_⟩
    apply tangentLeft.hasDerivAt.congr_of_eventuallyEq
    filter_upwards [continuousRight.eventually_lt continuousLeft above] with later stillAbove
    exact max_eq_left stillAbove.le

end Jet.IsTangent

end Intertemporal
