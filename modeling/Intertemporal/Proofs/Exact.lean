import Mathlib.Analysis.SpecialFunctions.Pow.Real
import Mathlib.Analysis.SpecialFunctions.Trigonometric.Basic
import Intertemporal.Decimal.Layout
import Intertemporal.Program.Jet

/-!
# Exact arithmetic

The real numbers as scalars. What the program computes over them is what it computes with doubles,
less rounding and less the special values: every number is finite, a quotient by zero is zero, and
so is a logarithm of zero. Statements about exact arithmetic name the arguments at which these
conventions would show, or are true in spite of them.

Powers need no such care. The short cuts that `Scalar.power` takes at single exponents are all
instances of the real power.
-/

namespace Intertemporal

/-- Exact arithmetic. -/
noncomputable instance : Scalar ℝ where
  beq left right := decide (left = right)
  ofDecimal mantissa exponent := mantissa * 10 ^ exponent
  infinity := 0
  undefined := 0
  isFinite _ := true
  truncate value := if 0 ≤ value then ⌊value⌋ else ⌈value⌉
  lt left right := decide (left < right)
  le left right := decide (left ≤ right)
  generalPower := fun base exponent => base ^ exponent
  exp := Real.exp
  log := Real.log
  sqrt := Real.sqrt
  abs value := |value|
  sin := Real.sin
  cos := Real.cos
  tan := Real.tan

/-- Messages show the integer part of an exact number. -/
noncomputable instance : Numeral ℝ where
  exact value := toString ⌊value⌋
  rounded value := toString ⌊value⌋

namespace Scalar

@[simp]
theorem ofDecimal_real (mantissa : Nat) (exponent : Int) :
    (ofDecimal mantissa exponent : ℝ) = mantissa * 10 ^ exponent := rfl

@[simp]
theorem ofNat_real (value : Nat) : (ofNat value : ℝ) = value := by
  simp [ofNat]

@[simp]
theorem ofInt_real (value : Int) : (ofInt value : ℝ) = value := by
  cases value with
  | ofNat value => simp [ofInt]
  | negSucc value => simp [ofInt, Int.negSucc_eq]

@[simp]
theorem ofInt?_real (value : Int) : (ofInt? value : Option ℝ) = some (value : ℝ) := by
  simp [ofInt?, isFinite]

@[simp]
theorem zero_real : (zero : ℝ) = 0 := by simp [zero]

@[simp]
theorem one_real : (one : ℝ) = 1 := by simp [one]

@[simp]
theorem two_real : (two : ℝ) = 2 := by simp [two]

@[simp]
theorem half_real : (half : ℝ) = 1 / 2 := by
  norm_num [half]

@[simp]
theorem beq_real (left right : ℝ) : (left == right) = decide (left = right) := rfl

@[simp]
theorem lt_real (left right : ℝ) : lt left right = decide (left < right) := rfl

@[simp]
theorem le_real (left right : ℝ) : le left right = decide (left ≤ right) := rfl

@[simp]
theorem abs_real (value : ℝ) : Scalar.abs value = |value| := rfl

@[simp]
theorem log_real (value : ℝ) : Scalar.log value = Real.log value := rfl

@[simp]
theorem generalPower_real (base exponent : ℝ) : generalPower base exponent = base ^ exponent := rfl

@[simp]
theorem isPositive_real (value : ℝ) : isPositive value = decide (0 < value) := by
  simp [isPositive]

@[simp]
theorem isNegative_real (value : ℝ) : isNegative value = decide (value < 0) := by
  simp [isNegative]

@[simp]
theorem isZero_real (value : ℝ) : isZero value = decide (value = 0) := by
  simp [isZero]

/-- Every power is the real power, whichever way it is computed. -/
@[simp]
theorem power_real (base exponent : ℝ) : power base exponent = base ^ exponent := by
  simp only [power, beq_real, one_real, zero_real, half_real, two_real, generalPower_real,
    decide_eq_true_eq]
  split_ifs with reciprocal none root same square
  · rw [reciprocal, Real.rpow_neg_one, one_div]
  · rw [none, Real.rpow_zero]
  · rw [root, ← Real.sqrt_eq_rpow]
    rfl
  · rw [same, Real.rpow_one]
  · rw [square, Real.rpow_two, sq]
  · rfl

@[simp]
theorem smaller_real (left right : ℝ) : smaller left right = min left right := by
  simp only [smaller, le_real, decide_eq_true_eq, min_def]

@[simp]
theorem larger_real (left right : ℝ) : larger left right = max left right := by
  simp only [larger, le_real, decide_eq_true_eq]
  split_ifs with above
  · exact (max_eq_left above).symm
  · exact (max_eq_right (not_le.mp above).le).symm

end Scalar

end Intertemporal
