import Intertemporal.Proofs.Exact

/-!
# Exact arithmetic with undefined results

The real numbers with one more scalar, for the result of an operation outside its domain: a quotient
by zero, the logarithm of a number that is not positive, the square root of a negative one, a power
that no real number is. Whatever is computed from an undefined scalar is undefined, and it compares
false with everything.

Over the real numbers alone such results are numbers by convention. Statements that distinguish them
from numbers are made over partial reals.
-/

namespace Intertemporal

/-- A real number, or no number. -/
inductive PartialReal
  | undefined
  | number (value : ℝ)

namespace PartialReal

/-- A function that is undefined on what is no number. -/
def apply (function : ℝ → PartialReal) : PartialReal → PartialReal
  | .undefined => .undefined
  | .number value => function value

/-- An operation that is undefined on what is no number. -/
def combine (operation : ℝ → ℝ → PartialReal) : PartialReal → PartialReal → PartialReal
  | .number left, .number right => operation left right
  | _, _ => .undefined

/-- A comparison that fails on what is no number. -/
def compare (relation : ℝ → ℝ → Bool) : PartialReal → PartialReal → Bool
  | .number left, .number right => relation left right
  | _, _ => false

/-- Whether a power of real numbers is a real number: positive numbers have all powers, zero those
with an exponent that is not negative, and negative numbers those with a whole exponent. -/
def HasPower (base exponent : ℝ) : Prop :=
  0 < base ∨ base = 0 ∧ 0 ≤ exponent ∨ base < 0 ∧ ∃ whole : ℤ, exponent = whole

open Classical in
/-- A power of real numbers, where there is one. -/
noncomputable def realPower (base exponent : ℝ) : PartialReal :=
  if HasPower base exponent then .number (base ^ exponent) else .undefined

noncomputable instance : Scalar PartialReal where
  add := combine fun left right => .number (left + right)
  sub := combine fun left right => .number (left - right)
  mul := combine fun left right => .number (left * right)
  div := combine fun left right => if right = 0 then .undefined else .number (left / right)
  neg := apply fun value => .number (-value)
  beq := compare fun left right => decide (left = right)
  ofDecimal mantissa exponent := .number (Scalar.ofDecimal mantissa exponent)
  infinity := .undefined
  undefined := .undefined
  isFinite
    | .undefined => false
    | .number _ => true
  truncate
    | .undefined => 0
    | .number value => Scalar.truncate value
  lt := compare fun left right => decide (left < right)
  le := compare fun left right => decide (left ≤ right)
  generalPower := combine realPower
  exp := apply fun value => .number (Real.exp value)
  log := apply fun value => if 0 < value then .number (Real.log value) else .undefined
  sqrt := apply fun value => if 0 ≤ value then .number (Real.sqrt value) else .undefined
  abs := apply fun value => .number |value|
  sin := apply fun value => .number (Real.sin value)
  cos := apply fun value => .number (Real.cos value)
  tan := apply fun value => if Real.cos value = 0 then .undefined else .number (Real.tan value)

section Arithmetic

variable (scalar : PartialReal) (left right value : ℝ)

@[simp]
theorem undefined_add : undefined + scalar = undefined := rfl

@[simp]
theorem add_undefined : scalar + undefined = undefined := by cases scalar <;> rfl

@[simp]
theorem number_add : number left + number right = number (left + right) := rfl

@[simp]
theorem undefined_sub : undefined - scalar = undefined := rfl

@[simp]
theorem sub_undefined : scalar - undefined = undefined := by cases scalar <;> rfl

@[simp]
theorem number_sub : number left - number right = number (left - right) := rfl

@[simp]
theorem undefined_mul : undefined * scalar = undefined := rfl

@[simp]
theorem mul_undefined : scalar * undefined = undefined := by cases scalar <;> rfl

@[simp]
theorem number_mul : number left * number right = number (left * right) := rfl

@[simp]
theorem undefined_div : undefined / scalar = undefined := rfl

@[simp]
theorem div_undefined : scalar / undefined = undefined := by cases scalar <;> rfl

theorem number_div :
    number left / number right = if right = 0 then undefined else number (left / right) := rfl

@[simp]
theorem number_div_zero : number left / number 0 = undefined := if_pos rfl

theorem number_div_of_ne {right : ℝ} (nonzero : right ≠ 0) :
    number left / number right = number (left / right) := if_neg nonzero

@[simp]
theorem neg_undefined : -undefined = undefined := rfl

@[simp]
theorem neg_number : -number value = number (-value) := rfl

end Arithmetic

/-- A product is a number only if both its factors are. -/
theorem mul_eq_number {left right : PartialReal} {value : ℝ} :
    left * right = number value ↔
      ∃ first second, left = number first ∧ right = number second ∧ first * second = value := by
  cases left <;> cases right <;> simp

/-- A quotient is a number only if its terms are and the second is not zero. -/
theorem div_eq_number {left right : PartialReal} {value : ℝ} :
    left / right = number value ↔ ∃ first second,
      left = number first ∧ right = number second ∧ second ≠ 0 ∧ first / second = value := by
  cases left with
  | undefined => simp
  | number first =>
      cases right with
      | undefined => simp
      | number second =>
          rw [number_div]
          split_ifs with zero <;> simp [zero]

@[simp]
theorem add_number_zero (scalar : PartialReal) : scalar + number 0 = scalar := by
  cases scalar <;> simp

@[simp]
theorem number_zero_add (scalar : PartialReal) : number 0 + scalar = scalar := by
  cases scalar <;> simp

@[simp]
theorem number_one_mul (scalar : PartialReal) : number 1 * scalar = scalar := by
  cases scalar <;> simp

@[simp]
theorem sub_number_zero (scalar : PartialReal) : scalar - number 0 = scalar := by
  cases scalar <;> simp

@[simp]
theorem number_zero_sub (scalar : PartialReal) : number 0 - scalar = -scalar := by
  cases scalar <;> simp

end PartialReal

namespace Scalar

open PartialReal (number)

@[simp]
theorem ofDecimal_partialReal (mantissa : Nat) (exponent : Int) :
    (ofDecimal mantissa exponent : PartialReal) = number (ofDecimal mantissa exponent) := rfl

@[simp]
theorem ofNat_partialReal (value : Nat) : (ofNat value : PartialReal) = number value := by
  simp [ofNat]

@[simp]
theorem ofInt_partialReal (value : Int) : (ofInt value : PartialReal) = number value := by
  cases value with
  | ofNat value => simp [ofInt]
  | negSucc value => simp [ofInt, Int.negSucc_eq]

@[simp]
theorem zero_partialReal : (zero : PartialReal) = number 0 := by simp [zero]

@[simp]
theorem one_partialReal : (one : PartialReal) = number 1 := by simp [one]

@[simp]
theorem two_partialReal : (two : PartialReal) = number 2 := by simp [two]

@[simp]
theorem half_partialReal : (half : PartialReal) = number (1 / 2) := by
  rw [half, ofDecimal_partialReal, ← half_real, half]

@[simp]
theorem beq_number (left right : ℝ) : (number left == number right) = decide (left = right) := rfl

@[simp]
theorem isPositive_number (value : ℝ) : isPositive (number value) = decide (0 < value) := by
  rw [isPositive, zero_partialReal]
  rfl

theorem isPositive_partialReal {scalar : PartialReal} :
    isPositive scalar = true ↔ ∃ value, scalar = number value ∧ 0 < value := by
  cases scalar with
  | undefined => simp [isPositive, lt, PartialReal.compare]
  | number value => simp

@[simp]
theorem isZero_number (value : ℝ) : isZero (number value) = decide (value = 0) := by
  rw [isZero, zero_partialReal, beq_number]

@[simp]
theorem isFinite_number (value : ℝ) : isFinite (number value) = true := rfl

@[simp]
theorem ofInt?_partialReal (value : Int) :
    (ofInt? value : Option PartialReal) = some (number value) := by
  simp [ofInt?]

@[simp]
theorem generalPower_number (base exponent : ℝ) :
    generalPower (number base) (number exponent) = PartialReal.realPower base exponent := rfl

theorem log_number (value : ℝ) :
    log (number value) = if 0 < value then number (Real.log value) else .undefined := rfl

theorem sqrt_number (value : ℝ) :
    sqrt (number value) = if 0 ≤ value then number (Real.sqrt value) else .undefined := rfl

end Scalar

namespace PartialReal

theorem realPower_of_hasPower {base exponent : ℝ} (has : HasPower base exponent) :
    realPower base exponent = number (base ^ exponent) := if_pos has

theorem realPower_of_not_hasPower {base exponent : ℝ} (missing : ¬HasPower base exponent) :
    realPower base exponent = undefined := if_neg missing

theorem realPower_eq_number {base exponent value : ℝ} :
    realPower base exponent = number value ↔ HasPower base exponent ∧ base ^ exponent = value := by
  unfold realPower
  split_ifs with has <;> simp [has]

theorem hasPower_of_pos {base : ℝ} (positive : 0 < base) (exponent : ℝ) : HasPower base exponent :=
  .inl positive

/-- Every number has its whole powers that are not negative. -/
theorem hasPower_natCast (base : ℝ) (exponent : Nat) : HasPower base exponent := by
  rcases lt_trichotomy base 0 with negative | zero | positive
  · exact .inr (.inr ⟨negative, exponent, by simp⟩)
  · exact .inr (.inl ⟨zero, exponent.cast_nonneg⟩)
  · exact .inl positive

theorem hasPower_zero_iff {exponent : ℝ} : HasPower 0 exponent ↔ 0 ≤ exponent := by
  simp [HasPower]

theorem hasPower_neg_iff {base exponent : ℝ} (negative : base < 0) :
    HasPower base exponent ↔ ∃ whole : ℤ, exponent = whole := by
  simp [HasPower, negative, negative.not_gt, negative.ne]

/-- The reciprocal is a power of every number but zero. -/
theorem hasPower_neg_one_iff {base : ℝ} : HasPower base (-1) ↔ base ≠ 0 := by
  rcases lt_trichotomy base 0 with negative | rfl | positive
  · simpa [hasPower_neg_iff negative, negative.ne] using ⟨-1, by simp⟩
  · simp [hasPower_zero_iff]
  · simp [hasPower_of_pos positive, positive.ne']

/-- The square root is a power of every number that is not negative. -/
theorem hasPower_half_iff {base : ℝ} : HasPower base (1 / 2) ↔ 0 ≤ base := by
  rcases lt_trichotomy base 0 with negative | rfl | positive
  · have notWhole : ¬∃ whole : ℤ, (1 / 2 : ℝ) = whole := by
      rintro ⟨whole, same⟩
      have double : ((2 * whole : ℤ) : ℝ) = ((1 : ℤ) : ℝ) := by
        push_cast
        linarith
      have := Int.cast_injective double
      omega
    simp only [hasPower_neg_iff negative, notWhole, negative.not_ge]
  · simp [hasPower_zero_iff]
  · simp [hasPower_of_pos positive, positive.le]

/-- Every power is the real power, whichever way it is computed. -/
theorem power_number (base exponent : ℝ) :
    Scalar.power (number base) (number exponent) = realPower base exponent := by
  simp only [Scalar.power, Scalar.one_partialReal, Scalar.zero_partialReal,
    Scalar.half_partialReal, Scalar.two_partialReal, neg_number, Scalar.beq_number,
    Scalar.generalPower_number, decide_eq_true_eq]
  split_ifs with reciprocal none root same square
  · subst reciprocal
    rw [number_div]
    split_ifs with zero
    · rw [realPower_of_not_hasPower (by simp [hasPower_neg_one_iff, zero])]
    · rw [realPower_of_hasPower (hasPower_neg_one_iff.mpr zero), Real.rpow_neg_one, one_div]
  · subst none
    have has : HasPower base 0 := mod_cast hasPower_natCast base 0
    rw [realPower_of_hasPower has, Real.rpow_zero]
  · subst root
    rw [Scalar.sqrt_number]
    split_ifs with nonnegative
    · rw [realPower_of_hasPower (hasPower_half_iff.mpr nonnegative), Real.sqrt_eq_rpow]
    · rw [realPower_of_not_hasPower (mt hasPower_half_iff.mp nonnegative)]
  · subst same
    have has : HasPower base 1 := mod_cast hasPower_natCast base 1
    rw [realPower_of_hasPower has, Real.rpow_one]
  · subst square
    have has : HasPower base 2 := mod_cast hasPower_natCast base 2
    rw [realPower_of_hasPower has, Real.rpow_two, sq, number_mul]
  · rfl

theorem power_neg_one {base : ℝ} (nonzero : base ≠ 0) :
    Scalar.power (number base) (number (-1)) = number base⁻¹ := by
  rw [power_number, realPower_of_hasPower (hasPower_neg_one_iff.mpr nonzero), Real.rpow_neg_one]

/-- Zero has no reciprocal. -/
@[simp]
theorem power_zero_neg_one : Scalar.power (number 0) (number (-1)) = undefined := by
  rw [power_number, realPower_of_not_hasPower (by simp [hasPower_neg_one_iff])]

/-- What is no number has no power but the one with exponent zero. -/
theorem power_undefined {exponent : PartialReal} (nonzero : exponent ≠ number 0) :
    Scalar.power undefined exponent = undefined := by
  cases exponent with
  | undefined => rfl
  | number exponent =>
      have positive : exponent ≠ 0 := fun zero => nonzero (congrArg number zero)
      have general : Scalar.generalPower undefined (number exponent) = undefined := rfl
      have root : Scalar.sqrt undefined = undefined := rfl
      simp [Scalar.power, positive, general, root]

/-- A number has no power whose exponent is no number. -/
theorem exponent_of_power_eq_number {base exponent : PartialReal} {value : ℝ}
    (defined : Scalar.power base exponent = number value) :
    ∃ known, exponent = number known := by
  cases exponent with
  | undefined =>
      have missing : Scalar.power base undefined = undefined := by cases base <;> rfl
      cases missing.symm.trans defined
  | number known => exact ⟨known, rfl⟩

/-- A whole power that is not negative is computed as a product would be. -/
theorem power_natCast (base : ℝ) (exponent : Nat) :
    Scalar.power (number base) (number exponent) = number (base ^ exponent) := by
  rw [power_number, realPower_of_hasPower (hasPower_natCast base exponent), Real.rpow_natCast]

end PartialReal

end Intertemporal
