import Intertemporal.Proofs.PartialReal
import Intertemporal.Proofs.Program.Values

/-!
# Constants beside duals

A constant beside a dual can be written as a plain number or as a dual whose partial derivatives are
zero. Each operation has a rule for either way of writing it, and the values are the same wherever
there is one. So are the partial derivatives, in exact arithmetic with undefined results, outside a
few powers (`Side.IsSingular`): the rule for a plain exponent zero has no derivative of the base in
it, the rule for a plain base zero none of the exponent, and the rule for a plain negative base
takes a logarithm that the rule for two duals leaves out.
-/

namespace Intertemporal

open PartialReal (number)

instance : LawfulScalar PartialReal where
  add_comm left right := by cases left <;> cases right <;> simp [add_comm]
  mul_comm left right := by cases left <;> cases right <;> simp [mul_comm]
  power_of_isZero base exponent none := by
    cases exponent with
    | undefined => cases none
    | number value =>
        obtain rfl : value = 0 := by simpa using none
        simp [Scalar.power]

/-- An operation on two operands: an operator, or a function called with two arguments. -/
inductive Operation
  | operator (operation : Arithmetic)
  | call (function : Function)

/-- The side of an operation on which a constant stands. -/
inductive Side
  | left
  | right

namespace Operation

variable {α β γ : Type}

/-- The result of an operation. Most functions have none for two arguments. -/
def result? [NumberSystem α β] : Operation → β → β → Option β
  | .operator operation, left, right => some (NumberSystem.arithmetic operation left right)
  | .call function, left, right => function.apply? [left, right]

/-- The result of an operation on an operand and a constant on one side of it. -/
def beside? [NumberSystem α β] (operation : Operation) : Side → (constant operand : β) → Option β
  | .left, constant, operand => operation.result? constant operand
  | .right, constant, operand => operation.result? operand constant

/-- Whether an operation raises to a power. -/
def isPower : Operation → Bool
  | .operator .power => true
  | .call .pow => true
  | _ => false

/-- A power may be written as a call. -/
theorem beside?_pow [NumberSystem α β] (side : Side) (constant operand : β) :
    (call .pow).beside? side constant operand =
      (operator .power).beside? side constant operand := by
  cases side <;> rfl

theorem result?_map [NumberSystem α β] [NumberSystem α γ] {change : β → γ}
    (morphism : NumberSystem.IsMorphism change) (operation : Operation) (left right : β) :
    operation.result? (change left) (change right) = (operation.result? left right).map change := by
  cases operation with
  | operator operation => exact congrArg some (morphism.arithmetic operation left right).symm
  | call function => exact Function.apply?_map morphism function [left, right]

theorem beside?_map [NumberSystem α β] [NumberSystem α γ] {change : β → γ}
    (morphism : NumberSystem.IsMorphism change) (operation : Operation) (side : Side)
    (constant operand : β) :
    operation.beside? side (change constant) (change operand) =
      (operation.beside? side constant operand).map change := by
  cases side <;> exact operation.result?_map morphism _ _

end Operation

/-- Where the power of a constant and an operand has two different derivatives: for a constant
exponent zero at a base without a reciprocal, for a negative constant base, and for a constant base
zero under an exponent below one. From one on only an undefined derivative of the exponent
shows. -/
def Side.IsSingular : Side → (constant : ℝ) → (operand derivative : PartialReal) → Prop
  | .right, constant, .undefined, derivative => constant = 0 ∧ derivative ≠ .undefined
  | .right, constant, .number base, derivative =>
    constant = 0 ∧ base = 0 ∧ derivative ≠ .undefined
  | .left, _, .undefined, _ => False
  | .left, constant, .number exponent, derivative =>
    constant < 0 ∨ constant = 0 ∧ (exponent < 1 ↔ derivative ≠ .undefined)

namespace Dual

variable {size : Nat}

/-- A constant as a dual: its partial derivatives are zero. -/
def ofConstant {α : Type} [Scalar α] (value : α) : Dual α size :=
  ⟨value, Vector.replicate size Scalar.zero⟩

@[ext]
theorem ext {α : Type} {left right : Dual α size} (value : left.value = right.value)
    (partials : ∀ (place : Nat) (inRange : place < size),
      left.partials[place] = right.partials[place]) : left = right := by
  obtain ⟨leftValue, leftPartials⟩ := left
  obtain ⟨rightValue, rightPartials⟩ := right
  obtain rfl : leftValue = rightValue := value
  exact congrArg (Dual.mk leftValue) (Vector.ext partials)

variable {constant value : ℝ} {operand : Dual PartialReal size}

theorem addPlain_eq_add (constant : ℝ) (operand : Dual PartialReal size) :
    addPlain operand (number constant) = add operand (ofConstant (number constant)) := by
  ext place inRange
  · rfl
  · simp [addPlain, add, added, ofConstant]

theorem addPlain_eq_add_left (constant : ℝ) (operand : Dual PartialReal size) :
    addPlain operand (number constant) = add (ofConstant (number constant)) operand := by
  ext place inRange
  · exact LawfulScalar.add_comm _ _
  · simp [addPlain, add, added, ofConstant]

theorem subPlain_eq_sub (constant : ℝ) (operand : Dual PartialReal size) :
    subPlain operand (number constant) = sub operand (ofConstant (number constant)) := by
  ext place inRange
  · rfl
  · simp [subPlain, sub, subtracted, ofConstant]

theorem plainSub_eq_sub (constant : ℝ) (operand : Dual PartialReal size) :
    plainSub (number constant) operand = sub (ofConstant (number constant)) operand := by
  ext place inRange
  · rfl
  · simp [plainSub, sub, subtracted, negated, ofConstant]

/-- The derivative of the constant vanishes if what it is multiplied by is a number. -/
theorem mulPlain_eq_mul {first : ℝ} (known : operand.value = number first) :
    mulPlain operand (number constant) = mul operand (ofConstant (number constant)) := by
  ext place inRange
  · rfl
  · simp [mulPlain, mul, added, scaled, ofConstant, known]

theorem mulPlain_eq_mul_left {first : ℝ} (known : operand.value = number first) :
    mulPlain operand (number constant) = mul (ofConstant (number constant)) operand := by
  ext place inRange
  · exact LawfulScalar.mul_comm _ _
  · simp [mulPlain, mul, added, scaled, ofConstant, known]

theorem divPlain_eq_div (defined : operand.value / number constant = number value) :
    divPlain operand (number constant) = div operand (ofConstant (number constant)) := by
  ext place inRange
  · rfl
  · simp [divPlain, div, subtracted, scaled, ofConstant, defined]

theorem plainDiv_eq_div (defined : number constant / operand.value = number value) :
    plainDiv (number constant) operand = div (ofConstant (number constant)) operand := by
  obtain ⟨-, divisor, -, known, nonzero, -⟩ := PartialReal.div_eq_number.mp defined
  rw [known] at defined
  ext place inRange
  · rfl
  · simp only [plainDiv, div, subtracted, scaled, negated, ofConstant, known, defined,
      Vector.getElem_map, Vector.getElem_zipWith, Vector.getElem_replicate,
      Scalar.zero_partialReal, PartialReal.number_zero_sub]
    cases operand.partials[place] with
    | undefined => rfl
    | number partialDerivative =>
        simp only [PartialReal.neg_number, PartialReal.number_mul,
          PartialReal.number_div_of_ne _ nonzero]
        congr 1
        ring

section Powers

variable {place : Nat} (inRange : place < size)

/-- The rule for two duals gives a power with a constant exponent the derivative of its base
alone. -/
theorem partials_power_ofConstant
    (defined : Scalar.power operand.value (number constant) = number value) :
    (power operand (ofConstant (number constant))).partials[place] =
      operand.partials[place] *
        (number constant * Scalar.power operand.value (number (constant - 1))) := by
  unfold power
  split_ifs with positive
  · obtain ⟨base, known, above⟩ := Scalar.isPositive_partialReal.mp positive
    rw [known] at defined
    simp [added, scaled, ofConstant, known, defined, Scalar.log_number, above]
  · simp [scaled, ofConstant]

/-- The rule for a plain exponent has an exception for zero. -/
theorem partials_powerPlain :
    (powerPlain operand (number constant)).partials[place] =
      operand.partials[place] * if constant = 0 then number 0 else
        number constant * Scalar.power operand.value (number (constant - 1)) := by
  by_cases zero : constant = 0 <;> simp [powerPlain, zero, scaled]

theorem partials_powerPlain_eq_iff
    (defined : Scalar.power operand.value (number constant) = number value) :
    (powerPlain operand (number constant)).partials[place] =
        (power operand (ofConstant (number constant))).partials[place] ↔
      ¬Side.right.IsSingular constant operand.value operand.partials[place] := by
  rw [partials_power_ofConstant inRange defined, partials_powerPlain]
  split_ifs with zero
  · subst zero
    rw [zero_sub]
    rcases operand.value with _ | base
    · rw [PartialReal.power_undefined (by simp)]
      cases operand.partials[place] <;> simp [Side.IsSingular]
    · by_cases atZero : base = 0
      · cases operand.partials[place] <;> simp [Side.IsSingular, atZero]
      · simp [Side.IsSingular, atZero, PartialReal.power_neg_one atZero]
  · cases operand.value <;> simp [Side.IsSingular, zero]

/-- The rule for two duals takes the logarithm of a constant base only if it has one. -/
theorem partials_ofConstant_power {exponent : ℝ} (known : operand.value = number exponent) :
    (power (ofConstant (number constant)) operand).partials[place] =
      if 0 < constant then
        operand.partials[place] * number (constant ^ exponent * Real.log constant)
      else number 0 *
        (number exponent * Scalar.power (number constant) (number (exponent - 1))) := by
  split_ifs with positive
  · have powers (exponent : ℝ) :
        Scalar.power (number constant) (number exponent) = number (constant ^ exponent) := by
      rw [PartialReal.power_number,
        PartialReal.realPower_of_hasPower (PartialReal.hasPower_of_pos positive exponent)]
    simp [power, ofConstant, positive, known, powers, added, scaled, Scalar.log_number]
  · simp [power, ofConstant, positive, known, scaled]

/-- The rule for a plain base takes the logarithm of every base but zero. -/
theorem partials_plainPower {exponent : ℝ} (known : operand.value = number exponent)
    (defined : Scalar.power (number constant) (number exponent) = number value) :
    (plainPower (number constant) operand).partials[place] =
      operand.partials[place] * if constant = 0 then number 0 else
        number value * Scalar.log (number constant) := by
  by_cases zero : constant = 0 <;> simp [plainPower, zero, scaled, known, defined]

theorem partials_plainPower_eq_iff {exponent : ℝ} (known : operand.value = number exponent)
    (defined : Scalar.power (number constant) (number exponent) = number value) :
    (plainPower (number constant) operand).partials[place] =
        (power (ofConstant (number constant)) operand).partials[place] ↔
      ¬Side.left.IsSingular constant operand.value operand.partials[place] := by
  rw [partials_plainPower inRange known defined, partials_ofConstant_power inRange known, known]
  rw [PartialReal.power_number, PartialReal.realPower_eq_number] at defined
  obtain ⟨has, rfl⟩ := defined
  rcases lt_trichotomy constant 0 with negative | rfl | positive
  · obtain ⟨whole, rfl⟩ := (PartialReal.hasPower_neg_iff negative).mp has
    have before : PartialReal.HasPower constant (whole - 1) :=
      (PartialReal.hasPower_neg_iff negative).mpr ⟨whole - 1, by push_cast; ring⟩
    simp [Side.IsSingular, negative, negative.ne, negative.not_gt, Scalar.log_number,
      PartialReal.power_number, PartialReal.realPower_of_hasPower before]
  · rw [PartialReal.power_number]
    by_cases below : exponent < 1
    · rw [PartialReal.realPower_of_not_hasPower (by simp [PartialReal.hasPower_zero_iff, below])]
      cases operand.partials[place] <;> simp [Side.IsSingular, below]
    · rw [PartialReal.realPower_of_hasPower (PartialReal.hasPower_zero_iff.mpr (by linarith))]
      cases operand.partials[place] <;> simp [Side.IsSingular, below]
  · simp [Side.IsSingular, positive, positive.ne', positive.not_gt, Scalar.log_number]

end Powers

/-- The rules for a constant on the right give the same derivative outside singular powers. -/
theorem partials_arithmeticPlain_eq_iff (operation : Arithmetic) {place : Nat}
    (inRange : place < size)
    (defined : Scalar.arithmetic operation operand.value (number constant) = number value) :
    (arithmeticPlain operation operand (number constant)).partials[place] =
        (arithmetic operation operand (ofConstant (number constant))).partials[place] ↔
      ¬((Operation.operator operation).isPower ∧
        Side.right.IsSingular constant operand.value operand.partials[place]) := by
  cases operation with
  | add => simp [arithmeticPlain, arithmetic, addPlain_eq_add, Operation.isPower]
  | sub => simp [arithmeticPlain, arithmetic, subPlain_eq_sub, Operation.isPower]
  | mul =>
      obtain ⟨_, _, known, -⟩ := PartialReal.mul_eq_number.mp defined
      simp [arithmeticPlain, arithmetic, mulPlain_eq_mul known, Operation.isPower]
  | div => simp [arithmeticPlain, arithmetic, divPlain_eq_div defined, Operation.isPower]
  | power =>
      simpa [arithmeticPlain, arithmetic, Operation.isPower] using
        partials_powerPlain_eq_iff inRange defined

/-- So do the rules for a constant on the left. -/
theorem partials_plainArithmetic_eq_iff (operation : Arithmetic) {place : Nat}
    (inRange : place < size)
    (defined : Scalar.arithmetic operation (number constant) operand.value = number value) :
    (plainArithmetic operation (number constant) operand).partials[place] =
        (arithmetic operation (ofConstant (number constant)) operand).partials[place] ↔
      ¬((Operation.operator operation).isPower ∧
        Side.left.IsSingular constant operand.value operand.partials[place]) := by
  cases operation with
  | add => simp [plainArithmetic, arithmetic, addPlain_eq_add_left, Operation.isPower]
  | sub => simp [plainArithmetic, arithmetic, plainSub_eq_sub, Operation.isPower]
  | mul =>
      obtain ⟨_, _, -, known, -⟩ := PartialReal.mul_eq_number.mp defined
      simp [plainArithmetic, arithmetic, mulPlain_eq_mul_left known, Operation.isPower]
  | div => simp [plainArithmetic, arithmetic, plainDiv_eq_div defined, Operation.isPower]
  | power =>
      obtain ⟨exponent, known⟩ := PartialReal.exponent_of_power_eq_number defined
      rw [Scalar.arithmetic, known] at defined
      simpa [plainArithmetic, arithmetic, Operation.isPower] using
        partials_plainPower_eq_iff inRange known defined

end Dual

namespace Jet

variable {size : Nat} (left right : Jet PartialReal size)

/-- The smaller of two jets has the derivatives of the one that is chosen. -/
theorem partials_smaller : (NumberSystem.smaller left right : Jet PartialReal size).partials =
    if Scalar.le left.value right.value then left.partials else right.partials :=
  apply_ite partials _ left right

theorem partials_larger : (NumberSystem.larger left right : Jet PartialReal size).partials =
    if Scalar.le right.value left.value then left.partials else right.partials :=
  apply_ite partials _ left right

end Jet

namespace Operation

variable {size : Nat} {constant value : ℝ} {operand : Dual PartialReal size}

/-- Where the plain value is defined there is a result with this value, however the constant is
written. -/
theorem exists_beside? {operation : Operation} {side : Side} (written : Jet PartialReal size)
    (writes : written.value = number constant)
    (defined : operation.beside? side (number constant) operand.value = some (number value)) :
    ∃ result, operation.beside? side written (.dual operand) = some result ∧
      result.value = number value := by
  have mapped := operation.beside?_map Jet.isMorphism_value side written (.dual operand)
  rw [writes] at mapped
  exact Option.map_eq_some_iff.mp (mapped.symm.trans defined)

variable {side : Side} {plain dual : Jet PartialReal size} {place : Nat}

/-- The derivatives of an operator do not depend on how the constant is written, outside singular
powers. -/
theorem partials_operator_eq_iff {operation : Arithmetic}
    (defined : (operator operation).beside? side (number constant) operand.value =
      some (number value))
    (ofPlain : (operator operation).beside? side (.plain (number constant)) (.dual operand) =
      some plain)
    (ofDual : (operator operation).beside? side (.dual (.ofConstant (number constant)))
      (.dual operand) = some dual) (inRange : place < size) :
    plain.partials[place] = dual.partials[place] ↔
      ¬((operator operation).isPower ∧
        side.IsSingular constant operand.value operand.partials[place]) := by
  cases side with
  | left =>
      cases ofPlain
      cases ofDual
      exact Dual.partials_plainArithmetic_eq_iff operation inRange (Option.some.inj defined)
  | right =>
      cases ofPlain
      cases ofDual
      exact Dual.partials_arithmeticPlain_eq_iff operation inRange (Option.some.inj defined)

/-- The same holds of every operation: a function of two arguments is a power or a choice. -/
theorem partials_beside?_eq_iff {operation : Operation}
    (defined : operation.beside? side (number constant) operand.value = some (number value))
    (ofPlain : operation.beside? side (.plain (number constant)) (.dual operand) = some plain)
    (ofDual : operation.beside? side (.dual (.ofConstant (number constant))) (.dual operand) =
      some dual) (inRange : place < size) :
    plain.partials[place] = dual.partials[place] ↔
      ¬(operation.isPower ∧ side.IsSingular constant operand.value operand.partials[place]) := by
  cases operation with
  | operator operation => exact partials_operator_eq_iff defined ofPlain ofDual inRange
  | call function =>
      cases function with
      | pow =>
          rw [beside?_pow] at defined ofPlain ofDual
          exact partials_operator_eq_iff defined ofPlain ofDual inRange
      | min =>
          have same : plain.partials = dual.partials := by
            cases side <;> cases ofPlain <;> cases ofDual <;>
              rw [Jet.partials_smaller, Jet.partials_smaller] <;> rfl
          simp [same, isPower]
      | max =>
          have same : plain.partials = dual.partials := by
            cases side <;> cases ofPlain <;> cases ofDual <;>
              rw [Jet.partials_larger, Jet.partials_larger] <;> rfl
          simp [same, isPower]
      | _ => cases side <;> cases defined

/-- A constant beside a dual may be written as a plain number or as a dual whose partial derivatives
are zero. Where the plain value is defined, both ways of writing it have a result with this value.
Each partial derivative is the same, undefined if it is undefined, unless the operation is a power
at a singular place. -/
theorem beside?_ofConstant (operation : Operation) (side : Side) {constant value : ℝ}
    (operand : Dual PartialReal size)
    (defined : operation.beside? side (number constant) operand.value = some (number value)) :
    ∃ plain dual : Jet PartialReal size,
      operation.beside? side (.plain (number constant)) (.dual operand) = some plain ∧
      operation.beside? side (.dual (.ofConstant (number constant))) (.dual operand) = some dual ∧
      plain.value = number value ∧ dual.value = number value ∧
      ∀ (place : Nat) (inRange : place < size),
        plain.partials[place] = dual.partials[place] ↔
          ¬(operation.isPower ∧
            side.IsSingular constant operand.value operand.partials[place]) := by
  obtain ⟨plain, ofPlain, plainValue⟩ := exists_beside? (.plain (number constant)) rfl defined
  obtain ⟨dual, ofDual, dualValue⟩ :=
    exists_beside? (.dual (.ofConstant (number constant))) rfl defined
  exact ⟨plain, dual, ofPlain, ofDual, plainValue, dualValue, fun place inRange =>
    partials_beside?_eq_iff defined ofPlain ofDual inRange⟩

/-- `2^x` at three, with a derivative of one. -/
theorem beside?_ofConstant_power :
    ∃ plain dual : Jet PartialReal 1,
      (operator .power).beside? .left (.plain (number 2)) (.dual ⟨number 3, #v[number 1]⟩) =
        some plain ∧
      (operator .power).beside? .left (.dual (.ofConstant (number 2)))
        (.dual ⟨number 3, #v[number 1]⟩) = some dual ∧
      plain.value = number 8 ∧ dual.value = number 8 ∧ plain.partials = dual.partials := by
  have defined : (operator .power).beside? .left (number 2) (number 3) = some (number 8) := by
    refine congrArg some ((PartialReal.power_natCast 2 3).trans ?_)
    norm_num
  obtain ⟨plain, dual, ofPlain, ofDual, plainValue, dualValue, same⟩ :=
    beside?_ofConstant (operator .power) .left ⟨number 3, #v[number 1]⟩ defined
  refine ⟨plain, dual, ofPlain, ofDual, plainValue, dualValue,
    Vector.ext fun place inRange => (same place inRange).mpr ?_⟩
  rintro ⟨-, singular⟩
  norm_num [Side.IsSingular] at singular

/-- Plain constants and constant duals are not interchangeable everywhere: `(-2)^x` at two is four
either way, and only the rule for a plain base leaves its derivative undefined. -/
theorem beside?_ofConstant_negative_base :
    ¬∀ (operation : Operation) (side : Side) (constant value : ℝ) (operand : Dual PartialReal 1),
      operation.beside? side (number constant) operand.value = some (number value) →
      ∃ plain dual : Jet PartialReal 1,
        operation.beside? side (.plain (number constant)) (.dual operand) = some plain ∧
        operation.beside? side (.dual (.ofConstant (number constant))) (.dual operand) =
          some dual ∧
        plain.value = dual.value ∧ plain.partials = dual.partials := by
  intro interchangeable
  have defined : (operator .power).beside? .left (number (-2)) (number 2) = some (number 4) := by
    refine congrArg some ((PartialReal.power_natCast (-2) 2).trans ?_)
    norm_num
  obtain ⟨plain, dual, ofPlain, ofDual, -, same⟩ :=
    interchangeable (operator .power) .left (-2) 4 ⟨number 2, #v[number 1]⟩ defined
  have regular := (partials_operator_eq_iff defined ofPlain ofDual one_pos).mp (by rw [same])
  exact regular ⟨rfl, .inl (by norm_num)⟩

end Operation

end Intertemporal
