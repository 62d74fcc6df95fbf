import Intertemporal.Proofs.PartialReal
import Intertemporal.Proofs.Source.Ratios
import Intertemporal.Proofs.Source.Values

/-!
# Written ratios and calibrated ones

The ratio of an exponential window may be written as a number or be a parameter. Powers of a number
are computed when the text is read, and the sum of the weights with them; powers of a parameter are
part of the expression, and the average is a closed form in them. Both give the same value, also
where the weights sum to zero, unless the number is one up to a tolerance: then the window is read
as a plain one.

All of this is exact arithmetic in which a quotient by zero is undefined.
-/

namespace Intertemporal

open Source (Term)
open PartialReal (number)
open Resolved (computed combine)

namespace PartialReal

/-- Dividing by the sum of a geometric series is multiplying by the terms of its closed form. Where
the series sums to zero, neither is defined. -/
theorem div_geometric_sum {ratio : ℝ} (notOne : 1 - ratio ≠ 0) (power : ℝ) (sum : PartialReal) :
    sum / number ((1 - power) / (1 - ratio)) = sum * number (1 - ratio) / number (1 - power) := by
  cases sum with
  | undefined => simp
  | number sum =>
      rw [number_mul]
      by_cases zero : 1 - power = 0
      · rw [zero, zero_div, number_div_zero, number_div_zero]
      · rw [number_div_of_ne _ (div_ne_zero zero notOne), number_div_of_ne _ zero,
          div_div_eq_mul_div]

end PartialReal

namespace Source.Term

/-! ### Powers -/

theorem isNearOne_number (ratio : ℝ) :
    isNearOne (number ratio) = isOneUpTo ratioTolerance ratio := by
  rw [← isNearOne_real]
  simp only [isNearOne, Scalar.one_partialReal, Scalar.one_real, Scalar.ofDecimal_partialReal,
    PartialReal.number_sub, PartialReal.number_mul, Scalar.beq_number, Scalar.beq_real,
    Scalar.isFinite_number]
  rfl

theorem powerOf_number (ratio : ℝ) (exponent : Nat) :
    powerOf (number ratio) exponent = .ok (number (ratio ^ exponent)) := by
  have whole : ¬(Scalar.isZero (number ratio) = true ∧ (exponent : Int) < 0) := by omega
  simp only [powerOf, Scalar.ofInt?_partialReal, if_neg whole, Int.cast_natCast,
    Scalar.generalPower_number,
    PartialReal.realPower_of_hasPower (PartialReal.hasPower_natCast ratio exponent),
    Real.rpow_natCast, Scalar.isFinite_number]
  rfl

/-- The powers of a number are written as numbers. -/
def writtenPowers (ratio : ℝ) (lag periods : Nat) : List (Term PartialReal) :=
  (List.range' lag periods).map fun exponent => real (number (ratio ^ exponent))

theorem writtenPowers_succ (ratio : ℝ) (lag periods : Nat) :
    writtenPowers ratio lag (periods + 1) =
      real (number (ratio ^ lag)) :: writtenPowers ratio (lag + 1) periods := rfl

@[simp]
theorem length_writtenPowers (ratio : ℝ) (lag periods : Nat) :
    (writtenPowers ratio lag periods).length = periods := by simp [writtenPowers]

theorem ratioWeights_number (argument : Term PartialReal) (ratio : ℝ) (lag periods : Nat) :
    ratioWeights argument (number ratio) lag periods =
      weighted argument lag (writtenPowers ratio lag periods) := by
  induction periods generalizing lag with
  | zero => rfl
  | succ periods ih =>
      rw [ratioWeights, powerOf_number, ih, writtenPowers_succ, weighted]
      rfl

variable {symbols : SymbolTable} {valuation : Valuation PartialReal PartialReal}

theorem resolved_natural (value : Nat) :
    resolved symbols valuation (natural value) = computed (number value) := by
  rw [resolved, natural, Expression.ofTerm, Expression.ofLiteral, Scalar.ofInt?_partialReal,
    Int.cast_natCast]
  rfl

/-- A parameter whose name can stand in an equation, with a number as its value. -/
structure IsCalibrated (symbols : SymbolTable) (valuation : Valuation PartialReal PartialReal)
    (name : String) (value : ℝ) : Prop where
  declared : symbols.isParameter name = true
  other : symbols.isSeries name = false
  speakable : name ≠ timeName
  known : valuation.parameter name = some (.scalar (number value))

namespace IsCalibrated

variable {name : String} {ratio : ℝ} (calibrated : IsCalibrated symbols valuation name ratio)

include calibrated

theorem resolved : resolved symbols valuation (.name name) = computed (number ratio) := by
  have read : Expression.ofTerm symbols "" (Term.name name : Term PartialReal) =
      .ok (.parameter name none) :=
    Expression.ofTerm_eq_ok.mpr (.parameter calibrated.speakable calibrated.declared)
  rw [Term.resolved, read]
  change some (Expression.valueIn valuation (.parameter name none)) = _
  rw [Expression.valueIn, Valuation.parameterOf, calibrated.known]
  rfl

theorem resolved_power (exponent : Nat) :
    Term.resolved symbols valuation (.binary .power (.name name) (.natural exponent)) =
      computed (number (ratio ^ exponent)) := by
  rw [resolved_binary symbols valuation (rfl : BinaryOperator.power.arithmetic? = some .power),
    calibrated.resolved, resolved_natural, Resolved.combine_computed,
    ← PartialReal.power_natCast ratio exponent]
  rfl

/-- The powers of a parameter have the values of the powers that are written for a number. -/
theorem resolved_symbolicWeights (lag periods : Nat) :
    (symbolicWeights (.name name) lag periods).map (Term.resolved symbols valuation) =
      (writtenPowers ratio lag periods).map (Term.resolved symbols valuation) := by
  induction periods generalizing lag with
  | zero => rfl
  | succ periods ih =>
      rw [symbolicWeights, List.map_cons, ih, calibrated.resolved_power, writtenPowers_succ,
        List.map_cons]
      rfl

end IsCalibrated

/-! ### Windows -/

/-- A number with signs in front stands for a scalar. -/
def IsWritten (term : Term PartialReal) (value : ℝ) : Prop :=
  ∃ quantity, term.number? = some quantity ∧ ratioOf quantity = .ok (number value)

section Expansions

variable {argument ratio : Term PartialReal} {value : ℝ} {periods : Nat}

theorem checkWindow_of_one_le {α : Type} (operator : Operator) (positive : 1 ≤ periods) :
    checkWindow operator periods = (.ok () : Except (Operator.Failure α) Unit) :=
  if_neg (by omega)

/-- A written ratio near one makes a plain window. -/
theorem exponentialSum_near (written : ratio.IsWritten value)
    (near : isOneUpTo ratioTolerance value = true) (positive : 1 ≤ periods) :
    argument.exponentialSum periods ratio = argument.movingSum periods := by
  obtain ⟨quantity, found, valued⟩ := written
  rw [exponentialSum, checkWindow_of_one_le _ positive, found]
  change (do
    let value ← ratioOf quantity
    if isNearOne value then argument.movingSum periods else _) = _
  rw [valued]
  exact if_pos ((isNearOne_number value).trans near)

theorem exponentialAverage_near (written : ratio.IsWritten value)
    (near : isOneUpTo ratioTolerance value = true) :
    argument.exponentialAverage periods ratio = argument.movingAverage periods := by
  obtain ⟨quantity, found, valued⟩ := written
  rw [exponentialAverage, found]
  change (do
    let value ← ratioOf quantity
    if isNearOne value then argument.movingAverage periods else _) = _
  rw [valued]
  exact if_pos ((isNearOne_number value).trans near)

/-- Any other written ratio has its powers as weights. -/
theorem exponentialSum_far (written : ratio.IsWritten value)
    (far : isOneUpTo ratioTolerance value = false) (positive : 1 ≤ periods) :
    argument.exponentialSum periods ratio =
      weightedWindow argument (writtenPowers value 1 (periods - 1)) := by
  obtain ⟨quantity, found, valued⟩ := written
  rw [exponentialSum, checkWindow_of_one_le _ positive, found, weightedWindow,
    ← ratioWeights_number]
  change (do
    let value ← ratioOf quantity
    if isNearOne value then argument.movingSum periods
    else do
      let terms ← ratioWeights argument value 1 (periods - 1)
      .ok (sumOf argument terms)) = _
  rw [valued]
  change (if isNearOne (number value) = true then _ else _) = _
  rw [isNearOne_number, far, if_neg Bool.false_ne_true]
  rcases ratioWeights argument (number value) 1 (periods - 1) with _ | terms <;> rfl

theorem one_sub_ne_zero_of_far (far : isOneUpTo ratioTolerance value = false) : 1 - value ≠ 0 := by
  intro same
  have near : isOneUpTo ratioTolerance value = true := by
    rw [isOneUpTo, same, abs_zero, decide_eq_true_eq]
    have positive : 0 < ratioTolerance := by norm_num [ratioTolerance, Scalar.ofDecimal_real]
    positivity
  rw [far] at near
  cases near

/-- The average divides by the sum of the weights, computed at once. -/
theorem exponentialAverage_far (written : ratio.IsWritten value)
    (far : isOneUpTo ratioTolerance value = false) :
    argument.exponentialAverage periods ratio =
      (argument.exponentialSum periods ratio).map fun sum =>
        .binary .div sum (.real (number ((1 - value ^ periods) / (1 - value)))) := by
  have rest := one_sub_ne_zero_of_far far
  obtain ⟨quantity, found, valued⟩ := written
  have divisor : (Scalar.one - number (value ^ periods)) / (Scalar.one - number value) =
      number ((1 - value ^ periods) / (1 - value)) := by
    rw [Scalar.one_partialReal, PartialReal.number_sub, PartialReal.number_sub,
      PartialReal.number_div_of_ne _ rest]
  have defined : Scalar.isZero (Scalar.one - number value) = false := by
    rw [Scalar.one_partialReal, PartialReal.number_sub, Scalar.isZero_number]
    exact decide_eq_false rest
  rw [exponentialAverage, found]
  simp only [valued, bind, Except.bind, isNearOne_number, far, powerOf_number, defined, divisor,
    if_neg Bool.false_ne_true]
  rcases argument.exponentialSum periods ratio with _ | sum <;> rfl

/-- A ratio that is no number has its powers as weights. -/
theorem exponentialSum_name (name : String) (positive : 1 ≤ periods) :
    argument.exponentialSum periods (.name name) =
      weightedWindow argument (symbolicWeights (.name name) 1 (periods - 1)) := by
  rw [exponentialSum, checkWindow_of_one_le _ positive, weightedWindow]
  change (do
    let terms ← weighted argument 1 (symbolicWeights (.name name) 1 (periods - 1))
    .ok (sumOf argument terms)) = _
  rcases weighted argument 1 (symbolicWeights (.name name) 1 (periods - 1)) with _ | terms <;> rfl

theorem exponentialAverage_name (name : String) :
    argument.exponentialAverage periods (.name name) =
      ((argument.exponentialSum periods (.name name)).map fun sum =>
        binary .mul sum (.binary .sub (.natural 1) (.name name))).map fun product =>
          binary .div product
            (.binary .sub (.natural 1) (.binary .power (.name name) (.natural periods))) := by
  change (do
    let sum ← argument.exponentialSum periods (.name name)
    .ok (binary .div (.binary .mul sum (.binary .sub (.natural 1) (.name name)))
      (.binary .sub (.natural 1) (.binary .power (.name name) (.natural periods))))) = _
  rcases argument.exponentialSum periods (.name name) with _ | sum <;> rfl

end Expansions

/-! ### Values -/

section Values

variable {argument literal : Term PartialReal} {name : String} {ratio : ℝ} {periods : Nat}

theorem map_resolved_writtenPowers (lag count : Nat) :
    (writtenPowers ratio lag count).map (resolved symbols valuation) =
      (List.range' lag count).map fun exponent => computed (number (ratio ^ exponent)) := by
  rw [writtenPowers, List.map_map]
  rfl

/-- The powers of a parameter weigh a window like the powers that are written for its value. -/
theorem expanded_symbolicWeights (calibrated : IsCalibrated symbols valuation name ratio)
    (count : Nat) :
    expanded symbols valuation (weightedWindow argument (symbolicWeights (.name name) 1 count)) =
      expanded symbols valuation (weightedWindow argument (writtenPowers ratio 1 count)) := by
  have same := calibrated.resolved_symbolicWeights 1 count
  have length := congrArg List.length same
  rw [List.length_map, List.length_map] at length
  rw [expanded_weightedWindow, expanded_weightedWindow, same, length]

theorem expanded_exponentialSum (written : literal.IsWritten ratio)
    (calibrated : IsCalibrated symbols valuation name ratio) (positive : 1 ≤ periods)
    (unlike : isOneUpTo ratioTolerance ratio = true → ratio = 1) :
    expanded symbols valuation (argument.exponentialSum periods literal) =
      expanded symbols valuation (argument.exponentialSum periods (.name name)) := by
  rw [exponentialSum_name name positive, expanded_symbolicWeights calibrated]
  rcases near : isOneUpTo ratioTolerance ratio with _ | _
  · rw [exponentialSum_far written near positive]
  · -- the weights of a parameter that is one are all one
    obtain rfl := unlike near
    have plain : (writtenPowers 1 1 (periods - 1)).map (resolved symbols valuation) =
        List.replicate (writtenPowers 1 1 (periods - 1)).length (computed (number 1)) := by
      rw [map_resolved_writtenPowers]
      simp
    rw [exponentialSum_near written near positive, movingSum_eq_window argument positive,
      expanded_weightedWindow_of_neutral symbols valuation PartialReal.number_one_mul argument
        plain, length_writtenPowers]

theorem expanded_exponentialAverage (written : literal.IsWritten ratio)
    (calibrated : IsCalibrated symbols valuation name ratio) (positive : 1 ≤ periods)
    (far : isOneUpTo ratioTolerance ratio = false) :
    expanded symbols valuation (argument.exponentialAverage periods literal) =
      expanded symbols valuation (argument.exponentialAverage periods (.name name)) := by
  have sum : expanded symbols valuation (argument.exponentialSum periods literal) =
      expanded symbols valuation (argument.exponentialSum periods (.name name)) :=
    expanded_exponentialSum written calibrated positive fun near =>
      (Bool.false_ne_true (far.symm.trans near)).elim
  have quotient : BinaryOperator.div.arithmetic? = some .div := rfl
  have product : BinaryOperator.mul.arithmetic? = some .mul := rfl
  have difference : BinaryOperator.sub.arithmetic? = some .sub := rfl
  have closed (value : Resolved PartialReal) :
      combine .div value (computed (number ((1 - ratio ^ periods) / (1 - ratio)))) =
        combine .div (combine .mul value (computed (number (1 - ratio))))
          (computed (number (1 - ratio ^ periods))) := by
    -- what has no value or an error keeps it on both sides
    rcases value with _ | _ | value
    · rfl
    · rfl
    · exact congrArg computed
        (PartialReal.div_geometric_sum (one_sub_ne_zero_of_far far) (ratio ^ periods) value)
  have divisor : resolved symbols valuation
      (.real (number ((1 - ratio ^ periods) / (1 - ratio)))) =
        computed (number ((1 - ratio ^ periods) / (1 - ratio))) := rfl
  rw [exponentialAverage_far written far, exponentialAverage_name, expanded_binary _ _ quotient,
    expanded_binary _ _ quotient, expanded_binary _ _ product, sum, divisor,
    resolved_binary _ _ difference, resolved_binary _ _ difference,
    calibrated.resolved_power, calibrated.resolved, resolved_natural, Nat.cast_one]
  exact closed _

section Computed

variable (known : (resolved symbols valuation argument).IsComputed)

include known

theorem isComputed_movingSum (positive : 1 ≤ periods) :
    (expanded symbols valuation (argument.movingSum periods)).IsComputed := by
  rw [movingSum_eq_window argument positive]
  exact isComputed_window known (periods - 1)

theorem isComputed_movingAverage (positive : 1 ≤ periods) :
    (expanded symbols valuation (argument.movingAverage periods)).IsComputed := by
  have divided : argument.movingAverage periods =
      (argument.movingSum periods).map fun sum => binary .div sum (.natural periods) := by
    rw [movingAverage]
    rcases argument.movingSum periods with _ | sum <;> rfl
  rw [divided, expanded_binary _ _ (rfl : BinaryOperator.div.arithmetic? = some .div),
    resolved_natural]
  exact (isComputed_movingSum known positive).combine ⟨_, rfl⟩ .div

theorem isComputed_writtenPowers (count : Nat) :
    (expanded symbols valuation
      (weightedWindow argument (writtenPowers ratio 1 count))).IsComputed := by
  refine isComputed_weightedWindow known fun weight member => ?_
  obtain ⟨exponent, -, rfl⟩ := List.mem_map.mp member
  exact ⟨_, rfl⟩

theorem isComputed_exponentialSum (written : literal.IsWritten ratio) (positive : 1 ≤ periods) :
    (expanded symbols valuation (argument.exponentialSum periods literal)).IsComputed := by
  rcases near : isOneUpTo ratioTolerance ratio with _ | _
  · rw [exponentialSum_far written near positive]
    exact isComputed_writtenPowers known (periods - 1)
  · rw [exponentialSum_near written near positive]
    exact isComputed_movingSum known positive

theorem isComputed_exponentialAverage (written : literal.IsWritten ratio)
    (positive : 1 ≤ periods) :
    (expanded symbols valuation (argument.exponentialAverage periods literal)).IsComputed := by
  rcases near : isOneUpTo ratioTolerance ratio with _ | _
  · rw [exponentialAverage_far written near,
      expanded_binary _ _ (rfl : BinaryOperator.div.arithmetic? = some .div)]
    exact (isComputed_exponentialSum known written positive).combine ⟨_, rfl⟩ .div
  · rw [exponentialAverage_near written near]
    exact isComputed_movingAverage known positive

end Computed

/-- A number that is written as the ratio of a window and a parameter calibrated to it give the same
sum and the same average, unless the number is one up to the tolerance. Then the window is a plain
one, which has the same sum as that of a parameter that is one. Wherever the argument has a value,
so have the windows with a written ratio. This holds under every valuation, so at every date of
every trajectory. -/
theorem value_windowCall_of_written (positive : 1 ≤ periods) (written : literal.IsWritten ratio)
    (calibrated : IsCalibrated symbols valuation name ratio) :
    let sum (ratio : Term PartialReal) :=
      (windowCall .exponentialSum argument periods [ratio]).value symbols valuation
    let average (ratio : Term PartialReal) :=
      (windowCall .exponentialAverage argument periods [ratio]).value symbols valuation
    (isOneUpTo ratioTolerance ratio = false →
      sum literal = sum (.name name) ∧ average literal = average (.name name)) ∧
    (ratio = 1 → sum literal = sum (.name name)) ∧
    (isOneUpTo ratioTolerance ratio = true →
      sum literal = (windowCall .movingSum argument periods []).value symbols valuation ∧
      average literal = (windowCall .movingAverage argument periods []).value symbols valuation) ∧
    ((argument.value symbols valuation).IsComputed →
      (sum literal).IsComputed ∧ (average literal).IsComputed) := by
  have settledLiteral : ∀ other ∈ [literal], other.IsSettled symbols.seriesNames := by
    obtain ⟨quantity, found, -⟩ := written
    exact List.forall_mem_singleton.mpr (isSettled_of_number? found)
  have settledName : ∀ other ∈ [(.name name : Term PartialReal)],
      other.IsSettled symbols.seriesNames :=
    List.forall_mem_singleton.mpr
      (isSettled_name ((symbols.contains_seriesNames name).trans calibrated.other))
  have settledNothing : ∀ other ∈ ([] : List (Term PartialReal)),
      other.IsSettled symbols.seriesNames := by simp
  have sumOf (same : isOneUpTo ratioTolerance ratio = true → ratio = 1) :
      (windowCall .exponentialSum argument periods [literal]).value symbols valuation =
        (windowCall .exponentialSum argument periods [.name name]).value symbols valuation := by
    rw [value_windowCall _ _ _ settledLiteral, value_windowCall _ _ _ settledName]
    exact Option.bind_congr fun normal _ => expanded_exponentialSum written calibrated positive same
  intro sum average
  refine ⟨fun far => ⟨?_, ?_⟩, fun one => sumOf fun _ => one, fun near => ⟨?_, ?_⟩, ?_⟩
  · exact sumOf fun near => (Bool.false_ne_true (far.symm.trans near)).elim
  · simp only [average, value_windowCall _ _ _ settledLiteral, value_windowCall _ _ _ settledName]
    exact Option.bind_congr fun normal _ =>
      expanded_exponentialAverage written calibrated positive far
  · simp only [sum, value_windowCall _ _ _ settledLiteral, value_windowCall _ _ _ settledNothing]
    exact Option.bind_congr fun normal _ =>
      congrArg (expanded symbols valuation) (exponentialSum_near written near positive)
  · simp only [average, value_windowCall _ _ _ settledLiteral,
      value_windowCall _ _ _ settledNothing]
    exact Option.bind_congr fun normal _ =>
      congrArg (expanded symbols valuation) (exponentialAverage_near written near)
  · rintro ⟨result, known⟩
    obtain ⟨normal, found, known⟩ := Option.bind_eq_some_iff.mp known
    simp only [sum, average, value_windowCall _ _ _ settledLiteral, found]
    exact ⟨isComputed_exponentialSum ⟨result, known⟩ written positive,
      isComputed_exponentialAverage ⟨result, known⟩ written positive⟩

end Values

/-! ### A window over two dates -/

/-- A variable and a parameter. -/
def lagSymbols : SymbolTable where
  allVariables := [{ name := "x" }]
  parameters := [{ name := "r" }]

/-- The variable is as many periods old as it is lagged, and the parameter has a value. -/
noncomputable def lagValuation (ratio : ℝ) : Valuation PartialReal PartialReal where
  series reference := number (-reference.offset)
  steadyState _ := .undefined
  parameter name := if name = "r" then some (.scalar (number ratio)) else none

theorem isCalibrated_lagValuation (ratio : ℝ) :
    IsCalibrated lagSymbols (lagValuation ratio) "r" ratio :=
  ⟨by decide, by decide, by decide, rfl⟩

/-- A ratio of two, written and calibrated. -/
theorem value_windowCall_double :
    (1 ≤ 2 ∧ (natural 2 : Term PartialReal).IsWritten 2 ∧
      IsCalibrated lagSymbols (lagValuation 2) "r" 2 ∧ isOneUpTo ratioTolerance 2 = false ∧
      ((Term.name "x").value lagSymbols (lagValuation 2)).IsComputed) ∧
    ∀ operator ∈ [Operator.exponentialSum, Operator.exponentialAverage],
      (windowCall operator (.name "x") 2 [.natural 2]).value lagSymbols (lagValuation 2) =
        (windowCall operator (.name "x") 2 [.name "r"]).value lagSymbols (lagValuation 2) ∧
      ((windowCall operator (.name "x") 2 [.natural 2]).value lagSymbols
        (lagValuation 2)).IsComputed := by
  have far : isOneUpTo ratioTolerance 2 = false := by
    rw [isOneUpTo, decide_eq_false_iff_not, not_le]
    norm_num [ratioTolerance, Scalar.ofDecimal_real]
  have written : (natural 2 : Term PartialReal).IsWritten 2 :=
    ⟨.integer 2, rfl, by simp [ratioOf]⟩
  have known : ((Term.name "x").value lagSymbols (lagValuation 2)).IsComputed := ⟨_, rfl⟩
  obtain ⟨agree, -, -, defined⟩ :=
    @value_windowCall_of_written lagSymbols (lagValuation 2) (.name "x") (.natural 2) "r" 2 2
      (by decide) written (isCalibrated_lagValuation 2)
  refine ⟨⟨by decide, written, isCalibrated_lagValuation 2, far, known⟩, ?_⟩
  simp only [List.forall_mem_cons]
  exact ⟨⟨(agree far).1, (defined known).1⟩, ⟨(agree far).2, (defined known).2⟩, by simp⟩

section Lag

variable (ratio : ℝ)

theorem resolved_now :
    resolved lagSymbols (lagValuation ratio) (.subscript (.name "x") .time) =
      computed (number 0) := by
  change computed (number (-((0 : Int) : ℝ))) = _
  simp

theorem resolved_before :
    resolved lagSymbols (lagValuation ratio)
      (.subscript (.name "x") (.binary .sub .time (.natural 1))) = computed (number 1) := by
  change computed (number (-((-1 : Int) : ℝ))) = _
  simp

theorem value_sum_name :
    (windowCall .exponentialSum (.name "x") 2 [.name "r"]).value lagSymbols (lagValuation ratio) =
      computed (number ratio) := by
  change resolved lagSymbols (lagValuation ratio)
    (.binary .add (.subscript (.name "x") .time) (.binary .mul
      (.binary .power (.name "r") (.natural 1))
      (.subscript (.name "x") (.binary .sub .time (.natural 1))))) = _
  rw [resolved_binary _ _ (rfl : BinaryOperator.add.arithmetic? = some .add),
    resolved_binary _ _ (rfl : BinaryOperator.mul.arithmetic? = some .mul), resolved_now,
    resolved_before, (isCalibrated_lagValuation ratio).resolved_power]
  change computed (number (0 + ratio ^ 1 * 1)) = _
  simp

theorem value_average_name :
    (windowCall .exponentialAverage (.name "x") 2 [.name "r"]).value lagSymbols
        (lagValuation ratio) =
      computed (number (ratio * (1 - ratio)) / number (1 - ratio ^ 2)) := by
  have read : (windowCall .exponentialAverage (.name "x") 2 [.name "r"]).value lagSymbols
      (lagValuation ratio) = expanded lagSymbols (lagValuation ratio)
        ((subscript (.name "x") .time).exponentialAverage (2 : Nat) (.name "r")) := rfl
  have sum : expanded lagSymbols (lagValuation ratio)
      ((subscript (.name "x") .time).exponentialSum (2 : Nat) (.name "r")) =
        computed (number ratio) := value_sum_name ratio
  have difference : BinaryOperator.sub.arithmetic? = some .sub := rfl
  rw [read, exponentialAverage_name, expanded_binary _ _ (rfl : BinaryOperator.div.arithmetic? = _),
    expanded_binary _ _ (rfl : BinaryOperator.mul.arithmetic? = _), sum,
    resolved_binary _ _ difference, resolved_binary _ _ difference,
    (isCalibrated_lagValuation ratio).resolved_power, (isCalibrated_lagValuation ratio).resolved,
    resolved_natural, Nat.cast_one]
  rfl

variable {ratio} (near : isOneUpTo ratioTolerance ratio = true)

include near

theorem value_sum_near :
    (windowCall .exponentialSum (.name "x") 2 [.real (number ratio)]).value lagSymbols
      (lagValuation ratio) = computed (number 1) := by
  have written : (real (number ratio)).IsWritten ratio := ⟨.real _, rfl, rfl⟩
  change expanded lagSymbols (lagValuation ratio)
    ((subscript (.name "x") .time).exponentialSum (2 : Nat) (.real (number ratio))) = _
  rw [exponentialSum_near written near (by decide)]
  change resolved lagSymbols (lagValuation ratio) (.binary .add (.subscript (.name "x") .time)
    (.subscript (.name "x") (.binary .sub .time (.natural 1)))) = _
  rw [resolved_binary _ _ (rfl : BinaryOperator.add.arithmetic? = some .add), resolved_now,
    resolved_before]
  change computed (number (0 + 1)) = _
  rw [zero_add]

theorem value_average_near :
    (windowCall .exponentialAverage (.name "x") 2 [.real (number ratio)]).value lagSymbols
      (lagValuation ratio) = computed (number (1 / 2)) := by
  have written : (real (number ratio)).IsWritten ratio := ⟨.real _, rfl, rfl⟩
  change expanded lagSymbols (lagValuation ratio)
    ((subscript (.name "x") .time).exponentialAverage (2 : Nat) (.real (number ratio))) = _
  rw [exponentialAverage_near written near]
  change resolved lagSymbols (lagValuation ratio) (.binary .div
    (.binary .add (.subscript (.name "x") .time)
      (.subscript (.name "x") (.binary .sub .time (.natural 1)))) (.natural 2)) = _
  rw [resolved_binary _ _ (rfl : BinaryOperator.div.arithmetic? = some .div),
    resolved_binary _ _ (rfl : BinaryOperator.add.arithmetic? = some .add), resolved_now,
    resolved_before, resolved_natural]
  change computed (number (0 + 1) / number ((2 : Nat) : ℝ)) = _
  rw [PartialReal.number_div_of_ne _ (by norm_num), zero_add, Nat.cast_two]

end Lag

/-- A written ratio of `1.0000000005` makes plain windows, and a parameter of this value does not. A
parameter that is one has no average. In neither case do the weights sum to zero. -/
theorem value_windowCall_ne_of_near_one :
    let near : ℝ := 10000000005 / 10 ^ 10
    1 + near ≠ 0 ∧ (1 : ℝ) + 1 ≠ 0 ∧
      (windowCall .exponentialSum (.name "x") 2 [.real (number near)]).value lagSymbols
          (lagValuation near) ≠
        (windowCall .exponentialSum (.name "x") 2 [.name "r"]).value lagSymbols
          (lagValuation near) ∧
      (windowCall .exponentialAverage (.name "x") 2 [.real (number near)]).value lagSymbols
          (lagValuation near) ≠
        (windowCall .exponentialAverage (.name "x") 2 [.name "r"]).value lagSymbols
          (lagValuation near) ∧
      (windowCall .exponentialAverage (.name "x") 2 [.real (number 1)]).value lagSymbols
          (lagValuation 1) ≠
        (windowCall .exponentialAverage (.name "x") 2 [.name "r"]).value lagSymbols
          (lagValuation 1) := by
  intro near
  have close : isOneUpTo ratioTolerance near = true := by
    rw [isOneUpTo, decide_eq_true_eq]
    norm_num [near, ratioTolerance, Scalar.ofDecimal_real, abs_of_neg, abs_of_pos]
  have one : isOneUpTo ratioTolerance 1 = true := by
    rw [isOneUpTo, decide_eq_true_eq]
    norm_num [ratioTolerance, Scalar.ofDecimal_real]
  refine ⟨by norm_num [near], by norm_num, ?_, ?_, ?_⟩
  · rw [value_sum_near close, value_sum_name]
    norm_num [computed, near]
  · rw [value_average_near close, value_average_name,
      PartialReal.number_div_of_ne _ (by norm_num [near])]
    norm_num [computed, near]
  · rw [value_average_near one, value_average_name]
    norm_num [computed]
    rintro ⟨⟩

end Source.Term

end Intertemporal
