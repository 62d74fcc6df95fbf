import Mathlib.LinearAlgebra.Pi
import Intertemporal.Proofs.Program.Simulations
import Intertemporal.Proofs.Program.Tangent

/-!
# Affine expressions

An expression is affine if sums, differences and signs put it together from series and from parts
that mention no series, along with products of which one factor mentions none and quotients of which
the denominator mentions none. In exact arithmetic its value is then a constant plus a linear
function of the series, and evaluating it on jets gives the same linear function of their
derivatives (`IsAffine.exists_isLinear`). The steady state may be seeded by other passes; it has
only to stand still in the one that is looked at. So the derivatives of the compiled expression with
respect to its series are the same at every point (`IsLinear.take_derivatives`).

No part needs its operands inside the domain of its operation. What exact arithmetic puts in the
place of a quotient by zero or of the logarithm of zero is one number for all values of the series,
and it has derivative zero.
-/

namespace Intertemporal

open Intertemporal.Gradient (derivativeAt seed seededInputs unseeded)

variable {α β γ : Type}

namespace Expression

/-- An expression that mentions no series. -/
def IsSeriesFree (expression : Expression α) : Prop :=
  ∀ reference, series reference ∉ expression.nodes

theorem IsSeriesFree.of_nodes {expression part : Expression α} (free : expression.IsSeriesFree)
    (inside : part.nodes ⊆ expression.nodes) : part.IsSeriesFree :=
  fun reference member => free reference (inside member)

theorem IsSeriesFree.covers {expression : Expression α} (free : expression.IsSeriesFree) :
    ({ expression.references with series := [] } : References).Covers expression := by
  intro node member
  have listed := expression.covers_references node member
  cases node with
  | series reference => exact absurd member (free reference)
  | _ => exact listed

/-- The value of an expression that mentions no series does not depend on them. -/
theorem IsSeriesFree.valueIn_eq [NumberSystem α β] {expression : Expression α}
    (free : expression.IsSeriesFree) (valuation : Valuation α β) (series : TimedVariable → β) :
    expression.valueIn { valuation with series } = expression.valueIn valuation :=
  valueIn_congr free.covers ⟨nofun, fun _ _ => rfl, fun _ _ => rfl⟩

/-- An expression that is affine in the series. The valuation gives values to the parts that mention
no series. -/
inductive IsAffine (valuation : Valuation ℝ ℝ) : Expression ℝ → Prop
  | fixed {expression : Expression ℝ} {value : ℝ} (free : expression.IsSeriesFree)
    (valued : expression.valueIn valuation = .ok value) : IsAffine valuation expression
  | series (reference : TimedVariable) : IsAffine valuation (.series reference)
  | unary (sign : Sign) {operand : Expression ℝ} (affine : IsAffine valuation operand) :
    IsAffine valuation (.unary sign operand)
  | add {left right : Expression ℝ} (affineLeft : IsAffine valuation left)
    (affineRight : IsAffine valuation right) : IsAffine valuation (.binary .add left right)
  | sub {left right : Expression ℝ} (affineLeft : IsAffine valuation left)
    (affineRight : IsAffine valuation right) : IsAffine valuation (.binary .sub left right)
  | mul {left right : Expression ℝ} (affineLeft : IsAffine valuation left)
    (affineRight : IsAffine valuation right) (free : left.IsSeriesFree ∨ right.IsSeriesFree) :
    IsAffine valuation (.binary .mul left right)
  | div {left right : Expression ℝ} (affineLeft : IsAffine valuation left)
    (affineRight : IsAffine valuation right) (free : right.IsSeriesFree) :
    IsAffine valuation (.binary .div left right)

end Expression

section Still

variable {size : Nat} {place : Fin size}

namespace Jet

variable {left right : Jet ℝ size}

/-- A jet that does not move with the input at a place. -/
def IsStill (jet : Jet ℝ size) (place : Fin size) : Prop :=
  getElem jet.partials place.val place.isLt = 0

theorem IsStill.negate (still : left.IsStill place) : left.negate.IsStill place := by
  rw [IsStill, partials_negate, still, neg_zero]

theorem IsStill.power (stillLeft : left.IsStill place) (stillRight : right.IsStill place) :
    (arithmetic .power left right).IsStill place := by
  cases right with
  | plain exponent => rw [IsStill, partials_power_plain, stillLeft, zero_mul]
  | dual exponent =>
      have stillExponent : exponent.partials[place.val] = 0 := stillRight
      cases left with
      | plain base =>
          by_cases none : base = 0 <;>
            simp [IsStill, arithmetic, partials, Dual.plainArithmetic, Dual.plainPower,
              Dual.scaled, none, stillExponent]
      | dual base =>
          have stillBase : base.partials[place.val] = 0 := stillLeft
          by_cases positive : 0 < base.value <;>
            simp [IsStill, arithmetic, partials, Dual.arithmetic, Dual.power, Dual.scaled,
              Dual.added, positive, stillBase, stillExponent]

theorem IsStill.arithmetic (operation : Arithmetic) (stillLeft : left.IsStill place)
    (stillRight : right.IsStill place) : (arithmetic operation left right).IsStill place := by
  cases operation with
  | add => rw [IsStill, partials_add, stillLeft, stillRight, add_zero]
  | sub => rw [IsStill, partials_sub, stillLeft, stillRight, sub_zero]
  | mul => rw [IsStill, partials_mul, stillLeft, stillRight, zero_mul, zero_mul, add_zero]
  | div => rw [IsStill, partials_div, stillLeft, stillRight, zero_mul, sub_zero, zero_div]
  | power => exact stillLeft.power stillRight

theorem IsStill.elementary (function : Elementary) (still : left.IsStill place) :
    (elementary function left).IsStill place := by
  rw [IsStill, partials_elementary, still, zero_mul]

theorem IsStill.smaller (stillLeft : left.IsStill place) (stillRight : right.IsStill place) :
    (smaller left right).IsStill place := by
  unfold Jet.smaller
  split
  · exact stillLeft
  · exact stillRight

theorem IsStill.larger (stillLeft : left.IsStill place) (stillRight : right.IsStill place) :
    (larger left right).IsStill place := by
  unfold Jet.larger
  split
  · exact stillLeft
  · exact stillRight

/-- Every operation takes jets that stand still to one that does. -/
theorem isSimulation_isStill :
    NumberSystem.IsSimulation fun jet _ : Jet ℝ size => jet.IsStill place where
  constant := partials_plain place
  negate := IsStill.negate
  arithmetic := fun operation _ _ _ _ => IsStill.arithmetic operation
  elementary := fun function _ _ => IsStill.elementary function
  smaller := IsStill.smaller
  larger := IsStill.larger

end Jet

end Still

section Linear

variable {size : Nat}

/-- Jets over a valuation whose steady states do not move with the input at a place. -/
structure Valuation.IsSteady (jets : Valuation ℝ (Jet ℝ size)) (place : Fin size)
    (valuation : Valuation ℝ ℝ) : Prop where
  steadyState : ∀ name, (jets.steadyState name).value = valuation.steadyState name ∧
    (jets.steadyState name).IsStill place
  parameter : jets.parameter = valuation.parameter

namespace Expression

variable {place : Fin size} {jets : Valuation ℝ (Jet ℝ size)} {valuation : Valuation ℝ ℝ}
  {expression left right : Expression ℝ}

/-- An expression that mentions no series does not move with one. -/
theorem IsSeriesFree.isStill (free : expression.IsSeriesFree)
    (still : ∀ name, (jets.steadyState name).IsStill place) {jet : Jet ℝ size}
    (valued : expression.valueIn jets = .ok jet) : jet.IsStill place := by
  have simulates : jets.Simulates (fun jet _ => jet.IsStill place)
      { expression.references with series := [] } jets :=
    ⟨nofun, fun name _ => still name, rfl⟩
  have results := valueIn_simulates Jet.isSimulation_isStill free.covers simulates
  rw [valued] at results
  cases results with
  | returned inside => exact inside

/-- An expression whose value is a constant plus a linear function of the series, and whose jets
have the same linear function of their derivatives. -/
structure IsLinear (expression : Expression ℝ) (valuation : Valuation ℝ ℝ) (base : ℝ)
    (slope : (TimedVariable → ℝ) →ₗ[ℝ] ℝ) : Prop where
  valueIn_eq : ∀ series, expression.valueIn { valuation with series } = .ok (base + slope series)
  partials_eq : ∀ {size : Nat} {place : Fin size} {jets : Valuation ℝ (Jet ℝ size)}
    {jet : Jet ℝ size}, jets.IsSteady place valuation → expression.valueIn jets = .ok jet →
      getElem jet.partials place.val place.isLt =
        slope fun reference => getElem (jets.series reference).partials place.val place.isLt

variable {base baseLeft baseRight : ℝ} {slope slopeLeft slopeRight : (TimedVariable → ℝ) →ₗ[ℝ] ℝ}

namespace IsLinear

/-- The jet of a linear expression holds its value. -/
theorem map_value_valueIn (linear : expression.IsLinear valuation base slope)
    (steady : jets.IsSteady place valuation) :
    (expression.valueIn jets).map Jet.value =
      .ok (base + slope fun reference => (jets.series reference).value) := by
  have same : jets.map Jet.value =
      { valuation with series := fun reference => (jets.series reference).value } := by
    simp only [Valuation.map, steady.parameter, (steady.steadyState _).1]
  rw [← expression.valueIn_map Jet.isMorphism_value, same, linear.valueIn_eq]

theorem value_eq (linear : expression.IsLinear valuation base slope)
    (steady : jets.IsSteady place valuation) {jet : Jet ℝ size}
    (valued : expression.valueIn jets = .ok jet) :
    jet.value = base + slope fun reference => (jets.series reference).value := by
  have mapped := linear.map_value_valueIn steady
  rw [valued] at mapped
  exact Except.ok.inj mapped

/-- Only an expression that mentions a series changes with one. -/
theorem slope_eq_zero (linear : expression.IsLinear valuation base slope)
    (free : expression.IsSeriesFree) : slope = 0 := by
  ext series
  have here := (free.valueIn_eq valuation series).symm.trans (linear.valueIn_eq series)
  have there := (free.valueIn_eq valuation 0).symm.trans (linear.valueIn_eq 0)
  have same := Except.ok.inj (here.symm.trans there)
  simpa using same

theorem of_isSeriesFree (free : expression.IsSeriesFree)
    (valued : expression.valueIn valuation = .ok base) : expression.IsLinear valuation base 0 where
  valueIn_eq series := by
    rw [free.valueIn_eq, valued, LinearMap.zero_apply, add_zero]
  partials_eq steady valuedJets := free.isStill (fun name => (steady.steadyState name).2) valuedJets

theorem series (valuation : Valuation ℝ ℝ) (reference : TimedVariable) :
    (Expression.series reference).IsLinear valuation 0 (LinearMap.proj reference) where
  valueIn_eq series := by
    rw [LinearMap.proj_apply, zero_add]
    rfl
  partials_eq _ valuedJets := by
    obtain rfl := Except.ok.inj valuedJets
    rfl

theorem negate (linear : expression.IsLinear valuation base slope) :
    (Expression.unary .minus expression).IsLinear valuation (-base) (-slope) where
  valueIn_eq series := by
    rw [valueIn, linear.valueIn_eq, LinearMap.neg_apply, ← neg_add]
    rfl
  partials_eq steady valuedJets := by
    obtain ⟨inner, valued, gave⟩ := bind_eq_ok.mp valuedJets
    obtain rfl := Except.ok.inj gave
    rw [LinearMap.neg_apply, ← linear.partials_eq steady valued]
    exact inner.partials_negate _

theorem add (linearLeft : left.IsLinear valuation baseLeft slopeLeft)
    (linearRight : right.IsLinear valuation baseRight slopeRight) :
    (Expression.binary .add left right).IsLinear valuation (baseLeft + baseRight)
      (slopeLeft + slopeRight) where
  valueIn_eq series := by
    rw [valueIn, linearLeft.valueIn_eq, linearRight.valueIn_eq, LinearMap.add_apply,
      add_add_add_comm]
    rfl
  partials_eq steady valuedJets := by
    obtain ⟨leftJet, valuedLeft, rest⟩ := bind_eq_ok.mp valuedJets
    obtain ⟨rightJet, valuedRight, gave⟩ := bind_eq_ok.mp rest
    obtain rfl := Except.ok.inj gave
    rw [LinearMap.add_apply, ← linearLeft.partials_eq steady valuedLeft,
      ← linearRight.partials_eq steady valuedRight]
    exact leftJet.partials_add rightJet _

theorem sub (linearLeft : left.IsLinear valuation baseLeft slopeLeft)
    (linearRight : right.IsLinear valuation baseRight slopeRight) :
    (Expression.binary .sub left right).IsLinear valuation (baseLeft - baseRight)
      (slopeLeft - slopeRight) where
  valueIn_eq series := by
    rw [valueIn, linearLeft.valueIn_eq, linearRight.valueIn_eq, LinearMap.sub_apply,
      ← add_sub_add_comm]
    rfl
  partials_eq steady valuedJets := by
    obtain ⟨leftJet, valuedLeft, rest⟩ := bind_eq_ok.mp valuedJets
    obtain ⟨rightJet, valuedRight, gave⟩ := bind_eq_ok.mp rest
    obtain rfl := Except.ok.inj gave
    rw [LinearMap.sub_apply, ← linearLeft.partials_eq steady valuedLeft,
      ← linearRight.partials_eq steady valuedRight]
    exact leftJet.partials_sub rightJet _

/-- A product of two linear expressions is linear if one of them is constant. -/
theorem mul (linearLeft : left.IsLinear valuation baseLeft slopeLeft)
    (linearRight : right.IsLinear valuation baseRight slopeRight)
    (constant : slopeLeft = 0 ∨ slopeRight = 0) :
    (Expression.binary .mul left right).IsLinear valuation (baseLeft * baseRight)
      (baseRight • slopeLeft + baseLeft • slopeRight) where
  valueIn_eq series := by
    rw [valueIn, linearLeft.valueIn_eq, linearRight.valueIn_eq]
    refine congrArg Except.ok ?_
    change (baseLeft + slopeLeft series) * (baseRight + slopeRight series) = _
    rcases constant with rfl | rfl <;> simp <;> ring
  partials_eq steady valuedJets := by
    obtain ⟨leftJet, valuedLeft, rest⟩ := bind_eq_ok.mp valuedJets
    obtain ⟨rightJet, valuedRight, gave⟩ := bind_eq_ok.mp rest
    obtain rfl := Except.ok.inj gave
    refine (leftJet.partials_mul rightJet _).trans ?_
    rw [linearLeft.partials_eq steady valuedLeft, linearRight.partials_eq steady valuedRight,
      linearLeft.value_eq steady valuedLeft, linearRight.value_eq steady valuedRight]
    rcases constant with rfl | rfl <;> simp <;> ring

/-- A quotient of linear expressions is linear if the denominator is constant. -/
theorem div (linearLeft : left.IsLinear valuation baseLeft slopeLeft)
    (linearRight : right.IsLinear valuation baseRight slopeRight) (constant : slopeRight = 0) :
    (Expression.binary .div left right).IsLinear valuation (baseLeft / baseRight)
      (baseRight⁻¹ • slopeLeft) where
  valueIn_eq series := by
    rw [valueIn, linearLeft.valueIn_eq, linearRight.valueIn_eq]
    refine congrArg Except.ok ?_
    change (baseLeft + slopeLeft series) / (baseRight + slopeRight series) = _
    simp [constant]
    ring
  partials_eq steady valuedJets := by
    obtain ⟨leftJet, valuedLeft, rest⟩ := bind_eq_ok.mp valuedJets
    obtain ⟨rightJet, valuedRight, gave⟩ := bind_eq_ok.mp rest
    obtain rfl := Except.ok.inj gave
    refine (leftJet.partials_div rightJet _).trans ?_
    rw [linearLeft.partials_eq steady valuedLeft, linearRight.partials_eq steady valuedRight,
      linearRight.value_eq steady valuedRight]
    simp [constant]
    ring

end IsLinear

/-- The value of an affine expression is a constant plus a linear function of the series. -/
theorem IsAffine.exists_isLinear (affine : expression.IsAffine valuation) :
    ∃ base slope, expression.IsLinear valuation base slope := by
  induction affine with
  | fixed free valued => exact ⟨_, 0, .of_isSeriesFree free valued⟩
  | series reference => exact ⟨0, _, .series valuation reference⟩
  | unary sign _ ih =>
      obtain ⟨base, slope, linear⟩ := ih
      cases sign with
      | plus => exact ⟨base, slope, ⟨linear.valueIn_eq, linear.partials_eq⟩⟩
      | minus => exact ⟨_, _, linear.negate⟩
  | add _ _ ihLeft ihRight =>
      obtain ⟨_, _, linearLeft⟩ := ihLeft
      obtain ⟨_, _, linearRight⟩ := ihRight
      exact ⟨_, _, linearLeft.add linearRight⟩
  | sub _ _ ihLeft ihRight =>
      obtain ⟨_, _, linearLeft⟩ := ihLeft
      obtain ⟨_, _, linearRight⟩ := ihRight
      exact ⟨_, _, linearLeft.sub linearRight⟩
  | mul _ _ free ihLeft ihRight =>
      obtain ⟨_, _, linearLeft⟩ := ihLeft
      obtain ⟨_, _, linearRight⟩ := ihRight
      have constant := free.imp linearLeft.slope_eq_zero linearRight.slope_eq_zero
      exact ⟨_, _, linearLeft.mul linearRight constant⟩
  | div _ _ free ihLeft ihRight =>
      obtain ⟨_, _, linearLeft⟩ := ihLeft
      obtain ⟨_, _, linearRight⟩ := ihRight
      exact ⟨_, _, linearLeft.div linearRight (linearRight.slope_eq_zero free)⟩

end Expression

end Linear

section Moving

variable {references : References} {valuation : Valuation ℝ ℝ}

/-- The jets of a valuation in which one series moves. -/
noncomputable def Valuation.moving (valuation : Valuation ℝ ℝ) (moved : TimedVariable) :
    Valuation ℝ (Jet ℝ 1) where
  series reference :=
    .dual ⟨valuation.series reference, if reference = moved then seed 1 0 else unseeded 1⟩
  steadyState name := .dual ⟨valuation.steadyState name, unseeded 1⟩
  parameter := valuation.parameter

theorem Valuation.isSteady_moving (valuation : Valuation ℝ ℝ) (series : TimedVariable → ℝ)
    (moved : TimedVariable) :
    (moving { valuation with series } moved).IsSteady 0 valuation := by
  refine ⟨fun name => ⟨rfl, ?_⟩, rfl⟩
  simp [Jet.IsStill, moving, Jet.partials, unseeded]

/-- A pass over the input of one series alone sees that series move. -/
theorem References.seededInputs_inputsOf (different : references.IsDistinct) {index : Nat}
    (inRange : index < references.series.length) :
    seededInputs 1 (references.inputsOf valuation) index =
      references.inputsOf (valuation.moving references.series[index]) := by
  apply List.ext_getElem
  · simp [seededInputs, inputsOf]
  · intro slot _ _
    simp only [seededInputs, List.getElem_mapIdx, inputsOf]
    rcases Nat.lt_or_ge slot references.series.length with isSeries | isLevel
    · have moves : index ≤ slot ∧ slot < index + 1 ↔
          references.series[slot] = references.series[index] := by
        rw [different.series.getElem_inj_iff]
        omega
      simp only [moves]
      rw [List.getElem_append_left (by simpa using isSeries),
        List.getElem_append_left (by simpa using isSeries)]
      simp only [List.getElem_map, Valuation.moving]
      split
      · rename_i same
        rw [show slot - index = 0 by have := moves.mpr same; omega]
      · rfl
    · have still : ¬(index ≤ slot ∧ slot < index + 1) := by omega
      rw [if_neg still, List.getElem_append_right (by simpa using isLevel),
        List.getElem_append_right (by simpa using isLevel)]
      simp [Valuation.moving]

end Moving

section Linear

variable {references : References} {valuation : Valuation ℝ ℝ} {expression : Expression ℝ}
  {base : ℝ} {slope : (TimedVariable → ℝ) →ₗ[ℝ] ℝ}

namespace Expression.IsLinear

/-- The slope is made up of the slopes of the series that are referred to. -/
theorem slope_eq_sum (linear : expression.IsLinear valuation base slope)
    (covers : references.Covers expression) (different : references.IsDistinct)
    (series : TimedVariable → ℝ) :
    slope series = (references.series.map fun reference =>
      series reference * slope (Pi.single reference 1)).sum := by
  let listed : TimedVariable → ℝ :=
    ∑ reference ∈ references.series.toFinset, series reference • Pi.single reference 1
  have agree : Valuation.AgreesOn references { valuation with series }
      { valuation with series := listed } := by
    refine ⟨?_, fun _ _ => rfl, fun _ _ => rfl⟩
    intro reference member
    simp [listed, Finset.sum_apply, Pi.single_apply, member]
  have same := valueIn_congr covers agree
  rw [linear.valueIn_eq, linear.valueIn_eq] at same
  calc
    slope series = slope listed := add_left_cancel (Except.ok.inj same)
    _ = _ := by
      rw [map_sum, List.sum_toFinset _ different.series]
      simp

/-- The derivatives of a compiled linear expression with respect to its series. -/
theorem derivativeAt_eq (linear : expression.IsLinear valuation base slope)
    {program : Program ℝ} (compiled : expression.compile references = .ok program)
    (covers : references.Covers expression) (different : references.IsDistinct)
    {parameters : List (ParameterValue ℝ)}
    (bound : List.Forall₂ (fun name value => valuation.parameter name = some value)
      references.parameters parameters) (series : TimedVariable → ℝ) {index : Nat}
    (inRange : index < references.series.length) :
    derivativeAt program parameters (references.inputsOf { valuation with series }) index =
      .ok (slope (Pi.single references.series[index] 1)) := by
  let jets := Valuation.moving { valuation with series } references.series[index]
  have steady : jets.IsSteady 0 valuation := valuation.isSteady_moving series _
  have ran : Gradient.pass program parameters 1
      (references.inputsOf { valuation with series }) index =
      expression.valueIn jets := by
    rw [Gradient.pass, References.seededInputs_inputsOf different inRange]
    exact Expression.run_eq_valueIn compiled covers different bound (.plain 0)
  have unit : (fun reference => (jets.series reference).partials[(0 : Fin 1).val]) =
      Pi.single references.series[index] 1 := by
    funext reference
    by_cases same : reference = references.series[index]
    · simp [jets, Valuation.moving, Jet.partials, seed, same]
    · simp [jets, Valuation.moving, Jet.partials, unseeded, same]
  have mapped := linear.map_value_valueIn steady
  rw [derivativeAt, ran]
  rcases valued : expression.valueIn jets with reason | jet
  · rw [valued] at mapped
    cases mapped
  · rw [← unit, ← linear.partials_eq steady valued]
    rfl

/-- The derivatives with respect to series come first, and they are the same for all values. -/
theorem take_derivatives (linear : expression.IsLinear valuation base slope)
    {program : Program ℝ} (compiled : expression.compile references = .ok program)
    (covers : references.Covers expression) (different : references.IsDistinct)
    {parameters : List (ParameterValue ℝ)}
    (bound : List.Forall₂ (fun name value => valuation.parameter name = some value)
      references.parameters parameters) (series : TimedVariable → ℝ) {derivatives : List ℝ}
    (each : List.Forall₂ (fun index slope => derivativeAt program parameters
      (references.inputsOf { valuation with series }) index = .ok slope)
      (List.range references.inputCount) derivatives) :
    derivatives.take references.series.length =
      references.series.map fun reference => slope (Pi.single reference 1) := by
  have lengths : references.series.length ≤ derivatives.length := by
    rw [← each.length_eq, List.length_range]
    exact Nat.le_add_right _ _
  apply List.ext_getElem
  · simpa using lengths
  · intro index _ inRange
    have isSeries : index < references.series.length := by simpa using inRange
    have found := each.get (by rw [each.length_eq]; omega) (by omega : index < derivatives.length)
    simp only [List.get_eq_getElem, List.getElem_range] at found
    rw [linear.derivativeAt_eq compiled covers different bound series isSeries] at found
    rw [List.getElem_take, List.getElem_map, Except.ok.inj found]

end Expression.IsLinear

end Linear

end Intertemporal
