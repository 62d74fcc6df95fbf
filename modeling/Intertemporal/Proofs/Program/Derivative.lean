import Intertemporal.Proofs.Program.Tangent
import Intertemporal.Proofs.Program.Simulations

/-!
# Derivatives of expressions

In exact arithmetic, evaluating an expression on jets gives its value and its derivative along a
curve of valuations (`exists_isTangent`), provided that every subterm has its operands inside the
domain of its operation. This is one induction on the expression, over the tangent rules of the
operations. A power of a negative base is the only place where it is not enough to know that the
parts are tangent: there the exponent must be the same number all along the curve, which it is when
it mentions no input (`valueIn_jets_of_isInputFree`).
-/

namespace Intertemporal

/-- The elementary function that a built-in function computes. -/
def Function.elementary? : Function → Option Elementary
  | .log | .ln => some .log
  | .exp => some .exp
  | .sqrt => some .sqrt
  | .abs => some .abs
  | .sin => some .sin
  | .cos => some .cos
  | .tan => some .tan
  | .pow | .min | .max => none

theorem Function.apply_singleton_eq {α β : Type} [NumberSystem α β] (function : Function)
    (argument : β) :
    function.apply? [argument] =
      function.elementary?.map fun elementary => NumberSystem.elementary elementary argument := by
  cases function <;> rfl

namespace Expression

section Nodes

variable {α : Type}

/-- Nodes that are inputs of the compiled equation. -/
def IsInput : Expression α → Prop
  | .series _ | .steadyState _ => True
  | _ => False

/-- Expressions that mention no input. -/
def IsInputFree (expression : Expression α) : Prop := ∀ node ∈ expression.nodes, ¬node.IsInput

end Nodes

/-- The operands of a power with a derivative: the base is positive, or it is at least not zero and
the exponent is a constant integer. -/
def IsSmoothPower (valuation : Valuation ℝ ℝ) (base exponent : Expression ℝ) : Prop :=
  ∀ baseValue exponentValue, base.valueIn valuation = .ok baseValue →
    exponent.valueIn valuation = .ok exponentValue →
      0 < baseValue ∨
        baseValue ≠ 0 ∧ exponent.IsInputFree ∧ ∃ integer : ℤ, exponentValue = integer

/-- A node whose operands lie inside the domain of its operation. -/
def IsInDomain (valuation : Valuation ℝ ℝ) : Expression ℝ → Prop
  | .binary .div _ right => ∀ value, right.valueIn valuation = .ok value → value ≠ 0
  | .binary .power base exponent => IsSmoothPower valuation base exponent
  | .call .pow [base, exponent] => IsSmoothPower valuation base exponent
  | .call .min [left, right] | .call .max [left, right] =>
    ∀ leftValue rightValue, left.valueIn valuation = .ok leftValue →
      right.valueIn valuation = .ok rightValue → leftValue ≠ rightValue
  | .call function [argument] =>
    ∀ elementary ∈ function.elementary?, ∀ value, argument.valueIn valuation = .ok value →
      elementary.IsSmoothAt value
  | _ => True

/-- An expression of which every subterm has its operands inside the domain of its operation. -/
def IsRegular (valuation : Valuation ℝ ℝ) (expression : Expression ℝ) : Prop :=
  ∀ node ∈ expression.nodes, node.IsInDomain valuation

section Constants

variable {size : Nat} {jets : Valuation ℝ (Jet ℝ size)} {values : Valuation ℝ ℝ}

theorem IsInputFree.covers {expression : Expression ℝ} (inputFree : expression.IsInputFree) :
    ({ expression.references with series := [], steadyStates := [] } : References).Covers
      expression := by
  intro node member
  have listed := expression.covers_references node member
  cases node with
  | series | steadyState => exact absurd trivial (inputFree _ member)
  | _ => exact listed

/-- On jets, an expression that mentions no input is a plain number. -/
theorem valueIn_jets_of_isInputFree (sameParameters : jets.parameter = values.parameter)
    {expression : Expression ℝ} (inputFree : expression.IsInputFree) :
    expression.valueIn jets = (expression.valueIn values).map Jet.plain := by
  rw [← valueIn_map Jet.isMorphism_plain]
  exact valueIn_congr inputFree.covers ⟨nofun, nofun, fun name _ => congrFun sameParameters name⟩

end Constants

end Expression

/-- Jets that are tangent to a curve of valuations. Parameters do not move along the curve. -/
structure Valuation.IsTangent {size : Nat} (jets : Valuation ℝ (Jet ℝ size)) (place : Fin size)
    (curve : ℝ → Valuation ℝ ℝ) (time : ℝ) : Prop where
  series : ∀ reference,
    (jets.series reference).IsTangent place (fun time => (curve time).series reference) time
  steadyState : ∀ name,
    (jets.steadyState name).IsTangent place (fun time => (curve time).steadyState name) time
  parameter : ∀ time, (curve time).parameter = jets.parameter

/-- An expression has a value all along a curve of valuations, and a jet tangent to its values. -/
structure Expression.HasTangent {size : Nat} (expression : Expression ℝ)
    (jets : Valuation ℝ (Jet ℝ size)) (place : Fin size) (curve : ℝ → Valuation ℝ ℝ) (time : ℝ)
    (values : ℝ → ℝ) (jet : Jet ℝ size) : Prop where
  valueIn_curve : ∀ time, expression.valueIn (curve time) = .ok (values time)
  valueIn_jets : expression.valueIn jets = .ok jet
  isTangent : jet.IsTangent place values time

namespace Expression

section Operations

variable {size : Nat} {jets : Valuation ℝ (Jet ℝ size)} {place : Fin size}
  {curve : ℝ → Valuation ℝ ℝ} {time : ℝ} {left right : Expression ℝ} {first second : ℝ → ℝ}
  {leftJet rightJet : Jet ℝ size}

/-- The power of operands with tangents is tangent to the power. -/
theorem IsSmoothPower.isTangent (tangent : jets.IsTangent place curve time)
    (smooth : IsSmoothPower (curve time) left right)
    (hasLeft : left.HasTangent jets place curve time first leftJet)
    (hasRight : right.HasTangent jets place curve time second rightJet) :
    (Jet.arithmetic .power leftJet rightJet).IsTangent place
      (fun time => Scalar.power (first time) (second time)) time := by
  simp only [Scalar.power_real]
  rcases smooth _ _ (hasLeft.valueIn_curve time) (hasRight.valueIn_curve time) with
    positive | ⟨nonzero, inputFree, _⟩
  · exact hasLeft.isTangent.power hasRight.isTangent positive
  · -- the exponent is one plain number, and it is the same number all along the curve
    have fixed : ∀ instant, rightJet = .plain (second instant) := by
      intro instant
      have plain := valueIn_jets_of_isInputFree (tangent.parameter instant).symm inputFree
      rw [hasRight.valueIn_jets, hasRight.valueIn_curve] at plain
      exact Except.ok.inj plain
    have same : ∀ instant, second instant = second time := by
      intro instant
      exact Jet.plain.inj ((fixed instant).symm.trans (fixed time))
    simp only [same, fixed time]
    exact hasLeft.isTangent.power_plain nonzero (second time)

theorem IsInDomain.isTangent_arithmetic (tangent : jets.IsTangent place curve time)
    {operation : Arithmetic} (inDomain : (binary operation left right).IsInDomain (curve time))
    (hasLeft : left.HasTangent jets place curve time first leftJet)
    (hasRight : right.HasTangent jets place curve time second rightJet) :
    (Jet.arithmetic operation leftJet rightJet).IsTangent place
      (fun time => Scalar.arithmetic operation (first time) (second time)) time := by
  cases operation with
  | add => exact hasLeft.isTangent.add hasRight.isTangent
  | sub => exact hasLeft.isTangent.sub hasRight.isTangent
  | mul => exact hasLeft.isTangent.mul hasRight.isTangent
  | div =>
      exact hasLeft.isTangent.div hasRight.isTangent (inDomain _ (hasRight.valueIn_curve time))
  | power => exact IsSmoothPower.isTangent tangent inDomain hasLeft hasRight

theorem HasTangent.parameter (tangent : jets.IsTangent place curve time) {name : String}
    {index : Option Int} {value : ℝ}
    (valued : (Expression.parameter name index).valueIn (curve time) = .ok value) :
    (Expression.parameter name index).HasTangent jets place curve time (fun _ => value)
      (.plain value) where
  valueIn_curve instant := by
    have sameParameters := (tangent.parameter instant).trans (tangent.parameter time).symm
    rw [← valued]
    cases index <;> simp only [valueIn, Valuation.parameterOf, sameParameters]
  valueIn_jets := by
    have inputFree : (Expression.parameter name index : Expression ℝ).IsInputFree := by
      intro node member
      rw [nodes, List.mem_singleton] at member
      exact member ▸ id
    rw [valueIn_jets_of_isInputFree (tangent.parameter time).symm inputFree, valued]
    rfl
  isTangent := .of_constant value time place

theorem HasTangent.minus (hasOperand : left.HasTangent jets place curve time first leftJet) :
    (unary .minus left).HasTangent jets place curve time (fun time => -first time)
      leftJet.negate where
  valueIn_curve instant := by
    simp only [valueIn, hasOperand.valueIn_curve]
    rfl
  valueIn_jets := by
    simp only [valueIn, hasOperand.valueIn_jets]
    rfl
  isTangent := hasOperand.isTangent.negate

theorem HasTangent.arithmetic (tangent : jets.IsTangent place curve time)
    {operation : Arithmetic} (inDomain : (binary operation left right).IsInDomain (curve time))
    (hasLeft : left.HasTangent jets place curve time first leftJet)
    (hasRight : right.HasTangent jets place curve time second rightJet) :
    (binary operation left right).HasTangent jets place curve time
      (fun time => Scalar.arithmetic operation (first time) (second time))
      (Jet.arithmetic operation leftJet rightJet) where
  valueIn_curve instant := by
    simp only [valueIn, hasLeft.valueIn_curve, hasRight.valueIn_curve]
    rfl
  valueIn_jets := by
    simp only [valueIn, hasLeft.valueIn_jets, hasRight.valueIn_jets]
    rfl
  isTangent := inDomain.isTangent_arithmetic tangent hasLeft hasRight

/-- A call has a tangent if what the function makes of the jets is tangent to what it makes of the
values. -/
theorem HasTangent.of_applied {function : Function} {passed : List (Expression ℝ)}
    {given : ℝ → List ℝ} {givenJets : List (Jet ℝ size)} {values : ℝ → ℝ} {jet : Jet ℝ size}
    (collected : ∀ instant, valuesIn (curve instant) passed = .ok (given instant))
    (collectedJets : valuesIn jets passed = .ok givenJets)
    (applied : ∀ instant, function.apply? (given instant) = some (values instant))
    (appliedJets : function.apply? givenJets = some jet)
    (isTangent : jet.IsTangent place values time) :
    (call function passed).HasTangent jets place curve time values jet where
  valueIn_curve instant := by
    rw [valueIn, collected]
    exact Function.apply_eq_ok.mpr (applied instant)
  valueIn_jets := by
    rw [valueIn, collectedJets]
    exact Function.apply_eq_ok.mpr appliedJets
  isTangent := isTangent

theorem HasTangent.apply_singleton {function : Function} {argument : Expression ℝ} {value : ℝ}
    (hasArgument : argument.HasTangent jets place curve time first leftJet)
    (inDomain : (call function [argument]).IsInDomain (curve time))
    (applied : function.apply? [first time] = some value) :
    ∃ values jet, (call function [argument]).HasTangent jets place curve time values jet := by
  rw [Function.apply_singleton_eq] at applied
  obtain ⟨elementary, found, _⟩ := Option.map_eq_some_iff.mp applied
  have smooth : elementary.IsSmoothAt (first time) := by
    have valued := hasArgument.valueIn_curve time
    cases function <;> cases found <;> exact inDomain _ rfl _ valued
  have collected : ∀ instant, valuesIn (curve instant) [argument] = .ok [first instant] := by
    intro instant
    simp only [valuesIn, hasArgument.valueIn_curve, bind, Except.bind]
  have collectedJets : valuesIn jets [argument] = .ok [leftJet] := by
    simp only [valuesIn, hasArgument.valueIn_jets, bind, Except.bind]
  refine ⟨_, _, .of_applied collected collectedJets (fun instant => ?_) ?_
    (hasArgument.isTangent.elementary smooth)⟩ <;>
  · rw [Function.apply_singleton_eq, found]
    rfl

theorem HasTangent.apply_pair (tangent : jets.IsTangent place curve time) {function : Function}
    {value : ℝ} (hasLeft : left.HasTangent jets place curve time first leftJet)
    (hasRight : right.HasTangent jets place curve time second rightJet)
    (inDomain : (call function [left, right]).IsInDomain (curve time))
    (applied : function.apply? [first time, second time] = some value) :
    ∃ values jet, (call function [left, right]).HasTangent jets place curve time values jet := by
  have collected : ∀ instant,
      valuesIn (curve instant) [left, right] = .ok [first instant, second instant] := by
    intro instant
    simp only [valuesIn, hasLeft.valueIn_curve, hasRight.valueIn_curve, bind, Except.bind]
  have collectedJets : valuesIn jets [left, right] = .ok [leftJet, rightJet] := by
    simp only [valuesIn, hasLeft.valueIn_jets, hasRight.valueIn_jets, bind, Except.bind]
  cases function with
  | pow =>
      exact ⟨_, _, .of_applied collected collectedJets (fun _ => rfl) rfl
        (IsSmoothPower.isTangent tangent inDomain hasLeft hasRight)⟩
  | min =>
      have distinct := inDomain _ _ (hasLeft.valueIn_curve time) (hasRight.valueIn_curve time)
      exact ⟨_, _, .of_applied collected collectedJets (fun _ => rfl) rfl
        (hasLeft.isTangent.smaller hasRight.isTangent distinct)⟩
  | max =>
      have distinct := inDomain _ _ (hasLeft.valueIn_curve time) (hasRight.valueIn_curve time)
      exact ⟨_, _, .of_applied collected collectedJets (fun _ => rfl) rfl
        (hasLeft.isTangent.larger hasRight.isTangent distinct)⟩
  | _ => cases applied

/-- A call whose arguments have tangents has one if its arguments lie in its domain and are as many
as it takes. -/
theorem exists_hasTangent_call (tangent : jets.IsTangent place curve time) {function : Function}
    {arguments : List (Expression ℝ)} {value : ℝ}
    (inDomain : (call function arguments).IsInDomain (curve time))
    (each : ∀ argument ∈ arguments,
      ∃ values jet, argument.HasTangent jets place curve time values jet)
    (valued : (call function arguments).valueIn (curve time) = .ok value) :
    ∃ values jet, (call function arguments).HasTangent jets place curve time values jet := by
  obtain ⟨results, collected, applied⟩ := bind_eq_ok.mp valued
  rw [valuesIn_eq_mapM] at collected
  rw [Function.apply_eq_ok] at applied
  rcases arguments with _ | ⟨argument, _ | ⟨other, _ | ⟨third, rest⟩⟩⟩
  · cases collected
    cases function <;> cases applied
  · obtain ⟨first, jet, hasArgument⟩ := each argument List.mem_cons_self
    rw [List.mapM_cons, hasArgument.valueIn_curve] at collected
    cases collected
    exact hasArgument.apply_singleton inDomain applied
  · obtain ⟨first, leftJet, hasLeft⟩ := each argument List.mem_cons_self
    obtain ⟨second, rightJet, hasRight⟩ := each other (by simp)
    rw [List.mapM_cons, List.mapM_cons, hasLeft.valueIn_curve, hasRight.valueIn_curve] at collected
    cases collected
    exact hasLeft.apply_pair tangent hasRight inDomain applied
  · rcases mapM_eq_ok.mp collected with _ | ⟨_, _ | ⟨_, _ | ⟨_, _⟩⟩⟩
    cases function <;> cases applied

end Operations

theorem IsRegular.of_nodes {valuation : Valuation ℝ ℝ} {expression part : Expression ℝ}
    (regular : expression.IsRegular valuation) (inside : part.nodes ⊆ expression.nodes) :
    part.IsRegular valuation :=
  fun node member => regular node (inside member)

/-- Where an expression is regular and has a value, evaluating it on tangent jets gives a jet that
is tangent to its values. -/
theorem exists_hasTangent {size : Nat} {jets : Valuation ℝ (Jet ℝ size)} {place : Fin size}
    {curve : ℝ → Valuation ℝ ℝ} {time : ℝ} (tangent : jets.IsTangent place curve time)
    {expression : Expression ℝ} (regular : expression.IsRegular (curve time)) {value : ℝ}
    (valued : expression.valueIn (curve time) = .ok value) :
    ∃ values jet, expression.HasTangent jets place curve time values jet := by
  induction expression using Expression.induction generalizing value with
  | constant constant =>
      exact ⟨_, _, ⟨fun _ => rfl, rfl, .of_constant constant time place⟩⟩
  | series reference => exact ⟨_, _, ⟨fun _ => rfl, rfl, tangent.series reference⟩⟩
  | steadyState name => exact ⟨_, _, ⟨fun _ => rfl, rfl, tangent.steadyState name⟩⟩
  | parameter name index => exact ⟨_, _, .parameter tangent valued⟩
  | unary sign operand ih =>
      have regularOperand := regular.of_nodes (nodes_operand_subset sign operand)
      cases sign with
      | plus =>
          obtain ⟨values, jet, hasOperand⟩ := ih regularOperand valued
          exact ⟨values, jet, ⟨hasOperand.valueIn_curve, hasOperand.valueIn_jets,
            hasOperand.isTangent⟩⟩
      | minus =>
          obtain ⟨inner, valuedOperand, _⟩ := bind_eq_ok.mp valued
          obtain ⟨values, jet, hasOperand⟩ := ih regularOperand valuedOperand
          exact ⟨_, _, hasOperand.minus⟩
  | binary operation left right ihLeft ihRight =>
      have regularLeft := regular.of_nodes (nodes_left_subset operation left right)
      have regularRight := regular.of_nodes (nodes_right_subset operation left right)
      obtain ⟨leftValue, valuedLeft, rest⟩ := bind_eq_ok.mp valued
      obtain ⟨rightValue, valuedRight, _⟩ := bind_eq_ok.mp rest
      obtain ⟨first, leftJet, hasLeft⟩ := ihLeft regularLeft valuedLeft
      obtain ⟨second, rightJet, hasRight⟩ := ihRight regularRight valuedRight
      exact ⟨_, _, .arithmetic tangent (regular _ (mem_nodes_self _)) hasLeft hasRight⟩
  | call function arguments ih =>
      refine exists_hasTangent_call tangent (regular _ (mem_nodes_self _)) ?_ valued
      intro argument member
      obtain ⟨results, collected, _⟩ := bind_eq_ok.mp valued
      rw [valuesIn_eq_mapM] at collected
      obtain ⟨result, -, found⟩ := exists_of_mem_left (mapM_eq_ok.mp collected) member
      exact ih argument member (regular.of_nodes (nodes_argument_subset function member)) found

end Expression

end Intertemporal
