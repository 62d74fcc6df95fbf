import Intertemporal.Program.Basic

/-!
# The value of an expression

An expression has a value wherever its references have values. `Expression.valueIn` is defined on
the expression itself, without slots or lists of references; compiled programs are meant to agree
with it.
-/

namespace Intertemporal

/-- Values for everything that an expression can refer to. A parameter may have none. -/
structure Valuation (α β : Type) where
  series : TimedVariable → β
  steadyState : String → β
  parameter : String → Option (ParameterValue α)

namespace Valuation

variable {α β : Type}

/-- The value of a parameter. -/
def parameterOf (valuation : Valuation α β) (name : String) :
    Except ComputationError (ParameterValue α) :=
  match valuation.parameter name with
  | some value => .ok value
  | none => .error .missingParameter

end Valuation

namespace Expression

variable {α β : Type} [NumberSystem α β]

mutual

/-- The value of an expression. Operands are evaluated from left to right, and the first error is
the result. -/
def valueIn (valuation : Valuation α β) : Expression α → Except ComputationError β
  | .constant value => .ok (NumberSystem.constant value)
  | .series reference => .ok (valuation.series reference)
  | .steadyState name => .ok (valuation.steadyState name)
  | .parameter name none => do
    let value ← valuation.parameterOf name
    let scalar ← value.toScalar
    .ok (NumberSystem.constant scalar)
  | .parameter name (some index) => do
    let value ← valuation.parameterOf name
    let scalar ← value.element index
    .ok (NumberSystem.constant scalar)
  | .unary .plus operand => operand.valueIn valuation
  | .unary .minus operand => do
    let operand ← operand.valueIn valuation
    .ok (NumberSystem.negate operand)
  | .binary operation left right => do
    let left ← left.valueIn valuation
    let right ← right.valueIn valuation
    .ok (NumberSystem.arithmetic operation left right)
  | .call function arguments => do
    let arguments ← valuesIn valuation arguments
    function.apply arguments

/-- The values of several expressions. -/
def valuesIn (valuation : Valuation α β) :
    List (Expression α) → Except ComputationError (List β)
  | [] => .ok []
  | expression :: rest => do
    let first ← expression.valueIn valuation
    let others ← valuesIn valuation rest
    .ok (first :: others)

end

end Expression

end Intertemporal
