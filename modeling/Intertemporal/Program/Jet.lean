import Intertemporal.Expression.Basic
import Intertemporal.Scalar

/-!
# Dual numbers

A dual number carries a value and its partial derivatives with respect to a chunk of inputs. An
expression is evaluated in a number system: the scalars themselves give its value, and jets, which
are plain numbers or duals, give its derivatives as well. A plain number stands for a constant,
whose partial derivatives are not written down.

The rules for a dual and a plain operand are rules of their own; that they agree with the rules for
two duals is a matter of proof and not of definition.
-/

namespace Intertemporal

/-- The functions of one argument. -/
inductive Elementary
  | log
  | exp
  | sqrt
  | abs
  | sin
  | cos
  | tan
deriving DecidableEq, Repr

/-- What expressions can be evaluated in, with constants from the scalars. -/
class NumberSystem (α : outParam Type) (β : Type) where
  constant : α → β
  negate : β → β
  arithmetic : Arithmetic → β → β → β
  elementary : Elementary → β → β
  smaller : β → β → β
  larger : β → β → β

/-- A built-in function on its arguments, if their number is right. -/
def Function.apply? {α β : Type} [NumberSystem α β] : Function → List β → Option β
  | .log, [argument] => some (NumberSystem.elementary .log argument)
  | .ln, [argument] => some (NumberSystem.elementary .log argument)
  | .exp, [argument] => some (NumberSystem.elementary .exp argument)
  | .sqrt, [argument] => some (NumberSystem.elementary .sqrt argument)
  | .abs, [argument] => some (NumberSystem.elementary .abs argument)
  | .sin, [argument] => some (NumberSystem.elementary .sin argument)
  | .cos, [argument] => some (NumberSystem.elementary .cos argument)
  | .tan, [argument] => some (NumberSystem.elementary .tan argument)
  | .pow, [base, exponent] => some (NumberSystem.arithmetic .power base exponent)
  | .min, [left, right] => some (NumberSystem.smaller left right)
  | .max, [left, right] => some (NumberSystem.larger left right)
  | _, _ => none

namespace Scalar

variable {α : Type} [Scalar α]

/-- An operation of arithmetic on scalars. -/
def arithmetic : Arithmetic → α → α → α
  | .add, left, right => left + right
  | .sub, left, right => left - right
  | .mul, left, right => left * right
  | .div, left, right => left / right
  | .power, left, right => power left right

/-- A function of one argument on scalars. -/
def elementary : Elementary → α → α
  | .log => log
  | .exp => exp
  | .sqrt => sqrt
  | .abs => abs
  | .sin => sin
  | .cos => cos
  | .tan => tan

/-- The first of two scalars if it is at most the second, else the second. -/
def smaller (left right : α) : α := if le left right then left else right

/-- The first of two scalars if it is at least the second, else the second. -/
def larger (left right : α) : α := if le right left then left else right

/-- The derivative of an elementary function at an argument, from the argument and the value. -/
def derivative : Elementary → α → α → α
  | .log, argument, _ => one / argument
  | .exp, _, value => value
  | .sqrt, _, value => half / value
  | .abs, argument, _ =>
    if isPositive argument then one else if isNegative argument then -one else zero
  | .sin, argument, _ => cos argument
  | .cos, argument, _ => -(sin argument)
  | .tan, _, value => one + value * value

end Scalar

/-- Scalars evaluate expressions to their values. -/
instance (α : Type) [Scalar α] : NumberSystem α α where
  constant value := value
  negate value := -value
  arithmetic := Scalar.arithmetic
  elementary := Scalar.elementary
  smaller := Scalar.smaller
  larger := Scalar.larger

/-- A value with its partial derivatives with respect to `size` inputs. -/
structure Dual (α : Type) (size : Nat) where
  value : α
  partials : Vector α size

namespace Dual

variable {α : Type} [Scalar α] {size : Nat}

/-- Multiply every partial derivative by a factor. -/
def scaled (partials : Vector α size) (factor : α) : Vector α size := partials.map (· * factor)

/-- Add partial derivatives entry by entry. -/
def added (left right : Vector α size) : Vector α size := left.zipWith (· + ·) right

/-- Subtract partial derivatives entry by entry. -/
def subtracted (left right : Vector α size) : Vector α size := left.zipWith (· - ·) right

/-- Turn the sign of every partial derivative. -/
def negated (partials : Vector α size) : Vector α size := partials.map (- ·)

/-- Turn the sign of a dual. -/
def negate (operand : Dual α size) : Dual α size := ⟨-operand.value, negated operand.partials⟩

/-- The sum of two duals. -/
def add (left right : Dual α size) : Dual α size :=
  ⟨left.value + right.value, added left.partials right.partials⟩

/-- A dual and a plain number added. -/
def addPlain (left : Dual α size) (right : α) : Dual α size :=
  ⟨left.value + right, left.partials⟩

/-- The difference of two duals. -/
def sub (left right : Dual α size) : Dual α size :=
  ⟨left.value - right.value, subtracted left.partials right.partials⟩

/-- A dual less a plain number. -/
def subPlain (left : Dual α size) (right : α) : Dual α size :=
  ⟨left.value - right, left.partials⟩

/-- A plain number less a dual. -/
def plainSub (left : α) (right : Dual α size) : Dual α size :=
  ⟨left - right.value, negated right.partials⟩

/-- The product of two duals, by the product rule. -/
def mul (left right : Dual α size) : Dual α size :=
  ⟨left.value * right.value,
    added (scaled left.partials right.value) (scaled right.partials left.value)⟩

/-- A dual times a plain number. -/
def mulPlain (left : Dual α size) (right : α) : Dual α size :=
  ⟨left.value * right, scaled left.partials right⟩

/-- The quotient of two duals. Its derivatives are computed from the quotient itself. -/
def div (left right : Dual α size) : Dual α size :=
  let value := left.value / right.value
  ⟨value, (subtracted left.partials (scaled right.partials value)).map (· / right.value)⟩

/-- A dual divided by a plain number. -/
def divPlain (left : Dual α size) (right : α) : Dual α size :=
  ⟨left.value / right, left.partials.map (· / right)⟩

/-- A plain number divided by a dual. -/
def plainDiv (left : α) (right : Dual α size) : Dual α size :=
  let value := left / right.value
  ⟨value, scaled (negated right.partials) (value / right.value)⟩

/-- A power of two duals. The exponent contributes only where the base has a logarithm. -/
def power (base exponent : Dual α size) : Dual α size :=
  let value := Scalar.power base.value exponent.value
  let inner := scaled base.partials
    (exponent.value * Scalar.power base.value (exponent.value - Scalar.one))
  if Scalar.isPositive base.value then
    ⟨value, added inner (scaled exponent.partials (value * Scalar.log base.value))⟩
  else ⟨value, inner⟩

/-- A dual raised to a plain number. -/
def powerPlain (base : Dual α size) (exponent : α) : Dual α size :=
  if Scalar.isZero exponent then ⟨Scalar.one, scaled base.partials Scalar.zero⟩
  else
    ⟨Scalar.power base.value exponent,
      scaled base.partials (exponent * Scalar.power base.value (exponent - Scalar.one))⟩

/-- A plain number raised to a dual. -/
def plainPower (base : α) (exponent : Dual α size) : Dual α size :=
  let value := Scalar.power base exponent.value
  if Scalar.isZero base then ⟨value, scaled exponent.partials Scalar.zero⟩
  else ⟨value, scaled exponent.partials (value * Scalar.log base)⟩

/-- An elementary function of a dual, by the chain rule. -/
def elementary (function : Elementary) (argument : Dual α size) : Dual α size :=
  let value := Scalar.elementary function argument.value
  ⟨value, scaled argument.partials (Scalar.derivative function argument.value value)⟩

/-- An operation of arithmetic on two duals. -/
def arithmetic : Arithmetic → Dual α size → Dual α size → Dual α size
  | .add => add
  | .sub => sub
  | .mul => mul
  | .div => div
  | .power => power

/-- An operation of arithmetic on a dual and a plain number. -/
def arithmeticPlain : Arithmetic → Dual α size → α → Dual α size
  | .add => addPlain
  | .sub => subPlain
  | .mul => mulPlain
  | .div => divPlain
  | .power => powerPlain

/-- An operation of arithmetic on a plain number and a dual. -/
def plainArithmetic : Arithmetic → α → Dual α size → Dual α size
  | .add, left, right => right.addPlain left
  | .sub, left, right => plainSub left right
  | .mul, left, right => right.mulPlain left
  | .div, left, right => plainDiv left right
  | .power, left, right => plainPower left right

end Dual

/-- A plain number or a dual. -/
inductive Jet (α : Type) (size : Nat)
  | plain (value : α)
  | dual (value : Dual α size)

namespace Jet

variable {α : Type} [Scalar α] {size : Nat}

/-- The value of a jet, without derivatives. -/
def value : Jet α size → α
  | .plain value => value
  | .dual operand => operand.value

/-- The partial derivatives of a jet; those of a plain number are zero. -/
def partials : Jet α size → Vector α size
  | .plain _ => Vector.replicate size Scalar.zero
  | .dual operand => operand.partials

/-- Turn the sign of a jet. -/
def negate : Jet α size → Jet α size
  | .plain value => .plain (-value)
  | .dual operand => .dual operand.negate

/-- An operation of arithmetic: plain on two plain numbers, dual otherwise. -/
def arithmetic (operation : Arithmetic) : Jet α size → Jet α size → Jet α size
  | .plain left, .plain right => .plain (Scalar.arithmetic operation left right)
  | .plain left, .dual right => .dual (Dual.plainArithmetic operation left right)
  | .dual left, .plain right => .dual (Dual.arithmeticPlain operation left right)
  | .dual left, .dual right => .dual (Dual.arithmetic operation left right)

/-- An elementary function of a jet. -/
def elementary (function : Elementary) : Jet α size → Jet α size
  | .plain argument => .plain (Scalar.elementary function argument)
  | .dual argument => .dual (Dual.elementary function argument)

/-- The first of two jets if its value is at most that of the second, else the second. -/
def smaller (left right : Jet α size) : Jet α size :=
  if Scalar.le left.value right.value then left else right

/-- The first of two jets if its value is at least that of the second, else the second. -/
def larger (left right : Jet α size) : Jet α size :=
  if Scalar.le right.value left.value then left else right

end Jet

/-- Jets evaluate expressions to their values and derivatives. -/
instance (α : Type) [Scalar α] (size : Nat) : NumberSystem α (Jet α size) where
  constant := .plain
  negate := Jet.negate
  arithmetic := Jet.arithmetic
  elementary := Jet.elementary
  smaller := Jet.smaller
  larger := Jet.larger

end Intertemporal
