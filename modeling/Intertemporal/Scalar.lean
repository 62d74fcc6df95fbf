/-!
# Scalars

Everything that computes with numbers is written over an arbitrary type of scalars: the running
program uses doubles, and statements about exact arithmetic use other instances. The class lists
exactly what the program needs of its numbers and states no law, because doubles satisfy hardly any.

Comparisons are decided, so that a scalar that is no number (`undefined`) compares false with
everything, itself included.
-/

namespace Intertemporal

/-- The arithmetic that equations, derivatives and evaluation data are computed in. -/
class Scalar (α : Type) extends Add α, Sub α, Mul α, Div α, Neg α, BEq α where
  /-- The scalar nearest to `mantissa * 10 ^ exponent`. -/
  ofDecimal : Nat → Int → α
  /-- The scalar written as an infinite value. -/
  infinity : α
  /-- The marker of a value that is not there. -/
  undefined : α
  /-- Whether a scalar is a finite number. -/
  isFinite : α → Bool
  /-- The integer part of a finite scalar, rounded toward zero. -/
  truncate : α → Int
  lt : α → α → Bool
  le : α → α → Bool
  /-- A power by the general method. -/
  generalPower : α → α → α
  exp : α → α
  log : α → α
  sqrt : α → α
  abs : α → α
  sin : α → α
  cos : α → α
  tan : α → α

namespace Scalar

variable {α : Type} [Scalar α]

/-- The scalar of a natural number. -/
def ofNat (value : Nat) : α := ofDecimal value 0

/-- The scalar of an integer. -/
def ofInt : Int → α
  | .ofNat value => ofNat value
  | .negSucc value => -(ofNat (value + 1))

/-- The scalar of an integer, if one is in range. -/
def ofInt? (value : Int) : Option α :=
  let converted : α := ofInt value
  if isFinite converted then some converted else none

/-- The scalar zero. -/
def zero : α := ofNat 0

/-- The scalar one. -/
def one : α := ofNat 1

/-- One half. -/
def half : α := ofDecimal 5 (-1)

/-- The scalar two. -/
def two : α := ofNat 2

/-- A power. Reciprocals, square roots and squares are computed as such, so a half power of negative
zero keeps its sign and one of negative infinity is undefined. -/
def power (base exponent : α) : α :=
  if exponent == -one then one / base
  else if exponent == zero then one
  else if exponent == half then sqrt base
  else if exponent == one then base
  else if exponent == two then base * base
  else generalPower base exponent

/-- Whether a scalar is above zero. -/
def isPositive (value : α) : Bool := lt zero value

/-- Whether a scalar is below zero. -/
def isNegative (value : α) : Bool := lt value zero

/-- Whether a scalar equals zero; both zeros of doubles do. -/
def isZero (value : α) : Bool := value == zero

/-- Whether a scalar is a number at all: only `undefined` differs from itself. -/
def isNumber (value : α) : Bool := value == value

end Scalar

end Intertemporal
