import Intertemporal.Scalar

/-!
# Doubles as scalars

A finite double is a sign and a product `significand * 2 ^ exponent`; the decimal formats are
computed from these parts in exact integer arithmetic. This module takes doubles apart and makes
them the scalars of the running program.
-/

namespace Intertemporal.Decimal

/-- The parts of a double. The sign is kept for zero too. -/
inductive Binary64
  | finite (negative : Bool) (significand : Nat) (exponent : Int)
  | infinite (negative : Bool)
  | undefined
deriving Repr, DecidableEq

namespace Binary64

/-- Take a double apart: eleven bits of exponent and fifty-two of fraction after the sign. -/
def ofFloat (value : Float) : Binary64 :=
  let bits := value.toBits.toNat
  let negative : Bool := Nat.pow 2 63 ≤ bits
  let biased : Nat := bits / Nat.pow 2 52 % Nat.pow 2 11
  let fraction : Nat := bits % Nat.pow 2 52
  if biased = 2047 then
    if fraction = 0 then .infinite negative else .undefined
  else if biased = 0 then .finite negative fraction (-1074)
  else .finite negative (fraction + Nat.pow 2 52) ((biased : Int) - 1075)

/-- The integer part of a finite double, rounded toward zero; zero for the others. -/
def truncate : Binary64 → Int
  | .finite negative significand exponent =>
    let magnitude : Nat :=
      if 0 ≤ exponent then significand * Nat.pow 2 exponent.toNat
      else significand / Nat.pow 2 (-exponent).toNat
    if negative then -(magnitude : Int) else magnitude
  | _ => 0

end Binary64

end Intertemporal.Decimal

namespace Intertemporal

/-- Double-precision arithmetic. -/
instance : Scalar Float where
  ofDecimal mantissa exponent :=
    Float.ofScientific mantissa (exponent < 0) exponent.natAbs
  infinity := 1.0 / 0.0
  undefined := 0.0 / 0.0
  isFinite := Float.isFinite
  truncate value := (Decimal.Binary64.ofFloat value).truncate
  lt left right := left < right
  le left right := left ≤ right
  generalPower := Float.pow
  exp := Float.exp
  log := Float.log
  sqrt := Float.sqrt
  abs := Float.abs
  sin := Float.sin
  cos := Float.cos
  tan := Float.tan

end Intertemporal
