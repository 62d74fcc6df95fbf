/-!
# Decimal digits of a dyadic number

The value `significand * 2 ^ exponent` is turned into a decimal coefficient and a power of ten in
exact integer arithmetic. Two rules choose the digits:

- `significant` keeps a fixed number of them and rounds to nearest, a tie going to the even digit;
- `shortest` keeps as few as still read back as the same double, and of those the nearest.

Writing the digits down is the business of `Intertemporal.Decimal.Layout`.
-/

namespace Intertemporal.Decimal

/-- Decimal digits `d₀.d₁d₂… * 10 ^ exponent`. -/
structure Digits where
  digits : List Char
  exponent : Int
deriving Repr, DecidableEq

/-- The quotient rounded to the nearest natural number, a tie going to the even one. -/
def roundQuotient (numerator denominator : Nat) : Nat :=
  let quotient := numerator / denominator
  let twice := 2 * (numerator % denominator)
  if twice < denominator ∨ (twice = denominator ∧ quotient % 2 = 0) then quotient
  else quotient + 1

/-- Numerator of `coefficient * base ^ exponent`. -/
def numeratorOf (coefficient base : Nat) (exponent : Int) : Nat :=
  coefficient * Nat.pow base exponent.toNat

/-- Denominator of a coefficient times `base ^ exponent`. -/
def denominatorOf (base : Nat) (exponent : Int) : Nat := Nat.pow base (-exponent).toNat

/-- The number of decimal digits of a natural number. -/
def digitCount (value : Nat) : Nat := (Nat.toDigits 10 value).length

/-- The exponent of the leading decimal digit of a positive quotient. -/
def leadingExponent (numerator denominator : Nat) : Int :=
  let guess : Int := (digitCount numerator : Int) - digitCount denominator
  if numeratorOf denominator 10 guess ≤ numerator * denominatorOf 10 guess then guess
  else guess - 1

namespace Digits

/-- The digit zero. -/
def zero : Digits := ⟨['0'], 0⟩

/-- The digits of `coefficient * 10 ^ exponent`. -/
def ofCoefficient (coefficient : Nat) (exponent : Int) : Digits :=
  let digits := Nat.toDigits 10 coefficient
  ⟨digits, exponent + digits.length - 1⟩

/-- Leave out trailing zeros, all but a leading one. -/
def trim (value : Digits) : Digits :=
  let kept := (value.digits.reverse.dropWhile (· == '0')).reverse
  { value with digits := if kept.isEmpty then ['0'] else kept }

/-- The given number of significant digits of a positive value, rounded to nearest. -/
def significant (count significand : Nat) (exponent : Int) : Digits :=
  let numerator := numeratorOf significand 2 exponent
  let denominator := denominatorOf 2 exponent
  let leading := leadingExponent numerator denominator
  let place := leading - count + 1
  let coefficient :=
    roundQuotient (numerator * denominatorOf 10 place) (numeratorOf denominator 10 place)
  if digitCount coefficient ≤ count then ofCoefficient coefficient place
  else ofCoefficient (coefficient / 10) (place + 1)

/-- The reals that round to a double, in quarters of the unit of its last place. -/
structure Interval where
  lower : Nat
  upper : Nat
  closed : Bool

/-- The rounding interval of a double: half a unit to each side, a quarter below a power of two,
and with its ends exactly if the significand is even. -/
def roundingInterval (significand : Nat) (exponent : Int) : Interval :=
  { lower :=
      if significand = Nat.pow 2 52 ∧ exponent > -1074 then 4 * significand - 1
      else 4 * significand - 2
    upper := 4 * significand + 2
    closed := significand % 2 = 0 }

/-- The decimal with the given number of digits that lies in the rounding interval and is nearest to
the value, if there is one. Only the two neighbours of the value can be. -/
def withCount? (significand : Nat) (exponent leading : Int) (count : Nat) : Option Digits :=
  let interval := roundingInterval significand exponent
  let place := leading - count + 1
  let binary := exponent - 2
  let decimalUnit := numeratorOf (denominatorOf 2 binary) 10 place
  let binaryUnit := numeratorOf (denominatorOf 10 place) 2 binary
  let value := 4 * significand * binaryUnit
  let below := value / decimalUnit
  let inside (coefficient : Nat) : Bool :=
    let candidate := coefficient * decimalUnit
    let lower := interval.lower * binaryUnit
    let upper := interval.upper * binaryUnit
    if interval.closed then lower ≤ candidate ∧ candidate ≤ upper
    else lower < candidate ∧ candidate < upper
  let downward := value - below * decimalUnit
  let upward := (below + 1) * decimalUnit - value
  let lowerFirst := downward < upward ∨ (downward = upward ∧ below % 2 = 0)
  let nearest := if lowerFirst then below else below + 1
  let other := if lowerFirst then below + 1 else below
  if inside nearest then some (ofCoefficient nearest place)
  else if inside other then some (ofCoefficient other place)
  else none

/-- The fewest digits of a positive double that read back as it; seventeen always do. -/
def shortest (significand : Nat) (exponent : Int) : Digits :=
  let leading :=
    leadingExponent (numeratorOf significand 2 exponent) (denominatorOf 2 exponent)
  let counts := (List.range 17).map (· + 1)
  match counts.findSome? (withCount? significand exponent leading) with
  | some digits => digits.trim
  | none => (significant 17 significand exponent).trim

end Digits

end Intertemporal.Decimal
