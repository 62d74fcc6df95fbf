import Intertemporal.Decimal.Binary64
import Intertemporal.Decimal.Digits

/-!
# Written numbers

A layout says which exponents are written positionally and whether a whole number keeps a decimal
point. Three of them are in use: expressions and messages show numbers in the fewest digits that
read back, summaries round to six digits, and computed results can be written with a fixed number of
places.
-/

namespace Intertemporal.Decimal

/-- The decisions of a decimal format. -/
structure Layout where
  /-- The least exponent of the leading digit that is written positionally. -/
  lowest : Int
  /-- The first exponent of the leading digit that is written as an exponent again. -/
  limit : Int
  /-- Whether a whole number written positionally ends in `.0`. -/
  keepsPoint : Bool

namespace Layout

/-- Numbers in expressions: positional from `0.0001` up to below `10 ^ 16`, with a point. -/
def exact : Layout := ⟨-4, 16, true⟩

/-- Numbers in summaries: six digits, positional while they suffice, without a point at the end. -/
def rounded : Layout := ⟨-4, 6, false⟩

/-- An exponent: the letter, a sign and at least two digits. -/
def exponentText (exponent : Int) : List Char :=
  let magnitude := Nat.toDigits 10 exponent.natAbs
  let padded := if magnitude.length < 2 then '0' :: magnitude else magnitude
  'e' :: (if exponent < 0 then '-' else '+') :: padded

/-- Digits with the point after the first and an exponent. -/
def scientific (value : Digits) : List Char :=
  let mantissa := match value.digits with
    | leading :: next :: rest => leading :: '.' :: next :: rest
    | short => short
  mantissa ++ exponentText value.exponent

/-- Digits with the point at its place. -/
def positional (layout : Layout) (value : Digits) : List Char :=
  if value.exponent < 0 then
    '0' :: '.' :: List.replicate (-value.exponent - 1).toNat '0' ++ value.digits
  else
    let whole := value.exponent.toNat + 1
    if value.digits.length ≤ whole then
      value.digits ++ List.replicate (whole - value.digits.length) '0' ++
        (if layout.keepsPoint then ['.', '0'] else [])
    else value.digits.take whole ++ '.' :: value.digits.drop whole

/-- Write digits positionally where the layout says so, else with an exponent. -/
def write (layout : Layout) (value : Digits) : List Char :=
  if layout.lowest ≤ value.exponent ∧ value.exponent < layout.limit then
    layout.positional value
  else scientific value

end Layout

/-- Write a double: a sign, then the digits that a rule makes of a positive finite value. -/
def writeWith (zero : List Char) (digits : Nat → Int → List Char) (value : Float) : String :=
  match Binary64.ofFloat value with
  | .undefined => "nan"
  | .infinite negative => if negative then "-inf" else "inf"
  | .finite negative significand exponent =>
    let magnitude := if significand = 0 then zero else digits significand exponent
    String.ofList (if negative then '-' :: magnitude else magnitude)

/-- The fewest digits that read back as the same double. -/
def shortestText : Float → String :=
  writeWith (Layout.exact.write .zero) fun significand exponent =>
    Layout.exact.write (.shortest significand exponent)

/-- Six significant digits, without trailing zeros. -/
def roundedText : Float → String :=
  writeWith (Layout.rounded.write .zero) fun significand exponent =>
    Layout.rounded.write (Digits.significant 6 significand exponent).trim

/-- One digit, the given number of further ones, and an exponent. -/
def scientificText (places : Nat) : Float → String :=
  let zero : Digits := ⟨List.replicate (places + 1) '0', 0⟩
  writeWith (Layout.scientific zero) fun significand exponent =>
    Layout.scientific (.significant (places + 1) significand exponent)

end Intertemporal.Decimal

namespace Intertemporal

/-- Scalars that can be written in messages and expressions. -/
class Numeral (α : Type) where
  /-- The fewest digits that read back. -/
  exact : α → String
  /-- Six significant digits. -/
  rounded : α → String

/-- Doubles are written in decimal. -/
instance : Numeral Float where
  exact := Decimal.shortestText
  rounded := Decimal.roundedText

end Intertemporal
