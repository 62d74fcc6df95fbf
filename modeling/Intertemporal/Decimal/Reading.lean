import Intertemporal.Scalar
import Intertemporal.Text.Character

/-!
# Numbers in text

Numbers that callers give as text, in an options file or as a parameter value. Blanks around a
number are ignored, its digits may be those of any script, single underscores may stand between
digits, and infinite and undefined values have names.
-/

namespace Intertemporal.Decimal

/-- The ASCII character that a character beyond ASCII stands for in a number, if there is one. -/
def plainChar (char : Char) : Char :=
  if !Text.isWide char then char
  else if Text.isBlank char then ' '
  else match Text.wideDigit? char with
    | some value => Char.ofNat ('0'.toNat + value)
    | none => char

/-- White space around a number. -/
def isMargin (char : Char) : Bool := char == ' ' || (9 ≤ char.toNat && char.toNat ≤ 13)

/-- A text without white space around it. -/
def dropMargins (text : List Char) : List Char :=
  ((text.dropWhile isMargin).reverse.dropWhile isMargin).reverse

/-- Remove the underscores between digits; any other underscore is refused. -/
def dropSeparators (previous : Option Char) : List Char → Option (List Char)
  | [] => some []
  | '_' :: rest =>
    if previous.any Char.isDigit && rest.head?.any Char.isDigit then
      dropSeparators (some '_') rest
    else none
  | char :: rest => (dropSeparators (some char) rest).map (char :: ·)

/-- A sign and what follows it. -/
def splitSign : List Char → Bool × List Char
  | '-' :: rest => (true, rest)
  | '+' :: rest => (false, rest)
  | text => (false, text)

/-- A text of nothing but digits, at least one. -/
def readNatural? (text : List Char) : Option Nat :=
  if !text.isEmpty && text.all Char.isDigit then some (Text.ofDigits 10 text) else none

/-- The text of a number in ASCII, without blanks and separators. -/
def clean? (text : String) : Option (List Char) :=
  dropSeparators none (dropMargins (text.toList.map plainChar))

/-- The integer that a text denotes. -/
def readInteger? (text : String) : Option Int := do
  let (negative, digits) := splitSign (← clean? text)
  let magnitude ← readNatural? digits
  some (if negative then -(magnitude : Int) else magnitude)

/-- The exponent at the end of a number, which may be missing. -/
def readExponent? : List Char → Option Int
  | [] => some 0
  | letter :: rest =>
    if letter == 'e' || letter == 'E' then do
      let (negative, digits) := splitSign rest
      let magnitude ← readNatural? digits
      some (if negative then -(magnitude : Int) else magnitude)
    else none

variable {α : Type} [Scalar α]

/-- The scalar that a text without a sign denotes. -/
def readMagnitude? (text : List Char) : Option α :=
  let lower := String.ofList (text.map Char.toLower)
  if lower == "inf" || lower == "infinity" then some Scalar.infinity
  else if lower == "nan" then some Scalar.undefined
  else
    let whole := text.takeWhile Char.isDigit
    let rest := text.dropWhile Char.isDigit
    let pointed := rest.head? == some '.'
    let afterPoint := if pointed then rest.drop 1 else rest
    let places := if pointed then afterPoint.takeWhile Char.isDigit else []
    if whole.isEmpty && places.isEmpty then none
    else do
      let exponent ← readExponent? (afterPoint.drop places.length)
      some (Scalar.ofDecimal (Text.ofDigits 10 (whole ++ places)) (exponent - places.length))

/-- The scalar that a text denotes. -/
def readScalar? (text : String) : Option α := do
  let (negative, digits) := splitSign (← clean? text)
  let magnitude ← readMagnitude? digits
  some (if negative then -magnitude else magnitude)

end Intertemporal.Decimal
