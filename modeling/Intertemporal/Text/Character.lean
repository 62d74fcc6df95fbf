import Intertemporal.Text.Ranges

/-!
# Character classes

The classes that equation text, option files and messages are read and written by. Each is given
directly for ASCII and by a table of ranges beyond it.
-/

namespace Intertemporal.Text

/-- Whether a code point lies in one of the closed ranges. -/
def inRanges (ranges : List (Nat × Nat)) (code : Nat) : Bool :=
  ranges.any fun range => range.1 ≤ code && code ≤ range.2

/-- White space that is trimmed from the ends of a text. -/
def isBlank (char : Char) : Bool :=
  let code := char.toNat
  (9 ≤ code && code ≤ 13) || (28 ≤ code && code ≤ 32) || code == 0x85 || code == 0xa0 ||
    code == 0x1680 || (0x2000 ≤ code && code ≤ 0x200a) || code == 0x2028 || code == 0x2029 ||
    code == 0x202f || code == 0x205f || code == 0x3000

/-- Whether a character lies beyond ASCII. -/
def isWide (char : Char) : Bool := 128 ≤ char.toNat

/-- Characters that may begin an identifier: letters and the underscore. -/
def isIdentifierStart (char : Char) : Bool :=
  char.isAlpha || char == '_' || (isWide char && inRanges identifierStartRanges char.toNat)

/-- Characters that may continue an identifier: those that may begin one, digits and marks. -/
def isIdentifierRest (char : Char) : Bool :=
  isIdentifierStart char || char.isDigit ||
    (isWide char && inRanges identifierExtendRanges char.toNat)

/-- Characters that are shown as they are inside quotes. -/
def isPrintable (char : Char) : Bool :=
  if isWide char then inRanges printableRanges char.toNat
  else 32 ≤ char.toNat && char.toNat < 127

/-- The value of a decimal digit of a script beyond ASCII. -/
def wideDigit? (char : Char) : Option Nat :=
  (decimalDigitRanges.find? fun range => range.1 ≤ char.toNat && char.toNat ≤ range.2).map
    fun range => (char.toNat - range.1) % 10

/-- Drop the white space at the front. -/
def dropBlank (text : List Char) : List Char := text.dropWhile isBlank

/-- Drop the white space at both ends. -/
def trim (text : List Char) : List Char := (dropBlank (dropBlank text).reverse).reverse

/-- Drop the white space at both ends of a string. -/
def trimmed (text : String) : String := String.ofList (trim text.toList)

/-- The value of a hexadecimal digit. -/
def hexDigit? (char : Char) : Option Nat :=
  if char.isDigit then some (char.toNat - 48)
  else if 'a' ≤ char ∧ char ≤ 'f' then some (char.toNat - 87)
  else if 'A' ≤ char ∧ char ≤ 'F' then some (char.toNat - 55)
  else none

/-- The value of a digit below the given base, which is at most sixteen. -/
def digit? (base : Nat) (char : Char) : Option Nat :=
  (hexDigit? char).filter (· < base)

/-- The number that digits stand for; characters that are no digits count as zero. -/
def ofDigits (base : Nat) (digits : List Char) : Nat :=
  digits.foldl (fun value char => base * value + (hexDigit? char).getD 0) 0

end Intertemporal.Text
