import Intertemporal.Text.Character

/-!
# Quoted text

Text shown inside quotes: single quotes unless the text holds single quotes and no double ones. The
quote in use, the backslash and characters that cannot be shown are written as escapes.
-/

namespace Intertemporal.Text

/-- Hexadecimal digits, padded with zeros to a width. -/
def hexText (width value : Nat) : List Char :=
  let digits := Nat.toDigits 16 value
  List.replicate (width - digits.length) '0' ++ digits

/-- One character inside the given quotes. -/
def escape (quote char : Char) : List Char :=
  if char == quote || char == '\\' then ['\\', char]
  else if char == '\n' then ['\\', 'n']
  else if char == '\r' then ['\\', 'r']
  else if char == '\t' then ['\\', 't']
  else if isPrintable char then [char]
  else if char.toNat < 0x100 then '\\' :: 'x' :: hexText 2 char.toNat
  else if char.toNat < 0x10000 then '\\' :: 'u' :: hexText 4 char.toNat
  else '\\' :: 'U' :: hexText 8 char.toNat

/-- The quote that a text is written in. -/
def quoteOf (text : List Char) : Char :=
  if text.contains '\x27' && !text.contains '\x22' then '\x22' else '\x27'

/-- A text in quotes. -/
def quoted (text : String) : String :=
  let quote := quoteOf text.toList
  String.ofList (quote :: text.toList.flatMap (escape quote) ++ [quote])

/-- A list of quoted texts in square brackets. -/
def quotedList (texts : List String) : String :=
  "[" ++ ", ".intercalate (texts.map quoted) ++ "]"

/-- A tuple of sizes: a single one keeps its comma. -/
def tupleText (sizes : List String) : String :=
  match sizes with
  | [size] => "(" ++ size ++ ",)"
  | _ => "(" ++ ", ".intercalate sizes ++ ")"

end Intertemporal.Text
