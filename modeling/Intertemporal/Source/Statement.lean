import Intertemporal.Source.Parser

/-!
# Equation statements

An equation is stated as `left = right` or as a bare expression that is meant to be zero. Either way
its term is the residual: the left side less the right one. A caret in equation text is a power.
-/

namespace Intertemporal.Source

/-- Why a text states no equation. -/
inductive StatementError
  | severalSides
  | malformed
  | nullCharacter
deriving DecidableEq, Repr

namespace Statement

/-- Write the caret as the power operator. -/
def spellPowers (text : List Char) : List Char :=
  text.flatMap fun char => if char = '^' then ['*', '*'] else [char]

/-- Characters after which an equals sign is part of a comparison. -/
def isComparisonChar (char : Char) : Bool :=
  char == '=' || char == '!' || char == '<' || char == '>'

/-- The parts of a text between the equals signs that stand alone, the part read so far being
reversed. -/
def splitSides (previous : Option Char) (read : List Char) : List Char → List (List Char)
  | [] => [read.reverse]
  | char :: rest =>
    if char = '=' ∧ !previous.any isComparisonChar ∧ rest.head? ≠ some '=' then
      read.reverse :: splitSides (some char) [] rest
    else splitSides (some char) (char :: read) rest

/-- The sides of an equation. -/
def sides (text : List Char) : List (List Char) :=
  (splitSides none [] (Text.trim (spellPowers text))).map Text.trim

/-- The term of one side. -/
def side {α : Type} [Scalar α] (text : List Char) : Except StatementError (Term α) :=
  match Term.ofText text with
  | .ok term => .ok term
  | .error .grammar => .error .malformed
  | .error .nullCharacter => .error .nullCharacter

/-- The residual that an equation text states. -/
def residual {α : Type} [Scalar α] (text : String) : Except StatementError (Term α) :=
  match sides text.toList with
  | [only] => side only
  | [left, right] => do
    let left ← side left
    let right ← side right
    .ok (.binary .sub left right)
  | _ => .error .severalSides

end Statement

end Intertemporal.Source
