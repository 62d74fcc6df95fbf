import Intertemporal.Program.Evaluator

/-!
# Equations

An equation of a model is a residual expression that is meant to be zero, with what it refers to and
the evaluator that it was compiled to.
-/

namespace Intertemporal

/-- A model equation, whose residual expression is meant to be zero. -/
structure Equation (α : Type) where
  name : String
  expression : Expression α
  references : References
  evaluator : Evaluator α
  /-- Whether selective linearization replaces the equation. -/
  linear : Bool
  /-- The text that states the equation, if it was read from text. -/
  source : String

namespace Equation

variable {α : Type}

/-- The largest of the given integers; zero of none. -/
def largest : List Int → Int
  | [] => 0
  | first :: rest => rest.foldl max first

/-- The largest lag of the equation, negative if all references lie ahead. -/
def maxLag (equation : Equation α) : Int :=
  largest (equation.references.series.map fun reference => -reference.offset)

/-- The largest lead of the equation, negative if all references lie back. -/
def maxLead (equation : Equation α) : Int :=
  largest (equation.references.series.map fun reference => reference.offset)

/-- The equation as it was stated, with its name and flag. -/
def text [Numeral α] (equation : Equation α) : String :=
  let stated :=
    if equation.source.isEmpty then equation.expression.text ++ " = 0" else equation.source
  "[" ++ equation.name ++ "] " ++ (if equation.linear then "@lin " else "") ++ stated

end Equation

end Intertemporal
