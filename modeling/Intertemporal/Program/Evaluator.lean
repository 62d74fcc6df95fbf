import Intertemporal.Program.Gradient

/-!
# Evaluators

An evaluator is a compiled equation that computes residuals and gradients. What it computes is
fixed; what changes over time is its state: the parameter values bound to it, and the state of its
gradient. States are kept apart, by the number of the evaluator, so equations that share an
evaluator share the values bound to it.
-/

namespace Intertemporal

/-- A compiled equation. -/
structure Evaluator (α : Type) where
  id : Nat
  name : String
  program : Program α
  inputs : Nat
  parameters : List String
  chunk : Int

/-- Parameter values, with the revision of the calibration that they were taken from. -/
structure BoundValues (α : Type) where
  revision : Nat
  values : List (ParameterValue α)

/-- What changes about an evaluator. -/
structure EvaluatorState (α : Type) where
  bound : Option (BoundValues α)
  gradient : Gradient α

/-- The values bound to an evaluator; none before the first binding. -/
def EvaluatorState.values {α : Type} (state : EvaluatorState α) : List (ParameterValue α) :=
  match state.bound with
  | some bound => bound.values
  | none => []

namespace Evaluator

variable {α : Type}

/-- An evaluator as answers show it. -/
def text (evaluator : Evaluator α) : String :=
  "EquationEvaluator(" ++ Text.quoted evaluator.name ++ s!", n_inputs={evaluator.inputs}" ++
    ", params=" ++ Text.quotedList evaluator.parameters ++ ")"

/-- The gradient of an evaluator as answers show it. -/
def gradientText (evaluator : Evaluator α) : String :=
  "EquationGradient(" ++ Text.quoted evaluator.name ++ s!", chunk={evaluator.chunk})"

/-- The state of an evaluator before it is used. -/
def initialState [Scalar α] (evaluator : Evaluator α) : EvaluatorState α :=
  { bound := none, gradient := .fresh evaluator.inputs evaluator.chunk.toNat }

end Evaluator

end Intertemporal
