import Intertemporal.Equation

/-!
# Events

While a model is built and evaluated, what happens is recorded in a log. Warnings call for
attention; the other events say how equations and evaluation data came about.
-/

namespace Intertemporal

/-- What the log records. -/
inductive Event (α : Type)
  | added (equation : Equation α)
  | reused (evaluator equation : String)
  | recompiled (equations : Nat) (model : String) (chunkLimit : Int)
  | built (model : String) (equations nonzeros evaluators hits : Nat)
  | linearized (count equations : Nat) (model : String)
  | firstOrder (model : String) (backward forward exogenous links : Nat)
  | slopedReference (name equation : String)
  | unsolvedReferences
  | nonzeroResidual (equation : String) (residual : α)
  | nothingLinearized

namespace Event

variable {α : Type}

/-- Whether an event calls for attention. The others say how evaluation data came about. -/
def isWarning : Event α → Bool
  | .slopedReference .. | .unsolvedReferences | .nonzeroResidual .. | .nothingLinearized => true
  | _ => false

/-- The wording of an event. -/
def message [Numeral α] : Event α → String
  | .added equation => "Added " ++ equation.text
  | .reused evaluator equation =>
    "Reusing compiled evaluator '" ++ evaluator ++ "' for '" ++ equation ++ "'"
  | .recompiled equations model chunkLimit =>
    s!"Recompiled {equations} equations of '" ++ model ++ s!"' with chunk size {chunkLimit}"
  | .built model equations nonzeros evaluators hits =>
    "Built evaluation data for '" ++ model ++
      s!"': {equations} equations, {nonzeros} nonzeros, " ++
      s!"{evaluators} compiled evaluators, {hits} cache hits"
  | .linearized count equations model =>
    s!"Linearized {count} of {equations} equations of '" ++ model ++ "'"
  | .firstOrder model backward forward exogenous links =>
    "First-order form of '" ++ model ++
      s!"': {backward} backward, {forward} forward, {exogenous} exogenous, {links} links"
  | .slopedReference name equation =>
    "@sstate used with non-zero slope: sstate(" ++ name ++ ") in equation " ++ equation
  | .unsolvedReferences =>
    "Steady state not solved; sstate() references use current values"
  | .nonzeroResidual equation residual =>
    "Non-zero steady state residual in equation " ++ equation ++ ": " ++ Numeral.rounded residual
  | .nothingLinearized => "No equations were linearized"

/-- An event with the level that it is logged at. -/
def text [Numeral α] (event : Event α) : String :=
  (if event.isWarning then "WARNING " else "DEBUG ") ++ event.message

end Event

end Intertemporal
