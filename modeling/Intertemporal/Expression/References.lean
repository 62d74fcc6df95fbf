import Intertemporal.Expression.Basic

/-!
# References of an expression

What an expression refers to, each reference once and in the order in which it first appears. The
order fixes the inputs of the compiled equation: series first, then steady-state levels.
-/

namespace Intertemporal

/-- The references of an equation. -/
structure References where
  series : List TimedVariable := []
  steadyStates : List String := []
  parameters : List String := []
deriving DecidableEq, Repr

namespace References

/-- The number of inputs of the compiled equation: parameters are bound, not passed. -/
def inputCount (references : References) : Nat :=
  references.series.length + references.steadyStates.length

end References

/-- Append an item unless it is there already. -/
def appendNew {β : Type} [BEq β] (items : List β) (item : β) : List β :=
  if items.contains item then items else items ++ [item]

namespace Expression

variable {α : Type}

/-- Add what one node refers to. -/
def addReference (references : References) : Expression α → References
  | .series reference => { references with series := appendNew references.series reference }
  | .steadyState name =>
    { references with steadyStates := appendNew references.steadyStates name }
  | .parameter name _ => { references with parameters := appendNew references.parameters name }
  | _ => references

/-- What an expression refers to. -/
def references (expression : Expression α) : References :=
  expression.nodes.foldl addReference {}

end Expression

end Intertemporal
