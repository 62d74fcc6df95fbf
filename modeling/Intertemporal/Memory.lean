import Intertemporal.Error
import Intertemporal.Event

/-!
# Memory

The values of a model do not change when it is evaluated; what changes lies in a memory behind them.
It holds the states of evaluators and the Jacobian values of evaluation data, each by number, hands
out numbers and revisions, and keeps the log. Evaluators are used through it.
-/

namespace Intertemporal

/-- Everything that changes behind the values of a model. -/
structure Memory (α : Type) where
  evaluators : Table Nat (EvaluatorState α) := {}
  jacobians : Table Nat (List α) := {}
  nextId : Nat := 0
  nextRevision : Nat := 1
  log : List (Event α) := []

/-- Computations that use a memory. A failed one leaves the memory as it was when it failed. -/
abbrev Action (α : Type) := ExceptT (Error α) (StateM (Memory α))

namespace Action

variable {α β : Type}

/-- Record an event. -/
def record (event : Event α) : Action α Unit :=
  modify fun memory => { memory with log := memory.log ++ [event] }

/-- A number that nothing has yet. -/
def freshId : Action α Nat :=
  modifyGet fun memory => (memory.nextId, { memory with nextId := memory.nextId + 1 })

/-- A result that was computed without the memory. -/
def ofExcept {ε : Type} (cause : ε → Error α) (result : Except ε β) : Action α β :=
  match result with
  | .ok value => pure value
  | .error reason => throw (cause reason)

end Action

namespace Evaluator

variable {α : Type} [Scalar α]

/-- The present state of an evaluator. -/
def stateIn (evaluator : Evaluator α) (memory : Memory α) : EvaluatorState α :=
  memory.evaluators.getD evaluator.id evaluator.initialState

/-- Refuse an evaluator that has parameters but not their values. -/
def checkBound (evaluator : Evaluator α) (state : EvaluatorState α) : Action α Unit :=
  if !evaluator.parameters.isEmpty && state.bound.isNone then throw (.unbound evaluator.name)
  else pure ()

/-- Take the values of the parameters from a calibration, unless they come from its present revision
already. Returns whether they were taken anew. -/
def bind (evaluator : Evaluator α) (calibration : Calibration α) : Action α Bool := do
  let state := evaluator.stateIn (← get)
  if (state.bound.map (·.revision)) = some calibration.revision then pure false
  else
    let values ← Action.ofExcept .missingValue
      (evaluator.parameters.mapM calibration.evaluationValue)
    let bound := some { revision := calibration.revision, values }
    modify fun memory =>
      { memory with evaluators := memory.evaluators.insert evaluator.id { state with bound } }
    pure true

/-- The residual at the given inputs. -/
def residual (evaluator : Evaluator α) (inputs : List α) : Action α α := do
  let state := evaluator.stateIn (← get)
  evaluator.checkBound state
  Action.ofExcept .computation (evaluator.program.run inputs state.values)

/-- The residual and its gradient at the given inputs. -/
def residualAndGradient (evaluator : Evaluator α) (inputs : NumberArray α) :
    Action α (α × List α) := do
  let state := evaluator.stateIn (← get)
  evaluator.checkBound state
  let (result, gradient) :=
    state.gradient.call evaluator.program state.values inputs
  modify fun memory =>
    { memory with evaluators := memory.evaluators.insert evaluator.id { state with gradient } }
  Action.ofExcept .gradient result

end Evaluator

end Intertemporal
