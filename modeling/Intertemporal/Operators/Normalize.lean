import Intertemporal.Operators.Operator

/-!
# Normal terms

Two passes make every date of a term explicit. `Term.atCurrentDate` reads the bare name `x` of a
series as `x[t]`. `Term.expandOperators` then replaces the calls of time operators, innermost first.
-/

namespace Intertemporal.Source.Term

open Intertemporal (Operator)

variable {α : Type}

/-- The function that refers to the steady state of a variable. -/
def steadyStateName : String := "sstate"

/-- Whether a term is the name of the function that refers to steady states. -/
def isSteadyStateName : Term α → Bool
  | .name identifier => identifier == steadyStateName
  | _ => false

mutual

/-- Read the bare name of a series as its value at the current date. A name that is indexed already
stays as it is; of a call only the arguments passed by position are read so, and none if it refers
to a steady state. -/
def atCurrentDate (series : List String) : Term α → Term α
  | .literal value => .literal value
  | .name identifier =>
    if series.contains identifier then .subscript (.name identifier) time else .name identifier
  | .unary operator operand => .unary operator (operand.atCurrentDate series)
  | .binary operator left right =>
    .binary operator (left.atCurrentDate series) (right.atCurrentDate series)
  | .subscript value index => .subscript value (index.atCurrentDate series)
  | .call function passed named =>
    if function.isSteadyStateName then .call function passed named
    else .call function (allAtCurrentDate series passed) named
  | .tuple items => .tuple (allAtCurrentDate series items)
  | .compound shape parts => .compound shape (allAtCurrentDate series parts)

/-- Read the bare names of series in several terms as their values at the current date. -/
def allAtCurrentDate (series : List String) : List (Term α) → List (Term α)
  | [] => []
  | term :: rest => term.atCurrentDate series :: allAtCurrentDate series rest

end

/-- The time operator that a term names. -/
def operator? : Term α → Option Operator
  | .name identifier => Operator.ofName? identifier
  | _ => none

variable [Scalar α]

/-- A call whose parts are expanded already: the expansion, if it calls a time operator. -/
def expandCall (function : Term α) (passed named : List (Term α)) :
    Except (Operator.Failure α) (Term α) :=
  match function.operator? with
  | none => .ok (.call function passed named)
  | some operator =>
    if named.isEmpty then operator.expand passed
    else .error (.misuse (.keywords operator))

mutual

/-- Replace every call of a time operator by its expansion, innermost first. -/
def expandOperators : Term α → Except (Operator.Failure α) (Term α)
  | .literal value => .ok (.literal value)
  | .name identifier => .ok (.name identifier)
  | .unary operator operand => do
    let operand ← operand.expandOperators
    .ok (.unary operator operand)
  | .binary operator left right => do
    let left ← left.expandOperators
    let right ← right.expandOperators
    .ok (.binary operator left right)
  | .subscript value index => do
    let value ← value.expandOperators
    let index ← index.expandOperators
    .ok (.subscript value index)
  | .call function passed named => do
    let function ← function.expandOperators
    let passed ← expandAll passed
    let named ← expandAll named
    expandCall function passed named
  | .tuple items => do
    let items ← expandAll items
    .ok (.tuple items)
  | .compound shape parts => do
    let parts ← expandAll parts
    .ok (.compound shape parts)

/-- Replace every call of a time operator in several terms by its expansion. -/
def expandAll : List (Term α) → Except (Operator.Failure α) (List (Term α))
  | [] => .ok []
  | term :: rest => do
    let term ← term.expandOperators
    let rest ← expandAll rest
    .ok (term :: rest)

end

/-- The term with explicit dates and without time operators. -/
def normalize (series : List String) (term : Term α) : Except (Operator.Failure α) (Term α) :=
  (term.atCurrentDate series).expandOperators

end Intertemporal.Source.Term
