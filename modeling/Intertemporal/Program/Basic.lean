import Intertemporal.Program.Jet
import Intertemporal.Expression.References

/-!
# Compiled expressions

A program is an expression in which every reference is replaced by the slot that holds its value:
inputs are the listed series followed by the listed steady-state levels, parameters are bound apart
from them. `Program.run` evaluates a program in any number system.
-/

namespace Intertemporal

/-- The value of a parameter: a number or a vector of numbers. -/
inductive ParameterValue (α : Type)
  | scalar (value : α)
  | vector (values : List α)

/-- Why a program has no value. -/
inductive ComputationError
  /-- There are fewer inputs than the program reads. -/
  | missingInput
  /-- There are fewer parameters than the program reads. -/
  | missingParameter
  /-- A vector parameter has no element at the given index. -/
  | missingElement
  /-- An element of a parameter that is no vector. -/
  | notAVector
  /-- A vector parameter where a number is needed. -/
  | notAScalar
  /-- A function with the wrong number of arguments. -/
  | wrongArity (function : Function)
deriving DecidableEq, Repr

/-- A compiled expression over numbered inputs and parameters. -/
inductive Program (α : Type)
  | constant (value : α)
  | input (slot : Nat)
  | parameter (slot : Nat)
  | element (slot : Nat) (index : Int)
  | negate (operand : Program α)
  | arithmetic (operation : Arithmetic) (left right : Program α)
  | call (function : Function) (arguments : List (Program α))

/-- The position of an index in a list, negative indices counting from the end. -/
def position? (size : Nat) (index : Int) : Option Nat :=
  let shifted := if index < 0 then index + size else index
  if 0 ≤ shifted ∧ shifted < size then some shifted.toNat else none

namespace ParameterValue

variable {α : Type}

/-- The parameter as a number. -/
def toScalar : ParameterValue α → Except ComputationError α
  | .scalar value => .ok value
  | .vector _ => .error .notAScalar

/-- An element of a vector parameter; negative indices count from the end. -/
def element (index : Int) : ParameterValue α → Except ComputationError α
  | .scalar _ => .error .notAVector
  | .vector values =>
    match (position? values.length index).bind (values[·]?) with
    | some value => .ok value
    | none => .error .missingElement

end ParameterValue

/-- The position of the last occurrence of an item. -/
def lastPosition? {β : Type} [BEq β] (item : β) : List β → Option Nat
  | [] => none
  | first :: rest =>
    match lastPosition? item rest with
    | some position => some (position + 1)
    | none => if first == item then some 0 else none

/-- The items of a list, each once. -/
def distinct {β : Type} [BEq β] (items : List β) : List β := items.foldl appendNew []

namespace References

/-- The input that holds a series: its last place among the listed ones. -/
def seriesSlot? (references : References) (reference : TimedVariable) : Option Nat :=
  lastPosition? reference references.series

/-- The input that holds a steady-state level; the levels follow the distinct series. -/
def steadyStateSlot? (references : References) (name : String) : Option Nat :=
  (lastPosition? name references.steadyStates).map ((distinct references.series).length + ·)

/-- The place of a parameter among the listed ones. -/
def parameterSlot? (references : References) (name : String) : Option Nat :=
  lastPosition? name references.parameters

end References

/-- An expression refers to something that is not listed. -/
structure UnlistedReference where
deriving DecidableEq, Repr

namespace Expression

variable {α : Type}

/-- The slot of a reference. -/
def slotOf (slot : Option Nat) (program : Nat → Program α) :
    Except UnlistedReference (Program α) :=
  match slot with
  | some position => .ok (program position)
  | none => .error {}

mutual

/-- The program of an expression over listed references. A sign of plus leaves no trace. -/
def compile (references : References) : Expression α → Except UnlistedReference (Program α)
  | .constant value => .ok (.constant value)
  | .series reference => slotOf (references.seriesSlot? reference) .input
  | .steadyState name => slotOf (references.steadyStateSlot? name) .input
  | .parameter name none => slotOf (references.parameterSlot? name) .parameter
  | .parameter name (some index) => slotOf (references.parameterSlot? name) (.element · index)
  | .unary .plus operand => operand.compile references
  | .unary .minus operand => do
    let operand ← operand.compile references
    .ok (.negate operand)
  | .binary operation left right => do
    let left ← left.compile references
    let right ← right.compile references
    .ok (.arithmetic operation left right)
  | .call function arguments => do
    let arguments ← compileAll references arguments
    .ok (.call function arguments)

/-- The programs of several expressions. -/
def compileAll (references : References) :
    List (Expression α) → Except UnlistedReference (List (Program α))
  | [] => .ok []
  | expression :: rest => do
    let first ← expression.compile references
    let others ← compileAll references rest
    .ok (first :: others)

end

end Expression

/-- A built-in function on values that are there already. -/
def Function.apply {α β : Type} [NumberSystem α β] (function : Function) (arguments : List β) :
    Except ComputationError β :=
  match function.apply? arguments with
  | some value => .ok value
  | none => .error (.wrongArity function)

namespace Program

variable {α β : Type} [NumberSystem α β]

/-- The input of a slot. -/
def inputOf (inputs : List β) (slot : Nat) : Except ComputationError β :=
  match inputs[slot]? with
  | some value => .ok value
  | none => .error .missingInput

/-- The parameter of a slot. -/
def parameterOf (parameters : List (ParameterValue α)) (slot : Nat) :
    Except ComputationError (ParameterValue α) :=
  match parameters[slot]? with
  | some value => .ok value
  | none => .error .missingParameter

mutual

/-- The value of a program for given inputs and parameters. Operands are evaluated from left to
right, and the first error is the result. -/
def run (inputs : List β) (parameters : List (ParameterValue α)) :
    Program α → Except ComputationError β
  | .constant value => .ok (NumberSystem.constant value)
  | .input slot => inputOf inputs slot
  | .parameter slot => do
    let value ← parameterOf parameters slot
    let scalar ← value.toScalar
    .ok (NumberSystem.constant scalar)
  | .element slot index => do
    let value ← parameterOf parameters slot
    let scalar ← value.element index
    .ok (NumberSystem.constant scalar)
  | .negate operand => do
    let operand ← operand.run inputs parameters
    .ok (NumberSystem.negate operand)
  | .arithmetic operation left right => do
    let left ← left.run inputs parameters
    let right ← right.run inputs parameters
    .ok (NumberSystem.arithmetic operation left right)
  | .call function arguments => do
    let arguments ← runAll inputs parameters arguments
    function.apply arguments

/-- The values of several programs. -/
def runAll (inputs : List β) (parameters : List (ParameterValue α)) :
    List (Program α) → Except ComputationError (List β)
  | [] => .ok []
  | program :: rest => do
    let first ← program.run inputs parameters
    let others ← runAll inputs parameters rest
    .ok (first :: others)

end

end Program

end Intertemporal
