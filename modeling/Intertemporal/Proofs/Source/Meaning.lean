import Intertemporal.Proofs.Source.Paths
import Intertemporal.Expression.Reading

/-!
# The meaning of equation text

The meaning of a term is stated without expanding anything: a bare name of a series is the path of
the series, and each time operator is what it says it is on paths. `lag` moves a path, `d` takes
differences of it, the window operators sum it with weights that are read at the current date.

Operators also ask what an argument is spelled as. A number of periods has to be an integer, a ratio
that is written as one gives plain sums, and a single weight for several periods names a vector
parameter. Such an argument may come from an operator that leaves what it is applied to as it is,
like a lag of a constant, so a meaning keeps the spelling beside the path.

Whether a written ratio is one is a parameter of the meaning: `Reading.ofText` takes any test for
it, and `isOneUpTo` is the test with a relative tolerance.
-/

namespace Intertemporal

open Source (Term Literal UnaryOperator BinaryOperator)

noncomputable section

/-- What a term is spelled as, if it is no more than a number or a name. -/
inductive Spelling
  | number (quantity : Term.Quantity ℝ)
  | name (identifier : String)

/-- The value of a written number. -/
def Source.Term.Quantity.value : Term.Quantity ℝ → ℝ
  | .integer value => value
  | .real value => value

/-- What a term means: its path, if it has one, and its spelling. -/
@[ext]
structure Meaning where
  path : Option Path := none
  spelling : Option Spelling := none

namespace Meaning

/-- The meaning of what no equation gives a meaning to. -/
def nothing : Meaning := {}

def ofPath (path : Option Path) : Meaning := { path }

/-- The number that a term is spelled as. -/
def number? (meaning : Meaning) : Option (Term.Quantity ℝ) :=
  match meaning.spelling with
  | some (.number quantity) => some quantity
  | _ => none

/-- The name that a term is spelled as. -/
def name? (meaning : Meaning) : Option String :=
  match meaning.spelling with
  | some (.name identifier) => some identifier
  | _ => none

/-- The integer that a term is spelled as. -/
def integer? (meaning : Meaning) : Option Int :=
  match meaning.number? with
  | some (.integer value) => some value
  | _ => none

/-- A number of periods that is not negative. -/
def natural? (meaning : Meaning) : Option Nat :=
  meaning.integer?.bind fun value => if 0 ≤ value then some value.toNat else none

/-- The size of a window: at least one period. -/
def window? (meaning : Meaning) : Option Nat :=
  meaning.integer?.bind fun value => if 1 ≤ value then some value.toNat else none

def ofLiteral : Literal ℝ → Meaning
  | .natural value => ⟨some (.constant value), some (.number (.integer value))⟩
  | .real value => ⟨some (.constant value), some (.number (.real value))⟩
  | _ => nothing

/-- A sign leaves a number a number. -/
def signed : UnaryOperator → Meaning → Meaning
  | .plus, operand => ⟨operand.path, operand.number?.map .number⟩
  | .minus, operand =>
    ⟨operand.path.map NumberSystem.negate, operand.number?.map fun found => .number found.negate⟩
  | _, _ => nothing

def combined (operator : BinaryOperator) (left right : Meaning) : Meaning := .ofPath do
  let operation ← operator.arithmetic?
  let left ← left.path
  let right ← right.path
  some (NumberSystem.arithmetic operation left right)

def applied (function : Function) (arguments : List Meaning) : Meaning := .ofPath do
  let paths ← arguments.mapM path
  function.apply? paths

/-! ### Operators -/

/-- The lag by a number of periods. -/
def moved (periods : Int) (argument : Meaning) : Meaning :=
  { argument with path := argument.path.map (Path.moved periods) }

/-- The difference `1 - L^span`. -/
def differenced (span : Nat) (argument : Meaning) : Meaning :=
  .ofPath (argument.path.map (Path.differenced span))

/-- The difference `(1 - L)^order`, followed by `1 - L^span` unless the span is zero. -/
def difference (order span : Nat) (argument : Meaning) : Meaning :=
  let repeated := (differenced 1)^[order] argument
  if span = 0 then repeated else repeated.differenced span

def log (argument : Meaning) : Meaning :=
  .ofPath (argument.path.map fun path date => Real.log (path date))

/-- The sum over a window. A window of one period leaves its argument as it is. -/
def movingSum (periods : Nat) (argument : Meaning) : Meaning :=
  if periods = 1 then argument
  else .ofPath (argument.path.map fun path date =>
    ∑ lag ∈ Finset.range periods, path (date - lag))

def movingAverage (periods : Nat) (argument : Meaning) : Meaning :=
  .ofPath ((argument.movingSum periods).path.map fun sum date => sum date / periods)

/-- The sum over a window whose lags have the given weights. The weights themselves are not
lagged. -/
def weightedSum (weights : List Path) (argument : Meaning) : Meaning :=
  .ofPath (argument.path.map fun path date =>
    (weights.zipIdx.map fun (weight, lag) => weight date * path (date - lag)).sum)

def weightedAverage (weights : List Path) (argument : Meaning) : Meaning :=
  .ofPath ((argument.weightedSum weights).path.map fun sum date =>
    sum date / (weights.map (· date)).sum)

/-- Whether a ratio is written as a number that counts as one. -/
def countsAsOne (isOne : ℝ → Bool) (ratio : Meaning) : Bool :=
  ratio.number?.any fun quantity => isOne quantity.value

/-- The sum over a window whose lags have the powers of a ratio as weights. -/
def exponentialSum (isOne : ℝ → Bool) (argument : Meaning) (periods : Nat) (ratio : Meaning) :
    Meaning :=
  if ratio.countsAsOne isOne then argument.movingSum periods
  else if periods = 1 then argument
  else .ofPath do
    let path ← argument.path
    let ratio ← ratio.path
    some fun date => ∑ lag ∈ Finset.range periods, ratio date ^ lag * path (date - lag)

/-- The same sum divided by `(1 - r^n) / (1 - r)`. -/
def exponentialAverage (isOne : ℝ → Bool) (argument : Meaning) (periods : Nat) (ratio : Meaning) :
    Meaning :=
  if ratio.countsAsOne isOne then argument.movingAverage periods
  else .ofPath do
    let sum ← (argument.exponentialSum isOne periods ratio).path
    let ratio ← ratio.path
    some fun date => sum date / ((1 - ratio date ^ periods) / (1 - ratio date))

/-- The order and the span of a difference. -/
def orders? : List Meaning → Option (Nat × Nat)
  | [] => some (1, 0)
  | [order] => do
    let order ← order.natural?
    some (order, 0)
  | [order, span] => do
    let order ← order.natural?
    let span ← span.natural?
    some (order, span)
  | _ => none

end Meaning

/-- An element of a vector parameter. -/
def World.element? (world : World) (symbols : SymbolTable) (name : String) (index : Int) :
    Option Path :=
  if symbols.isParameter name then
    (world.parameter name).bind fun value => (value.element index).toOption.map .constant
  else none

/-- What stands in brackets behind a name: the date of a series or the place of an element. -/
def World.indexed? (world : World) (symbols : SymbolTable) (name : String) (index : Term ℝ) :
    Option Path :=
  if symbols.isSeries name then
    index.offset?.map fun offset => (world.series name).moved (-offset)
  else index.integer?.bind (world.element? symbols name)

/-- The weights of a window: a single one `p` for several periods stands for `p[0]`, `p[1]` and so
on. -/
def World.weights? (world : World) (symbols : SymbolTable) (periods : Nat) :
    List Meaning → Option (List Path)
  | [vector] =>
    if 1 < periods then do
      let name ← vector.name?
      (List.range periods).mapM fun index => world.indexed? symbols name (.natural index)
    else [vector].mapM Meaning.path
  | weights => if weights.length = periods then weights.mapM Meaning.path else none

/-- The meaning of a call of a time operator, if it is called properly. -/
def World.operated? (world : World) (symbols : SymbolTable) (isOne : ℝ → Bool) :
    Operator → List Meaning → Option Meaning
  | .lag, [argument] => some (argument.moved 1)
  | .lag, [argument, periods] => do
    let periods ← periods.integer?
    some (argument.moved periods)
  | .lead, [argument] => some (argument.moved (-1))
  | .lead, [argument, periods] => do
    let periods ← periods.integer?
    some (argument.moved (-periods))
  | .difference, argument :: counts => do
    let (order, span) ← Meaning.orders? counts
    some (argument.difference order span)
  | .logDifference, argument :: counts => do
    let (order, span) ← Meaning.orders? counts
    some (argument.log.difference order span)
  | .movingSum, [argument, periods] => do
    let periods ← periods.window?
    some (argument.movingSum periods)
  | .movingAverage, [argument, periods] => do
    let periods ← periods.window?
    some (argument.movingAverage periods)
  | .weightedSum, argument :: periods :: weights => do
    let periods ← periods.window?
    let weights ← world.weights? symbols periods weights
    some (argument.weightedSum weights)
  | .weightedAverage, argument :: periods :: weights => do
    let periods ← periods.window?
    let weights ← world.weights? symbols periods weights
    some (argument.weightedAverage weights)
  | .exponentialSum, [argument, periods, ratio] => do
    let periods ← periods.window?
    some (argument.exponentialSum isOne periods ratio)
  | .exponentialAverage, [argument, periods, ratio] => do
    let periods ← periods.window?
    some (argument.exponentialAverage isOne periods ratio)
  | _, _ => none

/-- How names that stand alone and calls of time operators are read. -/
structure Reading where
  symbols : SymbolTable
  world : World
  bare : String → Meaning
  operated : Operator → List Meaning → Meaning

namespace Reading

/-- The level that `sstate` refers to. -/
def steadyState? (reading : Reading) : List (Term ℝ) → Option Path
  | [.name name] =>
    if reading.symbols.isVariable name then some (.constant (reading.world.steadyState name))
    else none
  | _ => none

/-- A call without arguments passed by name. -/
def called (reading : Reading) (function : Term ℝ) (passed : List (Term ℝ))
    (arguments : List Meaning) : Meaning :=
  match function with
  | .name name =>
    if name == Term.steadyStateName then .ofPath (reading.steadyState? passed)
    else
      match Operator.ofName? name, Function.ofName? name with
      | some operator, _ => reading.operated operator arguments
      | none, some function => .applied function arguments
      | none, none => .nothing
  | _ => .nothing

mutual

/-- The meaning of a term. -/
def meaning (reading : Reading) : Term ℝ → Meaning
  | .literal value => .ofLiteral value
  | .name name => reading.bare name
  | .unary operator operand => .signed operator (reading.meaning operand)
  | .binary operator left right =>
    .combined operator (reading.meaning left) (reading.meaning right)
  | .subscript (.name name) index => .ofPath (reading.world.indexed? reading.symbols name index)
  | .call function passed [] => reading.called function passed (reading.meanings passed)
  | _ => .nothing

/-- The meanings of several terms. -/
def meanings (reading : Reading) : List (Term ℝ) → List Meaning
  | [] => []
  | term :: rest => reading.meaning term :: reading.meanings rest

end

/-- The path of a parameter that is a number. -/
def parameter? (symbols : SymbolTable) (world : World) (name : String) : Option Path :=
  if name ≠ Term.timeName ∧ symbols.isParameter name then
    (world.parameter name).bind fun value => value.toScalar.toOption.map .constant
  else none

/-- The reading of equation text. The bare name of a series is its value at the current date. -/
def ofText (symbols : SymbolTable) (world : World) (isOne : ℝ → Bool) : Reading where
  symbols := symbols
  world := world
  bare name :=
    if symbols.isSeries name then .ofPath (some (world.series name))
    else ⟨parameter? symbols world name, some (.name name)⟩
  operated operator arguments := (world.operated? symbols isOne operator arguments).getD .nothing

end Reading

/-- The path of an equation text: of its only side, or the left side less the right one. -/
def Source.Statement.path? (reading : Reading) (text : String) : Option Path :=
  match (Source.Statement.sides text.toList).map Source.Statement.side with
  | [.ok only] => (reading.meaning only).path
  | [.ok left, .ok right] => do
    let left ← (reading.meaning left).path
    let right ← (reading.meaning right).path
    some fun date => left date - right date
  | _ => none

/-- Whether a written ratio is one up to a relative difference. -/
def isOneUpTo (tolerance ratio : ℝ) : Bool :=
  decide (|1 - ratio| ≤ tolerance * max 1 |ratio|)

end

end Intertemporal
