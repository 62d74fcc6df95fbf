import Intertemporal.Operators.LagPolynomial
import Intertemporal.Operators.TimeIndex
import Intertemporal.Source.Printer

/-!
# Time operators

The ten operators that move, difference and average a series over time. Each replaces its argument
into a term in which every date is explicit:

- `lag` and `lead` move the dates of their argument;
- `d` is a difference `(1 - L)^n (1 - L^s)`, and `dlog` that of the logarithm;
- `movsum` and `movav` are sums and means over a window of periods, `movsumw` and `movavw` with
  given weights, `movsumew` and `movavew` with the powers of a ratio as weights.

Weights are never lagged. The powers of a ratio that is written as a number are computed at once.
-/

namespace Intertemporal

open Source (Term)

/-- The time operators. -/
inductive Operator
  | lag
  | lead
  | difference
  | logDifference
  | movingSum
  | movingAverage
  | weightedSum
  | weightedAverage
  | exponentialSum
  | exponentialAverage
deriving DecidableEq, Repr

namespace Operator

/-- The name that calls an operator. -/
def name : Operator → String
  | .lag => "lag"
  | .lead => "lead"
  | .difference => "d"
  | .logDifference => "dlog"
  | .movingSum => "movsum"
  | .movingAverage => "movav"
  | .weightedSum => "movsumw"
  | .weightedAverage => "movavw"
  | .exponentialSum => "movsumew"
  | .exponentialAverage => "movavew"

/-- All operators. -/
def all : List Operator :=
  [.lag, .lead, .difference, .logDifference, .movingSum, .movingAverage, .weightedSum,
   .weightedAverage, .exponentialSum, .exponentialAverage]

/-- The operator of a name. -/
def ofName? (name : String) : Option Operator := all.find? (·.name == name)

/-- The arguments of operators that have to be integers. -/
inductive CountName
  /-- How often, or over how many periods, an operator applies. -/
  | times
  /-- The span of a seasonal difference. -/
  | span
deriving DecidableEq, Repr

/-- The letter by which messages name the argument. -/
def CountName.text : CountName → String
  | .times => "n"
  | .span => "s"

/-- Why the arguments of an operator are refused. -/
inductive Misuse (α : Type)
  | keywords (operator : Operator)
  | arity (operator : Operator) (least most given : Nat)
  | missingWeights (operator : Operator)
  | notAnInteger (operator : Operator) (argument : CountName) (given : Term α)
  | negativeOrder (order span : Int)
  | emptyWindow (operator : Operator) (periods : Int)
  | weightCount (operator : Operator) (periods : Int) (given : Nat)

/-- Why a term has no expansion. -/
inductive Failure (α : Type)
  | misuse (reason : Misuse α)
  /-- A time index of no supported form would have to be shifted. -/
  | timeIndex (index : Term α)
  /-- A number is too large for a scalar. -/
  | overflow
  /-- Zero is raised to a negative power. -/
  | zeroDivision

/-- Messages quote the name of an operator with empty parentheses. -/
def Misuse.message {α : Type} [Numeral α] : Misuse α → String
  | .keywords operator => operator.name ++ "() does not take keyword arguments"
  | .arity operator least most given =>
    let expected := if least = most then toString least else s!"{least} to {most}"
    operator.name ++ s!"() takes {expected} arguments, got {given}"
  | .missingWeights operator =>
    operator.name ++ "() takes an expression, a period count and weights"
  | .notAnInteger operator argument given =>
    "In " ++ operator.name ++ "() call `" ++ argument.text ++
      "` must be an integer literal, got " ++ given.text
  | .negativeOrder order span =>
    s!"In d() call `n` and `s` must not be negative, got n={order}, s={span}"
  | .emptyWindow operator periods =>
    "In " ++ operator.name ++ s!"() call the number of periods must be >= 1, got {periods}"
  | .weightCount operator periods given =>
    "Number of weights does not match in " ++ operator.name ++
      s!"(): expected {periods}, got {given}"

/-- The coefficients of `(1 - L)^order (1 - L^span)`. -/
def differenceCoefficients {α : Type} (order span : Int) : Except (Misuse α) (List Int) :=
  if order < 0 ∨ span < 0 then .error (.negativeOrder order span)
  else .ok (LagPolynomial.difference order.toNat span.toNat)

end Operator

namespace Source.Term

open Operator (Failure Misuse CountName)

variable {α : Type}

/-- The lag of a term; an index that cannot be shifted is a failure of the expansion. -/
def lagged (argument : Term α) (periods : Int) : Except (Failure α) (Term α) :=
  (argument.lag periods).mapError .timeIndex

/-- The sum of several terms, from left to right. -/
def sumOf (first : Term α) (others : List (Term α)) : Term α :=
  others.foldl (.binary .add) first

/-- Add a multiple of a term to a sum, without writing a factor of one. -/
def addMultiple (sum : Term α) (coefficient : Int) (term : Term α) : Term α :=
  if coefficient = 1 then .binary .add sum term
  else if coefficient = -1 then .binary .sub sum term
  else if 0 < coefficient then
    .binary .add sum (.binary .mul (.natural coefficient.toNat) term)
  else .binary .sub sum (.binary .mul (.natural (-coefficient).toNat) term)

/-- Add the lags of a term with the given coefficients to a sum, the first of them at the given lag.
Coefficients of zero are left out. -/
def addLags (argument : Term α) (sum : Term α) (lag : Nat) :
    List Int → Except (Failure α) (Term α)
  | [] => .ok sum
  | coefficient :: rest =>
    if coefficient = 0 then addLags argument sum (lag + 1) rest
    else do
      let term ← argument.lagged lag
      addLags argument (addMultiple sum coefficient term) (lag + 1) rest

/-- The difference `(1 - L)^order (1 - L^span)` of a term. -/
def difference (argument : Term α) (order span : Int) : Except (Failure α) (Term α) := do
  let coefficients ← (Operator.differenceCoefficients order span).mapError .misuse
  addLags argument argument 1 (coefficients.drop 1)

/-- The same difference of the logarithm of a term. -/
def logDifference (argument : Term α) (order span : Int) : Except (Failure α) (Term α) :=
  difference (.call (.name "log") [argument] []) order span

/-- A window has at least one period. -/
def checkWindow (operator : Operator) (periods : Int) : Except (Failure α) Unit :=
  if periods < 1 then .error (.misuse (.emptyWindow operator periods)) else .ok ()

/-- Pair each of several weights with a lag of a term, the first of them with the given lag. -/
def weighted (argument : Term α) (lag : Nat) :
    List (Term α) → Except (Failure α) (List (Term α))
  | [] => .ok []
  | weight :: rest => do
    let term ← argument.lagged lag
    let others ← weighted argument (lag + 1) rest
    .ok (.binary .mul weight term :: others)

/-- The lags of a term over a number of periods, the first of them the given one. -/
def lags (argument : Term α) (lag : Nat) : Nat → Except (Failure α) (List (Term α))
  | 0 => .ok []
  | periods + 1 => do
    let term ← argument.lagged lag
    let others ← lags argument (lag + 1) periods
    .ok (term :: others)

/-- The sum of at least one term; there is none of no terms. -/
def sumOfAll (terms : List (Term α)) : Term α :=
  match terms with
  | [] => .natural 0
  | first :: others => sumOf first others

/-- The sum of a term over a window of periods. -/
def movingSum (argument : Term α) (periods : Int) : Except (Failure α) (Term α) := do
  checkWindow .movingSum periods
  let terms ← lags argument 0 periods.toNat
  .ok (sumOfAll terms)

/-- The mean of a term over a window of periods. -/
def movingAverage (argument : Term α) (periods : Int) : Except (Failure α) (Term α) := do
  let sum ← argument.movingSum periods
  .ok (.binary .div sum (.natural periods.toNat))

/-- The weights of a window: a single one for several periods is a vector parameter, whose elements
are the weights. -/
def resolveWeights (operator : Operator) (periods : Int) (weights : List (Term α)) :
    Except (Failure α) (List (Term α)) := do
  checkWindow operator periods
  match weights with
  | [vector] =>
    if 1 < periods then
      .ok ((List.range periods.toNat).map fun element => .subscript vector (.natural element))
    else .ok [vector]
  | _ =>
    if (weights.length : Int) = periods then .ok weights
    else .error (.misuse (.weightCount operator periods weights.length))

/-- The weighted sum of a term over a window of periods. -/
def weightedSum (argument : Term α) (periods : Int) (weights : List (Term α)) :
    Except (Failure α) (Term α) := do
  let weights ← resolveWeights .weightedSum periods weights
  let terms ← weighted argument 0 weights
  .ok (sumOfAll terms)

/-- The weighted mean of a term over a window of periods. -/
def weightedAverage (argument : Term α) (periods : Int) (weights : List (Term α)) :
    Except (Failure α) (Term α) := do
  let divisor ← resolveWeights .weightedAverage periods weights
  let sum ← argument.weightedSum periods weights
  .ok (.binary .div sum (sumOfAll divisor))

variable [Scalar α]

/-- The scalar of a number written in equation text. -/
def ratioOf : Term.Quantity α → Except (Failure α) α
  | .integer value =>
    match Scalar.ofInt? value with
    | some ratio => .ok ratio
    | none => .error .overflow
  | .real value => .ok value

/-- Whether a ratio is one up to a relative difference of `10 ^ -9`. -/
def isNearOne (ratio : α) : Bool :=
  let distance := Scalar.abs (Scalar.one - ratio)
  let tolerance : α := Scalar.ofDecimal 1 (-9)
  ratio == Scalar.one ||
    (Scalar.isFinite ratio &&
      (Scalar.le distance (tolerance * Scalar.one) ||
        Scalar.le distance (Scalar.abs (tolerance * ratio))))

/-- A power of a ratio, unless it is out of range. -/
def powerOf (ratio : α) (exponent : Int) : Except (Failure α) α :=
  match Scalar.ofInt? (α := α) exponent with
  | none => .error .overflow
  | some scalar =>
    if Scalar.isZero ratio ∧ exponent < 0 then .error .zeroDivision
    else
      let result := Scalar.generalPower ratio scalar
      if Scalar.isFinite ratio ∧ ¬Scalar.isFinite result then .error .overflow else .ok result

/-- The powers of a ratio as weights, for lags from the given one on. -/
def ratioWeights (argument : Term α) (ratio : α) (lag : Nat) :
    Nat → Except (Failure α) (List (Term α))
  | 0 => .ok []
  | periods + 1 => do
    let weight ← powerOf ratio lag
    let term ← argument.lagged lag
    let others ← ratioWeights argument ratio (lag + 1) periods
    .ok (.binary .mul (.real weight) term :: others)

/-- The powers of a symbolic ratio, for lags from the given one on. -/
def symbolicWeights (ratio : Term α) (lag : Nat) : Nat → List (Term α)
  | 0 => []
  | periods + 1 => .binary .power ratio (.natural lag) :: symbolicWeights ratio (lag + 1) periods

/-- The sum of a term over a window of periods with the powers of a ratio as weights. A ratio
written as one gives the plain sum. -/
def exponentialSum (argument : Term α) (periods : Int) (ratio : Term α) :
    Except (Failure α) (Term α) := do
  checkWindow .exponentialSum periods
  match ratio.number? with
  | some quantity =>
    let value ← ratioOf quantity
    if isNearOne value then argument.movingSum periods
    else
      let terms ← ratioWeights argument value 1 (periods.toNat - 1)
      .ok (sumOf argument terms)
  | none =>
    let terms ← weighted argument 1 (symbolicWeights ratio 1 (periods.toNat - 1))
    .ok (sumOf argument terms)

/-- The same sum divided by the sum `(1 - r^n) / (1 - r)` of its weights. -/
def exponentialAverage (argument : Term α) (periods : Int) (ratio : Term α) :
    Except (Failure α) (Term α) := do
  match ratio.number? with
  | some quantity =>
    let value ← ratioOf quantity
    if isNearOne value then argument.movingAverage periods
    else
      let power ← powerOf value periods
      let rest := Scalar.one - value
      if Scalar.isZero rest then .error .zeroDivision
      let sum ← argument.exponentialSum periods ratio
      .ok (.binary .div sum (.real ((Scalar.one - power) / rest)))
  | none =>
    let sum ← argument.exponentialSum periods ratio
    .ok (.binary .div (.binary .mul sum (.binary .sub (.natural 1) ratio))
      (.binary .sub (.natural 1) (.binary .power ratio (.natural periods.toNat))))

end Source.Term

namespace Operator

variable {α : Type}

/-- An argument that has to be an integer. -/
def count (operator : Operator) (argument : CountName) (given : Term α) :
    Except (Failure α) Int :=
  match given.integer? with
  | some value => .ok value
  | none => .error (.misuse (.notAnInteger operator argument given))

/-- The integer arguments of a difference: its order and its span, of which the second or both may
be left out. -/
def orders (operator : Operator) : List (Term α) → Except (Failure α) (Int × Int)
  | [] => .ok (1, 0)
  | [order] => do
    let order ← count operator .times order
    .ok (order, 0)
  | order :: span :: _ => do
    let order ← count operator .times order
    let span ← count operator .span span
    .ok (order, span)

variable [Scalar α]

/-- The expansion of a call of an operator with arguments passed by position. -/
def expand (operator : Operator) (arguments : List (Term α)) : Except (Failure α) (Term α) :=
  let refuse (least most : Nat) : Except (Failure α) (Term α) :=
    .error (.misuse (.arity operator least most arguments.length))
  match operator, arguments with
  | .lag, [argument] => argument.lagged 1
  | .lag, [argument, periods] => do
    let periods ← count operator .times periods
    argument.lagged periods
  | .lag, _ => refuse 1 2
  | .lead, [argument] => argument.lagged (-1)
  | .lead, [argument, periods] => do
    let periods ← count operator .times periods
    argument.lagged (-periods)
  | .lead, _ => refuse 1 2
  | .difference, argument :: counts =>
    if counts.length ≤ 2 then do
      let (order, span) ← orders operator counts
      argument.difference order span
    else refuse 1 3
  | .difference, [] => refuse 1 3
  | .logDifference, argument :: counts =>
    if counts.length ≤ 2 then do
      let (order, span) ← orders operator counts
      argument.logDifference order span
    else refuse 1 3
  | .logDifference, [] => refuse 1 3
  | .movingSum, [argument, periods] => do
    let periods ← count operator .times periods
    argument.movingSum periods
  | .movingSum, _ => refuse 2 2
  | .movingAverage, [argument, periods] => do
    let periods ← count operator .times periods
    argument.movingAverage periods
  | .movingAverage, _ => refuse 2 2
  | .weightedSum, argument :: periods :: weight :: weights => do
    let periods ← count operator .times periods
    argument.weightedSum periods (weight :: weights)
  | .weightedSum, _ => .error (.misuse (.missingWeights operator))
  | .weightedAverage, argument :: periods :: weight :: weights => do
    let periods ← count operator .times periods
    argument.weightedAverage periods (weight :: weights)
  | .weightedAverage, _ => .error (.misuse (.missingWeights operator))
  | .exponentialSum, [argument, periods, ratio] => do
    let periods ← count operator .times periods
    argument.exponentialSum periods ratio
  | .exponentialSum, _ => refuse 3 3
  | .exponentialAverage, [argument, periods, ratio] => do
    let periods ← count operator .times periods
    argument.exponentialAverage periods ratio
  | .exponentialAverage, _ => refuse 3 3

end Operator

end Intertemporal
