import Intertemporal.Datum
import Intertemporal.Table

/-!
# Data as keys

Simple data may be the keys of a mapping. Numbers of all kinds are compared by their values, so that
`1`, `1.0` and the truth value of what is true are one key. Text, numbers, days and moments have an
order, but not among each other.
-/

namespace Intertemporal.Datum

variable {α : Type} [Scalar α]

/-- The integer that a datum equals, if there is one. -/
def whole? : Datum α → Option Int
  | .truth value => some (if value then 1 else 0)
  | .integer value => some value
  | .number value =>
    if Scalar.isFinite value && Scalar.ofInt (Scalar.truncate value) == value then
      some (Scalar.truncate value)
    else none
  | _ => none

/-- The number that a datum is, if it is one; integers are rounded. -/
def number? (datum : Datum α) : Option α :=
  match datum with
  | .number value => some value
  | other => other.whole?.map Scalar.ofInt

/-- Whether two data are the same key. -/
def isSameKey (left right : Datum α) : Bool :=
  match left.whole?, right.whole? with
  | some left, some right => left == right
  | none, none =>
    match left, right with
    | .missing, .missing => true
    | .number left, .number right =>
      left == right || (!Scalar.isNumber left && !Scalar.isNumber right)
    | .text left, .text right => left == right
    | .date left, .date right => left == right
    | .moment left, .moment right => left.isSame right
    | _, _ => false
  | _, _ => false

/-- Data are compared as keys. -/
instance : BEq (Datum α) := ⟨isSameKey⟩

/-- The mapping with the given entries: the last value of a repeated key wins. -/
def ofEntries (entries : List (Datum α × Datum α)) : Datum α :=
  let table := Table.ofList entries
  .mapping table.keys table.values

/-- Whether a datum comes before another one in the order of keys, if they have one. -/
def isBefore? (left right : Datum α) : Option Bool :=
  match left, right with
  | .text left, .text right => some (decide (left < right))
  | .date left, .date right => some (decide (left.number < right.number))
  | .moment left, .moment right =>
    if left.isComparable right then some (decide (left.instant < right.instant)) else none
  | left, right =>
    match left.whole?, right.whole? with
    | some left, some right => some (decide (left < right))
    | _, _ =>
      match left.number?, right.number? with
      | some left, some right => some (Scalar.lt left right)
      | _, _ => none

/-- Keys in ascending order, if they have one. A single key always has. -/
def ascending? (keys : List (Datum α)) : Option (List (Datum α)) :=
  match keys with
  | [] => some []
  | [key] => some [key]
  | first :: _ =>
    if keys.all fun key => (isBefore? first key).isSome then
      some (keys.mergeSort fun left right => isBefore? right left != some true)
    else none

end Intertemporal.Datum
