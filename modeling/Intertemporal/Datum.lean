import Intertemporal.Decimal.Layout
import Intertemporal.Decimal.Reading
import Intertemporal.Moment
import Intertemporal.Text.Quoted

/-!
# Data from callers

Options, parameter values and evaluation points come in as data whose kind is only known when it is
looked at: numbers, numbers in text, lists of them. A datum is such a piece of input; it is
converted to a scalar, an integer or an array at the place where it is used.

An array is rectangular: every list of the same depth has the same length. Its entries are listed in
row-major order.
-/

namespace Intertemporal

/-- A piece of input of any kind. -/
inductive Datum (α : Type)
  | missing
  | truth (value : Bool)
  | integer (value : Int)
  | number (value : α)
  | text (value : String)
  | date (value : Date)
  | moment (value : Moment)
  | sequence (items : List (Datum α))
  | mapping (keys values : List (Datum α))
deriving Inhabited

/-- Why a datum cannot be used. -/
inductive ConversionError
  /-- A text or an undefined number where a number is needed. -/
  | notANumber
  /-- A datum of a kind that never is a number. -/
  | wrongKind
  /-- A number that is out of range. -/
  | overflow
  /-- Lists of different lengths at one depth. -/
  | ragged
  /-- A parameter value of more than one dimension. -/
  | notAVector (parameter : String)
deriving DecidableEq, Repr

/-- The wording of a refused conversion. -/
def ConversionError.message : ConversionError → String
  | .notANumber => "Not a number"
  | .wrongKind => "Not of a numeric kind"
  | .overflow => "A number is out of range"
  | .ragged => "Lists of different lengths"
  | .notAVector parameter => "Parameter '" ++ parameter ++ "' must be a scalar or a 1-D vector"

/-- A rectangular array of any number of dimensions. -/
structure NumberArray (α : Type) where
  shape : List Nat
  entries : List α

namespace Datum

variable {α : Type}

mutual

/-- A datum as it is shown inside other data: text in quotes. -/
def shown [Numeral α] : Datum α → String
  | .missing => "None"
  | .truth value => if value then "True" else "False"
  | .integer value => toString value
  | .number value => Numeral.exact value
  | .text value => Text.quoted value
  | .date value => value.shown
  | .moment value => value.shown
  | .sequence items => "[" ++ ", ".intercalate (shownAll items) ++ "]"
  | .mapping keys values =>
    "\x7b" ++ ", ".intercalate
      (List.zipWith (fun key value => key ++ ": " ++ value) (shownAll keys) (shownAll values)) ++
      "\x7d"

/-- Several data as they are shown inside other data. -/
def shownAll [Numeral α] : List (Datum α) → List String
  | [] => []
  | datum :: rest => datum.shown :: shownAll rest

end

/-- A datum as it is shown on its own: text without quotes. -/
def display [Numeral α] : Datum α → String
  | .text value => value
  | .date value => value.text
  | .moment value => value.text
  | datum => datum.shown

variable [Scalar α]

/-- The scalar of an integer in range. -/
def scalarOfInteger (value : Int) : Except ConversionError α :=
  match Scalar.ofInt? value with
  | some scalar => .ok scalar
  | none => .error .overflow

/-- The scalar of a text. -/
def scalarOfText (value : String) : Except ConversionError α :=
  match Decimal.readScalar? value with
  | some scalar => .ok scalar
  | none => .error .notANumber

/-- The scalar that a datum stands for. -/
def toScalar : Datum α → Except ConversionError α
  | .truth value => .ok (if value then Scalar.one else Scalar.zero)
  | .integer value => scalarOfInteger value
  | .number value => .ok value
  | .text value => scalarOfText value
  | _ => .error .wrongKind

/-- The integer that a datum stands for: numbers lose their fraction. -/
def toInteger : Datum α → Except ConversionError Int
  | .truth value => .ok (if value then 1 else 0)
  | .integer value => .ok value
  | .number value =>
    if !Scalar.isNumber value then .error .notANumber
    else if !Scalar.isFinite value then .error .overflow
    else .ok (Scalar.truncate value)
  | .text value =>
    match Decimal.readInteger? value with
    | some whole => .ok whole
    | none => .error .notANumber
  | _ => .error .wrongKind

/-- The number in a place of an array. A missing one is undefined. -/
def toEntry : Datum α → Except ConversionError α
  | .missing => .ok Scalar.undefined
  | datum => datum.toScalar

/-- The number that is put into a place of an array; no list fits into one. -/
def toElement : Datum α → Except ConversionError α
  | .sequence _ => .error .ragged
  | datum => datum.toEntry

mutual

/-- The shape of the array that nested lists form, if lists of one depth have one shape. -/
def shape? : Datum α → Option (List Nat)
  | .sequence items =>
    match shapes? items with
    | none => none
    | some [] => some [0]
    | some (first :: rest) =>
      if rest.all (· == first) then some (items.length :: first) else none
  | _ => some []

/-- The shapes of several data. -/
def shapes? : List (Datum α) → Option (List (List Nat))
  | [] => some []
  | datum :: rest =>
    match datum.shape?, shapes? rest with
    | some first, some others => some (first :: others)
    | _, _ => none

end

mutual

/-- The data in nested lists. -/
def leaves : Datum α → List (Datum α)
  | .sequence items => allLeaves items
  | datum => [datum]

/-- The data in several nested lists. -/
def allLeaves : List (Datum α) → List (Datum α)
  | [] => []
  | datum :: rest => datum.leaves ++ allLeaves rest

end

/-- The array that nested lists of numbers form. -/
def toArray (datum : Datum α) : Except ConversionError (NumberArray α) :=
  match datum.shape? with
  | none => .error .ragged
  | some shape => do
    let entries ← datum.leaves.mapM toEntry
    .ok ⟨shape, entries⟩

end Datum

namespace NumberArray

variable {α : Type}

/-- Positions in arrays are less than this number, and at least its negative. -/
def positionLimit : Int := Nat.pow 2 63

/-- Whether a number can be a position in an array, which may be counted from the end. -/
def isPosition (position : Int) : Bool := -positionLimit ≤ position && position < positionLimit

/-- The shape of an array, as messages show it. -/
def shapeText (shape : List Int) : String := Text.tupleText (shape.map toString)

/-- The array of one dimension with the given entries. -/
def ofList (entries : List α) : NumberArray α := ⟨[entries.length], entries⟩

/-- The shape of an array as integers. -/
def sizes (array : NumberArray α) : List Int := array.shape.map Int.ofNat

/-- The number of columns of an array of two dimensions. -/
def columns (array : NumberArray α) : Nat := (array.shape.drop 1).headD 0

/-- An entry of an array of two dimensions. -/
def get? (array : NumberArray α) (row column : Nat) : Option α :=
  if column < array.columns then array.entries[row * array.columns + column]? else none

/-- The rows of an array of two dimensions. -/
def rows (array : NumberArray α) : List (List α) :=
  (List.range (array.shape.headD 0)).map fun row =>
    (array.entries.drop (row * array.columns)).take array.columns

/-- The array with the given rows of one length. -/
def ofRows (columns : Nat) (rows : List (List α)) : NumberArray α :=
  ⟨[rows.length, columns], rows.flatten⟩

end NumberArray

end Intertemporal
