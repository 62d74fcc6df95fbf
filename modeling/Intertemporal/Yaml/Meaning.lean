import Intertemporal.Datum.Key
import Intertemporal.Yaml.Node

/-!
# The meaning of a document

A document denotes a datum: its scalars are read as their tags say, and its collections hold the
data of their nodes. A mapping may take over the entries of other ones under the key `<<`; its own
entries win over those, and the first of several mappings wins over the later ones.
-/

namespace Intertemporal.Yaml

variable {α : Type} [Scalar α]

/-! ## Scalars -/

/-- The number that is left to `base` by digits of that base. -/
def digitsOf (base : Nat) (digits : List Char) : Except Fault Int :=
  if Tag.consistsOf (fun char => (Text.digit? base char).isSome) digits then
    .ok (Text.ofDigits base digits)
  else .error .value

/-- A decimal integer. -/
def decimalOf (digits : List Char) : Except Fault Int :=
  match Decimal.readInteger? (String.ofList digits) with
  | some value => .ok value
  | none => .error .value

/-- An integer without its sign: binary, octal, hexadecimal, decimal, or decimal digits to base
sixty. -/
def magnitudeOf (text : List Char) : Except Fault Int :=
  match text with
  | [] => .error .empty
  | ['0'] => .ok 0
  | '0' :: 'b' :: digits => digitsOf 2 digits
  | '0' :: 'x' :: digits => digitsOf 16 digits
  | '0' :: digits => digitsOf 8 digits
  | digits => do
    let parts ← (Tag.splitColons digits).mapM decimalOf
    .ok (parts.foldl (fun value part => 60 * value + part) 0)

/-- The integer that a text denotes. -/
def integerOf (text : String) : Except Fault Int := do
  let (negative, digits) := Decimal.splitSign (text.toList.filter (· != '_'))
  let magnitude ← magnitudeOf digits
  .ok (if negative then -magnitude else magnitude)

/-- The value of numbers to base sixty, the last one first, where the next one counts `weight`. -/
def sixtieths (weight : Nat) (value : α) : List α → α
  | [] => value
  | digit :: rest => sixtieths (60 * weight) (value + digit * Scalar.ofNat weight) rest

/-- The number that a text denotes. -/
def numberOf (text : String) : Except Fault α := do
  let chars := (text.toList.filter (· != '_')).map Char.toLower
  let (negative, digits) := Decimal.splitSign chars
  if chars.isEmpty then throw .empty
  let magnitude ←
    if digits == ".inf".toList then .ok Scalar.infinity
    else if digits == ".nan".toList then .ok Scalar.undefined
    else
      match (Tag.splitColons digits).mapM fun part => Decimal.readScalar? (String.ofList part) with
      | none => .error .value
      | some [value] => .ok value
      | some parts => .ok (sixtieths 1 Scalar.zero parts.reverse)
  .ok (if negative then -magnitude else magnitude)

/-- The day or the moment that a text denotes. -/
def timeOf (text : String) : Except Fault (Datum α) :=
  match Timestamp.ofText? text.toList with
  | some (.day value) => if value.isReal then .ok (.date value) else .error .value
  | some (.moment value) => if value.isReal then .ok (.moment value) else .error .value
  | none => .error .form

/-- The truth value that a text denotes. -/
def truthOf (text : String) : Except Fault Bool :=
  let word := String.ofList (text.toList.map Char.toLower)
  if Tag.trueWords.contains word then .ok true
  else if Tag.falseWords.contains word then .ok false
  else .error .word

/-- The datum that a scalar denotes. -/
def scalarDatum (tag : Tag) (text : String) : Except Fault (Datum α) :=
  match tag with
  | .missing => .ok .missing
  | .truth => (truthOf text).map .truth
  | .integer => (integerOf text).map .integer
  | .number => (numberOf text).map .number
  | .text => .ok (.text text)
  | .timestamp => timeOf text
  | _ => .error .meaning

/-! ## Faults level by level -/

/-- A value that has been read from a tree, with the faults that were found, level by level. The
faults at one depth count before the deeper ones. A value with a fault means nothing. -/
structure Leveled (β : Type) where
  value : β
  faults : List (List Fault) := []

namespace Leveled

variable {β γ δ : Type}

/-- The faults of two trees side by side. -/
def sideBySide : List (List Fault) → List (List Fault) → List (List Fault)
  | [], right => right
  | left, [] => left
  | left :: lefts, right :: rights => (left ++ right) :: sideBySide lefts rights

/-- Apply a function to a value. -/
def map (change : β → γ) (read : Leveled β) : Leveled γ := ⟨change read.value, read.faults⟩

/-- Two values at the same depth. -/
def both (join : β → γ → δ) (left : Leveled β) (right : Leveled γ) : Leveled δ :=
  ⟨join left.value right.value, sideBySide left.faults right.faults⟩

/-- Several values at the same depth. -/
def all : List (Leveled β) → Leveled (List β)
  | [] => ⟨[], []⟩
  | first :: rest => first.both List.cons (all rest)

/-- A value with faults at its own depth. -/
def withFaults (value : β) (faults : List Fault) : Leveled β := ⟨value, [faults]⟩

/-- A value that is read at the next depth. -/
def deeper (read : Leveled β) : Leveled β := ⟨read.value, [] :: read.faults⟩

/-- The value, or the fault that counts. -/
def result (read : Leveled β) : Except Fault β :=
  match read.faults.flatten with
  | [] => .ok read.value
  | fault :: _ => .error fault

end Leveled

/-! ## Collections -/

/-- Whether a datum is a collection, which cannot be a key. -/
def isCollection : Datum α → Bool
  | .sequence _ => true
  | .mapping _ _ => true
  | _ => false

/-- An entry of a mapping. -/
def entryOf (key value : Leveled (Datum α)) : Leveled (Datum α × Datum α) :=
  let refused := if isCollection key.value then [Fault.meaning] else []
  (key.both (fun key _ => key) (.withFaults () refused)).both Prod.mk value

/-- The entries of a mapping: the ones that it takes over, and its own. Whether it can take them
over is seen before any of them is read. -/
structure Entries (α : Type) where
  merged : List (Leveled (Datum α × Datum α)) := []
  own : List (Leveled (Datum α × Datum α)) := []
  faults : List Fault := []

/-- All entries; later ones win. -/
def Entries.all (entries : Entries α) : List (Leveled (Datum α × Datum α)) :=
  entries.merged ++ entries.own

/-- The mapping with the given entries. -/
def Entries.toDatum (entries : Entries α) : Leveled (Datum α) :=
  (Leveled.withFaults () entries.faults).both (fun _ all => .ofEntries all) (.all entries.all)

/-- The datum of a node whose tag does not fit. That it is no collection is seen late. -/
def misplaced (tag : Tag) : Leveled (Datum α) :=
  let refused := Leveled.withFaults (Datum.sequence []) [.meaning]
  if tag = .sequence ∨ tag = .mapping then refused.deeper else refused

namespace Node

mutual

/-- The datum that a node denotes. -/
def toDatum : Node → Leveled (Datum α)
  | .scalar tag text =>
    match scalarDatum tag text with
    | .ok datum => ⟨datum, []⟩
    | .error .meaning => misplaced tag
    | .error fault => .withFaults .missing [fault]
  | .sequence .sequence items =>
    ((Leveled.all (itemData items)).map .sequence).deeper
  | .mapping .mapping entries => (entryData entries).toDatum.deeper
  | node => misplaced node.tag

/-- The data of several nodes. -/
def itemData : List Node → List (Leveled (Datum α))
  | [] => []
  | item :: rest => item.toDatum :: itemData rest

/-- The data of entries. The key `=` is text. -/
def entryData : List (Node × Node) → Entries α
  | [] => {}
  | (key, value) :: rest =>
    let others := entryData rest
    if key.tag = .merge then
      let taken := takenOver value
      { others with merged := taken.all ++ others.merged, faults := taken.faults ++ others.faults }
    else
      let keyDatum := if key.tag = .standIn then ⟨.text "=", []⟩ else key.toDatum
      { others with own := entryOf keyDatum value.toDatum :: others.own }

/-- The entries that a mapping takes over from a node: from a mapping or from several. -/
def takenOver : Node → Entries α
  | .mapping _ entries => entryData entries
  | .sequence _ items => takenFromAll items
  | .scalar _ _ => { faults := [.meaning] }

/-- The entries that a mapping takes over from several mappings, those of the first one last. -/
def takenFromAll : List Node → Entries α
  | [] => {}
  | .mapping _ entries :: rest =>
    let first := entryData entries
    let others := takenFromAll rest
    { merged := others.all ++ first.all, faults := first.faults ++ others.faults }
  | _ => { faults := [.meaning] }

end

end Node

/-- The datum that a text denotes; a text without a document denotes nothing. -/
def read (text : String) : Except Fault (Datum α) := do
  match ← Node.ofText? text with
  | some root => root.toDatum.result
  | none => .ok .missing

end Intertemporal.Yaml
