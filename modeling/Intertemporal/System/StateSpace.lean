import Intertemporal.System.Linearization

/-!
# First-order form

A linearized model is written with two dates only:

forward · x(t+1) + backward · x(t) + exogenous · z(t) = 0

The state `x` stacks backward and forward states, and `z` holds the exogenous entries. A backward
state `(v, k)` with `k ≤ 0` holds `v` at date `t + k - 1`, a forward state `(v, k)` with `k ≥ 0`
holds `v` at date `t + k`, and an exogenous entry `(v, k)` holds `v` at date `t + k`. A variable
that is referenced only at the current date has the one backward state `(v, 0)`.

Where a variable is referenced more than one period away it has several states, and link equations
after those of the model say that they belong to one series.
-/

namespace Intertemporal

/-- The three matrices of a first-order form. -/
inductive Block
  | forward
  | backward
  | exogenous
deriving DecidableEq, Repr

/-- An entry of one of the matrices. -/
structure BlockEntry (α : Type) where
  block : Block
  row : Nat
  column : Nat
  value : α

/-- The states and the exogenous entries of a first-order form. -/
structure StateKeys where
  backward : List TimedVariable := []
  forward : List TimedVariable := []
  exogenous : List TimedVariable := []
deriving DecidableEq, Repr

/-- An equation that ties two states together: the one in `ahead` at the next date is the one in
`behind` now. -/
structure Link where
  ahead : Nat
  behind : Nat
  label : String
deriving DecidableEq, Repr

namespace StateKeys

/-- The integers from one to another, both included. -/
def integersBetween (first last : Int) : List Int :=
  (List.range (last - first + 1).toNat).map fun (index : Nat) => first + index

/-- The states of a variable that is referenced from the offset `first` to the offset `last`. -/
def ofVariable (name : String) (first last : Int) : StateKeys :=
  if first = 0 ∧ last = 0 then { backward := [⟨name, 0⟩] }
  else
    { backward := (integersBetween 1 (-first)).map fun step => ⟨name, 1 - step⟩
      forward := (integersBetween 1 last).map fun step => ⟨name, step - 1⟩ }

/-- The entries of a series that is referenced from the offset `first` to the offset `last`. -/
def ofSeries (name : String) (given : Bool) (first last : Int) : StateKeys :=
  if given then { exogenous := (integersBetween first last).map fun offset => ⟨name, offset⟩ }
  else ofVariable name first last

/-- The keys of one series after those of others. -/
def append (keys added : StateKeys) : StateKeys :=
  { backward := keys.backward ++ added.backward
    forward := keys.forward ++ added.forward
    exogenous := keys.exogenous ++ added.exogenous }

/-- The keys of all series of a model. -/
def ofModel {α : Type} (model : Model α) : StateKeys :=
  (model.symbols.series.map fun (name, given) =>
    ofSeries name given (model.horizon.range name).1 (model.horizon.range name).2).foldl append {}

/-- The number of states. -/
def size (keys : StateKeys) : Nat := keys.backward.length + keys.forward.length

/-- The column of a backward state. -/
def backwardColumn? (keys : StateKeys) (key : TimedVariable) : Option Nat :=
  keys.backward.idxOf? key

/-- The column of a forward state; these follow the backward states. -/
def forwardColumn? (keys : StateKeys) (key : TimedVariable) : Option Nat :=
  (keys.forward.idxOf? key).map (keys.backward.length + ·)

/-- The column of an exogenous entry. -/
def exogenousColumn? (keys : StateKeys) (key : TimedVariable) : Option Nat :=
  keys.exogenous.idxOf? key

/-- Where the coefficient on a reference goes. The current date of a variable that has both a
backward and a forward state is the backward state at the next date. -/
def target? (keys : StateKeys) (reference : TimedVariable) : Option (Block × Nat) :=
  let { name, offset } := reference
  match keys.exogenousColumn? reference with
  | some column => some (.exogenous, column)
  | none =>
    if offset < 0 then
      (keys.backwardColumn? ⟨name, offset + 1⟩).map fun column => (.backward, column)
    else if 0 < offset then
      (keys.forwardColumn? ⟨name, offset - 1⟩).map fun column => (.forward, column)
    else
      match keys.backwardColumn? ⟨name, 0⟩ with
      | some column => some (.forward, column)
      | none => (keys.forwardColumn? ⟨name, 0⟩).map fun column => (.backward, column)

/-- The link of a forward state to the one a period nearer, or to the backward state of the current
date if there is one. -/
def forwardLink? (keys : StateKeys) (key : TimedVariable) : Option Link :=
  let { name, offset } := key
  if offset = 0 then do
    let ahead ← keys.backwardColumn? ⟨name, 0⟩
    let behind ← keys.forwardColumn? ⟨name, 0⟩
    some { ahead, behind, label := "link_" ++ name ++ "_bf" }
  else do
    let ahead ← keys.forwardColumn? ⟨name, offset - 1⟩
    let behind ← keys.forwardColumn? ⟨name, offset⟩
    some { ahead, behind, label := "link_" ++ name ++ "_f" ++ toString offset }

/-- The link of a backward state to the one a period nearer. -/
def backwardLink? (keys : StateKeys) (key : TimedVariable) : Option Link :=
  let { name, offset } := key
  if offset = 0 then none
  else do
    let ahead ← keys.backwardColumn? ⟨name, offset⟩
    let behind ← keys.backwardColumn? ⟨name, offset + 1⟩
    some { ahead, behind, label := "link_" ++ name ++ "_b" ++ toString (-offset) }

/-- All links: those of forward states, then those of backward states. -/
def links (keys : StateKeys) : List Link :=
  keys.forward.filterMap keys.forwardLink? ++ keys.backward.filterMap keys.backwardLink?

end StateKeys

/-- A linearized model in first-order form. -/
structure StateSpace (α : Type) where
  linearization : Linearization α
  keys : StateKeys
  /-- The names of the equations and of the links. The matrices have a row for every state; further
  rows are zero. -/
  rowNames : List String
  entries : List (BlockEntry α)

namespace StateSpace

variable {α : Type} [Scalar α]

/-- The number of columns of a matrix. -/
def width (space : StateSpace α) : Block → Nat
  | .exogenous => space.keys.exogenous.length
  | _ => space.keys.size

/-- An entry of a matrix. -/
def coefficient (space : StateSpace α) (block : Block) (row column : Nat) : α :=
  match space.entries.find? fun entry =>
      entry.block == block && entry.row == row && entry.column == column with
  | some entry => entry.value
  | none => Scalar.zero

/-- A matrix as rows. -/
def matrix (space : StateSpace α) (block : Block) : List (List α) :=
  (List.range space.keys.size).map fun row =>
    (List.range (space.width block)).map (space.coefficient block row)

/-- The names of all rows, empty for those that are neither equations nor links. -/
def rowLabels (space : StateSpace α) : List String :=
  space.rowNames ++ List.replicate (space.keys.size - space.rowNames.length) ""

/-- The matrix entry that an entry of the Jacobian becomes. -/
def place (keys : StateKeys) (labels : List TimedVariable) (entry : (Nat × Nat) × α) :
    Except (Error α) (BlockEntry α) :=
  let ((row, column), value) := entry
  let reference := labels.getD column ⟨"", 0⟩
  match keys.target? reference with
  | some (block, target) => .ok { block, row, column := target, value }
  | none => .error (.missingState reference.name reference.offset)

/-- The two matrix entries of a link. -/
def linkEntries (row : Nat) (link : Link) : List (BlockEntry α) :=
  [{ block := .forward, row, column := link.ahead, value := Scalar.one },
   { block := .backward, row, column := link.behind, value := -Scalar.one }]

/-- The matrix entries of links, in rows from a given one on. -/
def linkRows (row : Nat) : List Link → List (BlockEntry α)
  | [] => []
  | link :: rest => linkEntries row link ++ linkRows (row + 1) rest

/-- The first-order form of a model. -/
def ofModel (model : Model α) : Action α (StateSpace α) := do
  let linearization ← Linearization.ofModel model true
  let keys := StateKeys.ofModel model
  let links := keys.links
  let stated := model.equations.length
  let rows := stated + links.length
  if keys.size < rows then
    throw (.tooFewStates model.name rows stated links.length keys.size)
  let system := linearization.system
  let (_, jacobian) ← system.residualsAndJacobian model.calibration linearization.forms
    linearization.point
  let entries ← Action.ofExcept (fun reason => reason)
    (jacobian.triples.mapM (place keys system.labels))
  Action.record (.firstOrder model.name keys.backward.length keys.forward.length
    keys.exogenous.length links.length)
  pure
    { linearization, keys
      rowNames := model.equations.map (·.name) ++ links.map (·.label)
      entries := entries ++ linkRows stated links }

end StateSpace

end Intertemporal
