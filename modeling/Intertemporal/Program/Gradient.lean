import Intertemporal.Datum
import Intertemporal.Program.Basic

/-!
# Gradients in chunks

The gradient of a program of `n` inputs is computed in passes. Each pass seeds a chunk of
consecutive inputs with unit derivatives, evaluates the program on duals and reads off the
derivatives with respect to these inputs. The duals of the inputs and the gradient that is being
filled are kept from call to call, also when a call fails in the middle of a pass; that no result
shows what an earlier call left there is a property of the passes.
-/

namespace Intertemporal

/-- Why a gradient cannot be set up or computed. -/
inductive GradientError
  | negativeInputs (inputs : Int)
  | chunkRange (inputs chunk : Int)
  | inputShape (inputs : Nat) (shape : List Int)
  | computation (reason : ComputationError)
deriving DecidableEq, Repr

/-- The wording of the error. -/
def GradientError.message : GradientError → String
  | .negativeInputs inputs => s!"n_inputs must be >= 0, got {inputs}"
  | .chunkRange inputs chunk => s!"chunk must be in [1, {inputs}], got {chunk}"
  | .inputShape inputs shape =>
    s!"Expected {inputs} inputs, got array of shape " ++ NumberArray.shapeText shape
  | .computation _ => "The program has no value"

/-- The most inputs that are seeded at once unless the options say otherwise. -/
def defaultChunkLimit : Int := 4

/-- The number of inputs that are seeded at once. -/
def chunkFor (inputs limit : Int) : Int := min inputs limit

/-- The state of a gradient: the duals of the inputs and the derivatives read off so far. -/
structure Gradient (α : Type) where
  inputs : Nat
  chunk : Nat
  workspace : List (Dual α chunk)
  result : List α

namespace Gradient

variable {α : Type} [Scalar α]

/-- The derivatives of an input that is not seeded. -/
def unseeded (chunk : Nat) : Vector α chunk := Vector.replicate chunk Scalar.zero

/-- The derivatives of the input that stands at the given place of its chunk. -/
def seed (chunk place : Nat) : Vector α chunk :=
  Vector.ofFn fun index => if index.val = place then Scalar.one else Scalar.zero

/-- A gradient before any call. -/
def fresh (inputs chunk : Nat) : Gradient α :=
  { inputs, chunk
    workspace := List.replicate inputs ⟨Scalar.zero, unseeded chunk⟩
    result := List.replicate inputs Scalar.zero }

/-- Set up a gradient. With inputs to seed there is room for one of them at least and for all of
them at most. -/
def create (inputs chunk : Int) : Except GradientError (Gradient α) :=
  if inputs < 0 then .error (.negativeInputs inputs)
  else if 0 < inputs ∧ ¬(1 ≤ chunk ∧ chunk ≤ inputs) then .error (.chunkRange inputs chunk)
  else .ok (fresh inputs.toNat chunk.toNat)

/-- Give every input a value and no derivatives. -/
def load (gradient : Gradient α) (values : List α) : Gradient α :=
  { gradient with workspace := values.map fun value => ⟨value, unseeded gradient.chunk⟩ }

/-- Give the inputs of the chunk that begins at `start` their unit derivatives. -/
def seedChunk (gradient : Gradient α) (start : Nat) : Gradient α :=
  { gradient with
    workspace := gradient.workspace.mapIdx fun index input =>
      if start ≤ index ∧ index < start + gradient.chunk then
        ⟨input.value, seed gradient.chunk (index - start)⟩
      else input }

/-- Take the derivatives of that chunk away again. -/
def clearChunk (gradient : Gradient α) (start : Nat) : Gradient α :=
  { gradient with
    workspace := gradient.workspace.mapIdx fun index input =>
      if start ≤ index ∧ index < start + gradient.chunk then
        ⟨input.value, unseeded gradient.chunk⟩
      else input }

/-- Read the derivatives with respect to that chunk off a result. -/
def store (gradient : Gradient α) (start : Nat) (output : Jet α gradient.chunk) : Gradient α :=
  { gradient with
    result := gradient.result.mapIdx fun index derivative =>
      if start ≤ index then
        if inChunk : index - start < gradient.chunk then output.partials[index - start]
        else derivative
      else derivative }

/-- The passes over chunks that begin at the given inputs, and the value of the last of them. The
state after a failed pass is the one in which it failed. -/
def passes (program : Program α) (parameters : List (ParameterValue α)) :
    List Nat → α → Gradient α → Except ComputationError α × Gradient α
  | [], value, gradient => (.ok value, gradient)
  | start :: rest, _, gradient =>
    let seeded := gradient.seedChunk start
    match program.run (seeded.workspace.map Jet.dual) parameters with
    | .error reason => (.error reason, seeded)
    | .ok output =>
      passes program parameters rest output.value ((seeded.store start output).clearChunk start)

/-- The inputs at which the chunks begin. -/
def starts (inputs chunk : Nat) : List Nat :=
  (List.range ((inputs + chunk - 1) / chunk)).map (· * chunk)

/-- The value and the gradient of a program at given inputs. -/
def call (gradient : Gradient α) (program : Program α) (parameters : List (ParameterValue α))
    (inputs : NumberArray α) : Except GradientError (α × List α) × Gradient α :=
  if inputs.shape ≠ [gradient.inputs] then
    (.error (.inputShape gradient.inputs inputs.sizes), gradient)
  else if gradient.inputs = 0 then
    match program.run (β := α) [] parameters with
    | .error reason => (.error (.computation reason), gradient)
    | .ok value => (.ok (value, gradient.result), gradient)
  else
    let loaded := gradient.load inputs.entries
    match passes program parameters (starts gradient.inputs gradient.chunk) Scalar.zero loaded with
    | (.error reason, after) => (.error (.computation reason), after)
    | (.ok value, after) => (.ok (value, after.result), after)

end Gradient

end Intertemporal
