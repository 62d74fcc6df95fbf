import Intertemporal.Memory

/-!
# The registry of evaluators

A registry compiles equations and keeps what it has compiled, so that equations with the same
expression and the same references share one evaluator. Keys are compared in two steps: by a
fingerprint, which tells most of them apart at once, and then by structure. Any fingerprint will do
that is the same for equal keys, because the structure decides.
-/

namespace Intertemporal

/-- What identifies a compiled equation. -/
structure EvaluatorKey (α : Type) where
  expression : Expression α
  references : References

namespace EvaluatorKey

variable {α : Type}

/-- Whether two keys agree, constants being compared as numbers. -/
def same [BEq α] (key other : EvaluatorKey α) : Bool :=
  key.expression == other.expression && key.references == other.references

/-- The size of the expression and the number of references. -/
def size (key : EvaluatorKey α) : Nat :=
  key.expression.nodes.length + key.references.inputCount + key.references.parameters.length

end EvaluatorKey

/-- A compiled equation under its key. -/
structure RegistryEntry (α : Type) where
  fingerprint : Nat
  key : EvaluatorKey α
  evaluator : Evaluator α

/-- The compiled equations of a model. -/
structure Registry (α : Type) where
  /-- The most inputs that are differentiated at once. -/
  chunkLimit : Int
  entries : List (RegistryEntry α) := []
  /-- How often a compiled equation was found here. -/
  hits : Nat := 0
  fingerprint : EvaluatorKey α → Nat := EvaluatorKey.size

namespace Registry

variable {α : Type}

/-- The number of compiled equations. -/
def size (registry : Registry α) : Nat := registry.entries.length

variable [Scalar α]

/-- The compiled equation of a key. -/
def find? (registry : Registry α) (key : EvaluatorKey α) : Option (Evaluator α) :=
  let fingerprint := registry.fingerprint key
  (registry.entries.find? fun entry =>
    entry.fingerprint == fingerprint && entry.key.same key).map (·.evaluator)

/-- Whether a key has been compiled. -/
def contains (registry : Registry α) (key : EvaluatorKey α) : Bool := (registry.find? key).isSome

/-- Whether an object has been compiled. Objects that are no keys, here `none`, never are. -/
def includes (registry : Registry α) (object : Option (EvaluatorKey α)) : Bool :=
  object.any registry.contains

/-- Compile an equation under a name that is used in messages. -/
def build (registry : Registry α) (name : String) (key : EvaluatorKey α) :
    Action α (Evaluator α) := do
  let program ← Action.ofExcept (fun _ => .unlisted) (key.expression.compile key.references)
  let inputs := key.references.inputCount
  let chunk := chunkFor inputs registry.chunkLimit
  let _ ← Action.ofExcept .gradient (Gradient.create (α := α) inputs chunk)
  let id ← Action.freshId
  pure { id, name, program, inputs, parameters := key.references.parameters, chunk }

/-- The evaluator of a key: the one that is there already, or a new one. -/
def compile (registry : Registry α) (name : String) (key : EvaluatorKey α) :
    Action α (Evaluator α × Registry α) :=
  match registry.find? key with
  | some evaluator => do
    Action.record (.reused evaluator.name name)
    pure (evaluator, { registry with hits := registry.hits + 1 })
  | none => do
    let evaluator ← registry.build name key
    let entry := { fingerprint := registry.fingerprint key, key, evaluator }
    pure (evaluator, { registry with entries := registry.entries ++ [entry] })

end Registry

end Intertemporal
