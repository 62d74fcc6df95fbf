import Intertemporal.Program.Registry
import Intertemporal.Proofs.Program.Passes

/-!
# Evaluators and their states

What building an evaluator gives, and what its uses return and leave in the memory. An evaluator
touches no other state than its own, and of that only the values bound to it and its gradient.
-/

namespace Intertemporal

variable {α : Type} {σ ε β : Type}

theorem outcome_ofExcept {cause : ε → Error α} {result : Except ε β} {memory : Memory α} :
    outcome (Action.ofExcept cause result) memory = (result.mapError cause, memory) := by
  cases result <;> rfl

theorem outcome_ofExcept_eq_ok {cause : ε → Error α} {result : Except ε β}
    {memory after : Memory α} {value : β} :
    outcome (Action.ofExcept cause result) memory = (.ok value, after) ↔
      result = .ok value ∧ after = memory := by
  rw [outcome_ofExcept]
  cases result <;> simp [Except.mapError, eq_comm]

@[simp]
theorem outcome_freshId (memory : Memory α) :
    outcome Action.freshId memory =
      (.ok memory.nextId, { memory with nextId := memory.nextId + 1 }) := rfl

@[simp]
theorem outcome_record (event : Event α) (memory : Memory α) :
    outcome (Action.record event) memory =
      (.ok (), { memory with log := memory.log ++ [event] }) := rfl

namespace Evaluator

/-- An evaluator that has parameters but not their values. -/
def IsUnbound (evaluator : Evaluator α) (state : EvaluatorState α) : Bool :=
  !evaluator.parameters.isEmpty && state.bound.isNone

/-- The memory in which an evaluator has another state. -/
def storedIn (evaluator : Evaluator α) (state : EvaluatorState α) (memory : Memory α) : Memory α :=
  { memory with evaluators := memory.evaluators.insert evaluator.id state }

theorem outcome_checkBound (evaluator : Evaluator α) (state : EvaluatorState α)
    (memory : Memory α) :
    outcome (evaluator.checkBound state) memory =
      (if evaluator.IsUnbound state then .error (.unbound evaluator.name) else .ok (), memory) := by
  unfold checkBound IsUnbound
  split <;> rfl

end Evaluator

variable [Scalar α]

/-- An evaluator that computes the residual of an expression over listed references, in chunks that
are admissible for a gradient of that size. -/
structure EvaluatorKey.IsCompiled (key : EvaluatorKey α) (evaluator : Evaluator α) : Prop where
  program_eq : key.expression.compile key.references = .ok evaluator.program
  inputs_eq : evaluator.inputs = key.references.inputCount
  parameters_eq : evaluator.parameters = key.references.parameters
  chunk_bounds : 0 < evaluator.inputs → 1 ≤ evaluator.chunk ∧ evaluator.chunk ≤ evaluator.inputs

theorem Gradient.bounds_of_create {inputs chunk : Int} {gradient : Gradient α}
    (created : create inputs chunk = .ok gradient) (nonempty : 0 < inputs) :
    1 ≤ chunk ∧ chunk ≤ inputs := by
  unfold create at created
  split at created
  · cases created
  · split at created
    · cases created
    · rename_i admitted
      exact not_not.mp fun outside => admitted ⟨nonempty, outside⟩

/-- Building an evaluator compiles its key, under a number that nothing had before. -/
theorem Registry.of_build {registry : Registry α} {name : String} {key : EvaluatorKey α}
    {before after : Memory α} {evaluator : Evaluator α}
    (built : outcome (registry.build name key) before = (.ok evaluator, after)) :
    key.IsCompiled evaluator ∧ evaluator.id = before.nextId ∧
      after = { before with nextId := before.nextId + 1 } := by
  simp only [build, outcome_bind_eq_ok, outcome_ofExcept_eq_ok] at built
  obtain ⟨program, _, ⟨compiles, rfl⟩, _, _, ⟨admitted, rfl⟩, id, _, counted, made⟩ := built
  cases counted
  cases made
  refine ⟨⟨compiles, rfl, rfl, ?_⟩, rfl, rfl⟩
  intro nonempty
  exact Gradient.bounds_of_create admitted (Int.ofNat_lt.mpr nonempty)

/-- Compiling a key finds the evaluator of a key that agrees with it, or compiles it anew. -/
theorem Registry.of_compile {registry later : Registry α} {name : String} {key : EvaluatorKey α}
    {before after : Memory α} {evaluator : Evaluator α}
    (returned : outcome (registry.compile name key) before = (.ok (evaluator, later), after)) :
    (registry.find? key = some evaluator ∧ later = { registry with hits := registry.hits + 1 } ∧
        after = { before with log := before.log ++ [.reused evaluator.name name] }) ∨
      (registry.find? key = none ∧
        outcome (registry.build name key) before = (.ok evaluator, after) ∧
        later = { registry with
          entries := registry.entries ++ [⟨registry.fingerprint key, key, evaluator⟩] }) := by
  unfold compile at returned
  split at returned
  · rename_i known found
    left
    obtain ⟨_, _, recorded, gave⟩ := outcome_bind_eq_ok.mp returned
    cases recorded
    cases gave
    exact ⟨found, rfl, rfl⟩
  · rename_i missing
    right
    obtain ⟨built, between, made, gave⟩ := outcome_bind_eq_ok.mp returned
    cases gave
    exact ⟨missing, made, rfl⟩

theorem Registry.exists_entry_of_find? {registry : Registry α} {key : EvaluatorKey α}
    {evaluator : Evaluator α} (found : registry.find? key = some evaluator) :
    ∃ entry ∈ registry.entries, entry.evaluator = evaluator ∧
      (entry.key.expression == key.expression) = true ∧
      entry.key.references = key.references := by
  obtain ⟨entry, among, rfl⟩ := Option.map_eq_some_iff.mp found
  have matched := List.find?_some among
  simp only [EvaluatorKey.same, Bool.and_eq_true, beq_iff_eq] at matched
  exact ⟨entry, List.mem_of_find?_eq_some among, rfl, matched.2.1, matched.2.2⟩

namespace Evaluator

variable {evaluator : Evaluator α} {memory after : Memory α}

/-- A residual leaves the memory as it is. -/
theorem outcome_residual (inputs : List α) :
    outcome (evaluator.residual inputs) memory =
      (if evaluator.IsUnbound (evaluator.stateIn memory) then .error (.unbound evaluator.name)
        else (evaluator.program.run inputs (evaluator.stateIn memory).values).mapError .computation,
        memory) := by
  simp only [residual, outcome_bind, outcome_get, outcome_checkBound]
  by_cases unbound : evaluator.IsUnbound (evaluator.stateIn memory)
  · simp [unbound]
  · simp [unbound, outcome_ofExcept]

theorem outcome_residual_eq_ok {inputs : List α} {residual : α} :
    outcome (evaluator.residual inputs) memory = (.ok residual, after) ↔
      ¬evaluator.IsUnbound (evaluator.stateIn memory) ∧
        evaluator.program.run inputs (evaluator.stateIn memory).values = .ok residual ∧
        after = memory := by
  rw [outcome_residual]
  split
  · rename_i unbound
    simp [unbound]
  · rename_i bound
    rcases evaluator.program.run inputs (evaluator.stateIn memory).values with reason | value
    · simp [Except.mapError]
    · simp [Except.mapError, bound, eq_comm]

/-- A gradient leaves the memory with a gradient that has been called once more. -/
theorem outcome_residualAndGradient (inputs : NumberArray α) :
    outcome (evaluator.residualAndGradient inputs) memory =
      if evaluator.IsUnbound (evaluator.stateIn memory) then
        (.error (.unbound evaluator.name), memory)
      else
        let state := evaluator.stateIn memory
        let called := state.gradient.call evaluator.program state.values inputs
        (called.1.mapError .gradient,
          evaluator.storedIn { state with gradient := called.2 } memory) := by
  simp only [residualAndGradient, outcome_bind, outcome_get, outcome_checkBound]
  by_cases unbound : evaluator.IsUnbound (evaluator.stateIn memory)
  · simp [unbound]
  · simp [unbound, outcome_ofExcept, storedIn]

end Evaluator

end Intertemporal
