import Intertemporal.Proofs.Invariant
import Intertemporal.Proofs.Program.Evaluators

/-!
# Sound memories

The memory behind a model holds gradients of evaluators, whatever has happened to them. In a sound
memory each of them is fit for a program of its own size, so a call that succeeds returns one
derivative for each input. All uses of evaluators keep a memory sound, and a gradient that has been
computed once is computed again in every memory that continues the one that it was computed in.
-/

namespace Intertemporal

variable {α : Type}

namespace Gradient

/-- A gradient that is fit for a program of its own size. -/
structure IsSound (gradient : Gradient α) : Prop where
  length_result : gradient.result.length = gradient.inputs
  chunk_positive : 0 < gradient.inputs → 0 < gradient.chunk

variable {gradient : Gradient α} {program : Program α} {parameters : List (ParameterValue α)}
  {array : NumberArray α}

theorem IsSound.fits (sound : gradient.IsSound) :
    gradient.Fits gradient.inputs gradient.chunk := ⟨rfl, rfl, sound.length_result⟩

variable [Scalar α]

theorem IsSound.call (sound : gradient.IsSound) :
    (gradient.call program parameters array).2.IsSound := by
  obtain ⟨inputsEq, chunkEq, length⟩ := call_fits sound.fits program parameters array
  refine ⟨length.trans inputsEq.symm, ?_⟩
  rw [inputsEq, chunkEq]
  exact sound.chunk_positive

/-- A call that succeeds got one value for each input and returns one derivative for each. -/
theorem IsSound.length_of_call (sound : gradient.IsSound) {value : α} {result : List α}
    (returned : (gradient.call program parameters array).1 = .ok (value, result)) :
    array.shape = [gradient.inputs] ∧ result.length = gradient.inputs := by
  unfold Gradient.call at returned
  split at returned
  · cases returned
  · rename_i shaped
    refine ⟨not_not.mp shaped, ?_⟩
    split at returned
    · split at returned
      · cases returned
      · cases returned
        exact sound.length_result
    · have fitsLoaded : (gradient.load array.entries).Fits gradient.inputs gradient.chunk :=
        ⟨rfl, rfl, sound.length_result⟩
      have kept := passes_fits fitsLoaded program parameters
        (starts gradient.inputs gradient.chunk) Scalar.zero
      dsimp only at returned
      split at returned
      · cases returned
      · rename_i after passed
        rw [passed] at kept
        cases returned
        exact kept.length_result

/-- Gradients of the same size return the same from the same call. -/
theorem IsSound.call_fst_congr (sound : gradient.IsSound) {other : Gradient α}
    (soundOther : other.IsSound) (sameInputs : other.inputs = gradient.inputs)
    (sameChunk : other.chunk = gradient.chunk) :
    (other.call program parameters array).1 = (gradient.call program parameters array).1 := by
  rw [call_fst_eq_fresh sound.fits sound.chunk_positive,
    call_fst_eq_fresh soundOther.fits soundOther.chunk_positive, sameInputs, sameChunk]

end Gradient

/-- An evaluator with one input for each series and each steady-state level, and with room for an
input in its chunk. -/
structure Evaluator.IsSound (evaluator : Evaluator α) (references : References) : Prop where
  inputs_eq : evaluator.inputs = references.inputCount
  chunk_positive : 0 < evaluator.inputs → 0 < evaluator.chunk.toNat

theorem EvaluatorKey.IsCompiled.isSound {key : EvaluatorKey α} {evaluator : Evaluator α}
    (compiled : key.IsCompiled evaluator) : evaluator.IsSound key.references := by
  refine ⟨compiled.inputs_eq, ?_⟩
  intro nonempty
  have := compiled.chunk_bounds nonempty
  omega

/-- A memory in which every gradient is sound. -/
def Memory.IsSound (memory : Memory α) : Prop :=
  ∀ id state, memory.evaluators.get? id = some state → state.gradient.IsSound

namespace Memory

theorem isSound_empty : Memory.IsSound ({} : Memory α) := by
  intro id state found
  cases found

end Memory

section Keeping

theorem keeps_ofExcept {ε β : Type} {cause : ε → Error α} {result : Except ε β}
    {invariant : Memory α → Prop} :
    Keeps invariant (Action.ofExcept cause result) fun value => result = .ok value := by
  cases result with
  | error reason => exact .throw _
  | ok value => exact .pure rfl

theorem keeps_record (event : Event α) :
    Keeps Memory.IsSound (Action.record event) fun _ => True :=
  .modify fun _ sound => sound

theorem keeps_storeJacobian (id : Nat) (values : List α) :
    Keeps Memory.IsSound
      (modify fun memory => { memory with jacobians := memory.jacobians.insert id values } :
        Action α PUnit) fun _ => True :=
  .modify fun _ sound => sound

theorem keeps_freshId : Keeps Memory.IsSound (Action.freshId (α := α)) fun _ => True := by
  intro memory sound
  exact ⟨sound, fun _ _ => trivial⟩

end Keeping

namespace Evaluator

variable {evaluator : Evaluator α} {references : References} {memory : Memory α}

theorem isSound_storedIn {state : EvaluatorState α} (sound : memory.IsSound)
    (fits : state.gradient.IsSound) : (evaluator.storedIn state memory).IsSound := by
  intro id other found
  rw [storedIn, Table.get?_insert] at found
  split at found
  · cases found
    exact fits
  · exact sound id other found

variable [Scalar α]

/-- The state of an evaluator is sound, whether it has been used or not. -/
theorem IsSound.stateIn (admissible : evaluator.IsSound references) (sound : memory.IsSound) :
    (evaluator.stateIn memory).gradient.IsSound := by
  unfold Evaluator.stateIn Table.getD
  rcases found : memory.evaluators.get? evaluator.id with _ | state
  · exact ⟨(Gradient.fresh_fits _ _).length_result, admissible.chunk_positive⟩
  · exact sound _ _ found

theorem IsSound.keeps_bind (admissible : evaluator.IsSound references)
    (calibration : Calibration α) :
    Keeps Memory.IsSound (evaluator.bind calibration) fun _ => True := by
  refine Keeps.get.bind fun memory sound => ?_
  refine .ite (fun _ => .pure trivial) fun _ => ?_
  refine keeps_ofExcept.bind fun values _ => ?_
  refine (Keeps.modify ?_).bind fun _ _ => .pure trivial
  intro later soundLater
  have fits := admissible.stateIn sound
  exact isSound_storedIn soundLater fits

/-- A gradient that is returned has one derivative for each value that was passed. -/
theorem IsSound.keeps_residualAndGradient (admissible : evaluator.IsSound references)
    (array : NumberArray α) :
    Keeps Memory.IsSound (evaluator.residualAndGradient array) fun found =>
      array.shape = [found.2.length] := by
  intro memory sound
  rw [outcome_residualAndGradient]
  split
  · refine ⟨sound, ?_⟩
    rintro _ ⟨⟩
  · have fits := admissible.stateIn sound
    refine ⟨isSound_storedIn sound fits.call, ?_⟩
    rintro ⟨value, gradient⟩ returned
    dsimp only at returned
    rcases called : ((evaluator.stateIn memory).gradient.call evaluator.program
      (evaluator.stateIn memory).values array).1 with reason | result
    · rw [called] at returned
      cases returned
    · rw [called] at returned
      cases returned
      obtain ⟨shaped, length⟩ := fits.length_of_call called
      rw [shaped, length]

end Evaluator

/-- A later state of an evaluator, with the same values bound to it and a gradient of the same
size. -/
structure EvaluatorState.Continues (before after : EvaluatorState α) : Prop where
  bound_eq : after.bound = before.bound
  inputs_eq : after.gradient.inputs = before.gradient.inputs
  chunk_eq : after.gradient.chunk = before.gradient.chunk

/-- A later memory, in which every evaluator that was in use has a later state. -/
def Memory.Continues (before after : Memory α) : Prop :=
  ∀ id state, before.evaluators.get? id = some state →
    ∃ later, after.evaluators.get? id = some later ∧ state.Continues later

namespace Memory.Continues

theorem refl (memory : Memory α) : memory.Continues memory :=
  fun _ state found => ⟨state, found, rfl, rfl, rfl⟩

theorem trans {before between after : Memory α} (first : before.Continues between)
    (second : between.Continues after) : before.Continues after := by
  intro id state found
  obtain ⟨middle, foundMiddle, boundMiddle, inputsMiddle, chunkMiddle⟩ := first id state found
  obtain ⟨later, foundLater, boundLater, inputsLater, chunkLater⟩ := second id middle foundMiddle
  exact ⟨later, foundLater, boundLater.trans boundMiddle, inputsLater.trans inputsMiddle,
    chunkLater.trans chunkMiddle⟩

end Memory.Continues

namespace Evaluator

variable {evaluator : Evaluator α} {references : References} {memory : Memory α}

variable [Scalar α]

theorem continues_storedIn {state : EvaluatorState α}
    (continues : (evaluator.stateIn memory).Continues state) :
    memory.Continues (evaluator.storedIn state memory) := by
  intro id other found
  simp only [storedIn, Table.get?_insert]
  by_cases same : id = evaluator.id
  · subst same
    refine ⟨state, by simp, ?_⟩
    simp only [stateIn, Table.getD, found, Option.getD_some] at continues
    exact continues
  · refine ⟨other, ?_, rfl, rfl, rfl⟩
    simp [same, found]

theorem IsSound.stateIn_continues (admissible : evaluator.IsSound references)
    (sound : memory.IsSound) (program : Program α) (parameters : List (ParameterValue α))
    (array : NumberArray α) :
    (evaluator.stateIn memory).Continues
      { evaluator.stateIn memory with
        gradient := ((evaluator.stateIn memory).gradient.call program parameters array).2 } := by
  have kept := Gradient.call_fits (admissible.stateIn sound).fits program parameters array
  exact ⟨rfl, kept.inputs_eq, kept.chunk_eq⟩

theorem IsSound.continues (admissible : evaluator.IsSound references) (sound : memory.IsSound)
    (array : NumberArray α) :
    memory.Continues (outcome (evaluator.residualAndGradient array) memory).2 := by
  rw [outcome_residualAndGradient]
  split
  · exact .refl memory
  · exact continues_storedIn (admissible.stateIn_continues sound _ _ array)

/-- A gradient that has been computed is computed again in every memory that continues. -/
theorem IsSound.again (admissible : evaluator.IsSound references) (sound : memory.IsSound)
    {array : NumberArray α} {found : α × List α} {after later : Memory α}
    (returned : outcome (evaluator.residualAndGradient array) memory = (.ok found, after))
    (soundLater : later.IsSound) (continues : after.Continues later) :
    (outcome (evaluator.residualAndGradient array) later).1 = .ok found := by
  rw [outcome_residualAndGradient] at returned ⊢
  split at returned
  · cases returned
  · rename_i bound
    obtain ⟨computed, rfl⟩ := Prod.mk.inj returned
    -- the evaluator was stored after its call, so it has a later state there
    obtain ⟨state, foundLater, boundEq, inputsEq, chunkEq⟩ :=
      continues evaluator.id _ (by rw [storedIn, Table.get?_insert, beq_self_eq_true, if_pos rfl])
    have first := admissible.stateIn_continues sound evaluator.program
      (evaluator.stateIn memory).values array
    have now : evaluator.stateIn later = state := by
      simp only [Evaluator.stateIn, Table.getD, foundLater, Option.getD_some]
    have sameBound : state.bound = (evaluator.stateIn memory).bound := boundEq
    have sameValues : state.values = (evaluator.stateIn memory).values := by
      simp only [EvaluatorState.values, sameBound]
    have stillBound : ¬evaluator.IsUnbound state := by
      simpa only [IsUnbound, sameBound] using bound
    rw [now, if_neg stillBound]
    dsimp only
    rw [sameValues, (admissible.stateIn sound).call_fst_congr (soundLater _ _ foundLater)
      (inputsEq.trans first.inputs_eq) (chunkEq.trans first.chunk_eq)]
    exact computed

end Evaluator

namespace Registry

/-- A registry in which every evaluator was compiled from its key. -/
def IsSound (registry : Registry α) : Prop :=
  ∀ entry ∈ registry.entries, entry.key.IsCompiled entry.evaluator

variable [Scalar α]

theorem keeps_build (registry : Registry α) (name : String) (key : EvaluatorKey α) :
    Keeps Memory.IsSound (registry.build name key) key.IsCompiled := by
  refine keeps_ofExcept.bind fun program compiles => ?_
  refine keeps_ofExcept.bind fun _ created => ?_
  refine keeps_freshId.bind fun id _ => .pure ⟨compiles, rfl, rfl, ?_⟩
  intro nonempty
  exact Gradient.bounds_of_create created (Int.ofNat_lt.mpr nonempty)

theorem IsSound.of_find? {registry : Registry α} (sound : registry.IsSound) {key : EvaluatorKey α}
    {evaluator : Evaluator α} (found : registry.find? key = some evaluator) :
    evaluator.IsSound key.references := by
  obtain ⟨entry, member, rfl, _, sameReferences⟩ := exists_entry_of_find? found
  rw [← sameReferences]
  exact (sound entry member).isSound

/-- Compiling gives an evaluator for the references, old or new, and a registry that is sound. -/
theorem IsSound.keeps_compile {registry : Registry α} (sound : registry.IsSound) (name : String)
    (key : EvaluatorKey α) :
    Keeps Memory.IsSound (registry.compile name key) fun found =>
      found.1.IsSound key.references ∧ found.2.IsSound := by
  unfold Registry.compile
  split
  · rename_i evaluator found
    exact (keeps_record _).bind fun _ _ => .pure ⟨sound.of_find? found, sound⟩
  · refine (keeps_build registry name key).bind fun evaluator compiled => ?_
    refine .pure ⟨compiled.isSound, ?_⟩
    intro entry member
    rcases List.mem_append.mp member with old | new
    · exact sound entry old
    · obtain rfl := List.mem_singleton.mp new
      exact compiled

end Registry

end Intertemporal
