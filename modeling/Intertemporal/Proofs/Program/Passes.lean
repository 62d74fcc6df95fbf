import Intertemporal.Program.Gradient
import Intertemporal.Proofs.Outcome

/-!
# Passes over the inputs of a program

A gradient is computed in passes that reuse one workspace and one list of results. Every pass leaves
the workspace as it found it, and the chunks cover every input exactly once. So what a call returns
does not depend on what earlier calls left behind (`call_fst_eq_fresh`), and each derivative is the
one that the pass over its chunk computed (`call_of_passes`).
-/

namespace Intertemporal.Gradient

variable {α : Type}

section Writing

variable {chunk : Nat}

/-- A list of results into which the derivatives of one chunk have been written. -/
def written (start : Nat) (partials : Vector α chunk) (result : List α) : List α :=
  result.mapIdx fun index derivative =>
    if start ≤ index then
      if inChunk : index - start < chunk then partials[index - start] else derivative
    else derivative

/-- Writing the derivatives of the chunk that an input belongs to changes its derivative. -/
theorem getElem?_written_of_mem (positive : 0 < chunk) (partials : Vector α chunk)
    (result : List α) {index : Nat} (inRange : index < result.length) :
    (written (index / chunk * chunk) partials result)[index]? = partials[index % chunk]? := by
  have small := Nat.mod_lt index positive
  have below := Nat.div_mul_le_self index chunk
  have place : index - index / chunk * chunk = index % chunk := by
    have := Nat.div_add_mod' index chunk
    omega
  simp [written, inRange, below, place, small]

/-- Writing the derivatives of another chunk changes nothing. -/
theorem getElem?_written_of_ne (partials : Vector α chunk)
    (result : List α) {index number : Nat} (other : index / chunk ≠ number) :
    (written (number * chunk) partials result)[index]? = result[index]? := by
  have outside : ¬(number * chunk ≤ index ∧ index - number * chunk < chunk) := by
    rintro ⟨above, inChunk⟩
    apply other
    apply Nat.div_eq_of_lt_le above
    rw [Nat.succ_mul]
    omega
  rw [written, List.getElem?_mapIdx]
  by_cases above : number * chunk ≤ index
  · have beyond : ¬index - number * chunk < chunk := fun inChunk => outside ⟨above, inChunk⟩
    simp [above, beyond]
  · simp [above]

theorem length_foldl_written (partials : Nat → Vector α chunk) (starts : List Nat)
    (result : List α) :
    (starts.foldl (fun result start => written start (partials start) result)
      result).length = result.length := by
  induction starts generalizing result with
  | nil => rfl
  | cons start rest ih =>
      rw [List.foldl_cons, ih]
      simp [written]

/-- The first chunks write one derivative for each input in them and leave the others alone. -/
theorem getElem?_foldl_written (positive : 0 < chunk)
    (partials : Nat → Vector α chunk) (result : List α) (chunks : Nat) {index : Nat}
    (inRange : index < result.length) :
    (((List.range chunks).map (· * chunk)).foldl
      (fun result start => written start (partials start) result) result)[index]? =
      if index / chunk < chunks then (partials (index / chunk * chunk))[index % chunk]?
      else result[index]? := by
  induction chunks with
  | zero => simp
  | succ chunks ih =>
      rw [List.range_succ, List.map_append, List.foldl_append, List.map_singleton,
        List.foldl_cons, List.foldl_nil]
      by_cases same : index / chunk = chunks
      · subst same
        rw [getElem?_written_of_mem positive _ _ ((length_foldl_written _ _ _).symm ▸ inRange)]
        simp
      · rw [getElem?_written_of_ne _ _ same, ih]
        have : index / chunk < chunks + 1 ↔ index / chunk < chunks := by omega
        simp only [this]

/-- The chunks of all inputs cover every input. -/
theorem div_lt_of_lt {inputs chunk index : Nat} (positive : 0 < chunk) (inRange : index < inputs) :
    index / chunk < (inputs + chunk - 1) / chunk := by
  rw [Nat.div_lt_iff_lt_mul positive]
  have := Nat.lt_div_mul_add positive (a := inputs + chunk - 1)
  omega

/-- A chunk that an input belongs to begins where a pass begins. -/
theorem mem_starts {inputs chunk index : Nat} (positive : 0 < chunk) (inRange : index < inputs) :
    index / chunk * chunk ∈ starts inputs chunk :=
  List.mem_map_of_mem (List.mem_range.mpr (div_lt_of_lt positive inRange))

/-- Every pass begins at an input, which is the first of its chunk. -/
theorem lt_of_mem_starts {inputs chunk start : Nat} (positive : 0 < chunk)
    (member : start ∈ starts inputs chunk) : start < inputs ∧ start / chunk * chunk = start := by
  obtain ⟨number, inRange, rfl⟩ := List.mem_map.mp member
  have bound := (Nat.lt_div_iff_mul_lt positive).mp (List.mem_range.mp inRange)
  constructor
  · omega
  · rw [Nat.mul_div_cancel number positive]

end Writing

variable [Scalar α]

/-- The inputs as the pass sees them whose chunk begins at `start`. -/
def seededInputs (chunk : Nat) (values : List α) (start : Nat) : List (Jet α chunk) :=
  values.mapIdx fun index value =>
    .dual ⟨value,
      if start ≤ index ∧ index < start + chunk then seed chunk (index - start)
      else unseeded chunk⟩

/-- The result of the pass whose chunk begins at `start`. -/
def pass (program : Program α) (parameters : List (ParameterValue α)) (chunk : Nat)
    (values : List α) (start : Nat) : Except ComputationError (Jet α chunk) :=
  program.run (seededInputs chunk values start) parameters

/-- The workspace holds the given values, and no input is seeded. -/
def IsLoaded (gradient : Gradient α) (values : List α) : Prop :=
  gradient.workspace = values.map fun value => ⟨value, unseeded gradient.chunk⟩

theorem isLoaded_load (gradient : Gradient α) (values : List α) :
    (gradient.load values).IsLoaded values := rfl

/-- A gradient of a program with the given number of inputs, in chunks of the given size. -/
structure Fits (inputs chunk : Nat) (gradient : Gradient α) : Prop where
  inputs_eq : gradient.inputs = inputs
  chunk_eq : gradient.chunk = chunk
  length_result : gradient.result.length = inputs

theorem fresh_fits (inputs chunk : Nat) : (fresh inputs chunk : Gradient α).Fits inputs chunk :=
  ⟨rfl, rfl, List.length_replicate⟩

section Chunks

variable {gradient : Gradient α} {values : List α}

/-- Seeding a chunk of loaded inputs shows the pass its seeded inputs. -/
theorem map_dual_seedChunk (loaded : gradient.IsLoaded values) (start : Nat) :
    (gradient.seedChunk start).workspace.map Jet.dual =
      seededInputs gradient.chunk values start := by
  unfold IsLoaded at loaded
  simp only [seedChunk, loaded, seededInputs]
  apply List.ext_getElem
  · simp
  · intro index _ _
    simp only [List.getElem_map, List.getElem_mapIdx]
    split <;> rfl

/-- A pass that succeeds takes its seeds away again. -/
theorem isLoaded_clearChunk (loaded : gradient.IsLoaded values) (start : Nat)
    (output : Jet α gradient.chunk) :
    (((gradient.seedChunk start).store start output).clearChunk start).IsLoaded values := by
  unfold IsLoaded at loaded ⊢
  simp only [clearChunk, store, seedChunk, loaded]
  apply List.ext_getElem
  · simp
  · intro index _ _
    simp only [List.getElem_map, List.getElem_mapIdx]
    split <;> simp_all

/-- What a pass computes, read off the workspace that it sees. -/
theorem run_seedChunk (program : Program α) (parameters : List (ParameterValue α))
    (loaded : gradient.IsLoaded values) (start : Nat) :
    program.run ((gradient.seedChunk start).workspace.map Jet.dual) parameters =
      pass program parameters gradient.chunk values start :=
  congrArg (fun inputs => program.run inputs parameters) (map_dual_seedChunk loaded start)

/-- A failed pass ends the passes. -/
theorem passes_cons_of_error {program : Program α} {parameters : List (ParameterValue α)}
    (loaded : gradient.IsLoaded values) {start : Nat} {reason : ComputationError}
    (failed : pass program parameters gradient.chunk values start = .error reason)
    (rest : List Nat) (value : α) :
    passes program parameters (start :: rest) value gradient =
      (.error reason, gradient.seedChunk start) := by
  have ran := (run_seedChunk program parameters loaded start).trans failed
  rw [passes]
  split
  · rename_i reason' failed'
    cases failed'.symm.trans ran
    rfl
  · rename_i output computed
    cases computed.symm.trans ran

/-- A pass that succeeds writes its derivatives and hands on to the next. -/
theorem passes_cons_of_ok {program : Program α} {parameters : List (ParameterValue α)}
    (loaded : gradient.IsLoaded values) {start : Nat} {output : Jet α gradient.chunk}
    (computed : pass program parameters gradient.chunk values start = .ok output)
    (rest : List Nat) (value : α) :
    passes program parameters (start :: rest) value gradient =
      passes program parameters rest output.value
        (((gradient.seedChunk start).store start output).clearChunk start) := by
  have ran := (run_seedChunk program parameters loaded start).trans computed
  rw [passes]
  split
  · rename_i reason failed
    cases failed.symm.trans ran
  · rename_i output' computed'
    cases computed'.symm.trans ran
    rfl

/-- The passes return the value that the last of them computes, unless one of them fails. -/
theorem passes_fst (program : Program α) (parameters : List (ParameterValue α))
    (loaded : gradient.IsLoaded values) (starts : List Nat) (value : α) :
    (passes program parameters starts value gradient).1 =
      (starts.mapM (pass program parameters gradient.chunk values)).map
        fun outputs => (outputs.getLast?.map Jet.value).getD value := by
  induction starts generalizing value gradient with
  | nil => rfl
  | cons start rest ih =>
      rw [List.mapM_cons]
      rcases computed : pass program parameters gradient.chunk values start with reason | output
      · rw [passes_cons_of_error loaded computed]
        rfl
      · rw [passes_cons_of_ok loaded computed]
        refine (ih (isLoaded_clearChunk loaded start output) output.value).trans ?_
        change (rest.mapM (pass program parameters gradient.chunk values)).map
          (fun outputs => (outputs.getLast?.map Jet.value).getD output.value) = _
        rcases rest.mapM (pass program parameters gradient.chunk values) with reason | outputs
        · rfl
        · cases outputs with
          | nil => rfl
          | cons first others =>
              simp [bind, Except.bind, pure, Except.pure, Except.map, List.getLast?_cons]

/-- When every pass succeeds, all that the passes change for good is the list of results. -/
theorem passes_snd (program : Program α) (parameters : List (ParameterValue α))
    (loaded : gradient.IsLoaded values) {starts : List Nat} {outputs : Nat → Jet α gradient.chunk}
    (computed : ∀ start ∈ starts,
      pass program parameters gradient.chunk values start = .ok (outputs start)) (value : α) :
    (passes program parameters starts value gradient).2.result =
      starts.foldl (fun result start => written start (outputs start).partials result)
        gradient.result := by
  induction starts generalizing value gradient with
  | nil => rfl
  | cons start rest ih =>
      rw [passes_cons_of_ok loaded (computed start List.mem_cons_self)]
      exact ih (isLoaded_clearChunk loaded start (outputs start))
        (fun later member => computed later (List.mem_cons_of_mem start member)) _

end Chunks

/-- Passes, also those that end in a failure, leave a gradient of the same program. -/
theorem passes_fits {inputs chunk : Nat} {gradient : Gradient α}
    (fits : gradient.Fits inputs chunk) (program : Program α)
    (parameters : List (ParameterValue α)) (starts : List Nat) (value : α) :
    (passes program parameters starts value gradient).2.Fits inputs chunk := by
  induction starts generalizing value gradient with
  | nil => exact fits
  | cons start rest ih =>
      rw [passes]
      split
      · exact ⟨fits.inputs_eq, fits.chunk_eq, fits.length_result⟩
      · apply ih
        exact ⟨fits.inputs_eq, fits.chunk_eq, by simpa [clearChunk, store, seedChunk] using
          fits.length_result⟩

section Calls

/-- The gradients that calls leave behind, in any number and with any outcome. -/
inductive Used (inputs chunk : Nat) : Gradient α → Prop
  | fresh : Used inputs chunk (fresh inputs chunk)
  | call {gradient : Gradient α} (used : Used inputs chunk gradient) (program : Program α)
      (parameters : List (ParameterValue α)) (array : NumberArray α) :
      Used inputs chunk (gradient.call program parameters array).2

variable {inputs chunk : Nat} {gradient : Gradient α}

/-- What a call leaves behind fits the same program. -/
theorem call_fits (fits : gradient.Fits inputs chunk) (program : Program α)
    (parameters : List (ParameterValue α)) (array : NumberArray α) :
    (gradient.call program parameters array).2.Fits inputs chunk := by
  unfold call
  split
  · exact fits
  · split
    · split
      · exact fits
      · exact fits
    · have fitsLoaded : (gradient.load array.entries).Fits inputs chunk :=
        ⟨fits.inputs_eq, fits.chunk_eq, fits.length_result⟩
      have kept := passes_fits fitsLoaded program parameters
        (starts gradient.inputs gradient.chunk) Scalar.zero
      dsimp only
      split
      · rename_i after passed
        rw [passed] at kept
        exact kept
      · rename_i after passed
        rw [passed] at kept
        exact kept

/-- Whatever calls a gradient has seen, it fits its program. -/
theorem Used.fits (used : Used inputs chunk gradient) : gradient.Fits inputs chunk := by
  induction used with
  | fresh => exact fresh_fits inputs chunk
  | call _ program parameters array ih => exact call_fits ih program parameters array

/-- Passes over all chunks that succeed return the value that one of them computed, and leave for
each input the derivative that the pass over its chunk computed. -/
theorem passes_of_computed {values : List α} (loaded : gradient.IsLoaded values)
    (positive : 0 < gradient.chunk) (nonempty : 0 < gradient.inputs)
    (lengthResult : gradient.result.length = gradient.inputs) {program : Program α}
    {parameters : List (ParameterValue α)} {outputs : Nat → Jet α gradient.chunk}
    (computed : ∀ start ∈ starts gradient.inputs gradient.chunk,
      pass program parameters gradient.chunk values start = .ok (outputs start)) (value : α) :
    ∃ start ∈ starts gradient.inputs gradient.chunk, ∃ after,
      passes program parameters (starts gradient.inputs gradient.chunk) value gradient =
        (.ok (outputs start).value, after) ∧
      after.result.length = gradient.inputs ∧
      ∀ index < gradient.inputs, after.result[index]? =
        (outputs (index / gradient.chunk * gradient.chunk)).partials[index % gradient.chunk]? := by
  have first := mem_starts positive nonempty
  have valued := passes_fst program parameters loaded (starts gradient.inputs gradient.chunk) value
  have wrote := passes_snd program parameters loaded computed value
  have all : (starts gradient.inputs gradient.chunk).mapM
      (pass program parameters gradient.chunk values) =
      .ok ((starts gradient.inputs gradient.chunk).map outputs) :=
    mapM_eq_ok.mpr (List.forall₂_map_right_iff.mpr (List.forall₂_same.mpr computed))
  rw [all] at valued
  refine ⟨(starts gradient.inputs gradient.chunk).getLast (List.ne_nil_of_mem first),
    List.getLast_mem _, _, Prod.ext ?_ rfl, ?_, ?_⟩
  · rw [valued]
    simp [Except.map, List.getLast?_eq_some_getLast (List.ne_nil_of_mem first)]
  · rw [wrote, length_foldl_written, lengthResult]
  · intro index inRange
    rw [wrote, starts, getElem?_foldl_written positive (fun start => (outputs start).partials) _ _
      (lengthResult ▸ inRange), if_pos (div_lt_of_lt positive inRange)]

/-- A call of which every pass succeeds returns, for each input, the derivative that the pass over
its chunk computed. -/
theorem call_of_passes (fits : gradient.Fits inputs chunk) (positive : 0 < chunk)
    (nonempty : 0 < inputs) {program : Program α} {parameters : List (ParameterValue α)}
    {values : List α} (sized : values.length = inputs) {outputs : Nat → Jet α chunk}
    (computed : ∀ start ∈ starts inputs chunk,
      pass program parameters chunk values start = .ok (outputs start)) :
    ∃ start ∈ starts inputs chunk, ∃ result,
      (gradient.call program parameters (.ofList values)).1 =
        .ok ((outputs start).value, result) ∧
      result.length = inputs ∧
      ∀ index < inputs,
        result[index]? = (outputs (index / chunk * chunk)).partials[index % chunk]? := by
  obtain ⟨inputsEq, chunkEq, lengthResult⟩ := fits
  subst inputsEq chunkEq
  obtain ⟨start, member, after, passed, lengthAfter, each⟩ :=
    passes_of_computed (isLoaded_load gradient values) positive nonempty lengthResult computed
      Scalar.zero
  have shaped : (NumberArray.ofList values).shape = [gradient.inputs] := by
    simp [NumberArray.ofList, sized]
  refine ⟨start, member, after.result, ?_, lengthAfter, each⟩
  simp only [call, shaped, ne_eq, not_true_eq_false, if_false, Nat.ne_of_gt nonempty]
  rw [show passes program parameters (starts gradient.inputs gradient.chunk) Scalar.zero
    (gradient.load (NumberArray.ofList values).entries) = _ from passed]
  rfl

/-- Passes over all chunks return and leave the same, whatever results they write over. -/
theorem passes_eq_of_result {values : List α} (loaded : gradient.IsLoaded values)
    (positive : 0 < gradient.chunk) (nonempty : 0 < gradient.inputs)
    (lengthResult : gradient.result.length = gradient.inputs) {result : List α}
    (lengthOther : result.length = gradient.inputs) (program : Program α)
    (parameters : List (ParameterValue α)) (value : α) :
    let first := passes program parameters (starts gradient.inputs gradient.chunk) value gradient
    let second := passes program parameters (starts gradient.inputs gradient.chunk) value
      { gradient with result }
    first.1 = second.1 ∧ (first.1.isOk → first.2.result = second.2.result) := by
  intro first second
  have firstValue := passes_fst program parameters loaded (starts gradient.inputs gradient.chunk)
    value
  have loadedOther : ({ gradient with result } : Gradient α).IsLoaded values := loaded
  have secondValue := passes_fst program parameters loadedOther
    (starts gradient.inputs gradient.chunk) value
  refine ⟨firstValue.trans secondValue.symm, fun succeeded => ?_⟩
  rcases collected : (starts gradient.inputs gradient.chunk).mapM
    (pass program parameters gradient.chunk values) with reason | results
  · rw [show first.1 = _ from firstValue, collected] at succeeded
    cases succeeded
  · have : Inhabited (Jet α gradient.chunk) := ⟨.plain value⟩
    obtain ⟨outputs, computed⟩ := exists_of_mapM_eq_ok collected
    obtain ⟨_, _, after, passed, lengthAfter, each⟩ :=
      passes_of_computed loaded positive nonempty lengthResult computed value
    obtain ⟨_, _, after', passed', lengthAfter', each'⟩ :=
      passes_of_computed loadedOther positive nonempty lengthOther computed value
    have sameResult : after.result = after'.result := by
      apply List.ext_getElem?
      intro index
      rcases Nat.lt_or_ge index gradient.inputs with inRange | beyond
      · rw [each index inRange, each' index inRange]
      · rw [List.getElem?_eq_none (Nat.le_trans (Nat.le_of_eq lengthAfter) beyond),
          List.getElem?_eq_none (Nat.le_trans (Nat.le_of_eq lengthAfter') beyond)]
    rw [show first = _ from passed, show second = _ from passed']
    exact sameResult

/-- What a call returns does not depend on the calls before it. -/
theorem call_fst_eq_fresh (fits : gradient.Fits inputs chunk) (positive : 0 < inputs → 0 < chunk)
    (program : Program α) (parameters : List (ParameterValue α)) (array : NumberArray α) :
    (gradient.call program parameters array).1 =
      ((fresh inputs chunk).call program parameters array).1 := by
  obtain ⟨_, _, workspace, result⟩ := gradient
  obtain ⟨rfl, rfl, lengthResult⟩ := fits
  rename_i inputs chunk
  by_cases shaped : array.shape = [inputs]
  · by_cases empty : inputs = 0
    · subst empty
      obtain rfl : result = [] := List.eq_nil_of_length_eq_zero lengthResult
      simp only [call, fresh, shaped, ne_eq, not_true_eq_false, if_false, if_true]
      rcases program.run (β := α) [] parameters with reason | value
      · rfl
      · rfl
    · have nonempty : 0 < inputs := Nat.pos_of_ne_zero empty
      have sized : (List.replicate inputs (Scalar.zero : α)).length = inputs :=
        List.length_replicate
      obtain ⟨sameValue, sameResult⟩ := passes_eq_of_result
        (isLoaded_load ⟨inputs, chunk, workspace, result⟩ array.entries) (positive nonempty)
        nonempty lengthResult sized program parameters Scalar.zero
      simp only [call, fresh, shaped, ne_eq, not_true_eq_false, if_false, empty]
      simp only [load] at sameValue sameResult ⊢
      rcases first : passes program parameters (starts inputs chunk) Scalar.zero
        ⟨inputs, chunk, array.entries.map fun value => ⟨value, unseeded chunk⟩, result⟩
        with ⟨_ | value, after⟩
      · rw [first] at sameValue
        rcases second : passes program parameters (starts inputs chunk) Scalar.zero
          ⟨inputs, chunk, array.entries.map fun value => ⟨value, unseeded chunk⟩,
            List.replicate inputs Scalar.zero⟩ with ⟨other, after'⟩
        rw [second] at sameValue
        obtain rfl := sameValue
        rfl
      · rw [first] at sameValue sameResult
        rcases second : passes program parameters (starts inputs chunk) Scalar.zero
          ⟨inputs, chunk, array.entries.map fun value => ⟨value, unseeded chunk⟩,
            List.replicate inputs Scalar.zero⟩ with ⟨other, after'⟩
        rw [second] at sameValue sameResult
        obtain rfl := sameValue
        exact congrArg (fun result => Except.ok (value, result)) (sameResult rfl)
  · simp only [call, fresh, ne_eq, shaped, not_false_eq_true, if_true]

end Calls

end Intertemporal.Gradient
