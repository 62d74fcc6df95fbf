import Intertemporal.Proofs.Exact
import Intertemporal.Proofs.Program.Morphisms
import Intertemporal.Proofs.Program.Passes

/-!
# Chunks of inputs

A gradient can be computed in chunks of any size. The pass over a chunk, seen at one of its inputs,
is the pass over that input alone (`pass_restrict`), and the value that a pass computes does not
depend on what is seeded at all (`pass_forget`). So what a call returns can be said an input at a
time, without chunks and without the state of the gradient (`call_fst_eq_derivatives`).
-/

namespace Intertemporal.Gradient

variable {α : Type} [Scalar α] {inputs chunk : Nat}

section Passes

variable (program : Program α) (parameters : List (ParameterValue α)) (values : List α)

/-- The seeds of a chunk, seen at one of its inputs, are the seeds of that input alone. -/
theorem map_restrict_seededInputs (start : Nat) (place : Fin chunk) :
    (seededInputs chunk values start).map (Jet.restrict fun _ => place) =
      seededInputs 1 values (start + place) := by
  apply List.ext_getElem
  · simp [seededInputs]
  · intro index _ inRange
    have small := place.isLt
    simp only [seededInputs, List.getElem_map, List.getElem_mapIdx, Jet.restrict, Dual.restrict]
    congr 2
    apply Vector.ext
    intro first isFirst
    obtain rfl : first = 0 := by omega
    by_cases same : index = start + place
    · subst same
      simp [Dual.selected, seed]
    · have outside : ¬(start + place ≤ index ∧ index < start + place + 1) := by omega
      simp only [Dual.selected, Vector.getElem_ofFn, if_neg outside]
      split
      · have other : place.val ≠ index - start := by omega
        simp [seed, unseeded, other]
      · simp [unseeded]

/-- The pass over a chunk, seen at one of its inputs, is the pass over that input alone. -/
theorem pass_restrict (start : Nat) (place : Fin chunk) :
    (pass program parameters chunk values start).map (Jet.restrict fun _ => place) =
      pass program parameters 1 values (start + place) := by
  rw [pass, pass, ← map_restrict_seededInputs]
  exact (program.run_map (Jet.isMorphism_restrict _) _ parameters).symm

/-- Without its derivatives, a pass does not show which chunk is seeded. -/
theorem pass_forget (chunk start : Nat) :
    (pass program parameters chunk values start).map (Jet.restrict Fin.elim0) =
      pass program parameters 0 values 0 := by
  have bare : (seededInputs chunk values start).map (Jet.restrict Fin.elim0) =
      seededInputs 0 values 0 := by
    apply List.ext_getElem
    · simp [seededInputs]
    · intro index _ _
      simp only [seededInputs, List.getElem_map, List.getElem_mapIdx, Jet.restrict, Dual.restrict]
      congr 2
  rw [pass, pass, ← bare]
  exact (program.run_map (Jet.isMorphism_restrict _) _ parameters).symm

variable {program parameters values}

theorem pass_eq_error {reason : ComputationError}
    (failed : pass program parameters 0 values 0 = .error reason) (chunk start : Nat) :
    pass program parameters chunk values start = .error reason := by
  have bare := pass_forget program parameters values chunk start
  rw [failed] at bare
  rcases passed : pass program parameters chunk values start with other | output
  · rw [passed] at bare
    cases bare
    rfl
  · rw [passed] at bare
    cases bare

theorem exists_pass_eq_ok {output : Jet α 0}
    (computed : pass program parameters 0 values 0 = .ok output) (chunk start : Nat) :
    ∃ found, pass program parameters chunk values start = .ok found ∧
      found.value = output.value := by
  have bare := pass_forget program parameters values chunk start
  rw [computed] at bare
  rcases passed : pass program parameters chunk values start with other | found
  · rw [passed] at bare
    cases bare
  · rw [passed] at bare
    refine ⟨found, rfl, ?_⟩
    rw [← Except.ok.inj bare, Jet.value_restrict]

end Passes

/-- The derivative with respect to one input, computed in a pass over that input alone. -/
def derivativeAt (program : Program α) (parameters : List (ParameterValue α)) (values : List α)
    (index : Nat) : Except ComputationError α :=
  (pass program parameters 1 values index).map fun output => output.partials[0]

theorem derivativeAt_eq_ok {program : Program α} {parameters : List (ParameterValue α)}
    {values : List α} {index : Nat} (small : index % chunk < chunk) {output : Jet α chunk}
    (computed : pass program parameters chunk values (index / chunk * chunk) = .ok output) :
    derivativeAt program parameters values index = .ok output.partials[index % chunk] := by
  have alone := pass_restrict program parameters values (index / chunk * chunk)
    ⟨index % chunk, small⟩
  rw [computed, Nat.div_add_mod'] at alone
  rw [derivativeAt, ← alone]
  exact congrArg Except.ok (Jet.partials_restrict _ output 0)

variable {gradient : Gradient α}

section Passes

variable {values : List α} {program : Program α} {parameters : List (ParameterValue α)}

/-- The first pass fails if passes have no value. -/
theorem passes_fst_eq_error (loaded : gradient.IsLoaded values) {reason : ComputationError}
    (failed : pass program parameters 0 values 0 = .error reason) {starts : List Nat}
    (nonempty : starts ≠ []) (value : α) :
    (passes program parameters starts value gradient).1 = .error reason := by
  obtain ⟨start, rest, rfl⟩ := List.exists_cons_of_ne_nil nonempty
  rw [passes_cons_of_error loaded (pass_eq_error failed gradient.chunk start)]

/-- Passes over all chunks leave the derivatives that passes over single inputs compute. -/
theorem exists_passes_eq_derivatives (loaded : gradient.IsLoaded values)
    (positive : 0 < gradient.chunk) (nonempty : 0 < gradient.inputs)
    (lengthResult : gradient.result.length = gradient.inputs) {output : Jet α 0}
    (computed : pass program parameters 0 values 0 = .ok output) (value : α) :
    ∃ after,
      passes program parameters (starts gradient.inputs gradient.chunk) value gradient =
        (.ok output.value, after) ∧
      (List.range gradient.inputs).mapM (derivativeAt program parameters values) =
        .ok after.result := by
  choose outputs passed sameValue using exists_pass_eq_ok computed gradient.chunk
  obtain ⟨start, _, after, returned, lengthAfter, each⟩ :=
    passes_of_computed loaded positive nonempty lengthResult (fun start _ => passed start) value
  refine ⟨after, sameValue start ▸ returned, ?_⟩
  apply mapM_eq_ok.mpr
  apply List.forall₂_iff_get.mpr
  refine ⟨List.length_range.trans lengthAfter.symm, ?_⟩
  intro index inRange inResult
  have found := each index (lengthAfter ▸ inResult)
  have small := Nat.mod_lt index positive
  rw [List.getElem?_eq_getElem inResult, Vector.getElem?_eq_getElem small] at found
  simp only [List.get_eq_getElem, List.getElem_range]
  rw [derivativeAt_eq_ok small (passed _), Option.some.inj found]

end Passes

/-- What a call returns, said an input at a time: the value, and the derivative that a pass over
each input alone computes. -/
theorem call_fst_eq_derivatives (fits : gradient.Fits inputs chunk) (positive : 0 < chunk)
    (nonempty : 0 < inputs) (program : Program α) (parameters : List (ParameterValue α))
    {array : NumberArray α} (shaped : array.shape = [inputs]) :
    (gradient.call program parameters array).1 =
      Except.mapError GradientError.computation (do
        let output ← pass program parameters 0 array.entries 0
        let derivatives ←
          (List.range inputs).mapM (derivativeAt program parameters array.entries)
        .ok (output.value, derivatives)) := by
  obtain ⟨rfl, rfl, lengthResult⟩ := fits
  have loaded := isLoaded_load gradient array.entries
  simp only [call, shaped, ne_eq, not_true_eq_false, if_false, Nat.ne_of_gt nonempty]
  -- the pass in which nothing is seeded fails if and only if all others do
  rcases bare : pass program parameters 0 array.entries 0 with reason | output
  · have failed := passes_fst_eq_error loaded bare
      (List.ne_nil_of_mem (mem_starts positive nonempty)) Scalar.zero
    rcases passed : passes program parameters (starts gradient.inputs gradient.chunk) Scalar.zero
      (gradient.load array.entries) with ⟨result, after⟩
    obtain rfl : result = .error reason := by rw [← failed, passed]
    rfl
  · obtain ⟨after, passed, derived⟩ :=
      exists_passes_eq_derivatives loaded positive nonempty lengthResult bare Scalar.zero
    rw [show passes program parameters (starts gradient.inputs gradient.chunk) Scalar.zero
      (gradient.load array.entries) = _ from passed]
    rw [show (List.range gradient.inputs).mapM (derivativeAt program parameters array.entries) = _
      from derived]
    rfl

/-- Gradients of the same number of inputs return the same, whatever the sizes of their chunks and
whatever earlier calls left in them. -/
theorem call_fst_eq_of_fits {other : Gradient α} {otherChunk : Nat}
    (fits : gradient.Fits inputs chunk) (fitsOther : other.Fits inputs otherChunk)
    (positive : 0 < inputs → 0 < chunk) (positiveOther : 0 < inputs → 0 < otherChunk)
    (program : Program α) (parameters : List (ParameterValue α)) (array : NumberArray α) :
    (gradient.call program parameters array).1 = (other.call program parameters array).1 := by
  by_cases shaped : array.shape = [inputs]
  · rcases Nat.eq_zero_or_pos inputs with rfl | nonempty
    · have noResult := List.eq_nil_of_length_eq_zero fits.length_result
      have noResultOther := List.eq_nil_of_length_eq_zero fitsOther.length_result
      simp only [call, fits.inputs_eq, fitsOther.inputs_eq, shaped, ne_eq, not_true_eq_false,
        if_false, if_true, noResult, noResultOther]
      cases program.run (β := α) [] parameters <;> rfl
    · rw [call_fst_eq_derivatives fits (positive nonempty) nonempty program parameters shaped,
        call_fst_eq_derivatives fitsOther (positiveOther nonempty) nonempty program parameters
          shaped]
  · simp only [call, fits.inputs_eq, fitsOther.inputs_eq, ne_eq, shaped, not_false_eq_true,
      if_true]

/-- The number of inputs that are seeded at once shows in no result, and neither do the calls that a
gradient has seen before, whether they failed or not. -/
theorem call_fst_eq_single (used : gradient.Used inputs chunk) (positive : 1 ≤ chunk)
    (program : Program α) (parameters : List (ParameterValue α)) (array : NumberArray α) :
    (gradient.call program parameters array).1 =
      ((fresh inputs 1).call program parameters array).1 :=
  call_fst_eq_of_fits used.fits (fresh_fits inputs 1) (fun _ => positive) (fun _ => Nat.one_pos)
    program parameters array

/-- Three inputs in chunks of two, after a call that failed in its first pass and left its seeds
behind. -/
theorem call_fst_eq_single_after_failure :
    let failing : Program ℝ := .arithmetic .add (.input 0) (.parameter 0)
    let product : Program ℝ := .arithmetic .mul (.input 0) (.arithmetic .add (.input 1) (.input 2))
    let failed := (fresh 3 2).call failing [] (.ofList [1, 2, 3])
    failed.1 = .error (.computation .missingParameter) ∧
      (failed.2.call product [] (.ofList [2, 3, 4])).1 =
        ((fresh 3 1).call product [] (.ofList [2, 3, 4])).1 ∧
      ((fresh 3 1).call product [] (.ofList [2, 3, 4])).1.map Prod.fst = .ok (2 * (3 + 4)) := by
  intro failing product failed
  refine ⟨rfl, ?_, rfl⟩
  have used : failed.2.Used 3 2 := Used.fresh.call failing [] (.ofList [1, 2, 3])
  exact call_fst_eq_single used (by decide) product [] (.ofList [2, 3, 4])

end Intertemporal.Gradient
