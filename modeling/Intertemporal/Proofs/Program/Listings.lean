import Intertemporal.Proofs.Exact
import Intertemporal.Proofs.Program.Readings

/-!
# Lists with repeated references

An expression can be compiled over any lists that cover it, and nothing asks that these name a
reference only once. A program reads the last of several places of a reference, so the values that
it computes are those of the expression by name wherever equal references hold equal values
(`run_of_reads`).

The levels of steady states are meant to follow the listed series. They are read from the place
after the distinct series on, which is the same place only if no series is listed twice.
-/

namespace Intertemporal

variable {α β : Type}

namespace References

variable {references : References} {start : Nat} {inputs : List β} {valuation : Valuation α β}

/-- Inputs that hold equal values at all places that list the same reference, where the levels of
steady states begin at a place of their own. -/
structure IsConsistent (references : References) (start : Nat) (inputs : List β) : Prop where
  series : ∀ {first second : Nat} {reference : TimedVariable},
    references.series[first]? = some reference → references.series[second]? = some reference →
      inputs[first]? = inputs[second]?
  steadyState : ∀ {first second : Nat} {name : String},
    references.steadyStates[first]? = some name → references.steadyStates[second]? = some name →
      inputs[start + first]? = inputs[start + second]?

/-- A valuation whose values are read from inputs: each listed reference has the value at some place
that lists it. -/
structure Reads (references : References) (start : Nat) (inputs : List β)
    (valuation : Valuation α β) : Prop where
  series : ∀ reference ∈ references.series, ∃ place : Nat,
    references.series[place]? = some reference ∧
      inputs[place]? = some (valuation.series reference)
  steadyState : ∀ name ∈ references.steadyStates, ∃ place : Nat,
    references.steadyStates[place]? = some name ∧
      inputs[start + place]? = some (valuation.steadyState name)

/-- Inputs that are filled in by name are consistent. -/
theorem isConsistent_inputsOf (references : References) (valuation : Valuation α β) :
    references.IsConsistent references.series.length (references.inputsOf valuation) where
  series listed again :=
    (getElem?_inputsOf_series listed).trans (getElem?_inputsOf_series again).symm
  steadyState listed again :=
    (getElem?_inputsOf_steadyState listed).trans (getElem?_inputsOf_steadyState again).symm

/-- What is filled in by name is read by name. -/
theorem reads_inputsOf (references : References) (valuation : Valuation α β) :
    references.Reads references.series.length (references.inputsOf valuation) valuation where
  series _ member := by
    obtain ⟨place, listed⟩ := List.mem_iff_getElem?.mp member
    exact ⟨place, listed, getElem?_inputsOf_series listed⟩
  steadyState _ member := by
    obtain ⟨place, listed⟩ := List.mem_iff_getElem?.mp member
    exact ⟨place, listed, getElem?_inputsOf_steadyState listed⟩

/-- The slot of a series holds the value that is read for it. -/
theorem Reads.series_valuation (reads : references.Reads start inputs valuation)
    (consistent : references.IsConsistent start inputs) (other : β)
    (parameters : List (ParameterValue α)) {reference : TimedVariable}
    (listed : reference ∈ references.series) :
    (references.valuation inputs other parameters).series reference =
      valuation.series reference := by
  obtain ⟨slot, found⟩ := exists_lastPosition? listed
  obtain ⟨place, here, held⟩ := reads.series reference listed
  have inSlot := (consistent.series (getElem?_lastPosition? found) here).trans held
  simp only [References.valuation, seriesSlot?, found, Option.bind_some, inSlot, Option.getD_some]

/-- The slot of a level holds the value that is read for it, if the levels begin after the distinct
series. -/
theorem Reads.steadyState_valuation
    (reads : references.Reads (distinct references.series).length inputs valuation)
    (consistent : references.IsConsistent (distinct references.series).length inputs) (other : β)
    (parameters : List (ParameterValue α)) {name : String}
    (listed : name ∈ references.steadyStates) :
    (references.valuation inputs other parameters).steadyState name =
      valuation.steadyState name := by
  obtain ⟨slot, found⟩ := exists_lastPosition? listed
  obtain ⟨place, here, held⟩ := reads.steadyState name listed
  have inSlot := (consistent.steadyState (getElem?_lastPosition? found) here).trans held
  simp only [References.valuation, steadyStateSlot?, found, Option.map_some, Option.bind_some,
    inSlot, Option.getD_some]

/-- Lists that cover an expression without steady states cover it without their levels. -/
theorem Covers.withoutSteadyStates {expression : Expression α}
    (covers : references.Covers expression)
    (none : ∀ name, .steadyState name ∉ expression.nodes) :
    { references with steadyStates := [] }.Covers expression := by
  intro node member
  have listed := covers node member
  cases node with
  | steadyState name => exact absurd member (none name)
  | _ => exact listed

end References

namespace Expression

variable [NumberSystem α β] {expression : Expression α} {references : References}
  {inputs : List β} {valuation : Valuation α β} {parameters : List (ParameterValue α)}

/-- Over any lists a compiled expression has the value that it has by name, with the levels of
steady states read from the place after the distinct series on. -/
theorem run_of_reads_distinct {program : Program α}
    (compiled : expression.compile references = .ok program)
    (covers : references.Covers expression) (enough : references.inputCount ≤ inputs.length)
    (consistent : references.IsConsistent (distinct references.series).length inputs)
    (reads : references.Reads (distinct references.series).length inputs valuation)
    (bound : List.Forall₂ (fun name value => valuation.parameter name = some value)
      references.parameters parameters) :
    program.run inputs parameters = expression.valueIn valuation := by
  let other := valuation.series ⟨"", 0⟩
  rw [run_of_compile compiled enough other]
  exact valueIn_congr covers
    { series := fun _ => reads.series_valuation consistent other parameters
      steadyState := fun _ => reads.steadyState_valuation consistent other parameters
      parameter := fun _ => References.parameter_valuation bound inputs other }

/-- An expression without steady states has the value that it has by name, wherever the levels are
taken to begin. -/
theorem run_of_reads_series {program : Program α} {start : Nat}
    (compiled : expression.compile references = .ok program)
    (covers : references.Covers expression) (none : ∀ name, .steadyState name ∉ expression.nodes)
    (enough : references.inputCount ≤ inputs.length)
    (consistent : references.IsConsistent start inputs)
    (reads : references.Reads start inputs valuation)
    (bound : List.Forall₂ (fun name value => valuation.parameter name = some value)
      references.parameters parameters) :
    program.run inputs parameters = expression.valueIn valuation := by
  let other := valuation.series ⟨"", 0⟩
  rw [run_of_compile compiled enough other]
  exact valueIn_congr (covers.withoutSteadyStates none)
    { series := fun _ => reads.series_valuation consistent other parameters
      steadyState := fun _ listed => absurd listed List.not_mem_nil
      parameter := fun _ => References.parameter_valuation bound inputs other }

/-- Compiled over any lists that cover it, an expression has the value that it has by name: series
read from the places that list them, levels of steady states from the places after these and
parameters from their own places. If a series is listed twice, the expression must not refer to
steady states. -/
theorem run_of_reads (covers : references.Covers expression)
    (single : references.series.Nodup ∨ ∀ name, .steadyState name ∉ expression.nodes)
    (length : inputs.length = references.inputCount)
    (consistent : references.IsConsistent references.series.length inputs)
    (reads : references.Reads references.series.length inputs valuation)
    (bound : List.Forall₂ (fun name value => valuation.parameter name = some value)
      references.parameters parameters) :
    ∃ program, expression.compile references = .ok program ∧
      program.run inputs parameters = expression.valueIn valuation := by
  obtain ⟨program, compiled⟩ := exists_compile covers
  refine ⟨program, compiled, ?_⟩
  rcases single with different | none
  · have start := congrArg List.length (distinct_of_nodup different)
    rw [← start] at consistent reads
    exact run_of_reads_distinct compiled covers length.ge consistent reads bound
  · exact run_of_reads_series compiled covers none length.ge consistent reads bound

/-- `x[t] + a*sstate(y)`, with `y` and `a` listed twice. -/
theorem run_of_reads_repeated :
    ∃ program : Program ℝ,
      compile ⟨[⟨"x", 0⟩], ["y", "y"], ["a", "a"]⟩
        (.binary .add (.series ⟨"x", 0⟩) (.binary .mul (.parameter "a" none) (.steadyState "y"))) =
          .ok program ∧
      program.run [1, 3, 3] [.scalar 2, .scalar 2] = .ok (1 + 2 * 3 : ℝ) := by
  let lists : References := ⟨[⟨"x", 0⟩], ["y", "y"], ["a", "a"]⟩
  let values : Valuation ℝ ℝ := ⟨fun _ => 1, fun _ => 3, fun _ => some (.scalar 2)⟩
  exact run_of_reads (by simp [References.Covers, References.Lists, nodes, lists])
    (.inl (List.nodup_singleton _)) rfl (lists.isConsistent_inputsOf values)
    (lists.reads_inputsOf values) (by simp [lists, values])

/-- The levels are not read from the places after the listed series if a series is listed twice:
with `x[t]` twice and then `sstate(x)` listed, `sstate(x)` is read as the second `x[t]`. -/
theorem run_ne_of_series_repeated :
    ¬∀ (expression : Expression ℝ) (references : References) (inputs : List ℝ)
      (valuation : Valuation ℝ ℝ) (parameters : List (ParameterValue ℝ)),
      references.Covers expression → inputs.length = references.inputCount →
      references.IsConsistent references.series.length inputs →
      references.Reads references.series.length inputs valuation →
      List.Forall₂ (fun name value => valuation.parameter name = some value)
        references.parameters parameters →
      ∃ program, expression.compile references = .ok program ∧
        program.run inputs parameters = expression.valueIn valuation := by
  intro reading
  let lists : References := ⟨[⟨"x", 0⟩, ⟨"x", 0⟩], ["x"], []⟩
  let values : Valuation ℝ ℝ := ⟨fun _ => 1, fun _ => 5, fun _ => none⟩
  obtain ⟨program, compiled, run⟩ := reading (.steadyState "x") lists [1, 1, 5] values []
    (by simp [References.Covers, References.Lists, nodes, lists]) rfl
    (lists.isConsistent_inputsOf values) (lists.reads_inputsOf values) .nil
  obtain rfl : Program.input 1 = program := Except.ok.inj compiled
  have second : (1 : ℝ) = 5 := Except.ok.inj run
  norm_num at second

end Expression

end Intertemporal
