import Intertemporal.Proofs.Expression.Occurrences
import Intertemporal.Proofs.PartialReal
import Intertemporal.Proofs.Program.Idle
import Intertemporal.Proofs.Program.Values

/-!
# Derivatives with respect to inputs that are not read

An expression does not move with an input that it does not read. The pass over such an input starts
with derivatives that are zero as far as the expression can see, so what comes out of them is the
same for all these inputs and can be told from the values alone (`StaysIdle`). This decides what a
term of a sum does to the derivatives of the sum that are no business of its own
(`call_add_of_unread`): it leaves them as they are, or it makes all of them undefined.
-/

namespace Intertemporal

open Intertemporal.Gradient (derivativeAt seededInputs unseeded)

variable {α : Type}

namespace Expression

/-- The input that an expression is. -/
def slot? (references : References) : Expression α → Option Nat
  | .series reference => references.seriesSlot? reference
  | .steadyState name => references.steadyStateSlot? name
  | _ => none

/-- Whether an expression reads an input. -/
def Reads (expression : Expression α) (references : References) (index : Nat) : Prop :=
  ∃ node ∈ expression.nodes, node.slot? references = some index

variable [Scalar α]

/-- Whether derivatives that are zero come out as zero, at given values of the inputs. -/
def StaysIdle (expression : Expression α) (references : References) (values : List α)
    (parameters : List (ParameterValue α)) : Prop :=
  ∀ idle, expression.valueIn (references.valuation (values.map IdleJet.input)
    (IdleJet.input Scalar.zero) parameters) = .ok idle → idle.stays

section Passes

variable {expression : Expression α} {references : References} {values : List α} {index : Nat}

/-- In the pass over an input, idle jets stand for the other inputs. -/
theorem follows_seededInputs {slot : Nat} (other : slot ≠ index) :
    (((values.map IdleJet.input)[slot]?).getD (IdleJet.input Scalar.zero)).Follows
      (((seededInputs 1 values index)[slot]?).getD (.dual ⟨Scalar.zero, unseeded 1⟩)) := by
  have outside : ¬(index ≤ slot ∧ slot < index + 1) := by omega
  rw [List.getElem?_map, seededInputs, List.getElem?_mapIdx]
  rcases values[slot]? with _ | value
  · exact .input Scalar.zero
  · simp only [Option.map_some, Option.getD_some, if_neg outside]
    exact .input value

theorem simulates_seededInputs (unread : ¬expression.Reads references index)
    (parameters : List (ParameterValue α)) :
    Valuation.Simulates IdleJet.Follows expression.references
      (references.valuation (values.map IdleJet.input) (IdleJet.input Scalar.zero) parameters)
      (references.valuation (seededInputs 1 values index) (.dual ⟨Scalar.zero, unseeded 1⟩)
        parameters) := by
  have recorded := isRecordOf_references expression
  have follows : ∀ node ∈ expression.nodes,
      (((node.slot? references).bind ((values.map IdleJet.input)[·]?)).getD
        (IdleJet.input Scalar.zero)).Follows
      (((node.slot? references).bind ((seededInputs 1 values index)[·]?)).getD
        (.dual ⟨Scalar.zero, unseeded 1⟩)) := by
    intro node member
    rcases found : node.slot? references with _ | slot
    · exact .input Scalar.zero
    · refine follows_seededInputs ?_
      rintro rfl
      exact unread ⟨node, member, found⟩
  refine ⟨fun reference listed => ?_, fun name listed => ?_, rfl⟩
  · exact follows (.series reference)
      (mem_filterMap_series?.mp ((recorded.series.mem_iff reference).mp listed))
  · obtain ⟨node, member, same⟩ :=
      List.mem_filterMap.mp ((recorded.steadyStates.mem_iff name).mp listed)
    cases node <;> cases same
    exact follows _ member

/-- What a pass over an input that is not read computes, idle jets compute. -/
theorem pass_follows {program : Program α}
    (compiled : expression.compile references = .ok program)
    (enough : references.inputCount ≤ values.length) (unread : ¬expression.Reads references index)
    (parameters : List (ParameterValue α)) :
    AlikeResults IdleJet.Follows
      (expression.valueIn (references.valuation (values.map IdleJet.input)
        (IdleJet.input Scalar.zero) parameters))
      (Gradient.pass program parameters 1 values index) := by
  have sized : references.inputCount ≤ (seededInputs 1 values index).length := by
    simpa [seededInputs] using enough
  rw [Gradient.pass, run_of_compile compiled sized (.dual ⟨Scalar.zero, unseeded 1⟩)]
  exact valueIn_simulates IdleJet.isSimulation_follows expression.covers_references
    (simulates_seededInputs unread parameters)

end Passes

end Expression

namespace Jet

variable [Scalar α] {left right : Jet α 1}

/-- What stands still leaves the derivative of a sum to the other term. -/
theorem partials_add_of_isIdle (zero_add : ∀ scalar : α, Scalar.zero + scalar = scalar)
    (still : left.IsIdle) :
    sole (arithmetic .add left right).partials = sole right.partials := by
  cases left with
  | plain value =>
      cases right with
      | plain other => simp [arithmetic, partials]
      | dual operand => rfl
  | dual operand =>
      have here : sole operand.partials = Scalar.zero := still
      cases right with
      | plain other => simp [arithmetic, partials, Dual.arithmeticPlain, Dual.addPlain, here]
      | dual other =>
          simp [arithmetic, partials, Dual.arithmetic, Dual.add, Dual.added, here, zero_add]

end Jet

namespace Gradient

variable [Scalar α] {gradient : Gradient α} {inputs chunk : Nat} {program : Program α}
  {parameters : List (ParameterValue α)} {array : NumberArray α}

/-- A call returns if the program can be run without seeds, and then it returns the derivatives with
respect to the inputs one by one. -/
theorem exists_call_of_pass (fits : gradient.Fits inputs chunk) (positive : 0 < chunk)
    (nonempty : 0 < inputs) (shaped : array.shape = [inputs]) {output : Jet α 0}
    (computed : pass program parameters 0 array.entries 0 = .ok output) :
    ∃ derivatives, (gradient.call program parameters array).1 = .ok (output.value, derivatives) ∧
      List.Forall₂ (fun index slope =>
        derivativeAt program parameters array.entries index = .ok slope)
        (List.range inputs) derivatives := by
  obtain ⟨derivatives, derived⟩ := exists_mapM_derivativeAt computed inputs
  refine ⟨derivatives, ?_, mapM_eq_ok.mp derived⟩
  rw [call_fst_eq_derivatives fits positive nonempty program parameters shaped, computed]
  simp only [bind, Except.bind, derived]
  rfl

theorem exists_pass_of_call (fits : gradient.Fits inputs chunk) (positive : 0 < chunk)
    (nonempty : 0 < inputs) {value : α} {derivatives : List α}
    (called : (gradient.call program parameters array).1 = .ok (value, derivatives)) :
    array.shape = [inputs] ∧ ∃ output, pass program parameters 0 array.entries 0 = .ok output := by
  by_cases shaped : array.shape = [inputs]
  · refine ⟨shaped, ?_⟩
    rw [call_fst_eq_derivatives fits positive nonempty program parameters shaped, mapError_eq_ok]
      at called
    exact (bind_eq_ok.mp called).imp fun _ found => found.1
  · simp only [call, fits.inputs_eq, ne_eq, shaped, not_false_eq_true, if_true] at called
    cases called

/-- The derivatives that a call returns are those with respect to the inputs one by one. -/
theorem exists_derivativeAt_of_call (fits : gradient.Fits inputs chunk) (positive : 0 < chunk)
    {value : α} {derivatives : List α}
    (called : (gradient.call program parameters array).1 = .ok (value, derivatives)) {index : Nat}
    (inRange : index < inputs) :
    ∃ slope, derivatives[index]? = some slope ∧
      derivativeAt program parameters array.entries index = .ok slope := by
  have nonempty : 0 < inputs := Nat.zero_lt_of_lt inRange
  obtain ⟨shaped, output, computed⟩ := exists_pass_of_call fits positive nonempty called
  obtain ⟨_, again, each⟩ := exists_call_of_pass fits positive nonempty shaped computed
  cases called.symm.trans again
  exact exists_getElem?_of_forall₂ each (List.getElem?_range inRange)

/-- Without inputs, a call runs the program on scalars. -/
theorem exists_call_iff_of_empty (fits : gradient.Fits 0 chunk) :
    (∃ value derivatives, (gradient.call program parameters (.ofList [])).1 =
      .ok (value, derivatives)) ↔ ∃ value : α, program.run [] parameters = .ok value := by
  simp only [call, fits.inputs_eq, NumberArray.ofList, List.length_nil, ne_eq, not_true_eq_false,
    if_false, if_true]
  rcases program.run (β := α) [] parameters with reason | value <;> simp

section Sums

variable {left right : Expression α} {references : References} {sum alone : Program α}

omit [Scalar α] in
theorem exists_compile_of_add
    (compiled : (Expression.binary .add left right).compile references = .ok sum)
    (compiledAlone : right.compile references = .ok alone) :
    ∃ first, left.compile references = .ok first ∧ sum = .arithmetic .add first alone := by
  obtain ⟨first, compiledLeft, rest⟩ := bind_eq_ok.mp compiled
  obtain ⟨second, compiledRight, gave⟩ := bind_eq_ok.mp rest
  obtain rfl := Except.ok.inj (compiledAlone.symm.trans compiledRight)
  exact ⟨first, compiledLeft, (Except.ok.inj gave).symm⟩

/-- What the pass over an input that the first term does not read finds for a sum and for the second
term. -/
theorem derivativeAt_add_of_unread (zero_add : ∀ scalar : α, Scalar.zero + scalar = scalar)
    {first : Program α} (compiledLeft : left.compile references = .ok first) {values : List α}
    (enough : references.inputCount ≤ values.length) {index : Nat}
    (unread : ¬left.Reads references index) {slope : α}
    (derived : derivativeAt (.arithmetic .add first alone) parameters values index = .ok slope) :
    ∃ slopeAlone, derivativeAt alone parameters values index = .ok slopeAlone ∧
      (left.StaysIdle references values parameters → slope = slopeAlone) ∧
      (Scalar.IsAbsorbing α → ¬left.StaysIdle references values parameters →
        slope = Scalar.undefined) := by
  rw [derivativeAt] at derived
  rcases passed : pass (.arithmetic .add first alone) parameters 1 values index with _ | output
  · rw [passed] at derived
    cases derived
  · rw [passed] at derived
    obtain rfl := Except.ok.inj derived
    obtain ⟨moved, ranLeft, rest⟩ := bind_eq_ok.mp passed
    obtain ⟨other, ranAlone, gave⟩ := bind_eq_ok.mp rest
    obtain rfl := Except.ok.inj gave
    have same := Expression.pass_follows compiledLeft enough unread parameters
    rw [show pass first parameters 1 values index = .ok moved from ranLeft] at same
    rcases valued : left.valueIn (references.valuation (values.map IdleJet.input)
      (IdleJet.input Scalar.zero) parameters) with _ | idle
    · rw [valued] at same
      cases same
    · rw [valued] at same
      have follows : idle.Follows moved := by
        cases same with
        | returned follows => exact follows
      have stays : left.StaysIdle references values parameters ↔ idle.stays := by
        simp [Expression.StaysIdle, valued]
      refine ⟨sole other.partials, ?_, fun idleAtPoint => ?_, fun absorbing moves => ?_⟩
      · rw [derivativeAt, pass, ranAlone]
        rfl
      · exact Jet.partials_add_of_isIdle zero_add (follows.isIdle (stays.mp idleAtPoint))
      · exact Jet.arithmetic_undefined_left absorbing .add
          (follows.lost absorbing fun still => moves (stays.mpr still))

end Sums

/-- A term of a sum that does not read an input leaves the derivative with respect to it to the
other term, if zeros come out of it as zeros. All it takes is that adding zero changes nothing.
Otherwise the derivative of the sum is undefined, provided that undefined scalars absorb others. -/
theorem call_add_of_unread (zero_add : ∀ scalar : α, Scalar.zero + scalar = scalar)
    {left right : Expression α} {references : References} {sum alone : Program α}
    (compiled : (Expression.binary .add left right).compile references = .ok sum)
    (compiledAlone : right.compile references = .ok alone) {values : List α}
    (sized : values.length = references.inputCount) {gradientAlone : Gradient α} {chunkAlone : Nat}
    (used : gradient.Used references.inputCount chunk) (positive : 1 ≤ chunk)
    (usedAlone : gradientAlone.Used references.inputCount chunkAlone)
    (positiveAlone : 1 ≤ chunkAlone) {value : α} {derivatives : List α}
    (called : (gradient.call sum parameters (.ofList values)).1 = .ok (value, derivatives)) :
    ∃ valueAlone derivativesAlone,
      (gradientAlone.call alone parameters (.ofList values)).1 =
        .ok (valueAlone, derivativesAlone) ∧
      ∀ index < references.inputCount, ¬left.Reads references index →
        ∃ slope slopeAlone,
          derivatives[index]? = some slope ∧ derivativesAlone[index]? = some slopeAlone ∧
          (left.StaysIdle references values parameters → slope = slopeAlone) ∧
          (Scalar.IsAbsorbing α → ¬left.StaysIdle references values parameters →
            slope = Scalar.undefined) := by
  obtain ⟨first, compiledLeft, rfl⟩ := exists_compile_of_add compiled compiledAlone
  rcases Nat.eq_zero_or_pos references.inputCount with empty | nonempty
  · obtain rfl : values = [] := List.eq_nil_of_length_eq_zero (sized.trans empty)
    have fits : gradient.Fits 0 chunk := empty ▸ used.fits
    have fitsAlone : gradientAlone.Fits 0 chunkAlone := empty ▸ usedAlone.fits
    obtain ⟨_, ran⟩ := (exists_call_iff_of_empty fits).mp ⟨value, derivatives, called⟩
    obtain ⟨_, _, rest⟩ := bind_eq_ok.mp ran
    obtain ⟨valueAlone, ranAlone, _⟩ := bind_eq_ok.mp rest
    obtain ⟨valueAlone, derivativesAlone, returned⟩ :=
      (exists_call_iff_of_empty fitsAlone).mpr ⟨valueAlone, ranAlone⟩
    refine ⟨valueAlone, derivativesAlone, returned, fun index inRange => ?_⟩
    omega
  · obtain ⟨shaped, output, computed⟩ := exists_pass_of_call used.fits positive nonempty called
    obtain ⟨_, _, rest⟩ := bind_eq_ok.mp computed
    obtain ⟨outputAlone, computedAlone, _⟩ := bind_eq_ok.mp rest
    obtain ⟨derivativesAlone, calledAlone, -⟩ :=
      exists_call_of_pass usedAlone.fits positiveAlone nonempty shaped computedAlone
    refine ⟨outputAlone.value, derivativesAlone, calledAlone, fun index inRange unread => ?_⟩
    obtain ⟨slope, found, derived⟩ :=
      exists_derivativeAt_of_call used.fits positive called inRange
    obtain ⟨slopeAlone, foundAlone, derivedAlone⟩ :=
      exists_derivativeAt_of_call usedAlone.fits positiveAlone calledAlone inRange
    obtain ⟨_, derivedToo, kept, lost⟩ := derivativeAt_add_of_unread zero_add compiledLeft
      (Nat.le_of_eq sized.symm) unread derived
    cases derivedAlone.symm.trans derivedToo
    exact ⟨slope, slopeAlone, found, foundAlone, kept, lost⟩

end Gradient

theorem PartialReal.isAbsorbing : Scalar.IsAbsorbing PartialReal where
  zero_ne := by simp [Scalar.undefined]
  neg_zero := by simp
  zero_add := by simp
  zero_sub := by simp
  zero_mul factor := by cases factor <;> simp [Scalar.undefined]
  zero_div divisor := by
    cases divisor with
    | undefined => exact .inr rfl
    | number value =>
        by_cases zero : value = 0 <;> simp [number_div, zero, Scalar.undefined]
  neg := rfl
  add_left _ := rfl
  add_right scalar := by cases scalar <;> rfl
  sub_left _ := rfl
  sub_right scalar := by cases scalar <;> rfl
  mul _ := rfl
  div _ := rfl

namespace Expression

open PartialReal (number)

/-- The square root of a series. -/
def root : Expression PartialReal := .call .sqrt [.series ⟨"x", 0⟩]

/-- The series of the root, and another one. -/
def rootSeries : References := { series := [⟨"x", 0⟩, ⟨"y", 0⟩] }

theorem not_reads_root : ¬root.Reads rootSeries 1 := by
  rintro ⟨node, member, found⟩
  simp only [root, nodes, nodesOfAll, List.append_nil, List.mem_cons, List.not_mem_nil, or_false]
    at member
  rcases member with rfl | rfl
  · cases found
  · have first : some 0 = some 1 := found
    cases first

/-- Zeros come out of a square root as zeros inside its domain, but not at the edge of it. -/
theorem staysIdle_root (first second : ℝ) :
    root.StaysIdle rootSeries [number first, number second] [] ↔ 0 < first := by
  have decided : root.StaysIdle rootSeries [number first, number second] [] ↔
      (Jet.elementary .sqrt (.dual ⟨number first, unseeded 1⟩)).IsIdle := by
    constructor
    · intro stays
      exact (stays _ rfl).2
    · rintro idle _ ⟨⟩
      exact ⟨trivial, idle⟩
  rw [decided]
  simp only [Jet.IsIdle, Jet.elementary, Jet.partials, Dual.elementary, Dual.scaled, unseeded,
    Scalar.derivative, Scalar.elementary, Scalar.sqrt_number, sole_map,
    Vector.replicate_one, sole_singleton, Scalar.zero_partialReal, Scalar.half_partialReal]
  rcases lt_trichotomy first 0 with negative | rfl | positive
  · simp [negative.not_ge, negative.not_gt]
  · simp
  · have nonzero : √first ≠ 0 := (Real.sqrt_pos.mpr positive).ne'
    simp [positive, positive.le, PartialReal.number_div_of_ne _ nonzero]

end Expression

namespace Gradient

open Expression (root rootSeries)
open PartialReal (number)

/-- The root of one series leaves the derivative of its product with another one alone, since it is
inside its domain. -/
theorem call_add_of_unread_root :
    let product : Program PartialReal := .arithmetic .mul (.input 0) (.input 1)
    let sum : Program PartialReal := .arithmetic .add (.call .sqrt [.input 0]) product
    let inputs : NumberArray PartialReal := .ofList [number 4, number 3]
    ∃ value derivatives valueAlone derivativesAlone slope,
      ((fresh 2 1).call sum [] inputs).1 = .ok (value, derivatives) ∧
      ((fresh 2 2).call product [] inputs).1 = .ok (valueAlone, derivativesAlone) ∧
      derivatives[1]? = some slope ∧ derivativesAlone[1]? = some slope := by
  intro product sum inputs
  obtain ⟨value, derivatives, called⟩ : ∃ value derivatives,
      ((fresh 2 1).call sum [] inputs).1 = .ok (value, derivatives) := ⟨_, _, rfl⟩
  have compiledAlone : (Expression.binary .mul (.series ⟨"x", 0⟩) (.series ⟨"y", 0⟩)).compile
      rootSeries = .ok product := rfl
  have compiled : (Expression.binary .add root
      (.binary .mul (.series ⟨"x", 0⟩) (.series ⟨"y", 0⟩))).compile rootSeries = .ok sum := rfl
  have usedAlone : (fresh 2 2 : Gradient PartialReal).Used rootSeries.inputCount 2 := .fresh
  obtain ⟨valueAlone, derivativesAlone, calledAlone, each⟩ :=
    call_add_of_unread (fun scalar => by simp) compiled compiledAlone rfl .fresh
      (Nat.le_refl 1) usedAlone (by decide) called
  obtain ⟨slope, slopeAlone, found, foundAlone, kept, -⟩ :=
    each 1 (by decide) Expression.not_reads_root
  obtain rfl := kept ((Expression.staysIdle_root 4 3).mpr (by norm_num))
  exact ⟨value, derivatives, valueAlone, derivativesAlone, slope, called, calledAlone, found,
    foundAlone⟩

/-- At the edge of its domain, the root of one series makes the derivative with respect to another
one undefined. -/
theorem call_add_of_edge :
    ¬∀ (left right : Expression PartialReal) (references : References)
      (sum alone : Program PartialReal) (values : List PartialReal)
      (value valueAlone : PartialReal) (derivatives derivativesAlone : List PartialReal)
      (index : Nat),
      (Expression.binary .add left right).compile references = .ok sum →
      right.compile references = .ok alone →
      values.length = references.inputCount →
      ((fresh references.inputCount 1).call sum [] (.ofList values)).1 =
        .ok (value, derivatives) →
      ((fresh references.inputCount 1).call alone [] (.ofList values)).1 =
        .ok (valueAlone, derivativesAlone) →
      ¬left.Reads references index → right.Reads references index →
      derivatives[index]? = derivativesAlone[index]? := by
  intro agree
  let values : List PartialReal := [number 0, number 1]
  obtain ⟨value, derivatives, called⟩ : ∃ value derivatives,
      ((fresh 2 1).call (.arithmetic .add (.call .sqrt [.input 0]) (.input 1)) []
        (.ofList values)).1 = .ok (value, derivatives) := ⟨_, _, rfl⟩
  obtain ⟨valueAlone, derivativesAlone, calledAlone⟩ : ∃ value derivatives,
      ((fresh 2 1).call (.input 1) [] (.ofList values)).1 = .ok (value, derivatives) := ⟨_, _, rfl⟩
  have reads : (Expression.series ⟨"y", 0⟩ : Expression PartialReal).Reads rootSeries 1 :=
    ⟨_, List.mem_singleton_self _, rfl⟩
  have same := agree root (.series ⟨"y", 0⟩) rootSeries _ _ values value valueAlone derivatives
    derivativesAlone 1 rfl rfl rfl called calledAlone Expression.not_reads_root reads
  obtain ⟨slope, found, derived⟩ := exists_derivativeAt_of_call (fresh_fits 2 1) Nat.one_pos called
    Nat.one_lt_two
  obtain ⟨slopeAlone, foundAlone, derivedAlone⟩ :=
    exists_derivativeAt_of_call (fresh_fits 2 1) Nat.one_pos calledAlone Nat.one_lt_two
  obtain rfl : slope = slopeAlone := Option.some.inj (found.symm.trans (same.trans foundAlone))
  have one : slope = number 1 :=
    (Except.ok.inj derivedAlone).symm.trans Scalar.one_partialReal
  have compiled : root.compile rootSeries = .ok (.call .sqrt [.input 0]) := rfl
  have enough : rootSeries.inputCount ≤ values.length := Nat.le_refl 2
  have atEdge : ¬root.StaysIdle rootSeries values [] :=
    fun stays => lt_irrefl 0 ((Expression.staysIdle_root 0 1).mp stays)
  obtain ⟨_, _, -, lost⟩ := derivativeAt_add_of_unread (fun scalar => by simp) compiled
    enough Expression.not_reads_root derived
  cases one.symm.trans (lost PartialReal.isAbsorbing atEdge)

end Gradient

end Intertemporal
