import Intertemporal.Proofs.System.Rebuilding
import Intertemporal.Proofs.System.Renumbering

/-!
# Memories that resemble each other

Two runs are compared of which the second has handed out some more numbers and bound some evaluators
earlier, and does the same from then on. What is new in either run has numbers that differ by the
width of the gap; everything else has the same number on both sides.

The memories resemble each other if evaluators that are known hold the same values on both sides,
as far as these come from the present revision of the calibration. While the calibration has not
changed since, the second memory may hold them early: the first will find the same values as soon as
it looks for them. Binding an evaluator makes up for this, so evaluators that are bound on the first
side compute the same on both.
-/

namespace Intertemporal

variable {α : Type}

/-- Two runs of which the second has handed out a number of numbers more, from the first one on.
Evaluators that are new are known if they are sound, and others may be. -/
structure Comparison (α : Type) where
  first : Nat
  width : Nat
  known : Evaluator α → Prop
  sound : ∀ evaluator, known evaluator → ∃ references, evaluator.IsSound references
  isNew : ∀ evaluator references, evaluator.IsSound references → first ≤ evaluator.id →
    known evaluator

namespace Comparison

variable (comparison : Comparison α)

/-- The number on the second side of what has a number on the first. -/
def move (number : Nat) : Nat :=
  if number < comparison.first then number else number + comparison.width

variable {comparison} {number other : Nat}

theorem move_of_lt (old : number < comparison.first) : comparison.move number = number :=
  if_pos old

theorem move_of_le (reached : comparison.first ≤ number) :
    comparison.move number = number + comparison.width :=
  if_neg (Nat.not_lt.mpr reached)

theorem move_succ (reached : comparison.first ≤ number) :
    comparison.move (number + 1) = comparison.move number + 1 := by
  rw [move_of_le reached, move_of_le (Nat.le_succ_of_le reached), Nat.add_right_comm]

theorem eq_of_move (same : comparison.move number = comparison.move other) : number = other := by
  unfold move at same
  split at same <;> split at same <;> omega

end Comparison

/-- The values that come from a revision. -/
def EvaluatorState.valuesFrom (state : EvaluatorState α) (revision : Nat) :
    Option (List (ParameterValue α)) :=
  (state.bound.filter fun bound => bound.revision == revision).map (·.values)

namespace EvaluatorState

variable {state : EvaluatorState α} {revision : Nat}

theorem valuesFrom_self (revision : Nat) (values : List (ParameterValue α))
    (gradient : Gradient α) :
    ({ bound := some { revision, values }, gradient } : EvaluatorState α).valuesFrom revision =
      some values := by
  simp [valuesFrom]

theorem valuesFrom_congr {other : EvaluatorState α} (same : other.bound = state.bound) :
    other.valuesFrom revision = state.valuesFrom revision := by
  rw [valuesFrom, valuesFrom, same]

theorem isSome_valuesFrom :
    (state.valuesFrom revision).isSome ↔ state.bound.map (·.revision) = some revision := by
  rcases held : state.bound with _ | bound <;> simp [valuesFrom, held, Option.filter]

theorem values_of_valuesFrom {values : List (ParameterValue α)}
    (found : state.valuesFrom revision = some values) :
    state.values = values ∧ state.bound.isSome := by
  rcases Option.map_eq_some_iff.mp found with ⟨bound, held, rfl⟩
  have given := (Option.filter_eq_some_iff.mp held).1
  exact ⟨by rw [EvaluatorState.values, given], Option.isSome_of_mem given⟩

/-- States of an evaluator with gradients of one size and the same values from the present revision
of a calibration. If `early` holds, the second may hold the values of the calibration where the
first holds none. -/
structure Resembles (early : Prop) (calibration : Calibration α) (evaluator : Evaluator α)
    (left right : EvaluatorState α) : Prop where
  inputs_eq : right.gradient.inputs = left.gradient.inputs
  chunk_eq : right.gradient.chunk = left.gradient.chunk
  values : right.valuesFrom calibration.revision = left.valuesFrom calibration.revision ∨
    early ∧ left.valuesFrom calibration.revision = none ∧ ∃ values,
      evaluator.parameters.mapM calibration.evaluationValue = .ok values ∧
        right.valuesFrom calibration.revision = some values

namespace Resembles

variable {early : Prop} {calibration : Calibration α} {evaluator other : Evaluator α}
  {left right after afterRight : EvaluatorState α}

theorem values_eq (resembles : Resembles early calibration evaluator left right)
    {values : List (ParameterValue α)}
    (found : left.valuesFrom calibration.revision = some values) :
    right.valuesFrom calibration.revision = some values := by
  rcases resembles.values with same | ⟨_, none, _⟩
  · rw [same, found]
  · rw [none] at found
    cases found

theorem of_bound_eq (resembles : Resembles early calibration evaluator left right)
    (same : after.bound = left.bound) (sameRight : afterRight.bound = right.bound)
    (inputs_eq : afterRight.gradient.inputs = after.gradient.inputs)
    (chunk_eq : afterRight.gradient.chunk = after.gradient.chunk) :
    Resembles early calibration evaluator after afterRight where
  inputs_eq := inputs_eq
  chunk_eq := chunk_eq
  values := by
    rw [valuesFrom_congr same, valuesFrom_congr sameRight]
    exact resembles.values

theorem of_continues (resembles : Resembles early calibration evaluator left right)
    (continues : left.Continues after) (continuesRight : right.Continues afterRight) :
    Resembles early calibration evaluator after afterRight :=
  resembles.of_bound_eq continues.bound_eq continuesRight.bound_eq
    (by rw [continues.inputs_eq, continuesRight.inputs_eq, resembles.inputs_eq])
    (by rw [continues.chunk_eq, continuesRight.chunk_eq, resembles.chunk_eq])

end Resembles

end EvaluatorState

namespace Memory

/-- A sound memory in which no values come from a revision that is yet to come. -/
structure IsStamped (calibration : Calibration α) (memory : Memory α) : Prop where
  sound : memory.IsSound
  revision : calibration.revision < memory.nextRevision
  stored : ∀ id state, memory.evaluators.get? id = some state → ∀ bound ∈ state.bound,
    bound.revision < memory.nextRevision

end Memory

variable [Scalar α]

namespace Evaluator

variable {evaluator other : Evaluator α} {calibration : Calibration α} {memory : Memory α}

theorem isCurrent_iff : evaluator.IsCurrent calibration memory ↔
    ((evaluator.stateIn memory).valuesFrom calibration.revision).isSome :=
  EvaluatorState.isSome_valuesFrom.symm

/-- What is bound has been stored, so it is the state of all evaluators with the number. -/
theorem stateIn_of_bound (bound : (evaluator.stateIn memory).bound.isSome)
    (same : other.id = evaluator.id) : other.stateIn memory = evaluator.stateIn memory := by
  unfold stateIn Table.getD at bound ⊢
  rw [same]
  rcases found : memory.evaluators.get? evaluator.id with _ | state
  · rw [found] at bound
    cases bound
  · rfl

theorem stateIn_stored_of_id_eq (state : EvaluatorState α) (same : other.id = evaluator.id) :
    other.stateIn (evaluator.storedIn state memory) = state := by
  simp [stateIn, storedIn, Table.getD, Table.get?_insert, same]

/-- With parameters, a gradient is refused or computed for values that have been stored. -/
theorem IsSound.continues_call {references : References} (admissible : evaluator.IsSound references)
    (sound : memory.IsSound) (given : ¬evaluator.parameters.isEmpty) (array : NumberArray α)
    (same : other.id = evaluator.id) :
    (other.stateIn memory).Continues
      (other.stateIn (outcome (evaluator.residualAndGradient array) memory).2) := by
  rw [outcome_residualAndGradient]
  split
  · exact ⟨rfl, rfl, rfl⟩
  · rename_i unrefused
    have bound : (evaluator.stateIn memory).bound.isSome := by
      simpa [IsUnbound, given, Option.isSome_iff_ne_none] using unrefused
    rw [stateIn_of_bound bound same, stateIn_stored_of_id_eq _ same]
    exact admissible.stateIn_continues sound _ _ array

end Evaluator

namespace Memory

variable {calibration : Calibration α} {memory after : Memory α}

namespace IsStamped

theorem bound_lt (stamped : memory.IsStamped calibration) (evaluator : Evaluator α) :
    ∀ bound ∈ (evaluator.stateIn memory).bound, bound.revision < memory.nextRevision := by
  unfold Evaluator.stateIn Table.getD
  rcases found : memory.evaluators.get? evaluator.id with _ | state
  · rintro _ ⟨⟩
  · exact stamped.stored _ _ found

omit [Scalar α] in
theorem storedIn (stamped : memory.IsStamped calibration) (evaluator : Evaluator α)
    {state : EvaluatorState α} (sound : state.gradient.IsSound)
    (bound : ∀ bound ∈ state.bound, bound.revision < memory.nextRevision) :
    (evaluator.storedIn state memory).IsStamped calibration where
  sound := Evaluator.isSound_storedIn stamped.sound sound
  revision := stamped.revision
  stored id other found := by
    rw [Evaluator.storedIn, Table.get?_insert] at found
    split at found
    · cases found
      exact bound
    · exact stamped.stored id other found

end IsStamped

theorem isStable_isStamped (calibration : Calibration α) :
    IsStable (fun evaluator => ∃ references, evaluator.IsSound references) calibration
      (IsStamped calibration) where
  record _ := .modify fun _ stamped => ⟨stamped.sound, stamped.revision, stamped.stored⟩
  freshId := fun _ stamped =>
    ⟨⟨stamped.sound, stamped.revision, stamped.stored⟩, fun _ _ => trivial⟩
  storeJacobian _ _ := .modify fun _ stamped => ⟨stamped.sound, stamped.revision, stamped.stored⟩
  bind := by
    rintro evaluator ⟨references, sound⟩ memory stamped
    refine ⟨?_, fun _ _ => trivial⟩
    rw [Evaluator.outcome_bind_eq]
    split
    · exact stamped
    · split
      · exact stamped
      · refine stamped.storedIn evaluator (sound.stateIn stamped.sound) ?_
        rintro _ ⟨⟩
        exact stamped.revision
  residualAndGradient := by
    rintro evaluator ⟨references, sound⟩ array memory stamped
    refine ⟨?_, fun _ _ => trivial⟩
    rw [Evaluator.outcome_residualAndGradient]
    split
    · exact stamped
    · exact stamped.storedIn evaluator (sound.stateIn stamped.sound).call
        (stamped.bound_lt evaluator)

/-- A stamped memory in which forms are bound to the calibration. -/
def IsReadyFor (calibration : Calibration α) (bound : List (EquationForm α)) (memory : Memory α) :
    Prop :=
  memory.IsStamped calibration ∧
    ∀ stated : { form // form ∈ bound ∧ form.levels?.isSome },
      stated.val.equation.evaluator.IsCurrent calibration memory

theorem isStable_isReadyFor (calibration : Calibration α) (bound : List (EquationForm α)) :
    IsStable (fun evaluator => ∃ references, evaluator.IsSound references) calibration
      (IsReadyFor calibration bound) :=
  (isStable_isStamped calibration).alongside fun stated =>
    stated.val.equation.evaluator.isStable_isCurrent calibration

/-- Memories that resemble each other, where some forms are bound on the first side. -/
structure Resembles (comparison : Comparison α) (early : Prop) (calibration : Calibration α)
    (bound : List (EquationForm α)) (left right : Memory α) : Prop where
  ready : left.IsReadyFor calibration bound
  stamped : right.IsStamped calibration
  nextRevision_eq : right.nextRevision = left.nextRevision
  reached : comparison.first ≤ left.nextId
  nextId_eq : right.nextId = comparison.move left.nextId
  jacobians : ∀ system : System α,
    (system.renumber comparison.move).values right = system.values left
  states : ∀ evaluator, comparison.known evaluator →
    (evaluator.stateIn left).Resembles early calibration evaluator
      ((evaluator.renumber comparison.move).stateIn right)

/-- A memory that differs from an earlier one in the state of one number at most. -/
structure Restates (evaluator : Evaluator α) (before after : Memory α) : Prop where
  nextId_eq : after.nextId = before.nextId
  nextRevision_eq : after.nextRevision = before.nextRevision
  jacobians_eq : after.jacobians = before.jacobians
  elsewhere : ∀ other : Evaluator α, other.id ≠ evaluator.id →
    other.stateIn after = other.stateIn before

theorem Restates.refl (evaluator : Evaluator α) (memory : Memory α) :
    Restates evaluator memory memory := ⟨rfl, rfl, rfl, fun _ _ => rfl⟩

theorem restates_storedIn (evaluator : Evaluator α) (state : EvaluatorState α)
    (memory : Memory α) : Restates evaluator memory (evaluator.storedIn state memory) :=
  ⟨rfl, rfl, rfl, fun _ different => Evaluator.stateIn_storedIn_of_ne _ _ different⟩

theorem restates_call (evaluator : Evaluator α) (array : NumberArray α) (memory : Memory α) :
    Restates evaluator memory (outcome (evaluator.residualAndGradient array) memory).2 := by
  rw [Evaluator.outcome_residualAndGradient]
  split
  · exact .refl _ _
  · exact restates_storedIn _ _ _

variable {comparison : Comparison α} {early : Prop} {bound : List (EquationForm α)}
  {evaluator : Evaluator α} {left right afterRight : Memory α}

/-- Memories still resemble each other if they do in the states of one number. -/
theorem Resembles.restate (resembles : left.Resembles comparison early calibration bound right)
    (ready : after.IsReadyFor calibration bound) (stamped : afterRight.IsStamped calibration)
    (restates : Restates evaluator left after)
    (restatesRight : Restates (evaluator.renumber comparison.move) right afterRight)
    (alike : ∀ other, comparison.known other → other.id = evaluator.id →
      (other.stateIn after).Resembles early calibration other
        ((other.renumber comparison.move).stateIn afterRight)) :
    after.Resembles comparison early calibration bound afterRight where
  ready := ready
  stamped := stamped
  nextRevision_eq := by
    rw [restates.nextRevision_eq, restatesRight.nextRevision_eq, resembles.nextRevision_eq]
  reached := restates.nextId_eq ▸ resembles.reached
  nextId_eq := by rw [restates.nextId_eq, restatesRight.nextId_eq, resembles.nextId_eq]
  jacobians system := by
    rw [System.values, System.values, restates.jacobians_eq, restatesRight.jacobians_eq]
    exact resembles.jacobians system
  states other here := by
    by_cases same : other.id = evaluator.id
    · exact alike other here same
    · rw [restates.elsewhere other same,
        restatesRight.elsewhere _ fun moved => same (Comparison.eq_of_move moved)]
      exact resembles.states other here

section Rules

theorem follows_record (event eventRight : Event α) :
    Matches (Resembles comparison early calibration bound) (Action.record event)
      (Action.record eventRight) fun _ _ => True := by
  intro left right resembles
  have ready := ((isStable_isReadyFor calibration bound).record event left resembles.ready).1
  have stamped := ((isStable_isStamped calibration).record eventRight right resembles.stamped).1
  exact ⟨{ resembles with ready, stamped }, .returned trivial⟩

theorem follows_freshId :
    Matches (Resembles comparison early calibration bound) (Action.freshId (α := α))
      (Action.freshId (α := α)) fun number other =>
        other = comparison.move number ∧ comparison.first ≤ number := by
  intro left right resembles
  have ready := ((isStable_isReadyFor calibration bound).freshId left resembles.ready).1
  have stamped := ((isStable_isStamped calibration).freshId right resembles.stamped).1
  have nextId_eq : right.nextId + 1 = comparison.move (left.nextId + 1) := by
    rw [Comparison.move_succ resembles.reached, resembles.nextId_eq]
  exact ⟨{ resembles with
    ready, stamped, nextId_eq, reached := Nat.le_succ_of_le resembles.reached },
    .returned ⟨resembles.nextId_eq, resembles.reached⟩⟩

theorem follows_storeJacobian (number : Nat) (values : List α) :
    Matches (Resembles comparison early calibration bound)
      (modify fun memory => { memory with jacobians := memory.jacobians.insert number values } :
        Action α PUnit)
      (modify fun memory =>
        { memory with jacobians := memory.jacobians.insert (comparison.move number) values } :
        Action α PUnit) fun _ _ => True := by
  intro left right resembles
  have ready :=
    ((isStable_isReadyFor calibration bound).storeJacobian number values left resembles.ready).1
  have stamped := ((isStable_isStamped calibration).storeJacobian (comparison.move number) values
    right resembles.stamped).1
  refine ⟨{ resembles with ready, stamped, jacobians := ?_ }, .returned trivial⟩
  intro system
  have unchanged := resembles.jacobians system
  by_cases same : system.id = number
  · simp [System.values, System.renumber, Table.getD, Table.get?_insert, same]
  · have moved : comparison.move system.id ≠ comparison.move number :=
      fun moved => same (Comparison.eq_of_move moved)
    simpa [System.values, System.renumber, Table.getD, Table.get?_insert, same, moved]
      using unchanged

end Rules

section Evaluators

variable (here : comparison.known evaluator)

include here

theorem Resembles.isCurrent (resembles : left.Resembles comparison early calibration bound right)
    (current : evaluator.IsCurrent calibration left) :
    (evaluator.renumber comparison.move).IsCurrent calibration right := by
  rcases Option.isSome_iff_exists.mp (Evaluator.isCurrent_iff.mp current) with ⟨values, found⟩
  exact Evaluator.isCurrent_iff.mpr
    (Option.isSome_of_mem ((resembles.states evaluator here).values_eq found))

/-- Binding fails on both sides, or takes the same values unless they are there already. -/
theorem follows_bind :
    Matches (Resembles comparison early calibration bound) (evaluator.bind calibration)
      ((evaluator.renumber comparison.move).bind calibration) fun _ _ => True := by
  intro left right resembles
  rcases comparison.sound evaluator here with ⟨references, sound⟩
  have ready := ((isStable_isReadyFor calibration bound).bind evaluator ⟨references, sound⟩ left
    resembles.ready).1
  have stamped := ((isStable_isStamped calibration).bind (evaluator.renumber comparison.move)
    ⟨references, sound.inputs_eq, sound.chunk_positive⟩ right resembles.stamped).1
  have states := resembles.states evaluator here
  have parameters : (evaluator.renumber comparison.move).parameters = evaluator.parameters := rfl
  rw [Evaluator.outcome_bind_eq] at ready ⊢
  rw [Evaluator.outcome_bind_eq, parameters] at stamped ⊢
  by_cases current : evaluator.IsCurrent calibration left
  · rw [if_pos current, if_pos (resembles.isCurrent here current)]
    exact ⟨resembles, .returned trivial⟩
  · have none : (evaluator.stateIn left).valuesFrom calibration.revision = none :=
      Option.not_isSome_iff_eq_none.mp (mt Evaluator.isCurrent_iff.mpr current)
    rw [if_neg current] at ready ⊢
    by_cases currentRight : (evaluator.renumber comparison.move).IsCurrent calibration right
    · -- the values that are taken now are those that the other side has taken early
      rw [if_pos currentRight] at stamped ⊢
      have some := Evaluator.isCurrent_iff.mp currentRight
      rcases states.values with same | ⟨_, _, values, taken, found⟩
      · rw [same, none] at some
        cases some
      · rw [taken] at ready ⊢
        refine ⟨resembles.restate ready stamped (restates_storedIn _ _ _) (.refl _ _) ?_,
          .returned trivial⟩
        intro other hereOther same
        have boundRight := (EvaluatorState.values_of_valuesFrom found).2
        rw [Evaluator.stateIn_stored_of_id_eq _ same,
          Evaluator.stateIn_of_bound boundRight (congrArg comparison.move same)]
        exact ⟨states.inputs_eq, states.chunk_eq,
          .inl (found.trans (EvaluatorState.valuesFrom_self _ _ _).symm)⟩
    · rw [if_neg currentRight] at stamped ⊢
      rcases taken : evaluator.parameters.mapM calibration.evaluationValue with missing | values
      · exact ⟨resembles, .failed _⟩
      · rw [taken] at ready stamped
        refine ⟨resembles.restate ready stamped (restates_storedIn _ _ _)
          (restates_storedIn _ _ _) ?_, .returned trivial⟩
        intro other hereOther same
        rw [Evaluator.stateIn_stored_of_id_eq _ same,
          Evaluator.stateIn_stored_of_id_eq _ (congrArg comparison.move same)]
        exact ⟨states.inputs_eq, states.chunk_eq, .inl
          ((EvaluatorState.valuesFrom_self _ _ _).trans
            (EvaluatorState.valuesFrom_self _ _ _).symm)⟩

/-- Whether or not values are bound on either side, a gradient leaves them as they are. -/
theorem Resembles.call (resembles : left.Resembles comparison early calibration bound right)
    (array : NumberArray α) :
    (outcome (evaluator.residualAndGradient array) left).2.Resembles comparison early calibration
      bound
      (outcome ((evaluator.renumber comparison.move).residualAndGradient array) right).2 := by
  rcases comparison.sound evaluator here with ⟨references, sound⟩
  have soundRight : (evaluator.renumber comparison.move).IsSound references :=
    ⟨sound.inputs_eq, sound.chunk_positive⟩
  have ready := ((isStable_isReadyFor calibration bound).residualAndGradient evaluator
    ⟨references, sound⟩ array left resembles.ready).1
  have stamped := ((isStable_isStamped calibration).residualAndGradient
    (evaluator.renumber comparison.move) ⟨references, soundRight⟩ array right resembles.stamped).1
  refine resembles.restate ready stamped (restates_call _ _ _) (restates_call _ _ _) ?_
  intro other hereOther same
  have moved : (other.renumber comparison.move).id = (evaluator.renumber comparison.move).id :=
    congrArg comparison.move same
  have states := resembles.states other hereOther
  by_cases free : evaluator.parameters.isEmpty
  · -- nothing needs to be bound, so both sides compute, and the sizes are those of the evaluator
    have unrefused : ∀ state, evaluator.IsUnbound state = false := by
      intro state
      rw [Evaluator.IsUnbound, free]
      rfl
    have unrefusedRight : ∀ state, (evaluator.renumber comparison.move).IsUnbound state = false :=
      unrefused
    rw [Evaluator.outcome_residualAndGradient, Evaluator.outcome_residualAndGradient, unrefused,
      unrefusedRight]
    simp only [Bool.false_eq_true, if_false]
    rw [Evaluator.stateIn_stored_of_id_eq _ same, Evaluator.stateIn_stored_of_id_eq _ moved]
    have called := (resembles.states evaluator here).of_continues
      (sound.stateIn_continues resembles.ready.1.sound evaluator.program
        (evaluator.stateIn left).values array)
      (soundRight.stateIn_continues resembles.stamped.sound evaluator.program
        ((evaluator.renumber comparison.move).stateIn right).values array)
    exact states.of_bound_eq (Evaluator.bound_of_id_eq same).symm
      (Evaluator.bound_of_id_eq moved).symm called.inputs_eq called.chunk_eq
  · exact states.of_continues (sound.continues_call resembles.ready.1.sound free array same)
      (soundRight.continues_call resembles.stamped.sound free array moved)

section Current

variable (resembles : left.Resembles comparison early calibration bound right)
  (current : evaluator.IsCurrent calibration left)

include resembles current

theorem Resembles.values_eq : ((evaluator.renumber comparison.move).stateIn right).values =
    (evaluator.stateIn left).values := by
  rcases Option.isSome_iff_exists.mp (Evaluator.isCurrent_iff.mp current) with ⟨values, found⟩
  have foundRight := (resembles.states evaluator here).values_eq found
  rw [(EvaluatorState.values_of_valuesFrom found).1,
    (EvaluatorState.values_of_valuesFrom foundRight).1]

/-- An evaluator that is current computes the same on both sides. -/
theorem Resembles.residual_eq (inputs : List α) :
    (outcome ((evaluator.renumber comparison.move).residual inputs) right).1 =
      (outcome (evaluator.residual inputs) left).1 := by
  rw [Evaluator.outcome_residual, Evaluator.outcome_residual,
    (resembles.isCurrent here current).not_isUnbound, current.not_isUnbound,
    resembles.values_eq here current]
  rfl

theorem Resembles.gradient_eq (array : NumberArray α) :
    (outcome ((evaluator.renumber comparison.move).residualAndGradient array) right).1 =
      (outcome (evaluator.residualAndGradient array) left).1 := by
  rcases comparison.sound evaluator here with ⟨references, sound⟩
  have soundRight : (evaluator.renumber comparison.move).IsSound references :=
    ⟨sound.inputs_eq, sound.chunk_positive⟩
  have states := resembles.states evaluator here
  rw [Evaluator.outcome_residualAndGradient, Evaluator.outcome_residualAndGradient,
    (resembles.isCurrent here current).not_isUnbound, current.not_isUnbound]
  simp only [Bool.false_eq_true, if_false]
  rw [resembles.values_eq here current, (sound.stateIn resembles.ready.1.sound).call_fst_congr
    (soundRight.stateIn resembles.stamped.sound) states.inputs_eq states.chunk_eq]
  rfl

end Current

end Evaluators

section Calibrations

variable {later : Prop} {changed : Calibration α}

omit [Scalar α] in
theorem IsStamped.recalibrate (stamped : memory.IsStamped calibration)
    (revision : changed.revision = memory.nextRevision) :
    { memory with nextRevision := memory.nextRevision + 1 }.IsStamped changed where
  sound := stamped.sound
  revision := by simp [revision]
  stored id state found bound held := Nat.lt_succ_of_lt (stamped.stored id state found bound held)

/-- No values come from a revision that is new. -/
theorem IsStamped.valuesFrom_eq_none (stamped : memory.IsStamped calibration)
    (evaluator : Evaluator α) :
    (evaluator.stateIn memory).valuesFrom memory.nextRevision = none := by
  rw [EvaluatorState.valuesFrom, Option.map_eq_none_iff, Option.filter_eq_none_iff]
  intro bound held
  have := stamped.bound_lt evaluator bound held
  simp only [beq_iff_eq]
  omega

theorem Resembles.mono (resembles : left.Resembles comparison early calibration bound right)
    (implies : early → later) : left.Resembles comparison later calibration bound right := by
  refine { resembles with states := fun evaluator here => ?_ }
  rcases resembles.states evaluator here with ⟨inputs_eq, chunk_eq, same | ⟨holds, taken⟩⟩
  · exact ⟨inputs_eq, chunk_eq, .inl same⟩
  · exact ⟨inputs_eq, chunk_eq, .inr ⟨implies holds, taken⟩⟩

/-- New values under a new revision are bound nowhere yet. -/
theorem Resembles.recalibrate (resembles : left.Resembles comparison early calibration [] right)
    (revision : changed.revision = left.nextRevision) :
    { left with nextRevision := left.nextRevision + 1 }.Resembles comparison later changed []
      { right with nextRevision := right.nextRevision + 1 } := by
  have same := resembles.nextRevision_eq
  refine { resembles with
    ready := ⟨resembles.ready.1.recalibrate revision, ?_⟩
    stamped := resembles.stamped.recalibrate (revision.trans same.symm)
    nextRevision_eq := congrArg (· + 1) same
    states := fun evaluator here => ?_ }
  · rintro ⟨form, member, _⟩
    cases member
  · have states := resembles.states evaluator here
    refine ⟨states.inputs_eq, states.chunk_eq, .inl ?_⟩
    have none := resembles.ready.1.valuesFrom_eq_none evaluator
    have noneRight :=
      resembles.stamped.valuesFrom_eq_none (evaluator.renumber comparison.move)
    rw [← revision] at none
    rw [same, ← revision] at noneRight
    exact noneRight.trans none.symm

/-- Where nothing is bound early, the values of the calibration do not matter. -/
theorem Resembles.revalue (resembles : left.Resembles comparison early calibration [] right)
    (settled : ¬early) (revision : changed.revision = calibration.revision) :
    left.Resembles comparison later changed [] right := by
  rcases resembles.ready.1 with ⟨sound, stamped, stored⟩
  refine { resembles with
    ready := ⟨⟨sound, revision ▸ stamped, stored⟩, ?_⟩
    stamped := ⟨resembles.stamped.sound, revision ▸ resembles.stamped.revision,
      resembles.stamped.stored⟩
    states := fun evaluator here => ?_ }
  · rintro ⟨form, member, _⟩
    cases member
  · rcases resembles.states evaluator here with ⟨inputs_eq, chunk_eq, same | ⟨holds, _⟩⟩
    · refine ⟨inputs_eq, chunk_eq, .inl ?_⟩
      rw [revision]
      exact same
    · exact absurd holds settled

end Calibrations

end Memory

end Intertemporal
