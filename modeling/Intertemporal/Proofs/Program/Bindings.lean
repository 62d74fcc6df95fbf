import Intertemporal.Proofs.Invariant
import Intertemporal.Proofs.Program.Evaluators

/-!
# Bound parameter values

An evaluator holds copies of the values of its parameters, and the revision of the calibration that
they were taken from. It takes them anew only if the revision has changed. A memory serves a
calibration if copies under its present revision are its present values, so that taking no values is
as good as taking them (`Serves.mapM_of_isCurrent`). Copies are kept by the number of the evaluator,
so the invariant is about a collection of known evaluators that no two numbers confuse
(`Memory.IsOrderly`); compiling adds to the collection (`Serves.of_compile`), and all uses of known
evaluators keep the invariant.
-/

namespace Intertemporal

variable {α : Type} [Scalar α]

theorem Calibration.revision_set {calibration changed : Calibration α}
    {values : List (String × Datum α)} {revision : Nat}
    (stored : calibration.set values revision = (changed, .ok ())) :
    changed.revision = revision := by
  unfold set at stored
  split at stored
  · cases stored
    rfl
  · cases stored

namespace Evaluator

variable {evaluator other : Evaluator α} {calibration : Calibration α} {memory after : Memory α}

@[simp]
theorem stateIn_storedIn (state : EvaluatorState α) (memory : Memory α) :
    evaluator.stateIn (evaluator.storedIn state memory) = state := by
  simp [stateIn, storedIn, Table.getD, Table.get?_insert]

theorem stateIn_storedIn_of_ne (state : EvaluatorState α) (memory : Memory α)
    (different : other.id ≠ evaluator.id) :
    other.stateIn (evaluator.storedIn state memory) = other.stateIn memory := by
  simp [stateIn, storedIn, Table.getD, Table.get?_insert, different]

theorem stateIn_of_evaluators_eq (same : after.evaluators = memory.evaluators) :
    evaluator.stateIn after = evaluator.stateIn memory := by
  simp only [stateIn, same]

/-- An evaluator whose values were taken under the present revision of a calibration. -/
def IsCurrent (evaluator : Evaluator α) (calibration : Calibration α) (memory : Memory α) : Prop :=
  (evaluator.stateIn memory).bound.map (·.revision) = some calibration.revision

instance : Decidable (evaluator.IsCurrent calibration memory) :=
  inferInstanceAs (Decidable (_ = _))

/-- Binding takes the values of all parameters, unless they are current already or one is
missing. -/
theorem outcome_bind_eq :
    outcome (evaluator.bind calibration) memory =
      if evaluator.IsCurrent calibration memory then (.ok false, memory)
      else match evaluator.parameters.mapM calibration.evaluationValue with
        | .error missing => (.error (.missingValue missing), memory)
        | .ok values => (.ok true, evaluator.storedIn
            { evaluator.stateIn memory with
              bound := some { revision := calibration.revision, values } } memory) := by
  simp only [bind, outcome_bind, outcome_get]
  by_cases current : evaluator.IsCurrent calibration memory
  · rw [if_pos current, if_pos (by exact current)]
    rfl
  · rw [if_neg current, if_neg (by exact current)]
    rcases evaluator.parameters.mapM calibration.evaluationValue with missing | values <;> rfl

theorem of_bind {taken : Bool}
    (bound : outcome (evaluator.bind calibration) memory = (.ok taken, after)) :
    (evaluator.IsCurrent calibration memory ∧ after = memory) ∨
      ∃ values, evaluator.parameters.mapM calibration.evaluationValue = .ok values ∧
        after = evaluator.storedIn
          { evaluator.stateIn memory with
            bound := some { revision := calibration.revision, values } } memory := by
  rw [outcome_bind_eq] at bound
  split at bound
  · rename_i current
    left
    cases bound
    exact ⟨current, rfl⟩
  · right
    rcases found : evaluator.parameters.mapM calibration.evaluationValue with missing | values
    · rw [found] at bound
      cases bound
    · rw [found] at bound
      cases bound
      exact ⟨values, rfl, rfl⟩

theorem isCurrent_of_bind {taken : Bool}
    (bound : outcome (evaluator.bind calibration) memory = (.ok taken, after)) :
    evaluator.IsCurrent calibration after := by
  rcases of_bind bound with ⟨current, rfl⟩ | ⟨values, _, rfl⟩
  · exact current
  · simp [IsCurrent]

/-- Binding another evaluator leaves a current one current, even if they share their number. -/
theorem IsCurrent.of_bind {taken : Bool} (current : other.IsCurrent calibration memory)
    (bound : outcome (evaluator.bind calibration) memory = (.ok taken, after)) :
    other.IsCurrent calibration after := by
  rcases Evaluator.of_bind bound with ⟨_, rfl⟩ | ⟨values, _, rfl⟩
  · exact current
  · by_cases same : other.id = evaluator.id
    · simp [IsCurrent, stateIn, storedIn, Table.getD, Table.get?_insert, same]
    · rwa [IsCurrent, stateIn_storedIn_of_ne _ _ same]

end Evaluator

/-- A memory in which known evaluators have numbers of their own and gradients of their size, and
nothing has a number or a revision that has not been handed out. -/
structure Memory.IsOrderly (known : Evaluator α → Prop) (memory : Memory α) : Prop where
  numbered : ∀ evaluator, known evaluator → evaluator.id < memory.nextId
  identified : ∀ evaluator other, known evaluator → known other → evaluator.id = other.id →
    evaluator = other
  stored : ∀ id state, memory.evaluators.get? id = some state → id < memory.nextId ∧
    ∀ bound ∈ state.bound, bound.revision < memory.nextRevision
  fits : ∀ evaluator, known evaluator →
    (evaluator.stateIn memory).gradient.Fits evaluator.inputs evaluator.chunk.toNat

namespace Memory.IsOrderly

variable {known : Evaluator α → Prop} {calibration : Calibration α} {memory after : Memory α}
  {evaluator : Evaluator α}

theorem empty {known : Evaluator α → Prop} (none : ∀ evaluator, ¬known evaluator) :
    Memory.IsOrderly known {} where
  numbered evaluator here := absurd here (none evaluator)
  identified evaluator _ here := absurd here (none evaluator)
  stored id state found := by cases found
  fits evaluator here := absurd here (none evaluator)

/-- Numbers and revisions may be handed out, and anything but evaluators may change. -/
theorem of_evaluators_eq (orderly : memory.IsOrderly known)
    (same : after.evaluators = memory.evaluators) (ids : memory.nextId ≤ after.nextId)
    (revisions : memory.nextRevision ≤ after.nextRevision) : after.IsOrderly known where
  numbered evaluator here := Nat.lt_of_lt_of_le (orderly.numbered evaluator here) ids
  identified := orderly.identified
  stored id state found := by
    rw [same] at found
    obtain ⟨inRange, stamped⟩ := orderly.stored id state found
    exact ⟨Nat.lt_of_lt_of_le inRange ids,
      fun bound held => Nat.lt_of_lt_of_le (stamped bound held) revisions⟩
  fits evaluator here := by
    rw [Evaluator.stateIn_of_evaluators_eq same]
    exact orderly.fits evaluator here

theorem storedIn (orderly : memory.IsOrderly known) (here : known evaluator)
    {state : EvaluatorState α}
    (stamped : ∀ bound ∈ state.bound, bound.revision < memory.nextRevision)
    (fits : state.gradient.Fits evaluator.inputs evaluator.chunk.toNat) :
    (evaluator.storedIn state memory).IsOrderly known where
  numbered := orderly.numbered
  identified := orderly.identified
  stored id other found := by
    rw [Evaluator.storedIn, Table.get?_insert] at found
    split at found
    · rename_i same
      cases found
      rw [eq_of_beq same]
      exact ⟨orderly.numbered evaluator here, stamped⟩
    · exact orderly.stored id other found
  fits other hereOther := by
    by_cases same : other.id = evaluator.id
    · obtain rfl := orderly.identified other evaluator hereOther here same
      rw [Evaluator.stateIn_storedIn]
      exact fits
    · rw [Evaluator.stateIn_storedIn_of_ne _ _ same]
      exact orderly.fits other hereOther

theorem stamped_stateIn (orderly : memory.IsOrderly known) (evaluator : Evaluator α) :
    ∀ bound ∈ (evaluator.stateIn memory).bound, bound.revision < memory.nextRevision := by
  unfold Evaluator.stateIn Table.getD
  rcases found : memory.evaluators.get? evaluator.id with _ | state
  · rintro _ ⟨⟩
  · exact (orderly.stored _ _ found).2

/-- An evaluator that takes values from a calibration stores its revision. -/
theorem stored_bind (orderly : memory.IsOrderly known) (here : known evaluator)
    (stamped : calibration.revision < memory.nextRevision) (values : List (ParameterValue α)) :
    (evaluator.storedIn { evaluator.stateIn memory with
      bound := some { revision := calibration.revision, values } } memory).IsOrderly known := by
  refine orderly.storedIn here ?_ (orderly.fits evaluator here)
  rintro _ ⟨⟩
  exact stamped

theorem stored_call (orderly : memory.IsOrderly known) (here : known evaluator)
    (array : NumberArray α) :
    (evaluator.storedIn { evaluator.stateIn memory with
      gradient := ((evaluator.stateIn memory).gradient.call evaluator.program
        (evaluator.stateIn memory).values array).2 } memory).IsOrderly known :=
  orderly.storedIn here (orderly.stamped_stateIn evaluator)
    (Gradient.call_fits (orderly.fits evaluator here) _ _ _)

/-- Nothing is stored under a number that has not been handed out. -/
theorem stateIn_of_unused (orderly : memory.IsOrderly known)
    (unused : memory.nextId ≤ evaluator.id) :
    evaluator.stateIn memory = evaluator.initialState := by
  unfold Evaluator.stateIn Table.getD
  rcases found : memory.evaluators.get? evaluator.id with _ | state
  · rfl
  · have := (orderly.stored _ _ found).1
    omega

theorem stateIn_of_fresh (orderly : memory.IsOrderly known)
    (fresh : evaluator.id = memory.nextId) :
    evaluator.stateIn memory = evaluator.initialState :=
  orderly.stateIn_of_unused (Nat.le_of_eq fresh.symm)

/-- A new evaluator joins the known ones under the next number. -/
theorem join (orderly : memory.IsOrderly known) (fresh : evaluator.id = memory.nextId) :
    { memory with nextId := memory.nextId + 1 }.IsOrderly
      fun other => known other ∨ other = evaluator where
  numbered := by
    rintro other (old | rfl)
    · have := orderly.numbered other old
      exact Nat.lt_succ_of_lt this
    · simp [fresh]
  identified := by
    rintro other another (old | rfl) (oldAnother | rfl) same
    · exact orderly.identified other another old oldAnother same
    · have := orderly.numbered other old
      omega
    · have := orderly.numbered another oldAnother
      omega
    · rfl
  stored id state found := by
    obtain ⟨inRange, stamped⟩ := orderly.stored id state found
    exact ⟨Nat.lt_succ_of_lt inRange, stamped⟩
  fits := by
    rintro other (old | rfl)
    · exact orderly.fits other old
    · have untouched : other.stateIn { memory with nextId := memory.nextId + 1 } =
          other.initialState := orderly.stateIn_of_fresh fresh
      rw [untouched]
      exact Gradient.fresh_fits _ _

end Memory.IsOrderly

/-- An orderly memory in which known evaluators hold the present values of a calibration, where
their values come from its present revision. -/
structure Memory.Serves (known : Evaluator α → Prop) (calibration : Calibration α)
    (memory : Memory α) : Prop extends Memory.IsOrderly known memory where
  revision : calibration.revision < memory.nextRevision
  current : ∀ evaluator, known evaluator → ∀ bound ∈ (evaluator.stateIn memory).bound,
    bound.revision = calibration.revision →
      evaluator.parameters.mapM calibration.evaluationValue = .ok bound.values

namespace Memory.Serves

variable {known : Evaluator α → Prop} {calibration : Calibration α} {memory after : Memory α}
  {evaluator : Evaluator α}

theorem empty (known : Evaluator α → Prop) (none : ∀ evaluator, ¬known evaluator)
    {calibration : Calibration α} (unset : calibration.revision = 0) :
    Memory.Serves known calibration {} where
  toIsOrderly := .empty none
  revision := by simp [unset]
  current evaluator here := absurd here (none evaluator)

/-- A current evaluator holds the present values of its parameters. -/
theorem mapM_of_isCurrent (serves : memory.Serves known calibration) (here : known evaluator)
    (current : evaluator.IsCurrent calibration memory) :
    evaluator.parameters.mapM calibration.evaluationValue =
      .ok (evaluator.stateIn memory).values := by
  obtain ⟨bound, held, stamped⟩ := Option.map_eq_some_iff.mp current
  rw [serves.current evaluator here bound held stamped]
  simp only [EvaluatorState.values, held]

theorem of_evaluators_eq (serves : memory.Serves known calibration)
    (same : after.evaluators = memory.evaluators) (ids : memory.nextId ≤ after.nextId)
    (revisions : memory.nextRevision ≤ after.nextRevision) : after.Serves known calibration where
  toIsOrderly := serves.toIsOrderly.of_evaluators_eq same ids revisions
  revision := Nat.lt_of_lt_of_le serves.revision revisions
  current evaluator here := by
    rw [Evaluator.stateIn_of_evaluators_eq same]
    exact serves.current evaluator here

/-- Storing a state keeps the invariant if the state does. -/
theorem storedIn (serves : memory.Serves known calibration) (here : known evaluator)
    {state : EvaluatorState α} (orderly : (evaluator.storedIn state memory).IsOrderly known)
    (current : ∀ bound ∈ state.bound, bound.revision = calibration.revision →
      evaluator.parameters.mapM calibration.evaluationValue = .ok bound.values) :
    (evaluator.storedIn state memory).Serves known calibration where
  toIsOrderly := orderly
  revision := serves.revision
  current other hereOther := by
    by_cases same : other.id = evaluator.id
    · obtain rfl := serves.identified other evaluator hereOther here same
      rw [Evaluator.stateIn_storedIn]
      exact current
    · rw [Evaluator.stateIn_storedIn_of_ne _ _ same]
      exact serves.current other hereOther

theorem keeps_bind (here : known evaluator) :
    Keeps (Serves known calibration) (evaluator.bind calibration) fun _ => True := by
  intro memory serves
  refine ⟨?_, fun _ _ => trivial⟩
  rw [Evaluator.outcome_bind_eq]
  split
  · exact serves
  · split
    · exact serves
    · rename_i values taken
      refine serves.storedIn here (serves.stored_bind here serves.revision values) ?_
      rintro _ ⟨⟩ _
      exact taken

theorem keeps_residualAndGradient (here : known evaluator) (array : NumberArray α) :
    Keeps (Serves known calibration) (evaluator.residualAndGradient array) fun _ => True := by
  intro memory serves
  refine ⟨?_, fun _ _ => trivial⟩
  rw [Evaluator.outcome_residualAndGradient]
  split
  · exact serves
  · exact serves.storedIn here (serves.stored_call here array) (serves.current evaluator here)

/-- A new evaluator joins the known ones under the next number, and holds no values yet. -/
theorem join (serves : memory.Serves known calibration) (fresh : evaluator.id = memory.nextId) :
    { memory with nextId := memory.nextId + 1 }.Serves
      (fun other => known other ∨ other = evaluator) calibration where
  toIsOrderly := serves.toIsOrderly.join fresh
  revision := serves.revision
  current := by
    rintro other (old | rfl)
    · exact serves.current other old
    · have untouched : other.stateIn { memory with nextId := memory.nextId + 1 } =
          other.initialState := serves.stateIn_of_fresh fresh
      rw [untouched]
      rintro _ ⟨⟩

/-- Compiling adds at most one evaluator to the known ones. -/
theorem of_compile (serves : memory.Serves known calibration)
    {registry later : Registry α} (entries : ∀ entry ∈ registry.entries, known entry.evaluator)
    {name : String} {key : EvaluatorKey α}
    (returned : outcome (registry.compile name key) memory = (.ok (evaluator, later), after)) :
    after.Serves (fun other => known other ∨ other = evaluator) calibration := by
  rcases Registry.of_compile returned with ⟨found, _, rfl⟩ | ⟨-, made, _⟩
  · obtain ⟨entry, member, rfl, _⟩ := Registry.exists_entry_of_find? found
    have unchanged : (fun other => known other ∨ other = entry.evaluator) = known := by
      funext other
      apply propext
      constructor
      · rintro (old | rfl)
        · exact old
        · exact entries entry member
      · exact Or.inl
    rw [unchanged]
    exact serves.of_evaluators_eq rfl (Nat.le_refl _) (Nat.le_refl _)
  · obtain ⟨_, numberEq, rfl⟩ := Registry.of_build made
    exact serves.join numberEq

/-- New values come under a revision that no evaluator has seen. -/
theorem recalibrate (serves : memory.Serves known calibration) {changed : Calibration α}
    (stamped : changed.revision = memory.nextRevision) :
    { memory with nextRevision := memory.nextRevision + 1 }.Serves known changed where
  toIsOrderly := serves.toIsOrderly.of_evaluators_eq rfl (Nat.le_refl _) (Nat.le_succ _)
  revision := by simp [stamped]
  current evaluator here bound held same := by
    have old : bound.revision < memory.nextRevision :=
      serves.stamped_stateIn evaluator bound held
    omega

end Memory.Serves

end Intertemporal
