import Intertemporal.Proofs.Exact
import Intertemporal.Proofs.Program.Bindings

/-!
# Revisions

Any number of calibrations and evaluators are in use at once, and evaluators are bound to one
calibration after another, in any order. A desk is the state of such a run: the memory, the
calibrations and the evaluators. What an evaluator holds after it has been bound are the present
values of its parameters (`Desk.mapM_eq_values`), because no two calibrations have the same
revision and every change that succeeds comes with a new one.

A change that breaks off is different. It leaves the values that it has stored under the old
revision, so an evaluator that was bound before does not notice them. The calibrations on a desk
are marked as settled until that happens; the next change that succeeds settles them again. The
mark is no part of the calibration, it only says what has happened.
-/

namespace Intertemporal

variable {α : Type}

/-- A calibration on a desk. -/
structure Sheet (α : Type) where
  calibration : Calibration α
  /-- Whether all values were stored before the present revision was given. -/
  settled : Bool

/-- Calibrations and evaluators in use. -/
structure Desk (α : Type) where
  memory : Memory α := {}
  sheets : List (Sheet α) := []
  evaluators : List (Evaluator α) := []

/-- What is done at a desk. Calibrations and evaluators are named by their places. -/
inductive Errand (α : Type)
  | create (pairs : List (String × Datum α))
  | copy (place : Nat)
  | assign (place : Nat) (pairs : List (String × Datum α))
  | adopt (evaluator : Evaluator α)
  | bind (evaluator sheet : Nat)
  | evaluate (evaluator : Nat) (inputs : NumberArray α)

namespace Calibration

variable [Scalar α] {calibration changed : Calibration α} {pairs : List (String × Datum α)}
  {revision : Nat} {reason : ConversionError}

/-- Whether an assignment stores nothing before it fails: its first value cannot be converted. -/
def storesNothing : List (String × Datum α) → Bool
  | [] => true
  | (parameter, datum) :: _ => !(coerce parameter datum).toBool

/-- An assignment that breaks off leaves the revision as it was. -/
theorem revision_of_broken (broken : calibration.set pairs revision = (changed, .error reason)) :
    changed.revision = calibration.revision := by
  unfold set at broken
  split at broken
  · cases broken
  · cases broken
    rfl

theorem eq_of_storesNothing (broken : calibration.set pairs revision = (changed, .error reason))
    (nothing : storesNothing pairs) : changed = calibration := by
  cases pairs with
  | nil => cases broken
  | cons first rest =>
      rcases first with ⟨parameter, datum⟩
      rcases converted : coerce parameter datum with refused | value
      · simp only [set, store, converted] at broken
        cases broken
        rfl
      · simp [storesNothing, converted, Except.toBool] at nothing

theorem revision_of_ofPairs (made : ofPairs pairs revision = .ok calibration) :
    calibration.revision = revision := by
  unfold ofPairs at made
  split at made
  · cases made
    rfl
  · cases made

end Calibration

namespace Desk

variable [Scalar α]

/-- The memory after a revision has been given away. -/
def stamped (desk : Desk α) : Memory α :=
  { desk.memory with nextRevision := desk.memory.nextRevision + 1 }

/-- The desk after an errand, whether it succeeds or fails. A calibration that cannot be created
has taken a revision nevertheless; an assignment takes one only if it succeeds. -/
def perform (desk : Desk α) : Errand α → Desk α
  | .create pairs =>
    match Calibration.ofPairs pairs desk.memory.nextRevision with
    | .ok calibration =>
      { desk with memory := desk.stamped, sheets := desk.sheets ++ [⟨calibration, true⟩] }
    | .error _ => { desk with memory := desk.stamped }
  | .copy place =>
    match desk.sheets[place]? with
    | some sheet =>
      { desk with
        memory := desk.stamped
        sheets := desk.sheets ++ [⟨sheet.calibration.copy desk.memory.nextRevision, true⟩] }
    | none => desk
  | .assign place pairs =>
    match desk.sheets[place]? with
    | some sheet =>
      match sheet.calibration.set pairs desk.memory.nextRevision with
      | (calibration, .ok ()) =>
        { desk with memory := desk.stamped, sheets := desk.sheets.set place ⟨calibration, true⟩ }
      | (calibration, .error _) =>
        let settled := sheet.settled && Calibration.storesNothing pairs
        { desk with sheets := desk.sheets.set place ⟨calibration, settled⟩ }
    | none => desk
  | .adopt evaluator =>
    { desk with
      memory := { desk.memory with nextId := desk.memory.nextId + 1 }
      evaluators := desk.evaluators ++ [{ evaluator with id := desk.memory.nextId }] }
  | .bind evaluator sheet =>
    match desk.evaluators[evaluator]?, desk.sheets[sheet]? with
    | some evaluator, some sheet =>
      { desk with memory := (outcome (evaluator.bind sheet.calibration) desk.memory).2 }
    | _, _ => desk
  | .evaluate evaluator inputs =>
    match desk.evaluators[evaluator]? with
    | some evaluator =>
      { desk with memory := (outcome (evaluator.residualAndGradient inputs) desk.memory).2 }
    | none => desk

/-- The desk after errands in order. -/
def run (desk : Desk α) (errands : List (Errand α)) : Desk α := errands.foldl perform desk

/-- Calibrations have revisions of their own, and the settled ones are served. -/
structure IsOrderly (desk : Desk α) : Prop where
  memory : desk.memory.IsOrderly (· ∈ desk.evaluators)
  stamped : ∀ sheet ∈ desk.sheets, sheet.calibration.revision < desk.memory.nextRevision
  distinct : (desk.sheets.map (·.calibration.revision)).Nodup
  served : ∀ sheet ∈ desk.sheets, sheet.settled →
    desk.memory.Serves (· ∈ desk.evaluators) sheet.calibration

namespace IsOrderly

variable {desk : Desk α} {sheet : Sheet α} {evaluator : Evaluator α} {place : Nat}

theorem memory_stamped (orderly : desk.IsOrderly) :
    desk.stamped.IsOrderly (· ∈ desk.evaluators) :=
  orderly.memory.of_evaluators_eq rfl (Nat.le_refl _) (Nat.le_succ _)

theorem served_stamped (orderly : desk.IsOrderly) (among : sheet ∈ desk.sheets)
    (settled : sheet.settled) : desk.stamped.Serves (· ∈ desk.evaluators) sheet.calibration :=
  (orderly.served sheet among settled).of_evaluators_eq rfl (Nat.le_refl _) (Nat.le_succ _)

/-- No evaluator has values from a calibration whose revision is new. -/
theorem served_fresh (orderly : desk.IsOrderly) {calibration : Calibration α}
    (fresh : calibration.revision = desk.memory.nextRevision) :
    desk.stamped.Serves (· ∈ desk.evaluators) calibration where
  toIsOrderly := orderly.memory_stamped
  revision := by simp [Desk.stamped, fresh]
  current evaluator here bound held same := by
    have old : bound.revision < desk.memory.nextRevision :=
      orderly.memory.stamped_stateIn evaluator bound held
    omega

theorem notMem_revisions (orderly : desk.IsOrderly) :
    desk.memory.nextRevision ∉ desk.sheets.map (·.calibration.revision) := by
  intro member
  rcases List.mem_map.mp member with ⟨sheet, among, same⟩
  have old := orderly.stamped sheet among
  omega

/-- A calibration under a new revision joins the others. -/
theorem create (orderly : desk.IsOrderly) {calibration : Calibration α}
    (fresh : calibration.revision = desk.memory.nextRevision) :
    IsOrderly { desk with
      memory := desk.stamped, sheets := desk.sheets ++ [⟨calibration, true⟩] } where
  memory := orderly.memory_stamped
  stamped := by
    intro sheet among
    rcases List.mem_append.mp among with old | new
    · exact Nat.lt_succ_of_lt (orderly.stamped sheet old)
    · rcases List.mem_singleton.mp new with rfl
      exact Nat.lt_succ_of_le (Nat.le_of_eq fresh)
  distinct := by
    rw [List.map_append]
    apply orderly.distinct.append (List.nodup_singleton _)
    simp only [List.disjoint_singleton, fresh]
    exact orderly.notMem_revisions
  served := by
    intro sheet among settled
    rcases List.mem_append.mp among with old | new
    · exact orderly.served_stamped old settled
    · rcases List.mem_singleton.mp new with rfl
      exact orderly.served_fresh fresh

/-- An assignment that succeeds gives a calibration a new revision. -/
theorem assign (orderly : desk.IsOrderly) {calibration : Calibration α}
    (fresh : calibration.revision = desk.memory.nextRevision) :
    IsOrderly { desk with
      memory := desk.stamped, sheets := desk.sheets.set place ⟨calibration, true⟩ } where
  memory := orderly.memory_stamped
  stamped := by
    intro sheet among
    rcases List.mem_or_eq_of_mem_set among with old | rfl
    · exact Nat.lt_succ_of_lt (orderly.stamped sheet old)
    · exact Nat.lt_succ_of_le (Nat.le_of_eq fresh)
  distinct := by
    rw [List.map_set]
    apply orderly.distinct.set
    simp only [fresh]
    exact orderly.notMem_revisions
  served := by
    intro sheet among settled
    rcases List.mem_or_eq_of_mem_set among with old | rfl
    · exact orderly.served_stamped old settled
    · exact orderly.served_fresh fresh

/-- A broken assignment keeps the revision; if it has stored nothing, it changes nothing. -/
theorem break_off (orderly : desk.IsOrderly) (found : desk.sheets[place]? = some sheet)
    {pairs : List (String × Datum α)} {calibration : Calibration α} {reason : ConversionError}
    (broken : sheet.calibration.set pairs desk.memory.nextRevision =
      (calibration, .error reason)) :
    let settled := sheet.settled && Calibration.storesNothing pairs
    IsOrderly { desk with sheets := desk.sheets.set place ⟨calibration, settled⟩ } where
  memory := orderly.memory
  stamped := by
    intro other among
    rcases List.mem_or_eq_of_mem_set among with old | rfl
    · exact orderly.stamped other old
    · have kept := Calibration.revision_of_broken broken
      exact kept ▸ orderly.stamped sheet (List.mem_of_getElem? found)
  distinct := by
    rcases List.getElem?_eq_some_iff.mp found with ⟨inRange, here⟩
    have inRevisions : place < (desk.sheets.map (·.calibration.revision)).length := by
      rwa [List.length_map]
    have unchanged : calibration.revision = (desk.sheets.map (·.calibration.revision))[place] := by
      rw [List.getElem_map, here, Calibration.revision_of_broken broken]
    rw [List.map_set, unchanged, List.set_getElem_self]
    exact orderly.distinct
  served := by
    intro other among settled
    rcases List.mem_or_eq_of_mem_set among with old | rfl
    · exact orderly.served other old settled
    · simp only [Bool.and_eq_true] at settled
      have same := Calibration.eq_of_storesNothing broken settled.2
      exact same ▸ orderly.served sheet (List.mem_of_getElem? found) settled.1

theorem adopt (orderly : desk.IsOrderly) (evaluator : Evaluator α) :
    IsOrderly { desk with
      memory := { desk.memory with nextId := desk.memory.nextId + 1 }
      evaluators := desk.evaluators ++ [{ evaluator with id := desk.memory.nextId }] } := by
  have members : (· ∈ desk.evaluators ++ [{ evaluator with id := desk.memory.nextId }]) =
      fun other =>
        other ∈ desk.evaluators ∨ other = { evaluator with id := desk.memory.nextId } := by
    funext other
    simp
  refine ⟨?_, orderly.stamped, orderly.distinct, ?_⟩
  · rw [members]
    exact orderly.memory.join rfl
  · intro sheet among settled
    rw [members]
    exact (orderly.served sheet among settled).join rfl

/-- Binding to one calibration leaves alone what is said about the others. -/
theorem bind (orderly : desk.IsOrderly) (here : evaluator ∈ desk.evaluators)
    (among : sheet ∈ desk.sheets) :
    IsOrderly { desk with
      memory := (outcome (evaluator.bind sheet.calibration) desk.memory).2 } := by
  rw [Evaluator.outcome_bind_eq]
  split
  · exact orderly
  · rcases taken : evaluator.parameters.mapM sheet.calibration.evaluationValue with
      missing | values
    · exact orderly
    · have stored := orderly.memory.stored_bind here (orderly.stamped sheet among) values
      refine ⟨stored, orderly.stamped, orderly.distinct, ?_⟩
      intro other amongOther settled
      refine (orderly.served other amongOther settled).storedIn here stored ?_
      rintro _ ⟨⟩ sameRevision
      -- only one calibration has this revision
      have same := List.inj_on_of_nodup_map orderly.distinct among amongOther sameRevision
      exact same ▸ taken

theorem evaluate (orderly : desk.IsOrderly) (here : evaluator ∈ desk.evaluators)
    (inputs : NumberArray α) :
    IsOrderly { desk with
      memory := (outcome (evaluator.residualAndGradient inputs) desk.memory).2 } := by
  rw [Evaluator.outcome_residualAndGradient]
  split
  · exact orderly
  · have stored := orderly.memory.stored_call here inputs
    refine ⟨stored, orderly.stamped, orderly.distinct, ?_⟩
    intro sheet among settled
    have serves := orderly.served sheet among settled
    exact serves.storedIn here stored (serves.current evaluator here)

theorem perform (orderly : desk.IsOrderly) (errand : Errand α) :
    (desk.perform errand).IsOrderly := by
  cases errand with
  | create pairs =>
      simp only [Desk.perform]
      split
      · rename_i calibration made
        exact orderly.create (Calibration.revision_of_ofPairs made)
      · refine ⟨orderly.memory_stamped, ?_, orderly.distinct, ?_⟩
        · intro sheet among
          exact Nat.lt_succ_of_lt (orderly.stamped sheet among)
        · intro sheet among settled
          exact orderly.served_stamped among settled
  | copy place =>
      simp only [Desk.perform]
      split
      · exact orderly.create rfl
      · exact orderly
  | assign place pairs =>
      simp only [Desk.perform]
      split
      · rename_i sheet found
        split
        · rename_i calibration stored
          exact orderly.assign (Calibration.revision_set stored)
        · rename_i calibration reason broken
          exact orderly.break_off found broken
      · exact orderly
  | adopt evaluator => exact orderly.adopt evaluator
  | bind evaluator sheet =>
      simp only [Desk.perform]
      split
      · rename_i found sheet here among
        exact orderly.bind (List.mem_of_getElem? here) (List.mem_of_getElem? among)
      · exact orderly
  | evaluate evaluator inputs =>
      simp only [Desk.perform]
      split
      · rename_i found here
        exact orderly.evaluate (List.mem_of_getElem? here) inputs
      · exact orderly

theorem run (orderly : desk.IsOrderly) (errands : List (Errand α)) :
    (desk.run errands).IsOrderly := by
  induction errands generalizing desk with
  | nil => exact orderly
  | cons errand rest ih => exact ih (orderly.perform errand)

end IsOrderly

theorem isOrderly_empty : ({} : Desk α).IsOrderly := by
  refine ⟨.empty fun evaluator => List.not_mem_nil, ?_, List.nodup_nil, ?_⟩
  · intro sheet among
    cases among
  · intro sheet among
    cases among

/-- Whatever is done at a desk, an evaluator that has been bound to a calibration holds the present
values of its parameters if it took them, and also if it did not, unless an assignment of values
has broken off. -/
theorem mapM_eq_values (errands : List (Errand α)) {evaluator : Evaluator α} {sheet : Sheet α}
    (here : evaluator ∈ (run {} errands).evaluators) (among : sheet ∈ (run {} errands).sheets)
    {taken : Bool} {after : Memory α}
    (bound : outcome (evaluator.bind sheet.calibration) (run {} errands).memory =
      (.ok taken, after))
    (fresh : taken ∨ sheet.settled) :
    evaluator.parameters.mapM sheet.calibration.evaluationValue =
      .ok (evaluator.stateIn after).values := by
  have orderly : (run {} errands).IsOrderly := isOrderly_empty.run errands
  rw [Evaluator.outcome_bind_eq] at bound
  split at bound
  · rename_i current
    cases bound
    rcases fresh with impossible | settled
    · cases impossible
    · exact (orderly.served sheet among settled).mapM_of_isCurrent here current
  · rcases found : evaluator.parameters.mapM sheet.calibration.evaluationValue with
      missing | values
    · rw [found] at bound
      cases bound
    · rw [found] at bound
      cases bound
      simp [EvaluatorState.values]

/-- A compiled equation with one parameter. -/
def rated : Evaluator ℝ :=
  { id := 0, name := "rated", program := .parameter 0, inputs := 0, parameters := ["a"],
    chunk := 0 }

/-- An assignment breaks off after it has stored a value, and another one comes after it. -/
noncomputable def settledAgain : List (Errand ℝ) :=
  [.create [("a", .number 1), ("b", .number 1)], .adopt rated, .bind 0 0,
    .assign 0 [("a", .number 0), ("b", .missing), ("c", .mapping [] [])],
    .assign 0 [("b", .number 0)]]

/-- The evaluator has the value that was stored before the break. -/
theorem mapM_eq_values_settledAgain :
    ∃ sheet ∈ (run {} settledAgain).sheets, ∃ after,
      outcome (rated.bind sheet.calibration) (run {} settledAgain).memory = (.ok true, after) ∧
      rated.parameters.mapM sheet.calibration.evaluationValue = .ok [.scalar 0] ∧
      (rated.stateIn after).values = [.scalar 0] := by
  have sheets : ∃ sheet, (run {} settledAgain).sheets = [sheet] ∧ sheet.settled ∧
      rated.parameters.mapM sheet.calibration.evaluationValue = .ok [.scalar 0] ∧
      (outcome (rated.bind sheet.calibration) (run {} settledAgain).memory).1 = .ok true :=
    ⟨_, rfl, rfl, rfl, rfl⟩
  rcases sheets with ⟨sheet, only, settled, present, taken⟩
  have here : rated ∈ (run {} settledAgain).evaluators := List.mem_singleton_self _
  have among : sheet ∈ (run {} settledAgain).sheets := only ▸ List.mem_singleton_self _
  have same := mapM_eq_values settledAgain here among (Prod.ext taken rfl) (Or.inr settled)
  rw [present] at same
  exact ⟨sheet, among, _, Prod.ext taken rfl, present, (Except.ok.inj same).symm⟩

/-- Right after the break it has the value from before: it takes no values, because the revision is
still the one that it was bound under. -/
theorem mapM_ne_values_brokenOff :
    ∃ sheet ∈ (run {} (settledAgain.take 4)).sheets, ∃ after,
      outcome (rated.bind sheet.calibration) (run {} (settledAgain.take 4)).memory =
        (.ok false, after) ∧
      rated.parameters.mapM sheet.calibration.evaluationValue ≠
        .ok (rated.stateIn after).values := by
  have sheets : ∃ sheet after, (run {} (settledAgain.take 4)).sheets = [sheet] ∧
      outcome (rated.bind sheet.calibration) (run {} (settledAgain.take 4)).memory =
        (.ok false, after) ∧
      rated.parameters.mapM sheet.calibration.evaluationValue = .ok [.scalar 0] ∧
      (rated.stateIn after).values = [.scalar 1] := ⟨_, _, rfl, rfl, rfl, rfl⟩
  rcases sheets with ⟨sheet, after, only, bound, present, held⟩
  refine ⟨sheet, only ▸ List.mem_singleton_self _, after, bound, ?_⟩
  rw [present, held]
  intro same
  simp at same

end Desk

end Intertemporal
