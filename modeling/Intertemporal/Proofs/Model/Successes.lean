import Intertemporal.Proofs.Model.Attained
import Intertemporal.Proofs.Model.Coherence

/-!
# Runs in which all requests succeed

A request that fails may leave a parameter without the value that it was declared with, or a level
whose slope could not be converted. A run in which all requests succeed leaves nothing half done:
exactly the declared parameters have an entry in the calibration, in the order of declaration, and a
trend that is not known is zero.
-/

namespace Intertemporal

variable {α : Type} [Scalar α]

/-- A model in which nothing has been left half done. -/
structure Model.IsWhole (model : Model α) : Prop where
  named : ∀ equation ∈ model.equations, equation.name ≠ ""
  calibrated : model.calibration.values.keys = model.symbols.parameterNames
  unsolved : ∀ name trend, model.steadyState.get? name = some trend → trend.solved = false →
    trend = ⟨Scalar.zero, Scalar.zero, false⟩

namespace Calibration

variable {calibration : Calibration α} {revision : Nat}

theorem values_set (pairs : List (String × Datum α)) :
    (calibration.set pairs revision).1.values = (store calibration.values pairs).1 := by
  unfold set
  split <;> rename_i stored <;> rw [stored]

/-- Values of parameters that have one already add no entries. -/
theorem keys_set {pairs : List (String × Datum α)}
    (stored : ∀ pair ∈ pairs, pair.1 ∈ calibration.values.keys) :
    (calibration.set pairs revision).1.values.keys = calibration.values.keys := by
  rw [values_set]
  generalize calibration.values = values at stored ⊢
  induction pairs generalizing values with
  | nil => rfl
  | cons pair rest ih =>
      obtain ⟨here, later⟩ := List.forall_mem_cons.mp stored
      rw [store]
      split
      · rename_i value _
        have same := Table.keys_insert_of_mem here value
        rw [ih _ (same ▸ later), same]
      · rfl

/-- A value that can be converted is stored. -/
theorem values_set_singleton {name : String} {datum : Datum α} :
    (calibration.set [(name, datum)] revision).2 = .ok () ↔
      ∃ value, coerce name datum = .ok value ∧
        (calibration.set [(name, datum)] revision).1.values =
          calibration.values.insert name value := by
  rw [values_set]
  simp only [set, store]
  rcases coerce name datum with reason | value
  · simp
  · simp

end Calibration

/-- A trend that is set as a whole takes the place of the one before. -/
theorem SteadyState.set_of_ok {trends : SteadyState α} {name : String} {level slope : Datum α}
    {solved : Bool} (stored : (trends.set name level slope solved).2 = .ok ()) :
    ∃ height incline, (trends.set name level slope solved).1 =
      trends.insert name ⟨height, incline, solved⟩ := by
  unfold set at stored ⊢
  split at stored
  · cases stored
  · split at stored
    · cases stored
    · cases stored
    · exact ⟨_, _, rfl⟩

namespace Model

variable {model later : Model α}

theorem IsWhole.of_changes (isWhole : model.IsWhole) (builtUp : model.IsBuiltUp)
    (changed : model.Changes True later) : later.IsWhole := by
  obtain ⟨named, calibrated, unsolved⟩ := isWhole
  -- a series that is declared begins with a trend of zero
  have registered : ∀ {name : String} (solved : Bool), name ∉ model.symbols.names →
      ∀ other trend, (model.steadyState.register name solved).get? other = some trend →
        trend.solved = false → trend = ⟨Scalar.zero, Scalar.zero, false⟩ := by
    intro name solved fresh other trend found unknown
    rw [SteadyState.get?_register (builtUp.notMem_keys fresh)] at found
    split at found
    · cases found
      cases unknown
      rfl
    · exact unsolved other trend found unknown
  cases changed with
  | nothing => exact ⟨named, calibrated, unsolved⟩
  | declareVariable declared =>
      obtain ⟨fresh, rfl⟩ := SymbolTable.of_addVariable declared
      exact ⟨named, calibrated, registered false fresh⟩
  | declareShock declared =>
      obtain ⟨fresh, rfl⟩ := SymbolTable.of_addShock declared
      exact ⟨named, calibrated, registered true fresh⟩
  | @declareParameter added value _ revision declared stored =>
      obtain ⟨fresh, rfl⟩ := SymbolTable.of_addParameter declared
      obtain ⟨_, _, inserted⟩ := Calibration.values_set_singleton.mp (stored trivial)
      refine ⟨named, ?_, unsolved⟩
      dsimp only
      rw [inserted, Table.keys_insert_of_notMem, calibrated]
      · simp [SymbolTable.parameterNames]
      · rw [calibrated]
        exact fun member => fresh (List.mem_append_right _ member)
  | assign declared _ =>
      refine ⟨named, ?_, unsolved⟩
      dsimp only
      rw [Calibration.keys_set, calibrated]
      rwa [calibrated]
  | @solve name level slope declared stored =>
      obtain ⟨height, incline, replaced⟩ := SteadyState.set_of_ok (stored trivial)
      refine ⟨named, calibrated, fun other trend found unknown => ?_⟩
      dsimp only at found
      rw [replaced, Table.get?_insert] at found
      split at found
      · cases found
        cases unknown
      · exact unsolved other trend found unknown
  | choose => exact ⟨named, calibrated, unsolved⟩

theorem IsWhole.of_step {before after : Session α} (isWhole : before.model.IsWhole)
    (builtUp : before.model.IsBuiltUp) (step : before.Step True after) :
    after.model.IsWhole := by
  obtain ⟨named, calibrated, unsolved⟩ := isWhole
  cases step with
  | change changed _ => exact IsWhole.of_changes ⟨named, calibrated, unsolved⟩ builtUp changed
  | state namedHere _ _ _ _ stated =>
      rw [stated]
      refine ⟨?_, calibrated, unsolved⟩
      exact List.forall_mem_append.mpr ⟨named, List.forall_mem_singleton.mpr namedHere⟩
  | recompile renewed _ _ restated =>
      rw [restated]
      refine ⟨?_, calibrated, unsolved⟩
      intro again member
      obtain ⟨equation, among, renews⟩ := exists_of_mem_right renewed member
      rw [renews]
      exact named equation among

theorem IsWhole.of_steps {origin session : Session α} (isWhole : origin.model.IsWhole)
    (builtUp : origin.model.IsBuiltUp)
    (steps : Relation.ReflTransGen (Session.Step True) origin session) :
    session.model.IsWhole := by
  induction steps with
  | refl => exact isWhole
  | tail earlier step ih => exact ih.of_step (builtUp.of_steps earlier) step

end Model

/-- The states that runs reach from a model in which nothing is declared, if all requests
succeed. -/
inductive Fulfilled [Numeral α] : Bench α → Prop
  | start (name : String) (options : Options α) : Fulfilled { session := .start name options }
  | step {bench : Bench α} (fulfilled : Fulfilled bench) (request : Request α)
      (succeeded : request.succeeds bench) : Fulfilled (request.perform bench)

namespace Fulfilled

variable [Numeral α] {bench : Bench α}

theorem attained (fulfilled : Fulfilled bench) : Attained bench := by
  induction fulfilled with
  | start name options => exact .start name options
  | step _ request succeeded ih => exact ih.step request (by rw [succeeded, Bool.or_true])

theorem run (fulfilled : Fulfilled bench) {requests : List (Request α)}
    (succeeded : bench.allSucceed requests) : Fulfilled (bench.run requests) := by
  induction requests generalizing bench with
  | nil => exact fulfilled
  | cons request rest ih =>
      obtain ⟨first, others⟩ := Bool.and_eq_true_iff.mp succeeded
      exact ih (fulfilled.step request first) others

/-- Whatever is asked for in such a run, nothing is left half done. -/
theorem isWhole (fulfilled : Fulfilled bench) : bench.session.model.IsWhole := by
  induction fulfilled with
  | start name options =>
      refine ⟨?_, rfl, ?_⟩
      · rintro equation ⟨⟩
      · rintro name trend ⟨⟩
  | step before request succeeded ih =>
      have reachable := before.attained.reachable
      have steps := request.steps_action reachable.isSound.session fun _ : True => succeeded
      rw [← request.session_perform] at steps
      exact ih.of_steps reachable.isBuiltUp steps

end Fulfilled

end Intertemporal
