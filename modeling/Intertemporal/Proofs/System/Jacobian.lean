import Intertemporal.Proofs.System.Soundness
import Intertemporal.Proofs.System.SparseMatrix

/-!
# Jacobians of systems

The Jacobian that a system returns has the derivatives of its equations where the columns of their
series are. The columns of a system are numbered so that no two series and offsets share one, so no
place of the Jacobian has two entries, and what is stored at a place is the one derivative that was
computed for it.
-/

namespace Intertemporal

namespace SparseMatrix

variable {α : Type} [Scalar α]

/-- The entry of a matrix at a row and a column, zero where nothing is stored. -/
def dense (sparse : SparseMatrix α) (row column : Nat) : α :=
  (SparseMatrix.entry? sparse row column).getD Scalar.zero

end SparseMatrix

namespace EquationForm

variable {α : Type} [Scalar α] {form : EquationForm α} {memory after later : Memory α}

/-- An anchored equation returns part of what its evaluator returns, and leaves the same behind. -/
theorem outcome_anchored (equation : Equation α) (levels inputs : List α) :
    outcome ((anchored equation levels).residualAndGradient inputs) memory =
      let found := outcome (equation.evaluator.residualAndGradient (.ofList (inputs ++ levels)))
        memory
      (found.1.map fun result => (result.1, result.2.take equation.references.series.length),
        found.2) := by
  rw [residualAndGradient, outcome_bind]
  rcases outcome (equation.evaluator.residualAndGradient (.ofList (inputs ++ levels))) memory with
    ⟨_ | _, _⟩ <;> rfl

theorem IsSound.continues (sound : form.IsSound) (memorySound : memory.IsSound)
    (inputs : List α) : memory.Continues (outcome (form.residualAndGradient inputs) memory).2 := by
  cases form with
  | dynamic equation => exact sound.equation.evaluator.continues memorySound _
  | anchored equation levels =>
      rw [outcome_anchored]
      exact sound.equation.evaluator.continues memorySound _
  | expanded equation residual gradient point => exact .refl memory

/-- What a form returned once, it returns again in every memory that continues. -/
theorem IsSound.again (sound : form.IsSound) (memorySound : memory.IsSound) {inputs : List α}
    {found : α × List α}
    (returned : outcome (form.residualAndGradient inputs) memory = (.ok found, after))
    (soundLater : later.IsSound) (continues : after.Continues later) :
    (outcome (form.residualAndGradient inputs) later).1 = .ok found := by
  cases form with
  | dynamic equation =>
      exact sound.equation.evaluator.again memorySound returned soundLater continues
  | anchored equation levels =>
      rw [outcome_anchored] at returned ⊢
      obtain ⟨value, rfl⟩ := Prod.mk.inj returned
      rcases ran : (outcome (equation.evaluator.residualAndGradient (.ofList (inputs ++ levels)))
        memory).1 with reason | result
      · rw [ran] at value
        cases value
      · rw [ran] at value
        obtain rfl := Except.ok.inj value
        have once : (outcome (equation.evaluator.residualAndGradient (.ofList (inputs ++ levels)))
            later).1 = .ok result :=
          sound.equation.evaluator.again memorySound (Prod.ext ran rfl) soundLater continues
        dsimp only
        rw [once]
        rfl
  | expanded equation residual gradient point =>
      exact (Prod.mk.inj returned).1

/-- The gradient of an equation that is evaluated as it is begins the gradient of its evaluator,
which goes on with the derivatives with respect to steady-state levels. -/
theorem exists_components {levels inputs gradient : List α} {residual : α}
    (asStated : form.levels? = some levels)
    (sized : gradient.length = form.equation.references.series.length)
    (returned : (outcome (form.residualAndGradient inputs) memory).1 = .ok (residual, gradient)) :
    ∃ components,
      (outcome (form.equation.evaluator.residualAndGradient (.ofList (inputs ++ levels)))
        memory).1 = .ok (residual, components) ∧
      gradient = components.take form.equation.references.series.length := by
  cases form with
  | dynamic equation =>
      cases asStated
      refine ⟨gradient, ?_, ?_⟩
      · rw [List.append_nil]
        exact returned
      · rw [← sized, List.take_length]
  | anchored equation levels =>
      cases asStated
      rw [outcome_anchored] at returned
      dsimp only at returned
      rcases ran : (outcome (equation.evaluator.residualAndGradient (.ofList (inputs ++ levels)))
        memory).1 with reason | result
      · rw [ran] at returned
        cases returned
      · rw [ran] at returned
        cases returned
        exact ⟨result.2, ran, rfl⟩
  | expanded equation residual gradient point => cases asStated

end EquationForm

namespace System

variable {α : Type} {system : System α}

/-- The column of the Jacobian that belongs to a series at an offset. -/
structure IsColumnOf (system : System α) (reference : TimedVariable) (position : Nat) : Prop where
  window : -system.lags ≤ reference.offset ∧ reference.offset ≤ system.leads
  position : ∃ column, system.columns[column]? = some reference.name ∧
    position = column * system.periods.toNat + (reference.offset + system.lags).toNat

/-- A column belongs to one series at one offset. -/
theorem IsColumnOf.reference_unique {reference other : TimedVariable} {position : Nat}
    (first : system.IsColumnOf reference position) (second : system.IsColumnOf other position) :
    reference = other := by
  obtain ⟨window, column, ofName, same⟩ := first
  obtain ⟨windowOther, columnOther, ofOther, sameOther⟩ := second
  have periodsEq : system.periods = system.lags + system.leads + 1 := rfl
  have rowInRange : (reference.offset + system.lags).toNat < system.periods.toNat := by omega
  have rowInRangeOther : (other.offset + system.lags).toNat < system.periods.toNat := by omega
  have positive : 0 < system.periods.toNat := by omega
  have sameColumn : column = columnOther := by
    have quotient := congrArg (· / system.periods.toNat) (same.symm.trans sameOther)
    simpa [Nat.mul_add_div, Nat.add_comm, Nat.add_mul_div_right _ _ positive,
      Nat.div_eq_of_lt rowInRange, Nat.div_eq_of_lt rowInRangeOther] using quotient
  subst sameColumn
  have sameRow : (reference.offset + system.lags).toNat = (other.offset + system.lags).toNat := by
    omega
  have sameName := Option.some.inj (ofName.symm.trans ofOther)
  cases reference
  cases other
  simp only [TimedVariable.mk.injEq] at sameName sameRow window windowOther ⊢
  exact ⟨sameName, by omega⟩

/-- A series at an offset has one column, if the names of the columns differ. -/
theorem IsColumnOf.position_unique (distinct : system.columns.Nodup) {reference : TimedVariable}
    {position other : Nat} (first : system.IsColumnOf reference position)
    (second : system.IsColumnOf reference other) : position = other := by
  obtain ⟨_, column, ofName, rfl⟩ := first
  obtain ⟨_, columnOther, ofOther, rfl⟩ := second
  have inRange := (List.getElem?_eq_some_iff.mp ofName).1
  rw [(List.getElem?_inj inRange distinct).mp (ofName.trans ofOther.symm)]

theorem IsColumnOf.lt_width {reference : TimedVariable} {position : Nat}
    (here : system.IsColumnOf reference position) : position < system.width := by
  obtain ⟨window, column, ofName, rfl⟩ := here
  have inRange := (List.getElem?_eq_some_iff.mp ofName).1
  have periodsEq : system.periods = system.lags + system.leads + 1 := rfl
  calc
    column * system.periods.toNat + (reference.offset + system.lags).toNat
        < column * system.periods.toNat + system.periods.toNat := by omega
    _ = (column + 1) * system.periods.toNat := by rw [Nat.succ_mul]
    _ ≤ system.width := Nat.mul_le_mul_right _ inRange

theorem length_offsetsBetween (lags leads : Int) :
    (SteadyState.offsetsBetween lags leads).length = (lags + leads + 1).toNat := by
  rw [SteadyState.offsetsBetween, List.length_map, List.length_range]

theorem length_labels (system : System α) : system.labels.length = system.width := by
  have parts : system.columns.map (fun name =>
      ((SteadyState.offsetsBetween system.lags system.leads).map fun offset =>
        (⟨name, offset⟩ : TimedVariable)).length) =
      List.replicate system.columns.length system.periods.toNat := by
    rw [List.eq_replicate_iff]
    simp [length_offsetsBetween, periods]
  rw [labels, List.length_flatMap, parts, List.sum_replicate_nat, width]

/-- The label of a column is the reference that it belongs to. -/
theorem IsColumnOf.label {reference : TimedVariable} {position : Nat}
    (here : system.IsColumnOf reference position) : system.labels[position]? = some reference := by
  obtain ⟨window, column, ofName, rfl⟩ := here
  have periodsEq : system.periods = system.lags + system.leads + 1 := rfl
  have inRange :
      (reference.offset + system.lags).toNat < (system.lags + system.leads + 1).toNat := by
    omega
  have sized : ∀ name ∈ system.columns,
      ((SteadyState.offsetsBetween system.lags system.leads).map fun offset =>
        (⟨name, offset⟩ : TimedVariable)).length = system.periods.toNat := by
    intro name _
    rw [List.length_map, length_offsetsBetween, periodsEq]
  rw [labels, getElem?_flatMap sized (periodsEq ▸ inRange) ofName, List.getElem?_map,
    SteadyState.offsetsBetween, List.getElem?_map, List.getElem?_range inRange]
  cases reference
  simp only [Option.map_some, Option.some.injEq, TimedVariable.mk.injEq, true_and]
  simp only at window
  omega

theorem nodup_labels (distinct : system.columns.Nodup) : system.labels.Nodup := by
  refine List.nodup_flatMap.mpr ⟨?_, ?_⟩
  · intro name _
    refine List.Nodup.map (fun offset other same => (TimedVariable.mk.inj same).2) ?_
    exact List.Nodup.map (fun index other same => by omega) List.nodup_range
  · refine distinct.imp fun differ => ?_
    intro label first second
    obtain ⟨_, _, rfl⟩ := List.mem_map.mp first
    obtain ⟨_, _, same⟩ := List.mem_map.mp second
    exact differ (TimedVariable.mk.inj same).1.symm

theorem isColumnOf_columnOf {reference : TimedVariable} {place : Place}
    (located : Locates system.columns system.lags system.leads reference place) :
    system.IsColumnOf reference (columnOf system.periods.toNat place) := by
  refine ⟨located.window, place.column, located.column, ?_⟩
  rw [columnOf, located.row, Int.add_comm]

/-- The columns of a row of the pattern belong to the references of the equation. -/
theorem IsSound.isColumnOf (sound : system.IsSound) :
    List.Forall₂ (fun equation columns =>
      List.Forall₂ system.IsColumnOf equation.references.series columns) system.equations
      system.pattern.rows := by
  refine List.forall₂_map_right_iff.mpr (sound.places.imp fun equation places located => ?_)
  exact List.forall₂_map_right_iff.mpr (located.imp fun _ _ => isColumnOf_columnOf)

/-- No row of the pattern of a sound system repeats a column. -/
theorem IsSound.isSimple (sound : system.IsSound)
    (equations : ∀ equation ∈ system.equations, equation.IsSound) : system.pattern.IsSimple := by
  intro columns member
  obtain ⟨equation, among, located⟩ := exists_of_mem_right sound.isColumnOf member
  refine nodup_of_forall₂ ?_ located (equations equation among).nodup_series
  intro reference other position first second
  exact first.reference_unique second

theorem IsSound.lt_width (sound : system.IsSound) :
    ∀ columns ∈ system.pattern.rows, ∀ column ∈ columns, column < system.width := by
  intro columns member column inColumns
  obtain ⟨equation, _, located⟩ := exists_of_mem_right sound.isColumnOf member
  obtain ⟨reference, _, here⟩ := exists_of_mem_right located inColumns
  exact here.lt_width

/-- The pattern has a column for every derivative. -/
theorem IsSound.sized (sound : system.IsSound) {gradients : List (List α)}
    (computed : List.Forall₂ (fun equation gradient =>
      gradient.length = equation.references.series.length) system.equations gradients) :
    List.Forall₂ (fun columns gradient => gradient.length = columns.length) system.pattern.rows
      gradients := by
  refine forall₂_of_common ?_ sound.isColumnOf computed
  intro equation _ columns gradient located length
  exact length.trans located.length_eq

variable {forms : List (EquationForm α)}

theorem IsSound.equations_eq (sound : system.IsSound)
    (formed : List.Forall₂ (fun equation form => form.equation = equation ∧ form.IsSound)
      system.equations forms) :
    system.equations = (forms.zip system.places).map fun item => item.1.equation := by
  have sameLength : forms.length ≤ system.places.length := by
    rw [← formed.length_eq, ← sound.places.length_eq]
  have ofForms : system.equations = forms.map EquationForm.equation := by
    rw [← List.forall₂_eq_eq_eq, List.forall₂_map_right_iff]
    exact formed.imp fun _ _ same => same.1.symm
  rw [ofForms, ← List.map_fst_zip sameLength, List.map_map, List.map_fst_zip sameLength]
  rfl

/-- The places that go with a form are those of its equation. -/
theorem IsSound.located (sound : system.IsSound)
    (formed : List.Forall₂ (fun equation form => form.equation = equation ∧ form.IsSound)
      system.equations forms) :
    ∀ item ∈ forms.zip system.places, item.1.IsSound ∧
      List.Forall₂ (Locates system.columns system.lags system.leads)
        item.1.equation.references.series item.2 := by
  intro item member
  have paired : List.Forall₂ (fun form places => EquationForm.IsSound form ∧
      List.Forall₂ (Locates system.columns system.lags system.leads)
        form.equation.references.series places) forms system.places := by
    refine forall₂_of_common ?_ formed sound.places
    rintro _ _ form places ⟨rfl, formSound⟩ here
    exact ⟨formSound, here⟩
  exact List.forall₂_zip paired member

variable [Scalar α] {memory after : Memory α}

/-- Evaluating forms one after another keeps the memory sound, and each of them returns the same
again when all have been evaluated. -/
theorem again_of_mapM {items : List (EquationForm α × List Place)} {point : NumberArray α}
    (sound : ∀ item ∈ items, item.1.IsSound) (memorySound : memory.IsSound)
    {found : List (α × List α)}
    (returned : outcome (items.mapM fun (form, places) =>
      form.residualAndGradient (inputs point places)) memory = (.ok found, after)) :
    after.IsSound ∧ memory.Continues after ∧
      List.Forall₂ (fun item result => ∀ later, later.IsSound → after.Continues later →
        (outcome (item.1.residualAndGradient (inputs point item.2)) later).1 = .ok result)
        items found := by
  induction items generalizing memory found with
  | nil =>
      cases returned
      exact ⟨memorySound, .refl _, .nil⟩
  | cons item rest ih =>
      rw [List.mapM_cons] at returned
      obtain ⟨first, between, ran, remaining⟩ := outcome_bind_eq_ok.mp returned
      obtain ⟨others, afterwards, ranOthers, collected⟩ := outcome_bind_eq_ok.mp remaining
      obtain ⟨foundEq, rfl⟩ := Prod.mk.inj collected
      obtain rfl := Except.ok.inj foundEq
      obtain ⟨soundFirst, soundRest⟩ := List.forall_mem_cons.mp sound
      have soundBetween :=
        (soundFirst.keeps_residualAndGradient (inputs point item.2) memory memorySound).1
      have continues := soundFirst.continues memorySound (inputs point item.2)
      rw [ran] at soundBetween continues
      obtain ⟨soundAfter, continuesAfter, again⟩ := ih soundRest soundBetween ranOthers
      refine ⟨soundAfter, continues.trans continuesAfter, .cons ?_ again⟩
      intro later soundLater continuesLater
      exact soundFirst.again memorySound ran soundLater (continuesAfter.trans continuesLater)

/-- What an evaluation of a system found for an equation in one of its forms: the inputs are the
entries of the point that the references name, there is one derivative for each, and the form
returns the same again in the memory that the evaluation leaves behind. -/
structure Found (system : System α) (point : NumberArray α) (after : Memory α)
    (item : EquationForm α × List Place) (result : α × List α) : Prop where
  sound : item.1.IsSound
  reads : List.Forall₂ (Reads system.columns system.lags point) item.1.equation.references.series
    (inputs point item.2)
  length : result.2.length = item.1.equation.references.series.length
  again : (outcome (item.1.residualAndGradient (inputs point item.2)) after).1 = .ok result

/-- An evaluation that succeeds returns the residuals and the arranged derivatives that it found. -/
theorem IsSound.exists_found (sound : system.IsSound)
    (formed : List.Forall₂ (fun equation form => form.equation = equation ∧ form.IsSound)
      system.equations forms)
    (memorySound : memory.IsSound) {calibration : Calibration α} {point : NumberArray α}
    (full : point.IsFull) {residuals : List α} {matrix : SparseMatrix α}
    (returned : outcome (system.residualsAndJacobian calibration forms point) memory =
      (.ok (residuals, matrix), after)) :
    ∃ found, List.Forall₂ (system.Found point after) (forms.zip system.places) found ∧
      residuals = found.map (·.1) ∧
      matrix = ⟨system.pattern, system.width, system.pattern.arrange (found.map (·.2))⟩ := by
  unfold residualsAndJacobian at returned
  simp only [outcome_bind_eq_ok] at returned
  obtain ⟨_, checked, ranCheck, _, bound, ranBind, found, computed, ranAll, _, stored, ranStore,
    _, _, ranGet, collected⟩ := returned
  have soundForms : ∀ form ∈ forms, form.IsSound := by
    intro form member
    obtain ⟨_, _, _, formSound⟩ := exists_of_mem_right formed member
    exact formSound
  obtain ⟨soundChecked, shaped⟩ := IsStable.keeps_checkPoint system point memory memorySound
  rw [ranCheck] at soundChecked shaped
  obtain ⟨soundBound, _⟩ := (isStable_isSound calibration).keeps_bindAll
    (fun form member => (soundForms form member).exists_isSound) checked soundChecked
  rw [ranBind] at soundBound
  obtain ⟨soundComputed, _, again⟩ := again_of_mapM
    (fun item member => soundForms item.1 (List.of_mem_zip member).1) soundBound ranAll
  have storedEq := (Prod.mk.inj ranStore).2
  -- storing the values of the Jacobian touches no evaluator
  have soundStored : stored.IsSound := by
    rw [← storedEq]
    exact soundComputed
  have continues : computed.Continues stored := by
    rw [← storedEq]
    exact fun _ state known => ⟨state, known, rfl, rfl, rfl⟩
  cases ranGet
  obtain ⟨pair, rfl⟩ := Prod.mk.inj collected
  obtain ⟨rfl, rfl⟩ := Prod.mk.inj (Except.ok.inj pair)
  refine ⟨found, ?_, rfl, ?_⟩
  · have located := (List.forall₂_and_left _ _).mpr ⟨sound.located formed, again⟩
    refine located.imp fun item result each => ?_
    obtain ⟨⟨formSound, here⟩, once⟩ := each
    have reads := reads_inputs full (shape_of_sizes (shaped () rfl)) here
    have returnedAgain := once _ soundStored continues
    refine ⟨formSound, reads, ?_, returnedAgain⟩
    exact (formSound.keeps_residualAndGradient _ _ soundStored).2 _ returnedAgain
      reads.length_eq.symm
  · rw [← storedEq]
    simp [jacobian, values, Table.getD, Table.get?_insert]

/-- What a row of a Jacobian has to be: the row of an equation stores one entry for each series and
offset that the equation refers to, the derivative with respect to it, and is zero elsewhere. -/
structure IsJacobianRow (system : System α) (equation : Equation α) (gradient : List α)
    (matrix : SparseMatrix α) (row : Nat) : Prop where
  length_columns : (matrix.columnsOf row).length = equation.references.series.length
  mem_columns : ∀ position, position ∈ matrix.columnsOf row ↔
    ∃ reference ∈ equation.references.series, system.IsColumnOf reference position
  referenced : ∀ (slot : Nat) reference position,
    equation.references.series[slot]? = some reference →
    system.IsColumnOf reference position → gradient[slot]? = some (matrix.dense row position)
  other : ∀ reference position, reference ∉ equation.references.series →
    system.IsColumnOf reference position → matrix.dense row position = Scalar.zero

/-- Arranging the derivatives of the equations makes the rows of a Jacobian. -/
theorem IsSound.isJacobianRow (sound : system.IsSound) {gradients : List (List α)}
    (equations : ∀ equation ∈ system.equations, equation.IsSound)
    (computed : List.Forall₂ (fun equation gradient =>
      gradient.length = equation.references.series.length) system.equations gradients)
    {row : Nat} {equation : Equation α} {gradient : List α}
    (stated : system.equations[row]? = some equation) (ofRow : gradients[row]? = some gradient) :
    system.IsJacobianRow equation gradient
      ⟨system.pattern, system.width, system.pattern.arrange gradients⟩ row := by
  obtain ⟨columns, ofPattern, located⟩ := exists_getElem?_of_forall₂ sound.isColumnOf stated
  have simple := sound.isSimple equations
  have sized := sound.sized computed
  have stored := Pattern.columnsOf_perm simple system.width (system.pattern.arrange gradients)
    ofPattern
  have lengthGradient : gradient.length = equation.references.series.length := by
    obtain ⟨other, same, length⟩ := exists_getElem?_of_forall₂ computed stated
    obtain rfl := Option.some.inj (ofRow.symm.trans same)
    exact length
  refine ⟨stored.length_eq.trans located.length_eq.symm, ?_, ?_, ?_⟩
  · intro position
    rw [stored.mem_iff]
    constructor
    · exact exists_of_mem_right located
    · rintro ⟨reference, among, here⟩
      obtain ⟨slot, found⟩ := List.mem_iff_getElem?.mp among
      obtain ⟨other, inColumns, there⟩ := exists_getElem?_of_forall₂ located found
      rw [here.position_unique sound.columns there]
      exact List.mem_of_getElem? inColumns
  · intro slot reference position found here
    obtain ⟨other, inColumns, there⟩ := exists_getElem?_of_forall₂ located found
    obtain rfl := here.position_unique sound.columns there
    have inRange : slot < gradient.length := by
      rw [lengthGradient]
      exact (List.getElem?_eq_some_iff.mp found).1
    have entry := (Pattern.entry_eq_some_iff simple system.width sized).mpr
      ⟨columns, gradient, slot, ofPattern, ofRow, inColumns, List.getElem?_eq_getElem inRange⟩
    rw [SparseMatrix.dense, entry, Option.getD_some, List.getElem?_eq_getElem inRange]
  · intro reference position absent here
    have none : SparseMatrix.entry? ⟨system.pattern, system.width, system.pattern.arrange gradients⟩
        row position = none := by
      apply Option.eq_none_iff_forall_ne_some.mpr
      intro value entry
      obtain ⟨others, _, slot, ofOthers, _, inOthers, _⟩ :=
        (Pattern.entry_eq_some_iff simple system.width sized).mp entry
      obtain rfl := Option.some.inj (ofPattern.symm.trans ofOthers)
      obtain ⟨other, among, there⟩ :=
        exists_of_mem_right located (List.mem_of_getElem? inOthers)
      exact absent (here.reference_unique there ▸ among)
    rw [SparseMatrix.dense, none, Option.getD_none]

theorem IsSound.lengths_of_found (sound : system.IsSound) {point : NumberArray α}
    {found : List (α × List α)}
    (formed : List.Forall₂ (fun equation form => form.equation = equation ∧ form.IsSound)
      system.equations forms)
    (paired : List.Forall₂ (system.Found point after) (forms.zip system.places) found) :
    List.Forall₂ (fun equation gradient => gradient.length = equation.references.series.length)
      system.equations (found.map (·.2)) := by
  rw [sound.equations_eq formed, List.forall₂_map_left_iff, List.forall₂_map_right_iff]
  exact paired.imp fun _ _ each => each.length
end System

end Intertemporal
