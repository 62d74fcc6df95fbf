import Mathlib.Algebra.Group.Nat.Defs
import Intertemporal.Proofs.Expression.References
import Intertemporal.Proofs.Symbols
import Intertemporal.Proofs.System.Stability

/-!
# Sound systems

A system is sound if its places are where its references say, its columns differ, and the form of
every equation returns one derivative for each series that the equation refers to. Every form of a
sound model rests on a sound system, and building and evaluating it keep the memory sound.
-/

namespace Intertemporal

variable {α : Type}

/-- Evaluators that have an input for each reference to something keep the memory sound. -/
theorem isStable_isSound [Scalar α] (calibration : Calibration α) :
    IsStable (fun evaluator => ∃ references, evaluator.IsSound references) calibration
      Memory.IsSound where
  record _ := keeps_record _
  freshId := keeps_freshId
  storeJacobian _ _ := keeps_storeJacobian _ _
  bind := by
    rintro evaluator ⟨references, admissible⟩
    exact admissible.keeps_bind calibration
  residualAndGradient := by
    rintro evaluator ⟨references, admissible⟩ array
    exact (admissible.keeps_residualAndGradient array).weaken fun _ _ => trivial

/-- An equation with the references of its expression and an evaluator for them. -/
structure Equation.IsSound (equation : Equation α) : Prop where
  references_eq : equation.references = equation.expression.references
  evaluator : equation.evaluator.IsSound equation.references

theorem Equation.IsSound.nodup_series {equation : Equation α} (sound : equation.IsSound) :
    equation.references.series.Nodup := by
  rw [sound.references_eq]
  exact (Expression.isDistinct_references equation.expression).series

/-- A model in which names are declared once and everything is compiled from what it states. -/
structure Model.IsSound (model : Model α) : Prop where
  symbols : model.symbols.IsDistinct
  equations : ∀ equation ∈ model.equations, equation.IsSound
  registry : model.registry.IsSound

namespace EquationForm

/-- The values that follow the inputs of an equation that is evaluated as it is. -/
def levels? : EquationForm α → Option (List α)
  | .dynamic _ => some []
  | .anchored _ levels => some levels
  | .expanded .. => none

/-- A form with a value for everything that its equation refers to. -/
structure IsSound (form : EquationForm α) : Prop where
  equation : form.equation.IsSound
  levels : ∀ levels ∈ form.levels?, levels.length = form.equation.references.steadyStates.length
  expansion : ∀ equation residual gradient point,
    form = .expanded equation residual gradient point →
      gradient.length = equation.references.series.length ∧
      point.length = equation.references.series.length

theorem IsSound.exists_isSound {form : EquationForm α} (sound : form.IsSound) :
    ∃ references, form.equation.evaluator.IsSound references := ⟨_, sound.equation.evaluator⟩

/-- The form of an equation as it is stated is no expansion. -/
theorem IsFormOf.isSound {trends : SteadyState α} {equation : Equation α} {form : EquationForm α}
    (formed : form.IsFormOf trends equation) (sound : equation.IsSound) :
    form.IsSound ∧ form.levels?.isSome := by
  cases formed with
  | dynamic none =>
      refine ⟨⟨sound, ?_, ?_⟩, rfl⟩
      · rintro _ ⟨⟩
        exact (List.length_eq_zero_iff.mpr none).symm
      · rintro _ _ _ _ ⟨⟩
  | anchored collected =>
      refine ⟨⟨sound, ?_, ?_⟩, rfl⟩
      · rintro _ ⟨⟩
        rw [List.length_map]
        exact (mapM_eq_ok.mp collected).length_eq.symm
      · rintro _ _ _ _ ⟨⟩

variable [Scalar α]

/-- With an input for each series, a gradient has a derivative for each. -/
theorem IsSound.keeps_residualAndGradient {form : EquationForm α} (sound : form.IsSound)
    (inputs : List α) :
    Keeps Memory.IsSound (form.residualAndGradient inputs) fun found =>
      inputs.length = form.equation.references.series.length →
        found.2.length = form.equation.references.series.length := by
  cases form with
  | dynamic equation =>
      refine (sound.equation.evaluator.keeps_residualAndGradient _).weaken ?_
      intro found shaped sized
      rw [← sized]
      exact (List.cons.inj shaped).1.symm
  | anchored equation levels =>
      refine (sound.equation.evaluator.keeps_residualAndGradient _).bind fun found shaped => ?_
      refine .pure fun sized => ?_
      have lengths := (List.cons.inj shaped).1
      rw [List.length_append, sized] at lengths
      simp only [EquationForm.equation, List.length_take] at lengths ⊢
      omega
  | expanded equation residual gradient point =>
      exact .pure fun _ => (sound.expansion _ _ _ _ rfl).1

end EquationForm

namespace NumberArray

/-- An array with an entry for each position. -/
def IsFull (array : NumberArray α) : Prop := array.entries.length = array.shape.prod

theorem isFull_ofRows {width : Nat} {rows : List (List α)}
    (each : ∀ row ∈ rows, row.length = width) : (ofRows width rows).IsFull := by
  have flat : rows.flatten.length = rows.length * width := by
    induction rows with
    | nil => simp
    | cons row rest ih =>
        obtain ⟨first, others⟩ := List.forall_mem_cons.mp each
        rw [List.flatten_cons, List.length_append, ih others, first, List.length_cons,
          Nat.succ_mul, Nat.add_comm]
  simpa [IsFull, ofRows] using flat

/-- An array with an entry for each position has one in each row and column. -/
theorem IsFull.exists_get? {array : NumberArray α} (full : array.IsFull) {height width : Nat}
    (shaped : array.shape = [height, width]) {row column : Nat} (rowInRange : row < height)
    (columnInRange : column < width) : ∃ value, array.get? row column = some value := by
  have columnsEq : array.columns = width := by simp [columns, shaped]
  have size : array.entries.length = height * width := by simpa [IsFull, shaped] using full
  have inRange : row * width + column < array.entries.length := by
    rw [size]
    calc
      row * width + column < row * width + width := by omega
      _ = (row + 1) * width := by rw [Nat.succ_mul]
      _ ≤ height * width := Nat.mul_le_mul_right width rowInRange
  refine ⟨array.entries[row * width + column], ?_⟩
  simp [get?, columnsEq, columnInRange, inRange]

end NumberArray

namespace System

/-- A place that a reference names, in a window over the given columns. -/
structure Locates (columns : List String) (lags leads : Int) (reference : TimedVariable)
    (place : Place) : Prop where
  column : columns[place.column]? = some reference.name
  window : -lags ≤ reference.offset ∧ reference.offset ≤ leads
  row : place.row = (lags + reference.offset).toNat

/-- A system with different columns, places for all references and a form for each equation. -/
structure IsSound (system : System α) : Prop where
  columns : system.columns.Nodup
  places : List.Forall₂
    (fun equation places => List.Forall₂ (Locates system.columns system.lags system.leads)
      equation.references.series places) system.equations system.places
  forms : List.Forall₂ (fun equation form => form.equation = equation ∧ form.IsSound ∧
    form.levels?.isSome) system.equations system.forms

/-- The place that is found for a reference is where the reference says. -/
theorem locates_of_locate {model : Model α} {equation : Equation α} {reference : TimedVariable}
    {place : Place} (found : locate model equation reference = .ok place) :
    Locates model.columns model.horizon.lags model.horizon.leads reference place := by
  unfold locate at found
  split at found
  · cases found
  · rename_i column atColumn
    dsimp only at found
    split at found
    · rename_i inWindow
      cases found
      exact ⟨getElem?_of_idxOf? atColumn, inWindow, rfl⟩
    · cases found

theorem locates_of_locateAll {model : Model α} {equation : Equation α} {places : List Place}
    (found : locateAll model equation = .ok places) :
    List.Forall₂ (Locates model.columns model.horizon.lags model.horizon.leads)
      equation.references.series places := by
  obtain ⟨all, each, checked⟩ := bind_eq_ok.mp found
  split at checked
  · obtain rfl := Except.ok.inj checked
    exact (mapM_eq_ok.mp each).imp fun _ _ => locates_of_locate
  · cases checked

/-- An input is the entry of a point at the series and the offset of a reference. -/
def Reads (columns : List String) (lags : Int) (point : NumberArray α) (reference : TimedVariable)
    (input : α) : Prop :=
  ∃ column, columns[column]? = some reference.name ∧
    point.get? (lags + reference.offset).toNat column = some input

/-- A point of the right shape has an input for every reference. -/
theorem reads_inputs {columns : List String} {lags leads : Int} {point : NumberArray α}
    (full : point.IsFull) (shaped : point.shape = [(lags + leads + 1).toNat, columns.length])
    {references : List TimedVariable} {places : List Place}
    (located : List.Forall₂ (Locates columns lags leads) references places) :
    List.Forall₂ (Reads columns lags point) references (inputs point places) := by
  induction located with
  | nil => exact .nil
  | @cons reference place _ rest here _ ih =>
      have columnInRange : place.column < columns.length :=
        (List.getElem?_eq_some_iff.mp here.column).1
      have rowInRange : place.row < (lags + leads + 1).toNat := by
        have := here.window
        have := here.row
        omega
      obtain ⟨value, found⟩ := full.exists_get? shaped rowInRange columnInRange
      have first : inputs point (place :: rest) = value :: inputs point rest := by
        simp [inputs, found]
      rw [first]
      exact .cons ⟨place.column, here.column, here.row ▸ found⟩ ih

theorem shape_of_sizes {system : System α} {point : NumberArray α}
    (shaped : point.sizes = system.shape) :
    point.shape = [(system.lags + system.leads + 1).toNat, system.columns.length] := by
  have sameLength := congrArg List.length shaped
  rcases sameShape : point.shape with _ | ⟨height, _ | ⟨width, _ | _⟩⟩ <;>
    simp [NumberArray.sizes, System.shape, sameShape] at shaped sameLength ⊢
  simp only [periods] at shaped
  omega

theorem IsSound.sound_of_mem {system : System α} (sound : system.IsSound) {form : EquationForm α}
    (member : form ∈ system.forms) : form.IsSound := by
  obtain ⟨equation, _, _, formSound, _⟩ := exists_of_mem_right sound.forms member
  exact formSound

theorem IsSound.equations {system : System α} (sound : system.IsSound) :
    ∀ equation ∈ system.equations, equation.IsSound := by
  intro equation member
  obtain ⟨form, _, rfl, formSound, _⟩ := exists_of_mem_left sound.forms member
  exact formSound.equation

variable [Scalar α]

theorem keeps_ofModel {model : Model α} (sound : model.IsSound) :
    Keeps Memory.IsSound (ofModel model) fun system => system.IsSound ∧ system.IsOf model := by
  refine ((isStable_isSound model.calibration).keeps_ofModel model).weaken ?_
  rintro system ⟨isOf, formed, located⟩
  refine ⟨⟨?_, ?_, ?_⟩, isOf⟩
  · rw [isOf.columns_eq]
    exact sound.symbols.nodup_seriesNames
  · rw [isOf.equations_eq, isOf.columns_eq, isOf.lags_eq, isOf.leads_eq]
    exact (mapM_eq_ok.mp located).imp fun _ _ => locates_of_locateAll
  · rw [isOf.equations_eq]
    refine ((List.forall₂_and_left _ _).mpr ⟨sound.equations, formed⟩).imp ?_
    rintro equation form ⟨stated, isForm⟩
    exact ⟨isForm.equation_eq, isForm.isSound stated⟩

end System

namespace SteadyState

variable [Scalar α]

/-- The steady state over a window is an array with a row for every date and a column for every
series. -/
theorem point_shape {trends : SteadyState α} {names : List String} {lags leads : Int}
    {point : NumberArray α} (found : trends.point names lags leads = .ok point) :
    point.IsFull ∧ point.shape = [(lags + leads + 1).toNat, names.length] := by
  unfold SteadyState.point at found
  split at found
  · cases found
  · obtain ⟨levels, collected, stored⟩ := bind_eq_ok.mp found
    rcases listed : names.mapM trends.trend with reason | all
    · rw [listed] at collected
      cases collected
    · rw [listed] at collected
      cases collected
      cases stored
      have width : levels.length = names.length := (mapM_eq_ok.mp listed).length_eq.symm
      refine ⟨NumberArray.isFull_ofRows ?_, ?_⟩
      · intro row member
        obtain ⟨offset, _, rfl⟩ := List.mem_map.mp member
        rw [List.length_map, width]
      · simp [NumberArray.ofRows, offsetsBetween]

end SteadyState

namespace Linearization

variable [Scalar α]

/-- A linearization of a sound system, with an expansion for every equation if it is whole. -/
structure IsSound (linearization : Linearization α) : Prop where
  system : linearization.system.IsSound
  forms : List.Forall₂ (fun equation form => form.equation = equation ∧ form.IsSound ∧
    (linearization.whole → form.levels? = none)) linearization.system.equations
    linearization.forms

theorem keeps_expand {form : EquationForm α} (sound : form.IsSound) (tolerance : α)
    {point : NumberArray α} {places : List Place}
    (sized : (System.inputs point places).length = form.equation.references.series.length) :
    Keeps Memory.IsSound (expand tolerance point form.equation form places) fun expanded =>
      expanded.equation = form.equation ∧ expanded.IsSound ∧ expanded.levels? = none := by
  refine (sound.keeps_residualAndGradient _).bind fun found length => ?_
  refine .optional (keeps_record _) ?_
  refine .pure ⟨rfl, ⟨sound.equation, ?_, ?_⟩, rfl⟩
  · rintro _ ⟨⟩
  · rintro _ _ _ _ ⟨⟩
    exact ⟨length sized, sized⟩

theorem keeps_ofModel {model : Model α} (sound : model.IsSound) (whole : Bool) :
    Keeps Memory.IsSound (ofModel model whole) fun linearization =>
      linearization.IsSound ∧ linearization.system.IsOf model ∧ linearization.whole = whole := by
  refine (IsStable.keeps_checkSteadyState model).bind fun _ _ => ?_
  refine (System.keeps_ofModel sound).bind fun system built => ?_
  obtain ⟨soundSystem, ofModel⟩ := built
  refine keeps_ofExcept.bind fun point found => ?_
  refine ((isStable_isSound model.calibration).keeps_bindAll fun _ member =>
    (soundSystem.sound_of_mem member).exists_isSound).bind fun _ _ => ?_
  obtain ⟨full, shaped⟩ := SteadyState.point_shape found
  have shapedSystem :
      point.shape = [(system.lags + system.leads + 1).toNat, system.columns.length] := by
    rw [ofModel.lags_eq, ofModel.leads_eq, ofModel.columns_eq]
    exact shaped
  have expanded : Keeps Memory.IsSound
      ((system.equations.zip (system.forms.zip system.places)).mapM fun item =>
        if selects whole item.1 then
          expand model.options.tolerance point item.1 item.2.1 item.2.2
        else pure item.2.1)
      fun forms => List.Forall₂ (fun item form => form.equation = item.1 ∧ form.IsSound ∧
        (whole → form.levels? = none)) (system.equations.zip (system.forms.zip system.places))
        forms := by
    refine .mapM fun item member => ?_
    obtain ⟨equation, form, places⟩ := item
    obtain ⟨memberForm, memberPlaces⟩ := mem_zip_zip member
    obtain ⟨rfl, formSound, _⟩ := List.forall₂_zip soundSystem.forms memberForm
    refine .ite (fun _ => ?_) fun unselected => .pure ⟨rfl, formSound, ?_⟩
    · refine (keeps_expand formSound _ ?_).weaken fun _ kept =>
        ⟨kept.1, kept.2.1, fun _ => kept.2.2⟩
      have located := List.forall₂_zip soundSystem.places memberPlaces
      exact (System.reads_inputs full shapedSystem located).length_eq.symm
    · intro all
      simp [selects, all] at unselected
  refine expanded.bind fun forms formed => ?_
  refine .optional (keeps_record _) ?_
  refine (keeps_record _).bind fun _ _ => .pure ⟨⟨soundSystem, ?_⟩, ofModel, rfl⟩
  have lengthForms := soundSystem.forms.length_eq
  have lengthPlaces := soundSystem.places.length_eq
  have enough : system.equations.length ≤ (system.forms.zip system.places).length := by
    rw [List.length_zip]
    omega
  rw [← List.map_fst_zip enough]
  exact List.forall₂_map_left_iff.mpr formed

end Linearization

namespace StateSpace

variable [Scalar α]

theorem keeps_ofModel {model : Model α} (sound : model.IsSound) :
    Keeps Memory.IsSound (ofModel model) fun space => space.linearization.IsSound := by
  refine (Linearization.keeps_ofModel sound true).bind fun linearization built => ?_
  refine .guard fun _ => ?_
  have here : ∀ form ∈ linearization.forms,
      ∃ references, form.equation.evaluator.IsSound references := by
    intro form member
    obtain ⟨_, _, _, formSound, _⟩ := exists_of_mem_right built.1.forms member
    exact formSound.exists_isSound
  refine ((isStable_isSound model.calibration).keeps_residualsAndJacobian _ here _).bind
    fun found _ => ?_
  refine keeps_ofExcept.bind fun entries _ => ?_
  exact (keeps_record _).bind fun _ _ => .pure built.1

end StateSpace

namespace ModelForm

/-- A form of a model that rests on a sound system. -/
def IsSound : ModelForm α → Prop
  | .plain system => system.IsSound
  | .linearized linearization => linearization.IsSound
  | .firstOrder space => space.linearization.IsSound

theorem IsSound.sound_of_mem {form : ModelForm α} (sound : form.IsSound)
    {equationForm : EquationForm α} (member : equationForm ∈ form.forms) :
    equationForm.IsSound := by
  cases form with
  | plain system => exact System.IsSound.sound_of_mem sound member
  | linearized linearization =>
      obtain ⟨_, _, _, formSound, _⟩ :=
        exists_of_mem_right (Linearization.IsSound.forms sound) member
      exact formSound
  | firstOrder space =>
      obtain ⟨_, _, _, formSound, _⟩ :=
        exists_of_mem_right (Linearization.IsSound.forms sound) member
      exact formSound

variable [Scalar α]

theorem keeps_ofModel {model : Model α} (sound : model.IsSound) (variant : Variant) :
    Keeps Memory.IsSound (ofModel model variant) IsSound := by
  cases variant with
  | plain => exact (System.keeps_ofModel sound).map fun _ built => built.1
  | selective => exact (Linearization.keeps_ofModel sound false).map fun _ built => built.1
  | full => exact (Linearization.keeps_ofModel sound true).map fun _ built => built.1
  | firstOrder => exact (StateSpace.keeps_ofModel sound).map fun _ built => built

theorem IsSound.keeps_copy {form : ModelForm α} (sound : form.IsSound) :
    Keeps Memory.IsSound form.copy IsSound := by
  cases form with
  | plain system =>
      refine ((isStable_isSound { revision := 0 }).keeps_copy system).map fun copied same => ?_
      obtain ⟨number, rfl⟩ := same
      exact ⟨sound.columns, sound.places, sound.forms⟩
  | linearized linearization => exact .throw _
  | firstOrder space => exact .throw _

end ModelForm

end Intertemporal
