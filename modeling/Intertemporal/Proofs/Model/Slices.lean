import Mathlib.Algebra.GroupWithZero.Nat
import Intertemporal.Model.Trajectory
import Intertemporal.Proofs.Outcome
import Intertemporal.Proofs.System.Soundness

/-!
# Slices of trajectories

A trajectory is read as an array that has an entry for every date and column. The window of a model
about a date is a slice of that array, and the entries that a range evaluation gathers for an
equation are those that the system of the model reads from the slice
(`Session.windowInputs_eq_inputs`). The two go different ways: one asks for a column by its name and
for a row by its position among the rows of the window, the other has looked up places before.
-/

namespace Intertemporal

variable {α : Type}

namespace Datum

theorem length_of_shapes? : ∀ {items : List (Datum α)} {shapes : List (List Nat)},
    shapes? items = some shapes → shapes.length = items.length
  | [], shapes, shaped => by cases shaped; rfl
  | datum :: rest, shapes, shaped => by
      rw [shapes?] at shaped
      split at shaped
      · rename_i first others here there
        cases shaped
        simp [length_of_shapes? there]
      · cases shaped

mutual

/-- Nested lists of a shape hold as many data as an array of that shape. -/
theorem length_leaves : ∀ {datum : Datum α} {shape : List Nat},
    datum.shape? = some shape → datum.leaves.length = shape.prod
  | .sequence items, shape, shaped => by
      rw [shape?] at shaped
      rw [leaves]
      split at shaped
      · cases shaped
      · rename_i none
        cases shaped
        rw [length_allLeaves none]
        rfl
      · rename_i first rest found
        split at shaped
        · rename_i alike
          cases shaped
          have equal : ∀ other ∈ rest, other = first := by
            intro other member
            exact beq_iff_eq.mp (List.all_eq_true.mp alike other member)
          rw [length_allLeaves found, List.prod_cons, ← length_of_shapes? found,
            List.eq_replicate_of_mem equal]
          simp [Nat.add_comm, Nat.succ_mul]
        · cases shaped
  | .missing, _, shaped | .truth _, _, shaped | .integer _, _, shaped | .number _, _, shaped
  | .text _, _, shaped | .date _, _, shaped | .moment _, _, shaped | .mapping _ _, _, shaped => by
      cases shaped
      rfl

theorem length_allLeaves : ∀ {items : List (Datum α)} {shapes : List (List Nat)},
    shapes? items = some shapes → (allLeaves items).length = (shapes.map List.prod).sum
  | [], shapes, shaped => by cases shaped; rfl
  | datum :: rest, shapes, shaped => by
      rw [shapes?] at shaped
      split at shaped
      · rename_i first others here there
        cases shaped
        simp [allLeaves, length_leaves here, length_allLeaves there]
      · cases shaped

end

theorem isFull_of_toArray [Scalar α] {datum : Datum α} {array : NumberArray α}
    (read : datum.toArray = .ok array) : array.IsFull := by
  unfold toArray at read
  split at read
  · cases read
  · rename_i shape shaped
    rcases bind_eq_ok.mp read with ⟨entries, collected, same⟩
    cases same
    exact (mapM_eq_ok.mp collected).length_eq.symm.trans (length_leaves shaped)

end Datum

/-- What is read of a trajectory has an entry for every position. -/
theorem Trajectory.isFull_of_toArray [Scalar α] {trajectory : Trajectory α} {names : List String}
    {data : NumberArray α} (read : trajectory.toArray names = .ok data) : data.IsFull := by
  cases trajectory with
  | array datum =>
      rcases bind_eq_ok.mp read with ⟨array, converted, checked⟩
      split at checked
      · cases checked
        exact Datum.isFull_of_toArray (mapError_eq_ok.mp converted)
      · cases checked
  | table columns labels rows =>
      simp only [toArray] at read
      split at read
      · cases read
      · rcases bind_eq_ok.mp read with ⟨found, collected, same⟩
        cases same
        apply NumberArray.isFull_ofRows
        intro row member
        rcases exists_of_mem_right (mapM_eq_ok.mp (mapError_eq_ok.mp collected)) member with
          ⟨cells, _, taken⟩
        exact (mapM_eq_ok.mp taken).length_eq.symm

namespace NumberArray

/-- Consecutive rows of an array of two dimensions. -/
def slice (array : NumberArray α) (first count : Nat) : NumberArray α :=
  ⟨[count, array.columns],
    (array.entries.drop (first * array.columns)).take (count * array.columns)⟩

theorem get?_slice (array : NumberArray α) {first count row : Nat} (inside : row < count)
    (column : Nat) :
    (array.slice first count).get? row column = array.get? (first + row) column := by
  have columns : (array.slice first count).columns = array.columns := rfl
  rw [get?, get?, columns]
  split
  · rename_i columnInside
    have taken : row * array.columns + column < count * array.columns := by
      calc
        row * array.columns + column < row * array.columns + array.columns := by omega
        _ = (row + 1) * array.columns := by rw [Nat.succ_mul]
        _ ≤ count * array.columns := Nat.mul_le_mul_right _ inside
    rw [slice, List.getElem?_take_of_lt taken, List.getElem?_drop, Nat.add_mul, Nat.add_assoc]
  · rfl

end NumberArray

/-- Whether the window of a horizon about a date fits into a number of rows. -/
def Horizon.Fits (horizon : Horizon) (rows : Nat) (date : Int) : Prop :=
  horizon.lags ≤ date ∧ date + horizon.leads < rows

instance (horizon : Horizon) (rows : Nat) (date : Int) : Decidable (horizon.Fits rows date) :=
  inferInstanceAs (Decidable (_ ∧ _))

/-- The rows of a trajectory about a date, as an evaluation point. -/
def NumberArray.about (data : NumberArray α) (horizon : Horizon) (date : Int) : NumberArray α :=
  data.slice (date - horizon.lags).toNat (horizon.lags + horizon.leads + 1).toNat

namespace Session

variable {horizon : Horizon} {rows : Nat} {date : Int}

theorem position?_of_inside {size : Nat} {index : Int} (nonnegative : 0 ≤ index)
    (inside : index < size) : position? size index = some index.toNat := by
  simp only [position?, if_neg (Int.not_lt.mpr nonnegative), if_pos (And.intro nonnegative inside)]

theorem filter_range (first count after : Nat) :
    ((List.range (first + count + after)).filter fun row => first ≤ row ∧ row < first + count) =
      List.range' first count := by
  have parts : List.range (first + count + after) =
      List.range' 0 first ++ (List.range' first count ++ List.range' (first + count) after) := by
    rw [List.range_eq_range', List.range'_append_1, Nat.add_assoc, ← List.range'_append_1,
      Nat.zero_add]
  rw [parts, List.filter_append, List.filter_append, List.filter_eq_nil_iff.mpr,
    List.filter_eq_self.mpr, List.filter_eq_nil_iff.mpr, List.append_nil, List.nil_append]
  all_goals
    intro row member
    simp only [List.mem_range'_1] at member
    simp only [decide_eq_true_eq]
    omega

section Windows

variable (lags : 0 ≤ horizon.lags) (leads : 0 ≤ horizon.leads)

include lags leads

/-- A window that fits consists of consecutive rows. -/
theorem window_of_fits (fits : horizon.Fits rows date) :
    window horizon rows date =
      some (List.range' (date - horizon.lags).toNat (horizon.lags + horizon.leads + 1).toNat) := by
  rcases fits with ⟨early, late⟩
  rw [window, if_pos (by omega), if_neg (by omega)]
  have total : rows = (date - horizon.lags).toNat + (horizon.lags + horizon.leads + 1).toNat +
      (rows - (date + horizon.leads + 1)).toNat := by omega
  rw [← filter_range _ _ (rows - (date + horizon.leads + 1)).toNat, ← total]
  refine congrArg some (List.filter_congr fun row _ => ?_)
  simp only [decide_eq_decide]
  omega

omit lags leads in
theorem window_of_not_fits (outside : ¬horizon.Fits rows date) :
    window horizon rows date = none := by
  have : ¬(0 ≤ date - horizon.lags ∧ date + horizon.leads + 1 ≤ rows) := by
    intro inside
    exact outside ⟨by omega, by omega⟩
  exact if_neg this

end Windows

/-- The columns by which a range evaluation reads the references of an equation are those of the
places that the system of the model has for them. -/
theorem referenceColumns_eq {model : Model α} {equation : Equation α} {places : List Place}
    (distinct : model.columns.Nodup) (located : System.locateAll model equation = .ok places) :
    referenceColumns model.columns model.horizon equation =
      .ok (equation.references.series.zip (places.map (·.column))) := by
  have each := System.locates_of_locateAll located
  rcases bind_eq_ok.mp located with ⟨found, -, checked⟩
  split at checked
  · rename_i positions
    cases checked
    have positioned : equation.references.series.all (fun reference =>
        NumberArray.isPosition (model.horizon.lags + reference.offset)) = true := by
      rw [List.all_eq_true]
      intro reference member
      rcases exists_of_mem_left each member with ⟨place, among, here⟩
      have inWindow := here.window
      have row : (place.row : Int) = model.horizon.lags + reference.offset := by
        have := here.row
        omega
      exact row ▸ List.all_eq_true.mp positions place among
    simp only [referenceColumns, positioned, Bool.not_true, Bool.false_eq_true, if_false]
    apply mapM_eq_ok.mpr
    clear located positions positioned
    generalize equation.references.series = references at each
    induction each with
    | nil => exact .nil
    | cons here _ ih =>
        refine .cons ?_ ih
        rw [(idxOf?_eq_some_iff_of_nodup distinct).mpr here.column]
  · cases checked

/-- A range evaluation gathers the entries that the system of the model reads. -/
theorem windowInputs_eq_inputs {columns : List String} {data : NumberArray α} (full : data.IsFull)
    (shaped : data.shape = [rows, columns.length]) (fits : horizon.Fits rows date)
    {references : List TimedVariable} {places : List Place}
    (located : List.Forall₂ (System.Locates columns horizon.lags horizon.leads) references places) :
    windowInputs data horizon
        (List.range' (date - horizon.lags).toNat (horizon.lags + horizon.leads + 1).toNat)
        (references.zip (places.map (·.column))) =
      .ok (System.inputs (data.about horizon date) places) := by
  induction located with
  | nil => rfl
  | @cons reference place _ others here _ ih =>
      have inWindow := here.window
      have ofReference := here.row
      have inside : place.row < (horizon.lags + horizon.leads + 1).toNat := by omega
      have position : position? (horizon.lags + horizon.leads + 1).toNat
          (horizon.lags + reference.offset) = some place.row := by
        rw [position?_of_inside (by omega) (by omega), ofReference]
      have column := (List.getElem?_eq_some_iff.mp here.column).1
      have inData : (date - horizon.lags).toNat + place.row < rows := by
        rcases fits with ⟨early, late⟩
        omega
      rcases full.exists_get? shaped inData column with ⟨value, entry⟩
      have read : (data.about horizon date).get? place.row place.column = some value :=
        (data.get?_slice inside place.column).trans entry
      have atPosition : (List.range' (date - horizon.lags).toNat
          (horizon.lags + horizon.leads + 1).toNat)[place.row]? =
            some ((date - horizon.lags).toNat + place.row) := by
        rw [List.getElem?_range' inside, Nat.one_mul]
      have inputs : System.inputs (data.about horizon date) (place :: others) =
          value :: System.inputs (data.about horizon date) others := by
        simp [System.inputs, read]
      rw [inputs]
      refine mapM_eq_ok.mpr (.cons ?_ (mapM_eq_ok.mp ih))
      simp only [List.length_range', position, Option.bind_some, atPosition, entry]

end Session

end Intertemporal
