import Mathlib.Algebra.BigOperators.Group.List.Lemmas
import Mathlib.Algebra.GroupWithZero.Nat
import Intertemporal.Proofs.Lists
import Intertemporal.Proofs.System.Assembly

/-!
# Matrices with arranged values

A matrix with arranged values is well formed, and looking up a row and a column finds the value that
was computed for that cell (`entry_eq_some_iff`).
-/

namespace Intertemporal

namespace Compressed

theorem length_startsFrom (start : Nat) (lengths : List Nat) :
    (startsFrom start lengths).length = lengths.length + 1 := by
  induction lengths generalizing start with
  | nil => rfl
  | cons length rest ih => simp [startsFrom, ih]

/-- A row begins where the rows before it end. -/
theorem getElem?_startsFrom (start : Nat) {lengths : List Nat} {row : Nat}
    (inRange : row ≤ lengths.length) :
    (startsFrom start lengths)[row]? = some (start + (lengths.take row).sum) := by
  induction lengths generalizing start row with
  | nil =>
      obtain rfl : row = 0 := Nat.le_zero.mp inRange
      rfl
  | cons length rest ih =>
      cases row with
      | zero => rfl
      | succ row =>
          rw [startsFrom, List.getElem?_cons_succ, ih _ (Nat.le_of_succ_le_succ inRange)]
          simp [Nat.add_assoc]

theorem le_of_mem_startsFrom {start later : Nat} {lengths : List Nat}
    (member : later ∈ startsFrom start lengths) : start ≤ later := by
  induction lengths generalizing start with
  | nil => exact Nat.le_of_eq (List.mem_singleton.mp member).symm
  | cons length rest ih =>
      rcases List.mem_cons.mp member with rfl | after
      · exact Nat.le_refl later
      · exact Nat.le_trans (Nat.le_add_right start length) (ih after)

theorem pairwise_startsFrom (start : Nat) (lengths : List Nat) :
    (startsFrom start lengths).Pairwise (· ≤ ·) := by
  induction lengths generalizing start with
  | nil => exact List.pairwise_singleton _ _
  | cons length rest ih =>
      refine List.pairwise_cons.mpr ⟨?_, ih _⟩
      intro later member
      exact Nat.le_trans (Nat.le_add_right start length) (le_of_mem_startsFrom member)

end Compressed

namespace SparseMatrix

variable {α : Type}

/-- What a matrix in compressed rows has to be: the rows begin one after another and fill the
storage, and within each row the columns increase and lie inside the matrix. -/
structure IsWellFormed (sparse : SparseMatrix α) : Prop where
  length_starts : sparse.pattern.starts.length = sparse.pattern.rows.length + 1
  first_start : sparse.pattern.starts[0]? = some 0
  last_start : sparse.pattern.starts[sparse.pattern.rows.length]? = some sparse.values.length
  starts_le : sparse.pattern.starts.Pairwise (· ≤ ·)
  length_columns : sparse.pattern.columns.length = sparse.values.length
  columns_increase : ∀ row, (sparse.columnsOf row).Pairwise (· < ·)
  columns_lt : ∀ column ∈ sparse.pattern.columns, column < sparse.width

end SparseMatrix

namespace Pattern

variable {α : Type} {pattern : Pattern}

/-- The rows of the assembled tags. -/
def taggedRows (pattern : Pattern) : List (List (Nat × Nat)) :=
  (List.range pattern.rows.length).map (Compressed.rowOf (pattern.cells.zipIdx 1))

theorem starts_eq : pattern.starts = Compressed.startsFrom 0 (pattern.taggedRows.map List.length) :=
  rfl

theorem columns_eq : pattern.columns = pattern.taggedRows.flatten.map (·.1) := rfl

theorem tags_values_eq : pattern.tags.values = pattern.taggedRows.flatten.map (·.2) := rfl

theorem length_taggedRows : pattern.taggedRows.length = pattern.rows.length := by
  rw [taggedRows, List.length_map, List.length_range]

/-- The columns that are stored in a row are those of the assembled tags. -/
theorem columnsOf_eq (width : Nat) (values : List α) (row : Nat) :
    (SparseMatrix.mk pattern width values).columnsOf row =
      (pattern.taggedRows.getD row []).map (·.1) := by
  simp only [SparseMatrix.columnsOf, starts_eq, columns_eq, List.getD_eq_getElem?_getD]
  rcases Nat.lt_or_ge row pattern.taggedRows.length with inRange | beyond
  · have lengths : (pattern.taggedRows.map List.length).length = pattern.taggedRows.length :=
      List.length_map _
    rw [Compressed.getElem?_startsFrom 0 (by omega), Compressed.getElem?_startsFrom 0 (by omega)]
    have slice := congrArg (List.map (·.1))
      (List.drop_take_succ_flatten_eq_getElem pattern.taggedRows row inRange)
    rw [List.map_drop, List.map_take] at slice
    simpa [inRange] using slice
  · rw [List.getElem?_eq_none (i := row + 1), List.getElem?_eq_none beyond]
    · simp
    · rw [Compressed.length_startsFrom, List.length_map]
      omega

theorem map_snd_filter_cellsFrom (start row : Nat) (rows : List (List Nat)) :
    ((cellsFrom start rows).filter fun cell => cell.1 == start + row).map (·.2) =
      rows.getD row [] := by
  induction rows generalizing start row with
  | nil => simp [cellsFrom]
  | cons columns rest ih =>
      rw [cellsFrom, List.filter_append, List.map_append]
      cases row with
      | zero =>
          have none :
              (cellsFrom (start + 1) rest).filter (fun cell => cell.1 == start + 0) = [] := by
            apply List.filter_eq_nil_iff.mpr
            intro cell member
            have := le_of_mem_cellsFrom member
            simp only [beq_iff_eq]
            omega
          rw [none]
          simp [List.filter_map, Function.comp_def]
      | succ row =>
          have none : (columns.map fun column => (start, column)).filter
              (fun cell => cell.1 == start + (row + 1)) = [] := by
            apply List.filter_eq_nil_iff.mpr
            intro cell member
            obtain ⟨column, _, rfl⟩ := List.mem_map.mp member
            simp
          have shifted : start + (row + 1) = start + 1 + row := by omega
          rw [none, shifted, ih]
          rfl

/-- A row stores one entry for each of its columns. -/
theorem columnsOf_perm (simple : pattern.IsSimple) (width : Nat) (values : List α) {row : Nat}
    {columns : List Nat} (ofRow : pattern.rows[row]? = some columns) :
    ((SparseMatrix.mk pattern width values).columnsOf row).Perm columns := by
  have inRange : row < pattern.rows.length := (List.getElem?_eq_some_iff.mp ofRow).1
  have stored := (Compressed.rowOf_perm (nodup_tagged simple) row).map (·.1)
  have came : (Compressed.rowEntries (pattern.cells.zipIdx 1) row).map (·.1) = columns := by
    have filtered := map_snd_filter_cellsFrom 0 row pattern.rows
    rw [List.getD_eq_getElem?_getD, ofRow, Option.getD_some, ← cells,
      ← List.zipIdx_map_fst 1 pattern.cells, List.filter_map, List.map_map,
      Nat.zero_add] at filtered
    rw [Compressed.rowEntries, List.map_map]
    exact filtered
  rw [came] at stored
  rw [columnsOf_eq, taggedRows, List.getD_eq_getElem?_getD]
  simpa [inRange] using stored

theorem exists_of_mem_cellsFrom {start : Nat} {rows : List (List Nat)} {cell : Nat × Nat}
    (member : cell ∈ cellsFrom start rows) : ∃ columns ∈ rows, cell.2 ∈ columns := by
  induction rows generalizing start with
  | nil => cases member
  | cons columns rest ih =>
      rcases List.mem_append.mp member with here | later
      · obtain ⟨column, found, rfl⟩ := List.mem_map.mp here
        exact ⟨columns, List.mem_cons_self, found⟩
      · obtain ⟨others, among, found⟩ := ih later
        exact ⟨others, List.mem_cons_of_mem columns among, found⟩

/-- The value of a cell is the one in the same place of the same row. -/
theorem mem_zip_cellsFrom {rows : List (List Nat)} {gradients : List (List α)}
    (sized : List.Forall₂ (fun columns gradient => gradient.length = columns.length) rows
      gradients) (start row column : Nat) (value : α) :
    ((start + row, column), value) ∈ (cellsFrom start rows).zip gradients.flatten ↔
      ∃ columns gradient, ∃ place : Nat,
        rows[row]? = some columns ∧ gradients[row]? = some gradient ∧
        columns[place]? = some column ∧ gradient[place]? = some value := by
  induction sized generalizing start row with
  | nil => simp [cellsFrom]
  | @cons columns gradient rest others same _ ih =>
      have sizedFirst : (columns.map fun column => (start, column)).length = gradient.length := by
        rw [List.length_map, same]
      rw [cellsFrom, List.flatten_cons, List.zip_append sizedFirst, List.mem_append]
      cases row with
      | zero =>
          constructor
          · rintro (here | later)
            · obtain ⟨place, found⟩ := List.mem_iff_getElem?.mp here
              obtain ⟨atPlace, valued⟩ := List.getElem?_zip_eq_some.mp found
              refine ⟨columns, gradient, place, rfl, rfl, ?_, valued⟩
              simpa using atPlace
            · have := le_of_mem_cellsFrom (List.of_mem_zip later).1
              simp only at this
              omega
          · rintro ⟨_, _, place, ofRow, ofGradient, atPlace, valued⟩
            cases ofRow
            cases ofGradient
            refine Or.inl (List.mem_iff_getElem?.mpr ⟨place, ?_⟩)
            exact List.getElem?_zip_eq_some.mpr ⟨by simp [atPlace], valued⟩
      | succ row =>
          have shifted : start + (row + 1) = start + 1 + row := by omega
          rw [shifted, ih]
          constructor
          · rintro (here | later)
            · obtain ⟨column', _, same'⟩ := List.mem_map.mp (List.of_mem_zip here).1
              have := congrArg Prod.fst same'
              simp only at this
              omega
            · exact later
          · exact Or.inr

variable [Scalar α]

section Arranged

variable {gradients : List (List α)}

/-- A matrix with arranged values is well formed. -/
theorem isWellFormed (simple : pattern.IsSimple) {width : Nat}
    (bounded : ∀ columns ∈ pattern.rows, ∀ column ∈ columns, column < width)
    (sized : List.Forall₂ (fun columns gradient => gradient.length = columns.length) pattern.rows
      gradients) :
    (SparseMatrix.mk pattern width (pattern.arrange gradients)).IsWellFormed := by
  have lengthRows : (pattern.taggedRows.map List.length).length = pattern.rows.length := by
    rw [List.length_map, length_taggedRows]
  have lengthValues : (pattern.arrange gradients).length = pattern.taggedRows.flatten.length := by
    rw [arrange_eq_map simple sized, tags_values_eq, List.length_map, List.length_map]
  refine ⟨?_, ?_, ?_, ?_, ?_, ?_, ?_⟩
  · rw [starts_eq, Compressed.length_startsFrom, lengthRows]
  · rw [starts_eq, Compressed.getElem?_startsFrom 0 (Nat.zero_le _)]
    rfl
  · rw [starts_eq, ← lengthRows, Compressed.getElem?_startsFrom 0 (Nat.le_refl _)]
    rw [List.take_length, Nat.zero_add, lengthValues, List.length_flatten]
  · rw [starts_eq]
    exact Compressed.pairwise_startsFrom 0 _
  · rw [lengthValues, columns_eq, List.length_map]
  · intro row
    rw [columnsOf_eq, List.getD_eq_getElem?_getD, taggedRows, List.getElem?_map]
    rcases Nat.lt_or_ge row pattern.rows.length with inRange | beyond
    · simpa [inRange] using Compressed.pairwise_rowOf (nodup_tagged simple) row
    · rw [List.getElem?_eq_none (by simpa using beyond)]
      exact List.Pairwise.nil
  · intro column member
    obtain ⟨entry, stored, rfl⟩ := List.mem_map.mp (columns_eq ▸ member)
    obtain ⟨entries, ofTags, inEntries⟩ := List.mem_flatten.mp stored
    obtain ⟨row, _, rfl⟩ := List.mem_map.mp ofTags
    have came := (Compressed.rowOf_perm (nodup_tagged simple) row).mem_iff.mp inEntries
    obtain ⟨tagged, found, rfl⟩ := List.mem_map.mp came
    have ofCells := List.fst_mem_of_mem_zipIdx (List.mem_filter.mp found).1
    obtain ⟨columns, among, inRow⟩ := exists_of_mem_cellsFrom ofCells
    exact bounded columns among _ inRow

/-- What is stored at a row and a column of a matrix with arranged values is what was computed for
that cell. -/
theorem entry_eq_some_iff (simple : pattern.IsSimple) (width : Nat)
    (sized : List.Forall₂ (fun columns gradient => gradient.length = columns.length) pattern.rows
      gradients) {row column : Nat} {value : α} :
    SparseMatrix.entry? ⟨pattern, width, pattern.arrange gradients⟩ row column = some value ↔
      ∃ columns gradient, ∃ place : Nat, pattern.rows[row]? = some columns ∧
        gradients[row]? = some gradient ∧ columns[place]? = some column ∧
        gradient[place]? = some value := by
  have stored := triples_perm simple sized width
  have lengths : gradients.flatten.length = pattern.cells.length :=
    (length_flatten_eq sized).trans length_cells.symm
  have distinct : ((pattern.cells.zip gradients.flatten).map (·.1)).Nodup := by
    rw [List.map_fst_zip (Nat.le_of_eq lengths.symm)]
    exact nodup_cellsFrom simple 0
  rw [ SparseMatrix.entry?, lookup_eq_some_iff ((stored.map (·.1)).nodup_iff.mpr distinct),
    stored.mem_iff]
  have cell := mem_zip_cellsFrom sized 0 row column value
  rw [Nat.zero_add] at cell
  exact cell

end Arranged

end Pattern

end Intertemporal
